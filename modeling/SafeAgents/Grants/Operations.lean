import SafeAgents.Grants.ProposalStore
import SafeAgents.Grants.Read
import SafeAgents.Grants.Term
import SafeAgents.Interleaving.Run

namespace SafeAgents.Grants

open Calendar Checked Interleaving Wire

inductive CeremonyError where
  | store (e : GrantError)
  | proposal (e : ProposalError)
  | standing (e : Exn)
  | value (text : String)
  | transition (text : String)
  | quarantinedGrant (text : String)
  | grantNotFound (text : String)
  | lapseNotDue (text : String)
  | lapseConflict (text : String)
  | withdrawalNotOwed (text : String)
  | withdrawalConflict (text : String)
  | demotionConflict (text : String)
  deriving DecidableEq

structure StoredRecord where
  record : PromotionRecord
  data : String
  signature : Option Json

structure CeremonyState where
  store : GrantState := {}
  signatures : String × String → Option Json := fun _ => none
  proposals : ProposalTable := fun _ => none

inductive CeremonyOp (F : Type) where
  | getGrant (principal : Principal) (actionClass : String)
  | listRecords (principal : Principal) (actionClass : String) (tsPrefix : Option String)
  | listStoredRecords (principal : Principal) (actionClass : String)
  | writeRecordAndGrant (request : WriteRequest) (signature : Option Json)
  | getProposal (principal : Principal) (actionClass proposalId : String)
  | putProposal (proposal : PromotionProposal F)
  | consumeProposal (principal : Principal) (actionClass proposalId : String) (status : ProposalStatus)

def CeremonyOp.Ret {F : Type} : CeremonyOp F → Type
  | .getGrant _ _ => GrantReadResult
  | .listRecords _ _ _ => List PromotionRecord
  | .listStoredRecords _ _ => List StoredRecord
  | .writeRecordAndGrant _ _ => Unit
  | .getProposal _ _ _ => Option (PromotionProposal F × ProposalStatus)
  | .putProposal _ => Unit
  | .consumeProposal _ _ _ _ => Unit

structure Deployment (F : Type) where
  backend : RecordBackend
  hmac : String → String
  isLabelLatency : String → Bool
  fmt : FloatFormat F
  lax : Coercion F

def listRecordsWith (backend : RecordBackend) (table : RecordTable) (principal : Principal) (actionClass : String)
    (tsPrefix : Option String) : Except GrantError (List PromotionRecord) :=
  ((partition table (recordPk backend principal actionClass)).filter fun row => tsPrefix.all fun p => row.sk.startsWith p).mapM
    (parseRow PromotionRecord.modelValidateJson)

def storedRow (signatures : String × String → Option Json) (row : RecordRow) : Except GrantError StoredRecord := do
  let record ← parseRow PromotionRecord.modelValidateJson row
  return { record, data := row.data, signature := signatures (row.pk,row.sk) }

def listStoredRecords (backend : RecordBackend) (s : CeremonyState) (principal : Principal) (actionClass : String) :
    Except GrantError (List StoredRecord) :=
  (partition s.store.records (recordPk backend principal actionClass)).mapM (storedRow s.signatures)

abbrev Ceremony (F : Type) := Prog (CeremonyOp F) CeremonyOp.Ret CeremonyError

def raised {ε α : Type} (wrap : ε → CeremonyError) : Except ε α → Except CeremonyError α
  | .ok a => .ok a
  | .error e => .error (wrap e)

namespace Deployment
variable {F : Type} (d : Deployment F)

def validate : String → Option GrantDocument := GrantDocument.modelValidateJson d.isLabelLatency

def signed (s : CeremonyState) (q : WriteRequest) (signature : Option Json) : String × String → Option Json :=
  Function.update s.signatures (recordPk d.backend q.record.principal q.record.actionClass,recordSk q.record) signature

def perform : (o : CeremonyOp F) → CeremonyState → Except CeremonyError o.Ret × CeremonyState
  | .getGrant principal actionClass, s =>
    (raised .store (getGrant d.hmac d.validate d.backend s.store principal actionClass),s)
  | .listRecords principal actionClass tsPrefix, s =>
    (raised .store (listRecordsWith d.backend s.store.records principal actionClass tsPrefix),s)
  | .listStoredRecords principal actionClass, s =>
    (raised .store (Grants.listStoredRecords d.backend s principal actionClass),s)
  | .writeRecordAndGrant q signature, s =>
    match writeRecordAndGrant d.hmac d.validate d.backend s.store q with
    | .error e => (.error (.store e),s)
    | .ok store => (.ok (),{ s with store, signatures := d.signed s q signature })
  | .getProposal principal actionClass proposalId, s =>
    (raised .proposal (getProposal d.fmt d.lax d.hmac s.proposals principal actionClass proposalId),s)
  | .putProposal p, s =>
    match putProposal d.fmt d.hmac s.proposals p with
    | .error e => (.error (.proposal e),s)
    | .ok proposals => (.ok (),{ s with proposals })
  | .consumeProposal principal actionClass proposalId status, s =>
    match consumeProposal d.backend s.proposals principal actionClass proposalId status with
    | .error e => (.error (.proposal e),s)
    | .ok proposals => (.ok (),{ s with proposals })

def device : Device (CeremonyOp F) CeremonyOp.Ret CeremonyError CeremonyState where
  Input := fun _ => Unit
  perform := fun o _ s => d.perform o s

end Deployment

section Calls
variable {F : Type}

def getGrantOp (principal : Principal) (actionClass : String) : Ceremony F GrantReadResult := .call (CeremonyOp.getGrant principal actionClass)

def listRecordsOp (principal : Principal) (actionClass : String) (tsPrefix : Option String := none) :
    Ceremony F (List PromotionRecord) := .call (CeremonyOp.listRecords principal actionClass tsPrefix)

def listStoredRecordsOp (principal : Principal) (actionClass : String) : Ceremony F (List StoredRecord) :=
  .call (CeremonyOp.listStoredRecords principal actionClass)

def writeOp (q : WriteRequest) (signature : Option Json) : Ceremony F Unit := .call (CeremonyOp.writeRecordAndGrant q signature)

def judge {ε α : Type} (wrap : ε → CeremonyError) (r : Except ε α) : Ceremony F α := .finish (raised wrap r)

def stampAfter (wall : Int) (records : List PromotionRecord) : Except GrantError String := do
  let recorded ← records.mapM recordedInstant
  let next ← advance wall recorded
  return isoformat next

-- next_ledger_ts as the stores see it: the clock is read first, then the coordinate's ledger.
def ledgerTs (principal : Principal) (actionClass : String) (now : Reading) : Ceremony F String := do
  let wall ← judge .store (wallClock now)
  let records ← listRecordsOp principal actionClass
  judge .store (stampAfter wall records)

end Calls

section Lemmas
variable {F : Type} {d : Deployment F} {s : CeremonyState}

theorem raised_ok {ε α : Type} {wrap : ε → CeremonyError} {r : Except ε α} {a : α} : raised wrap r = .ok a ↔ r = .ok a := by
  cases r with
  | ok b => simp [raised]
  | error e => simp [raised]

theorem listRecordsWith_none (backend : RecordBackend) (table : RecordTable) (principal : Principal) (actionClass : String) :
    listRecordsWith backend table principal actionClass none =
      listRecords backend PromotionRecord.modelValidateJson table principal actionClass := by
  simp [listRecordsWith,listRecords]

theorem nextLedgerTs_eq (backend : RecordBackend) (validate : String → Option PromotionRecord) (table : RecordTable)
    (principal : Principal) (actionClass : String) (now : Reading) :
    nextLedgerTs backend validate table principal actionClass now = (do
      let wall ← wallClock now
      let records ← listRecords backend validate table principal actionClass
      stampAfter wall records) := rfl

@[simp] theorem exec_judge {ε α : Type} (wrap : ε → CeremonyError) (r : Except ε α) :
    (judge wrap r : Ceremony F α).exec d.perform s = (raised wrap r,s) := Prog.exec_finish _ _ _

@[simp] theorem exec_getGrant (principal : Principal) (actionClass : String) :
    (getGrantOp principal actionClass : Ceremony F GrantReadResult).exec d.perform s =
      (raised .store (getGrant d.hmac d.validate d.backend s.store principal actionClass),s) := Prog.exec_call _ _ _

@[simp] theorem exec_listStoredRecords (principal : Principal) (actionClass : String) :
    (listStoredRecordsOp principal actionClass : Ceremony F (List StoredRecord)).exec d.perform s =
      (raised .store (Grants.listStoredRecords d.backend s principal actionClass),s) := Prog.exec_call _ _ _

theorem exec_ledgerTs (principal : Principal) (actionClass : String) (now : Reading) :
    (ledgerTs principal actionClass now : Ceremony F String).exec d.perform s =
      (raised .store
        (nextLedgerTs d.backend PromotionRecord.modelValidateJson s.store.records principal actionClass now),s) := by
  rw [ledgerTs,nextLedgerTs_eq,Prog.exec_bind,exec_judge]
  cases wallClock now with
  | error e => rfl
  | ok wall =>
    have hlist : (listRecordsOp principal actionClass : Ceremony F (List PromotionRecord)).exec d.perform s =
        (raised .store (listRecords d.backend PromotionRecord.modelValidateJson s.store.records principal actionClass),s) := by
      rw [← listRecordsWith_none]
      exact Prog.exec_call _ _ _
    simp only [raised,Prog.andThen_ok,Prog.exec_bind,hlist]
    cases hread : listRecords d.backend PromotionRecord.modelValidateJson s.store.records principal actionClass with
    | error e => rfl
    | ok records =>
      simp only [raised,Prog.andThen_ok,exec_judge]
      rfl

theorem exec_write_ok {q : WriteRequest} {signature : Option Json} {store : GrantState}
    (h : writeRecordAndGrant d.hmac d.validate d.backend s.store q = .ok store) :
    (writeOp q signature : Ceremony F Unit).exec d.perform s = (.ok (),{ s with store, signatures := d.signed s q signature }) := by
  have hperform : d.perform (.writeRecordAndGrant q signature) s =
      (.ok (),{ s with store, signatures := d.signed s q signature }) := by
    simp only [Deployment.perform]
    rw [h]
  exact (Prog.exec_call _ _ _).trans hperform

theorem exec_write_error {q : WriteRequest} {signature : Option Json} {e : GrantError}
    (h : writeRecordAndGrant d.hmac d.validate d.backend s.store q = .error e) :
    (writeOp q signature : Ceremony F Unit).exec d.perform s = (.error (.store e),s) := by
  have hperform : d.perform (.writeRecordAndGrant q signature) s = (.error (.store e),s) := by
    simp only [Deployment.perform]
    rw [h]
  exact (Prog.exec_call _ _ _).trans hperform

end Lemmas

end SafeAgents.Grants
