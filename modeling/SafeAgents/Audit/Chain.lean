import SafeAgents.Audit.Canonical
import SafeAgents.Checked
import SafeAgents.Enforcement.Types
import SafeAgents.HashChain
import SafeAgents.Schemas.IsoParse

namespace SafeAgents.Audit

open Calendar Checked HashChain

structure Draft where
  principal : Principal
  tool : String
  op : String
  args : Json
  decision : Kind
  outcome : Outcome
  envelopeHash : String
  reason : Option String := none
  approvedBy : Option String := none
  error : Option String := none
  seed : Option String := none
  intentId : Option String := none
  storedCallDigest : Option String := none
  resultDigest : Option String := none
  actorDigest : Option String := none
  evidenceBucket : Option String := none
  expiredAt : Option String := none
  inputsAsOf : Option InputAges := none
  horizon : Option String := none

inductive ChainError where
  | seqGap (expected found : Int)
  | prevHashMismatch (seq : Int) (expected got : String)
  | hashMismatch (seq : Int) (stored computed : String)
  deriving DecidableEq

def ChainError.text : ChainError → String
  | .seqGap expected found => "seq gap detected: expected " ++ toString expected ++ ", found " ++ toString found
  | .prevHashMismatch seq expected got =>
    "prevHash mismatch at seq=" ++ toString seq ++ ": expected " ++ pyRepr expected ++ ", got " ++ pyRepr got
  | .hashMismatch seq stored computed =>
    "hash mismatch at seq=" ++ toString seq ++ ": record was tampered (stored=" ++ pyRepr stored ++ ", computed=" ++
      pyRepr computed ++ ")"

section Chain
variable (sha256 : String → String) (hashArgs : Json → String)

def genesisPrevHash : String := "sha256:" ++ sha256 ""

def hashRecord (r : TapeRecord) : String := "sha256:" ++ sha256 r.canonical

def links : Links TapeRecord String where
  seq := TapeRecord.seq
  prev := TapeRecord.prevHash
  hash := TapeRecord.hash
  digest := hashRecord sha256

def unsigned (seq : Int) (prevHash ts : String) (d : Draft) : TapeRecord where
  seq := seq
  ts := ts
  principal := d.principal
  tool := d.tool
  op := d.op
  argsDigest := hashArgs d.args
  decision := d.decision
  reason := d.reason
  envelopeHash := d.envelopeHash
  approvedBy := d.approvedBy
  outcome := d.outcome
  error := d.error
  seed := d.seed
  intentId := d.intentId
  storedCallDigest := d.storedCallDigest
  resultDigest := d.resultDigest
  actorDigest := d.actorDigest
  evidenceBucket := d.evidenceBucket
  expiredAt := d.expiredAt
  inputsAsOf := d.inputsAsOf.filter fun ages => !ages.entries.isEmpty
  horizon := d.horizon
  prevHash := prevHash
  hash := ""

def build (seq : Int) (prevHash ts : String) (d : Draft) : TapeRecord :=
  let record := unsigned hashArgs seq prevHash ts d
  { record with hash := hashRecord sha256 record }

@[simp] theorem build_seq (seq : Int) (prevHash ts : String) (d : Draft) : (build sha256 hashArgs seq prevHash ts d).seq = seq := rfl

@[simp] theorem build_prevHash (seq : Int) (prevHash ts : String) (d : Draft) :
    (build sha256 hashArgs seq prevHash ts d).prevHash = prevHash := rfl

@[simp] theorem build_hash (seq : Int) (prevHash ts : String) (d : Draft) :
    (build sha256 hashArgs seq prevHash ts d).hash = hashRecord sha256 (build sha256 hashArgs seq prevHash ts d) := rfl

def AuditRecord.draft (record : AuditRecord) (args : Json) : Draft where
  principal := record.principal
  tool := record.tool
  op := record.op
  args := args
  decision := record.decision
  outcome := record.outcome
  envelopeHash := record.envelopeHash
  reason := record.reason
  approvedBy := record.approvedBy
  error := record.error
  intentId := record.intentId
  storedCallDigest := record.storedCallDigest
  resultDigest := record.resultDigest
  actorDigest := record.actorDigest
  evidenceBucket := record.evidenceBucket
  expiredAt := record.expiredAt.map isoformat

def instantOf (text : String) : Option Instant := (fromisoformat text).bind fun d => d.offset.map fun offset => d.clock - offset

-- What a line of the tape says besides the chain, the seed and the input instants.
def TapeRecord.auditRecord (r : TapeRecord) : Option AuditRecord := do
  let expiredAt ← r.expiredAt.elim (some none) fun text => (instantOf text).map some
  return {
    principal := r.principal
    tool := r.tool
    op := r.op
    argsDigest := r.argsDigest
    decision := r.decision
    outcome := r.outcome
    envelopeHash := r.envelopeHash
    reason := r.reason
    approvedBy := r.approvedBy
    error := r.error
    intentId := r.intentId
    storedCallDigest := r.storedCallDigest
    resultDigest := r.resultDigest
    actorDigest := r.actorDigest
    evidenceBucket := r.evidenceBucket
    expiredAt }

theorem auditRecord_build {record : AuditRecord} {args : Json} (hargs : record.argsDigest = hashArgs args)
    (hexpired : ∀ t, record.expiredAt = some t → Representable t) (seq : Int) (prevHash ts : String) :
    (build sha256 hashArgs seq prevHash ts (AuditRecord.draft record args)).auditRecord = some record := by
  have hread : (record.expiredAt.map isoformat).elim (some none) (fun text => (instantOf text).map some) = some record.expiredAt := by
    cases hat : record.expiredAt with
    | none => rfl
    | some t => simp [instantOf,fromisoformat_isoformat (hexpired t hat)]
  have hbuilt : (build sha256 hashArgs seq prevHash ts (AuditRecord.draft record args)).auditRecord =
      ((record.expiredAt.map isoformat).elim (some none) fun text => (instantOf text).map some).bind fun expiredAt =>
        some { record with argsDigest := hashArgs args, expiredAt } := rfl
  rw [hbuilt,hread,Option.bind_some,← hargs]

-- The in-memory sink is its record list.
def lastHash (records : List TapeRecord) : String :=
  match records.getLast? with
  | none => genesisPrevHash sha256
  | some r => r.hash

def append (records : List TapeRecord) (r : TapeRecord) : Except String (List TapeRecord) := do
  refuseIf (r.seq ≠ records.length) ("seq mismatch: expected " ++ toString records.length ++ ", got " ++ toString r.seq)
  return records ++ [r]

def emit (records : List TapeRecord) (ts : String) (d : Draft) : Except String (TapeRecord × List TapeRecord) := do
  let record := build sha256 hashArgs records.length (lastHash sha256 records) ts d
  let appended ← append records record
  return (record,appended)

-- Emits hold the sink's lock from the counters they read to their append, so a run is their order.
def emitAll {ι : Type} (records : List TapeRecord) : List (ι × String × Draft) → List TapeRecord
  | [] => records
  | (_,ts,d) :: rest =>
    match emit sha256 hashArgs records ts d with
    | .ok (_,appended) => emitAll appended rest
    | .error _ => emitAll records rest

def verifyFrom : Int → String → List TapeRecord → Except ChainError Unit
  | _, _, [] => .ok ()
  | expectedSeq, prevHash, record :: rest => do
    refuseIf (record.seq ≠ expectedSeq) (.seqGap expectedSeq record.seq)
    refuseIf (record.prevHash ≠ prevHash) (.prevHashMismatch record.seq prevHash record.prevHash)
    refuseIf (record.hash ≠ hashRecord sha256 record)
      (.hashMismatch record.seq record.hash (hashRecord sha256 record))
    verifyFrom (expectedSeq + 1) record.hash rest

def verifyChain (records : List TapeRecord) : Except ChainError Unit := verifyFrom sha256 0 (genesisPrevHash sha256) records

end Chain

section Proofs
variable {sha256 : String → String} {hashArgs : Json → String}

theorem verifyFrom_ok {n : Int} {p : String} {records : List TapeRecord} :
    verifyFrom sha256 n p records = .ok () ↔ (links sha256).Linked n p records := by
  induction records generalizing n p with
  | nil => simp [verifyFrom,Links.Linked]
  | cons r rest ih =>
    simp only [verifyFrom,then_ok,refuseIf_ok,Decidable.not_not,ih,Links.Linked]
    rfl

theorem lastHash_eq (records : List TapeRecord) : lastHash sha256 records = (links sha256).lastHash (genesisPrevHash sha256) records := by
  rcases List.eq_nil_or_concat records with rfl | ⟨front,r,rfl⟩
  · rfl
  · simp [lastHash,List.concat_eq_append]
    rfl

theorem emit_eq (records : List TapeRecord) (ts : String) (d : Draft) :
    emit sha256 hashArgs records ts d =
      .ok (build sha256 hashArgs records.length (lastHash sha256 records) ts d,
        records ++ [build sha256 hashArgs records.length (lastHash sha256 records) ts d]) := by
  have happend : append records (build sha256 hashArgs records.length (lastHash sha256 records) ts d) =
      .ok (records ++ [build sha256 hashArgs records.length (lastHash sha256 records) ts d]) :=
    then_ok.mpr ⟨refuseIf_pass (by simp),rfl⟩
  simp only [emit,happend]
  rfl

theorem emitAll_records {ι : Type} (entries : List (ι × String × AuditRecord × Json))
    (h : ∀ e ∈ entries, e.2.2.1.argsDigest = hashArgs e.2.2.2 ∧ ∀ t, e.2.2.1.expiredAt = some t → Representable t)
    (records : List TapeRecord) :
    (emitAll sha256 hashArgs records (entries.map fun e => (e.1,e.2.1,AuditRecord.draft e.2.2.1 e.2.2.2))).map TapeRecord.auditRecord =
      records.map TapeRecord.auditRecord ++ entries.map fun e => some e.2.2.1 := by
  induction entries generalizing records with
  | nil => simp [emitAll]
  | cons e entries ih =>
    obtain ⟨hargs,hexpired⟩ := h e List.mem_cons_self
    rw [List.map_cons,emitAll,emit_eq]
    simp only
    rw [ih (fun e' he' => h e' (List.mem_cons_of_mem _ he')),List.map_append,List.map_singleton,
      auditRecord_build sha256 hashArgs hargs hexpired,List.append_assoc]
    rfl

theorem linked_emit {records : List TapeRecord} (h : (links sha256).Linked 0 (genesisPrevHash sha256) records) (ts : String)
    (d : Draft) :
    (links sha256).Linked 0 (genesisPrevHash sha256)
      (records ++ [build sha256 hashArgs records.length (lastHash sha256 records) ts d]) := by
  refine Links.linked_snoc.mpr ⟨h,?_,?_,rfl⟩
  · change (records.length : Int) = 0 + records.length
    omega
  · exact lastHash_eq records

theorem linked_nil : (links sha256).Linked 0 (genesisPrevHash sha256) [] := trivial

theorem linked_emitAll {ι : Type} (emits : List (ι × String × Draft)) {records : List TapeRecord}
    (h : (links sha256).Linked 0 (genesisPrevHash sha256) records) :
    (links sha256).Linked 0 (genesisPrevHash sha256) (emitAll sha256 hashArgs records emits) ∧
      (emitAll sha256 hashArgs records emits).length = records.length + emits.length := by
  induction emits generalizing records with
  | nil => exact ⟨h,rfl⟩
  | cons e rest ih =>
    obtain ⟨i,ts,d⟩ := e
    simp only [emitAll,emit_eq]
    obtain ⟨hlinked,hlength⟩ := ih (linked_emit h ts d)
    refine ⟨hlinked,?_⟩
    rw [hlength]
    simp only [List.length_append,List.length_cons,List.length_nil]
    omega

theorem chain_eq_of_tail {n : Int} {p h : String} {xs ys : List TapeRecord}
    (hcollision : ∀ x ∈ xs, ∀ y ∈ ys, hashRecord sha256 x = hashRecord sha256 y → x.canonical = y.canonical)
    (hx : verifyFrom sha256 n p xs = .ok ()) (hy : verifyFrom sha256 n p ys = .ok ())
    (hxs : xs.getLast?.map TapeRecord.hash = some h) (hys : ys.getLast?.map TapeRecord.hash = some h) : xs = ys := by
  have hlast : ∀ {zs : List TapeRecord}, zs.getLast?.map TapeRecord.hash = some h →
      zs ≠ [] ∧ (links sha256).lastHash p zs = h := by
    intro zs hz
    rcases List.eq_nil_or_concat zs with rfl | ⟨front,r,rfl⟩
    · cases hz
    · rw [List.concat_eq_append] at hz ⊢
      rw [Links.lastHash_snoc]
      have hhash : r.hash = h := by simpa using hz
      exact ⟨by simp,hhash⟩
  obtain ⟨hxne,hxlast⟩ := hlast hxs
  obtain ⟨hyne,hylast⟩ := hlast hys
  refine Links.eq_of_lastHash (verifyFrom_ok.mp hx) (verifyFrom_ok.mp hy) ?_ hxne hyne (hxlast.trans hylast.symm)
  intro x hmem y hmem' hdigest hhash
  exact TapeRecord.canonical_injective (hcollision x hmem y hmem' hdigest) hhash

end Proofs

theorem audit_chain_integrity (sha256 : String → String) (hashArgs : Json → String) :
    (∀ {ι : Type} (emits : List (ι × String × Draft)),
      verifyChain sha256 (emitAll sha256 hashArgs [] emits) = .ok () ∧
        (emitAll sha256 hashArgs [] emits).length = emits.length) ∧
    (∀ (n : Int) (p h : String) (xs ys : List TapeRecord),
      (∀ x ∈ xs, ∀ y ∈ ys, hashRecord sha256 x = hashRecord sha256 y → x.canonical = y.canonical) →
      verifyFrom sha256 n p xs = .ok () → verifyFrom sha256 n p ys = .ok () →
      xs.getLast?.map TapeRecord.hash = some h → ys.getLast?.map TapeRecord.hash = some h → xs = ys) ∧
    ∀ (r : TapeRecord) (members : List (String × Json)) (name : String), r.Carries members → name ∈ receiptFields →
      members.lookup name = none → r.Carries ((name,.null) :: members) := by
  refine ⟨?_,?_,?_⟩
  · intro ι emits
    obtain ⟨hlinked,hlength⟩ := linked_emitAll emits linked_nil
    exact ⟨verifyFrom_ok.mpr hlinked,by simpa using hlength⟩
  · intro n p h xs ys hcollision hx hy hxs hys
    exact chain_eq_of_tail hcollision hx hy hxs hys
  · intro r members name hcarries hname habsent
    exact hcarries.null hname habsent

def sendDraft : Draft where
  principal := { agentId := "mailer", skill := "inbox", user := "sam", tier := .B }
  tool := "email"
  op := "send"
  args := .obj []
  decision := .allow
  outcome := .executed
  envelopeHash := "env-1"

def emptyArgsDigest : Json → String := fun _ => "sha256:44136fa355b3678a1146ad16f7e8649e94fb4fc21fe77e8310c060f61caaff8a"

def newYear : String := "2026-01-01T00:00:00+00:00"

def sendUnsigned : TapeRecord :=
  unsigned emptyArgsDigest 0 "sha256:e3b0c44298fc1c149afbf4c8996fb92427ae41e4649b934ca495991b7852b855" newYear sendDraft

def forgedUnsigned : TapeRecord := { sendUnsigned with intentId := some "intent-1" }

-- SHA-256 on the texts hashed below.
def tapeSha256 (text : String) : String :=
  if text = "" then "e3b0c44298fc1c149afbf4c8996fb92427ae41e4649b934ca495991b7852b855"
  else if text = sendUnsigned.canonical then "68931f0c32087825b17442a197a41a70e79d84f073d8448588c7685e80e189c4"
  else if text = forgedUnsigned.canonical then "f7c6ab35e9044d2c28569b01bca269309f669191f2602d84647b6e03ef28b56b"
  else ""

def sendRecord : TapeRecord := { sendUnsigned with hash := "sha256:68931f0c32087825b17442a197a41a70e79d84f073d8448588c7685e80e189c4" }

def forgedRecord : TapeRecord := { sendRecord with intentId := some "intent-1" }

theorem forged_ne_send : forgedUnsigned.canonical ≠ sendUnsigned.canonical := by
  intro h
  have hsame : forgedUnsigned = sendUnsigned := TapeRecord.canonical_injective h rfl
  exact absurd (congrArg TapeRecord.intentId hsame) (by decide)

theorem hashRecord_send : hashRecord tapeSha256 sendRecord = sendRecord.hash := by
  change "sha256:" ++ tapeSha256 sendUnsigned.canonical = _
  rw [tapeSha256,if_neg (TapeRecord.canonical_ne_empty _),if_pos rfl]
  rfl

theorem hashRecord_forged :
    hashRecord tapeSha256 forgedRecord = "sha256:f7c6ab35e9044d2c28569b01bca269309f669191f2602d84647b6e03ef28b56b" := by
  change "sha256:" ++ tapeSha256 forgedUnsigned.canonical = _
  rw [tapeSha256,if_neg (TapeRecord.canonical_ne_empty _),if_neg forged_ne_send,if_pos rfl]
  rfl

theorem sendRecord_emitted : emitAll tapeSha256 emptyArgsDigest [] [(true,newYear,sendDraft)] = [sendRecord] := by
  have hgenesis : genesisPrevHash tapeSha256 = sendUnsigned.prevHash := by
    rw [genesisPrevHash,tapeSha256,if_pos rfl]
    rfl
  simp only [emitAll,emit_eq]
  change [build tapeSha256 emptyArgsDigest 0 (genesisPrevHash tapeSha256) newYear sendDraft] = [sendRecord]
  rw [hgenesis]
  change [{ sendUnsigned with hash := hashRecord tapeSha256 sendRecord }] = [sendRecord]
  rw [hashRecord_send]
  rfl

theorem audit_chain_integrity_send :
    verifyChain tapeSha256 [sendRecord] = .ok () ∧ verifyChain tapeSha256 [forgedRecord] ≠ .ok () := by
  have main := audit_chain_integrity tapeSha256 emptyArgsDigest
  have hrun : verifyChain tapeSha256 [sendRecord] = .ok () := by
    rw [← sendRecord_emitted]
    exact (main.1 [(true,newYear,sendDraft)]).1
  have hcollision : ∀ x ∈ [sendRecord], ∀ y ∈ [forgedRecord],
      hashRecord tapeSha256 x = hashRecord tapeSha256 y → x.canonical = y.canonical := by
    intro x hx y hy hhash
    rw [List.mem_singleton.mp hx,List.mem_singleton.mp hy,hashRecord_send,hashRecord_forged] at hhash
    exact absurd hhash (by decide)
  refine ⟨hrun,?_⟩
  intro hverified
  have hsame := main.2.1 0 (genesisPrevHash tapeSha256) sendRecord.hash [sendRecord] [forgedRecord] hcollision hrun hverified rfl rfl
  exact absurd (congrArg (List.map TapeRecord.intentId) hsame) (by decide)

theorem sendRecord_verified : verifyChain tapeSha256 [sendRecord] = .ok () := by
  rw [← sendRecord_emitted]
  exact verifyFrom_ok.mpr (linked_emitAll _ linked_nil).1

def withoutReceipts : List (String × Json) := sendRecord.fields.filter fun f => !receiptFields.contains f.1

theorem null_receipt_is_not_detected :
    sendRecord.Carries withoutReceipts ∧ sendRecord.Carries (("intentId",.null) :: withoutReceipts) ∧
      ("intentId",.null) :: withoutReceipts ≠ withoutReceipts ∧ verifyChain tapeSha256 [sendRecord] = .ok () := by
  have hcarries : sendRecord.Carries withoutReceipts := by
    constructor
    · decide
    · intro m hm
      exact List.mem_map_of_mem (List.mem_of_mem_filter hm)
    · simp only [TapeRecord.fields,List.forall_mem_cons]
      exact ⟨.inl rfl,.inl rfl,.inl rfl,.inl rfl,.inl rfl,.inl rfl,.inl rfl,.inl rfl,.inl rfl,.inl rfl,.inl rfl,.inl rfl,.inl rfl,
        .inr ⟨rfl,rfl⟩,.inr ⟨rfl,rfl⟩,.inr ⟨rfl,rfl⟩,.inr ⟨rfl,rfl⟩,.inr ⟨rfl,rfl⟩,.inr ⟨rfl,rfl⟩,.inr ⟨rfl,rfl⟩,
        .inr ⟨rfl,rfl⟩,.inl rfl,.inl rfl,by simp⟩
  exact ⟨hcarries,hcarries.null (by decide) (by decide),by simp,sendRecord_verified⟩

end SafeAgents.Audit
