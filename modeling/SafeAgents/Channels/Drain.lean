import SafeAgents.Channels.Dispatch
import SafeAgents.Channels.WireForm
import SafeAgents.Runtime.Flags
import SafeAgents.Runtime.HeldTurn

namespace SafeAgents

open Interleaving Enforcement SafeAgents.Runtime

namespace Channels

structure QueueRecord where
  messageId : Option String
  body : Option String

inductive TerminalReason where
  | malformed
  | expired
  | principalMismatch
  deriving DecidableEq

-- A receiver's program over the facade: brokered calls and nothing else.
abbrev BrokeredCalls := Prog AgentRequest (fun _ => BrokerResponse) Exn Unit

def brokered (R : BrokerRuntime) : BrokeredCalls → Act Unit
  | .ret _ => return ()
  | .raise e => throw e
  | .act request k => (R.handleRequest request none []).attempt fun r => brokered R (k r)

def Prepares (o : Op) : Prop := Steady o ∧ HandsOff o

-- A worker's cached configuration. What is built for a batch's `n`-th record, and what the receiver makes of its envelope, may
-- differ from record to record.
structure DrainState where
  principalId : String
  clockSkew : Int
  receiverMap : InputTrustMap
  laxInt : Json → Option Int
  build : Nat → Act BrokerRuntime
  prepares : ∀ n, Uses Prepares (build n)
  receive : Nat → EventTrigger → BrokeredCalls

inductive OwnerVerb where
  | approve (intentId : String)
  | reject (intentId : String)
  | flag (intentId : String)
  deriving DecidableEq

def EventTrigger.payloadText (envelope : EventTrigger) (key : String) : Option String := (Json.field envelope.payload key).bind Json.str?

def approvalVerb (envelope : EventTrigger) : Option OwnerVerb := do
  let intentId ← envelope.payloadText "intent_id"
  let decision ← envelope.payloadText "decision"
  if decision = "yes" then return .approve intentId
  else if decision = "no" then return .reject intentId
  else none

def ownerFork (envelope : EventTrigger) : Option (Option OwnerVerb) :=
  if envelope.senderClass = some .owner then
    if envelope.payloadText "kind" = some "approval" then some (approvalVerb envelope)
    else if envelope.payloadText "kind" = some "flag" then some ((envelope.payloadText "intent_id").map .flag)
    else none
  else none

def ownerActor (envelope : EventTrigger) : String := "owner:" ++ envelope.sender.channelIdentity

def ChannelError.raised : ChannelError → Exn
  | .refused message => .exception message
  | _ => .exception ""

def ownerAction (R : BrokerRuntime) (envelope : EventTrigger) : OwnerVerb → Act Unit
  | .approve intentId => do let _ ← R.approveIntent intentId (ownerActor envelope) none
  | .reject intentId => do let _ ← R.rejectIntent intentId (ownerActor envelope)
  | .flag intentId => do let _ ← R.flagIntent intentId (ownerActor envelope)

def redelivers (p : Act (Except TerminalReason Unit)) : Act Bool :=
  tryCatch
    (do
      let _ ← p
      return false)
    fun e => if e.isException then return true else throw e

namespace DrainState
variable (D : DrainState)

def ingestEntries (ref : TurnRef) : List ProvenanceEntry → Act Unit
  | [] => return ()
  | entry :: chain => do
    process (.ingest ref entry.source (trustedByFloor D.receiverMap entry))
    ingestEntries ref chain

def agentTurn (n : Nat) (R : BrokerRuntime) (envelope : EventTrigger) : Act Unit := do
  let ref ← R.sessionTurn
  D.ingestEntries ref envelope.provenance
  brokered R (D.receive n envelope)

def actOn (n : Nat) (R : BrokerRuntime) (envelope : EventTrigger) : Act (Except TerminalReason Unit) :=
  match ownerFork envelope with
  | some none => return .error .malformed
  | some (some verb) => do
    ownerAction R envelope verb
    return .ok ()
  | none => do
    D.agentTurn n R envelope
    return .ok ()

def processEnvelope (n : Nat) (envelope : EventTrigger) : Act (Except TerminalReason Unit) := do
  let now ← env .now
  match envelope.isExpired now D.clockSkew with
  | .error e => throw e.raised
  | .ok true => return .error .expired
  | .ok false =>
    if envelope.principal ≠ D.principalId then return .error .principalMismatch
    else
      let R ← D.build n
      D.actOn n R envelope

def processRecord (n : Nat) (record : QueueRecord) : Act (Except TerminalReason Unit) :=
  match EventTrigger.modelValidateJson D.laxInt (record.body.getD "") with
  | none => return .error .malformed
  | some envelope => D.processEnvelope n envelope

def handler : Nat → List QueueRecord → Act (List String)
  | _, [] => return []
  | n, record :: records => do
    let failed ← redelivers (D.processRecord n record)
    let failures ← handler (n + 1) records
    return if failed then record.messageId.getD "" :: failures else failures

def Builds (R : BrokerRuntime) : Prop := ∃ n own, Plays (D.build n) own (.ok R)

end DrainState

section Turning
variable {D : DrainState}

theorem careful_brokered (R : BrokerRuntime) (p : BrokeredCalls) : Minds turnKeeper (brokered R p) := by
  induction p with
  | ret a => exact minds_pure
  | raise e => exact minds_throw
  | act request k ih => exact tells_attempt (careful_handleRequest R request []) fun own r _ => (ih r).after own

theorem uses_ingestEntries {P : Op → Prop} (ref : TurnRef) (chain : List ProvenanceEntry)
    (hingest : ∀ source trusted, P (.process (.ingest ref source trusted))) : Uses P (D.ingestEntries ref chain) := by
  induction chain with
  | nil => trivial
  | cons entry chain ih => exact .bind (uses_process.mpr (hingest _ _)) fun _ => ih

theorem careful_ownerAction (R : BrokerRuntime) (envelope : EventTrigger) (verb : OwnerVerb) :
    Minds turnKeeper (ownerAction R envelope verb) := by
  refine minds_steady ?_
  cases verb with
  | approve intentId => exact .bind (steady_approveIntent R intentId _ none) fun _ => trivial
  | reject intentId => exact .bind (steady_rejectIntent R intentId _) fun _ => trivial
  | flag intentId =>
    exact .bind (R.uses_flagIntent (fun _ _ h => h) (fun _ _ _ h => h) (fun _ _ h => h) intentId _) fun _ => trivial

theorem careful_agentTurn (n : Nat) (R : BrokerRuntime) (envelope : EventTrigger) : Minds turnKeeper (D.agentTurn n R envelope) := by
  refine .bind (careful_sessionTurn R) fun ref => .bind (minds_steady ?_) fun _ => careful_brokered R _
  exact uses_ingestEntries ref _ fun _ _ _ h => h

theorem careful_processRecord (n : Nat) (record : QueueRecord) : Minds turnKeeper (D.processRecord n record) := by
  unfold DrainState.processRecord
  split
  · exact minds_pure
  · next envelope _ =>
    refine .bind (minds_steady (uses_env.mpr fun _ h => h)) fun now => ?_
    split
    · exact minds_throw
    · exact minds_pure
    · split
      · exact minds_pure
      · refine .bind (minds_steady ((D.prepares n).mono fun _ h => h.1)) fun R => ?_
        unfold DrainState.actOn
        split
        · exact minds_pure
        · exact .bind (careful_ownerAction R envelope _) fun _ => minds_pure
        · exact .bind (careful_agentTurn n R envelope) fun _ => minds_pure

theorem minds_redelivers {F : Duty Op Op.Ret Exn} {p : Act (Except TerminalReason Unit)} (hp : Minds F p) : Minds F (redelivers p) := by
  refine .tryCatch (.bind hp fun _ => minds_pure) fun e => ?_
  split
  · exact minds_pure
  · exact minds_throw

theorem careful_handler (n : Nat) (records : List QueueRecord) : Minds turnKeeper (D.handler n records) := by
  induction records generalizing n with
  | nil => exact minds_pure
  | cons record records ih =>
    exact .bind (minds_redelivers (careful_processRecord n record)) fun failed => .bind (ih (n + 1)) fun failures => minds_pure

end Turning

structure Accepted (D : DrainState) (record : QueueRecord) (envelope : EventTrigger) (R : BrokerRuntime) (own : Seen) : Prop where
  read : EventTrigger.modelValidateJson D.laxInt (record.body.getD "") = some envelope
  addressed : envelope.principal = D.principalId
  opened : ∃ n at_ building, own = ⟨.env .now,.ok at_⟩ :: building ∧ envelope.isExpired at_ D.clockSkew = .ok false ∧
    Plays (D.build n) building (.ok R)

def Entrusted (D : DrainState) (envelope : EventTrigger) (R : BrokerRuntime) (path : ExecutionPath) (call : BrokeredCall)
    (effective : Decision) (own : Seen) : Prop :=
  match path with
  | .release => ∃ intentId, ownerFork envelope = some (some (.approve intentId)) ∧
      Mediated R (.approve intentId (ownerActor envelope) none) .release call effective own
  | .inline => ownerFork envelope = none ∧ ∃ ref turned fed called mine request, own = turned ++ (fed ++ (called ++ mine)) ∧
      Plays R.sessionTurn turned (.ok ref) ∧ Plays (D.ingestEntries ref envelope.provenance) fed (.ok ()) ∧
      Mediated R (.request request none []) .inline call effective mine

def Backed (D : DrainState) (records : List QueueRecord) (own : Seen) : Op → Prop
  | .env (.doer path call effective) => ∃ record ∈ records, ∃ envelope R earlier opening mine,
      own = earlier ++ (opening ++ mine) ∧ Accepted D record envelope R opening ∧ Entrusted D envelope R path call effective mine
  | _ => True

def backing (D : DrainState) (records : List QueueRecord) : Duty Op Op.Ret Exn where
  owes := Backed D records
  stays earlier own o h := by
    cases o with
    | env o =>
      cases o with
      | doer path call effective =>
        obtain ⟨record,hmem,envelope,R,before,opening,mine,rfl,hbacked⟩ := h
        exact ⟨record,hmem,envelope,R,earlier ++ before,opening,mine,by simp,hbacked⟩
      | _ => trivial
    | _ => trivial

theorem backed_handsOff {D : DrainState} {records : List QueueRecord} {own : Seen} {o : Op} (h : HandsOff o) : Backed D records own o := by
  cases o with
  | env o =>
    cases o with
    | doer path call effective => exact h.elim
    | _ => trivial
  | _ => trivial

theorem mediated_errand {R : BrokerRuntime} {errand : Errand} {path : ExecutionPath} {call : BrokeredCall} {effective : Decision}
    {own : Seen} (h : Mediated R errand path call effective own) :
    (path = .inline ∧ ∃ request turnContext ingestedSources, errand = .request request turnContext ingestedSources) ∨
      (path = .release ∧ ∃ intentId approvedBy shownInputDigest, errand = .approve intentId approvedBy shownInputDigest) := by
  obtain ⟨⟨clearance,-⟩,-⟩ := h
  have hasked := clearance.asked
  cases path with
  | inline =>
    obtain ⟨request,turnContext,ingestedSources,-,-,-,-,-,herrand,-⟩ := hasked
    exact .inl ⟨rfl,request,turnContext,ingestedSources,herrand⟩
  | release =>
    obtain ⟨intentId,approvedBy,shownInputDigest,-,herrand,-⟩ := hasked
    exact .inr ⟨rfl,intentId,approvedBy,shownInputDigest,herrand⟩

section Backing
variable {D : DrainState} {records : List QueueRecord} {record : QueueRecord} {envelope : EventTrigger} {R : BrokerRuntime}
  {opening : Seen} (hmem : record ∈ records) (haccepted : Accepted D record envelope R opening)
include hmem haccepted

theorem backed_of_mediates {errand : Errand} (before : Seen) {own : Seen} {o : Op} (h : Mediates R errand own o)
    (hentrusted : ∀ path call effective, Mediated R errand path call effective own →
      Entrusted D envelope R path call effective (before ++ own)) : Backed D records (opening ++ (before ++ own)) o := by
  cases o with
  | env o =>
    cases o with
    | doer path call effective => exact ⟨record,hmem,envelope,R,[],opening,before ++ own,rfl,haccepted,hentrusted path call effective h⟩
    | _ => trivial
  | _ => trivial

theorem backed_ownerAction (verb : OwnerVerb) (hfork : ownerFork envelope = some (some verb)) :
    Tells (fun _ _ => True) (fun own => Backed D records (opening ++ own)) (fun _ _ => True) (ownerAction R envelope verb) := by
  cases verb with
  | approve intentId =>
    have hmind : Minding R (.approve intentId (ownerActor envelope) none) [] (R.approveIntent intentId (ownerActor envelope) none) :=
      minding_approveIntent intentId (ownerActor envelope) none
    refine Tells.bind ((hmind (by simp)).mono (fun own o h => ?_) fun _ _ h => h) (fun _ _ _ => trivial) fun _ _ _ => trivial
    refine backed_of_mediates hmem haccepted [] h fun path call effective hmediated => ?_
    rcases mediated_errand hmediated with ⟨-,request,turnContext,ingestedSources,herrand⟩ | ⟨rfl,-⟩
    · cases herrand
    · exact ⟨intentId,hfork,hmediated⟩
  | reject intentId =>
    have hmind : Minding R (.reject intentId (ownerActor envelope)) [] (R.rejectIntent intentId (ownerActor envelope)) :=
      minding_rejectIntent intentId (ownerActor envelope)
    refine Tells.bind ((hmind (by simp)).mono (fun own o h => ?_) fun _ _ h => h) (fun _ _ _ => trivial) fun _ _ _ => trivial
    refine backed_of_mediates hmem haccepted [] h fun path call effective hmediated => ?_
    rcases mediated_errand hmediated with ⟨-,request,turnContext,ingestedSources,herrand⟩ | ⟨-,approved,approvedBy,shown,herrand⟩
    · cases herrand
    · cases herrand
  | flag intentId =>
    have hquiet : Uses HandsOff (R.flagIntent intentId (ownerActor envelope)) :=
      R.uses_flagIntent (fun _ => trivial) (fun _ _ => trivial) (fun _ => trivial) intentId _
    have acts : Uses HandsOff (ownerAction R envelope (.flag intentId)) := .bind hquiet fun _ => trivial
    exact acts.tells (fun _ _ h => backed_handsOff h) fun _ _ => trivial

theorem backed_brokered {ref : TurnRef} {turned fed : Seen} (hfork : ownerFork envelope = none)
    (hturned : Plays R.sessionTurn turned (.ok ref)) (hfed : Plays (D.ingestEntries ref envelope.provenance) fed (.ok ()))
    (p : BrokeredCalls) (called : Seen) : Tells (fun _ _ => True)
      (fun own => Backed D records (opening ++ (turned ++ (fed ++ (called ++ own))))) (fun _ _ => True) (brokered R p) := by
  induction p generalizing called with
  | ret a => trivial
  | raise e => trivial
  | act request k ih =>
    have hmind : Minding R (.request request none []) [] (R.handleRequest request none []) := minding_handleRequest request none []
    refine tells_attempt ((hmind (by simp)).mono (fun own o h => ?_) fun _ _ h => h) fun own r _ => ?_
    · have hbacked := backed_of_mediates hmem haccepted (turned ++ (fed ++ called)) h fun path call effective hmediated => ?_
      · simpa using hbacked
      · rcases mediated_errand hmediated with ⟨rfl,-⟩ | ⟨-,approved,approvedBy,shown,herrand⟩
        · exact ⟨hfork,ref,turned,fed,called,own,request,by simp,hturned,hfed,hmediated⟩
        · cases herrand
    · simpa using ih r (called ++ own)

theorem backed_agentTurn (n : Nat) (hfork : ownerFork envelope = none) : Tells (fun _ _ => True)
    (fun own => Backed D records (opening ++ own)) (fun _ _ => True) (D.agentTurn n R envelope) := by
  have turns : Uses HandsOff R.sessionTurn := R.uses_sessionTurn (fun _ => handsOff_of_plain) fun _ => trivial
  refine (tells_handsOff (fun _ _ h => backed_handsOff h) turns).bind (fun turned ref hturned => ?_) fun _ _ _ => trivial
  have feeds : Uses HandsOff (D.ingestEntries ref envelope.provenance) := uses_ingestEntries ref _ fun _ _ => trivial
  refine (tells_handsOff (fun _ _ h => backed_handsOff h) feeds).bind (fun fed _ hfed => ?_) fun _ _ _ => trivial
  simpa using backed_brokered hmem haccepted hfork hturned.1 hfed.1 (D.receive n envelope) []

theorem backed_actOn (n : Nat) : Tells (fun _ _ => True) (fun own => Backed D records (opening ++ own)) (fun _ _ => True)
    (D.actOn n R envelope) := by
  unfold DrainState.actOn
  split
  · trivial
  · next verb hfork =>
    exact (backed_ownerAction hmem haccepted verb hfork).bind (fun _ _ _ => trivial) fun _ _ _ => trivial
  · next hfork => exact (backed_agentTurn hmem haccepted n hfork).bind (fun _ _ _ => trivial) fun _ _ _ => trivial

end Backing

section Handling
variable {D : DrainState} {records : List QueueRecord}

theorem backed_processRecord (n : Nat) {record : QueueRecord} (hmem : record ∈ records) :
    Minds (backing D records) (D.processRecord n record) := by
  unfold DrainState.processRecord
  split
  · trivial
  · next envelope hread =>
    refine (tells_call_bind (o := Op.env .now)).mpr ⟨trivial,fun now _ => ?_,fun _ _ => trivial⟩
    split
    · trivial
    · trivial
    · next hlive =>
      split
      · trivial
      · next haddressed =>
        have quiet : Uses HandsOff (D.build n) := (D.prepares n).mono fun _ h => h.2
        refine (tells_handsOff (fun _ _ h => backed_handsOff h) quiet).bind (fun building R hbuilt => ?_) fun _ _ _ => trivial
        have haccepted : Accepted D record envelope R (⟨.env .now,.ok now⟩ :: building) :=
          ⟨hread,not_not.mp haddressed,n,now,building,rfl,hlive,hbuilt.1⟩
        exact backed_actOn hmem haccepted n

theorem backed_handler (n : Nat) {rest : List QueueRecord} (hsub : rest ⊆ records) :
    Minds (backing D records) (D.handler n rest) := by
  induction rest generalizing n with
  | nil => exact minds_pure
  | cons record rest ih =>
    refine .bind (minds_redelivers (backed_processRecord n (hsub (List.mem_cons_self ..)))) fun failed => ?_
    exact .bind (ih (n + 1) fun record h => hsub (List.mem_cons_of_mem _ h)) fun failures => minds_pure

end Handling

theorem fed_of_ingested {D : DrainState} {ref : TurnRef} {chain : List ProvenanceEntry} {own : Seen}
    (h : Plays (D.ingestEntries ref chain) own (.ok ())) {entry : ProvenanceEntry} (hmem : entry ∈ chain)
    (hfloor : trustedByFloor D.receiverMap entry = false) : entry.source ∈ fedBy ref own := by
  induction chain generalizing own with
  | nil => cases hmem
  | cons first chain ih =>
    obtain ⟨fed,rest,u,rfl,hfed,hrest⟩ := plays_bind_ok h
    obtain rfl := plays_called hfed
    rcases List.mem_cons.mp hmem with rfl | hlater
    · simp [fedBy,feeds,hfloor]
    · exact List.mem_append_right _ (ih hrest hlater)

section Runs
variable {ι : Type} [DecidableEq ι] {B : Substrate} {G : Guard ι Op Op.Ret Exn State (List String)}
  {c c' : Config ι Op Op.Ret Exn State (List String)} {tr tr₁ tr₂ : List (Event ι Op Op.Ret Exn)} {i : ι} {D : DrainState}
  {records : List QueueRecord} {envelope : EventTrigger} {R : BrokerRuntime} {path : ExecutionPath} {call : BrokeredCall}
  {effective : Decision} {r : Except Exn DoerResult}

def Carries (D : DrainState) (envelope : EventTrigger) (call : BrokeredCall) : Prop :=
  ∀ entry ∈ envelope.provenance, trustedByFloor D.receiverMap entry = false →
    entry.source ∈ call.taint.sources ∧ call.taint.tainted = true ∧ call.manifest.externalWrite = false

theorem careful_after {n : Nat} (h : Run B.device G c tr c') (hthread : c.threads i = D.handler n records) : CarefulAfter i [] tr := by
  rintro first ⟨j,o,reply⟩ last htr rfl
  have hminds : Minds turnKeeper (c.threads j) := hthread ▸ careful_handler n records
  exact h.minded hminds htr

theorem carries_of_fed {request : AgentRequest} {ref : TurnRef} {earlier turned fed called : Seen}
    (h : Run B.device G c tr c') (hkept : WellKept c.state.process) (halone : Alone i R.instanceId tr)
    (hcareful : CarefulAfter i [] tr) (clearance : Clearance R (.request request none []) .inline call effective)
    (hown : own i tr = earlier ++ (turned ++ (fed ++ (called ++ clearance.history)))) (hturned : Plays R.sessionTurn turned (.ok ref))
    (hfed : Plays (D.ingestEntries ref envelope.provenance) fed (.ok ())) : Carries D envelope call := by
  obtain ⟨request',turnContext,ingestedSources,entry,ref',turn,confidence,ts,herrand,-,-,honturn,hturn,-,hcall⟩ := clearance.asked
  cases herrand
  obtain ⟨pre,saw,rfl,hobtains⟩ := plays_sessionTurn R hturned
  have since {first last : Seen} {seen : Saw Op Op.Ret Exn} (hbefore : clearance.before = first ++ seen :: last) : ∃ rest,
      own i tr = (earlier ++ pre) ++ saw :: (fed ++ (called ++ first) ++ seen :: rest) :=
    ⟨_,by simpa [Clearance.history,hbefore] using hown⟩
  have hsame : ref' = ref := by
    rcases honturn with hfound | ⟨begun,hbegun,-⟩
    · obtain ⟨first,last,hbefore⟩ := List.append_of_mem hfound
      obtain ⟨rest,hsince⟩ := since hbefore
      exact Option.some.inj (current_since h hkept halone hcareful hobtains hsince)
    · obtain ⟨first,last,hbefore⟩ := List.append_of_mem hbegun
      obtain ⟨rest,hsince⟩ := since hbefore
      exact (not_begun_since h hkept halone hcareful hobtains hsince).elim
  subst hsame
  obtain ⟨first,last,hbefore⟩ := List.append_of_mem hturn
  obtain ⟨rest,hsince⟩ := since hbefore
  have hheld := context_since h hkept halone hcareful hobtains hsince
  intro entry hmem hfloor
  have hsource : entry.source ∈ fedBy ref' (fed ++ (called ++ first)) := by
    simpa [fedBy] using .inl (by simpa [fedBy] using fed_of_ingested hfed hmem hfloor)
  obtain ⟨hsources,htainted⟩ := hheld entry.source hsource
  have htaint : call.taint = turn.toTaint := by rw [hcall]; rfl
  refine ⟨by simpa [htaint,TurnContext.toTaint] using hsources,by simpa [htaint,TurnContext.toTaint] using htainted,?_⟩
  by_contra hwrite
  have hexecutes := clearance.authorised.1
  rw [Pdp.executes_decide_of_tainted (by simpa [htaint,TurnContext.toTaint] using htainted) ((Bool.not_eq_false _).mp hwrite)] at hexecutes
  cases hexecutes

theorem drained {n : Nat} (h : Run B.device G c tr c') (hthread : c.threads i = D.handler n records) (hkept : WellKept c.state.process)
    (hprivate : ∀ R, D.Builds R → Alone i R.instanceId tr) (htr : tr = tr₁ ++ ⟨i,.env (.doer path call effective),r⟩ :: tr₂) :
    ∃ record ∈ records, ∃ envelope R earlier opening mine, own i tr₁ = earlier ++ (opening ++ mine) ∧
      Accepted D record envelope R opening ∧ Entrusted D envelope R path call effective mine ∧
      (path = .inline → Carries D envelope call) := by
  have hminds : Minds (backing D records) (c.threads i) := hthread ▸ backed_handler n (List.Subset.refl records)
  obtain ⟨record,hmem,envelope,R,earlier,opening,mine,hown,haccepted,hentrusted⟩ := h.minded hminds htr
  refine ⟨record,hmem,envelope,R,earlier,opening,mine,hown,haccepted,hentrusted,?_⟩
  rintro rfl
  obtain ⟨-,ref,turned,fed,called,asked,request,rfl,hturned,hfed,⟨clearance,rfl⟩,-⟩ := hentrusted
  obtain ⟨m,at_,building,-,-,hbuilt⟩ := haccepted.opened
  obtain ⟨c₁,c₂,hbefore,-,-,-⟩ := h.split htr
  have hsince : own i tr₁ = (earlier ++ opening) ++ (turned ++ (fed ++ (called ++ clearance.history))) := by simpa using hown
  refine carries_of_fed hbefore hkept (fun e he => hprivate R ⟨m,building,hbuilt⟩ e ?_) (careful_after hbefore hthread) clearance
    hsince hturned hfed
  rw [htr]
  exact List.mem_append_left _ he

end Runs

def readMail : ToolOp where
  tool := "mail"
  op := "read"
  effect := .read
  external := true

def mailReader : BrokerRuntime where
  instanceId := "mail"
  principal := clerk
  optable := ⟨[readMail],List.pairwise_singleton _ _⟩
  pip call := env (.freshFacts call)
  pipReads := reads_freshFacts
  trustMap _ := false
  envelopeHash := "envelope"
  inheritanceRequired _ m hm := by
    obtain rfl := List.mem_singleton.mp hm
    rfl
  digests := ⟨fun _ => "",fun _ => "",fun _ => "",fun _ => ""⟩
  pyFloat _ := ""

def signalDraft : Draft where
  eventId := "e1"
  principal := "clerk"
  audience := "desk"
  sender := ⟨"web","visitor",[]⟩
  payload := []
  provenance := [⟨"web","web:form",[],.untrusted,"2026-01-01T00:00:00+00:00",by decide,by decide⟩]
  ts := "2026-01-01T00:00:00+00:00"
  expiry := "2026-01-02T00:00:00+00:00"

theorem signalDraft_valid : signalDraft.Valid := by decide

def signal : EventTrigger := ⟨signalDraft,signalDraft_valid⟩

def mailDrain : DrainState where
  principalId := "clerk"
  clockSkew := 0
  receiverMap _ := false
  laxInt _ := none
  build _ := return mailReader
  prepares _ := trivial
  receive _ _ := .act { tool := "mail", op := "read", args := .obj [] } fun _ => .ret ()

def signalRecord : QueueRecord := ⟨some "r1",some signal.json.dumps⟩

def signalDrained : List (Event Unit Op Op.Ret Exn) × Config Unit Op Op.Ret Exn State (List String) :=
  play memory.device (turns () 40) ⟨emptyState,fun _ => do
    let failed ← redelivers (mailDrain.processEnvelope 0 signal)
    return if failed then ["r1"] else []⟩

theorem signal_read : EventTrigger.modelValidateJson mailDrain.laxInt signal.json.dumps = some signal :=
  EventTrigger.modelValidateJson_dumps ⟨List.nodup_nil,trivial⟩

theorem signal_processed : mailDrain.processRecord 0 signalRecord = mailDrain.processEnvelope 0 signal := by
  have hbody : signalRecord.body.getD "" = signal.json.dumps := rfl
  rw [DrainState.processRecord,hbody,signal_read]

theorem signal_handled : mailDrain.handler 0 [signalRecord] = (do
    let failed ← redelivers (mailDrain.processEnvelope 0 signal)
    return if failed then ["r1"] else []) := by
  rw [DrainState.handler,signal_processed]
  rfl

theorem drained_signal : ∃ tr₁ call effective r tr₂, signalDrained.1 = tr₁ ++ ⟨(),.env (.doer .inline call effective),r⟩ :: tr₂ ∧
    ∃ record ∈ [signalRecord], ∃ envelope R earlier opening mine, own () tr₁ = earlier ++ (opening ++ mine) ∧
      Accepted mailDrain record envelope R opening ∧ Entrusted mailDrain envelope R .inline call effective mine ∧
      Carries mailDrain envelope call := by
  have hsent : signalDrained.1.any (handsOver fun path _ => path = .inline) = true := by decide +kernel
  obtain ⟨tr₁,i,path,call,effective,r,tr₂,htr,hpath⟩ := exists_doer hsent
  obtain rfl := of_decide_eq_true hpath
  have hrun : Run memory.device anyStep ⟨emptyState,fun _ => mailDrain.handler 0 [signalRecord]⟩ signalDrained.1 signalDrained.2 := by
    rw [signal_handled]
    exact play_run _ _
  have hkept : WellKept emptyState.process := fun runtime ref h => by cases h
  obtain ⟨record,hmem,envelope,R,earlier,opening,mine,hown,haccepted,hentrusted,hcarries⟩ :=
    drained hrun rfl hkept (fun R _ e _ hne => absurd rfl hne) htr
  exact ⟨tr₁,call,effective,r,tr₂,htr,record,hmem,envelope,R,earlier,opening,mine,hown,haccepted,hentrusted,hcarries rfl⟩

end Channels

end SafeAgents
