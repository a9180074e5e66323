import SafeAgents.Runtime.Raising
import SafeAgents.Runtime.Rules

namespace SafeAgents

open Interleaving

namespace Runtime

structure Requested (R : BrokerRuntime) (request : AgentRequest) (call : BrokeredCall) : Prop where
  principal : call.principal = R.principal
  tool : call.tool = request.tool
  op : call.op = request.op
  args : call.args = request.args

def Executed (call : BrokeredCall) (effective : Decision) (result : ConnectorResult) (own : Seen) : Prop :=
  ∃ doerResult, (⟨.env (.doer .inline call effective),.ok doerResult⟩ : Saw Op Op.Ret Exn) ∈ own ∧ doerResult.result = result

def Earned (R : BrokerRuntime) (request : AgentRequest) (key : String) (decisionJson : Text Decision)
    (resultJson : Option (Text Json)) (own : Seen) : Prop :=
  request.idempotencyKey = some key ∧ ∃ call effective result, Requested R request call ∧ decisionJson = .json effective ∧
    Executed call effective result own ∧ Enforcement.resultJson result = .ok resultJson

theorem Executed.before {call : BrokeredCall} {effective : Decision} {result : ConnectorResult} {own : Seen}
    (h : Executed call effective result own) (earlier : Seen) : Executed call effective result (earlier ++ own) := by
  obtain ⟨doerResult,hmem,hresult⟩ := h
  exact ⟨doerResult,List.mem_append_right _ hmem,hresult⟩

theorem Executed.after {call : BrokeredCall} {effective : Decision} {result : ConnectorResult} {own : Seen}
    (h : Executed call effective result own) (later : Seen) : Executed call effective result (own ++ later) := by
  obtain ⟨doerResult,hmem,hresult⟩ := h
  exact ⟨doerResult,List.mem_append_left _ hmem,hresult⟩

def scribe (R : BrokerRuntime) (request : AgentRequest) : Duty Op Op.Ret Exn where
  owes own
    | .store (.completeIdempotency key decisionJson resultJson) => Earned R request key decisionJson resultJson own
    | .store (.putIdempotencyIfAbsent record) => record.status = .inFlight
    | _ => True
  stays earlier own o h := by
    cases o with
    | store o =>
      cases o with
      | completeIdempotency key decisionJson resultJson =>
        obtain ⟨hkey,call,effective,result,hcall,hjson,hran,hresult⟩ := h
        exact ⟨hkey,call,effective,result,hcall,hjson,hran.before earlier,hresult⟩
      | putIdempotencyIfAbsent record => exact h
      | _ => trivial
    | _ => trivial

def Unsettling : Op → Prop
  | .store (.completeIdempotency _ _ _) => False
  | .store (.putIdempotencyIfAbsent record) => record.status = .inFlight
  | _ => True

theorem unsettling_of_plain {o : Op} (h : Plain o) : Unsettling o := by
  cases o with
  | store o => cases o <;> trivial
  | _ => trivial

section Quiet
variable {R : BrokerRuntime} {request : AgentRequest} {α : Type}

theorem minds_unsettling {p : Act α} (hp : Uses Unsettling p) : Minds (scribe R request) p := by
  refine hp.minds fun o ho => ?_
  cases o with
  | store o =>
    cases o with
    | completeIdempotency key decisionJson resultJson => exact ho.elim
    | putIdempotencyIfAbsent record => exact ho
    | _ => trivial
  | _ => trivial

theorem scribe_plain {p : Act α} (hp : Uses Plain p) : Minds (scribe R request) p :=
  minds_unsettling (hp.mono fun _ => unsettling_of_plain)

end Quiet

namespace BrokerRuntime
variable (R : BrokerRuntime)

theorem plain_writeInheritanceIfDeclared (call : BrokeredCall) (effective : Decision) :
    Uses Plain (R.writeInheritanceIfDeclared call effective) := by
  unfold writeInheritanceIfDeclared
  split
  · trivial
  · split
    · trivial
    · refine .bind (uses_env.mpr trivial) fun now => .tryCatch ?_ fun e => ?_
      · unfold writeInheritanceRecord
        split
        · refine .bind ?_ fun subGrant => .bind uses_finish fun notAfter => .bind (uses_env.mpr trivial) fun id => ?_
          · unfold targetSubGrant
            split
            · split
              · exact uses_env.mpr trivial
              · trivial
            · trivial
          · split
            · trivial
            · exact uses_env.mpr trivial
        · trivial
      · split <;> trivial

end BrokerRuntime

section Executing
variable {R : BrokerRuntime} {request : AgentRequest} {call : BrokeredCall} {effective : Decision}

def Hands (call : BrokeredCall) (effective : Decision) (own : Seen) (r : Except Exn ConnectorResult) : Prop :=
  ∀ result, r = .ok result → Executed call effective result own

theorem hands_then {α : Type} {own : Seen} {result : ConnectorResult} (hran : Executed call effective result own) {p : Act α}
    {f : α → Act ConnectorResult} (hp : Minds (scribe R request) p)
    (hf : ∀ a own', Executed call effective result own' → Tells (fun _ _ => True)
      (fun later => (scribe R request).owes (own' ++ later)) (fun later => Hands call effective (own' ++ later)) (f a)) :
    Tells (fun _ _ => True) (fun later => (scribe R request).owes (own ++ later))
      (fun later => Hands call effective (own ++ later)) (p >>= f) := by
  refine Tells.bind (hp.after own) (fun later a _ => ?_) fun later e _ => error_ne_ok e
  simpa only [List.append_assoc] using hf a (own ++ later) (hran.after later)

theorem hands_return {own : Seen} {result : ConnectorResult} (hran : Executed call effective result own) :
    Tells (fun _ _ => True) (fun later => (scribe R request).owes (own ++ later))
      (fun later => Hands call effective (own ++ later)) (pure result) := by
  rintro _ ⟨⟩
  exact hran.after []

theorem hands_executor (ref : TurnRef) :
    Tells (fun _ _ => True) (scribe R request).owes (Hands call effective) (R.executor ref call effective) := by
  have hdoer : Tells (fun _ _ => True) (scribe R request).owes (fun own r => ∀ doerResult, r = .ok doerResult →
      Executed call effective doerResult.result own) (R.runDoer .inline call effective) := by
    refine Tells.bind (scribe_plain (R.plain_writeInheritanceIfDeclared call effective)) (fun own _ _ => ?_)
      fun own e _ => error_ne_ok e
    refine (tells_call (o := Op.env (.doer .inline call effective))).mpr ⟨trivial,fun r _ => ?_⟩
    rintro doerResult rfl
    exact ⟨doerResult,by simp,rfl⟩
  have hinline : Tells (fun _ _ => True) (scribe R request).owes (fun own r => ∀ doerResult, r = .ok doerResult →
      Executed call effective doerResult.result own) (R.runInline call effective) := by
    refine hdoer.tryCatch (fun _ _ h => h) fun own e _ => ?_
    split
    · refine Tells.bind (V := fun _ _ => True) ?_ (fun own' _ _ => error_ne_ok e) fun own' e' _ => error_ne_ok e'
      exact (tells_call (o := Op.audit _)).mpr ⟨trivial,fun _ _ => trivial⟩
    · exact error_ne_ok e
  refine hinline.bind (fun own doerResult h => ?_) fun own e _ => error_ne_ok e
  refine hands_then (h doerResult rfl) (minds_call (o := Op.audit _) trivial) fun _ own₁ h₁ => ?_
  refine hands_then h₁ (minds_unsettling ?_) fun _ own₂ h₂ => ?_
  · exact R.uses_afterRead (fun _ => unsettling_of_plain) (fun _ _ _ => trivial) ref call
  · refine hands_then h₂ (scribe_plain (R.plain_meterErrorBudget call)) fun _ own₃ h₃ => ?_
    exact hands_then h₃ (scribe_plain (R.plain_countObservation call)) fun _ own₄ h₄ => hands_return h₄

end Executing

section Claiming
open Enforcement
variable {R : BrokerRuntime} {request : AgentRequest} {key : String}

def Reads (key : String) (own : Seen) (decision : Decision) (result : ConnectorResult) : Prop :=
  ∃ row, (⟨.store (.getIdempotency key),.ok (some row)⟩ : Saw Op Op.Ret Exn) ∈ own ∧ row.status = .executed ∧
    row.decision = .ok decision ∧ decision.executes = true ∧ row.result = .ok result

theorem Reads.before {own : Seen} {decision : Decision} {result : ConnectorResult} (h : Reads key own decision result)
    (earlier : Seen) : Reads key (earlier ++ own) decision result := by
  obtain ⟨row,hmem,hrow⟩ := h
  exact ⟨row,List.mem_append_right _ hmem,hrow⟩

def Replays (request : AgentRequest) (own : Seen) (settled : EnforcementResult) : Prop :=
  settled.idempotent = true → ∃ key, request.idempotencyKey = some key ∧ Reads key own settled.decision settled.result

theorem replays_settledOutcome {row : IdempotencyRecord} {settled : EnforcementResult}
    (h : settledOutcome row key = .ok (some settled)) (hreplayed : settled.idempotent = true) :
    row.status = .executed ∧ row.decision = .ok settled.decision ∧ settled.decision.executes = true ∧
      row.result = .ok settled.result := by
  unfold settledOutcome at h
  split at h
  · cases h
    cases hreplayed
  · cases h
    cases hreplayed
  · next hstatus =>
    split at h
    · cases h
    · next decision hdecision =>
      split at h
      · next hexecutes =>
        split at h
        · cases h
        · next result hresult =>
          cases h
          exact ⟨hstatus,hdecision,hexecutes,hresult⟩
      · cases h

def Claims (request : AgentRequest) (own : Seen) (r : Except Exn (Option EnforcementResult)) : Prop :=
  ∀ settled, r = .ok (some settled) → Replays request own settled

theorem claims_error (e : Exn) (own : Seen) : Claims request own (.error e) := fun _ h => by cases h

theorem Claims.before {own : Seen} {r : Except Exn (Option EnforcementResult)} (h : Claims request own r) (earlier : Seen) :
    Claims request (earlier ++ own) r := by
  intro settled hsettled hreplayed
  obtain ⟨key,hkey,hreads⟩ := h settled hsettled hreplayed
  exact ⟨key,hkey,hreads.before earlier⟩

theorem claims_then {α : Type} {p : Act α} {f : α → Act (Option EnforcementResult)} (hp : Minds (scribe R request) p)
    (hf : ∀ a, Tells (fun _ _ => True) (scribe R request).owes (Claims request) (f a)) :
    Tells (fun _ _ => True) (scribe R request).owes (Claims request) (p >>= f) := by
  refine Tells.bind hp (fun own a _ => ?_) fun own e _ => claims_error e own
  exact (hf a).mono (fun later o => (scribe R request).stays own later o) fun later r h => h.before own

theorem claims_refusal (reason : String) :
    Tells (fun _ _ => True) (scribe R request).owes (Claims request) (pure (some (refusal reason)) : Act (Option EnforcementResult)) := by
  rintro _ ⟨⟩ hreplayed
  cases hreplayed

theorem claims_read (hkey : request.idempotencyKey = some key) {absent : Act (Option EnforcementResult)}
    {rest : IdempotencyRecord → Act (Option EnforcementResult)}
    (habsent : Tells (fun _ _ => True) (scribe R request).owes (Claims request) absent)
    (hrest : ∀ row, Tells (fun _ _ => True) (scribe R request).owes (Claims request) (rest row)) :
    Tells (fun _ _ => True) (scribe R request).owes (Claims request) (do
      match ← store (.getIdempotency key) with
      | none => absent
      | some stored =>
        match ← Prog.finish (settledOutcome stored key) with
        | some settled => return some settled
        | none => rest stored) := by
  have hlater {own : Seen} {p : Act (Option EnforcementResult)} (hp : Tells (fun _ _ => True) (scribe R request).owes (Claims request) p) :
      Tells (fun _ _ => True) (fun later => (scribe R request).owes (own ++ later)) (fun later => Claims request (own ++ later)) p :=
    hp.mono (fun later o => (scribe R request).stays own later o) fun later r h => h.before own
  refine Tells.bind (V := fun own r => own = [(⟨.store (.getIdempotency key),r⟩ : Saw Op Op.Ret Exn)])
    ((tells_call (o := Op.store (.getIdempotency key))).mpr ⟨trivial,fun r _ => rfl⟩) (fun own stored hown => ?_)
    fun own e _ => claims_error e own
  cases stored with
  | none => exact hlater habsent
  | some row =>
    refine Tells.bind (V := fun own' r => own' = [] ∧ r = settledOutcome row key) (by simp) (fun own' settled h => ?_)
      fun own' e _ => claims_error e _
    obtain ⟨rfl,houtcome⟩ := h
    cases settled with
    | none => exact hlater (hrest row)
    | some settled =>
      rintro _ ⟨⟩ hreplayed
      refine ⟨key,hkey,row,?_,replays_settledOutcome houtcome.symm hreplayed⟩
      subst hown
      simp

theorem claims_claimAbsent (hkey : request.idempotencyKey = some key) :
    Tells (fun _ _ => True) (scribe R request).owes (Claims request) (claimAbsent key) := by
  refine claims_then (minds_call (o := Op.env .nowIso) trivial) fun ts => ?_
  refine claims_then (minds_call (o := Op.store (.putIdempotencyIfAbsent _)) rfl) fun won => ?_
  cases won with
  | true => exact fun _ h => by cases h
  | false => exact claims_read hkey (claims_refusal _) fun _ => claims_refusal _

theorem claims_claim (hkey : request.idempotencyKey = some key) :
    Tells (fun _ _ => True) (scribe R request).owes (Claims request) (claim key) :=
  claims_read hkey (claims_claimAbsent hkey) fun _ =>
    claims_then (minds_call (o := Op.store (.deleteIdempotency key)) trivial) fun _ => claims_claimAbsent hkey

end Claiming

section Enforcing
open Enforcement
variable {R : BrokerRuntime} {request : AgentRequest} {q : Request} {cb : Callbacks}
  {executor : BrokeredCall → Decision → Act ConnectorResult} (hcb : cb.executor = some executor)
  (executes : ∀ effective, Tells (fun _ _ => True) (scribe R request).owes (Hands q.call effective) (executor q.call effective))
  (facts : ∀ call, Uses Plain (cb.freshFacts call)) (decides : ∀ call facts, Uses Plain (cb.decider call facts))
  (hcall : Requested R request q.call)

theorem unsettling_of_books {o : Op} (h : Bookkeeps none o) : Unsettling o := by
  cases o with
  | store o => cases o <;> trivial
  | _ => trivial

theorem never_then {α β : Type} {F : Duty Op Op.Ret Exn} {p : Act α} {f : α → Act β} (hp : Minds F p)
    (hf : ∀ a, Tells (fun _ _ => True) F.owes (fun _ r => ∀ b, r ≠ .ok b) (f a)) :
    Tells (fun _ _ => True) F.owes (fun _ r => ∀ b, r ≠ .ok b) (p >>= f) := by
  refine Tells.bind hp (fun own a _ => ?_) fun own e _ b h => by cases h
  exact (hf a).mono (fun later o => F.stays own later o) fun _ _ h => h

theorem never_sagaFailure (claimedKey : Option String) (entryId : String) (e : Exn) :
    Tells (fun _ _ => True) (scribe R request).owes (fun _ r => ∀ b, r ≠ .ok b) (sagaFailure q claimedKey entryId e) := by
  refine never_then (minds_unsettling ?_) fun _ => never_then (minds_unsettling ?_) fun _ b h => by cases h
  · exact (uses_markLedger q entryId e.str).mono fun _ => unsettling_of_books
  · cases claimedKey with
    | none => trivial
    | some key => exact uses_guarded (.bind (uses_store.mpr trivial) fun _ => trivial)

include hcb executes in
theorem hands_executeStep (claimedKey : Option String) (entryId : String) (effective : Decision) :
    Tells (fun _ _ => True) (scribe R request).owes
      (fun own r => effective.executes = true → Hands q.call effective own r) (executeStep q cb claimedKey entryId effective) := by
  have commits : Minds (scribe R request) (commit entryId) :=
    minds_unsettling ((uses_commit entryId).mono fun _ => unsettling_of_books)
  have runs : Tells (fun _ _ => True) (scribe R request).owes (fun own r => effective.executes = true → Hands q.call effective own r) (do
      let result ← runExecutor q cb claimedKey entryId effective
      commit entryId
      return result) := by
    refine Tells.bind (V := Hands q.call effective) ?_ (fun own result h => ?_) fun own e _ _ => error_ne_ok e
    · simp only [runExecutor,hcb]
      refine (executes effective).tryCatch (fun _ _ h => h) fun own e _ => ?_
      split
      · refine (never_sagaFailure claimedKey entryId e).mono (fun later o => (scribe R request).stays own later o) ?_
        exact fun later r h result hr => absurd hr (h result)
      · exact error_ne_ok e
    · refine (hands_then (h result rfl) commits fun _ own' h' => hands_return h').mono (fun _ _ h => h) fun own' r h _ => h
  have quiet : Tells (fun _ _ => True) (scribe R request).owes (fun own r => False → Hands q.call effective own r) (do
      commit entryId
      return ConnectorResult.none) := Tells.mono (commits.bind fun _ => minds_pure) (fun _ _ h => h) fun _ _ _ h => h.elim
  cases effective with
  | allow => exact runs
  | transform op args => exact runs
  | requireApproval renderedIntent reason => exact fun h => by cases h
  | deny reason => exact quiet.mono (fun _ _ h => h) fun _ _ _ h => by cases h
  | abstain escalate reason => exact quiet.mono (fun _ _ h => h) fun _ _ _ h => by cases h

include hcb executes facts decides hcall

theorem replays_enforceClaimed {claimedKey : Option String} (hkey : ∀ key, claimedKey = some key → request.idempotencyKey = some key) :
    Tells (fun _ _ => True) (scribe R request).owes (fun own r => ∀ res, r = .ok res → Replays request own res)
      (enforceClaimed q cb claimedKey) := by
  have prepared : Uses Unsettling (prepareOrRelease q cb claimedKey) := by
    refine .tryCatch (uses_prepare q (fun _ => unsettling_of_books) (fun _ _ _ => trivial)
      (fun call => (facts call).mono fun _ => unsettling_of_plain) fun call facts => (decides call facts).mono fun _ => unsettling_of_plain)
      fun e => .bind ?_ fun _ => trivial
    cases claimedKey with
    | none => trivial
    | some key => exact uses_guarded (uses_store.mpr trivial)
  refine Tells.bind (minds_unsettling prepared) (fun own out _ => ?_) fun own e _ => error_ne_ok e
  obtain ⟨effective,entryId⟩ := out
  refine Tells.bind ((hands_executeStep hcb executes claimedKey entryId effective).mono
    (fun later o => (scribe R request).stays own later o) fun _ _ h => h) (fun own' result h => ?_) fun own' e _ => error_ne_ok e
  refine Tells.bind (V := fun _ _ => True) ?_ (fun own'' _ _ => ?_) fun own'' e _ => error_ne_ok e
  · cases claimedKey with
    | none => trivial
    | some key =>
      simp only [settleClaim]
      split
      · next heff =>
        refine Tells.bind (V := fun _ r => r = resultJson result) (by simp) (fun own'' json hjson => ?_) fun _ _ _ => trivial
        refine Tells.bind (V := fun _ _ => True) ?_ (fun _ _ _ => trivial) fun _ _ _ => trivial
        refine (tells_call (o := Op.store (.completeIdempotency key (.json effective) json))).mpr ⟨?_,fun _ _ => trivial⟩
        have hran := ((h heff result rfl).before own).after (own'' ++ [])
        refine ⟨hkey key rfl,q.call,effective,result,hcall,rfl,?_,hjson.symm⟩
        simpa only [List.append_assoc] using hran
      · have hreleases : Minds (scribe R request) (releaseClaim key) := minds_unsettling (uses_guarded (uses_store.mpr trivial))
        simpa only [List.append_assoc] using hreleases.after (own ++ own')
  · rintro _ ⟨⟩ hreplayed
    cases hreplayed

theorem replays_enforce (hkey : q.idempotencyKey = request.idempotencyKey) :
    Tells (fun _ _ => True) (scribe R request).owes (fun own r => ∀ res, r = .ok res → Replays request own res) (enforce q cb) := by
  unfold enforce
  split
  · exact replays_enforceClaimed hcb executes facts decides hcall fun _ h => by cases h
  · next key hclaimed =>
    have hmine : request.idempotencyKey = some key := hkey.symm.trans hclaimed
    refine Tells.bind (claims_claim hmine) (fun own settled h => ?_) fun own e _ => error_ne_ok e
    cases settled with
    | some settled =>
      rintro _ ⟨⟩
      simpa using h settled rfl
    | none =>
      refine (replays_enforceClaimed hcb executes facts decides hcall fun _ h => by cases h; exact hmine).mono
        (fun later o => (scribe R request).stays own later o) fun later r hr res hres hreplayed => ?_
      obtain ⟨key',hkey',hreads⟩ := hr res hres hreplayed
      exact ⟨key',hkey',hreads.before own⟩

end Enforcing

section Responding
variable {R : BrokerRuntime} {request : AgentRequest}

def Hears (request : AgentRequest) (own : Seen) (r : Except Exn BrokerResponse) : Prop :=
  ∀ response, r = .ok response → response.idempotent = true → ∃ key decision, request.idempotencyKey = some key ∧
    Reads key own decision response.result ∧ response.decisionKind = decision.kind ∧
    response.reason = BrokerRuntime.reasonOf decision

theorem Hears.before {own : Seen} {r : Except Exn BrokerResponse} (h : Hears request own r) (earlier : Seen) :
    Hears request (earlier ++ own) r := by
  intro response hresponse hreplayed
  obtain ⟨key,decision,hkey,hreads,hrest⟩ := h response hresponse hreplayed
  exact ⟨key,decision,hkey,hreads.before earlier,hrest⟩

theorem hears_fresh {own : Seen} {response : BrokerResponse} (h : response.idempotent = false) : Hears request own (.ok response) := by
  rintro _ ⟨⟩ hreplayed
  rw [h] at hreplayed
  cases hreplayed

theorem hears_then {α : Type} {p : Act α} {f : α → Act BrokerResponse} (hp : Minds (scribe R request) p)
    (hf : ∀ a, Tells (fun _ _ => True) (scribe R request).owes (Hears request) (f a)) :
    Tells (fun _ _ => True) (scribe R request).owes (Hears request) (p >>= f) := by
  refine Tells.bind hp (fun own a _ => ?_) fun own e _ => error_ne_ok e
  exact (hf a).mono (fun later o => (scribe R request).stays own later o) fun later r h => h.before own

theorem hears_respond {own : Seen} {result : EnforcementResult} (h : Replays request own result) (call : BrokeredCall) :
    Tells (fun _ _ => True) (fun later => (scribe R request).owes (own ++ later)) (fun later => Hears request (own ++ later))
      (R.respond none call result) := by
  by_cases hreplayed : result.idempotent = true
  · unfold BrokerRuntime.respond
    rw [if_pos hreplayed]
    rintro _ ⟨⟩ -
    obtain ⟨key,hkey,hreads⟩ := h hreplayed
    exact ⟨key,result.decision,hkey,by simpa using hreads,rfl,rfl⟩
  · have hquiet : Minds (scribe R request) (R.respond none call result) := scribe_plain (R.plain_respond none call result)
    refine ((hquiet.after own).and (R.yields_respond none call result)).mono (fun _ _ h => h) fun later r hr response hresponse hidem => ?_
    rcases hr.2 response hresponse with ⟨hidem',-⟩ | ⟨-,-,hcut⟩ | ⟨-,-,hdelivers⟩
    · exact absurd hidem' hreplayed
    · rw [hcut.fresh] at hidem
      cases hidem
    · rw [hdelivers.fresh] at hidem
      cases hidem

theorem hears_decideCall (ref : TurnRef) {call : BrokeredCall} (hcall : Requested R request call) :
    Tells (fun _ _ => True) (scribe R request).owes (Hears request) (R.decideCall request none ref call) := by
  have hdecides (call : BrokeredCall) (facts : Facts) : Uses Plain (R.deciderFor none call facts) :=
    R.plain_decide call facts
  refine hears_then (scribe_plain (R.plain_pip call)) fun facts => ?_
  refine hears_then (scribe_plain (R.plain_surfaceQuarantinedGrant none call facts)) fun _ => ?_
  refine hears_then (scribe_plain (hdecides call facts)) fun initialDecision => ?_
  refine hears_then (scribe_plain (plain_counterKey _ _ _ _ _)) fun key => ?_
  have henforced : Tells (fun _ _ => True) (scribe R request).owes (fun own r => ∀ res, r = .ok (.ok res) → Replays request own res)
      (R.enforceCall request none ref call initialDecision key) := by
    refine Tells.tryCatch (V := fun own r => ∀ res, r = .ok (.ok res) → Replays request own res) ?_ (fun _ _ h => h) fun own e _ => ?_
    · refine Tells.bind (scribe_plain (R.plain_treeDraws _ _ _)) (fun own draws _ => ?_) fun own e _ _ h => by cases h
      have henforce : Tells (fun _ _ => True) (scribe R request).owes (fun own r => ∀ res, r = .ok res → Replays request own res)
          (Enforcement.enforce (R.requestFor request call initialDecision key draws) (R.callbacksFor none ref)) :=
        replays_enforce rfl (fun effective => hands_executor ref) R.plain_pip hdecides hcall rfl
      refine Tells.bind (henforce.mono (fun later o => (scribe R request).stays own later o) fun _ _ h => h)
        (fun own' result h => ?_) fun own' e _ _ h => by cases h
      rintro _ ⟨⟩ hreplayed
      obtain ⟨key',hkey',hreads⟩ := h result rfl hreplayed
      exact ⟨key',hkey',by simpa using hreads.before own⟩
    · split
      · exact fun _ h => by cases h
      · exact fun _ h => by cases h
  refine henforced.bind (fun own out h => ?_) fun own e _ => error_ne_ok e
  cases out with
  | error e => exact hears_fresh rfl
  | ok result => exact hears_respond (h result rfl) call

theorem requested_materializeCall (entry : ToolOp) (turn : TurnContext) (confidence : Option ConfidenceArtifact) (ts : Instant) :
    Requested R request (R.materializeCall request entry turn confidence ts) := ⟨rfl,rfl,rfl,rfl⟩

theorem hears_dispatch (ref : TurnRef) (turn : TurnContext) :
    Tells (fun _ _ => True) (scribe R request).owes (Hears request) (R.dispatch request none ref turn) := by
  have hdecided (entry : ToolOp) (confidence : Option ConfidenceArtifact) : Tells (fun _ _ => True) (scribe R request).owes
      (Hears request) (R.stampAndDecide request none ref entry turn confidence) :=
    hears_then (minds_call (o := Op.process _) trivial) fun ts => hears_decideCall ref (requested_materializeCall _ _ _ ts)
  unfold BrokerRuntime.dispatch
  split
  · exact hears_then (minds_call (o := Op.audit _) trivial) fun _ => hears_fresh rfl
  · split
    · exact hears_fresh rfl
    · exact hdecided _ none
    · exact hdecided _ _

theorem hears_handleRequest (turnContext : Option TurnRef) (ingestedSources : List String) :
    Tells (fun _ _ => True) (scribe R request).owes (Hears request) (R.handleRequest request turnContext ingestedSources) := by
  have hturn : Minds (scribe R request) (R.turnFor turnContext) :=
    minds_unsettling (R.uses_turnFor (fun _ => unsettling_of_plain) (fun _ => trivial) turnContext)
  have hingest (ref : TurnRef) : Minds (scribe R request) (R.ingestSources ref ingestedSources) :=
    minds_unsettling (R.uses_ingestSources (fun _ => trivial) ref ingestedSources)
  unfold BrokerRuntime.handleRequest
  split
  · refine hears_then hturn fun ref => hears_then (hingest ref) fun _ => ?_
    exact hears_then (minds_call (o := Op.audit _) trivial) fun _ => hears_fresh rfl
  · refine hears_then hturn fun ref => hears_then (hingest ref) fun _ => ?_
    refine hears_then (minds_unsettling (BrokerRuntime.uses_contextOf (fun _ => trivial) ref)) fun turn => ?_
    exact hears_dispatch ref turn

end Responding

section Rows
variable {ι : Type} {tr : List (Event ι Op Op.Ret Exn)} {es : EnforcementState}

def Backed (tr : List (Event ι Op Op.Ret Exn)) (es : EnforcementState) : Prop :=
  ∀ key row, es.idempotency key = some row → row.status = .executed →
    ∃ j r, (⟨j,.store (.completeIdempotency key row.decisionJson row.resultJson),r⟩ : Event ι Op Op.Ret Exn) ∈ tr

theorem Backed.later (h : Backed tr es) (e : Event ι Op Op.Ret Exn) {es' : EnforcementState}
    (hrows : ∀ key row, es'.idempotency key = some row → row.status = .executed → es.idempotency key = some row ∨
      ∃ j r, e = ⟨j,.store (.completeIdempotency key row.decisionJson row.resultJson),r⟩) : Backed (tr ++ [e]) es' := by
  intro key row hrow hstatus
  rcases hrows key row hrow hstatus with hold | ⟨j,r,rfl⟩
  · obtain ⟨j,r,hmem⟩ := h key row hold hstatus
    exact ⟨j,r,List.mem_append_left _ hmem⟩
  · exact ⟨j,r,by simp⟩

theorem idempotency_setIdempotency {key key' : String} {stored : Option IdempotencyRecord} {row : IdempotencyRecord}
    (h : (es.setIdempotency key stored).idempotency key' = some row) :
    es.idempotency key' = some row ∨ key' = key ∧ stored = some row := by
  by_cases hkey : key' = key
  · subst hkey
    exact .inr ⟨rfl,by simpa [EnforcementState.setIdempotency] using h⟩
  · exact .inl (by simpa [EnforcementState.setIdempotency,Function.update_of_ne hkey] using h)

theorem settle_rows {key key' : String} {f : IdempotencyRecord → IdempotencyRecord} {row : IdempotencyRecord}
    (h : (StoreOp.settle es key f).2.idempotency key' = some row) :
    es.idempotency key' = some row ∨ key' = key ∧ ∃ stored, row = f stored := by
  unfold StoreOp.settle at h
  split at h
  · next stored hstored =>
    split at h
    · rcases idempotency_setIdempotency h with hold | ⟨hkey,hrow⟩
      · exact .inl hold
      · cases hrow
        exact .inr ⟨hkey,stored,rfl⟩
    · exact .inl h
  · exact .inl h

theorem Backed.apply (h : Backed tr es) (b : Backend) (i : ι) (o : StoreOp) (r : Except Exn o.Ret)
    (hput : ∀ record, o = .putIdempotencyIfAbsent record → record.status = .inFlight) :
    Backed (tr ++ [⟨i,.store o,r⟩]) (o.apply b es).2 := by
  refine h.later _ fun key row hrow hstatus => ?_
  cases o with
  | completeIdempotency other decisionJson resultJson =>
    rcases settle_rows hrow with hold | ⟨rfl,stored,rfl⟩
    · exact .inl hold
    · exact .inr ⟨i,r,rfl⟩
  | failIdempotency other error =>
    rcases settle_rows hrow with hold | ⟨rfl,stored,rfl⟩
    · exact .inl hold
    · cases hstatus
  | putIdempotencyIfAbsent record =>
    simp only [StoreOp.apply] at hrow
    split at hrow
    · exact .inl hrow
    · rcases idempotency_setIdempotency hrow with hold | ⟨-,hnew⟩
      · exact .inl hold
      · cases hnew
        rw [hput _ rfl] at hstatus
        cases hstatus
  | deleteIdempotency other =>
    rcases idempotency_setIdempotency hrow with hold | ⟨-,hnew⟩
    · exact .inl hold
    · cases hnew
  | commitLedger entryId ts => exact .inl (by simpa [StoreOp.apply] using hrow)
  | compensateLedger entryId error => exact .inl (by simpa [StoreOp.apply] using hrow)
  | escalateLedger entryId error => exact .inl (by simpa [StoreOp.apply] using hrow)
  | _ => exact .inl hrow

theorem Backed.same (h : Backed tr es) (e : Event ι Op Op.Ret Exn) : Backed (tr ++ [e]) es := h.later e fun _ _ hrow _ => .inl hrow

variable [DecidableEq ι] {B : Substrate} {β : Type} {G : Guard ι Op Op.Ret Exn State β} {c c' : Config ι Op Op.Ret Exn State β}

theorem Backed.step {a b : Config ι Op Op.Ret Exn State β} {e : Event ι Op Op.Ret Exn} (h : Backed tr a.state.enforcement)
    (hs : Step B.device a e b) (hput : ∀ record, e.op = .store (.putIdempotencyIfAbsent record) → record.status = .inFlight) :
    Backed (tr ++ [e]) b.state.enforcement := by
  obtain ⟨i,o,r⟩ := e
  obtain ⟨x,-,hstate⟩ := hs.effect
  rw [hstate]
  cases o with
  | store o =>
    have hrows := h.apply B.backend i o r fun record ho => hput record (congrArg Op.store ho)
    exact Delivery.receive_state x (h.same _) hrows
  | _ => exact h.same _

theorem backed_run (h : Run B.device G c tr c') (hempty : ∀ key, c.state.enforcement.idempotency key = none)
    (hput : ∀ e ∈ tr, ∀ record, e.op = .store (.putIdempotencyIfAbsent record) → record.status = .inFlight) :
    Backed tr c'.state.enforcement := by
  induction h with
  | refl =>
    intro key row hrow
    rw [hempty] at hrow
    cases hrow
  | step hrun hs hg ih =>
    exact (ih fun e he => hput e (List.mem_append_left _ he)).step hs (hput _ (by simp))

end Rows

def replayOf (result : ConnectorResult) : Except Exn ConnectorResult := do
  match ← Enforcement.resultJson result with
  | none => return .none
  | some text => loads text

structure SameCall (R R' : BrokerRuntime) (request request' : AgentRequest) : Prop where
  principal : R.principal = R'.principal
  tool : request.tool = request'.tool
  op : request.op = request'.op
  args : request.args = request'.args

section Replaying
variable {ι : Type} [DecidableEq ι]

structure Inbound where
  runtime : BrokerRuntime
  request : AgentRequest
  turnContext : Option TurnRef := none
  ingestedSources : List String := []

def Inbound.program (q : Inbound) : Act BrokerResponse := q.runtime.handleRequest q.request q.turnContext q.ingestedSources

structure Replayed (calls : ι → Inbound) (tr : List (Event ι Op Op.Ret Exn)) (i : ι) (response : BrokerResponse) (j : ι) (key : String)
    (call : BrokeredCall) (effective : Decision) (doerResult : DoerResult) : Prop where
  asked : (calls i).request.idempotencyKey = some key
  shared : (calls j).request.idempotencyKey = some key
  requested : Requested (calls j).runtime (calls j).request call
  executed : (⟨j,.env (.doer .inline call effective),.ok doerResult⟩ : Event ι Op Op.Ret Exn) ∈ tr
  decision : response.decisionKind = effective.kind ∧ response.reason = BrokerRuntime.reasonOf effective
  result : replayOf doerResult.result = .ok response.result

theorem replay_stays_under_its_key (B : Substrate) (calls : ι → Inbound) (s : State)
    (hempty : ∀ key, s.enforcement.idempotency key = none) {tr : List (Event ι Op Op.Ret Exn)}
    {c' : Config ι Op Op.Ret Exn State BrokerResponse}
    (h : Run B.device anyStep ⟨s,fun i => (calls i).program⟩ tr c') {i : ι} {response : BrokerResponse}
    (hreturned : c'.threads i = .ret response) (hreplayed : response.idempotent = true) :
    ∃ j key call effective doerResult, Replayed calls tr i response j key call effective doerResult ∧
      ((∀ j, (calls j).request.idempotencyKey = some key →
          SameCall (calls j).runtime (calls i).runtime (calls j).request (calls i).request) →
        Requested (calls i).runtime (calls i).request call) := by
  have hminds (j : ι) : Minds (scribe (calls j).runtime (calls j).request) (calls j).program :=
    Tells.mono (hears_handleRequest (calls j).turnContext (calls j).ingestedSources) (fun _ _ h => h) fun _ _ _ => trivial
  obtain ⟨key,decision,hasked,⟨row,hread,hstatus,hdecision,hexecutes,hresult⟩,hkind,hreason⟩ :=
    h.told (fun _ _ _ _ _ => trivial) (hears_handleRequest (calls i).turnContext (calls i).ingestedSources) hreturned response rfl
      hreplayed
  obtain ⟨tr₁,tr₂,htr⟩ := List.append_of_mem (mem_own.mp hread)
  obtain ⟨c₁,c₂,h₁,hs,-,-⟩ := h.split htr
  have hrow : c₁.state.enforcement.idempotency key = some row := by
    obtain ⟨x,hreply,-⟩ := hs.effect
    cases x with
    | answered => exact (Except.ok.inj hreply).symm
    | fault e => cases hreply
    | lost e => cases hreply
  have hbacked : Backed tr₁ c₁.state.enforcement := by
    refine backed_run h₁ hempty ?_
    rintro ⟨j,o,r⟩ he record rfl
    obtain ⟨tr₃,tr₄,htr₁⟩ := List.append_of_mem he
    exact h₁.minded (hminds j) htr₁
  obtain ⟨j,r,hcompleted⟩ := hbacked key row hrow hstatus
  obtain ⟨tr₃,tr₄,htr₁⟩ := List.append_of_mem hcompleted
  obtain ⟨hshared,call,effective,result,hcall,hjson,⟨doerResult,hran,rfl⟩,hstored⟩ := h₁.minded (hminds j) htr₁
  have heffective : decision = effective := by
    rw [IdempotencyRecord.decision,hjson] at hdecision
    exact (Except.ok.inj hdecision).symm
  subst heffective
  have hran' : (⟨j,.env (.doer .inline call decision),.ok doerResult⟩ : Event ι Op Op.Ret Exn) ∈ tr := by
    rw [htr,htr₁]
    exact List.mem_append_left _ (List.mem_append_left _ (mem_own.mp hran))
  have hreplay : replayOf doerResult.result = .ok response.result := by
    rw [IdempotencyRecord.result] at hresult
    rw [replayOf,hstored]
    cases hjson : row.resultJson with
    | none =>
      rw [hjson] at hresult
      exact hresult
    | some text =>
      rw [hjson] at hresult
      exact hresult
  refine ⟨j,key,call,decision,doerResult,⟨hasked,hshared,hcall,hran',⟨hkind,hreason⟩,hreplay⟩,fun hscoped => ?_⟩
  have hsame := hscoped j hshared
  exact ⟨hcall.principal.trans hsame.principal,hcall.tool.trans hsame.tool,hcall.op.trans hsame.op,hcall.args.trans hsame.args⟩

end Replaying

def inboxOf (principal : Principal) : BrokerRuntime where
  instanceId := principal.user
  principal
  optable := ⟨[{ tool := "mail", op := "read", effect := .read, external := false }],List.pairwise_singleton _ _⟩
  pip call := env (.freshFacts call)
  pipReads := reads_freshFacts
  trustMap _ := false
  envelopeHash := "envelope"
  inheritanceRequired _ m hm := by
    obtain rfl := List.mem_singleton.mp hm
    rfl
  digests := ⟨fun _ => "",fun _ => "",fun _ => "",fun _ => ""⟩
  pyFloat _ := ""

def sam : Principal := ⟨"mailer","inbox","sam",.B⟩

def kim : Principal := ⟨"mailer","inbox","kim",.B⟩

def keyed : AgentRequest := { tool := "mail", op := "read", args := .obj [], idempotencyKey := some "turn-1" }

def twoInboxes : Bool → Inbound
  | false => { runtime := inboxOf sam, request := keyed }
  | true => { runtime := inboxOf kim, request := keyed }

def delivering (mail : String) : Oracle memory.device
  | .env (.doer _ call _) => (.ok { op := call.op, result := .native (.str mail) } : Except Exn DoerResult)
  | o => memory.calm o

def samThenKim : List (Event Bool Op Op.Ret Exn) × Config Bool Op Op.Ret Exn State BrokerResponse :=
  play memory.device (List.replicate 40 (false,delivering "for sam") ++ List.replicate 40 (true,delivering "for kim"))
    ⟨emptyState,fun i => (twoInboxes i).program⟩

def shown (response : BrokerResponse) : Kind × Bool × Option String :=
  (response.decisionKind,response.idempotent,
    match response.result with
    | .native value => value.str?
    | _ => none)

theorem replay_stays_under_its_key_turn : ∃ response j key call effective doerResult,
    samThenKim.2.threads true = .ret response ∧ Replayed twoInboxes samThenKim.1 true response j key call effective doerResult := by
  obtain ⟨response,hreturned,hshown⟩ := Prog.ret_of_outcome
    (show (samThenKim.2.threads true).outcome.bind (fun r => r.toOption.map shown) = some (.allow,true,some "for sam") by
      decide +kernel)
  have hreplayed : response.idempotent = true := (Prod.mk.inj (Prod.mk.inj hshown).2).1
  obtain ⟨j,key,call,effective,doerResult,hfrom,-⟩ :=
    replay_stays_under_its_key memory twoInboxes emptyState (fun _ => rfl) (play_run _ _) hreturned hreplayed
  exact ⟨response,j,key,call,effective,doerResult,hreturned,hfrom⟩

def doerPrincipals (tr : List (Event Bool Op Op.Ret Exn)) : List Principal :=
  tr.filterMap fun e =>
    match e.op with
    | .env (.doer _ call _) => some call.principal
    | _ => none

theorem another_principals_result_is_replayed :
    sam ≠ kim ∧ doerPrincipals samThenKim.1 = [sam] ∧ (twoInboxes true).runtime.principal = kim ∧
      ∃ response, samThenKim.2.threads true = .ret response ∧ shown response = (.allow,true,some "for sam") :=
  ⟨by decide,by decide +kernel,rfl,Prog.ret_of_outcome (by decide +kernel)⟩

end Runtime

end SafeAgents
