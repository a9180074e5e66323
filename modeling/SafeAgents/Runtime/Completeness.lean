import SafeAgents.Enforcement.Rules
import SafeAgents.Runtime.Raising
import SafeAgents.Runtime.Rules

namespace SafeAgents

open Interleaving

namespace Runtime

abbrev Told {α : Type} (V : Seen → Except Exn α → Prop) (p : Act α) : Prop := Tells Honest (fun _ _ => True) V p

def Wrote (own : Seen) (P : AuditRecord → Prop) : Prop := ∃ record, (⟨.audit record,.ok ()⟩ : Saw Op Op.Ret Exn) ∈ own ∧ P record

theorem Wrote.before {own : Seen} {P : AuditRecord → Prop} (h : Wrote own P) (earlier : Seen) : Wrote (earlier ++ own) P := by
  obtain ⟨record,hmem,hP⟩ := h
  exact ⟨record,List.mem_append_right _ hmem,hP⟩

theorem Wrote.after {own : Seen} {P : AuditRecord → Prop} (h : Wrote own P) (later : Seen) : Wrote (own ++ later) P := by
  obtain ⟨record,hmem,hP⟩ := h
  exact ⟨record,List.mem_append_left _ hmem,hP⟩

theorem Wrote.imp {own : Seen} {P P' : AuditRecord → Prop} (h : Wrote own P) (hP : ∀ record, P record → P' record) :
    Wrote own P' := by
  obtain ⟨record,hmem,hrecord⟩ := h
  exact ⟨record,hmem,hP record hrecord⟩

def ranRecord (call : BrokeredCall) (effective : Decision) (record : AuditRecord) : Prop :=
  record.principal = call.principal ∧ record.tool = call.tool ∧ record.op = BrokerRuntime.effectiveOp call effective ∧
    record.decision = effective.kind ∧ record.outcome = .executed

def failedRecord (call : BrokeredCall) (effective : Decision) (e : Exn) (record : AuditRecord) : Prop :=
  record.principal = call.principal ∧ record.tool = call.tool ∧ record.op = call.op ∧ record.decision = effective.kind ∧
    record.outcome = if e.refused then .refused else .failed

def DoerRan (call : BrokeredCall) (effective : Decision) (own : Seen) : Prop :=
  ∃ result, (⟨.env (.doer .inline call effective),.ok result⟩ : Saw Op Op.Ret Exn) ∈ own

def Ran (call : BrokeredCall) (effective : Decision) (own : Seen) : Prop :=
  DoerRan call effective own ∧ Wrote own (ranRecord call effective)

def Failed (call : BrokeredCall) (effective : Decision) (e : Exn) (own : Seen) : Prop :=
  e.isConnectorExecution = true → Wrote own (failedRecord call effective e)

theorem Ran.before {call : BrokeredCall} {effective : Decision} {own : Seen} (h : Ran call effective own) (earlier : Seen) :
    Ran call effective (earlier ++ own) := by
  obtain ⟨⟨result,hmem⟩,hwrote⟩ := h
  exact ⟨⟨result,List.mem_append_right _ hmem⟩,hwrote.before earlier⟩

theorem Ran.after {call : BrokeredCall} {effective : Decision} {own : Seen} (h : Ran call effective own) (later : Seen) :
    Ran call effective (own ++ later) := by
  obtain ⟨⟨result,hmem⟩,hwrote⟩ := h
  exact ⟨⟨result,List.mem_append_left _ hmem⟩,hwrote.after later⟩

theorem failed_of_mild {call : BrokeredCall} {effective : Decision} {e : Exn} {own : Seen} (h : e.isConnectorExecution = false) :
    Failed call effective e own := by
  intro hconnector
  rw [h] at hconnector
  cases hconnector

def Executes (call : BrokeredCall) (effective : Decision) (own : Seen) (r : Except Exn ConnectorResult) : Prop :=
  (∀ result, r = .ok result → Ran call effective own) ∧ ∀ e, r = .error e → Failed call effective e own

theorem executes_raised {call : BrokeredCall} {effective : Decision} {own : Seen} {e : Exn} (h : Failed call effective e own) :
    Executes call effective own (.error e) := by
  refine ⟨error_ne_ok e,?_⟩
  rintro _ ⟨⟩
  exact h

theorem told_emit {record : AuditRecord} {P : AuditRecord → Prop} (hP : P record) :
    Told (fun own r => (r = .ok () → Wrote own P) ∧ ∀ e, r = .error e → e.isConnectorExecution = false) (emit record) := by
  refine (tells_call (o := Op.audit record)).mpr ⟨trivial,fun r hhonest => ⟨?_,hhonest⟩⟩
  rintro rfl
  exact ⟨record,List.mem_singleton.mpr rfl,hP⟩

theorem executes_tail {call : BrokeredCall} {effective : Decision} {own : Seen} (hran : Ran call effective own)
    {p : Act ConnectorResult} (hp : Mild p) : Told (fun later => Executes call effective (own ++ later)) p := by
  refine Tells.mono hp (fun _ _ h => h) fun later r hraises => ⟨fun _ _ => hran.after later,fun e he => ?_⟩
  exact failed_of_mild (hraises e he)

namespace BrokerRuntime
variable (R : BrokerRuntime)

def DoerAnswered (call : BrokeredCall) (effective : Decision) (own : Seen) (r : Except Exn DoerResult) : Prop :=
  (∀ result, r = .ok result → (⟨.env (.doer .inline call effective),.ok result⟩ : Saw Op Op.Ret Exn) ∈ own ∧
    result.op = effectiveOp call effective) ∧ ∀ e, r = .error e → Failed call effective e own

theorem doerAnswered_raised {call : BrokeredCall} {effective : Decision} {own : Seen} {e : Exn}
    (h : Failed call effective e own) : DoerAnswered call effective own (.error e) := by
  refine ⟨error_ne_ok e,?_⟩
  rintro _ ⟨⟩
  exact h

theorem told_runDoer (call : BrokeredCall) (effective : Decision) :
    Told (fun own r => ∀ result, r = .ok result →
      (⟨.env (.doer .inline call effective),.ok result⟩ : Saw Op Op.Ret Exn) ∈ own ∧ result.op = effectiveOp call effective)
      (R.runDoer .inline call effective) := by
  refine Tells.bind (tells_anyhow fun _ _ => trivial) (fun own _ _ => ?_) fun _ e _ => error_ne_ok e
  refine tells_call.mpr ⟨trivial,fun r hhonest => ?_⟩
  rintro result rfl
  exact ⟨by simp,hhonest result rfl⟩

theorem told_runInline (call : BrokeredCall) (effective : Decision) :
    Told (DoerAnswered call effective) (R.runInline call effective) := by
  refine (R.told_runDoer call effective).tryCatch (fun own a h => ⟨h,fun e he => by cases he⟩) fun own e _ => ?_
  split
  · refine (told_emit ⟨rfl,rfl,rfl,rfl,rfl⟩ : Told (fun own' r => (r = .ok () → Wrote own' (failedRecord call effective e)) ∧
      ∀ e', r = .error e' → e'.isConnectorExecution = false) _).bind (fun own' _ h => ?_) fun own' e' h => ?_
    · refine doerAnswered_raised fun _ => ?_
      simpa using (h.1 rfl).before own
    · exact doerAnswered_raised (failed_of_mild (h.2 e' rfl))
  · next hother => exact doerAnswered_raised (failed_of_mild (by simpa using hother))

theorem told_executor (ref : TurnRef) (call : BrokeredCall) (effective : Decision) :
    Told (Executes call effective) (R.executor ref call effective) := by
  refine (R.told_runInline call effective).bind (fun own doerResult h => ?_) fun own e h => executes_raised (h.2 e rfl)
  obtain ⟨hdoer,hop⟩ := h.1 doerResult rfl
  refine (told_emit ⟨rfl,rfl,hop,rfl,rfl⟩ : Told (fun own' r => (r = .ok () → Wrote own' (ranRecord call effective)) ∧
    ∀ e', r = .error e' → e'.isConnectorExecution = false) _).bind (fun own' _ h' => ?_) fun own' e' h' => ?_
  · have hran : Ran call effective (own ++ own') := ⟨⟨doerResult,List.mem_append_left _ hdoer⟩,(h'.1 rfl).before own⟩
    have htail : Mild (do
        R.afterRead ref call
        R.meterErrorBudget call
        R.countObservation call
        return doerResult.result) :=
      .bind (R.mild_afterRead ref call) fun _ => .bind (R.mild_meterErrorBudget call) fun _ =>
        .bind (R.mild_countObservation call) fun _ => mild_pure
    refine (executes_tail hran htail).mono (fun _ _ h => h) fun later r h => ?_
    rwa [← List.append_assoc]
  · exact executes_raised (failed_of_mild (h'.2 e' rfl))

end BrokerRuntime

section Enforcement
open SafeAgents.Enforcement
variable {q : Request} {cb : Callbacks} {executor : BrokeredCall → Decision → Act ConnectorResult}

def Enforces (call : BrokeredCall) (own : Seen) (r : Except Exn EnforcementResult) : Prop :=
  (∀ res, r = .ok res → res.idempotent = true ∨ res.decision.executes = false ∨ Ran call res.decision own) ∧
    ∀ e, r = .error e → e.isConnectorExecution = true →
      ∃ effective, effective.executes = true ∧ Wrote own (failedRecord call effective e)

theorem enforces_mild {call : BrokeredCall} {own : Seen} {e : Exn} (h : e.isConnectorExecution = false) :
    Enforces call own (.error e) := by
  refine ⟨error_ne_ok e,?_⟩
  rintro _ ⟨⟩ hconnector
  rw [h] at hconnector
  cases hconnector

theorem Enforces.before {call : BrokeredCall} {own : Seen} {r : Except Exn EnforcementResult} (h : Enforces call own r)
    (earlier : Seen) : Enforces call (earlier ++ own) r := by
  refine ⟨fun res hres => ?_,fun e he hconnector => ?_⟩
  · rcases h.1 res hres with hreplayed | hrefuses | hran
    · exact .inl hreplayed
    · exact .inr (.inl hrefuses)
    · exact .inr (.inr (hran.before earlier))
  · obtain ⟨effective,heff,hwrote⟩ := h.2 e he hconnector
    exact ⟨effective,heff,hwrote.before earlier⟩

theorem told_runExecutor (hcb : cb.executor = some executor)
    (hexec : ∀ effective, effective.executes = true → Told (Executes q.call effective) (executor q.call effective))
    {effective : Decision} (heff : effective.executes = true) (claimedKey : Option String) (entryId : String) :
    Told (Executes q.call effective) (runExecutor q cb claimedKey entryId effective) := by
  simp only [runExecutor,hcb]
  refine (hexec effective heff).tryCatch (fun _ _ h => h) fun own e h => ?_
  have hfailed := h.2 e rfl
  split
  · -- the saga's own faults are mild; otherwise the executor's exception goes on
    refine Tells.bind (mild_markLedger q entryId e.str) (fun own' _ _ => ?_) fun own' e' h' => ?_
    · refine Tells.bind (mild_failIfClaimed claimedKey e.str) (fun own'' _ _ => ?_) fun own'' e' h' => ?_
      · refine executes_raised fun hconnector => ?_
        simpa [List.append_assoc] using (hfailed hconnector).after (own' ++ own'')
      · exact executes_raised (failed_of_mild (h' e' rfl))
    · exact executes_raised (failed_of_mild (h' e' rfl))
  · exact executes_raised (by simpa using hfailed)

theorem told_executeStep (hcb : cb.executor = some executor)
    (hexec : ∀ effective, effective.executes = true → Told (Executes q.call effective) (executor q.call effective))
    (effective : Decision) (claimedKey : Option String) (entryId : String) :
    Told (fun own r => if effective.executes = true then Executes q.call effective own r
      else ∀ e, r = .error e → e.isConnectorExecution = false) (executeStep q cb claimedKey entryId effective) := by
  have hrun (heff : effective.executes = true) : Told (Executes q.call effective) (do
      let result ← runExecutor q cb claimedKey entryId effective
      commit entryId
      return result) := by
    refine (told_runExecutor hcb hexec heff claimedKey entryId).bind (fun own result h => ?_)
      fun own e h => executes_raised (h.2 e rfl)
    exact executes_tail (h.1 result rfl) (.bind (mild_commit entryId) fun _ => mild_pure)
  have hquiet : Mild (do
      commit entryId
      return ConnectorResult.none) := .bind (mild_commit entryId) fun _ => mild_pure
  cases effective with
  | allow => exact hrun rfl
  | transform op args => exact hrun rfl
  | requireApproval renderedIntent reason => exact mild_pure
  | deny reason => exact hquiet
  | abstain escalate reason => exact hquiet

theorem told_enforceClaimed (hcb : cb.executor = some executor)
    (hexec : ∀ effective, effective.executes = true → Told (Executes q.call effective) (executor q.call effective))
    (facts : Mild (cb.freshFacts q.call)) (decides : ∀ facts, Mild (cb.decider q.call facts)) (claimedKey : Option String) :
    Told (Enforces q.call) (enforceClaimed q cb claimedKey) := by
  refine Tells.bind (mild_prepareOrRelease q cb claimedKey facts decides) (fun own prepared _ => ?_)
    fun own e h => enforces_mild (h e rfl)
  obtain ⟨effective,entryId⟩ := prepared
  refine (told_executeStep hcb hexec effective claimedKey entryId).bind (fun own' result h => ?_) fun own' e h => ?_
  · refine Tells.bind (mild_settleClaim claimedKey effective result) (fun own'' _ _ => ?_) fun own'' e h' => ?_
    · refine ⟨?_,fun _ h => by cases h⟩
      rintro _ ⟨⟩
      by_cases heff : effective.executes = true
      · rw [if_pos heff] at h
        have hran : Ran q.call effective (own ++ (own' ++ own'')) := ((h.1 result rfl).after own'').before own
        exact .inr (.inr (by simpa using hran))
      · exact .inr (.inl (by simpa using heff))
    · exact enforces_mild (h' e rfl)
  · cases heff : effective.executes with
    | false =>
      rw [heff,if_neg (by simp)] at h
      exact enforces_mild (h e rfl)
    | true =>
      rw [if_pos heff] at h
      refine ⟨error_ne_ok e,?_⟩
      rintro _ ⟨⟩ hconnector
      exact ⟨effective,heff,(h.2 e rfl hconnector).before own⟩

theorem told_enforce (hcb : cb.executor = some executor)
    (hexec : ∀ effective, effective.executes = true → Told (Executes q.call effective) (executor q.call effective))
    (facts : Mild (cb.freshFacts q.call)) (decides : ∀ facts, Mild (cb.decider q.call facts)) :
    Told (Enforces q.call) (enforce q cb) := by
  unfold enforce
  split
  · exact told_enforceClaimed hcb hexec facts decides none
  · next key hkey =>
    have hclaim := Tells.and (mild_claim key) (yields_claim fun o (_ : Bookkeeps (some key) o) => trivial)
    refine hclaim.bind (fun own settled h => ?_) fun own e h => enforces_mild (h.1 e rfl)
    cases settled with
    | none =>
      refine (told_enforceClaimed hcb hexec facts decides (some key)).mono (fun _ _ h => h) fun later r h => ?_
      exact h.before own
    | some settled =>
      refine ⟨?_,fun _ h => by cases h⟩
      rintro _ ⟨⟩
      rcases h.2 settled rfl with hreplayed | ⟨hrefuses,-⟩
      · exact .inl hreplayed
      · exact .inr (.inl hrefuses)

end Enforcement

def ExecutionOutcome.recorded : ExecutionOutcome → Outcome
  | .failed => .failed
  | .refused => .refused

inductive Accounts (R : BrokerRuntime) (request : AgentRequest) (own : Seen) (response : BrokerResponse) (record : AuditRecord) :
    Prop where
  | decided (principal : record.principal = R.principal) (tool : record.tool = request.tool) (op : record.op = request.op)
      (decision : record.decision = response.decisionKind)
  | transformed (call : BrokeredCall) (args : Json) (asked : call.tool = request.tool ∧ call.op = request.op)
      (ran : DoerRan call (.transform record.op args) own) (principal : record.principal = R.principal)
      (tool : record.tool = request.tool) (decision : record.decision = .transform) (kind : response.decisionKind = .transform)
  | failed (outcome : ExecutionOutcome) (unexecuted : response.executionOutcome = some outcome)
      (kind : response.decisionKind = .deny) (principal : record.principal = R.principal) (tool : record.tool = request.tool)
      (op : record.op = request.op) (decision : record.decision = .allow ∨ record.decision = .transform)
      (recorded : record.outcome = outcome.recorded)
  | quarantined (intentId reason : String) (kind : response.decisionKind = .deny) (principal : record.principal = R.principal)
      (tool : record.tool = "intent-store") (op : record.op = "hold") (decision : record.decision = .deny)
      (intent : record.intentId = some intentId) (why : record.reason = some ("intent quarantined: " ++ reason))
      (told : response.reason = record.reason)

def Accounted (R : BrokerRuntime) (request : AgentRequest) (own : Seen) (response : BrokerResponse) : Prop :=
  Wrote own (Accounts R request own response)

def Answers (R : BrokerRuntime) (request : AgentRequest) (own : Seen) (r : Except Exn BrokerResponse) : Prop :=
  ∀ response, r = .ok response → response.idempotent = true ∨ Accounted R request own response

section Answering
variable {R : BrokerRuntime} {request : AgentRequest}

theorem Accounts.before {own : Seen} {response : BrokerResponse} {record : AuditRecord} (earlier : Seen)
    (h : Accounts R request own response record) : Accounts R request (earlier ++ own) response record := by
  cases h with
  | decided principal tool op decision => exact .decided principal tool op decision
  | transformed call args asked ran principal tool decision kind =>
    obtain ⟨result,hran⟩ := ran
    exact .transformed call args asked ⟨result,List.mem_append_right _ hran⟩ principal tool decision kind
  | failed outcome unexecuted kind principal tool op decision recorded =>
    exact .failed outcome unexecuted kind principal tool op decision recorded
  | quarantined intentId reason kind principal tool op decision intent why told =>
    exact .quarantined intentId reason kind principal tool op decision intent why told

theorem Answers.before {own : Seen} {r : Except Exn BrokerResponse} (h : Answers R request own r) (earlier : Seen) :
    Answers R request (earlier ++ own) r := by
  intro response hresponse
  rcases h response hresponse with hreplayed | hwrote
  · exact .inl hreplayed
  · exact .inr ((hwrote.imp fun _ => Accounts.before earlier).before earlier)

theorem answers_then {α : Type} {p : Act α} {f : α → Act BrokerResponse} (hf : ∀ a, Told (Answers R request) (f a)) :
    Told (Answers R request) (p >>= f) := by
  refine Tells.bind (tells_anyhow fun _ _ => trivial) (fun own a _ => ?_) fun own e _ => error_ne_ok e
  exact (hf a).mono (fun _ _ h => h) fun later r h => h.before own

theorem answers_emit {record : AuditRecord} {response : BrokerResponse}
    (h : ∀ own, Accounts R request own response record) :
    Told (Answers R request) (do
      emit record
      return response) := by
  refine (told_emit (P := fun r => r = record) rfl).bind (fun own _ hwrote => ?_) fun own e _ => error_ne_ok e
  rintro _ ⟨⟩
  refine .inr ?_
  rw [List.append_nil]
  refine (hwrote.1 rfl).imp ?_
  rintro _ rfl
  exact h own

end Answering

namespace BrokerRuntime
variable (R : BrokerRuntime) (request : AgentRequest)

structure Carries (call : BrokeredCall) : Prop where
  principal : call.principal = R.principal
  tool : call.tool = request.tool
  op : call.op = request.op

variable {R request} {call : BrokeredCall} (hcall : R.Carries request call)
include hcall

theorem answers_recordRefusal (kind : Kind) (reason : String) : Told (Answers R request) (R.recordRefusal none call kind reason) :=
  answers_emit fun _ => .decided hcall.principal hcall.tool hcall.op rfl

theorem answers_hold (renderedIntent : RenderedIntent) (reason : Option String) :
    Told (Answers R request) (R.hold none call renderedIntent reason) := by
  refine answers_then fun outcome => ?_
  cases outcome with
  | quarantined intentId quarantineReason =>
    exact answers_emit fun _ => .quarantined intentId quarantineReason rfl rfl rfl rfl rfl rfl rfl rfl
  | collision intentId => exact answers_emit fun _ => .decided hcall.principal hcall.tool hcall.op rfl
  | held approval =>
    refine answers_then fun _ => ?_
    exact answers_emit fun _ => .decided hcall.principal hcall.tool hcall.op rfl

theorem accounted_ran {own : Seen} {effective : Decision} (hran : Ran call effective own) {response : BrokerResponse}
    (hkind : response.decisionKind = effective.kind) (heff : effective.executes = true) : Accounted R request own response := by
  obtain ⟨hdoer,hwrote⟩ := hran
  refine hwrote.imp ?_
  rintro record ⟨hprincipal,htool,hop,hdecision,-⟩
  cases effective with
  | allow =>
    exact .decided (hprincipal.trans hcall.principal) (htool.trans hcall.tool) (hop.trans hcall.op) (hdecision.trans hkind.symm)
  | transform op args =>
    have hran : DoerRan call (.transform record.op args) own := by
      rw [hop]
      exact hdoer
    exact .transformed call args ⟨hcall.tool,hcall.op⟩ hran (hprincipal.trans hcall.principal) (htool.trans hcall.tool)
      hdecision hkind
  | _ => cases heff

theorem answers_respond {own : Seen} {result : EnforcementResult}
    (henforced : result.idempotent = true ∨ result.decision.executes = false ∨ Ran call result.decision own) :
    Told (fun later => Answers R request (own ++ later)) (R.respond none call result) := by
  have hlater {p : Act BrokerResponse} (hp : Told (Answers R request) p) :
      Told (fun later => Answers R request (own ++ later)) p := hp.mono (fun _ _ h => h) fun later r h => h.before own
  unfold respond
  split
  · rintro _ ⟨⟩
    exact .inl rfl
  · next hfresh =>
    have hran (heff : result.decision.executes = true) : Ran call result.decision (own ++ []) := by
      rcases henforced with hreplayed | hrefuses | hran
      · exact absurd hreplayed hfresh
      · rw [heff] at hrefuses
        cases hrefuses
      · simpa using hran
    split
    · next hdecision =>
      have heff : result.decision.executes = true := by rw [hdecision]; rfl
      rintro _ ⟨⟩
      exact .inr (accounted_ran hcall (hran heff) (by rw [hdecision]; rfl) heff)
    · next op args hdecision =>
      have heff : result.decision.executes = true := by rw [hdecision]; rfl
      rintro _ ⟨⟩
      exact .inr (accounted_ran hcall (hran heff) (by rw [hdecision]; rfl) heff)
    · exact hlater (answers_hold hcall _ _)
    · exact hlater (answers_recordRefusal hcall _ _)
    · exact hlater (answers_recordRefusal hcall _ _)

omit hcall

def Enforced (call : BrokeredCall) (own : Seen) (r : Except Exn (Except Exn EnforcementResult)) : Prop :=
  ∀ out, r = .ok out → Enforces call own out ∧ ∀ e, out = .error e → e.isConnectorExecution = true

theorem told_enforceCall (hpip : ∀ call, Mild (R.pip call)) (ref : TurnRef) (call : BrokeredCall) (initialDecision : Decision)
    (key : String) : Told (Enforced call) (R.enforceCall request none ref call initialDecision key) := by
  have inner : Told (fun own r => (∀ out, r = .ok out → Enforced call own (.ok out)) ∧
      ∀ e, r = .error e → Enforces call own (.error e)) (do
      let draws ← R.treeDraws call.principal call.tool call.op
      let result ← Enforcement.enforce (R.requestFor request call initialDecision key draws) (R.callbacksFor none ref)
      return .ok result) := by
    refine Tells.bind (R.mild_treeDraws _ _ _) (fun own draws _ => ?_) fun own e h => ?_
    · have henforce : Told (Enforces call) (Enforcement.enforce (R.requestFor request call initialDecision key draws)
          (R.callbacksFor none ref)) :=
        told_enforce (q := R.requestFor request call initialDecision key draws) rfl
          (fun effective _ => R.told_executor ref call effective) (hpip call) (R.mild_decider call)
      refine henforce.bind (fun own' result h => ?_) fun own' e h => ?_
      · refine ⟨?_,fun e he => by cases he⟩
        rintro _ ⟨⟩ _ ⟨⟩
        exact ⟨by simpa using h.before own,fun e he => by cases he⟩
      · refine ⟨error_ne_ok e,?_⟩
        rintro _ ⟨⟩
        exact h.before own
    · refine ⟨error_ne_ok e,?_⟩
      rintro _ ⟨⟩
      exact enforces_mild (h e rfl)
  refine inner.tryCatch (fun own out h => h.1 out rfl) fun own e h => ?_
  split
  · next hconnector =>
    rintro _ ⟨⟩
    refine ⟨by simpa using h.2 e rfl,?_⟩
    rintro _ ⟨⟩
    exact hconnector
  · exact error_ne_ok e

theorem answers_decideCall (hpip : ∀ call, Mild (R.pip call)) {call : BrokeredCall} (hcall : R.Carries request call)
    (ref : TurnRef) : Told (Answers R request) (R.decideCall request none ref call) := by
  refine answers_then fun facts => answers_then fun _ => answers_then fun initialDecision => answers_then fun key => ?_
  refine (told_enforceCall hpip ref call initialDecision key).bind (fun own out h => ?_) fun own e _ => error_ne_ok e
  obtain ⟨henforces,hconnector⟩ := h out rfl
  cases out with
  | ok result => exact answers_respond hcall (henforces.1 result rfl)
  | error e =>
    rintro _ ⟨⟩
    obtain ⟨effective,heff,hwrote⟩ := henforces.2 e rfl (hconnector e rfl)
    refine .inr ?_
    rw [List.append_nil]
    refine hwrote.imp ?_
    rintro record ⟨hprincipal,htool,hop,hdecision,houtcome⟩
    refine .failed (if e.refused then .refused else .failed) rfl rfl (hprincipal.trans hcall.principal)
      (htool.trans hcall.tool) (hop.trans hcall.op) ?_ ?_
    · rw [hdecision]
      cases effective with
      | allow => exact .inl rfl
      | transform op args => exact .inr rfl
      | _ => cases heff
    · rw [houtcome]
      split <;> rfl

theorem answers_dispatch (hpip : ∀ call, Mild (R.pip call)) (hconfidence : request.confidence ≠ .malformed) (ref : TurnRef)
    (turn : TurnContext) : Told (Answers R request) (R.dispatch request none ref turn) := by
  unfold dispatch
  split
  · exact answers_emit fun _ => .decided rfl rfl rfl rfl
  · split
    · next hmalformed => exact absurd hmalformed hconfidence
    · exact answers_then fun ts => answers_decideCall hpip ⟨rfl,rfl,rfl⟩ ref
    · exact answers_then fun ts => answers_decideCall hpip ⟨rfl,rfl,rfl⟩ ref

theorem answers_handleRequest (hpip : ∀ call, Mild (R.pip call)) (hconfidence : request.confidence ≠ .malformed)
    (turnContext : Option TurnRef) (ingestedSources : List String) :
    Told (Answers R request) (R.handleRequest request turnContext ingestedSources) := by
  unfold handleRequest
  split
  · refine answers_then fun ref => answers_then fun _ => ?_
    exact answers_emit fun _ => .decided rfl rfl rfl rfl
  · refine answers_then fun ref => answers_then fun _ => answers_then fun turn => ?_
    exact answers_dispatch hpip hconfidence ref turn

end BrokerRuntime

section Runs
variable {ι β : Type} [DecidableEq ι] {B : Substrate} {G : Guard ι Op Op.Ret Exn State β}

theorem tape_step {c c' : Config ι Op Op.Ret Exn State β} {e : Event ι Op Op.Ret Exn} (h : Step B.device c e c') :
    c.state.tape <+: c'.state.tape ∧ ∀ record, e.op = .audit record → (∃ u, e.reply = .ok u) → record ∈ c'.state.tape := by
  cases h with
  | act i o k x hth =>
    cases o with
    | audit record =>
      refine ⟨?_,?_⟩
      · rcases x with _ | e | e
        · exact List.prefix_append _ _
        · exact List.prefix_rfl
        · exact List.prefix_append _ _
      · rintro _ ⟨⟩ ⟨u,hu⟩
        rcases x with _ | e | e
        · exact List.mem_append_right _ (List.mem_singleton.mpr rfl)
        · cases hu
        · cases hu
    | _ =>
      refine ⟨List.prefix_rfl,?_⟩
      rintro _ ⟨⟩

theorem tape_of_event {c c' : Config ι Op Op.Ret Exn State β} {tr : List (Event ι Op Op.Ret Exn)} (h : Run B.device G c tr c')
    {i : ι} {record : AuditRecord} (he : (⟨i,.audit record,.ok ()⟩ : Event ι Op Op.Ret Exn) ∈ tr) : record ∈ c'.state.tape := by
  obtain ⟨before,after,rfl⟩ := List.append_of_mem he
  obtain ⟨c₁,c₂,-,hstep,-,hrest⟩ := h.split rfl
  have hwritten : record ∈ c₂.state.tape := (tape_step hstep).2 record rfl ⟨(),rfl⟩
  exact hrest.state_invariant (P := fun s => record ∈ s.tape) (fun _ _ _ hs _ hmem => (tape_step hs).1.subset hmem) hwritten

def honestStep : Guard ι Op Op.Ret Exn State β := fun _ e _ => Honest e.op e.reply

end Runs

theorem every_answer_is_on_the_tape {ι : Type} [DecidableEq ι] (B : Substrate) (R : BrokerRuntime)
    (hpip : ∀ call, Mild (R.pip call)) (request : AgentRequest) (hconfidence : request.confidence ≠ .malformed)
    (turnContext : Option TurnRef) (ingestedSources : List String) {c c' : Config ι Op Op.Ret Exn State BrokerResponse}
    {tr : List (Event ι Op Op.Ret Exn)} (hrun : Run B.device honestStep c tr c') {i : ι}
    (hasked : c.threads i = R.handleRequest request turnContext ingestedSources) {response : BrokerResponse}
    (hanswered : c'.threads i = .ret response) (hfresh : response.idempotent = false) :
    ∃ record ∈ c'.state.tape, (⟨i,.audit record,.ok ()⟩ : Event ι Op Op.Ret Exn) ∈ tr ∧
      Accounts R request (own i tr) response record := by
  have hstart : Told (Answers R request) (c.threads i) := by
    rw [hasked]
    exact BrokerRuntime.answers_handleRequest hpip hconfidence turnContext ingestedSources
  rcases hrun.told (fun _ _ _ hg _ => hg) hstart hanswered response rfl with hreplayed | ⟨record,hmem,haccounts⟩
  · rw [hfresh] at hreplayed
    cases hreplayed
  · have hevent := mem_own.mp hmem
    exact ⟨record,tape_of_event hrun hevent,hevent,haccounts⟩

def inboxOp : ToolOp := { tool := "mail", op := "read", effect := .read, external := false }

def inboxBroker : BrokerRuntime where
  instanceId := "broker"
  principal := ⟨"mailer","inbox","sam",.B⟩
  optable := ⟨[inboxOp],List.pairwise_singleton _ _⟩
  pip call := env (.freshFacts call)
  pipReads := reads_freshFacts
  trustMap _ := false
  envelopeHash := "envelope"
  inheritanceRequired _ m hm := by
    obtain rfl := List.mem_singleton.mp hm
    rfl
  digests := ⟨fun _ => "",fun _ => "",fun _ => "",fun _ => ""⟩
  pyFloat _ := ""

def readInbox : AgentRequest := { tool := "mail", op := "read", args := .obj [] }

def inboxAsked : Config Unit Op Op.Ret Exn State BrokerResponse :=
  ⟨emptyState,fun _ => inboxBroker.handleRequest readInbox none []⟩

def inboxRead : List (Event Unit Op Op.Ret Exn) × Config Unit Op Op.Ret Exn State BrokerResponse :=
  play memory.device (turns () 40) inboxAsked

def honestCheck : Event Unit Op Op.Ret Exn → Bool
  | ⟨_,.env (.doer _ call effective),.ok result⟩ => result.op = BrokerRuntime.effectiveOp call effective
  | ⟨_,.env (.doer _ _ _),.error _⟩ => true
  | ⟨_,_,.ok _⟩ => true
  | ⟨_,_,.error e⟩ => !e.isConnectorExecution

theorem honestCheck_sound (e : Event Unit Op Op.Ret Exn) (h : honestCheck e = true) : Honest e.op e.reply := by
  have hmild {o : Op} {r : Except Exn o.Ret} (hr : (match r with | .ok _ => true | .error e => !e.isConnectorExecution) = true) :
      ∀ e, r = .error e → e.isConnectorExecution = false := by
    rintro e rfl
    simpa using hr
  obtain ⟨i,o,r⟩ := e
  cases o with
  | env o =>
    cases o with
    | doer path call effective =>
      rintro result rfl
      simpa [honestCheck] using h
    | _ => cases r <;> exact hmild h
  | _ => cases r <;> exact hmild h

theorem every_answer_is_on_the_tape_read :
    ∃ response, inboxRead.2.threads () = .ret response ∧ response.decisionKind = .allow ∧
      ∃ record ∈ inboxRead.2.state.tape, (⟨(),.audit record,.ok ()⟩ : Event Unit Op Op.Ret Exn) ∈ inboxRead.1 ∧
        Accounts inboxBroker readInbox (own () inboxRead.1) response record := by
  have hrun : Run memory.device honestStep inboxAsked inboxRead.1 inboxRead.2 :=
    play_checked (g := fun _ e _ => honestCheck e) (fun _ e _ h => honestCheck_sound e h) (turns () 40) inboxAsked
      (by decide +kernel)
  obtain ⟨response,hreturned,hresponse⟩ := Prog.ret_of_outcome
    (show (inboxRead.2.threads ()).outcome.bind (fun r => r.toOption.map fun x => (x.decisionKind,x.idempotent)) =
      some (.allow,false) by decide +kernel)
  obtain ⟨hkind,hfresh⟩ := Prod.mk.inj hresponse
  exact ⟨response,hreturned,hkind,every_answer_is_on_the_tape memory inboxBroker (fun call => mild_env (by simp)) readInbox
    (by simp [readInbox]) none [] hrun rfl hreturned hfresh⟩

def failing : Oracle memory.device
  | .env (.doer _ _ _) =>
    (.error (.connectorExecution "connector 'mail' op 'read' failed: timed out" false) : Except Exn DoerResult)
  | o => memory.calm o

def inboxFailed : List (Event Unit Op Op.Ret Exn) × Config Unit Op Op.Ret Exn State BrokerResponse :=
  play memory.device (List.replicate 40 ((),failing)) inboxAsked

theorem failed_execution_is_recorded_as_allowed :
    ∃ response, inboxFailed.2.threads () = .ret response ∧ response.decisionKind = .deny ∧ response.idempotent = false ∧
      inboxFailed.2.state.tape.map AuditRecord.decision = [.allow] := by
  obtain ⟨response,hreturned,hresponse⟩ := Prog.ret_of_outcome
    (show (inboxFailed.2.threads ()).outcome.bind (fun r => r.toOption.map fun x => (x.decisionKind,x.idempotent)) =
      some (.deny,false) by decide +kernel)
  obtain ⟨hkind,hfresh⟩ := Prod.mk.inj hresponse
  exact ⟨response,hreturned,hkind,hfresh,by decide +kernel⟩

end Runtime

end SafeAgents
