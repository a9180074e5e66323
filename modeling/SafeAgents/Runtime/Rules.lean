import SafeAgents.Runtime.Footprint
import SafeAgents.Enforcement.Rules

namespace SafeAgents

open Interleaving Enforcement

namespace Runtime

structure Cut (response : BrokerResponse) : Prop where
  fresh : response.idempotent = false
  empty : response.result = .none
  kind : response.decisionKind = .deny ∨ response.decisionKind = .abstain ∨ response.decisionKind = .requireApproval

structure Delivers (response : BrokerResponse) (result : ConnectorResult) : Prop where
  fresh : response.idempotent = false
  same : response.result = result
  kind : response.decisionKind = .allow ∨ response.decisionKind = .transform

def Responds (result : EnforcementResult) (r : Except Exn BrokerResponse) : Prop :=
  ∀ response, r = .ok response →
    (result.idempotent = true ∧ response.idempotent = true) ∨
    (result.idempotent = false ∧ result.decision.executes = false ∧ Cut response) ∨
    (result.idempotent = false ∧ result.decision.executes = true ∧ Delivers response result.result)

def IsCut (r : Except Exn BrokerResponse) : Prop := ∀ response, r = .ok response → Cut response

theorem isCut_error (e : Exn) : IsCut (.error e) := error_ne_ok e

theorem isCut_denied (reason : String) : IsCut (.ok (BrokerRuntime.denied reason)) := by
  rintro _ ⟨⟩
  exact ⟨rfl,rfl,.inl rfl⟩

namespace BrokerRuntime
variable (R : BrokerRuntime)

theorem cut_hold (hooks : Option PipelineHooks) (call : BrokeredCall) (renderedIntent : RenderedIntent)
    (reason : Option String) : Yields Routine IsCut (R.hold hooks call renderedIntent reason) := by
  unfold hold
  refine .then ((R.plain_tryHold hooks call renderedIntent).mono fun _ => routine_of_plain) (fun outcome => ?_) isCut_error
  cases outcome with
  | quarantined intentId quarantineReason =>
    exact .then (uses_emit.mpr trivial) (fun _ => isCut_denied _) isCut_error
  | collision intentId => exact .then (uses_emit.mpr trivial) (fun _ => isCut_denied _) isCut_error
  | held approval =>
    refine .then ((R.plain_floodAlarm call approval.coalesced).mono fun _ => routine_of_plain) (fun _ => ?_) isCut_error
    refine .then (uses_emit.mpr trivial) (fun _ => ?_) isCut_error
    rintro _ ⟨⟩
    exact ⟨rfl,rfl,.inr (.inr rfl)⟩

theorem cut_recordRefusal (hooks : Option PipelineHooks) (call : BrokeredCall) {kind : Kind}
    (hkind : kind = .deny ∨ kind = .abstain) (reason : String) :
    Yields Routine IsCut (R.recordRefusal hooks call kind reason) := by
  refine .then (uses_emit.mpr trivial) (fun _ => ?_) isCut_error
  rintro _ ⟨⟩
  exact ⟨rfl,rfl,hkind.imp_right .inl⟩

theorem yields_respond (hooks : Option PipelineHooks) (call : BrokeredCall) (result : EnforcementResult) :
    Yields Routine (Responds result) (R.respond hooks call result) := by
  unfold respond
  split
  · next hreplayed =>
    rintro _ ⟨⟩
    exact .inl ⟨hreplayed,rfl⟩
  · next hfresh =>
    have hfresh' : result.idempotent = false := by simpa using hfresh
    have hcut {p : Act BrokerResponse} (hrefuses : result.decision.executes = false) (hp : Yields Routine IsCut p) :
        Yields Routine (Responds result) p := by
      refine hp.mono fun r h response hr => .inr (.inl ⟨hfresh',hrefuses,h response hr⟩)
    split
    · next hdecision =>
      rintro _ ⟨⟩
      exact .inr (.inr ⟨hfresh',by rw [hdecision]; rfl,rfl,rfl,.inl rfl⟩)
    · next op args hdecision =>
      rintro _ ⟨⟩
      exact .inr (.inr ⟨hfresh',by rw [hdecision]; rfl,rfl,rfl,.inr rfl⟩)
    · next renderedIntent reason hdecision =>
      exact hcut (by rw [hdecision]; rfl) (R.cut_hold hooks call renderedIntent reason)
    · next reason hdecision =>
      exact hcut (by rw [hdecision]; rfl) (R.cut_recordRefusal hooks call (.inl rfl) reason)
    · next escalate reason hdecision =>
      exact hcut (by rw [hdecision]; rfl) (R.cut_recordRefusal hooks call (.inr rfl) _)

end BrokerRuntime

section Rules
variable {L : Type} {C : Contract Op Op.Ret Exn L} {P : Op → Prop} {S : L → Prop} {l : L} {V : Decision → Prop}
  {Q : L → Except Exn ConnectorResult → Prop} (R : BrokerRuntime)

def Responded (l : L) (Q : L → Except Exn ConnectorResult → Prop) (l' : L) (r : Except Exn BrokerResponse) : Prop :=
  (l' = l ∧ ∀ response, r = .ok response → response.idempotent = true ∨ Cut response) ∨
    ∃ out, Q l' out ∧
      ∀ response, r = .ok response → Cut response ∨ ∃ result, out = .ok result ∧ Delivers response result

def Agreed (V : Decision → Prop) (effective : Decision) : Prop :=
  ∃ initial revalidated, V initial ∧ V revalidated ∧ effective = initial.pickStricter revalidated

theorem responded_of_enforced {l' : L} {res : EnforcementResult} (h : Enforced l Q l' (.ok res))
    {r : Except Exn BrokerResponse} (hr : Responds res r) : Responded l Q l' r := by
  rcases h with ⟨rfl,hquiet⟩ | ⟨out,hout,hran⟩
  · refine .inl ⟨rfl,fun response hresponse => ?_⟩
    rcases hr response hresponse with ⟨-,hreplayed⟩ | ⟨-,-,hcut⟩ | ⟨hfresh,hexecutes,-⟩
    · exact .inl hreplayed
    · exact .inr hcut
    · rcases hquiet res rfl with hreplayed | ⟨hrefuses,-⟩
      · simp [hfresh] at hreplayed
      · simp [hexecutes] at hrefuses
  · obtain ⟨hresult,hfresh,hexecutes⟩ := hran res rfl
    refine .inr ⟨out,hout,fun response hresponse => ?_⟩
    rcases hr response hresponse with ⟨hreplayed,-⟩ | ⟨-,hrefuses,-⟩ | ⟨-,-,hdelivers⟩
    · simp [hfresh] at hreplayed
    · simp [hexecutes] at hrefuses
    · exact .inr ⟨res.result,hresult,hdelivers⟩

theorem responded_of_raised {l' : L} {r : Except Exn EnforcementResult} (h : Enforced l Q l' r)
    {out : Except Exn BrokerResponse} (hout : IsCut out) : Responded l Q l' out := by
  rcases h with ⟨rfl,-⟩ | ⟨ran,hran,-⟩
  · exact .inl ⟨rfl,fun response hresponse => .inr (hout response hresponse)⟩
  · exact .inr ⟨ran,hran,fun response hresponse => .inl (hout response hresponse)⟩

theorem Responded.of_cut {l' : L} {r : Except Exn BrokerResponse} (hl' : l' = l) (h : IsCut r) : Responded l Q l' r :=
  .inl ⟨hl',fun response hresponse => .inr (h response hresponse)⟩

def EnforcedCall (l : L) (Q : L → Except Exn ConnectorResult → Prop) (l' : L)
    (r : Except Exn (Except Exn EnforcementResult)) : Prop :=
  ∃ inner, Enforced l Q l' inner ∧ ∀ res, r = .ok (.ok res) → inner = .ok res

structure Pipe (C : Contract Op Op.Ret Exn L) (P : Op → Prop) (S : L → Prop) (Q : L → Except Exn ConnectorResult → Prop)
    (l : L) : Prop where
  quiet : Quiet C P S
  here : S l
  after : ∀ l r, Q l r → S l
  routine : ∀ o, Routine o → P o

namespace BrokerRuntime
variable (pipe : Pipe C P S Q l) (request : AgentRequest) (hooks : Option PipelineHooks) (ref : TurnRef)
  (call : BrokeredCall)
  (decides : ∀ facts, Yields P (fun r => ∀ d, r = .ok d → V d) (R.deciderFor hooks call facts))
  (executes : ∀ effective, effective.executes = true → Agreed V effective →
    Keeps C Q l (R.executorFor hooks ref call effective))
include pipe decides executes

omit decides executes in
theorem keeps_quietly {α : Type} {p : Act α} {f : α → Act BrokerResponse} (hp : Uses P p)
    (hf : ∀ a, Keeps C (Responded l Q) l (f a)) : Keeps C (Responded l Q) l (p >>= f) := by
  refine (pipe.quiet.uses pipe.here hp).bind ?_ ?_
  · rintro _ a rfl
    exact hf a
  · rintro _ e rfl
    exact .of_cut rfl (isCut_error e)

theorem keeps_enforceCall {initialDecision : Decision} (hinitial : V initialDecision) (key : String) :
    Keeps C (EnforcedCall l Q) l (R.enforceCall request hooks ref call initialDecision key) := by
  have raised {l' : L} {r : Except Exn EnforcementResult} (h : Enforced l Q l' r)
      {out : Except Exn (Except Exn EnforcementResult)} (hout : ∀ res, out ≠ .ok (.ok res)) : EnforcedCall l Q l' out :=
    ⟨r,h,fun res hres => absurd hres (hout res)⟩
  have inner : Keeps C (EnforcedCall l Q) l (do
      let draws ← R.treeDraws call.principal call.tool call.op
      let result ← Enforcement.enforce (R.requestFor request call initialDecision key draws) (R.callbacksFor hooks ref)
      return .ok result) := by
    refine (pipe.quiet.uses pipe.here ((R.plain_treeDraws _ _ _).mono (routinely pipe.routine))).bind ?_ ?_
    · rintro _ draws rfl
      refine (keeps_enforce (V := V) pipe.quiet pipe.here pipe.after rfl (fun effective heff hgiven => ?_) ?_).bind
        (fun l' res h => ⟨_,h,?_⟩) fun l' e h => raised h nofun
      · obtain ⟨revalidated,hrevalidated,rfl⟩ := hgiven heff
        exact executes _ heff ⟨_,_,hinitial,hrevalidated,rfl⟩
      · exact ⟨fun o h => pipe.routine o (routine_of_bookkeeps h),fun _ _ _ => pipe.routine _ trivial,
          (R.plain_pip call).mono (routinely pipe.routine),decides⟩
      · rintro _ ⟨⟩
        rfl
    · rintro _ e rfl
      exact raised (.inl ⟨rfl,error_ne_ok e⟩) nofun
  refine inner.tryCatch (fun _ _ h => h) fun l' e h => ?_
  obtain ⟨r,hr,-⟩ := h
  split
  · exact raised hr nofun
  · exact raised hr nofun

theorem keeps_decideCall : Keeps C (Responded l Q) l (R.decideCall request hooks ref call) := by
  unfold decideCall
  refine keeps_quietly pipe ((R.plain_pip call).mono (routinely pipe.routine)) fun facts => ?_
  refine keeps_quietly pipe ((R.plain_surfaceQuarantinedGrant hooks call facts).mono (routinely pipe.routine)) fun _ => ?_
  refine (pipe.quiet.yields pipe.here (decides facts)).bind ?_ ?_
  · rintro _ initialDecision ⟨rfl,hinitial⟩
    refine keeps_quietly pipe ((plain_counterKey _ _ _ _ _).mono (routinely pipe.routine)) fun key => ?_
    refine (R.keeps_enforceCall pipe request hooks ref call decides executes (hinitial _ rfl) key).bind
      (fun l' out h => ?_) fun l' e h => ?_
    · obtain ⟨inner,henforced,hinner⟩ := h
      cases out with
      | error e =>
        refine responded_of_raised henforced ?_
        rintro _ ⟨⟩
        exact ⟨rfl,rfl,.inl rfl⟩
      | ok res =>
        obtain rfl := hinner res rfl
        have hhere : S l' := by
          rcases henforced with ⟨rfl,-⟩ | ⟨out,hout,-⟩
          · exact pipe.here
          · exact pipe.after _ _ hout
        refine keeps_mono (fun l'' r hr => ?_)
          (pipe.quiet.yields hhere ((R.yields_respond hooks call res).imp pipe.routine))
        obtain ⟨rfl,hresponds⟩ := hr
        exact responded_of_enforced henforced hresponds
    · obtain ⟨inner,henforced,-⟩ := h
      exact responded_of_raised henforced (isCut_error e)
  · rintro _ e ⟨rfl,-⟩
    exact .of_cut rfl (isCut_error e)

omit decides executes

def Dispatches (C : Contract Op Op.Ret Exn L) (P : Op → Prop) (Q : L → Except Exn ConnectorResult → Prop) (l : L)
    (request : AgentRequest) (hooks : Option PipelineHooks) (ref : TurnRef) (turn : TurnContext) : Prop :=
  ∀ entry confidence ts, R.optable.entry request.tool request.op = some entry → ∃ V : Decision → Prop,
    (∀ facts, Yields P (fun r => ∀ d, r = .ok d → V d)
      (R.deciderFor hooks (R.materializeCall request entry turn confidence ts) facts)) ∧
    ∀ effective, effective.executes = true → Agreed V effective →
      Keeps C Q l (R.executorFor hooks ref (R.materializeCall request entry turn confidence ts) effective)

theorem keeps_dispatch {turn : TurnContext} (stamps : P (.process (.stampCallTs R.instanceId)))
    (calls : R.Dispatches C P Q l request hooks ref turn) :
    Keeps C (Responded l Q) l (R.dispatch request hooks ref turn) := by
  have decided {entry : ToolOp} (hentry : R.optable.entry request.tool request.op = some entry)
      (confidence : Option ConfidenceArtifact) :
      Keeps C (Responded l Q) l (R.stampAndDecide request hooks ref entry turn confidence) := by
    refine keeps_quietly pipe (uses_process.mpr stamps) fun ts => ?_
    obtain ⟨V,decides,executes⟩ := calls entry confidence ts hentry
    exact R.keeps_decideCall pipe request hooks ref _ decides executes
  unfold dispatch
  split
  · refine keeps_quietly pipe (uses_emit.mpr (pipe.routine _ trivial)) fun _ => ?_
    exact .of_cut rfl (isCut_denied _)
  · next entry hentry =>
    split
    · exact .of_cut rfl (isCut_denied _)
    · exact decided hentry none
    · exact decided hentry _

theorem keeps_pipeline (memory : ∀ o, P (.process o)) (turnContext : Option TurnRef) (ingestedSources : List String)
    (calls : ∀ ref turn, R.Dispatches C P Q l request hooks ref turn) :
    Keeps C (Responded l Q) l (R.pipeline request turnContext ingestedSources hooks) := by
  refine keeps_quietly pipe (R.uses_turnFor (routinely pipe.routine) memory turnContext) fun ref => ?_
  refine keeps_quietly pipe (R.uses_ingestSources memory ref ingestedSources) fun _ => ?_
  refine keeps_quietly pipe (uses_contextOf memory ref) fun turn => ?_
  exact R.keeps_dispatch pipe request hooks ref (memory _) (calls ref turn)

end BrokerRuntime

end Rules

end Runtime

end SafeAgents
