import SafeAgents.Enforcement.Clearance
import SafeAgents.Runtime.Duties
import SafeAgents.Runtime.Replay

namespace SafeAgents

open Interleaving Enforcement

namespace Runtime

def OnTurn (R : BrokerRuntime) (turnContext : Option TurnRef) (ref : TurnRef) (before : Seen) : Prop :=
  match turnContext with
  | some given => ref = given
  | none => (⟨.process (.currentTurn R.instanceId),.ok (some ref)⟩ : Saw Op Op.Ret Exn) ∈ before ∨
      ∃ turn, (⟨.process (.installTurn R.instanceId turn),.ok ()⟩ : Saw Op Op.Ret Exn) ∈ before ∧ ref = ⟨R.instanceId,turn.turnId⟩

def Asked (R : BrokerRuntime) (errand : Errand) (path : ExecutionPath) (call : BrokeredCall) (before : Seen) : Prop :=
  match path with
  | .inline => ∃ request turnContext ingestedSources entry ref turn confidence ts,
      errand = .request request turnContext ingestedSources ∧ request.tool ≠ harnessTool ∧
        R.optable.entry request.tool request.op = some entry ∧ OnTurn R turnContext ref before ∧
        (⟨.process (.context ref),.ok (some turn)⟩ : Saw Op Op.Ret Exn) ∈ before ∧
        (⟨.process (.stampCallTs R.instanceId),.ok ts⟩ : Saw Op Op.Ret Exn) ∈ before ∧
        call = R.materializeCall request entry turn confidence ts
  | .release => ∃ intentId approvedBy shownInputDigest intent,
      errand = .approve intentId approvedBy shownInputDigest ∧
        (⟨.intents (.getIntent intentId),.ok (some intent)⟩ : Saw Op Op.Ret Exn) ∈ before ∧
        (⟨.intents (.transitionStatus intentId .pending .approved (some approvedBy) none),.ok true⟩ : Saw Op Op.Ret Exn) ∈ before ∧
        call = intent.materializedRequest

def Authorised (R : BrokerRuntime) (path : ExecutionPath) (call : BrokeredCall) (facts : Facts) (effective : Decision) : Prop :=
  match path with
  | .inline => (Pdp.decide R.digests.sha256 call facts).executes = true ∧ effective.executes = true
  | .release =>
    ((Pdp.decide R.digests.sha256 call facts).kind = .allow ∨
      (Pdp.decide R.digests.sha256 call facts).kind = .requireApproval) ∧ effective = .allow

structure Charged (R : BrokerRuntime) (call : BrokeredCall) (before : Seen) (draws : List CounterDraw) : Prop where
  keyed : ∃ at_ pool, (⟨.env .now,.ok at_⟩ : Saw Op Op.Ret Exn) ∈ before ∧
    draws = ⟨scopedCounterKey call.principal call.tool call.op (periodBucketOf at_ R.counterPeriod) actionCapSuffix,1,
      R.counterCap⟩ :: pool ∧
    ∃ earlier resolved later, before = earlier ++ (resolved ++ later) ∧
      Plays (R.treeDraws call.principal call.tool call.op) resolved (.ok pool)

structure Clearance (R : BrokerRuntime) (errand : Errand) (path : ExecutionPath) (call : BrokeredCall) (effective : Decision) where
  before : Seen
  reads : Seen
  facts : Facts
  draws : List CounterDraw
  journal : Seen
  later : Seen
  asked : Asked R errand path call before
  charged : Charged R call before draws
  read : Plays (R.pip call) reads (.ok facts)
  authorised : Authorised R path call facts effective
  journaled : Journaled call effective journal
  idle : ∀ saw ∈ later, HandsOff saw.op

def Clearance.history {R : BrokerRuntime} {errand : Errand} {path : ExecutionPath} {call : BrokeredCall} {effective : Decision}
    (c : Clearance R errand path call effective) : Seen :=
  c.before ++ (c.reads ++ (⟨.env .staleInputs,.ok []⟩ :: (c.draws.map taken ++ (c.journal ++ c.later))))

def Mediated (R : BrokerRuntime) (errand : Errand) (path : ExecutionPath) (call : BrokeredCall) (effective : Decision)
    (own : Seen) : Prop :=
  (∃ clearance : Clearance R errand path call effective, own = clearance.history) ∧ ∀ saw ∈ own, HandsOff saw.op

section Extending
variable {R : BrokerRuntime} {errand : Errand} {path : ExecutionPath} {call : BrokeredCall} {effective : Decision} {own : Seen}

theorem OnTurn.mono {turnContext : Option TurnRef} {ref : TurnRef} {own' : Seen} (h : OnTurn R turnContext ref own)
    (hsub : own ⊆ own') : OnTurn R turnContext ref own' := by
  cases turnContext with
  | some given => exact h
  | none => exact h.imp (fun hseen => hsub hseen) fun ⟨turn,hseen,href⟩ => ⟨turn,hsub hseen,href⟩

theorem Asked.mono {own' : Seen} (h : Asked R errand path call own) (hsub : own ⊆ own') : Asked R errand path call own' := by
  cases path with
  | inline =>
    obtain ⟨request,turnContext,ingestedSources,entry,ref,turn,confidence,ts,herrand,htool,hentry,honturn,hturn,hts,hcall⟩ := h
    exact ⟨request,turnContext,ingestedSources,entry,ref,turn,confidence,ts,herrand,htool,hentry,honturn.mono hsub,hsub hturn,
      hsub hts,hcall⟩
  | release =>
    obtain ⟨intentId,approvedBy,shown,intent,herrand,hread,hwon,hcall⟩ := h
    exact ⟨intentId,approvedBy,shown,intent,herrand,hsub hread,hsub hwon,hcall⟩

theorem Asked.before (h : Asked R errand path call own) (earlier : Seen) : Asked R errand path call (earlier ++ own) :=
  h.mono (List.subset_append_right earlier own)

theorem Asked.after (h : Asked R errand path call own) (later : Seen) : Asked R errand path call (own ++ later) :=
  h.mono (List.subset_append_left own later)

theorem Charged.before {draws : List CounterDraw} (h : Charged R call own draws) (earlier : Seen) :
    Charged R call (earlier ++ own) draws := by
  obtain ⟨at_,pool,hclock,hdraws,first,resolved,later,rfl,hresolved⟩ := h.keyed
  exact ⟨at_,pool,List.mem_append_right _ hclock,hdraws,earlier ++ first,resolved,later,by simp,hresolved⟩

theorem Charged.after {draws : List CounterDraw} (h : Charged R call own draws) (later : Seen) :
    Charged R call (own ++ later) draws := by
  obtain ⟨at_,pool,hclock,hdraws,first,resolved,rest,rfl,hresolved⟩ := h.keyed
  exact ⟨at_,pool,List.mem_append_left _ hclock,hdraws,first,resolved,rest ++ later,by simp,hresolved⟩

end Extending

def Mediates (R : BrokerRuntime) (errand : Errand) (own : Seen) : Op → Prop
  | .env (.doer path call effective) => Mediated R errand path call effective own
  | _ => True

theorem mediates_handsOff {R : BrokerRuntime} {errand : Errand} (own : Seen) (o : Op) (ho : HandsOff o) :
    Mediates R errand own o := by
  cases o with
  | env o =>
    cases o with
    | doer path call effective => exact ho.elim
    | _ => trivial
  | _ => trivial

theorem handsOff_of_routine {o : Op} (h : Routine o) : HandsOff o := by
  cases o with
  | env o => cases o <;> trivial
  | _ => trivial

theorem handsOff_of_plain {o : Op} (h : Plain o) : HandsOff o := handsOff_of_routine (routine_of_plain h)

section Quiet
variable {R : BrokerRuntime} {errand : Errand} {α : Type} {p : Act α} {before : Seen}

def Minding (R : BrokerRuntime) (errand : Errand) (before : Seen) (p : Act α) : Prop :=
  (∀ saw ∈ before, HandsOff saw.op) → Tells (fun _ _ => True) (fun own => Mediates R errand (before ++ own)) (fun _ _ => True) p

theorem minding_handsOff (hp : Uses HandsOff p) : Minding R errand before p := fun _ =>
  hp.tells (fun own => mediates_handsOff (before ++ own)) fun _ _ => trivial

theorem minding_pure (a : α) : Minding R errand before (pure a : Act α) := fun _ => trivial

theorem minding_plain (hp : Uses Plain p) : Minding R errand before p := minding_handsOff (hp.mono fun _ => handsOff_of_plain)

theorem Minding.then {β : Type} {f : α → Act β} (hp : Uses HandsOff p)
    (hf : ∀ own a, Plays p own (.ok a) → Minding R errand (before ++ own) (f a)) : Minding R errand before (p >>= f) := by
  intro hbefore
  refine (tells_handsOff (fun own => mediates_handsOff (before ++ own)) hp).bind (fun own a h => ?_) fun _ _ _ => trivial
  have hown : ∀ saw ∈ before ++ own, HandsOff saw.op := fun saw hsaw => (List.mem_append.mp hsaw).elim (hbefore saw) (h.2 saw)
  simpa only [List.append_assoc] using hf own a h.1 hown

theorem Minding.andThen {β : Type} {f : α → Act β} (hp : Minding R errand before p) (hf : ∀ a, Uses HandsOff (f a)) :
    Minding R errand before (p >>= f) := by
  intro hbefore
  refine Tells.bind (hp hbefore) (fun own a _ => ?_) fun _ _ _ => trivial
  exact (hf a).tells (fun own' => mediates_handsOff _) fun _ _ => trivial

theorem Minding.catching {h : Exn → Act α} (hp : Minding R errand before p) (hh : ∀ e, Uses HandsOff (h e)) :
    Minding R errand before (tryCatch p h) := by
  intro hbefore
  refine Tells.tryCatch (hp hbefore) (fun _ _ _ => trivial) fun own e _ => ?_
  exact (hh e).tells (fun own' => mediates_handsOff _) fun _ _ => trivial

end Quiet

section Gate
variable {R : BrokerRuntime} {call : BrokeredCall} {facts : Facts} {own : Seen} {d : Decision}

theorem plays_gate {decider : BrokeredCall → Facts → Act Decision} (h : Plays (gate decider call facts) own (.ok d))
    (hd : d.executes = true) : ∃ rest, own = ⟨.env .staleInputs,.ok []⟩ :: rest ∧ Plays (decider call facts) rest (.ok d) := by
  obtain ⟨r,rest,rfl,hrest⟩ := plays_act.mp h
  rcases r with e | _ | ⟨first,others⟩
  · exfalso
    by_cases he : e.isException = true
    · simp only [Prog.finish,Prog.attempt,Prog.andThen,Prog.orElse,he,if_true] at hrest
      obtain ⟨-,hd'⟩ := plays_ret.mp hrest
      cases hd'
      cases hd
    · simp only [Prog.finish,Prog.attempt,Prog.andThen,Prog.orElse,he] at hrest
      obtain ⟨-,hd'⟩ := plays_raise.mp hrest
      cases hd'
  · exact ⟨rest,rfl,hrest⟩
  · exfalso
    obtain ⟨-,hd'⟩ := plays_ret.mp hrest
    cases hd'
    cases hd

theorem plays_decide (h : Plays (R.deciderFor none call facts) own (.ok d)) (hd : d.executes = true) :
    own = [⟨.env .staleInputs,.ok []⟩] ∧ (Pdp.decide R.digests.sha256 call facts).executes = true := by
  obtain ⟨rest,rfl,hrest⟩ := plays_gate h hd
  obtain ⟨rfl,hd'⟩ := plays_ret.mp hrest
  cases hd'
  exact ⟨rfl,hd⟩

theorem plays_approvedDecider (h : Plays (gate R.approvedDecider call facts) own (.ok d)) (hd : d.executes = true) :
    own = [⟨.env .staleInputs,.ok []⟩] ∧ d = .allow ∧
      ((Pdp.decide R.digests.sha256 call facts).kind = .allow ∨
        (Pdp.decide R.digests.sha256 call facts).kind = .requireApproval) := by
  obtain ⟨rest,rfl,hrest⟩ := plays_gate h hd
  unfold BrokerRuntime.approvedDecider BrokerRuntime.decide at hrest
  cases hdecided : Pdp.decide R.digests.sha256 call facts with
  | allow =>
    rw [hdecided] at hrest
    obtain ⟨rfl,hd'⟩ := plays_ret.mp hrest
    cases hd'
    exact ⟨rfl,rfl,.inl rfl⟩
  | requireApproval renderedIntent reason =>
    rw [hdecided] at hrest
    obtain ⟨rfl,hd'⟩ := plays_ret.mp hrest
    cases hd'
    exact ⟨rfl,rfl,.inr rfl⟩
  | transform op args =>
    rw [hdecided] at hrest
    obtain ⟨-,hd'⟩ := plays_ret.mp hrest
    cases hd'
    cases hd
  | deny reason =>
    rw [hdecided] at hrest
    obtain ⟨-,hd'⟩ := plays_ret.mp hrest
    cases hd'
    cases hd
  | abstain escalate reason =>
    rw [hdecided] at hrest
    obtain ⟨-,hd'⟩ := plays_ret.mp hrest
    cases hd'
    cases hd

theorem plays_counterKey {period : CounterPeriod} {principal : Principal} {tool op suffix key : String}
    (h : Plays (counterKey period principal tool op suffix) own (.ok key)) :
    ∃ at_, own = [⟨.env .now,.ok at_⟩] ∧ key = scopedCounterKey principal tool op (periodBucketOf at_ period) suffix := by
  obtain ⟨r,rest,rfl,hrest⟩ := plays_act.mp h
  cases r with
  | error e =>
    obtain ⟨-,hkey⟩ := plays_raise.mp hrest
    cases hkey
  | ok at_ =>
    obtain ⟨rfl,hkey⟩ := plays_ret.mp hrest
    cases hkey
    exact ⟨at_,rfl,rfl⟩

theorem plays_contextOf {ref : TurnRef} {turn : TurnContext} (h : Plays (BrokerRuntime.contextOf ref) own (.ok turn)) :
    own = [⟨.process (.context ref),.ok (some turn)⟩] := by
  obtain ⟨r,rest,rfl,hrest⟩ := plays_act.mp h
  rcases r with e | _ | found
  · obtain ⟨-,hturn⟩ := plays_raise.mp hrest
    cases hturn
  · obtain ⟨-,hturn⟩ := plays_raise.mp hrest
    cases hturn
  · obtain ⟨rfl,hturn⟩ := plays_ret.mp hrest
    cases hturn
    rfl

theorem plays_turnFor {turnContext : Option TurnRef} {ref : TurnRef} (h : Plays (R.turnFor turnContext) own (.ok ref)) :
    OnTurn R turnContext ref own := by
  cases turnContext with
  | some given =>
    obtain ⟨-,href⟩ := plays_ret.mp h
    cases href
    rfl
  | none =>
    obtain ⟨first,rest,current,rfl,hfirst,hrest⟩ := plays_bind_ok h
    obtain rfl := plays_called hfirst
    cases current with
    | some found =>
      obtain ⟨rfl,href⟩ := plays_ret.mp hrest
      cases href
      exact .inl (by simp)
    | none =>
      obtain ⟨minted,more,turn,rfl,-,hmore⟩ := plays_bind_ok hrest
      obtain ⟨installed,last,_,rfl,hinstalled,hlast⟩ := plays_bind_ok hmore
      obtain rfl := plays_called hinstalled
      obtain ⟨rfl,href⟩ := plays_ret.mp hlast
      cases href
      exact .inr ⟨turn,by simp,rfl⟩

end Gate

section Executing
variable {R : BrokerRuntime} {errand : Errand} {path : ExecutionPath} {call : BrokeredCall} {effective : Decision} {before : Seen}

def Ready (R : BrokerRuntime) (errand : Errand) (path : ExecutionPath) (call : BrokeredCall) (effective : Decision)
    (before : Seen) : Prop :=
  ∀ later : Seen, (∀ saw ∈ before ++ later, HandsOff saw.op) → Mediated R errand path call effective (before ++ later)

theorem minding_runDoer (h : Ready R errand path call effective before) : Minding R errand before (R.runDoer path call effective) := by
  refine Minding.then ((R.plain_writeInheritanceIfDeclared call effective).mono fun _ => handsOff_of_plain) fun own _ _ hown => ?_
  refine (tells_call (o := Op.env (.doer path call effective))).mpr ⟨?_,fun _ _ => trivial⟩
  rw [List.append_nil]
  exact h own hown

theorem minding_executor (ref : TurnRef) (h : Ready R errand .inline call effective before) :
    Minding R errand before (R.executor ref call effective) := by
  have inline : Minding R errand before (R.runInline call effective) := by
    refine (minding_runDoer h).catching fun e => ?_
    split
    · exact .bind (uses_emit.mpr trivial) fun _ => trivial
    · trivial
  refine inline.andThen fun doerResult => .bind (uses_emit.mpr trivial) fun _ => ?_
  refine .bind (R.uses_afterRead (fun _ => handsOff_of_plain) (fun _ _ _ => trivial) ref call) fun _ => ?_
  refine .bind ((R.plain_meterErrorBudget call).mono fun _ => handsOff_of_plain) fun _ => ?_
  exact .bind ((R.plain_countObservation call).mono fun _ => handsOff_of_plain) fun _ => trivial

theorem minding_releaseExecutor (receipt : BrokerRuntime.Receipt) (h : Ready R errand .release call effective before) :
    Minding R errand before (R.releaseExecutor receipt call effective) := by
  have released : Minding R errand before (R.runReleased receipt call effective) := by
    refine (minding_runDoer h).catching fun e => ?_
    split
    · refine .bind (uses_emit.mpr trivial) fun _ => ?_
      split <;> trivial
    · trivial
  refine released.andThen fun doerResult => .bind (uses_emit.mpr trivial) fun _ => ?_
  exact .bind ((R.plain_countObservation call).mono fun _ => handsOff_of_plain) fun _ => trivial

end Executing

section Requests
variable {R : BrokerRuntime} {errand : Errand} {call : BrokeredCall} {before : Seen}

theorem handsOff_pip (call : BrokeredCall) : Uses HandsOff (R.pip call) := (R.plain_pip call).mono fun _ => handsOff_of_plain

theorem ready_of_cleared {path : ExecutionPath} {q : Enforcement.Request} {cb : Callbacks} {effective : Decision}
    {claimed own : Seen} (hcall : q.call = call) (hfacts : cb.freshFacts = R.pip) (hasked : Asked R errand path call before)
    (hcharged : Charged R call before q.draws)
    (hjudged : ∀ facts judged revalidated, Plays (cb.decider call facts) judged (.ok revalidated) →
      (q.initialDecision.pickStricter revalidated).executes = true →
      judged = [⟨.env .staleInputs,.ok []⟩] ∧ Authorised R path call facts (q.initialDecision.pickStricter revalidated))
    (h : Cleared q cb effective own) : Ready R errand path call effective (before ++ (claimed ++ own)) := by
  intro later hquiet
  have hlater : ∀ saw ∈ later, HandsOff saw.op := fun saw hsaw => hquiet saw (List.mem_append_right _ hsaw)
  refine ⟨?_,hquiet⟩
  obtain ⟨reads,judged,journal,facts,revalidated,rfl,hreads,hplays,hjournal,heff⟩ := h.steps
  have hexecutes := h.executes
  rw [heff] at hexecutes
  rw [hcall] at hreads hplays hjournal
  rw [hfacts] at hreads
  obtain ⟨rfl,hauthorised⟩ := hjudged facts judged revalidated hplays hexecutes
  refine ⟨⟨before ++ claimed,reads,facts,q.draws,journal,later,hasked.after claimed,hcharged.after claimed,hreads,
    heff ▸ hauthorised,hjournal,hlater⟩,?_⟩
  simp [Clearance.history]

theorem minding_enforce {q : Enforcement.Request} {cb : Callbacks} {executor : BrokeredCall → Decision → Act ConnectorResult}
    (hcb : cb.executor = some executor) (hfacts : cb.freshFacts = R.pip)
    (decides : ∀ call facts, Uses HandsOff (cb.decider call facts))
    (hexec : ∀ claimed own effective, Cleared q cb effective own →
      Minding R errand (before ++ (claimed ++ own)) (executor q.call effective)) : Minding R errand before (enforce q cb) := by
  intro hbefore
  refine tells_enforce (by rw [hfacts]; exact handsOff_pip) decides hcb (fun own => mediates_handsOff (before ++ own))
    fun claimed own effective hcleared hown => ?_
  have hquiet : ∀ saw ∈ before ++ (claimed ++ own), HandsOff saw.op :=
    fun saw hsaw => (List.mem_append.mp hsaw).elim (hbefore saw) (hown saw)
  simpa only [List.append_assoc] using hexec claimed own effective hcleared hquiet

theorem minding_enforceCall (request : AgentRequest) (ref : TurnRef) (initialDecision : Decision) {key : String} {at_ : Instant}
    (hasked : Asked R errand .inline call before) (hclock : (⟨.env .now,.ok at_⟩ : Saw Op Op.Ret Exn) ∈ before)
    (hkey : key = scopedCounterKey call.principal call.tool call.op (periodBucketOf at_ R.counterPeriod) actionCapSuffix) :
    Minding R errand before (R.enforceCall request none ref call initialDecision key) := by
  refine Minding.catching ?_ fun e => ?_
  · refine Minding.then ((R.plain_treeDraws _ _ _).mono fun _ => handsOff_of_plain) fun resolved draws hresolved => ?_
    have decides (call : BrokeredCall) (facts : Facts) : Uses HandsOff ((R.callbacksFor none ref).decider call facts) :=
      (R.plain_decide call facts).mono fun _ => handsOff_of_plain
    refine (minding_enforce rfl rfl decides fun claimed own effective hcleared => ?_).andThen
      fun _ => trivial
    refine minding_executor ref (ready_of_cleared rfl rfl (hasked.after resolved) ?_ ?_ hcleared)
    · subst hkey
      exact ⟨at_,draws,List.mem_append_left _ hclock,rfl,before,resolved,[],by simp,hresolved⟩
    · intro facts judged revalidated hplays hexecutes
      obtain ⟨hjudged,hdecided⟩ := plays_decide hplays ((Decision.executes_pickStricter _ _).mp hexecutes).2
      exact ⟨hjudged,hdecided,hexecutes⟩
  · split <;> trivial

theorem minding_decideCall (request : AgentRequest) (ref : TurnRef) (hasked : Asked R errand .inline call before)
    (hprincipal : call.principal = R.principal) (htool : call.tool = request.tool) (hop : call.op = request.op) :
    Minding R errand before (R.decideCall request none ref call) := by
  refine Minding.then (handsOff_pip call) fun read facts _ => ?_
  refine Minding.then ((R.plain_surfaceQuarantinedGrant none call facts).mono fun _ => handsOff_of_plain) fun surfaced _ _ => ?_
  refine Minding.then ((R.plain_decide call facts).mono fun _ => handsOff_of_plain) fun judged initialDecision _ => ?_
  refine Minding.then ((plain_counterKey _ _ _ _ _).mono fun _ => handsOff_of_plain) fun keyed key hkeyed => ?_
  obtain ⟨at_,rfl,hkey⟩ := plays_counterKey hkeyed
  have hclock : (⟨.env .now,.ok at_⟩ : Saw Op Op.Ret Exn) ∈ before ++ read ++ surfaced ++ judged ++ [⟨.env .now,.ok at_⟩] := by simp
  refine (minding_enforceCall request ref initialDecision ?_ hclock ?_).andThen fun out => ?_
  · exact ((hasked.after read).after surfaced |>.after judged).after _
  · rw [hkey,hprincipal,htool,hop]
  · cases out with
    | error e => trivial
    | ok result => exact (R.plain_respond none call result).mono fun _ => handsOff_of_plain

theorem minding_handleRequest (request : AgentRequest) (turnContext : Option TurnRef) (ingestedSources : List String) :
    Minding R (.request request turnContext ingestedSources) before (R.handleRequest request turnContext ingestedSources) := by
  have turned := R.uses_turnFor (P := HandsOff) (fun _ => handsOff_of_plain) (fun _ => trivial) turnContext
  have ingested (ref : TurnRef) := R.uses_ingestSources (P := HandsOff) (fun _ => trivial) ref ingestedSources
  unfold BrokerRuntime.handleRequest
  split
  · exact minding_handsOff (.bind turned fun ref => .bind (ingested ref) fun _ => .bind (uses_emit.mpr trivial) fun _ => trivial)
  · next htool =>
    refine Minding.then turned fun chosen ref hchosen => Minding.then (ingested ref) fun fed _ _ => ?_
    refine Minding.then (BrokerRuntime.uses_contextOf (fun _ => trivial) ref) fun looked turn hlooked => ?_
    obtain rfl := plays_contextOf hlooked
    have stamped (entry : ToolOp) (hentry : R.optable.entry request.tool request.op = some entry)
        (confidence : Option ConfidenceArtifact) : Minding R (.request request turnContext ingestedSources)
          (before ++ chosen ++ fed ++ [⟨.process (.context ref),.ok (some turn)⟩])
          (R.stampAndDecide request none ref entry turn confidence) := by
      refine Minding.then (uses_process.mpr trivial) fun own ts hts => ?_
      refine minding_decideCall request ref ?_ rfl rfl rfl
      refine ⟨request,turnContext,ingestedSources,entry,ref,turn,confidence,ts,rfl,htool,hentry,?_,?_,?_,rfl⟩
      · exact (plays_turnFor hchosen).mono fun _ h => by simp [h]
      · simp
      · obtain rfl := plays_called hts
        simp
    unfold BrokerRuntime.dispatch
    split
    · exact minding_plain (R.plain_refuseUnlisted request none)
    · next entry hentry =>
      split
      · exact minding_pure _
      · exact stamped entry hentry none
      · exact stamped entry hentry _

end Requests

section Releases
variable {R : BrokerRuntime} {errand : Errand} {before : Seen}

theorem minding_exec (intentId approvedBy : String) {storedCall : BrokeredCall} (hasked : Asked R errand .release storedCall before) :
    Minding R errand before (R.exec intentId approvedBy storedCall) := by
  unfold BrokerRuntime.exec
  refine Minding.then ((plain_counterKey _ _ _ _ _).mono fun _ => handsOff_of_plain) fun keyed key hkeyed => ?_
  obtain ⟨at_,rfl,rfl⟩ := plays_counterKey hkeyed
  refine Minding.then ((R.plain_treeDraws _ _ _).mono fun _ => handsOff_of_plain) fun resolved draws hresolved => ?_
  refine (minding_enforce rfl rfl (fun call facts => ?_) fun claimed own effective hcleared => ?_).andThen fun enforced => ?_
  · refine (uses_gate (fun _ h => h) (fun call facts => ?_) call facts).mono fun _ => handsOff_of_plain
    refine .bind (uses_pure : Uses Plain (R.decide call facts)) fun decided => ?_
    cases decided <;> trivial
  · refine minding_releaseExecutor _ (ready_of_cleared rfl rfl ((hasked.after _).after resolved) ?_ ?_ hcleared)
    · exact ⟨at_,draws,by simp,rfl,before ++ [⟨.env .now,.ok at_⟩],resolved,[],by simp,hresolved⟩
    · intro facts judged revalidated hplays hexecutes
      obtain ⟨hjudged,rfl,hdecided⟩ := plays_approvedDecider hplays ((Decision.executes_pickStricter _ _).mp hexecutes).2
      exact ⟨hjudged,hdecided,rfl⟩
  · split
    · trivial
    · exact .bind (uses_emit.mpr trivial) fun _ => trivial

theorem minding_resolvePending (intentId actor : String) (new : IntentStatus) (now : Option Instant) (skew : Int)
    {onWin : Intent → Act Approval.ExecutionResult}
    (wins : ∀ own intent, (⟨.intents (.getIntent intentId),.ok (some intent)⟩ : Saw Op Op.Ret Exn) ∈ own →
      (⟨.intents (.transitionStatus intentId .pending new (some actor) none),.ok true⟩ : Saw Op Op.Ret Exn) ∈ own →
      Minding R errand (before ++ own) (onWin intent)) :
    Minding R errand before (Approval.resolvePending intentId actor new now skew onWin) := by
  have notPending : Uses HandsOff (Approval.notPending intentId) := .bind (uses_intents.mpr trivial) fun _ => trivial
  refine Minding.then ((plain_resolveNow now).mono fun _ => handsOff_of_plain) fun timed evaluatedAt _ => ?_
  refine Minding.then (uses_intents.mpr trivial) fun read found hread => ?_
  obtain rfl := plays_called hread
  cases found with
  | none => exact minding_pure _
  | some intent =>
    refine Minding.then uses_finish fun judged expired _ => ?_
    cases expired with
    | true => exact minding_handsOff (.bind (uses_intents.mpr trivial) fun _ => trivial)
    | false =>
      refine Minding.then (uses_intents.mpr trivial) fun moved transitioned hmoved => ?_
      obtain rfl := plays_called hmoved
      cases transitioned with
      | false => exact minding_handsOff notPending
      | true =>
        have hwins := wins (timed ++ [⟨.intents (.getIntent intentId),.ok (some intent)⟩] ++ judged ++
          [⟨.intents (.transitionStatus intentId .pending new (some actor) none),.ok true⟩]) intent (by simp) (by simp)
        simpa only [List.append_assoc,if_true] using hwins

theorem minding_approve (intentId approvedBy : String) (shown : Option String) (now : Option Instant) (skew : Int) :
    Minding R (.approve intentId approvedBy shown) before (Approval.approve intentId approvedBy (some (R.exec intentId approvedBy)) now skew) := by
  refine minding_resolvePending intentId approvedBy .approved now skew fun own intent hread hwon => ?_
  refine Minding.andThen (Minding.catching ?_ fun e => ?_) fun outcome => ?_
  · refine (minding_exec intentId approvedBy ?_).andThen fun _ => trivial
    exact ⟨intentId,approvedBy,shown,intent,rfl,List.mem_append_right _ hread,List.mem_append_right _ hwon,rfl⟩
  · split <;> trivial
  · cases outcome with
    | error reason => exact .bind (uses_intents.mpr trivial) fun _ => trivial
    | ok result => exact .bind (uses_env.mpr trivial) fun _ => .bind (uses_intents.mpr trivial) fun _ => trivial

theorem minding_surfacing (seam : String) {p : Act Approval.ExecutionResult}
    {onOk : Approval.ExecutionResult → Act Approval.ExecutionResult} (hp : Minding R errand before p)
    (hok : ∀ result, Uses HandsOff (onOk result)) : Minding R errand before (R.surfacing seam p onOk) := by
  refine Minding.andThen (Minding.catching (hp.andThen fun _ => trivial) fun e => ?_) fun outcome => ?_
  · split <;> trivial
  · rcases outcome with ⟨intentId,reason⟩ | result
    · exact .bind (uses_emit.mpr trivial) fun _ => trivial
    · exact hok result

theorem routine_readIntent (intentId : String) : Uses Routine (BrokerRuntime.readIntent intentId) :=
  (plain_readIntent intentId).mono fun _ => routine_of_plain

theorem routine_recordLateExpiry (held : Option Intent) (intentId seam : String) :
    Uses Routine (R.recordLateExpiry held intentId seam) := by
  have recorded (intent : Intent) : Uses Routine (do
      R.recordExpiry intent
      R.flushAlarm) :=
    .bind ((R.plain_recordExpiry intent).mono fun _ => routine_of_plain) fun _ => R.plain_flushAlarm.mono fun _ => routine_of_plain
  cases held with
  | some intent => exact recorded intent
  | none =>
    refine .bind (routine_readIntent intentId) fun read => ?_
    rcases read with (_ | intent) | ⟨quarantinedId,reason⟩
    · trivial
    · exact recorded intent
    · exact uses_emit.mpr trivial

theorem routine_settleLate (held : Option Intent) (intentId seam : String) (result : Approval.ExecutionResult) :
    Uses Routine (R.settleLate held intentId seam result) := by
  unfold BrokerRuntime.settleLate
  split
  · exact .bind (routine_recordLateExpiry held intentId seam) fun _ => trivial
  · trivial

theorem routine_settleRejection (intent : Option Intent) (intentId rejectedBy : String) (result : Approval.ExecutionResult) :
    Uses Routine (R.settleRejection intent intentId rejectedBy result) := by
  have records (call : BrokeredCall) : Uses Routine (R.recordRejection call intentId rejectedBy) := by
    refine .bind (.bind (uses_env.mpr trivial) fun _ => trivial) fun bucket => .bind ?_ fun _ => uses_emit.mpr trivial
    exact .bind (uses_caught (.bind (uses_store.mpr trivial) fun _ => .bind (uses_store.mpr trivial) fun _ => trivial))
      fun _ => trivial
  unfold BrokerRuntime.settleRejection
  split
  · exact .bind (routine_recordLateExpiry intent intentId "reject") fun _ => trivial
  · split
    · refine .bind ?_ fun found => ?_
      · cases intent with
        | some intent => trivial
        | none =>
          refine .bind (routine_readIntent intentId) fun read => ?_
          rcases read with found | ⟨quarantinedId,reason⟩
          · trivial
          · exact .bind (uses_emit.mpr trivial) fun _ => trivial
      · cases found with
        | none => trivial
        | some intent => exact .bind (records intent.materializedRequest) fun _ => trivial
    · trivial

theorem minding_approveIntent (intentId approvedBy : String) (shownInputDigest : Option String) :
    Minding R (.approve intentId approvedBy shownInputDigest) before (R.approveIntent intentId approvedBy shownInputDigest) := by
  refine Minding.then (uses_env.mpr trivial) fun taken _ _ => ?_
  refine Minding.then ((routine_readIntent intentId).mono fun _ => handsOff_of_routine) fun first read _ => ?_
  have late (held : Option Intent) (result : Approval.ExecutionResult) : Uses HandsOff (R.settleLate held intentId "approve" result) :=
    (routine_settleLate held intentId "approve" result).mono fun _ => handsOff_of_routine
  have approves (held : Option Intent) : Minding R (.approve intentId approvedBy shownInputDigest) (before ++ taken ++ first) (R.approveHeld held intentId approvedBy) :=
    minding_surfacing "approve" (minding_approve intentId approvedBy shownInputDigest none R.clockSkew) (late held)
  rcases read with held | ⟨quarantinedId,reason⟩
  · dsimp only [BrokerRuntime.approveFound]
    split
    · exact minding_pure _
    · cases held with
      | none => exact approves none
      | some intent =>
        dsimp only
        split
        · exact minding_handsOff (.bind (uses_emit.mpr trivial) fun _ => trivial)
        · split
          · refine Minding.then (uses_env.mpr trivial) fun _ now _ => ?_
            refine minding_surfacing "approve" ?_ (late (some intent))
            exact minding_resolvePending intentId approvedBy .approved (some now) R.clockSkew fun _ _ _ _ => minding_pure _
          · exact approves (some intent)
  · exact minding_handsOff (.bind (uses_emit.mpr trivial) fun _ => trivial)

theorem minding_rejectIntent (intentId rejectedBy : String) : Minding R errand before (R.rejectIntent intentId rejectedBy) := by
  refine Minding.then ((routine_readIntent intentId).mono fun _ => handsOff_of_routine) fun first read _ => ?_
  rcases read with intent | ⟨quarantinedId,reason⟩
  · dsimp only [BrokerRuntime.rejectFound]
    split
    · exact minding_pure _
    · refine minding_surfacing "reject" ?_ fun result => (routine_settleRejection intent intentId rejectedBy result).mono fun _ => handsOff_of_routine
      exact minding_resolvePending intentId rejectedBy .rejected none 0 fun _ _ _ _ => minding_pure _
  · exact minding_handsOff (.bind (uses_emit.mpr trivial) fun _ => trivial)

end Releases

theorem minding_program (R : BrokerRuntime) (errand : Errand) : Minding R errand [] (errand.program R) := by
  have turned := R.uses_sessionTurn (P := HandsOff) (fun _ => handsOff_of_plain) (fun _ => trivial)
  cases errand with
  | request asked turnContext ingestedSources =>
    exact (minding_handleRequest asked turnContext ingestedSources).andThen fun _ => trivial
  | decide report =>
    refine (minding_handsOff ?_).andThen fun _ => trivial
    exact R.uses_decideHarnessCall (fun _ => handsOff_of_routine) (fun _ => trivial) (fun _ _ _ _ => trivial) report
  | observe report =>
    refine minding_handsOff (.bind (.bind uses_finish fun event => .bind ?_ fun _ => .bind (uses_emit.mpr trivial) fun _ => trivial)
      fun _ => trivial)
    unfold BrokerRuntime.ingestObserved
    split
    · exact .bind turned fun ref => .bind (uses_process.mpr trivial) fun _ => trivial
    · trivial
  | approve intentId approvedBy shownInputDigest =>
    exact (minding_approveIntent intentId approvedBy shownInputDigest).andThen fun _ => trivial
  | reject intentId rejectedBy => exact (minding_rejectIntent intentId rejectedBy).andThen fun _ => trivial
  | sweep now =>
    refine (minding_handsOff ?_).andThen fun _ => trivial
    exact R.uses_sweepExpiredIntents (fun _ => handsOff_of_routine) (fun _ => trivial) (fun _ => trivial) now
  | sessionTurn => exact (minding_handsOff turned).andThen fun _ => trivial
  | newTurn => exact minding_handsOff (uses_process.mpr trivial)

def staffed {ι σ : Type} (crew : ι → BrokerRuntime) (errands : ι → Errand) (s : σ) : Config ι Op Op.Ret Exn σ Unit :=
  ⟨s,fun i => (errands i).program (crew i)⟩

section Runs
variable {ι σ : Type} [DecidableEq ι] {D : Device Op Op.Ret Exn σ} {G : Guard ι Op Op.Ret Exn σ Unit}
  {crew : ι → BrokerRuntime} {errands : ι → Errand} {s : σ} {c : Config ι Op Op.Ret Exn σ Unit}
  {tr tr₁ tr₂ : List (Event ι Op Op.Ret Exn)} {i : ι} {path : ExecutionPath} {call : BrokeredCall} {effective : Decision}
  {r : Except Exn DoerResult}

theorem run_mediated (h : Run D G (staffed crew errands s) tr c)
    (htr : tr = tr₁ ++ ⟨i,.env (.doer path call effective),r⟩ :: tr₂) :
    Mediated (crew i) (errands i) path call effective (own i tr₁) :=
  h.follows (minding_program (crew i) (errands i) fun _ h => by cases h) htr

theorem complete_mediation (h : Run D G (staffed crew errands s) tr c)
    (htr : tr = tr₁ ++ ⟨i,.env (.doer path call effective),r⟩ :: tr₂) :
    (∃ clearance : Clearance (crew i) (errands i) path call effective, own i tr₁ = clearance.history) ∧
      ∀ saw ∈ own i tr₁, HandsOff saw.op := run_mediated h htr

end Runs

def handsOver {ι : Type} (p : ExecutionPath → BrokeredCall → Bool) (e : Event ι Op Op.Ret Exn) : Bool :=
  match e.op with
  | .env (.doer path call _) => p path call
  | _ => false

theorem exists_doer {ι : Type} {p : ExecutionPath → BrokeredCall → Bool} {tr : List (Event ι Op Op.Ret Exn)}
    (h : tr.any (handsOver p) = true) :
    ∃ tr₁ i path call effective r tr₂, tr = tr₁ ++ ⟨i,.env (.doer path call effective),r⟩ :: tr₂ ∧ p path call = true := by
  obtain ⟨⟨i,o,r⟩,hmem,ho⟩ := List.any_eq_true.mp h
  obtain ⟨tr₁,tr₂,rfl⟩ := List.append_of_mem hmem
  cases o with
  | env o =>
    cases o with
    | doer path call effective => exact ⟨tr₁,i,path,call,effective,r,tr₂,rfl,ho⟩
    | _ => cases ho
  | _ => cases ho

def clerk : Principal := ⟨"clerk","send","sam",.B⟩

def sendOp : ToolOp where
  tool := "mail"
  op := "send"
  effect := .write
  external := true
  reversible := some true

def mailBroker : BrokerRuntime where
  instanceId := "mail"
  principal := clerk
  optable := ⟨[sendOp],List.pairwise_singleton _ _⟩
  pip call := env (.freshFacts call)
  pipReads := reads_freshFacts
  trustMap _ := false
  envelopeHash := "envelope"
  inheritanceRequired _ m hm := by
    obtain rfl := List.mem_singleton.mp hm
    rfl
  digests := ⟨fun _ => "",fun _ => "",fun _ => "",fun _ => ""⟩
  pyFloat _ := ""

def sendMail : Errand := .request { tool := "mail", op := "send", args := .obj [] } none []

def mailSent : List (Event Unit Op Op.Ret Exn) × Config Unit Op Op.Ret Exn State Unit :=
  play memory.device (turns () 40) (staffed (fun _ => mailBroker) (fun _ => sendMail) emptyState)

theorem complete_mediation_sent : ∃ tr₁ path call effective r tr₂, ∃ clearance : Clearance mailBroker sendMail path call effective,
    mailSent.1 = tr₁ ++ ⟨(),.env (.doer path call effective),r⟩ :: tr₂ ∧ own () tr₁ = clearance.history := by
  have hsent : mailSent.1.any (handsOver fun _ _ => true) = true := by decide +kernel
  obtain ⟨tr₁,i,path,call,effective,r,tr₂,htr,-⟩ := exists_doer hsent
  have hrun : Run memory.device anyStep (staffed (fun _ => mailBroker) (fun _ => sendMail) emptyState) mailSent.1 mailSent.2 :=
    play_run _ _
  obtain ⟨⟨clearance,hown⟩,-⟩ := complete_mediation hrun htr
  exact ⟨tr₁,path,call,effective,r,tr₂,clearance,htr,hown⟩

end Runtime

end SafeAgents
