import SafeAgents.Enforcement.Outcome
import SafeAgents.Runtime.Mediation

namespace SafeAgents

open Interleaving Enforcement

namespace Runtime

def BrokerRuntime.executedRecord (R : BrokerRuntime) (call : BrokeredCall) (effective : Decision) (doerResult : DoerResult) : AuditRecord :=
  { R.record call.principal call.tool doerResult.op call.args effective.kind .executed with
    resultDigest := some (R.digests.hashResult doerResult.result) }

structure Performed (R : BrokerRuntime) (call : BrokeredCall) (effective : Decision) (result : ConnectorResult) (own : Seen) : Prop where
  done : ∃ earlier doerResult metered entryId ts later, doerResult.result = result ∧
    own = earlier ++ ([⟨.env (.doer .inline call effective),.ok doerResult⟩,
      ⟨.audit (R.executedRecord call effective doerResult),.ok ()⟩] ++ (metered ++
      ([⟨.env .nowIso,.ok ts⟩,⟨.store (.commitLedger entryId ts),.ok ()⟩] ++ later))) ∧ NoDoer earlier ∧ NoDoer metered ∧ NoDoer later

theorem Performed.prepend {R : BrokerRuntime} {call : BrokeredCall} {effective : Decision} {result : ConnectorResult} {own earlier : Seen}
    (h : Performed R call effective result own) (hearlier : NoDoer earlier) : Performed R call effective result (earlier ++ own) := by
  obtain ⟨first,doerResult,metered,entryId,ts,later,hresult,rfl,hfirst,hmetered,hlater⟩ := h.done
  exact ⟨earlier ++ first,doerResult,metered,entryId,ts,later,hresult,by simp,noDoer_append hearlier hfirst,hmetered,hlater⟩

theorem Performed.append {R : BrokerRuntime} {call : BrokeredCall} {effective : Decision} {result : ConnectorResult} {own later : Seen}
    (h : Performed R call effective result own) (hlater : NoDoer later) : Performed R call effective result (own ++ later) := by
  obtain ⟨first,doerResult,metered,entryId,ts,last,hresult,rfl,hfirst,hmetered,hlast⟩ := h.done
  exact ⟨first,doerResult,metered,entryId,ts,last ++ later,hresult,by simp,hfirst,hmetered,noDoer_append hlast hlater⟩

section Executed
variable {R : BrokerRuntime} {path : ExecutionPath} {call : BrokeredCall} {effective : Decision} {own : Seen}

theorem plays_runDoer {doerResult : DoerResult} (h : Plays (R.runDoer path call effective) own (.ok doerResult)) :
    ∃ earlier, NoDoer earlier ∧ own = earlier ++ [⟨.env (.doer path call effective),.ok doerResult⟩] := by
  obtain ⟨earlier,rest,_,rfl,hearlier,hrest⟩ := plays_bind_ok h
  obtain rfl := plays_called hrest
  exact ⟨earlier,hearlier.uses ((R.plain_writeInheritanceIfDeclared call effective).mono fun _ => handsOff_of_plain),rfl⟩

theorem plays_runInline {doerResult : DoerResult} (h : Plays (R.runInline call effective) own (.ok doerResult)) :
    Plays (R.runDoer .inline call effective) own (.ok doerResult) := by
  rcases plays_tryCatch h with ⟨a,ha,hran⟩ | ⟨first,rest,e,rfl,-,hrest⟩
  · cases ha
    exact hran
  · exfalso
    split at hrest
    · obtain ⟨recorded,last,_,rfl,-,hlast⟩ := plays_bind_ok hrest
      obtain ⟨-,hout⟩ := plays_raise.mp hlast
      cases hout
    · obtain ⟨-,hout⟩ := plays_raise.mp hrest
      cases hout

theorem plays_executor {ref : TurnRef} {result : ConnectorResult} (h : Plays (R.executor ref call effective) own (.ok result)) :
    ∃ earlier doerResult metered, doerResult.result = result ∧
      own = earlier ++ ([⟨.env (.doer .inline call effective),.ok doerResult⟩,
        ⟨.audit (R.executedRecord call effective doerResult),.ok ()⟩] ++ metered) ∧ NoDoer earlier ∧ NoDoer metered := by
  obtain ⟨ran,rest,doerResult,rfl,hran,hrest⟩ := plays_bind_ok h
  obtain ⟨earlier,hearlier,rfl⟩ := plays_runDoer (plays_runInline hran)
  obtain ⟨recorded,metered,_,rfl,hrecord,hmetered⟩ := plays_bind_ok hrest
  obtain rfl := plays_called hrecord
  have quiet : Uses HandsOff (do
      R.afterRead ref call
      R.meterErrorBudget call
      R.countObservation call
      return doerResult.result) := by
    refine .bind (R.uses_afterRead (fun _ => handsOff_of_plain) (fun _ _ _ => trivial) ref call) fun _ => ?_
    refine .bind ((R.plain_meterErrorBudget call).mono fun _ => handsOff_of_plain) fun _ => ?_
    exact .bind ((R.plain_countObservation call).mono fun _ => handsOff_of_plain) fun _ => trivial
  have hresult : doerResult.result = result := by
    obtain ⟨_,afterRead,_,-,-,hread⟩ := plays_bind_ok hmetered
    obtain ⟨_,afterMeter,_,-,-,hmeter⟩ := plays_bind_ok hread
    obtain ⟨_,last,_,-,-,hlast⟩ := plays_bind_ok hmeter
    obtain ⟨-,hout⟩ := plays_ret.mp hlast
    cases hout
    rfl
  exact ⟨earlier,doerResult,metered,hresult,by simp [BrokerRuntime.executedRecord],hearlier,hmetered.uses quiet⟩

end Executed

def GoesThrough (kind : Kind) : Prop := kind = .allow ∨ kind = .transform

structure Names (R : BrokerRuntime) (request : AgentRequest) (call : BrokeredCall) : Prop where
  principal : call.principal = R.principal
  tool : call.tool = request.tool
  op : call.op = request.op
  args : call.args = request.args
  listed : R.optable.entry request.tool request.op = some call.manifest

structure Truthful (R : BrokerRuntime) (request : AgentRequest) (response : BrokerResponse) (own : Seen) : Prop where
  performed : response.idempotent = false → GoesThrough response.decisionKind → ∃ call effective,
    Names R request call ∧ effective.kind = response.decisionKind ∧ Performed R call effective response.result own
  untouched : response.executionOutcome = none → response.idempotent = true ∨ ¬ GoesThrough response.decisionKind → NoDoer own
  fresh : request.idempotencyKey = none → response.idempotent = false
  failed : response.executionOutcome ≠ none → response.decisionKind = .deny

theorem Truthful.prepend {R : BrokerRuntime} {request : AgentRequest} {response : BrokerResponse} {own earlier : Seen}
    (h : Truthful R request response own) (hearlier : NoDoer earlier) : Truthful R request response (earlier ++ own) where
  performed hfresh hexecutes := by
    obtain ⟨call,effective,hnames,hkind,hperformed⟩ := h.performed hfresh hexecutes
    exact ⟨call,effective,hnames,hkind,hperformed.prepend hearlier⟩
  untouched hnone hnot := noDoer_append hearlier (h.untouched hnone hnot)
  fresh := h.fresh
  failed := h.failed

section Replies
variable {R : BrokerRuntime} {request : AgentRequest} {call : BrokeredCall} {ref : TurnRef} {own : Seen} {response : BrokerResponse}

theorem truthful_refusal (hnone : NoDoer own) (hnot : ¬ GoesThrough response.decisionKind) (hfresh : response.idempotent = false)
    (hran : response.executionOutcome = none) : Truthful R request response own where
  performed _ hexecutes := absurd hexecutes hnot
  untouched _ _ := hnone
  fresh _ := hfresh
  failed h := absurd hran h

theorem plays_hold {renderedIntent : RenderedIntent} {reason : Option String}
    (h : Plays (R.hold none call renderedIntent reason) own (.ok response)) :
    ¬ GoesThrough response.decisionKind ∧ response.idempotent = false ∧ response.executionOutcome = none := by
  obtain ⟨tried,rest,outcome,rfl,-,hrest⟩ := plays_bind_ok h
  cases outcome with
  | held approval =>
    obtain ⟨_,counted,_,-,-,hcounted⟩ := plays_bind_ok hrest
    obtain ⟨_,last,_,-,-,hlast⟩ := plays_bind_ok hcounted
    obtain ⟨-,hout⟩ := plays_ret.mp hlast
    cases hout
    exact ⟨by simp [GoesThrough],rfl,rfl⟩
  | quarantined intentId quarantineReason =>
    obtain ⟨_,last,_,-,-,hlast⟩ := plays_bind_ok hrest
    obtain ⟨-,hout⟩ := plays_ret.mp hlast
    cases hout
    exact ⟨by simp [GoesThrough,BrokerRuntime.denied],rfl,rfl⟩
  | collision intentId =>
    obtain ⟨_,last,_,-,-,hlast⟩ := plays_bind_ok hrest
    obtain ⟨-,hout⟩ := plays_ret.mp hlast
    cases hout
    exact ⟨by simp [GoesThrough,BrokerRuntime.denied],rfl,rfl⟩

theorem plays_recordRefusal {kind : Kind} {reason : String} (h : Plays (R.recordRefusal none call kind reason) own (.ok response)) :
    response.decisionKind = kind ∧ response.idempotent = false ∧ response.executionOutcome = none := by
  obtain ⟨_,last,_,-,-,hlast⟩ := plays_bind_ok h
  obtain ⟨-,hout⟩ := plays_ret.mp hlast
  cases hout
  exact ⟨rfl,rfl,rfl⟩

theorem plays_respond {result : EnforcementResult} (h : Plays (R.respond none call result) own (.ok response)) :
    response.executionOutcome = none ∧ response.idempotent = result.idempotent ∧
      (result.idempotent = false → (GoesThrough response.decisionKind ↔ result.decision.executes = true) ∧
        (result.decision.executes = true → response.decisionKind = result.decision.kind ∧ response.result = result.result)) := by
  unfold BrokerRuntime.respond at h
  split at h
  · next hreplay =>
    obtain ⟨-,hout⟩ := plays_ret.mp h
    cases hout
    exact ⟨rfl,hreplay.symm,fun hfresh => by rw [hfresh] at hreplay; cases hreplay⟩
  · next hfresh =>
    have hidempotent : result.idempotent = false := by simpa using hfresh
    rw [hidempotent]
    cases hdecision : result.decision with
    | allow =>
      rw [hdecision] at h
      obtain ⟨-,hout⟩ := plays_ret.mp h
      cases hout
      exact ⟨rfl,rfl,fun _ => ⟨by simp [GoesThrough,Decision.executes,Decision.kind],fun _ => ⟨rfl,rfl⟩⟩⟩
    | transform op args =>
      rw [hdecision] at h
      obtain ⟨-,hout⟩ := plays_ret.mp h
      cases hout
      exact ⟨rfl,rfl,fun _ => ⟨by simp [GoesThrough,Decision.executes,Decision.kind],fun _ => ⟨rfl,rfl⟩⟩⟩
    | requireApproval renderedIntent reason =>
      rw [hdecision] at h
      obtain ⟨hnot,hfresh',houtcome⟩ := plays_hold h
      exact ⟨houtcome,hfresh',fun _ => ⟨iff_of_false hnot (by simp [Decision.executes,Decision.kind]),fun hexec => by cases hexec⟩⟩
    | deny reason =>
      rw [hdecision] at h
      obtain ⟨hkind,hfresh',houtcome⟩ := plays_recordRefusal h
      refine ⟨houtcome,hfresh',fun _ => ⟨iff_of_false ?_ (by simp [Decision.executes,Decision.kind]),fun hexec => by cases hexec⟩⟩
      simp [GoesThrough,hkind]
    | abstain escalate reason =>
      rw [hdecision] at h
      obtain ⟨hkind,hfresh',houtcome⟩ := plays_recordRefusal h
      refine ⟨houtcome,hfresh',fun _ => ⟨iff_of_false ?_ (by simp [Decision.executes,Decision.kind]),fun hexec => by cases hexec⟩⟩
      simp [GoesThrough,hkind]

theorem performed_of_carried {q : Enforcement.Request} {out : EnforcementResult} (hcall : q.call = call)
    (h : Carried q (R.executor ref) own out) (hfresh : out.idempotent = false) (hexecutes : out.decision.executes = true) :
    Performed R call out.decision out.result own := by
  cases h with
  | replayed hreplay _ =>
    rw [hfresh] at hreplay
    cases hreplay
  | refused _ hrefuses _ =>
    rw [hexecutes] at hrefuses
    cases hrefuses
  | @executed before ran after entryId ts _ _ _ hown hran hbefore hafter =>
    rw [hcall] at hran
    obtain ⟨earlier,doerResult,metered,hresult,rfl,hearlier,hmetered⟩ := plays_executor hran
    refine ⟨before ++ earlier,doerResult,metered,entryId,ts,after,hresult,?_,noDoer_append hbefore hearlier,hmetered,hafter⟩
    rw [hown]
    simp

theorem noDoer_of_carried {q : Enforcement.Request} {executor : BrokeredCall → Decision → Act ConnectorResult}
    {out : EnforcementResult} (h : Carried q executor own out) (hnot : out.idempotent = true ∨ out.decision.executes = false) :
    NoDoer own := by
  cases h with
  | replayed _ hnone => exact hnone
  | refused _ _ hnone => exact hnone
  | executed hfresh hexecutes _ _ _ _ _ =>
    rcases hnot with hreplay | hrefuses
    · rw [hfresh] at hreplay
      cases hreplay
    · rw [hexecutes] at hrefuses
      cases hrefuses

theorem plays_enforceCall {initialDecision : Decision} {key : String} {result : EnforcementResult}
    (h : Plays (R.enforceCall request none ref call initialDecision key) own (.ok (.ok result))) :
    ∃ q : Enforcement.Request, q.call = call ∧ Carried q (R.executor ref) own result ∧
      (request.idempotencyKey = none → result.idempotent = false) := by
  rcases plays_tryCatch h with ⟨a,ha,hran⟩ | ⟨first,rest,e,rfl,-,hrest⟩
  · cases ha
    obtain ⟨resolved,last,draws,rfl,hresolved,hlast⟩ := plays_bind_ok hran
    obtain ⟨enforced,returned,out,rfl,henforced,hend⟩ := plays_bind_ok hlast
    obtain ⟨rfl,hout⟩ := plays_ret.mp hend
    cases hout
    refine ⟨R.requestFor request call initialDecision key draws,rfl,?_,fun hkey => fresh_of_unkeyed hkey henforced⟩
    have hnone : NoDoer resolved := hresolved.uses ((R.plain_treeDraws _ _ _).mono fun _ => handsOff_of_plain)
    have decides (call : BrokeredCall) (facts : Facts) : Uses HandsOff ((R.callbacksFor none ref).decider call facts) :=
      (R.plain_decide call facts).mono fun _ => handsOff_of_plain
    have hcarried : Carried (R.requestFor request call initialDecision key draws) (R.executor ref) enforced result :=
      plays_enforce handsOff_pip decides rfl henforced
    simpa using hcarried.prepend hnone
  · exfalso
    split at hrest
    · obtain ⟨-,hout⟩ := plays_ret.mp hrest
      cases hout
    · obtain ⟨-,hout⟩ := plays_raise.mp hrest
      cases hout

theorem truthful_decideCall (hnames : Names R request call) (h : Plays (R.decideCall request none ref call) own (.ok response)) :
    Truthful R request response own := by
  obtain ⟨read,rest,facts,rfl,hread,hrest⟩ := plays_bind_ok h
  obtain ⟨surfaced,rest,_,rfl,hsurfaced,hrest⟩ := plays_bind_ok hrest
  obtain ⟨judged,rest,initialDecision,rfl,hjudged,hrest⟩ := plays_bind_ok hrest
  obtain ⟨keyed,rest,key,rfl,hkeyed,hrest⟩ := plays_bind_ok hrest
  obtain ⟨enforced,rest,outcome,rfl,henforced,hrest⟩ := plays_bind_ok hrest
  refine .prepend (.prepend (.prepend (.prepend ?_ (hkeyed.uses ?_)) (hjudged.uses ?_)) (hsurfaced.uses ?_)) (hread.uses (handsOff_pip call))
  · cases outcome with
    | error e =>
      obtain ⟨rfl,hout⟩ := plays_ret.mp hrest
      cases hout
      constructor
      · intro _ hexecutes
        simp [GoesThrough,BrokerRuntime.executionFailed] at hexecutes
      · intro hnone
        cases hnone
      · exact fun _ => rfl
      · exact fun _ => rfl
    | ok result =>
      obtain ⟨houtcome,hidempotent,hkind⟩ := plays_respond hrest
      obtain ⟨q,hcall,hcarried,hunkeyed⟩ := plays_enforceCall henforced
      have hresponded : NoDoer rest := hrest.uses ((R.plain_respond none call result).mono fun _ => handsOff_of_plain)
      constructor
      · intro hfresh hexecutes
        rw [hidempotent] at hfresh
        have hran := (hkind hfresh).1.mp hexecutes
        obtain ⟨hkind',hresult⟩ := (hkind hfresh).2 hran
        refine ⟨call,result.decision,hnames,hkind'.symm,?_⟩
        rw [hresult]
        exact (performed_of_carried hcall hcarried hfresh hran).append hresponded
      · intro _ hnot
        refine noDoer_append (noDoer_of_carried hcarried ?_) hresponded
        rcases hnot with hreplay | hrefuses
        · exact .inl (hidempotent ▸ hreplay)
        · cases hfresh : result.idempotent with
          | true => exact .inl rfl
          | false =>
            have hnever := mt (hkind hfresh).1.mpr hrefuses
            exact .inr (by simpa using hnever)
      · exact fun hkey => hidempotent.trans (hunkeyed hkey)
      · exact fun hran => absurd houtcome hran
  · exact (plain_counterKey _ _ _ _ _).mono fun _ => handsOff_of_plain
  · exact (R.plain_decide call facts).mono fun _ => handsOff_of_plain
  · exact (R.plain_surfaceQuarantinedGrant none call facts).mono fun _ => handsOff_of_plain

theorem not_goesThrough_deny : ¬ GoesThrough .deny := by simp [GoesThrough]

theorem truthful_dispatch {turn : TurnContext} (h : Plays (R.dispatch request none ref turn) own (.ok response)) :
    Truthful R request response own := by
  have stamped {entry : ToolOp} (hentry : R.optable.entry request.tool request.op = some entry) {confidence : Option ConfidenceArtifact}
      (h : Plays (R.stampAndDecide request none ref entry turn confidence) own (.ok response)) : Truthful R request response own := by
    obtain ⟨stamping,rest,ts,rfl,hstamp,hrest⟩ := plays_bind_ok h
    obtain rfl := plays_called hstamp
    exact (truthful_decideCall ⟨rfl,rfl,rfl,rfl,hentry⟩ hrest).prepend (by simp [NoDoer,HandsOff])
  unfold BrokerRuntime.dispatch at h
  split at h
  · obtain ⟨recorded,last,_,rfl,hrecorded,hlast⟩ := plays_bind_ok h
    obtain rfl := plays_called hrecorded
    obtain ⟨rfl,hout⟩ := plays_ret.mp hlast
    cases hout
    exact truthful_refusal (by simp [NoDoer,HandsOff]) not_goesThrough_deny rfl rfl
  · next entry hentry =>
    split at h
    · obtain ⟨rfl,hout⟩ := plays_ret.mp h
      cases hout
      exact truthful_refusal (by simp [NoDoer]) not_goesThrough_deny rfl rfl
    · exact stamped hentry h
    · exact stamped hentry h

theorem truthful_handleRequest {turnContext : Option TurnRef} {ingestedSources : List String}
    (h : Plays (R.handleRequest request turnContext ingestedSources) own (.ok response)) : Truthful R request response own := by
  have turned := R.uses_turnFor (P := HandsOff) (fun _ => handsOff_of_plain) (fun _ => trivial) turnContext
  have ingested (ref : TurnRef) := R.uses_ingestSources (P := HandsOff) (fun _ => trivial) ref ingestedSources
  unfold BrokerRuntime.handleRequest at h
  split at h
  · obtain ⟨chosen,more,ref,rfl,hchosen,hmore⟩ := plays_bind_ok h
    obtain ⟨fed,rest,_,rfl,hfed,hrest⟩ := plays_bind_ok hmore
    obtain ⟨recorded,last,_,rfl,hrecorded,hlast⟩ := plays_bind_ok hrest
    obtain rfl := plays_called hrecorded
    obtain ⟨rfl,hout⟩ := plays_ret.mp hlast
    cases hout
    refine truthful_refusal (noDoer_append (hchosen.uses turned) (noDoer_append (hfed.uses (ingested ref)) ?_)) not_goesThrough_deny rfl rfl
    simp [NoDoer,HandsOff]
  · obtain ⟨chosen,more,ref,rfl,hchosen,hmore⟩ := plays_bind_ok h
    obtain ⟨fed,rest,_,rfl,hfed,hrest⟩ := plays_bind_ok hmore
    obtain ⟨looked,last,turn,rfl,hlooked,hlast⟩ := plays_bind_ok hrest
    have hlook := hlooked.uses (BrokerRuntime.uses_contextOf (P := HandsOff) (fun _ => trivial) ref)
    exact (((truthful_dispatch hlast).prepend hlook).prepend (hfed.uses (ingested ref))).prepend (hchosen.uses turned)

end Replies

end Runtime

end SafeAgents
