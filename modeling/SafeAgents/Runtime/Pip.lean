import SafeAgents.Runtime.Mediation

namespace SafeAgents

open Interleaving

namespace Runtime

def suppliesDestination (call : BrokeredCall) : Bool :=
  match call.manifest.destinationArg with
  | none => false
  | some destination =>
    match call.args with
    | .null => false
    | .obj fields => fields.any fun field => field.1 == destination
    | _ => true

def holdsHarnessClass (call : BrokeredCall) (held : List ToolClass) : Bool :=
  if held.isEmpty || call.tool ≠ harnessTool then false
  else
    match parseCoordinateOp call.op with
    | .error _ => true
    | .ok (toolClass,_) => held.contains toolClass

structure PipKnobs where
  counterCap : ℚ
  inForceHash : String
  trustedReadSources : List String := []
  maxQueryBytes : Option Nat := none
  queryEgressBudget : Option ℚ := none
  confidenceKnob : Option Confidence := none
  counterPeriod : CounterPeriod := .utcDay
  delegates : Bool := false
  clockSkew : Int := 0
  escalateComposedDestinations : Bool := false
  taintedHarnessHold : List ToolClass := []
  standingCheck : Bool := false

structure GrantFacts where
  grant : Option Grant
  quarantined : Bool
  quarantineReason : Option String

def envelopeMismatch (issued inForce : String) : String :=
  "envelope hash mismatch: grant issued under " ++ issued ++ " but in-force " ++ inForce

def admitGrant (inForceHash : String) (result : GrantReadResult) : GrantFacts :=
  if result.quarantined then ⟨none,true,result.quarantineReason⟩
  else
    match result.grant with
    | none => ⟨none,false,result.quarantineReason⟩
    | some grant =>
      if grant.envelopeHash ≠ inForceHash then ⟨none,true,some (envelopeMismatch grant.envelopeHash inForceHash)⟩
      else ⟨some grant,false,result.quarantineReason⟩

namespace PipKnobs
variable (K : PipKnobs)

def levelOf (grant : Option Grant) : Act (AutonomyLevel × Option String) :=
  match grant with
  | none => return (.inLoop,none)
  | some grant => do
    let now ← env .now
    let level ← Prog.finish (effectiveLevel grant now K.clockSkew true)
    if K.standingCheck && decide (autonomyRank grant.level > autonomyRank grant.lastSafeLevel) then
      let standing ← env (.standing grant now)
      let fallen ← Prog.finish (effectiveLevel grant now K.clockSkew standing.held)
      if fallen ≠ level then return (fallen,standing.reason) else return (level,none)
    else return (level,none)

def spentOn (call : BrokeredCall) (suffix : String) : Act ℚ := do
  let key ← counterKey K.counterPeriod call.principal call.tool call.op suffix
  store (.readCounter key)

def treeBreached (call : BrokeredCall) : Act Bool := do
  match ← Delegation.resolveTreePool K.delegates K.counterPeriod K.counterCap call.principal call.tool call.op with
  | none => return false
  | some draw =>
    let pooled ← store (.readCounter draw.key)
    return decide (pooled ≥ draw.cap)

def capBreached (call : BrokeredCall) : Act Bool := do
  let spent ← K.spentOn call actionCapSuffix
  let breached ← K.treeBreached call
  return decide (spent ≥ K.counterCap) || breached

def queryEgressBreached (call : BrokeredCall) : Act Bool :=
  match BrokerRuntime.egressText call, K.queryEgressBudget with
  | some _, some budget => do
    let spent ← K.spentOn call queryBytesSuffix
    return decide (spent ≥ budget)
  | _, _ => return false

def queryBytesExceeded (call : BrokeredCall) : Bool :=
  match BrokerRuntime.egressText call, K.maxQueryBytes with
  | some text, some most => decide (text.utf8ByteSize > most)
  | _, _ => false

def errorBudgetBreached (call : BrokeredCall) : Act Bool :=
  match K.confidenceKnob.bind Confidence.errorBudgetTolerance with
  | none => return false
  | some tolerance => do
    let spent ← K.spentOn call errorBudgetSuffix
    return decide (spent ≥ tolerance)

def pip (call : BrokeredCall) : Act Facts := do
  let result ← env (.grant call.principal (call.tool ++ "." ++ call.op))
  let admitted := admitGrant K.inForceHash result
  let (grantLevel,standingFallReason) ← K.levelOf admitted.grant
  let capBudgetBreached ← K.capBreached call
  let queryEgressBreached ← K.queryEgressBreached call
  let errorBudgetBreached ← K.errorBudgetBreached call
  return {
    grantPresent := admitted.grant.isSome
    grantLevel
    errorBudgetBreached
    capBudgetBreached
    escalationBudgetAvailable := true
    humanReachable := true
    transformOp := none
    quarantined := admitted.quarantined
    quarantineReason := admitted.quarantineReason
    standingFallReason
    readSourceTrusted := K.trustedReadSources.contains (connectorSourceId call.tool call.op)
    queryBytesExceeded := K.queryBytesExceeded call
    queryEgressBreached
    confidenceBelowBar := !meetsBar call.confidence K.confidenceKnob
    destinationComposed := K.escalateComposedDestinations && suppliesDestination call
    harnessClassHeld := holdsHarnessClass call K.taintedHarnessHold }

section Reading
variable {K}

theorem reads_counterKey (period : CounterPeriod) (principal : Principal) (tool op suffix : String) :
    Uses PipReads (counterKey period principal tool op suffix) :=
  .bind (.bind (uses_env.mpr trivial) fun _ => trivial) fun _ => trivial

theorem reads_levelOf (grant : Option Grant) : Uses PipReads (K.levelOf grant) := by
  cases grant with
  | none => trivial
  | some grant =>
    refine .bind (uses_env.mpr trivial) fun now => .bind uses_finish fun level => ?_
    split
    · refine .bind (uses_env.mpr trivial) fun standing => .bind uses_finish fun fallen => ?_
      split <;> trivial
    · trivial

theorem reads_spentOn (call : BrokeredCall) (suffix : String) : Uses PipReads (K.spentOn call suffix) :=
  .bind (reads_counterKey _ _ _ _ _) fun _ => uses_store.mpr trivial

theorem reads_resolveTreePool (delegates : Bool) (period : CounterPeriod) (ownCap : ℚ) (principal : Principal) (tool op : String) :
    Uses PipReads (Delegation.resolveTreePool delegates period ownCap principal tool op) := by
  unfold Delegation.resolveTreePool
  split
  · refine .bind (uses_env.mpr trivial) fun subGrant => .bind uses_finish fun ⟨anchor,cap⟩ => .bind ?_ fun key => trivial
    unfold Delegation.treeCounterKey
    split
    · trivial
    · split
      · trivial
      · exact .bind (.bind (uses_env.mpr trivial) fun _ => trivial) fun _ => trivial
  · trivial

theorem reads_capBreached (call : BrokeredCall) : Uses PipReads (K.capBreached call) := by
  refine .bind (reads_spentOn call actionCapSuffix) fun spent => .bind (.bind ?_ fun draw => ?_) fun breached => trivial
  · exact reads_resolveTreePool K.delegates K.counterPeriod K.counterCap call.principal call.tool call.op
  · cases draw with
    | none => trivial
    | some draw => exact .bind (uses_store.mpr trivial) fun _ => trivial

theorem reads_queryEgressBreached (call : BrokeredCall) : Uses PipReads (K.queryEgressBreached call) := by
  unfold queryEgressBreached
  split
  · exact .bind (reads_spentOn call queryBytesSuffix) fun _ => trivial
  · trivial

theorem reads_errorBudgetBreached (call : BrokeredCall) : Uses PipReads (K.errorBudgetBreached call) := by
  unfold errorBudgetBreached
  split
  · trivial
  · exact .bind (reads_spentOn call errorBudgetSuffix) fun _ => trivial

theorem reads_pip (call : BrokeredCall) : Uses PipReads (K.pip call) := by
  refine .bind (uses_env.mpr trivial) fun result => .bind (reads_levelOf _) fun ⟨grantLevel,standingFallReason⟩ => ?_
  refine .bind (reads_capBreached call) fun capBudgetBreached => .bind (reads_queryEgressBreached call) fun queryEgressBreached => ?_
  exact .bind (reads_errorBudgetBreached call) fun errorBudgetBreached => trivial

end Reading

def Reads (call : BrokeredCall) (suffix : String) (spent : ℚ) (own : Seen) : Prop :=
  ∃ at_, (⟨.env .now,.ok at_⟩ : Saw Op Op.Ret Exn) ∈ own ∧
    (⟨.store (.readCounter (scopedCounterKey call.principal call.tool call.op (periodBucketOf at_ K.counterPeriod) suffix)),.ok spent⟩ :
      Saw Op Op.Ret Exn) ∈ own

def Stands (grant : Grant) (now : Instant) (held : Bool) (own : Seen) : Prop :=
  if K.standingCheck && decide (autonomyRank grant.level > autonomyRank grant.lastSafeLevel) then
    ∃ standing : StandingAssessment, (⟨.env (.standing grant now),.ok standing⟩ : Saw Op Op.Ret Exn) ∈ own ∧ standing.held = held
  else held = true

structure Granted (call : BrokeredCall) (level : AutonomyLevel) (own : Seen) : Prop where
  stands : ∃ result grant now held,
    (⟨.env (.grant call.principal (call.tool ++ "." ++ call.op)),.ok result⟩ : Saw Op Op.Ret Exn) ∈ own ∧
      result.quarantined = false ∧ result.grant = some grant ∧ grant.envelopeHash = K.inForceHash ∧
      (⟨.env .now,.ok now⟩ : Saw Op Op.Ret Exn) ∈ own ∧ K.Stands grant now held own ∧
      effectiveLevel grant now K.clockSkew held = .ok level

structure Tells (call : BrokeredCall) (own : Seen) (f : Facts) : Prop where
  granted : f.grantPresent = true → K.Granted call f.grantLevel own
  capped : f.capBudgetBreached = false → ∃ spent, K.Reads call actionCapSuffix spent own ∧ spent < K.counterCap
  egress : f.queryEgressBreached = false → ∀ text budget, BrokerRuntime.egressText call = some text →
    K.queryEgressBudget = some budget → ∃ spent, K.Reads call queryBytesSuffix spent own ∧ spent < budget
  errors : f.errorBudgetBreached = false → ∀ tolerance, K.confidenceKnob.bind Confidence.errorBudgetTolerance = some tolerance →
    ∃ spent, K.Reads call errorBudgetSuffix spent own ∧ spent < tolerance
  wired : f = { f with
    escalationBudgetAvailable := true
    humanReachable := true
    transformOp := none
    readSourceTrusted := K.trustedReadSources.contains (connectorSourceId call.tool call.op)
    queryBytesExceeded := K.queryBytesExceeded call
    confidenceBelowBar := !meetsBar call.confidence K.confidenceKnob
    destinationComposed := K.escalateComposedDestinations && suppliesDestination call
    harnessClassHeld := holdsHarnessClass call K.taintedHarnessHold }

section Read
variable {K : PipKnobs} {call : BrokeredCall} {own : Seen}

theorem Reads.mono {suffix : String} {spent : ℚ} {own' : Seen} (h : K.Reads call suffix spent own) (hsub : own ⊆ own') :
    K.Reads call suffix spent own' := by
  obtain ⟨at_,hclock,hread⟩ := h
  exact ⟨at_,hsub hclock,hsub hread⟩

theorem Stands.mono {grant : Grant} {now : Instant} {held : Bool} {own' : Seen} (h : K.Stands grant now held own) (hsub : own ⊆ own') :
    K.Stands grant now held own' := by
  unfold Stands at h ⊢
  split at h
  · next hasked =>
    obtain ⟨standing,hseen,hheld⟩ := h
    rw [if_pos hasked]
    exact ⟨standing,hsub hseen,hheld⟩
  · next hnot =>
    rw [if_neg hnot]
    exact h

theorem plays_spentOn {suffix : String} {spent : ℚ} (h : Plays (K.spentOn call suffix) own (.ok spent)) :
    K.Reads call suffix spent own := by
  obtain ⟨clocked,read,key,rfl,hkey,hread⟩ := plays_bind_ok h
  obtain ⟨at_,rfl,rfl⟩ := plays_counterKey hkey
  obtain rfl := plays_called hread
  exact ⟨at_,by simp,by simp⟩

theorem plays_capBreached {breached : Bool} (h : Plays (K.capBreached call) own (.ok breached)) :
    ∃ spent, K.Reads call actionCapSuffix spent own ∧ (breached = false → spent < K.counterCap) := by
  obtain ⟨read,rest,spent,rfl,hspent,hrest⟩ := plays_bind_ok h
  obtain ⟨pooled,last,tree,rfl,-,hlast⟩ := plays_bind_ok hrest
  obtain ⟨rfl,hbreached⟩ := plays_ret.mp hlast
  cases hbreached
  refine ⟨spent,(plays_spentOn hspent).mono (List.subset_append_left _ _),fun hunder => ?_⟩
  simpa using (Bool.or_eq_false_iff.mp hunder).1

theorem plays_queryEgressBreached {breached : Bool} (h : Plays (K.queryEgressBreached call) own (.ok breached))
    (hunder : breached = false) {text : String} {budget : ℚ} (htext : BrokerRuntime.egressText call = some text)
    (hbudget : K.queryEgressBudget = some budget) : ∃ spent, K.Reads call queryBytesSuffix spent own ∧ spent < budget := by
  rw [queryEgressBreached,htext,hbudget] at h
  obtain ⟨read,last,spent,rfl,hspent,hlast⟩ := plays_bind_ok h
  obtain ⟨rfl,hbreached⟩ := plays_ret.mp hlast
  cases hbreached
  exact ⟨spent,(plays_spentOn hspent).mono (List.subset_append_left _ _),by simpa using hunder⟩

theorem plays_errorBudgetBreached {breached : Bool} (h : Plays (K.errorBudgetBreached call) own (.ok breached))
    (hunder : breached = false) {tolerance : ℚ} (htolerance : K.confidenceKnob.bind Confidence.errorBudgetTolerance = some tolerance) :
    ∃ spent, K.Reads call errorBudgetSuffix spent own ∧ spent < tolerance := by
  rw [errorBudgetBreached,htolerance] at h
  obtain ⟨read,last,spent,rfl,hspent,hlast⟩ := plays_bind_ok h
  obtain ⟨rfl,hbreached⟩ := plays_ret.mp hlast
  cases hbreached
  exact ⟨spent,(plays_spentOn hspent).mono (List.subset_append_left _ _),by simpa using hunder⟩

theorem plays_levelOf {grant : Grant} {level : AutonomyLevel} {reason : Option String}
    (h : Plays (K.levelOf (some grant)) own (.ok (level,reason))) :
    ∃ now held, (⟨.env .now,.ok now⟩ : Saw Op Op.Ret Exn) ∈ own ∧ K.Stands grant now held own ∧
      effectiveLevel grant now K.clockSkew held = .ok level := by
  obtain ⟨clocked,rest,now,rfl,hclock,hrest⟩ := plays_bind_ok h
  obtain rfl := plays_called hclock
  obtain ⟨judged,more,termed,rfl,hjudged,hmore⟩ := plays_bind_ok hrest
  obtain ⟨rfl,htermed⟩ := plays_finish.mp hjudged
  split at hmore
  · next hasked =>
    obtain ⟨asked,tail,standing,rfl,hstanding,hthen⟩ := plays_bind_ok hmore
    obtain rfl := plays_called hstanding
    obtain ⟨fell,last,fallen,rfl,hfallen,hlast⟩ := plays_bind_ok hthen
    obtain ⟨rfl,hfell⟩ := plays_finish.mp hfallen
    refine ⟨now,standing.held,by simp,?_,?_⟩
    · rw [Stands,if_pos hasked]
      exact ⟨standing,by simp,rfl⟩
    · split at hlast
      · obtain ⟨-,hlevel⟩ := plays_ret.mp hlast
        cases hlevel
        exact hfell.symm
      · next hsame =>
        obtain ⟨-,hlevel⟩ := plays_ret.mp hlast
        cases hlevel
        rw [← not_not.mp hsame]
        exact hfell.symm
  · next hnot =>
    obtain ⟨-,hlevel⟩ := plays_ret.mp hmore
    cases hlevel
    refine ⟨now,true,by simp,?_,htermed.symm⟩
    rw [Stands,if_neg hnot]

theorem admitGrant_grant {result : GrantReadResult} {grant : Grant} (h : (admitGrant K.inForceHash result).grant = some grant) :
    result.quarantined = false ∧ result.grant = some grant ∧ grant.envelopeHash = K.inForceHash := by
  unfold admitGrant at h
  grind

theorem plays_pip {f : Facts} (h : Plays (K.pip call) own (.ok f)) : K.Tells call own f := by
  obtain ⟨granted,rest,result,rfl,hresult,hrest⟩ := plays_bind_ok h
  obtain rfl := plays_called hresult
  obtain ⟨leveled,rest,⟨level,reason⟩,rfl,hlevel,hrest⟩ := plays_bind_ok hrest
  obtain ⟨capped,rest,capBudgetBreached,rfl,hcap,hrest⟩ := plays_bind_ok hrest
  obtain ⟨metered,rest,queryEgressBreached,rfl,hegress,hrest⟩ := plays_bind_ok hrest
  obtain ⟨budgeted,rest,errorBudgetBreached,rfl,herrors,hrest⟩ := plays_bind_ok hrest
  obtain ⟨rfl,hf⟩ := plays_ret.mp hrest
  cases hf
  constructor
  · intro hpresent
    obtain ⟨grant,hgrant⟩ := Option.isSome_iff_exists.mp hpresent
    obtain ⟨hclean,hheld,hforce⟩ := admitGrant_grant hgrant
    rw [hgrant] at hlevel
    obtain ⟨now,held,hclock,hstands,hacts⟩ := plays_levelOf hlevel
    refine ⟨result,grant,now,held,by simp,hclean,hheld,hforce,by simp [hclock],?_,hacts⟩
    exact hstands.mono fun _ hseen => by simp [hseen]
  · intro hunder
    obtain ⟨spent,hread,hspent⟩ := plays_capBreached hcap
    exact ⟨spent,hread.mono fun _ hseen => by simp [hseen],hspent hunder⟩
  · intro hunder text budget htext hbudget
    obtain ⟨spent,hread,hspent⟩ := plays_queryEgressBreached hegress hunder htext hbudget
    exact ⟨spent,hread.mono fun _ hseen => by simp [hseen],hspent⟩
  · intro hunder tolerance htolerance
    obtain ⟨spent,hread,hspent⟩ := plays_errorBudgetBreached herrors hunder htolerance
    exact ⟨spent,hread.mono fun _ hseen => by simp [hseen],hspent⟩
  · rfl

end Read

end PipKnobs

end Runtime

end SafeAgents
