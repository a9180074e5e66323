import SafeAgents.Grants.Writers

namespace SafeAgents.Grants

open Calendar Checked Interleaving PromotionRecord

structure DemotionSignal where
  trigger : DemotionTrigger
  principal : Principal
  actionClass : String

structure DemotionResult where
  shouldDemote : Bool
  triggeredBy : List DemotionTrigger
  reason : String

def triggerReason : DemotionTrigger → DemotionReason
  | .staleConfidence => .pendingEvidence
  | .corroborationFailure => .failing
  | .budgetBreach => .failing
  | .falseAction => .failing

inductive RunnerStatus where
  | noGrant | quarantined | noBreach | deduped | demoted | conflict
  deriving DecidableEq

structure RunnerOutcome where
  status : RunnerStatus
  reason : String
  triggeredBy : List String := []
  updatedGrant : Option GrantDocument := none
  record : Option PromotionRecord := none
  deriving DecidableEq

def metricsFromSignals (signals : List DemotionSignal) (principal : Principal) (actionClass : String) : List DemotionTrigger :=
  ((signals.filter fun s => s.principal = principal ∧ s.actionClass = actionClass).map DemotionSignal.trigger).eraseDups

def demotionTargetLevel (g : GrantDocument) : AutonomyLevel := g.lastSafeLevel

def evaluateDemotionTriggers (g : GrantDocument) (tripped : List DemotionTrigger) : DemotionResult :=
  let triggered := g.demotionTriggers.filter fun t => t ∈ tripped
  if triggered = [] then
    { shouldDemote := false
      triggeredBy := []
      reason := "no active breach for " ++ g.coordinate ++ ": configured=" ++ pyList (g.demotionTriggers.map DemotionTrigger.text) ++
        ", tripped=" ++ pyList (tripped.map DemotionTrigger.text) }
  else
    { shouldDemote := true
      triggeredBy := triggered
      reason := "demotion triggered for " ++ g.coordinate ++ ": breached=" ++ pyList (triggered.map DemotionTrigger.text) ++
        "; level " ++ pyRepr g.level.text ++ " → " ++ pyRepr g.lastSafeLevel.text }

def demotedLevel (g : GrantDocument) : AutonomyLevel :=
  if autonomyRank g.level ≤ autonomyRank (demotionTargetLevel g) then g.level else demotionTargetLevel g

def demotionReasonOf (triggered : List DemotionTrigger) : DemotionReason :=
  if .failing ∈ triggered.map triggerReason then .failing else .pendingEvidence

def demotedGrant (g : GrantDocument) (triggered : List DemotionTrigger) (ts : String) : GrantDocument :=
  { g with
    level := demotedLevel g
    lastSafeLevel := if demotedLevel g = g.level ∨ g.level = .outOfLoop then g.lastSafeLevel else g.level
    demotionReason := some (demotionReasonOf triggered)
    ts }

def demotionRecord (g : GrantDocument) (result : DemotionResult) (ts : String) : PromotionRecord where
  recordType := .demotion
  actionClass := g.actionClass
  principal := g.principal
  fromLevel := some g.level
  toLevel := demotedLevel g
  evidence := result.reason
  proposedBy := demotionRatifier
  ratifiedBy := demotionRatifier
  envelopeHash := g.envelopeHash
  triggeredBy := result.triggeredBy.map DemotionTrigger.text
  demotionReason := some (demotionReasonOf result.triggeredBy)
  ts

-- The instants one pass reads: its caller's, or the system clock once for the dedupe and once for the stamp.
structure PassClock where
  ts : Option String
  evaluated : Moment
  stamped : Moment

def dayText (clock : Int) : String := String.ofList (dateChars (dateOf clock))

namespace PassClock

def reading (clock : PassClock) : Reading :=
  match clock.ts with
  | some text => .text text
  | none => .system clock.stamped

def day (clock : PassClock) : Except GrantError String :=
  match clock.ts with
  | none => .ok (dayText clock.evaluated.1)
  | some text =>
    match fromisoformat text with
    | none => .error (.value ("Invalid isoformat string: " ++ pyRepr text))
    | some parsed => .ok (dayText parsed.clock)

def validate (clock : PassClock) : Except GrantError Unit :=
  match clock.ts with
  | none => .ok ()
  | some text => validateRecordTs text

end PassClock

section Writer
variable {F : Type}

def applyDemotion (g : GrantDocument) (result : DemotionResult) (now : Reading) (sign : Option (PromotionRecord → Json)) :
    Ceremony F (GrantDocument × PromotionRecord) := do
  if result.shouldDemote = false then
    throw (.value ("apply_demotion called with should_demote=False; " ++
      "only call this after evaluate_demotion_triggers returns True"))
  let ts ← ledgerTs g.principal g.actionClass now
  let current ← reread g
    (.grantNotFound ("grant " ++ g.coordinate ++ " not found in store; " ++
      "demotion uses UpdateItem semantics and cannot create a new grant"))
    (.demotionConflict ("grant " ++ g.coordinate ++ " was modified between evaluate and apply; re-read and re-evaluate"))
  let record ← judge .store (demotionRecord g result ts).construct
  let updated := demotedGrant g result.triggeredBy ts
  writeEvaluated record updated current (sign.map fun sign => sign record)
    (.demotionConflict ("grant " ++ g.coordinate ++
      " was modified between evaluate and apply (conditional write failed); re-read and re-evaluate"))
  return (updated,record)

def runnerFailure (coordinate : String) (triggeredBy : List String) : CeremonyError → Option RunnerOutcome
  | .demotionConflict text => some { status := .conflict, reason := text, triggeredBy }
  | .grantNotFound text => some { status := .noGrant, reason := text }
  | .store (.recordAlreadyExists text) => some
      { status := .conflict
        reason := "grant " ++ coordinate ++ " lowered, but the demotion record collided with an existing ledger entry: " ++ text
        triggeredBy }
  | _ => none

def sameDayDemotionRecorded (g : GrantDocument) (triggeredBy : List String) (day : String) : Ceremony F Bool := do
  let records ← listRecordsOp g.principal g.actionClass (some day)
  return records.any fun r => r.recordType = .demotion && r.triggeredBy = triggeredBy && r.toLevel = g.level

def alreadyRecorded (g : GrantDocument) (triggeredBy : List String) (clock : PassClock) : Ceremony F Bool :=
  if autonomyRank g.level ≤ autonomyRank (demotionTargetLevel g) then do
    let day ← judge .store clock.day
    sameDayDemotionRecorded g triggeredBy day
  else return false

def runDemotion (principal : Principal) (actionClass : String) (signals : List DemotionSignal) (clock : PassClock)
    (sign : Option (PromotionRecord → Json)) : Ceremony F RunnerOutcome := do
  let coordinate := principal.agentId ++ "/" ++ actionClass
  judge .store clock.validate
  let read ← getGrantOp principal actionClass
  if read.quarantined then
    return { status := .quarantined
             reason := "grant " ++ coordinate ++ " is QUARANTINED (" ++ read.quarantineReason.getD "None" ++
               "); not demoting — quarantined contents are untrusted" }
  match read.grant with
  | none => return { status := .noGrant, reason := "no grant for " ++ coordinate ++ "; nothing to demote" }
  | some g => do
    let result := evaluateDemotionTriggers g (metricsFromSignals signals principal actionClass)
    if result.shouldDemote = false then return { status := .noBreach, reason := result.reason }
    let triggeredBy := result.triggeredBy.map DemotionTrigger.text
    let recorded ← alreadyRecorded g triggeredBy clock
    if recorded then
      return { status := .deduped
               reason := "record-only breach for " ++ coordinate ++ " (" ++ pyList triggeredBy ++ " at level " ++
                 pyRepr g.level.text ++ ") already recorded today; skipping — zero writes"
               triggeredBy }
    tryCatch
      (do
        let (updated,record) ← applyDemotion g result clock.reading sign
        return { status := .demoted, reason := result.reason, triggeredBy, updatedGrant := some updated, record := some record })
      fun e =>
        match runnerFailure coordinate triggeredBy e with
        | some outcome => return outcome
        | none => throw e

end Writer

end SafeAgents.Grants
