import SafeAgents.Schemas.Call

namespace SafeAgents

structure Facts where
  grantPresent : Bool
  grantLevel : AutonomyLevel
  errorBudgetBreached : Bool
  capBudgetBreached : Bool
  escalationBudgetAvailable : Bool
  humanReachable : Bool
  transformOp : Option String := none
  quarantined : Bool := false
  quarantineReason : Option String := none
  standingFallReason : Option String := none
  readSourceTrusted : Bool := false
  queryBytesExceeded : Bool := false
  queryEgressBreached : Bool := false
  confidenceBelowBar : Bool := false
  destinationComposed : Bool := false
  harnessClassHeld : Bool := false
  deriving DecidableEq

end SafeAgents
