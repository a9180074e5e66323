import SafeAgents.Schemas.ClockSkew

namespace SafeAgents

structure Grant where
  level : AutonomyLevel
  lastSafeLevel : AutonomyLevel
  envelopeHash : String
  certifiedUntil : Option Instant := none

def autonomyRank : AutonomyLevel → Nat
  | .inLoop => 0
  | .onLoop => 1
  | .outOfLoop => 2

structure GrantReadResult where
  grant : Option Grant
  quarantined : Bool := false
  quarantineReason : Option String := none

structure StandingAssessment where
  held : Bool
  reason : Option String := none

structure SubGrant where
  id : String
  delegationChain : List String
  principal : Principal
  treePoolCap : ℚ
  expiry : Instant

structure InheritanceRecord where
  id : String
  target : Principal
  causingPrincipal : Principal
  causingTurnId : String
  taint : TaintFlag
  tool : String
  op : String
  issuedAt : Instant
  notAfter : Instant

def termPassed (grant : Grant) (now : Instant) (skew : Int) : Except Exn Bool :=
  match grant.certifiedUntil with
  | none => .ok false
  | some certifiedUntil => (endJudgedAt now skew).map fun judged => decide (judged ≥ certifiedUntil)

def effectiveLevel (grant : Grant) (now : Instant) (skew : Int) (standingHeld : Bool) : Except Exn AutonomyLevel :=
  (termPassed grant now skew).map fun passed =>
    if standingHeld && !passed then grant.level
    else if autonomyRank grant.lastSafeLevel < autonomyRank grant.level then grant.lastSafeLevel
    else grant.level

end SafeAgents
