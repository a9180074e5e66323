import Mathlib.Algebra.Order.Floor.Ring
import Mathlib.Data.Rat.Floor
import SafeAgents.Checked
import SafeAgents.Schemas.Grant
import SafeAgents.Schemas.IsoParse

namespace SafeAgents.Delegation

open Calendar Checked

structure DelegationScope where
  subAgentPrincipal : Principal
  actionClasses : List String
  requestedLevel : AutonomyLevel
  requestedSpendCap : ℚ
  ttlSeconds : ℚ
  allowFurtherDelegation : Bool := false

-- A sub-grant as the broker writes it: its instants are ISO-8601 texts.
structure SubGrantRecord where
  id : String
  parentGrantId : String
  delegationChain : List String
  principal : Principal
  actionClasses : List String
  level : AutonomyLevel
  spendCap : ℚ
  expiry : String
  allowFurtherDelegation : Bool
  treePoolCap : ℚ
  issuedAt : String
  issuedBy : String
  hash : String
  deriving DecidableEq

structure ParentAuthority where
  id : String
  actionClasses : List String
  level : AutonomyLevel
  remainingSpend : ℚ
  expiry : Int
  allowFurtherDelegation : Bool
  treePoolCap : ℚ
  delegationChain : List String := []
  deriving DecidableEq

-- The errors keep what their texts print.
inductive DelegationError where
  | noCausesContext (entry : String)
  | targetIsSelf (entry : String)
  | undeclaredTarget (entry requested declared : String)
  | emptyActionClasses
  | classesOutsideParent (extra parentClasses : List String)
  | levelAboveParent (requested parent : AutonomyLevel)
  | spendAboveRemaining (requested remaining : ℚ)
  | expiryPastParent (parentExpiry : String)
  | furtherDelegationForbidden
  | subGrantForbidsDelegation (id : String)
  | treePoolNotPositive (cap : ℚ)
  | unjudged (cause : Exn)
  | invalidIsoformat (text : String)
  | naiveInstant (text : String)
  | overflow
  deriving DecidableEq

def requireDeclaredTarget (scope : DelegationScope) (causingOp : ToolOp) : Except DelegationError Unit :=
  let entry := causingOp.tool ++ "." ++ causingOp.op
  match causingOp.causesContext with
  | none => .error (.noCausesContext entry)
  | some declared =>
    match declared.target with
    | .self => .error (.targetIsSelf entry)
    | .child target =>
      refuseIf (target ≠ scope.subAgentPrincipal) (.undeclaredTarget entry scope.subAgentPrincipal.key target.key)

def sortedTexts (texts : List String) : List String := texts.mergeSort fun a b => decide (a ≤ b)

def outside (texts allowed : List String) : List String := texts.filter fun c => !allowed.contains c

def roundHalfEven (x : ℚ) : Int :=
  let low := ⌊x⌋
  let rest := x - low
  if rest < 1 / 2 then low
  else if 1 / 2 < rest then low + 1
  else if low % 2 = 0 then low else low + 1

def fromtimestamp (seconds : ℚ) : Except DelegationError Int :=
  let t := roundHalfEven (seconds * 1000000)
  if Representable t then .ok t else .error .overflow

def judgedEnd (t skew : Int) : Except DelegationError Int := (endJudgedAt t skew).mapError .unjudged

structure Issuance where
  scope : DelegationScope
  causingOp : ToolOp
  now : Int
  skew : Int := 0
  uuid : String
  issuedBy : String := "broker"

section Compute
variable (hashFields : SubGrantRecord → String)

def buildSubGrant (parent : ParentAuthority) (i : Issuance) (expiry : Int) : SubGrantRecord where
  id := i.uuid
  parentGrantId := parent.id
  delegationChain := parent.delegationChain ++ [parent.id]
  principal := i.scope.subAgentPrincipal
  actionClasses := sortedTexts i.scope.actionClasses
  level := i.scope.requestedLevel
  spendCap := i.scope.requestedSpendCap
  expiry := isoformat expiry
  allowFurtherDelegation := i.scope.allowFurtherDelegation
  treePoolCap := parent.treePoolCap
  issuedAt := isoformat i.now
  issuedBy := i.issuedBy
  hash := ""

def sealed (record : SubGrantRecord) : SubGrantRecord := { record with hash := hashFields record }

def computeSubGrant (parent : ParentAuthority) (i : Issuance) : Except DelegationError SubGrantRecord := do
  requireDeclaredTarget i.scope i.causingOp
  refuseIf (i.scope.actionClasses = []) .emptyActionClasses
  let extra := outside i.scope.actionClasses parent.actionClasses
  refuseIf (extra ≠ []) (.classesOutsideParent (sortedTexts extra.dedup) (sortedTexts parent.actionClasses.dedup))
  refuseIf (autonomyRank parent.level < autonomyRank i.scope.requestedLevel)
    (.levelAboveParent i.scope.requestedLevel parent.level)
  refuseIf (parent.remainingSpend < i.scope.requestedSpendCap)
    (.spendAboveRemaining i.scope.requestedSpendCap parent.remainingSpend)
  let expiry ← fromtimestamp ((i.now : ℚ) / 1000000 + i.scope.ttlSeconds)
  let judged ← judgedEnd expiry i.skew
  refuseIf (parent.expiry < judged) (.expiryPastParent (isoformat parent.expiry))
  refuseIf (i.scope.allowFurtherDelegation = true ∧ parent.allowFurtherDelegation = false) .furtherDelegationForbidden
  return sealed hashFields (buildSubGrant parent i expiry)

end Compute

def parseIso (text : String) : Except DelegationError Int :=
  match fromisoformat text with
  | none => .error (.invalidIsoformat text)
  | some parsed =>
    match parsed.offset with
    | none => .error (.naiveInstant text)
    | some offset => .ok (parsed.clock - offset)

def assertAttenuates (parent : ParentAuthority) (child : SubGrantRecord) : Except DelegationError Unit := do
  refuseIf (autonomyRank parent.level < autonomyRank child.level) (.levelAboveParent child.level parent.level)
  let extra := outside child.actionClasses parent.actionClasses
  refuseIf (extra ≠ []) (.classesOutsideParent (sortedTexts extra.dedup) (sortedTexts parent.actionClasses.dedup))
  refuseIf (parent.remainingSpend < child.spendCap) (.spendAboveRemaining child.spendCap parent.remainingSpend)
  let expiry ← parseIso child.expiry
  refuseIf (parent.expiry < expiry) (.expiryPastParent (isoformat parent.expiry))
  refuseIf (child.allowFurtherDelegation = true ∧ parent.allowFurtherDelegation = false) .furtherDelegationForbidden

-- The parameters of a root grant; its own cap is what the remaining spend is counted from.
structure RootGrant where
  grantId : String
  actionClasses : List String
  level : AutonomyLevel
  spendCap : ℚ
  expiry : Int
  treePoolCap : ℚ
  allowFurtherDelegation : Bool := true

def parentFromGrant (root : RootGrant) (remainingSpend : ℚ) : Except DelegationError ParentAuthority := do
  refuseIf (root.treePoolCap ≤ 0) (.treePoolNotPositive root.treePoolCap)
  return { id := root.grantId, actionClasses := root.actionClasses, level := root.level, remainingSpend,
           expiry := root.expiry, treePoolCap := root.treePoolCap,
           allowFurtherDelegation := root.allowFurtherDelegation, delegationChain := [] }

def parentFromSubGrant (subGrant : SubGrantRecord) (remainingSpend : ℚ) : Except DelegationError ParentAuthority := do
  refuseIf (subGrant.allowFurtherDelegation = false) (.subGrantForbidsDelegation subGrant.id)
  let expiry ← parseIso subGrant.expiry
  return { id := subGrant.id, actionClasses := subGrant.actionClasses, level := subGrant.level, remainingSpend, expiry,
           treePoolCap := subGrant.treePoolCap, allowFurtherDelegation := subGrant.allowFurtherDelegation,
           delegationChain := subGrant.delegationChain }

end SafeAgents.Delegation
