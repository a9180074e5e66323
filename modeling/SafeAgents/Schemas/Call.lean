import Mathlib.Data.Rat.Defs

namespace SafeAgents

inductive Json where
  | null
  | bool (b : Bool)
  | num (text : String)
  | str (s : String)
  | arr (items : List Json)
  | obj (fields : List (String × Json))
  deriving Inhabited

namespace Json

def get? : Json → String → Option Json
  | .obj fields, name => (fields.find? fun f => f.1 == name).map Prod.snd
  | _, _ => none

def str? : Json → Option String
  | .str s => some s
  | _ => none

end Json

inductive Tier where
  | A | B | C | D
  deriving DecidableEq

def Tier.text : Tier → String
  | .A => "A"
  | .B => "B"
  | .C => "C"
  | .D => "D"

structure Principal where
  agentId : String
  skill : String
  user : String
  tier : Tier
  deriving DecidableEq

def Principal.key (p : Principal) : String :=
  p.agentId ++ "#" ++ p.skill ++ "#" ++ p.user ++ "#" ++ p.tier.text

inductive AutonomyLevel where
  | inLoop | onLoop | outOfLoop
  deriving DecidableEq

inductive Effect where
  | read | write
  deriving DecidableEq

inductive ContextTarget where
  | self
  | child (principal : Principal)
  deriving DecidableEq

structure CausesContext where
  target : ContextTarget
  horizonSeconds : Nat
  deriving DecidableEq

structure ToolOp where
  tool : String
  op : String
  effect : Effect
  external : Bool
  reversible : Option Bool := none
  egressArg : Option String := none
  destinationArg : Option String := none
  causesContext : Option CausesContext := none
  deriving DecidableEq

namespace ToolOp

def externalWrite (m : ToolOp) : Bool := m.external && m.effect = .write

def externalRead (m : ToolOp) : Bool := m.external && m.effect = .read

end ToolOp

structure TaintFlag where
  tainted : Bool
  sources : List String
  deriving DecidableEq

structure Session where
  turnId : String
  ingestedSources : List String
  deriving DecidableEq

inductive ConfidenceMethod where
  | selfConsistency | ensemble | conformal
  deriving DecidableEq

structure ConfidenceArtifact where
  confidence : ℚ
  errorProb : ℚ
  method : ConfidenceMethod
  stale : Bool := false
  deriving DecidableEq

structure BrokeredCall where
  principal : Principal
  tool : String
  op : String
  args : Json
  manifest : ToolOp
  taint : TaintFlag
  session : Session
  ts : String
  confidence : Option ConfidenceArtifact := none

structure RenderedIntent where
  id : String
  renderedForHuman : String
  deriving DecidableEq

inductive Kind where
  | allow | deny | transform | requireApproval | abstain
  deriving DecidableEq

def Kind.text : Kind → String
  | .allow => "allow"
  | .deny => "deny"
  | .transform => "transform"
  | .requireApproval => "require_approval"
  | .abstain => "abstain"

inductive Decision where
  | allow
  | deny (reason : String)
  | transform (op : String) (args : Json)
  | requireApproval (renderedIntent : RenderedIntent) (reason : Option String)
  | abstain (escalate : Bool) (reason : String)

namespace Decision

def kind : Decision → Kind
  | .allow => .allow
  | .deny _ => .deny
  | .transform _ _ => .transform
  | .requireApproval _ _ => .requireApproval
  | .abstain _ _ => .abstain

def executes (d : Decision) : Bool := d.kind = .allow || d.kind = .transform

def strictness : Kind → Nat
  | .allow => 0
  | .transform => 1
  | .requireApproval => 2
  | .abstain => 3
  | .deny => 4

def pickStricter (a b : Decision) : Decision :=
  if strictness b.kind > strictness a.kind then b else a

theorem pickStricter_strictness (a b : Decision) :
    strictness (pickStricter a b).kind = max (strictness a.kind) (strictness b.kind) := by
  unfold pickStricter
  split <;> omega

theorem executes_iff_strictness (d : Decision) : d.executes = true ↔ strictness d.kind ≤ 1 := by
  cases d <;> simp [executes,kind,strictness]

theorem executes_pickStricter (a b : Decision) :
    (pickStricter a b).executes = true ↔ a.executes = true ∧ b.executes = true := by
  rw [executes_iff_strictness,executes_iff_strictness,executes_iff_strictness,pickStricter_strictness]
  omega

end Decision

end SafeAgents
