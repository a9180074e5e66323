import SafeAgents.Delegation.Pool
import SafeAgents.Pdp.Engine
import SafeAgents.Runtime.Observed

namespace SafeAgents

open Interleaving

structure Digests where
  sha256 : String → String
  hashArgs : Json → String
  hashResult : ConnectorResult → String
  hashStoredCall : BrokeredCall → String

def ToolOp.key (m : ToolOp) : String := m.tool ++ "." ++ m.op

structure ToolOpTable where
  entries : List ToolOp
  unique : (entries.map ToolOp.key).Nodup

namespace ToolOpTable

def entry (table : ToolOpTable) (tool op : String) : Option ToolOp :=
  table.entries.find? fun m => m.key == tool ++ "." ++ op

theorem key_of_entry {table : ToolOpTable} {tool op : String} {m : ToolOp} (h : table.entry tool op = some m) :
    m.key = tool ++ "." ++ op := by
  have := List.find?_some h
  simpa using this

end ToolOpTable

namespace Runtime

inductive BlastClass where
  | low | medium | high
  deriving DecidableEq

structure Confidence where
  minConfidence : Option ℚ := none
  methods : Option (List ConfidenceMethod) := none
  errorBudgetTolerance : Option ℚ := none
  highBlast : List String := []
  blastWeights : BlastClass → Option ℚ := fun _ => none

def meetsBar (artifact : Option ConfidenceArtifact) (knob : Option Confidence) : Bool :=
  match knob.bind Confidence.minConfidence, artifact with
  | none, _ => true
  | some _, none => false
  | some minConfidence, some artifact =>
    !artifact.stale && ((knob.bind Confidence.methods).all fun methods => methods.contains artifact.method) &&
      minConfidence ≤ artifact.confidence

def deriveBlastClass (m : ToolOp) : BlastClass :=
  if m.effect = .read then .low
  else if m.external && m.reversible ≠ some true then .high
  else .medium

def effectiveBlastClass (m : ToolOp) (highBlast : List String) : BlastClass :=
  if highBlast.contains m.key then .high else deriveBlastClass m

def BlastClass.text : BlastClass → String
  | .low => "low"
  | .medium => "medium"
  | .high => "high"

def errorBudgetDraw (errorProb : ℚ) (blast : BlastClass) (knob : Confidence) : Except Exn ℚ :=
  match knob.blastWeights blast with
  | some weight => .ok (errorProb * weight)
  | none =>
    .error (.exception
      ("no blast_radius weight declared for blast class " ++ pyRepr blast.text ++
        "; declare a weight for every class in Envelope.confidence.blast_weights (the base never defaults a domain weight)"))

structure ApprovalQueue where
  dedup : Bool := false
  maxPendingPerOpDay : Option Nat := none

inductive RawConfidence where
  | absent
  | malformed
  | artifact (artifact : ConfidenceArtifact)

structure AgentRequest where
  tool : String
  op : String
  args : Json
  confidence : RawConfidence := .absent
  idempotencyKey : Option String := none

-- The PIP only reads: grants, standing, sub-grants and counters.
def PipReads : Op → Prop
  | .store (.readCounter _) => True
  | .env .now => True
  | .env (.freshFacts _) => True
  | .env (.grant _ _) => True
  | .env (.standing _ _) => True
  | .env (.subGrant _) => True
  | _ => False

theorem reads_freshFacts (call : BrokeredCall) : Uses PipReads (env (.freshFacts call)) := uses_env.mpr trivial

structure BrokerRuntime where
  instanceId : String
  principal : Principal
  optable : ToolOpTable
  pip : BrokeredCall → Act Facts
  pipReads : ∀ call, Uses PipReads (pip call)
  trustMap : InputTrustMap
  envelopeHash : String
  counterCap : ℚ := 100
  trustedReadSources : List String := []
  approvalQueue : Option ApprovalQueue := none
  confidenceKnob : Option Confidence := none
  counterPeriod : CounterPeriod := .utcDay
  delegates : Bool := false
  clockSkew : Int := 0
  inherits : Bool := false
  inheritanceRequired : inherits = false → ∀ m ∈ optable.entries, m.causesContext = none
  digests : Digests
  pyFloat : ℚ → String

end Runtime

end SafeAgents
