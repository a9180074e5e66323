import SafeAgents.Schemas.Call

namespace SafeAgents

abbrev InputTrustMap := String → Bool

def connectorSourceId (tool op : String) : String := "connector:" ++ tool ++ "." ++ op

structure TurnContext where
  turnId : String
  tainted : Bool := false
  sources : List String := []
  deriving DecidableEq

namespace TurnContext

def markTainted (turn : TurnContext) (source : String) : TurnContext where
  turnId := turn.turnId
  tainted := true
  sources := if turn.sources.contains source then turn.sources else turn.sources ++ [source]

def ingestSource (turn : TurnContext) (source : String) (trusted : Bool) : TurnContext :=
  if trusted then turn else turn.markTainted source

def ingestMemoryTaint (turn : TurnContext) (taintFlag : Bool) (source : String) : TurnContext :=
  if taintFlag then turn.markTainted source else turn

def toTaint (turn : TurnContext) : TaintFlag where
  tainted := turn.tainted
  sources := turn.sources

theorem mem_sources_markTainted (turn : TurnContext) (source : String) :
    source ∈ (turn.markTainted source).sources := by
  unfold markTainted
  split <;> simp_all

theorem sources_markTainted_mono (turn : TurnContext) (source : String) {s : String} (h : s ∈ turn.sources) :
    s ∈ (turn.markTainted source).sources := by
  unfold markTainted
  split
  · exact h
  · exact List.mem_append_left _ h

theorem sources_ingestSource_mono (turn : TurnContext) (source : String) (trusted : Bool) {s : String}
    (h : s ∈ turn.sources) : s ∈ (turn.ingestSource source trusted).sources := by
  unfold ingestSource
  split
  · exact h
  · exact sources_markTainted_mono turn source h

theorem tainted_ingestSource_mono (turn : TurnContext) (source : String) (trusted : Bool) (h : turn.tainted = true) :
    (turn.ingestSource source trusted).tainted = true := by
  cases trusted with
  | true => exact h
  | false => rfl

end TurnContext

end SafeAgents
