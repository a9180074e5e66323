import SafeAgents.Enforcement.Types

namespace SafeAgents

namespace Approval

structure ExecutionResult where
  intentId : String
  executed : Bool
  result : ConnectorResult := .none
  rejectionReason : Option String := none
  expiredByThisCall : Bool := false
  approvedForReissue : Bool := false

end Approval

namespace Runtime

inductive ExecutionOutcome where
  | failed | refused
  deriving DecidableEq

structure BrokerResponse where
  decisionKind : Kind
  reason : Option String := none
  intentId : Option String := none
  result : ConnectorResult := .none
  idempotent : Bool := false
  executionOutcome : Option ExecutionOutcome := none

inductive Answer where
  | permit | refuse
  deriving DecidableEq

inductive HarnessOutcome where
  | permitted | held | denied
  deriving DecidableEq

structure HarnessDecision where
  answer : Answer
  reason : String
  intentId : Option String := none
  decisionKind : Option Kind := none
  outcome : Option HarnessOutcome := none
  deriving DecidableEq

inductive Reply where
  | response (response : BrokerResponse)
  | execution (result : Approval.ExecutionResult)
  | harness (decision : HarnessDecision)
  | observed (ingested : Option String)
  | swept (recorded : Nat)
  | rolled

end Runtime

end SafeAgents
