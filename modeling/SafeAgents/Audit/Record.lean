import SafeAgents.Schemas.Call
import SafeAgents.Schemas.Calendar

namespace SafeAgents

inductive Outcome where
  | executed | failed | refused | denied | held | permitted | observed | expired | rejected | flagged
  deriving DecidableEq

-- The chain fields of a record (`seq`, `prevHash`, `hash`) belong to the sink and are not carried here.
structure AuditRecord where
  principal : Principal
  tool : String
  op : String
  argsDigest : String
  decision : Kind
  outcome : Outcome
  envelopeHash : String
  reason : Option String := none
  approvedBy : Option String := none
  error : Option String := none
  intentId : Option String := none
  storedCallDigest : Option String := none
  resultDigest : Option String := none
  actorDigest : Option String := none
  evidenceBucket : Option String := none
  expiredAt : Option Instant := none
  deriving DecidableEq

end SafeAgents
