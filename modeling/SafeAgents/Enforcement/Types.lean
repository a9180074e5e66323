import SafeAgents.Schemas.Call
import SafeAgents.Interleaving.Contract

namespace SafeAgents

inductive Exn where
  | connectorExecution (message : String) (refused : Bool)
  | inheritanceWrite (message : String)
  | releaseRefused (reason : String)
  | quarantinedIntent (intentId reason : String)
  | intentAlreadyPending (intentId : String)
  | exception (text : String)
  | baseException (text : String)
  deriving DecidableEq

def pyQuote (s : String) : Char :=
  if s.contains '\'' && !s.contains '"' then '"' else '\''

-- Beyond Latin-1 every character is taken as printable.
def pyEscape (quote c : Char) : String :=
  if c == quote then String.ofList ['\\',c]
  else if c == '\\' then "\\\\"
  else if c == '\n' then "\\n"
  else if c == '\r' then "\\r"
  else if c == '\t' then "\\t"
  else if c.toNat < 32 || (127 ≤ c.toNat && c.toNat ≤ 160) || c.toNat == 173 then
    "\\x" ++ String.ofList [Nat.digitChar (c.toNat / 16),Nat.digitChar (c.toNat % 16)]
  else String.singleton c

def pyRepr (s : String) : String :=
  let quote := pyQuote s
  String.singleton quote ++ String.join (s.toList.map (pyEscape quote)) ++ String.singleton quote

namespace Exn

def isException : Exn → Bool
  | .baseException _ => false
  | _ => true

def isConnectorExecution : Exn → Bool
  | .connectorExecution _ _ => true
  | .inheritanceWrite _ => true
  | _ => false

def refused : Exn → Bool
  | .connectorExecution _ r => r
  | _ => false

def typeName : Exn → String
  | .connectorExecution _ _ => "ConnectorExecutionError"
  | .inheritanceWrite _ => "InheritanceWriteError"
  | .releaseRefused _ => "ReleaseRefusedError"
  | .quarantinedIntent _ _ => "QuarantinedIntentError"
  | .intentAlreadyPending _ => "IntentAlreadyPendingError"
  | .exception _ => "Exception"
  | .baseException _ => "BaseException"

def str : Exn → String
  | .connectorExecution message _ => message
  | .inheritanceWrite message => message
  | .releaseRefused reason => reason
  | .quarantinedIntent intentId reason => "intent " ++ pyRepr intentId ++ " quarantined: " ++ reason
  | .intentAlreadyPending intentId =>
    "intent " ++ pyRepr intentId ++ " is already pending; refusing to overwrite it"
  | .exception text => text
  | .baseException text => text

end Exn

-- A stored JSON text is kept as the value it parses to; malformed text is what the parser refuses.
inductive Text (α : Type) where
  | blank
  | json (value : α)
  | malformed (text : String)

inductive ConnectorResult where
  | none
  | native (value : Json)
  | typed (dump : Json)
  | unserializable (repr : String)
  | permitRecorded

def marshalConnectorResult : ConnectorResult → ConnectorResult
  | .typed dump => .native dump
  | r => r

def dumps : ConnectorResult → Except Exn (Text Json)
  | .none => .ok (.json .null)
  | .native value => .ok (.json value)
  | .typed _ => .error (.exception "Object is not JSON serializable")
  | .unserializable _ => .error (.exception "Object is not JSON serializable")
  | .permitRecorded => .error (.exception "Object is not JSON serializable")

def loads : Text Json → Except Exn ConnectorResult
  | .json .null => .ok .none
  | .json value => .ok (.native value)
  | .blank => .error (.exception "Expecting value: line 1 column 1 (char 0)")
  | .malformed _ => .error (.exception "JSONDecodeError")

structure CounterDraw where
  key : String
  delta : ℚ
  cap : ℚ
  deriving DecidableEq

inductive IdempotencyStatus where
  | inFlight | executed | failed
  deriving DecidableEq

structure IdempotencyRecord where
  key : String
  decisionJson : Text Decision
  ts : String
  resultJson : Option (Text Json) := none
  status : IdempotencyStatus := .executed
  error : Option String := none

namespace IdempotencyRecord

def decision (r : IdempotencyRecord) : Except Exn Decision :=
  match r.decisionJson with
  | .blank =>
    .ok (.deny ("idempotency key " ++ pyRepr r.key ++ " is claimed but has no recorded outcome"))
  | .json d => .ok d
  | .malformed _ => .error (.exception "ValidationError")

def result (r : IdempotencyRecord) : Except Exn ConnectorResult :=
  match r.resultJson with
  | .none => .ok .none
  | .some text => loads text

end IdempotencyRecord

inductive LedgerStatus where
  | uncommitted | committed | compensated | escalated
  deriving DecidableEq

structure LedgerEntry where
  entryId : String
  idempotencyKey : Option String
  callJson : BrokeredCall
  decisionKind : Kind
  status : LedgerStatus
  tsCreated : String
  tsCommitted : Option String := none
  error : Option String := none

structure EnforcementResult where
  decision : Decision
  idempotent : Bool
  ledgerEntryId : Option String
  result : ConnectorResult := .none

end SafeAgents
