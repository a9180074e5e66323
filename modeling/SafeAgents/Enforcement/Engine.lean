import SafeAgents.Signature

namespace SafeAgents

open Interleaving

namespace Enforcement

def refusal (reason : String) : EnforcementResult :=
  { decision := .deny reason, idempotent := false, ledgerEntryId := none }

def inFlightReason (key ts : String) : String :=
  "idempotency key " ++ pyRepr key ++ " is in flight (claimed at " ++ ts ++
    "); retry later. A stale claim left by a crashed broker is cleared with delete_idempotency."

def failedReason (key error : String) : String :=
  "idempotency key " ++ pyRepr key ++ " was already attempted and its executor failed with an uncertain outcome (" ++
    error ++ "); the side effect may or may not have landed. Reconcile with the connector, then retry under a NEW key."

def contendedReason (key : String) : String :=
  "idempotency key " ++ pyRepr key ++ " is contended; another call claimed it concurrently. Retry later."

def settledOutcome (stored : IdempotencyRecord) (key : String) : Except Exn (Option EnforcementResult) :=
  match stored.status with
  | .inFlight => .ok (some (refusal (inFlightReason key stored.ts)))
  | .failed => .ok (some (refusal (failedReason key (stored.error.getD "None"))))
  | .executed =>
    match stored.decision with
    | .error e => .error e
    | .ok decision =>
      if decision.executes then
        match stored.result with
        | .error e => .error e
        | .ok result => .ok (some { decision, idempotent := true, ledgerEntryId := none, result })
      else .ok none

def completeClaim (key : String) (decisionJson : Text Decision) (resultJson : Option (Text Json)) : Act Unit := do
  let _ ← store (.completeIdempotency key decisionJson resultJson)

def failClaim (key error : String) : Act Unit :=
  guarded do
    let _ ← store (.failIdempotency key error)

def releaseClaim (key : String) : Act Unit := guarded (store (.deleteIdempotency key))

def claimAbsent (key : String) : Act (Option EnforcementResult) := do
  let ts ← env .nowIso
  let won ← store (.putIdempotencyIfAbsent { key, decisionJson := .blank, ts, status := .inFlight })
  if won then return none
  match ← store (.getIdempotency key) with
  | none => return some (refusal (contendedReason key))
  | some stored =>
    match ← Prog.finish (settledOutcome stored key) with
    | some settled => return some settled
    | none => return some (refusal (contendedReason key))

def claim (key : String) : Act (Option EnforcementResult) := do
  match ← store (.getIdempotency key) with
  | none => claimAbsent key
  | some stored =>
    match ← Prog.finish (settledOutcome stored key) with
    | some settled => return some settled
    | none =>
      store (.deleteIdempotency key)
      claimAbsent key

def drawAncestors : List CounterDraw → Decision → Act Decision
  | [], effective => return effective
  | draw :: draws, effective => do
    if ← store (.tryIncrementCounter draw.key draw.delta draw.cap) then drawAncestors draws effective
    else return .deny ("delegation-tree budget exceeded (pool " ++ draw.key ++ ")")

def drawBudget (counterKey : String) (counterDelta counterCap : ℚ) (ancestorDraws : List CounterDraw)
    (effective : Decision) : Act Decision := do
  if effective.executes then
    if ← store (.tryIncrementCounter counterKey counterDelta counterCap) then
      drawAncestors ancestorDraws effective
    else return .deny "capacity budget exceeded"
  else return effective

structure Request where
  call : BrokeredCall
  initialDecision : Decision
  idempotencyKey : Option String
  counterKey : String
  counterDelta : ℚ
  counterCap : ℚ
  ancestorDraws : List CounterDraw := []

structure Callbacks where
  decider : BrokeredCall → Facts → Act Decision
  freshFacts : BrokeredCall → Act Facts
  executor : Option (BrokeredCall → Decision → Act ConnectorResult)

variable (q : Request) (cb : Callbacks)

def journal (effective : Decision) : Act String := do
  let entryId ← env .uuid
  let tsCreated ← env .nowIso
  store (.writeLedger {
    entryId
    idempotencyKey := q.idempotencyKey
    callJson := q.call
    decisionKind := effective.kind
    status := .uncommitted
    tsCreated })
  return entryId

def prepare : Act (Decision × String) := do
  let currentFacts ← cb.freshFacts q.call
  let revalidated ← cb.decider q.call currentFacts
  let effective ← drawBudget q.counterKey q.counterDelta q.counterCap q.ancestorDraws
    (q.initialDecision.pickStricter revalidated)
  let entryId ← journal q effective
  return (effective,entryId)

def releaseIfClaimed (claimedKey : Option String) : Act Unit :=
  match claimedKey with
  | some key => releaseClaim key
  | none => return ()

def prepareOrRelease (claimedKey : Option String) : Act (Decision × String) :=
  tryCatch (prepare q cb) fun e => do
    releaseIfClaimed claimedKey
    throw e

def markLedger (entryId error : String) : Act Unit :=
  if q.call.manifest.reversible = some true then store (.compensateLedger entryId error)
  else store (.escalateLedger entryId error)

def failIfClaimed (claimedKey : Option String) (error : String) : Act Unit :=
  match claimedKey with
  | some key => failClaim key error
  | none => return ()

def sagaFailure (claimedKey : Option String) (entryId : String) (e : Exn) : Act ConnectorResult := do
  markLedger q entryId e.str
  failIfClaimed claimedKey e.str
  throw e

def runExecutor (claimedKey : Option String) (entryId : String) (effective : Decision) : Act ConnectorResult :=
  match cb.executor with
  | none => return .none
  | some executor =>
    tryCatch (executor q.call effective) fun e =>
      if e.isException then sagaFailure q claimedKey entryId e else throw e

def commit (entryId : String) : Act Unit := do
  let ts ← env .nowIso
  store (.commitLedger entryId ts)

def executeStep (claimedKey : Option String) (entryId : String) (effective : Decision) : Act ConnectorResult :=
  match effective with
  | .allow | .transform _ _ => do
    let result ← runExecutor q cb claimedKey entryId effective
    commit entryId
    return result
  | .requireApproval _ _ => return .none
  | .deny _ | .abstain _ _ => do
    commit entryId
    return .none

def resultJson : ConnectorResult → Except Exn (Option (Text Json))
  | .none => .ok none
  | result => (dumps (marshalConnectorResult result)).map some

def settleClaim (claimedKey : Option String) (effective : Decision) (result : ConnectorResult) : Act Unit :=
  match claimedKey with
  | none => return ()
  | some key =>
    if effective.executes then do
      let resultJson ← Prog.finish (resultJson result)
      completeClaim key (.json effective) resultJson
    else releaseClaim key

def enforceClaimed (claimedKey : Option String) : Act EnforcementResult := do
  let (effective,entryId) ← prepareOrRelease q cb claimedKey
  let result ← executeStep q cb claimedKey entryId effective
  settleClaim claimedKey effective result
  return { decision := effective, idempotent := false, ledgerEntryId := some entryId, result }

def enforce : Act EnforcementResult :=
  match q.idempotencyKey with
  | none => enforceClaimed q cb none
  | some key => do
    match ← claim key with
    | some settled => return settled
    | none => enforceClaimed q cb (some key)

end Enforcement

end SafeAgents
