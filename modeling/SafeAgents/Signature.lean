import SafeAgents.Enforcement.Store
import SafeAgents.Approval.Store
import SafeAgents.Pdp.Facts
import SafeAgents.Schemas.Grant
import SafeAgents.Taint.Context
import SafeAgents.Audit.Record
import SafeAgents.Runtime.Reply

namespace SafeAgents

open Interleaving

structure NotifierEvent where
  intentId : String
  renderedForHuman : String
  expiry : Instant
  ts : Instant

inductive ExecutionPath where
  | inline | release
  deriving DecidableEq

structure DoerResult where
  op : String
  result : ConnectorResult

inductive EnvOp where
  | now
  | nowIso
  | uuid
  | freshFacts (call : BrokeredCall)
  | decider (call : BrokeredCall) (facts : Facts)
  | executor (call : BrokeredCall) (decision : Decision)
  | release (call : BrokeredCall)
  | notify (event : NotifierEvent)
  | doer (path : ExecutionPath) (call : BrokeredCall) (effective : Decision)
  | staleInputs
  | grant (principal : Principal) (actionClass : String)
  | standing (grant : Grant) (now : Instant)
  | subGrant (principal : Principal)
  | liveRecords (principal : Principal) (at_ : Instant)
  | putInheritance (record : InheritanceRecord)
  | demotionSignal (call : BrokeredCall) (spent tolerance : ℚ)
  | raiseAlarm (tool op : String)
  | countExpiry (tool op : String) (heldAt expiredAt : Instant)
  | flushAlarm
  | answer (reply : Except Exn Runtime.Reply)

@[reducible] def EnvOp.Ret : EnvOp → Type
  | now => Instant
  | nowIso => String
  | uuid => String
  | freshFacts _ => Facts
  | decider _ _ => Decision
  | executor _ _ => ConnectorResult
  | release _ => ConnectorResult
  | notify _ => Unit
  | doer _ _ _ => DoerResult
  | staleInputs => List String
  | grant _ _ => GrantReadResult
  | standing _ _ => StandingAssessment
  | subGrant _ => Option SubGrant
  | liveRecords _ _ => List InheritanceRecord
  | putInheritance _ => Unit
  | demotionSignal _ _ _ => Unit
  | raiseAlarm _ _ => Unit
  | countExpiry _ _ _ _ => Bool
  | flushAlarm => Unit
  | answer _ => Unit

-- A turn context is an object of the process that minted it.
structure TurnRef where
  runtime : String
  turnId : String
  deriving DecidableEq

def stampCallTs (last : Option Instant) (now : Instant) : Except Exn Instant :=
  match last with
  | none => .ok now
  | some last => if now ≤ last then datetimeSum last 1 else .ok now

structure ProcessState where
  contexts : TurnRef → Option TurnContext
  currentTurn : String → Option TurnRef
  lastCallTs : String → Option Instant
  sweepQuarantined : String → List String

def ProcessState.empty : ProcessState := ⟨fun _ => none,fun _ => none,fun _ => none,fun _ => []⟩

inductive ProcessOp where
  | currentTurn (runtime : String)
  | installTurn (runtime : String) (turn : TurnContext)
  | newTurn (runtime : String)
  | context (ref : TurnRef)
  | ingest (ref : TurnRef) (source : String) (trusted : Bool)
  | stampCallTs (runtime : String)
  | firstQuarantine (runtime intentId : String)

namespace ProcessOp

@[reducible] def Ret : ProcessOp → Type
  | currentTurn _ => Option TurnRef
  | installTurn _ _ => Unit
  | newTurn _ => Unit
  | context _ => Option TurnContext
  | ingest _ _ _ => Unit
  | stampCallTs _ => Instant
  | firstQuarantine _ _ => Bool

-- `clock` is the wall-clock reading a stamp is taken at; the other operations ignore it.
def apply (clock : Instant) : (o : ProcessOp) → ProcessState → Except Exn o.Ret × ProcessState
  | currentTurn runtime, s => (.ok (s.currentTurn runtime),s)
  | installTurn runtime turn, s =>
    (.ok (),{ s with
      contexts := Function.update s.contexts ⟨runtime,turn.turnId⟩ (some turn)
      currentTurn := Function.update s.currentTurn runtime (some ⟨runtime,turn.turnId⟩) })
  | newTurn runtime, s => (.ok (),{ s with currentTurn := Function.update s.currentTurn runtime none })
  | context ref, s => (.ok (s.contexts ref),s)
  | ingest ref source trusted, s =>
    (.ok (),{ s with
      contexts := Function.update s.contexts ref ((s.contexts ref).map (·.ingestSource source trusted)) })
  | stampCallTs runtime, s =>
    match SafeAgents.stampCallTs (s.lastCallTs runtime) clock with
    | .ok ts => (.ok ts,{ s with lastCallTs := Function.update s.lastCallTs runtime (some ts) })
    | .error e => (.error e,s)
  | firstQuarantine runtime intentId, s =>
    if (s.sweepQuarantined runtime).contains intentId then (.ok false,s)
    else
      (.ok true,{ s with
        sweepQuarantined := Function.update s.sweepQuarantined runtime (s.sweepQuarantined runtime ++ [intentId]) })

end ProcessOp

inductive Op where
  | store (o : StoreOp)
  | intents (o : IntentOp)
  | env (o : EnvOp)
  | process (o : ProcessOp)
  | audit (record : AuditRecord)

@[reducible] def Op.Ret : Op → Type
  | store o => o.Ret
  | intents o => o.Ret
  | env o => o.Ret
  | process o => o.Ret
  | audit _ => Unit

structure State where
  enforcement : EnforcementState
  approval : IntentState
  process : ProcessState := .empty
  tape : List AuditRecord := []

-- How a store request can come back: answered, raised with no effect, or applied and then raised.
inductive Delivery where
  | answered
  | fault (e : Exn)
  | lost (e : Exn)

def Delivery.receive {α σ : Type} (d : Delivery) (out : Except Exn α × σ) (s : σ) : Except Exn α × σ :=
  match d with
  | .answered => out
  | .fault e => (.error e,s)
  | .lost e => (.error e,out.2)

theorem Delivery.receive_state {α σ : Type} {P : σ → Prop} {out : Except Exn α × σ} {s : σ} (d : Delivery)
    (hs : P s) (hout : P out.2) : P (d.receive out s).2 := by
  cases d with
  | answered => exact hout
  | fault e => exact hs
  | lost e => exact hout

structure Substrate where
  backend : Backend
  hmac : IntentPayload → String

namespace Substrate

@[reducible] def Input : Op → Type
  | .store _ => Delivery
  | .intents _ => Delivery
  | .env o => Except Exn o.Ret
  | .process _ => Instant
  | .audit _ => Delivery

def perform (B : Substrate) : (o : Op) → Input o → State → Except Exn o.Ret × State
  | .store o, d, s =>
    let out := d.receive (o.apply B.backend s.enforcement) s.enforcement
    (out.1,{ s with enforcement := out.2 })
  | .intents o, d, s =>
    let out := d.receive (o.apply B.hmac s.approval) s.approval
    (out.1,{ s with approval := out.2 })
  | .env _, reply, s => (reply,s)
  | .process o, clock, s =>
    let out := o.apply clock s.process
    (out.1,{ s with process := out.2 })
  | .audit record, d, s =>
    let out := d.receive (.ok (),s.tape ++ [record]) s.tape
    (out.1,{ s with tape := out.2 })

def device (B : Substrate) : Device Op Op.Ret Exn State := ⟨Input,B.perform⟩

def calmFacts : Facts where
  grantPresent := true
  grantLevel := .onLoop
  errorBudgetBreached := false
  capBudgetBreached := false
  escalationBudgetAvailable := true
  humanReachable := true

def calmEnv : (o : EnvOp) → Except Exn o.Ret
  | .now => .ok 0
  | .nowIso => .ok "1970-01-01T00:00:00+00:00"
  | .uuid => .ok "00000000-0000-4000-8000-000000000000"
  | .freshFacts _ => .ok calmFacts
  | .decider _ _ => .ok .allow
  | .executor _ _ => .ok .none
  | .release _ => .ok .none
  | .notify _ => .ok ()
  | .doer _ call _ => .ok { op := call.op, result := .none }
  | .staleInputs => .ok []
  | .grant _ _ => .ok { grant := none }
  | .standing _ _ => .ok { held := true }
  | .subGrant _ => .ok none
  | .liveRecords _ _ => .ok []
  | .putInheritance _ => .ok ()
  | .demotionSignal _ _ _ => .ok ()
  | .raiseAlarm _ _ => .ok ()
  | .countExpiry _ _ _ _ => .ok true
  | .flushAlarm => .ok ()
  | .answer _ => .ok ()

def calm (B : Substrate) : Oracle B.device
  | .store _ => Delivery.answered
  | .intents _ => Delivery.answered
  | .env o => calmEnv o
  | .process _ => (0 : Instant)
  | .audit _ => Delivery.answered

end Substrate

def memory : Substrate := ⟨.memory,fun _ => "hmac"⟩

def emptyState : State := { enforcement := .empty, approval := .empty }

instance neZeroThree : NeZero 3 := ⟨by decide⟩

instance neZeroFour : NeZero 4 := ⟨by decide⟩

def turns {ι : Type} (i : ι) (n : Nat) : List (ι × Oracle memory.device) := List.replicate n (i,memory.calm)

abbrev Act := Prog Op Op.Ret Exn

def store (o : StoreOp) : Act o.Ret := Prog.call (Op.store o)

def intents (o : IntentOp) : Act o.Ret := Prog.call (Op.intents o)

def env (o : EnvOp) : Act o.Ret := Prog.call (Op.env o)

def process (o : ProcessOp) : Act o.Ret := Prog.call (Op.process o)

def emit (record : AuditRecord) : Act Unit := Prog.call (Op.audit record)

section Using
variable {P : Op → Prop}

@[simp] theorem uses_store {o : StoreOp} : Uses P (store o) ↔ P (.store o) := uses_call

@[simp] theorem uses_intents {o : IntentOp} : Uses P (intents o) ↔ P (.intents o) := uses_call

@[simp] theorem uses_env {o : EnvOp} : Uses P (env o) ↔ P (.env o) := uses_call

@[simp] theorem uses_process {o : ProcessOp} : Uses P (process o) ↔ P (.process o) := uses_call

@[simp] theorem uses_emit {record : AuditRecord} : Uses P (emit record) ↔ P (.audit record) := uses_call

end Using

def guarded (p : Act Unit) : Act Unit :=
  tryCatch p fun e => if e.isException then pure () else throw e

theorem uses_guarded {P : Op → Prop} {p : Act Unit} (hp : Uses P p) : Uses P (guarded p) := by
  refine .tryCatch hp fun e => ?_
  split <;> trivial

end SafeAgents
