import SafeAgents.Enforcement.Types
import Mathlib.Algebra.Order.Ring.Rat
import Mathlib.Tactic.Linarith

namespace SafeAgents

open Interleaving

inductive Backend where
  | memory | dynamo | sqlite
  deriving DecidableEq

def InMemoryStore.tryIncrementCounter (current : Option ℚ) (delta cap : ℚ) : Bool × Option ℚ :=
  if current.getD 0 + delta > cap then (false,current) else (true,some (current.getD 0 + delta))

def DynamoStore.tryIncrementCounter (spent : Option ℚ) (delta cap : ℚ) : Bool × Option ℚ :=
  let headroom := cap - delta
  if headroom < 0 then (false,spent)
  else
    match spent with
    | none => (true,some (0 + delta))
    | some s => if s ≤ headroom then (true,some (s + delta)) else (false,some s)

def SqliteEnforcementStore.tryIncrementCounter (spent : Option ℚ) (delta cap : ℚ) : Bool × Option ℚ :=
  if cap - delta < 0 then (false,spent)
  else if spent.getD 0 + delta > cap then (false,spent)
  else (true,some (spent.getD 0 + delta))

def Backend.tryIncrementCounter : Backend → Option ℚ → ℚ → ℚ → Bool × Option ℚ
  | .memory => InMemoryStore.tryIncrementCounter
  | .dynamo => DynamoStore.tryIncrementCounter
  | .sqlite => SqliteEnforcementStore.tryIncrementCounter

theorem Backend.tryIncrementCounter_spec (b : Backend) (current : Option ℚ) (delta cap : ℚ) :
    b.tryIncrementCounter current delta cap = (false,current) ∨
      (b.tryIncrementCounter current delta cap = (true,some (current.getD 0 + delta)) ∧
        current.getD 0 + delta ≤ cap) := by
  cases b with
  | memory =>
    simp only [tryIncrementCounter,InMemoryStore.tryIncrementCounter]
    split
    · exact .inl rfl
    · next h => exact .inr ⟨rfl,not_lt.mp h⟩
  | dynamo =>
    simp only [tryIncrementCounter,DynamoStore.tryIncrementCounter]
    split
    · exact .inl rfl
    · next h =>
      cases current with
      | none => exact .inr ⟨rfl,by simp only [Option.getD_none]; linarith⟩
      | some s =>
        by_cases hs : s ≤ cap - delta
        · exact .inr ⟨by simp [hs],by simp only [Option.getD_some]; linarith⟩
        · exact .inl (by simp [hs])
  | sqlite =>
    simp only [tryIncrementCounter,SqliteEnforcementStore.tryIncrementCounter]
    split
    · exact .inl rfl
    · split
      · exact .inl rfl
      · next h => exact .inr ⟨rfl,not_lt.mp h⟩

structure EnforcementState where
  idempotency : String → Option IdempotencyRecord
  counters : String → Option ℚ
  ledger : String → Option LedgerEntry

namespace EnforcementState

def empty : EnforcementState := ⟨fun _ => none,fun _ => none,fun _ => none⟩

def setIdempotency (s : EnforcementState) (key : String) (row : Option IdempotencyRecord) :
    EnforcementState :=
  { s with idempotency := Function.update s.idempotency key row }

def setCounter (s : EnforcementState) (key : String) (value : Option ℚ) : EnforcementState :=
  { s with counters := Function.update s.counters key value }

def setLedger (s : EnforcementState) (entryId : String) (entry : LedgerEntry) : EnforcementState :=
  { s with ledger := Function.update s.ledger entryId (some entry) }

def counter (s : EnforcementState) (key : String) : ℚ := (s.counters key).getD 0

end EnforcementState

inductive StoreOp where
  | getIdempotency (key : String)
  | putIdempotencyIfAbsent (record : IdempotencyRecord)
  | completeIdempotency (key : String) (decisionJson : Text Decision) (resultJson : Option (Text Json))
  | failIdempotency (key : String) (error : String)
  | deleteIdempotency (key : String)
  | tryIncrementCounter (key : String) (delta cap : ℚ)
  | readCounter (key : String)
  | writeLedger (entry : LedgerEntry)
  | commitLedger (entryId : String) (tsCommitted : String)
  | compensateLedger (entryId : String) (error : String)
  | escalateLedger (entryId : String) (error : String)

namespace StoreOp

@[reducible] def Ret : StoreOp → Type
  | getIdempotency _ => Option IdempotencyRecord
  | putIdempotencyIfAbsent _ => Bool
  | completeIdempotency _ _ _ => Bool
  | failIdempotency _ _ => Bool
  | deleteIdempotency _ => Unit
  | tryIncrementCounter _ _ _ => Bool
  | readCounter _ => ℚ
  | writeLedger _ => Unit
  | commitLedger _ _ => Unit
  | compensateLedger _ _ => Unit
  | escalateLedger _ _ => Unit

def settle (s : EnforcementState) (key : String) (f : IdempotencyRecord → IdempotencyRecord) :
    Except Exn Bool × EnforcementState :=
  match s.idempotency key with
  | some record =>
    if record.status = .inFlight then (.ok true,s.setIdempotency key (some (f record))) else (.ok false,s)
  | none => (.ok false,s)

def amendLedger (s : EnforcementState) (entryId : String) (f : LedgerEntry → LedgerEntry) :
    Except Exn Unit × EnforcementState :=
  match s.ledger entryId with
  | some entry => (.ok (),s.setLedger entryId (f entry))
  | none => (.error (.exception ("KeyError: " ++ pyRepr entryId)),s)

@[simp] theorem amendLedger_idempotency (s : EnforcementState) (entryId : String) (f : LedgerEntry → LedgerEntry) :
    (amendLedger s entryId f).2.idempotency = s.idempotency := by
  unfold amendLedger
  split <;> rfl

@[simp] theorem amendLedger_counters (s : EnforcementState) (entryId : String) (f : LedgerEntry → LedgerEntry) :
    (amendLedger s entryId f).2.counters = s.counters := by
  unfold amendLedger
  split <;> rfl

@[simp] theorem settle_counters (s : EnforcementState) (key : String) (f : IdempotencyRecord → IdempotencyRecord) :
    (settle s key f).2.counters = s.counters := by
  unfold settle
  split
  · split <;> rfl
  · rfl

def apply (b : Backend) : (o : StoreOp) → EnforcementState → Except Exn o.Ret × EnforcementState
  | getIdempotency key, s => (.ok (s.idempotency key),s)
  | putIdempotencyIfAbsent record, s =>
    match s.idempotency record.key with
    | some _ => (.ok false,s)
    | none => (.ok true,s.setIdempotency record.key (some record))
  | completeIdempotency key decisionJson resultJson, s =>
    settle s key fun r => { r with decisionJson, resultJson, status := .executed }
  | failIdempotency key error, s => settle s key fun r => { r with status := .failed, error := some error }
  | deleteIdempotency key, s => (.ok (),s.setIdempotency key none)
  | tryIncrementCounter key delta cap, s =>
    let out := b.tryIncrementCounter (s.counters key) delta cap
    (.ok out.1,s.setCounter key out.2)
  | readCounter key, s => (.ok (s.counter key),s)
  | writeLedger entry, s => (.ok (),s.setLedger entry.entryId entry)
  | commitLedger entryId ts, s =>
    amendLedger s entryId fun e => { e with status := .committed, tsCommitted := some ts }
  | compensateLedger entryId error, s =>
    amendLedger s entryId fun e => { e with status := .compensated, error := some error }
  | escalateLedger entryId error, s =>
    amendLedger s entryId fun e => { e with status := .escalated, error := some error }

end StoreOp

end SafeAgents
