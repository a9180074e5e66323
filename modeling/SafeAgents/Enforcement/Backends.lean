import Mathlib.Data.Multiset.Defs
import SafeAgents.Checked
import SafeAgents.Enforcement.Store
import SafeAgents.ItemTable

namespace SafeAgents

open ItemTable

inductive ContractOp where
  | op (o : StoreOp)
  | getUncommittedEntries

namespace ContractOp

-- All uncommitted entries, in an order that the contract leaves open.
@[reducible] def Ret : ContractOp → Type
  | op o => o.Ret
  | getUncommittedEntries => Multiset LedgerEntry

def transition : ContractOp → Option String
  | op (.commitLedger entryId _) => some entryId
  | op (.compensateLedger entryId _) => some entryId
  | op (.escalateLedger entryId _) => some entryId
  | _ => none

def delta : ContractOp → Option ℚ
  | op (.tryIncrementCounter _ delta _) => some delta
  | _ => none

end ContractOp

def IdempotencyStatus.text : IdempotencyStatus → String
  | .inFlight => "in_flight"
  | .executed => "executed"
  | .failed => "failed"

def IdempotencyStatus.ofText (text : String) : Option IdempotencyStatus :=
  [inFlight,executed,failed].find? fun s => s.text == text

def LedgerStatus.text : LedgerStatus → String
  | .uncommitted => "uncommitted"
  | .committed => "committed"
  | .compensated => "compensated"
  | .escalated => "escalated"

def LedgerStatus.ofText (text : String) : Option LedgerStatus :=
  [uncommitted,committed,compensated,escalated].find? fun s => s.text == text

def keyError (name : String) : Exn := .exception ("KeyError: " ++ pyRepr name)

structure InMemoryStore where
  idempotency : Dict String IdempotencyRecord := .empty
  counters : Dict String ℚ := .empty
  ledger : Dict String LedgerEntry := .empty

namespace InMemoryStore

variable (s : InMemoryStore)

def getIdempotency (key : String) : Option IdempotencyRecord := s.idempotency.get? key

def putIdempotencyIfAbsent (record : IdempotencyRecord) : Bool × InMemoryStore :=
  if (s.idempotency.get? record.key).isSome then (false,s)
  else (true,{ s with idempotency := s.idempotency.set record.key record })

def replaceInFlight (key : String) (f : IdempotencyRecord → IdempotencyRecord) : Bool × InMemoryStore :=
  match s.idempotency.get? key with
  | none => (false,s)
  | some record =>
    if record.status ≠ .inFlight then (false,s) else (true,{ s with idempotency := s.idempotency.set key (f record) })

def completeIdempotency (key : String) (decisionJson : Text Decision) (resultJson : Option (Text Json)) : Bool × InMemoryStore :=
  s.replaceInFlight key fun record => { record with decisionJson, resultJson, status := .executed }

def failIdempotency (key error : String) : Bool × InMemoryStore :=
  s.replaceInFlight key fun record => { record with status := .failed, error := some error }

def deleteIdempotency (key : String) : InMemoryStore := { s with idempotency := s.idempotency.erase key }

def incrementCounter (key : String) (delta cap : ℚ) : Bool × InMemoryStore :=
  match tryIncrementCounter (s.counters.get? key) delta cap with
  | (true,some value) => (true,{ s with counters := s.counters.set key value })
  | _ => (false,s)

def readCounter (key : String) : ℚ := (s.counters.get? key).getD 0

def writeLedger (entry : LedgerEntry) : InMemoryStore := { s with ledger := s.ledger.set entry.entryId entry }

def amendEntry (entryId : String) (f : LedgerEntry → LedgerEntry) : Except Exn Unit × InMemoryStore :=
  match s.ledger.get? entryId with
  | none => (.error (keyError entryId),s)
  | some entry => (.ok (),{ s with ledger := s.ledger.set entryId (f entry) })

def commitLedger (entryId tsCommitted : String) : Except Exn Unit × InMemoryStore :=
  s.amendEntry entryId fun e => { e with status := .committed, tsCommitted := some tsCommitted }

def compensateLedger (entryId error : String) : Except Exn Unit × InMemoryStore :=
  s.amendEntry entryId fun e => { e with status := .compensated, error := some error }

def escalateLedger (entryId error : String) : Except Exn Unit × InMemoryStore :=
  s.amendEntry entryId fun e => { e with status := .escalated, error := some error }

def getUncommittedEntries : List LedgerEntry := s.ledger.values.filter fun e => e.status = .uncommitted

def contents : EnforcementState := ⟨s.idempotency.get?,s.counters.get?,s.ledger.get?⟩

def run : (o : ContractOp) → InMemoryStore → Except Exn o.Ret × InMemoryStore
  | .op (.getIdempotency key),s => (.ok (s.getIdempotency key),s)
  | .op (.putIdempotencyIfAbsent record),s => (s.putIdempotencyIfAbsent record).map .ok id
  | .op (.completeIdempotency key decisionJson resultJson),s => (s.completeIdempotency key decisionJson resultJson).map .ok id
  | .op (.failIdempotency key error),s => (s.failIdempotency key error).map .ok id
  | .op (.deleteIdempotency key),s => (.ok (),s.deleteIdempotency key)
  | .op (.tryIncrementCounter key delta cap),s => (s.incrementCounter key delta cap).map .ok id
  | .op (.readCounter key),s => (.ok (s.readCounter key),s)
  | .op (.writeLedger entry),s => (.ok (),s.writeLedger entry)
  | .op (.commitLedger entryId ts),s => s.commitLedger entryId ts
  | .op (.compensateLedger entryId error),s => s.compensateLedger entryId error
  | .op (.escalateLedger entryId error),s => s.escalateLedger entryId error
  | .getUncommittedEntries,s => (.ok ↑s.getUncommittedEntries,s)

end InMemoryStore

-- The attributes the two table stores use; json texts are kept as the values they parse to.
structure StoreItem where
  decisionJson : Option (Text Decision) := none
  ts : Option String := none
  status : Option String := none
  resultJson : Option (Text Json) := none
  error : Option String := none
  spent : Option ℚ := none
  callJson : Option BrokeredCall := none
  decisionKind : Option Kind := none
  tsCreated : Option String := none
  tsCommitted : Option String := none
  idempotencyKey : Option String := none

abbrev StoreTable := Dict (String × String) StoreItem

def idemKey (key : String) : String × String := ("IDEM#" ++ key,"v0")

def counterItemKey (counterKey : String) : String × String := ("COUNTER#" ++ counterKey,"v0")

def ledgerItemKey (entryId : String) : String × String := ("LEDGER#" ++ entryId,"v0")

def removePrefix (pre text : String) : String :=
  if pre.toList.isPrefixOf text.toList then String.ofList (text.toList.drop pre.length) else text

namespace StoreItem

def idem (record : IdempotencyRecord) : StoreItem where
  decisionJson := some record.decisionJson
  ts := some record.ts
  status := some record.status.text
  resultJson := record.resultJson
  error := record.error

def counter (spent : ℚ) : StoreItem where
  spent := some spent

def ledger (entry : LedgerEntry) : StoreItem where
  callJson := some entry.callJson
  decisionKind := some entry.decisionKind
  status := some entry.status.text
  tsCreated := some entry.tsCreated
  idempotencyKey := entry.idempotencyKey
  tsCommitted := entry.tsCommitted
  error := entry.error

def attr {α : Type} (name : String) (value : Option α) : Except Exn α := value.elim (.error (keyError name)) .ok

def readIdem (key : String) (item : StoreItem) : Except Exn IdempotencyRecord := do
  let decisionJson ← attr "decision_json" item.decisionJson
  let ts ← attr "ts" item.ts
  -- A row without a status is a completed outcome.
  let status ← attr "status" (item.status.elim (some .executed) IdempotencyStatus.ofText)
  return { key, decisionJson, ts, resultJson := item.resultJson, status, error := item.error }

def readLedger (row : (String × String) × StoreItem) : Except Exn LedgerEntry := do
  let callJson ← attr "call_json" row.2.callJson
  let decisionKind ← attr "decision_kind" row.2.decisionKind
  let status ← attr "status" (row.2.status.bind LedgerStatus.ofText)
  let tsCreated ← attr "ts_created" row.2.tsCreated
  return { entryId := removePrefix "LEDGER#" row.1.1, idempotencyKey := row.2.idempotencyKey, callJson, decisionKind, status,
           tsCreated, tsCommitted := row.2.tsCommitted, error := row.2.error }

end StoreItem

def readIdemRow (table : StoreTable) (key : String) : Except Exn (Option IdempotencyRecord) :=
  match table.get? (idemKey key) with
  | none => .ok none
  | some item => (item.readIdem key).map some

def readCounterRow (table : StoreTable) (key : String) : ℚ := ((table.get? (counterItemKey key)).bind StoreItem.spent).getD 0

def StoreTable.contents (table : StoreTable) : EnforcementState where
  idempotency := fun key => (readIdemRow table key).toOption.join
  counters := fun key => (table.get? (counterItemKey key)).bind StoreItem.spent
  ledger := fun entryId => (table.get? (ledgerItemKey entryId)).bind fun item =>
    (StoreItem.readLedger (ledgerItemKey entryId,item)).toOption

namespace DynamoStore

variable (table : StoreTable)

def ran (result : Option StoreTable) : Bool × StoreTable := (result.isSome,result.getD table)

def putIdempotencyIfAbsent (record : IdempotencyRecord) : Bool × StoreTable :=
  ran table (putItem table (idemKey record.key) Option.isNone (.idem record))

def transitionIdempotency (key : String) (update : StoreItem → StoreItem) : Bool × StoreTable :=
  ran table (updateItem table (idemKey key) {} (fun item => item.any fun i => i.status == some "in_flight") update)

def completeIdempotency (key : String) (decisionJson : Text Decision) (resultJson : Option (Text Json)) : Bool × StoreTable :=
  match resultJson with
  | none =>
    transitionIdempotency table key fun item =>
      { item with decisionJson := some decisionJson, status := some "executed", resultJson := none }
  | some result =>
    transitionIdempotency table key fun item =>
      { item with decisionJson := some decisionJson, status := some "executed", resultJson := some result }

def failIdempotency (key error : String) : Bool × StoreTable :=
  transitionIdempotency table key fun item => { item with status := some "failed", error := some error }

def deleteIdempotency (key : String) : StoreTable := deleteItem table (idemKey key)

def incrementCounter (key : String) (delta cap : ℚ) : Bool × StoreTable :=
  let headroom := cap - delta
  if headroom < 0 then (false,table)
  else
    ran table (updateItem table (counterItemKey key) {}
      (fun item => (item.bind StoreItem.spent).all fun spent => spent ≤ headroom)
      fun item => { item with spent := some (item.spent.getD 0 + delta) })

def writeLedger (entry : LedgerEntry) : StoreTable :=
  (putItem table (ledgerItemKey entry.entryId) (fun _ => true) (.ledger entry)).getD table

-- An unconditional update: on an absent entry it creates a partial item.
def updateLedger (entryId : String) (update : StoreItem → StoreItem) : StoreTable :=
  (updateItem table (ledgerItemKey entryId) {} (fun _ => true) update).getD table

def commitLedger (entryId tsCommitted : String) : StoreTable :=
  updateLedger table entryId fun item => { item with status := some "committed", tsCommitted := some tsCommitted }

def compensateLedger (entryId error : String) : StoreTable :=
  updateLedger table entryId fun item => { item with status := some "compensated", error := some error }

def escalateLedger (entryId error : String) : StoreTable :=
  updateLedger table entryId fun item => { item with status := some "escalated", error := some error }

-- One page of the scan; the filter runs over every family of items.
def getUncommittedEntries (scan : Scan (String × String) StoreItem) : Except Exn (List LedgerEntry) :=
  ((scan.page table).filter fun row => row.2.status == some "uncommitted").mapM StoreItem.readLedger

def run (scan : Scan (String × String) StoreItem) : (o : ContractOp) → StoreTable → Except Exn o.Ret × StoreTable
  | .op (.getIdempotency key),table => (readIdemRow table key,table)
  | .op (.putIdempotencyIfAbsent record),table => (putIdempotencyIfAbsent table record).map .ok id
  | .op (.completeIdempotency key decisionJson resultJson),table => (completeIdempotency table key decisionJson resultJson).map .ok id
  | .op (.failIdempotency key error),table => (failIdempotency table key error).map .ok id
  | .op (.deleteIdempotency key),table => (.ok (),deleteIdempotency table key)
  | .op (.tryIncrementCounter key delta cap),table => (incrementCounter table key delta cap).map .ok id
  | .op (.readCounter key),table => (.ok (readCounterRow table key),table)
  | .op (.writeLedger entry),table => (.ok (),writeLedger table entry)
  | .op (.commitLedger entryId ts),table => (.ok (),commitLedger table entryId ts)
  | .op (.compensateLedger entryId error),table => (.ok (),compensateLedger table entryId error)
  | .op (.escalateLedger entryId error),table => (.ok (),escalateLedger table entryId error)
  | .getUncommittedEntries,table => ((getUncommittedEntries table scan).map (↑·),table)

end DynamoStore

namespace SqliteEnforcementStore

variable (table : StoreTable)

def putNewItem (key : String × String) (item : StoreItem) : Except Exn StoreTable :=
  if (table.get? key).isSome then .error (.exception "IntegrityError: UNIQUE constraint failed: items.pk, items.sk")
  else .ok (table.set key item)

def updateExistingItem (key : String × String) (item : StoreItem) : Except Exn StoreTable :=
  if (table.get? key).isSome then .ok (table.set key item)
  else .error (.exception ("LookupError: update_existing_item(" ++ pyRepr key.1 ++ ", " ++ pyRepr key.2 ++
    ") matched 0 rows; the caller must read-and-check inside the same transaction"))

-- A transaction: what its body raises leaves the table as it was.
def committed {α : Type} (body : Except Exn (α × StoreTable)) : Except Exn α × StoreTable :=
  match body with
  | .ok (answer,table') => (.ok answer,table')
  | .error e => (.error e,table)

def putIdempotencyIfAbsent (record : IdempotencyRecord) : Except Exn Bool × StoreTable :=
  committed table (
    if (table.get? (idemKey record.key)).isSome then .ok (false,table)
    else (putNewItem table (idemKey record.key) (.idem record)).map fun table' => (true,table'))

def transitionIdempotency (key : String) (mutate : StoreItem → StoreItem) : Except Exn Bool × StoreTable :=
  committed table (
    match table.get? (idemKey key) with
    | none => .ok (false,table)
    | some attrs =>
      if attrs.status ≠ some "in_flight" then .ok (false,table)
      else (updateExistingItem table (idemKey key) (mutate attrs)).map fun table' => (true,table'))

def completeIdempotency (key : String) (decisionJson : Text Decision) (resultJson : Option (Text Json)) :
    Except Exn Bool × StoreTable :=
  transitionIdempotency table key fun attrs =>
    { attrs with decisionJson := some decisionJson, status := some "executed", resultJson }

def failIdempotency (key error : String) : Except Exn Bool × StoreTable :=
  transitionIdempotency table key fun attrs => { attrs with status := some "failed", error := some error }

def deleteIdempotency (key : String) : StoreTable := table.erase (idemKey key)

def incrementCounter (key : String) (delta cap : ℚ) : Except Exn Bool × StoreTable :=
  if cap - delta < 0 then (.ok false,table)
  else
    committed table (
      match table.get? (counterItemKey key) with
      | none =>
        if 0 + delta > cap then .ok (false,table)
        else (putNewItem table (counterItemKey key) (.counter (0 + delta))).map fun table' => (true,table')
      | some attrs => do
        let current ← StoreItem.attr "spent" attrs.spent
        if current + delta > cap then return (false,table)
        else (updateExistingItem table (counterItemKey key) (.counter (current + delta))).map fun table' => (true,table'))

def writeLedger (entry : LedgerEntry) : Except Exn Unit × StoreTable :=
  let key := ledgerItemKey entry.entryId
  committed table (
    match table.get? key with
    | none => (putNewItem table key (.ledger entry)).map fun table' => ((),table')
    | some _ => (updateExistingItem table key (.ledger entry)).map fun table' => ((),table'))

def transitionLedger (entryId : String) (update : StoreItem → StoreItem) : Except Exn Unit × StoreTable :=
  let key := ledgerItemKey entryId
  committed table (
    match table.get? key with
    | none => .error (keyError entryId)
    | some attrs => (updateExistingItem table key (update attrs)).map fun table' => ((),table'))

def commitLedger (entryId tsCommitted : String) : Except Exn Unit × StoreTable :=
  transitionLedger table entryId fun attrs => { attrs with status := some "committed", tsCommitted := some tsCommitted }

def compensateLedger (entryId error : String) : Except Exn Unit × StoreTable :=
  transitionLedger table entryId fun attrs => { attrs with status := some "compensated", error := some error }

def escalateLedger (entryId error : String) : Except Exn Unit × StoreTable :=
  transitionLedger table entryId fun attrs => { attrs with status := some "escalated", error := some error }

-- LIKE 'LEDGER#%' ignores the case of the letters.
def likeLedger (pk : String) : Bool := "ledger#".toList.isPrefixOf (pk.toList.map Char.toLower)

def collect : List ((String × String) × StoreItem) → Except Exn (List LedgerEntry)
  | [] => .ok []
  | row :: rows => do
    let status ← StoreItem.attr "status" row.2.status
    if status ≠ "uncommitted" then collect rows
    else
      let entry ← StoreItem.readLedger row
      let entries ← collect rows
      return entry :: entries

def getUncommittedEntries (select : RowOrder (String × String) StoreItem) : Except Exn (List LedgerEntry) :=
  collect ((select.order table.entries).filter fun row => likeLedger row.1.1)

def run (select : RowOrder (String × String) StoreItem) : (o : ContractOp) → StoreTable → Except Exn o.Ret × StoreTable
  | .op (.getIdempotency key),table => (readIdemRow table key,table)
  | .op (.putIdempotencyIfAbsent record),table => putIdempotencyIfAbsent table record
  | .op (.completeIdempotency key decisionJson resultJson),table => completeIdempotency table key decisionJson resultJson
  | .op (.failIdempotency key error),table => failIdempotency table key error
  | .op (.deleteIdempotency key),table => (.ok (),deleteIdempotency table key)
  | .op (.tryIncrementCounter key delta cap),table => incrementCounter table key delta cap
  | .op (.readCounter key),table => (.ok (readCounterRow table key),table)
  | .op (.writeLedger entry),table => writeLedger table entry
  | .op (.commitLedger entryId ts),table => commitLedger table entryId ts
  | .op (.compensateLedger entryId error),table => compensateLedger table entryId error
  | .op (.escalateLedger entryId error),table => escalateLedger table entryId error
  | .getUncommittedEntries,table => ((getUncommittedEntries table select).map (↑·),table)

end SqliteEnforcementStore

end SafeAgents
