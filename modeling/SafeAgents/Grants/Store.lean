import Mathlib.Logic.Function.Basic
import SafeAgents.Checked
import SafeAgents.Grants.Ledger

namespace SafeAgents.Grants

open Calendar Checked Json

inductive DemotionTrigger where
  | staleConfidence | corroborationFailure | budgetBreach | falseAction
  deriving DecidableEq

def DemotionTrigger.text : DemotionTrigger → String
  | .staleConfidence => "stale_confidence"
  | .corroborationFailure => "corroboration_failure"
  | .budgetBreach => "budget_breach"
  | .falseAction => "false_action"

def DemotionTrigger.all : List DemotionTrigger := [.staleConfidence,.corroborationFailure,.budgetBreach,.falseAction]

def DemotionTrigger.ofJson : Json → Option DemotionTrigger := oneOf DemotionTrigger.text DemotionTrigger.all

-- The grant schema with every field; the runtime's own view of a grant is a part of it.
structure GrantDocument where
  principal : Principal
  actionClass : String
  level : AutonomyLevel
  envelopeHash : String
  promotedBy : String
  evidence : String
  ts : String
  lastSafeLevel : AutonomyLevel
  demotionTriggers : List DemotionTrigger
  demotionReason : Option DemotionReason
  labelLatency : String
  ownerId : String
  certifiedUntil : Option String := none
  deriving DecidableEq

namespace GrantDocument

def members (g : GrantDocument) : List (String × Option Json) :=
  [("actionClass",some (.str g.actionClass)),
   ("certifiedUntil",g.certifiedUntil.map Json.str),
   ("demotionReason",some (PromotionRecord.optional (g.demotionReason.map DemotionReason.text))),
   ("demotionTriggers",some (.arr ((g.demotionTriggers.map DemotionTrigger.text).map Json.str))),
   ("envelopeHash",some (.str g.envelopeHash)),
   ("evidence",some (.str g.evidence)),
   ("labelLatency",some (.str g.labelLatency)),
   ("lastSafeLevel",some (.str g.lastSafeLevel.text)),
   ("level",some (.str g.level.text)),
   ("ownerId",some (.str g.ownerId)),
   ("principal",some g.principal.json),
   ("promotedBy",some (.str g.promotedBy)),
   ("ts",some (.str g.ts))]

-- Constructing the schema class refuses an unreadable term, an unsupervised rung and a malformed duration.
def accepted (isLabelLatency : String → Bool) (g : GrantDocument) : Bool :=
  g.certifiedUntil.all isUtcInstant && g.lastSafeLevel ≠ .outOfLoop && isLabelLatency g.labelLatency

def coordinate (g : GrantDocument) : String := g.principal.agentId ++ "/" ++ g.actionClass

def names : List String :=
  ["principal","actionClass","level","envelopeHash","promotedBy","evidence","ts","lastSafeLevel","demotionTriggers",
   "demotionReason","labelLatency","ownerId","certifiedUntil"]

def ofJson (j : Json) : Option GrantDocument := do
  let fields ← fieldsOf names j
  let principal ← required fields "principal" Principal.ofJson
  let actionClass ← required fields "actionClass" str?
  let level ← required fields "level" AutonomyLevel.ofJson
  let envelopeHash ← required fields "envelopeHash" str?
  let promotedBy ← required fields "promotedBy" str?
  let evidence ← required fields "evidence" str?
  let ts ← required fields "ts" str?
  let lastSafeLevel ← required fields "lastSafeLevel" AutonomyLevel.ofJson
  let demotionTriggers ← required fields "demotionTriggers" (listOf DemotionTrigger.ofJson)
  let demotionReason ← required fields "demotionReason" (nullable DemotionReason.ofJson)
  let labelLatency ← required fields "labelLatency" str?
  let ownerId ← required fields "ownerId" str?
  let certifiedUntil ← defaulted fields "certifiedUntil" none (nullable str?)
  return { principal, actionClass, level, envelopeHash, promotedBy, evidence, ts, lastSafeLevel, demotionTriggers, demotionReason,
           labelLatency, ownerId, certifiedUntil }

def parse (text : String) : Option GrantDocument := (Json.loads text).bind ofJson

-- Grant.model_validate_json
def modelValidateJson (isLabelLatency : String → Bool) (text : String) : Option GrantDocument :=
  (parse text).filter (accepted isLabelLatency)

end GrantDocument

def canonicalGrantPayload (g : GrantDocument) : String := (Json.obj (Json.dropAbsent g.members)).dumps

def pyOptional (text : Option String) : String := (text.map pyRepr).getD "None"

def pyList (items : List String) : String := "[" ++ ", ".intercalate (items.map pyRepr) ++ "]"

def extendsTerm (previous proposed : Option String) : Except GrantError Bool :=
  match previous with
  | none => .ok false
  | some previous =>
    match proposed with
    | none => .ok true
    | some proposed => do
      let proposed ← parseCertifiedUntil proposed
      let previous ← parseCertifiedUntil previous
      return decide (previous < proposed)

structure ExpectedRead where
  grant : Option GrantDocument
  rawData : Option String := none
  storedHash : Option String := none

structure WriteRequest where
  record : PromotionRecord
  grant : GrantDocument
  expected : Option ExpectedRead := none

namespace WriteRequest

def creating (q : WriteRequest) : Bool := q.expected.all fun e => e.grant.isNone

def prevRawData (q : WriteRequest) : Option String := if q.creating then none else q.expected.bind ExpectedRead.rawData

def expectedHash (q : WriteRequest) : Option String := if q.creating then none else q.expected.bind ExpectedRead.storedHash

end WriteRequest

structure GrantItem where
  data : String
  grantHash : String
  deriving DecidableEq

structure GrantState where
  records : RecordTable := []
  grants : String × String → Option GrantItem := fun _ => none

section Checks
variable (validate : String → Option GrantDocument)

def refuseTermExtension (prevRawData : Option String) (updated : GrantDocument) (recordType : RecordType) :
    Except GrantError Unit :=
  if recordType = .promotion then .ok ()
  else
    match prevRawData.bind validate with
    | none => .ok ()
    | some previous => do
      let extended ← extendsTerm previous.certifiedUntil updated.certifiedUntil
      refuseIf (extended = true) (.termExtensionRefused ("grant " ++ updated.coordinate ++
        ": this write would change the certification term from " ++ pyOptional previous.certifiedUntil ++ " to " ++
        pyOptional updated.certifiedUntil ++ ", lengthening it outside the promotion ceremony. A term is set only by a " ++
        "ratified promotion and is never extended in place (GAL §6.7.6); re-promote with fresh evidence to carry a new " ++
        "term. Nothing was written."))

def driftedFields (previous grant : GrantDocument) : List String :=
  [("actionClass",decide (previous.actionClass ≠ grant.actionClass)),
   ("certifiedUntil",decide (previous.certifiedUntil ≠ grant.certifiedUntil)),
   ("demotionReason",decide (previous.demotionReason ≠ grant.demotionReason)),
   ("demotionTriggers",decide (previous.demotionTriggers ≠ grant.demotionTriggers)),
   ("evidence",decide (previous.evidence ≠ grant.evidence)),
   ("labelLatency",decide (previous.labelLatency ≠ grant.labelLatency)),
   ("lastSafeLevel",decide (previous.lastSafeLevel ≠ grant.lastSafeLevel)),
   ("level",decide (previous.level ≠ grant.level)),
   ("ownerId",decide (previous.ownerId ≠ grant.ownerId)),
   ("principal",decide (previous.principal ≠ grant.principal))].filterMap fun f => if f.2 then some f.1 else none

def mismatchedFields (record : PromotionRecord) (grant : GrantDocument) : List String :=
  [("toLevel/level",decide (record.toLevel ≠ grant.level)),
   ("envelopeHash",decide (record.envelopeHash ≠ grant.envelopeHash)),
   ("ratifiedBy/promotedBy",decide (record.ratifiedBy ≠ grant.promotedBy)),
   ("ts",decide (record.ts ≠ grant.ts))].filterMap fun f => if f.2 then some f.1 else none

def refuseReattestationDrift (prevRawData : Option String) (record : PromotionRecord) (grant : GrantDocument) :
    Except GrantError Unit :=
  if record.recordType ≠ .reattestation then .ok ()
  else
    match prevRawData with
    | none =>
      .error (.reattestationRefused ("grant " ++ grant.coordinate ++
        ": a reattestation record cannot create a grant; re-attestation re-issues an existing grant at its level " ++
        "(GAL §6.6). Nothing was written."))
    | some raw =>
      match validate raw with
      | none => .ok ()
      | some previous => do
        let drifted := driftedFields previous grant
        refuseIf (drifted ≠ []) (.reattestationRefused ("grant " ++ grant.coordinate ++
          ": a re-attestation may change only ['envelopeHash', 'promotedBy', 'ts'], and this write would also change " ++
          pyList drifted ++ ". A level, term or evidence change is not a re-attestation (GAL §6.6). Nothing was written."))
        let mismatched := mismatchedFields record grant
        refuseIf (mismatched ≠ []) (.reattestationRefused ("grant " ++ grant.coordinate ++
          ": the reattestation record does not describe the grant written beside it (differs in " ++ pyList mismatched ++
          "). The record carries the grant's level, its new envelopeHash, the re-attesting identity and the same ts " ++
          "(GAL §6.6). Nothing was written."))

def movedFields (previous grant : GrantDocument) : List String :=
  [("certifiedUntil " ++ pyOptional previous.certifiedUntil ++ " -> " ++ pyOptional grant.certifiedUntil,
    decide (previous.certifiedUntil ≠ grant.certifiedUntil)),
   ("lastSafeLevel " ++ pyRepr previous.lastSafeLevel.text ++ " -> " ++ pyRepr grant.lastSafeLevel.text,
    decide (previous.lastSafeLevel ≠ grant.lastSafeLevel))].filterMap fun f => if f.2 then some f.1 else none

def refuseLapseDrift (prevRawData : Option String) (record : PromotionRecord) (grant : GrantDocument) :
    Except GrantError Unit :=
  if record.recordType ≠ .lapse then .ok ()
  else do
    refuseIf (record.certifiedUntil ≠ none ∧ record.certifiedUntil ≠ grant.certifiedUntil) (.lapseRefused ("grant " ++
      grant.coordinate ++ ": the lapse record carries certifiedUntil " ++ pyOptional record.certifiedUntil ++
      " and the grant written beside it carries " ++ pyOptional grant.certifiedUntil ++
      ". A lapse record names the term that expired, which is the grant's own (GAL §5.2). Nothing was written."))
    match prevRawData.bind validate with
    | none => .ok ()
    | some previous =>
      let moved := movedFields previous grant
      refuseIf (moved ≠ []) (.lapseRefused ("grant " ++ grant.coordinate ++
        ": a lapse leaves the grant's certifiedUntil and lastSafeLevel unchanged, and this write would move " ++
        "; ".intercalate moved ++ ". The term is set only by a ratified promotion (GAL §6.7.6). Nothing was written."))

end Checks

def grantKey (backend : RecordBackend) (g : GrantDocument) : String × String :=
  match backend with
  | .memory => (g.principal.key,g.actionClass)
  | .sqlite => ("GRANT#" ++ g.principal.key,"CLASS#" ++ g.actionClass)
  | .dynamo => ("GRANT#" ++ g.principal.key,"CLASS#" ++ g.actionClass)

def checkUpdateConditions (item : Option GrantItem) (updated : GrantDocument) (expectedHash prevRawData : Option String) :
    Except GrantError Unit :=
  match item with
  | none =>
    .error (.grantUpdateConflict ("grant " ++ updated.coordinate ++
      " does not exist; an update cannot create items (UpdateItem semantics)"))
  | some item =>
    refuseIf (some item.grantHash ≠ expectedHash ∨ some item.data ≠ prevRawData) (.grantUpdateConflict ("grant " ++
      updated.coordinate ++ ": stored item is not the one evaluated (tampered or concurrently modified); re-read and " ++
      "re-evaluate before retrying"))

section Write
variable (hmac : String → String) (validate : String → Option GrantDocument)

def buildItem (g : GrantDocument) : GrantItem where
  data := canonicalGrantPayload g
  grantHash := hmac (canonicalGrantPayload g)

def checkGrantLeg (item : Option GrantItem) (q : WriteRequest) : Except GrantError Unit := do
  if q.creating then
    refuseIf (item ≠ none) (.grantAlreadyExists ("grant " ++ q.grant.coordinate ++
      " already exists; create never overwrites — re-read and re-propose from the current state"))
  else
    checkUpdateConditions item q.grant q.expectedHash q.prevRawData
    refuseTermExtension validate q.prevRawData q.grant q.record.recordType

def setGrant (backend : RecordBackend) (s : GrantState) (g : GrantDocument) : GrantState :=
  { s with grants := Function.update s.grants (grantKey backend g) (some (buildItem hmac g)) }

-- The memory twin: put_record runs last among what can raise, and the grant is assigned after it.
def writeMemory (s : GrantState) (q : WriteRequest) : Except GrantError GrantState := do
  refuseReattestationDrift validate q.prevRawData q.record q.grant
  checkGrantLeg validate (s.grants (grantKey .memory q.grant)) q
  refuseLapseDrift validate q.prevRawData q.record q.grant
  let records ← putRecord .memory s.records q.record
  return setGrant hmac .memory { s with records } q.grant

def putNewRecord (s : GrantState) (row : RecordRow) : Except GrantError GrantState := do
  refuseIf (holdsKey s.records row = true) (.recordAlreadyExists ("ledger record " ++ row.pk ++ "/" ++ row.sk ++
    " already exists; the PromotionRecord ledger is append-only and never overwrites"))
  return { s with records := s.records ++ [row] }

-- The sqlite twin: checks and writes share one transaction, so a raise inside it rolls both legs back.
def writeSqlite (s : GrantState) (q : WriteRequest) : Except GrantError GrantState := do
  validateRecordTs q.record.ts
  refuseReattestationDrift validate q.prevRawData q.record q.grant
  checkGrantLeg validate (s.grants (grantKey .sqlite q.grant)) q
  refuseLapseDrift validate q.prevRawData q.record q.grant
  let s ← putNewRecord s (recordRow .sqlite q.record)
  return setGrant hmac .sqlite s q.grant

def grantCondition (item : Option GrantItem) (expectedHash prevRawData : Option String) : Bool :=
  match expectedHash with
  | none => item.isNone
  | some hash => item.any fun stored => stored.grantHash == hash && prevRawData == some stored.data

-- One TransactWriteItems: both conditions hold and both updates land, or the transaction is cancelled.
def transactWriteItems (s : GrantState) (q : WriteRequest) : Except GrantError GrantState :=
  let row := recordRow .dynamo q.record
  let granted := grantCondition (s.grants (grantKey .dynamo q.grant)) q.expectedHash q.prevRawData
  if granted && !holdsKey s.records row then
    .ok (setGrant hmac .dynamo { s with records := s.records ++ [row] } q.grant)
  else if !granted then
    if q.creating then
      .error (.grantAlreadyExists ("grant " ++ q.grant.coordinate ++
        " already exists; create never overwrites — re-read and re-propose from the current state (the record leg was " ++
        "canceled with it — nothing was written)"))
    else
      .error (.grantUpdateConflict ("grant " ++ q.grant.coordinate ++
        ": stored grant is not the one evaluated (concurrently modified or missing); re-read and re-evaluate before " ++
        "retrying (the record leg was canceled with it — nothing was written)"))
  else
    .error (.recordAlreadyExists ("ledger record " ++ row.pk ++ "/" ++ row.sk ++
      " already exists; the PromotionRecord ledger is append-only and never overwrites (the grant leg was canceled " ++
      "with it — nothing was written)"))

def refuseTermExtensionOnUpdate (q : WriteRequest) : Except GrantError Unit :=
  if q.creating then .ok () else refuseTermExtension validate q.prevRawData q.grant q.record.recordType

def writeDynamo (s : GrantState) (q : WriteRequest) : Except GrantError GrantState := do
  validateRecordTs q.record.ts
  refuseReattestationDrift validate q.prevRawData q.record q.grant
  refuseTermExtensionOnUpdate validate q
  refuseLapseDrift validate q.prevRawData q.record q.grant
  transactWriteItems hmac s q

def writeRecordAndGrant (backend : RecordBackend) (s : GrantState) (q : WriteRequest) : Except GrantError GrantState :=
  match backend with
  | .memory => writeMemory hmac validate s q
  | .sqlite => writeSqlite hmac validate s q
  | .dynamo => writeDynamo hmac validate s q

-- A call's transport: its answer comes back, it is refused before it is applied, or its answer is lost after it was.
inductive Transport where
  | answered | refused | lost
  deriving DecidableEq

structure WriteCall where
  request : WriteRequest
  transport : Transport := .answered

def GrantState.call (backend : RecordBackend) (s : GrantState) (c : WriteCall) : GrantState :=
  if c.transport = .refused then s
  else
    match writeRecordAndGrant hmac validate backend s c.request with
    | .error _ => s
    | .ok s' => s'

def GrantState.calls (backend : RecordBackend) (calls : List WriteCall) : GrantState :=
  calls.foldl (GrantState.call hmac validate backend) {}

end Write

end SafeAgents.Grants
