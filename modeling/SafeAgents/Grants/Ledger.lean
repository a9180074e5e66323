import Mathlib.Data.List.Sort
import SafeAgents.Schemas.Decode
import SafeAgents.Schemas.Grant
import SafeAgents.Schemas.IsoParse

namespace SafeAgents

def AutonomyLevel.text : AutonomyLevel → String
  | .inLoop => "in-loop"
  | .onLoop => "on-loop"
  | .outOfLoop => "out-of-loop"

theorem AutonomyLevel.text_injective {a b : AutonomyLevel} (h : a.text = b.text) : a = b := by
  revert h
  cases a <;> cases b <;> decide

def AutonomyLevel.all : List AutonomyLevel := [.inLoop,.onLoop,.outOfLoop]

def AutonomyLevel.ofJson : Json → Option AutonomyLevel := Json.oneOf AutonomyLevel.text AutonomyLevel.all

theorem AutonomyLevel.ofJson_text (level : AutonomyLevel) : AutonomyLevel.ofJson (.str level.text) = some level :=
  Json.oneOf_text AutonomyLevel.text_injective (by cases level <;> simp [AutonomyLevel.all])

namespace Grants

open Calendar Json

inductive RecordType where
  | promotion | demotion | bootstrap | tightening | lapse | reattestation | withdrawal
  deriving DecidableEq

def RecordType.text : RecordType → String
  | .promotion => "promotion"
  | .demotion => "demotion"
  | .bootstrap => "bootstrap"
  | .tightening => "tightening"
  | .lapse => "lapse"
  | .reattestation => "reattestation"
  | .withdrawal => "withdrawal"

def RecordType.all : List RecordType := [.promotion,.demotion,.bootstrap,.tightening,.lapse,.reattestation,.withdrawal]

inductive DemotionReason where
  | failing | pendingEvidence
  deriving DecidableEq

def DemotionReason.text : DemotionReason → String
  | .failing => "failing"
  | .pendingEvidence => "pending-evidence"

def DemotionReason.all : List DemotionReason := [.failing,.pendingEvidence]

def DemotionReason.ofJson : Json → Option DemotionReason := oneOf DemotionReason.text DemotionReason.all

inductive Attestation where
  | soloLocal
  deriving DecidableEq

def Attestation.text : Attestation → String
  | .soloLocal => "solo-local"

structure PromotionRecord where
  recordType : RecordType := .promotion
  actionClass : String
  principal : Principal
  fromLevel : Option AutonomyLevel
  toLevel : AutonomyLevel
  evidence : String
  predicate : Option String := none
  proposedBy : String
  ratifiedBy : String
  attestation : Option Attestation := none
  envelopeHash : String
  triggeredBy : List String := []
  demotionReason : Option DemotionReason := none
  ts : String
  certifiedUntil : Option String := none
  deriving DecidableEq

inductive GrantError where
  | value (text : String)
  | overflow
  | recordTimestampFormat (text : String)
  | recordAlreadyExists (text : String)
  | grantAlreadyExists (text : String)
  | grantUpdateConflict (text : String)
  | termExtensionRefused (text : String)
  | reattestationRefused (text : String)
  | lapseRefused (text : String)
  deriving DecidableEq

def parseCertifiedUntil (value : String) : Except GrantError Int :=
  match fromisoformat value with
  | none =>
    .error (.value ("certifiedUntil " ++ pyRepr value ++
      " is not a parseable ISO-8601 instant; give a UTC instant such as '2026-10-01T00:00:00+00:00'"))
  | some parsed =>
    if parsed.offset = some 0 then .ok parsed.clock
    else
      .error (.value ("certifiedUntil " ++ pyRepr value ++
        " must be an explicit UTC instant (offset 'Z' or '+00:00'); naive and non-UTC values are refused"))

def isUtcInstant (value : String) : Bool := (parseCertifiedUntil value).isOk

namespace PromotionRecord

def demotionRatifier : String := "system:demotion-evaluator"

def noRaise (r : PromotionRecord) : Bool :=
  r.fromLevel.any fun fromLevel => autonomyRank r.toLevel ≤ autonomyRank fromLevel

def noDemotionFields (r : PromotionRecord) : Bool := r.triggeredBy.isEmpty && r.demotionReason.isNone

def evaluatorShape (r : PromotionRecord) : Bool :=
  r.ratifiedBy == demotionRatifier && r.triggeredBy.isEmpty && r.demotionReason = some .pendingEvidence &&
    r.toLevel ≠ .outOfLoop && r.noRaise && r.predicate.isNone

def shapeRulesPerRecordType (r : PromotionRecord) : Bool :=
  match r.recordType with
  | .promotion =>
    r.proposedBy != r.ratifiedBy && r.predicate.any (· ≠ "") && (r.fromLevel.isSome || r.toLevel = .inLoop) &&
      r.noDemotionFields
  | .demotion =>
    r.ratifiedBy == demotionRatifier && !r.triggeredBy.isEmpty && r.demotionReason.isSome && r.toLevel ≠ .outOfLoop &&
      r.noRaise && r.predicate.isNone
  | .bootstrap => r.fromLevel.isNone && r.predicate.isNone && r.noDemotionFields
  | .tightening => r.toLevel = .inLoop && r.fromLevel.isSome && r.predicate.isNone && r.noDemotionFields
  | .lapse => r.evaluatorShape
  | .withdrawal => r.evaluatorShape
  | .reattestation => r.fromLevel = some r.toLevel && r.predicate.isNone && r.noDemotionFields

def isTermBearing (r : PromotionRecord) : Bool := r.recordType = .promotion || r.recordType = .lapse

-- What constructing the schema class accepts: the term is an explicit UTC instant and the type's field shape holds.
def accepted (r : PromotionRecord) : Bool :=
  (match r.certifiedUntil with
    | none => true
    | some value => isUtcInstant value && r.isTermBearing) && r.shapeRulesPerRecordType

def optional (text : Option String) : Json := (text.map Json.str).getD .null

def members (r : PromotionRecord) : List (String × Option Json) :=
  [("actionClass",some (.str r.actionClass)),
   ("attestation",some (optional (r.attestation.map Attestation.text))),
   ("certifiedUntil",r.certifiedUntil.map Json.str),
   ("demotionReason",some (optional (r.demotionReason.map DemotionReason.text))),
   ("envelopeHash",some (.str r.envelopeHash)),
   ("evidence",some (.str r.evidence)),
   ("fromLevel",some (optional (r.fromLevel.map AutonomyLevel.text))),
   ("predicate",some (optional r.predicate)),
   ("principal",some r.principal.json),
   ("proposedBy",some (.str r.proposedBy)),
   ("ratifiedBy",some (.str r.ratifiedBy)),
   ("recordType",some (.str r.recordType.text)),
   ("toLevel",some (.str r.toLevel.text)),
   ("triggeredBy",some (.arr (r.triggeredBy.map Json.str))),
   ("ts",some (.str r.ts))]

def names : List String :=
  ["recordType","actionClass","principal","fromLevel","toLevel","evidence","predicate","proposedBy","ratifiedBy","attestation",
   "envelopeHash","triggeredBy","demotionReason","ts","certifiedUntil"]

def ofJson (j : Json) : Option PromotionRecord := do
  let fields ← fieldsOf names j
  let recordType ← defaulted fields "recordType" .promotion (oneOf RecordType.text RecordType.all)
  let actionClass ← required fields "actionClass" str?
  let principal ← required fields "principal" Principal.ofJson
  let fromLevel ← required fields "fromLevel" (nullable AutonomyLevel.ofJson)
  let toLevel ← required fields "toLevel" AutonomyLevel.ofJson
  let evidence ← required fields "evidence" str?
  let predicate ← defaulted fields "predicate" none (nullable str?)
  let proposedBy ← required fields "proposedBy" str?
  let ratifiedBy ← required fields "ratifiedBy" str?
  let attestation ← defaulted fields "attestation" none (nullable (oneOf Attestation.text [.soloLocal]))
  let envelopeHash ← required fields "envelopeHash" str?
  let triggeredBy ← defaulted fields "triggeredBy" [] (listOf str?)
  let demotionReason ← defaulted fields "demotionReason" none (nullable DemotionReason.ofJson)
  let ts ← required fields "ts" str?
  let certifiedUntil ← defaulted fields "certifiedUntil" none (nullable str?)
  return { recordType, actionClass, principal, fromLevel, toLevel, evidence, predicate, proposedBy, ratifiedBy, attestation,
           envelopeHash, triggeredBy, demotionReason, ts, certifiedUntil }

def parse (text : String) : Option PromotionRecord := (Json.loads text).bind ofJson

-- PromotionRecord.model_validate_json
def modelValidateJson (text : String) : Option PromotionRecord := (parse text).filter accepted

end PromotionRecord

def canonicalRecordPayload (r : PromotionRecord) : String := (Json.obj (Json.dropAbsent r.members)).dumps

theorem Attestation.text_injective {a b : Attestation} (_ : a.text = b.text) : a = b := by
  cases a
  cases b
  rfl

theorem DemotionReason.text_injective {a b : DemotionReason} (h : a.text = b.text) : a = b := by
  revert h
  cases a <;> cases b <;> decide

theorem RecordType.text_injective {a b : RecordType} (h : a.text = b.text) : a = b := by
  revert h
  cases a <;> cases b <;> decide

theorem DemotionReason.ofJson_text (reason : DemotionReason) : DemotionReason.ofJson (.str reason.text) = some reason :=
  oneOf_text DemotionReason.text_injective (by cases reason <;> simp [DemotionReason.all])

theorem nullable_optional {α : Type} {text : α → String} {read : Json → Option α} (h : ∀ a, read (.str (text a)) = some a)
    (o : Option α) : nullable read (PromotionRecord.optional (o.map text)) = some o := by
  cases o with
  | none => rfl
  | some a => simp [PromotionRecord.optional,nullable,h]

theorem proper_optional (text : Option String) : (PromotionRecord.optional text).Proper := by
  cases text with
  | none => trivial
  | some s => exact proper_str s

namespace PromotionRecord

theorem memberNames_sorted (r : PromotionRecord) : (r.members.map Prod.fst).Pairwise (· < ·) := by
  have hnames : r.members.map Prod.fst =
      ["actionClass","attestation","certifiedUntil","demotionReason","envelopeHash","evidence","fromLevel","predicate",
       "principal","proposedBy","ratifiedBy","recordType","toLevel","triggeredBy","ts"] := rfl
  rw [hnames]
  decide

theorem members_proper (r : PromotionRecord) : ∀ f ∈ r.members, OptionProper f.2 := by
  simp only [members,List.forall_mem_cons,List.not_mem_nil,false_imp_iff,implies_true,and_true]
  have text := fun s => optionProper_some (proper_str s)
  have optional := fun o => optionProper_some (proper_optional o)
  exact ⟨text _,optional _,optionProper_text _,optional _,text _,text _,optional _,optional _,
    optionProper_some r.principal.json_proper,text _,text _,text _,text _,optionProper_some (proper_strs _),text _⟩

theorem ofJson_members (r : PromotionRecord) : ofJson (.obj (dropAbsent r.members)) = some r := by
  have hnodup := names_nodup r.memberNames_sorted
  have htext : ∀ name s, (name,some (.str s)) ∈ r.members → required (dropAbsent r.members) name str? = some s :=
    fun _ _ h => required_dropAbsent hnodup h rfl
  have htype : oneOf RecordType.text RecordType.all (.str r.recordType.text) = some r.recordType :=
    oneOf_text RecordType.text_injective (by cases r.recordType <;> simp [RecordType.all])
  have hattest := nullable_optional
    (fun a => oneOf_text Attestation.text_injective (show a ∈ [.soloLocal] by cases a; simp)) r.attestation
  have hpredicate : nullable str? (optional r.predicate) = some r.predicate := by cases r.predicate <;> rfl
  have htriggers : listOf str? (.arr (r.triggeredBy.map Json.str)) = some r.triggeredBy := listOf_map fun _ _ => rfl
  have huntil : defaulted (dropAbsent r.members) "certifiedUntil" none (nullable str?) = some r.certifiedUntil := by
    rw [defaulted,field_dropAbsent hnodup (show ("certifiedUntil",r.certifiedUntil.map Json.str) ∈ r.members by simp [members])]
    cases r.certifiedUntil <;> rfl
  rw [ofJson,bind_of_some (fieldsOf_dropAbsent (by simp [members,names])),
    bind_of_some (defaulted_dropAbsent hnodup (by simp [members]) htype),
    bind_of_some (htext "actionClass" r.actionClass (by simp [members])),
    bind_of_some (required_dropAbsent hnodup (by simp [members]) r.principal.ofJson_json),
    bind_of_some (required_dropAbsent hnodup (by simp [members]) (nullable_optional AutonomyLevel.ofJson_text r.fromLevel)),
    bind_of_some (required_dropAbsent hnodup (by simp [members]) r.toLevel.ofJson_text),
    bind_of_some (htext "evidence" r.evidence (by simp [members])),
    bind_of_some (defaulted_dropAbsent hnodup (by simp [members]) hpredicate),
    bind_of_some (htext "proposedBy" r.proposedBy (by simp [members])),
    bind_of_some (htext "ratifiedBy" r.ratifiedBy (by simp [members])),
    bind_of_some (defaulted_dropAbsent hnodup (by simp [members]) hattest),
    bind_of_some (htext "envelopeHash" r.envelopeHash (by simp [members])),
    bind_of_some (defaulted_dropAbsent hnodup (by simp [members]) htriggers),
    bind_of_some (defaulted_dropAbsent hnodup (by simp [members]) (nullable_optional DemotionReason.ofJson_text r.demotionReason)),
    bind_of_some (htext "ts" r.ts (by simp [members])),
    bind_of_some huntil]
  rfl

theorem parse_canonical (r : PromotionRecord) : parse (canonicalRecordPayload r) = some r := by
  rw [parse,canonicalRecordPayload,loads_dumps (proper_dropAbsent r.memberNames_sorted r.members_proper),Option.bind_some,
    ofJson_members]

theorem modelValidateJson_canonical {r : PromotionRecord} (h : r.accepted = true) :
    modelValidateJson (canonicalRecordPayload r) = some r := by
  rw [modelValidateJson,parse_canonical,Option.filter_some,if_pos h]

end PromotionRecord

theorem canonicalRecordPayload_injective {r s : PromotionRecord} (h : canonicalRecordPayload r = canonicalRecordPayload s) :
    r = s := by
  have hparse := congrArg PromotionRecord.parse h
  rw [PromotionRecord.parse_canonical,PromotionRecord.parse_canonical] at hparse
  exact Option.some.inj hparse

inductive RecordBackend where
  | memory | sqlite | dynamo
  deriving DecidableEq

def recordPk (backend : RecordBackend) (principal : Principal) (actionClass : String) : String :=
  match backend with
  | .memory => principal.key ++ "#" ++ actionClass
  | .sqlite => "RECORD#" ++ principal.key ++ "#" ++ actionClass
  | .dynamo => "RECORD#" ++ principal.key ++ "#" ++ actionClass

def recordSk (r : PromotionRecord) : String := r.ts ++ "#" ++ r.recordType.text

structure RecordRow where
  pk : String
  sk : String
  data : String
  deriving DecidableEq

abbrev RecordTable := List RecordRow

def validateRecordTs (ts : String) : Except GrantError Unit :=
  match fromisoformat ts with
  | none =>
    .error (.recordTimestampFormat ("record ts " ++ pyRepr ts ++
      " is not parseable ISO-8601; the canonical form is tz-aware UTC ending '+00:00'"))
  | some parsed =>
    match parsed.offset with
    | none =>
      .error (.recordTimestampFormat ("record ts " ++ pyRepr ts ++
        " is naive; the canonical form is tz-aware UTC ending '+00:00'"))
    | some offset =>
      if offset ≠ 0 ∨ ¬ zone <:+ ts.toList then
        .error (.recordTimestampFormat ("record ts " ++ pyRepr ts ++
          " must be UTC and end with '+00:00' — never 'Z' or a non-UTC offset (they break the ledger's lexical sk ordering)"))
      else .ok ()

def recordRow (backend : RecordBackend) (r : PromotionRecord) : RecordRow where
  pk := recordPk backend r.principal r.actionClass
  sk := recordSk r
  data := canonicalRecordPayload r

def holdsKey (table : RecordTable) (row : RecordRow) : Bool := table.any fun stored => stored.pk == row.pk && stored.sk == row.sk

def putRecord (backend : RecordBackend) (table : RecordTable) (r : PromotionRecord) : Except GrantError RecordTable := do
  validateRecordTs r.ts
  let row := recordRow backend r
  if holdsKey table row then
    .error (.recordAlreadyExists ("ledger record " ++ row.pk ++ "/" ++ row.sk ++
      " already exists; the PromotionRecord ledger is append-only and never overwrites"))
  else .ok (table ++ [row])

def partition (table : RecordTable) (pk : String) : List RecordRow :=
  (table.filter fun row => row.pk == pk).mergeSort fun a b => decide (a.sk ≤ b.sk)

def parseRow (validate : String → Option PromotionRecord) (row : RecordRow) : Except GrantError PromotionRecord :=
  match validate row.data with
  | none => .error (.value "PromotionRecord validation error")
  | some r => .ok r

def listRecords (backend : RecordBackend) (validate : String → Option PromotionRecord) (table : RecordTable)
    (principal : Principal) (actionClass : String) : Except GrantError (List PromotionRecord) :=
  (partition table (recordPk backend principal actionClass)).mapM (parseRow validate)

end Grants

end SafeAgents
