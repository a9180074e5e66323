import SafeAgents.Grants.TermDiscipline
import SafeAgents.Schemas.Wire

namespace SafeAgents.Grants

open Calendar Json Wire

structure ActionClassMetrics where
  falseActionCount : Int
  humanOverrideCount : Int
  observationCount : Int
  deriving DecidableEq

structure PromotionProposal (F : Type) where
  proposalId : String
  expiresAt : String
  principal : Principal
  actionClass : String
  fromLevel : Option AutonomyLevel
  targetLevel : AutonomyLevel
  evidenceBundle : String
  proposerId : String
  ownerId : String
  envelopeHash : String
  labelLatency : String
  demotionTriggers : List DemotionTrigger
  lastSafeLevel : AutonomyLevel
  metrics : ActionClassMetrics
  windowN : Int
  minObservations : Int
  threshold : F
  artifact : Option (Wire.ConfidenceArtifact F)
  covered : Bool
  provenanceMaturity : String
  blastClass : String
  errorBudget : Option (ErrorBudget F)
  windowPeriods : Int := 1
  period : String := "utc-day"
  certifiedUntil : Option String := none
  deriving DecidableEq

namespace ActionClassMetrics

def json (m : ActionClassMetrics) : Json :=
  .obj [("false_action_count",.ofInt m.falseActionCount),
    ("human_override_count",.ofInt m.humanOverrideCount),
    ("observation_count",.ofInt m.observationCount)]

def ofJson (j : Json) : Option ActionClassMetrics := do
  let fields ← fieldsOf ["false_action_count","human_override_count","observation_count"] j
  let falseActionCount ← required fields "false_action_count" int?
  let humanOverrideCount ← required fields "human_override_count" int?
  let observationCount ← required fields "observation_count" int?
  return ⟨falseActionCount,humanOverrideCount,observationCount⟩

theorem ofJson_json (m : ActionClassMetrics) : ofJson m.json = some m := by
  simp [ofJson,json,fieldsOf,required,field,int?_ofInt]

theorem json_proper (m : ActionClassMetrics) : m.json.Proper := by
  apply proper_obj ["false_action_count","human_override_count","observation_count"] rfl (by decide)
  exact ⟨proper_ofInt _,proper_ofInt _,proper_ofInt _,trivial⟩

end ActionClassMetrics

namespace PromotionProposal
variable {F : Type} (fmt : FloatFormat F) (lax : Coercion F)

def members (p : PromotionProposal F) : List (String × Option Json) :=
  [("action_class",some (.str p.actionClass)),
   ("artifact",some (optionJson (Wire.ConfidenceArtifact.json fmt) p.artifact)),
   ("blast_class",some (.str p.blastClass)),
   ("certified_until",p.certifiedUntil.map .str),
   ("covered",some (.bool p.covered)),
   ("demotion_triggers",some (.arr ((p.demotionTriggers.map DemotionTrigger.text).map .str))),
   ("envelope_hash",some (.str p.envelopeHash)),
   ("error_budget",some (optionJson (ErrorBudget.json fmt) p.errorBudget)),
   ("evidence_bundle",some (.str p.evidenceBundle)),
   ("expires_at",some (.str p.expiresAt)),
   ("from_level",some (PromotionRecord.optional (p.fromLevel.map AutonomyLevel.text))),
   ("label_latency",some (.str p.labelLatency)),
   ("last_safe_level",some (.str p.lastSafeLevel.text)),
   ("metrics",some p.metrics.json),
   ("min_observations",some (.ofInt p.minObservations)),
   ("owner_id",some (.str p.ownerId)),
   ("period",some (.str p.period)),
   ("principal",some p.principal.json),
   ("proposal_id",some (.str p.proposalId)),
   ("proposer_id",some (.str p.proposerId)),
   ("provenance_maturity",some (.str p.provenanceMaturity)),
   ("target_level",some (.str p.targetLevel.text)),
   ("threshold",some (fmt.json p.threshold)),
   ("window_n",some (.ofInt p.windowN)),
   ("window_periods",some (.ofInt p.windowPeriods))]

-- Only the nested schema classes check what they hold; the proposal itself is a plain dataclass.
def accepted (p : PromotionProposal F) : Bool := p.artifact.all (Wire.ConfidenceArtifact.accepted fmt)

end PromotionProposal

def readFlag : Json → Option Bool
  | .bool b => some b
  | _ => none

def readThreshold {F : Type} (fmt : FloatFormat F) : Json → Option F
  | .num text => fmt.read text
  | _ => none

section Codec
variable {F : Type} (fmt : FloatFormat F) (lax : Coercion F)

def proposalToJson (p : PromotionProposal F) : String := (Json.obj (dropAbsent (p.members fmt))).dumps

-- A proposal stored before counter periods spelled its span window_days; one before either counts a single period.
def windowPeriodsOf (fields : List (String × Json)) : Option Int :=
  match field fields "window_periods" with
  | some j => int? j
  | none => defaulted fields "window_days" 1 int?

def proposalFromFields (fields : List (String × Json)) : Option (PromotionProposal F) := do
  let proposalId ← required fields "proposal_id" str?
  let expiresAt ← required fields "expires_at" str?
  let principal ← required fields "principal" Principal.ofJson
  let actionClass ← required fields "action_class" str?
  let fromLevel ← required fields "from_level" (nullable AutonomyLevel.ofJson)
  let targetLevel ← required fields "target_level" AutonomyLevel.ofJson
  let evidenceBundle ← required fields "evidence_bundle" str?
  let proposerId ← required fields "proposer_id" str?
  let ownerId ← required fields "owner_id" str?
  let envelopeHash ← required fields "envelope_hash" str?
  let labelLatency ← required fields "label_latency" str?
  let demotionTriggers ← required fields "demotion_triggers" (listOf DemotionTrigger.ofJson)
  let lastSafeLevel ← required fields "last_safe_level" AutonomyLevel.ofJson
  let metrics ← required fields "metrics" ActionClassMetrics.ofJson
  let windowN ← required fields "window_n" int?
  let windowPeriods ← windowPeriodsOf fields
  let period ← defaulted fields "period" "utc-day" str?
  let minObservations ← required fields "min_observations" int?
  let threshold ← required fields "threshold" (readThreshold fmt)
  let artifact ← required fields "artifact" (nullable (Wire.ConfidenceArtifact.modelValidate fmt lax))
  let covered ← required fields "covered" readFlag
  let provenanceMaturity ← required fields "provenance_maturity" str?
  let blastClass ← required fields "blast_class" str?
  let errorBudget ← required fields "error_budget" (nullable (ErrorBudget.modelValidate fmt lax))
  let certifiedUntil ← defaulted fields "certified_until" none (nullable str?)
  return { proposalId, expiresAt, principal, actionClass, fromLevel, targetLevel, evidenceBundle, proposerId, ownerId,
           envelopeHash, labelLatency, demotionTriggers, lastSafeLevel, metrics, windowN, minObservations, threshold, artifact,
           covered, provenanceMaturity, blastClass, errorBudget, windowPeriods, period, certifiedUntil }

def proposalFromJson (text : String) : Option (PromotionProposal F) :=
  match Json.loads text with
  | some (.obj fields) => proposalFromFields fmt lax fields
  | _ => none

end Codec

namespace PromotionProposal
variable {F : Type} (fmt : FloatFormat F) (lax : Coercion F)

theorem memberNames_sorted (p : PromotionProposal F) : ((p.members fmt).map Prod.fst).Pairwise (· < ·) := by
  have hnames : (p.members fmt).map Prod.fst =
      ["action_class","artifact","blast_class","certified_until","covered","demotion_triggers","envelope_hash","error_budget",
       "evidence_bundle","expires_at","from_level","label_latency","last_safe_level","metrics","min_observations","owner_id",
       "period","principal","proposal_id","proposer_id","provenance_maturity","target_level","threshold","window_n",
       "window_periods"] := rfl
  rw [hnames]
  decide

theorem members_proper (p : PromotionProposal F) : ∀ f ∈ p.members fmt, OptionProper f.2 := by
  simp only [members,List.forall_mem_cons,List.not_mem_nil,false_imp_iff,implies_true,and_true]
  have text := fun s => optionProper_some (proper_str s)
  have int := fun n => optionProper_some (proper_ofInt n)
  have artifact := optionProper_some (optionJson_proper (o := p.artifact) fun a _ => a.json_proper fmt)
  have budget := optionProper_some (optionJson_proper (o := p.errorBudget) fun b _ => b.json_proper fmt)
  exact ⟨text _,artifact,text _,optionProper_text _,optionProper_some trivial,optionProper_some (proper_strs _),text _,budget,
    text _,text _,optionProper_some (proper_optional _),text _,text _,optionProper_some p.metrics.json_proper,int _,text _,text _,
    optionProper_some p.principal.json_proper,text _,text _,text _,text _,optionProper_some (fmt.json_proper _),int _,int _⟩

theorem proposalFromFields_members {p : PromotionProposal F} (h : p.accepted fmt = true) :
    proposalFromFields fmt lax (dropAbsent (p.members fmt)) = some p := by
  have hnodup := names_nodup (p.memberNames_sorted fmt)
  have htext : ∀ name s, (name,some (.str s)) ∈ p.members fmt → required (dropAbsent (p.members fmt)) name str? = some s :=
    fun _ _ h => required_dropAbsent hnodup h rfl
  have hint : ∀ name n, (name,some (.ofInt n)) ∈ p.members fmt → required (dropAbsent (p.members fmt)) name int? = some n :=
    fun _ n h => required_dropAbsent hnodup h (int?_ofInt n)
  have hlevel : ∀ name (level : AutonomyLevel), (name,some (.str level.text)) ∈ p.members fmt →
      required (dropAbsent (p.members fmt)) name AutonomyLevel.ofJson = some level :=
    fun _ level h => required_dropAbsent hnodup h level.ofJson_text
  have htriggers : listOf DemotionTrigger.ofJson (.arr ((p.demotionTriggers.map DemotionTrigger.text).map .str)) =
      some p.demotionTriggers := by
    rw [List.map_map]
    exact listOf_map fun trigger _ => trigger.ofJson_text
  have hperiods : windowPeriodsOf (dropAbsent (p.members fmt)) = some p.windowPeriods := by
    rw [windowPeriodsOf,field_dropAbsent hnodup (show ("window_periods",some (.ofInt p.windowPeriods)) ∈ p.members fmt by simp [members])]
    exact int?_ofInt p.windowPeriods
  have hperiod : defaulted (dropAbsent (p.members fmt)) "period" "utc-day" str? = some p.period :=
    defaulted_dropAbsent hnodup (show ("period",some (.str p.period)) ∈ p.members fmt by simp [members]) rfl
  have hcovered : required (dropAbsent (p.members fmt)) "covered" readFlag = some p.covered :=
    required_dropAbsent hnodup (show ("covered",some (.bool p.covered)) ∈ p.members fmt by simp [members]) rfl
  have hthreshold : readThreshold fmt (fmt.json p.threshold) = some p.threshold := fmt.read_repr p.threshold
  have hartifact : nullable (Wire.ConfidenceArtifact.modelValidate fmt lax)
      (optionJson (Wire.ConfidenceArtifact.json fmt) p.artifact) = some p.artifact := by
    apply nullable_optionJson
    · intro a ha
      have haccepted : a.accepted fmt = true := by simpa [accepted,ha] using h
      exact Wire.ConfidenceArtifact.modelValidate_json fmt lax haccepted
    · simp [Wire.ConfidenceArtifact.json]
  have hbudget : nullable (ErrorBudget.modelValidate fmt lax) (optionJson (ErrorBudget.json fmt) p.errorBudget) =
      some p.errorBudget :=
    nullable_optionJson (fun b _ => ErrorBudget.modelValidate_json fmt lax b) (by simp [ErrorBudget.json])
  have huntil : defaulted (dropAbsent (p.members fmt)) "certified_until" none (nullable str?) = some p.certifiedUntil := by
    rw [defaulted,field_dropAbsent hnodup (show ("certified_until",p.certifiedUntil.map .str) ∈ p.members fmt by simp [members])]
    cases p.certifiedUntil <;> rfl
  rw [proposalFromFields,bind_of_some (htext "proposal_id" p.proposalId (by simp [members])),
    bind_of_some (htext "expires_at" p.expiresAt (by simp [members])),
    bind_of_some (required_dropAbsent hnodup (by simp [members]) p.principal.ofJson_json),
    bind_of_some (htext "action_class" p.actionClass (by simp [members])),
    bind_of_some (required_dropAbsent hnodup (by simp [members]) (nullable_optional AutonomyLevel.ofJson_text p.fromLevel)),
    bind_of_some (hlevel "target_level" p.targetLevel (by simp [members])),
    bind_of_some (htext "evidence_bundle" p.evidenceBundle (by simp [members])),
    bind_of_some (htext "proposer_id" p.proposerId (by simp [members])),
    bind_of_some (htext "owner_id" p.ownerId (by simp [members])),
    bind_of_some (htext "envelope_hash" p.envelopeHash (by simp [members])),
    bind_of_some (htext "label_latency" p.labelLatency (by simp [members])),
    bind_of_some (required_dropAbsent hnodup (by simp [members]) htriggers),
    bind_of_some (hlevel "last_safe_level" p.lastSafeLevel (by simp [members])),
    bind_of_some (required_dropAbsent hnodup (by simp [members]) p.metrics.ofJson_json),
    bind_of_some (hint "window_n" p.windowN (by simp [members])),
    bind_of_some hperiods,
    bind_of_some hperiod,
    bind_of_some (hint "min_observations" p.minObservations (by simp [members])),
    bind_of_some (required_dropAbsent hnodup (by simp [members]) hthreshold),
    bind_of_some (required_dropAbsent hnodup (by simp [members]) hartifact),
    bind_of_some hcovered,
    bind_of_some (htext "provenance_maturity" p.provenanceMaturity (by simp [members])),
    bind_of_some (htext "blast_class" p.blastClass (by simp [members])),
    bind_of_some (required_dropAbsent hnodup (by simp [members]) hbudget),
    bind_of_some huntil]
  rfl

theorem proposalFromJson_toJson {p : PromotionProposal F} (h : p.accepted fmt = true) :
    proposalFromJson fmt lax (proposalToJson fmt p) = some p := by
  rw [proposalFromJson,proposalToJson,loads_dumps (proper_dropAbsent (p.memberNames_sorted fmt) (p.members_proper fmt))]
  exact proposalFromFields_members fmt lax h

end PromotionProposal

end SafeAgents.Grants
