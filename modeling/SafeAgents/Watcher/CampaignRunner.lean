import SafeAgents.Watcher.Campaign
import SafeAgents.Channels.WireForm
import SafeAgents.Channels.Adapters
import SafeAgents.Schemas.JsonParse
import SafeAgents.Enforcement.CounterWindow

open SafeAgents.Channels SafeAgents.Calendar SafeAgents.Enforcement Lexical

namespace SafeAgents

namespace Watcher

def DropReason.text : DropReason → String
  | .authenticityFailed => "authenticity_failed"
  | .malformed => "malformed"
  | .audienceMismatch => "audience_mismatch"
  | .chainSignatureMissing => "chain_signature_missing"
  | .chainSignatureInvalid => "chain_signature_invalid"
  | .chainSignerUnknown => "chain_signer_unknown"
  | .expired => "expired"
  | .unmapped => "unmapped"
  | .principalMismatch => "principal_mismatch"
  | .screenRefused => "screen_refused"
  | .notEvaluated => "not_evaluated"

def DropReason.all : List DropReason :=
  [.authenticityFailed,.malformed,.audienceMismatch,.chainSignatureMissing,.chainSignatureInvalid,.chainSignerUnknown,.expired,.unmapped,
    .principalMismatch,.screenRefused,.notEvaluated]

def AirlockInputName.text : AirlockInputName → String
  | .manifest => "manifest"
  | .webhookToken => "webhook_token"
  | .verifyKeys => "verify_keys"

def AirlockInputName.all : List AirlockInputName := [.manifest,.webhookToken,.verifyKeys]

section Body

def inputsJson (ages : Dict AirlockInputName String) : Json := .obj (ages.entries.map fun e => (AirlockInputName.text e.1,.str e.2))

def inputOf (member : String × Json) : Option (AirlockInputName × String) := do
  let name ← Json.oneOf AirlockInputName.text AirlockInputName.all (.str member.1)
  let asOf ← member.2.str?
  return (name,asOf)

def inputsOfJson : Json → Option (Dict AirlockInputName String)
  | .obj members => (members.mapM inputOf).bind fun entries =>
    if h : (entries.map Prod.fst).Nodup then some ⟨entries,h⟩ else none
  | _ => none

def dropJson (record : DropRecord) : Json :=
  .obj [("channel_type",.str record.channelType),("identity_digest",.str record.identityDigest),
    ("reason",.str (DropReason.text record.reason)),("ts",.str record.ts),("detail",.ofOption record.detail),
    ("chain_verified",.bool record.chainVerified),("signer_key_id",.ofOption record.signerKeyId),
    ("inputs_as_of",record.inputsAsOf.elim .null inputsJson),("horizon",.ofOption record.horizon)]

def modelDumpJson (record : DropRecord) : String := (dropJson record).dumps

def bool? : Json → Option Bool
  | .bool b => some b
  | _ => none

def dropFields : List String :=
  ["channel_type","identity_digest","reason","ts","detail","chain_verified","signer_key_id","inputs_as_of","horizon"]

def checkedDrop (channelType identityDigest : String) (reason : DropReason) (ts : String) (detail : Option String)
    (chainVerified : Bool) (signerKeyId : Option String) (inputsAsOf : Option (Dict AirlockInputName String)) (horizon : Option String) :
    Option DropRecord :=
  if h : isSha256Digest identityDigest = true ∧ isTzAware ts = true ∧ detail.all isMachineCode = true ∧
      (signerKeyId.isNone || chainVerified) = true ∧ (inputsAsOf.all fun ages => ages.values.all isTzAware) = true ∧
      horizon.all isTzAware = true then
    some ⟨channelType,identityDigest,reason,ts,detail,chainVerified,signerKeyId,inputsAsOf,horizon,h.1,h.2.1,h.2.2.1,h.2.2.2.1,
      h.2.2.2.2.1,h.2.2.2.2.2⟩
  else none

def dropOfJson (j : Json) : Option DropRecord := do
  let fields ← Json.fieldsOf dropFields j
  let channelType ← Json.required fields "channel_type" Json.str?
  let identityDigest ← Json.required fields "identity_digest" Json.str?
  let reason ← Json.required fields "reason" (Json.oneOf DropReason.text DropReason.all)
  let ts ← Json.required fields "ts" Json.str?
  let detail ← Json.defaulted fields "detail" none (Json.nullable Json.str?)
  let chainVerified ← Json.defaulted fields "chain_verified" false bool?
  let signerKeyId ← Json.defaulted fields "signer_key_id" none (Json.nullable Json.str?)
  let inputsAsOf ← Json.defaulted fields "inputs_as_of" none (Json.nullable inputsOfJson)
  let horizon ← Json.defaulted fields "horizon" none (Json.nullable Json.str?)
  checkedDrop channelType identityDigest reason ts detail chainVerified signerKeyId inputsAsOf horizon

def modelValidateJson (body : String) : Option DropRecord := (Json.loads body).bind dropOfJson

theorem DropReason.text_injective {a b : DropReason} (h : DropReason.text a = DropReason.text b) : a = b := by
  revert h
  cases a <;> cases b <;> decide

theorem checkedDrop_self (record : DropRecord) : checkedDrop record.channelType record.identityDigest record.reason record.ts record.detail
    record.chainVerified record.signerKeyId record.inputsAsOf record.horizon = some record := by
  rw [checkedDrop,dif_pos ⟨record.digested,record.aware,record.coded,record.attributed,record.inputsAware,record.horizonAware⟩]

theorem AirlockInputName.text_injective {a b : AirlockInputName} (h : AirlockInputName.text a = AirlockInputName.text b) : a = b := by
  revert h
  cases a <;> cases b <;> decide

theorem inputOf_entry (e : AirlockInputName × String) : inputOf (AirlockInputName.text e.1,.str e.2) = some e := by
  have hname : Json.oneOf AirlockInputName.text AirlockInputName.all (.str (AirlockInputName.text e.1)) = some e.1 :=
    Json.oneOf_text AirlockInputName.text_injective (by cases e.1 <;> simp [AirlockInputName.all])
  simp [inputOf,hname,Json.str?]

theorem mapM_inputOf (entries : List (AirlockInputName × String)) :
    (entries.map fun e => (AirlockInputName.text e.1,Json.str e.2)).mapM inputOf = some entries := by
  induction entries with
  | nil => rfl
  | cons e entries ih =>
    rw [List.map_cons,List.mapM_cons,inputOf_entry,ih]
    rfl

theorem inputsOfJson_inputsJson (ages : Dict AirlockInputName String) : inputsOfJson (inputsJson ages) = some ages := by
  rw [inputsJson,inputsOfJson,mapM_inputOf,Option.bind_some,dif_pos ages.unique]

theorem nullable_inputs (ages : Option (Dict AirlockInputName String)) :
    Json.nullable inputsOfJson (ages.elim .null inputsJson) = some ages := by
  cases ages with
  | none => rfl
  | some ages =>
    have hread := inputsOfJson_inputsJson ages
    rw [Option.elim_some,Json.nullable,hread,Option.map_some]
    rw [inputsJson]
    intro hnull
    cases hnull

theorem membersKeyed_texts (members : List (String × String)) :
    Json.MembersKeyed (members.map fun m => (m.1,Json.str m.2)) := by
  induction members with
  | nil => trivial
  | cons m members ih => exact ⟨trivial,ih⟩

theorem inputs_keyed (ages : Option (Dict AirlockInputName String)) : (ages.elim Json.null inputsJson).Keyed := by
  cases ages with
  | none => trivial
  | some ages =>
    have hmapped : (ages.entries.map fun e => (AirlockInputName.text e.1,Json.str e.2)).map Prod.fst =
        (ages.entries.map Prod.fst).map AirlockInputName.text := by simp
    refine ⟨?_,?_⟩
    · rw [hmapped]
      exact ages.unique.map fun _ _ => AirlockInputName.text_injective
    · have hmembers := membersKeyed_texts (ages.entries.map fun e => (AirlockInputName.text e.1,e.2))
      rwa [List.map_map] at hmembers

theorem dropOfJson_dropJson (record : DropRecord) : dropOfJson (dropJson record) = some record := by
  have hreason : Json.oneOf DropReason.text DropReason.all (.str (DropReason.text record.reason)) = some record.reason :=
    Json.oneOf_text DropReason.text_injective (by cases record.reason <;> simp [DropReason.all])
  simp [dropOfJson,dropJson,Json.fieldsOf,dropFields,Json.required,Json.defaulted,Json.field,Json.str?,bool?,Wire.nullable_ofOption,
    hreason,nullable_inputs,checkedDrop_self]

theorem modelValidateJson_dump (record : DropRecord) : modelValidateJson (modelDumpJson record) = some record := by
  have hkeyed : (dropJson record).Keyed := by
    refine ⟨by simp,trivial,trivial,trivial,trivial,?_,trivial,?_,inputs_keyed record.inputsAsOf,?_,trivial⟩
    · cases record.detail <;> trivial
    · cases record.signerKeyId <;> trivial
    · cases record.horizon <;> trivial
  rw [modelValidateJson,modelDumpJson,Json.loads_dumps_keyed hkeyed,Option.bind_some,dropOfJson_dropJson]

end Body

section Window

-- An aware datetime of a zone with a fixed offset: its own clock, and how far that clock is ahead of UTC.
structure AwareTime where
  clock : Int
  offset : Int
  representable : Representable clock

def AwareTime.instant (t : AwareTime) : Int := t.clock - t.offset

-- A civil date by its number of days since the epoch.
def dayOf (clock : Int) : Int := secondOf clock / 86400

def dayChars (day : Int) : List Char :=
  let date := civilOfDays day
  fixedWidth 4 date.year.toNat ++ '/' :: (fixedWidth 2 date.month.toNat ++ '/' :: fixedWidth 2 date.day.toNat)

def dayPrefix (basePrefix : String) (day : Int) : String := basePrefix ++ String.ofList (dayChars day) ++ "/"

-- date.max, which has no next day.
def lastDay : Int := dayOf maxInstant

inductive SweepError where
  | overflow
  | startAfterNow
  deriving DecidableEq

def windowStart (thresholds : CampaignThresholds) (now : AwareTime) : Except SweepError AwareTime :=
  let clock := now.clock - thresholds.windowSeconds * microsPerSecond
  if h : Representable clock then .ok ⟨clock,now.offset,h⟩ else .error .overflow

def prefixesFrom (basePrefix : String) (last : Int) : Nat → Int → Except SweepError (List String)
  | 0, _ => .ok []
  | fuel + 1, day =>
    if day ≤ last then
      if day = lastDay then .error .overflow
      else (prefixesFrom basePrefix last fuel (day + 1)).map (dayPrefix basePrefix day :: ·)
    else .ok []

def dayPrefixes (start now : AwareTime) (basePrefix : String) : Except SweepError (List String) :=
  if now.instant < start.instant then .error .startAfterNow
  else prefixesFrom basePrefix (dayOf now.clock) ((dayOf now.clock - dayOf start.clock).toNat + 2) (dayOf start.clock)

end Window

section Sweep

-- A record as the sink wrote it, the airlock's input instants stamped on it: the sink's clock is UTC.
structure Written where
  record : DropRecord
  writtenAt : Int
  uuid : String
  representable : Representable writtenAt

def Written.key (basePrefix : String) (w : Written) : String :=
  basePrefix ++ String.ofList (dayChars (dayOf w.writtenAt)) ++ "/" ++ isoformat w.writtenAt ++ "-" ++ w.uuid ++ ".json"

def stampOf (record : DropRecord) : Option Instant :=
  (fromisoformat record.ts).bind fun d => d.offset.map fun offset => d.clock - offset

def observedOf (key : String) (record : DropRecord) (ts : Instant) : ObservedEvent where
  channelType := record.channelType
  identityDigest := record.identityDigest
  reason := DropReason.text record.reason
  detail := record.detail
  ts
  chainVerified := record.chainVerified
  signerKeyId := record.signerKeyId
  sourceRef := some key
  attributed := record.attributed

def parseDropRecord (key body : String) : Option ObservedEvent := do
  let record ← modelValidateJson body
  let ts ← stampOf record
  return observedOf key record ts

section Bucket
variable (basePrefix : String) (written : List Written)

def listKeys (start : String) : List String := (written.map (Written.key basePrefix)).filter fun key => start.toList.isPrefixOf key.toList

def getObject (key : String) : Option String :=
  (written.find? fun w => w.key basePrefix = key).map fun w => modelDumpJson w.record

end Bucket

def observe (getObject : String → Option String) (key : String) : Option ObservedEvent := (getObject key).bind (parseDropRecord key)

def sweepDrops (listKeys : String → List String) (getObject : String → Option String) (prefixes : List String) :
    List ObservedEvent × List String :=
  let keys := prefixes.flatMap listKeys
  (keys.filterMap (observe getObject),keys.filter fun key => (observe getObject key).isNone)

structure Swept where
  prefixes : List String
  malformed : List String
  groups : Groups
  campaigns : List (GroupKey × CampaignGroup)

def execute (thresholds : CampaignThresholds) (now : AwareTime) (listKeys : String → List String) (getObject : String → Option String)
    (basePrefix : String) (floods : List FloodEvent) : Except SweepError Swept := do
  let start ← windowStart thresholds now
  let prefixes ← dayPrefixes start now basePrefix
  let (events,malformed) := sweepDrops listKeys getObject prefixes
  let groups := analyzeGroups events floods start.instant now.instant
  return { prefixes, malformed, groups, campaigns := campaigns thresholds groups }

end Sweep

section Days

theorem dayOf_eq (t : Int) : dayOf t = t / microsPerDay := by
  rw [dayOf,secondOf,Int.ediv_ediv_of_nonneg (by decide)]
  rfl

theorem dayOf_mono {t u : Int} (h : t ≤ u) : dayOf t ≤ dayOf u := by
  rw [dayOf_eq,dayOf_eq]
  exact Int.ediv_le_ediv (by decide) h

theorem dated_day {t u day : Int} (ht : Representable t) (hu : Representable u) (hlow : dayOf t ≤ day) (hhigh : day ≤ dayOf u) :
    Dated (civilOfDays day) := by
  have hbounds : Representable (day * microsPerDay) := by
    rw [dayOf_eq] at hlow hhigh
    obtain ⟨htlow,-⟩ := ht
    obtain ⟨-,huhigh⟩ := hu
    simp only [microsPerDay,microsPerSecond,minInstant,maxInstant] at *
    exact ⟨by simp only [minInstant]; omega,by simp only [maxInstant]; omega⟩
  have hday : secondOf (day * microsPerDay) / 86400 = day := by
    have h := dayOf_eq (day * microsPerDay)
    rw [Int.mul_ediv_cancel _ (by decide)] at h
    exact h
  have hdated := dated hbounds
  rw [dateOf,hday] at hdated
  exact hdated

theorem dayChars_front {day day' : Int} {x y : List Char} (hday : Dated (civilOfDays day)) (hday' : Dated (civilOfDays day'))
    (h : dayChars day ++ '/' :: x = dayChars day' ++ '/' :: y) : day = day' := by
  obtain ⟨hcy,hcm,hcd⟩ := hday
  obtain ⟨hdy,hdm,hdd⟩ := hday'
  simp only [dayChars,List.append_assoc,List.cons_append] at h
  obtain ⟨hyear,h⟩ := fixedWidth_front (by decide) (by omega) (by omega) h
  obtain ⟨hmonth,h⟩ := fixedWidth_front (by decide) (by omega) (by omega) (List.cons.inj h).2
  obtain ⟨hdate,h⟩ := fixedWidth_front (by decide) (by omega) (by omega) (List.cons.inj h).2
  have hsame : civilOfDays day = civilOfDays day' := by
    generalize civilOfDays day = c at *
    generalize civilOfDays day' = d at *
    obtain ⟨cy,cm,cd⟩ := c
    obtain ⟨dy,dm,dd⟩ := d
    dsimp only at *
    congr 1 <;> omega
  have hback := congrArg daysOfCivil hsame
  rwa [daysOfCivil_civilOfDays,daysOfCivil_civilOfDays] at hback

theorem prefix_of_key {basePrefix : String} {day : Int} {w : Written} (hday : Dated (civilOfDays day)) :
    (dayPrefix basePrefix day).toList.isPrefixOf (w.key basePrefix).toList = true ↔ day = dayOf w.writtenAt := by
  have hkey : (w.key basePrefix).toList = (dayPrefix basePrefix (dayOf w.writtenAt)).toList ++
      (isoformat w.writtenAt ++ "-" ++ w.uuid ++ ".json").toList := by
    simp [Written.key,dayPrefix]
  rw [List.isPrefixOf_iff_prefix,hkey]
  constructor
  · rintro ⟨tail,h⟩
    have hlists : basePrefix.toList ++ (dayChars day ++ '/' :: tail) = basePrefix.toList ++ (dayChars (dayOf w.writtenAt) ++
        '/' :: (isoformat w.writtenAt ++ "-" ++ w.uuid ++ ".json").toList) := by
      simpa [dayPrefix] using h
    exact dayChars_front hday (dated_day w.representable w.representable le_rfl le_rfl) (List.append_cancel_left hlists)
  · rintro rfl
    exact List.prefix_append _ _

end Days

section Loop

def dayRange (first last : Int) : List Int := (List.range (last - first + 1).toNat).map fun k : Nat => first + (k : Int)

theorem mem_dayRange {first last day : Int} : day ∈ dayRange first last ↔ first ≤ day ∧ day ≤ last := by
  rw [dayRange,List.mem_map]
  constructor
  · rintro ⟨k,hk,rfl⟩
    rw [List.mem_range] at hk
    omega
  · rintro ⟨hlow,hhigh⟩
    exact ⟨(day - first).toNat,List.mem_range.mpr (by omega),by omega⟩

theorem dayRange_nodup (first last : Int) : (dayRange first last).Nodup := by
  refine List.nodup_range.map fun a b hab => ?_
  have hsame : first + (a : Int) = first + (b : Int) := hab
  omega

theorem dayRange_cons {first last : Int} (h : first ≤ last) : dayRange first last = first :: dayRange (first + 1) last := by
  have hsucc : (last - first + 1).toNat = (last - (first + 1) + 1).toNat + 1 := by omega
  rw [dayRange,dayRange,hsucc,List.range_succ_eq_map,List.map_cons,List.map_map]
  refine List.cons_eq_cons.mpr ⟨Int.add_zero _,List.map_congr_left fun k _ => ?_⟩
  simp only [Function.comp_apply,Nat.succ_eq_add_one,Nat.cast_add,Nat.cast_one]
  omega

theorem dayRange_nil {first last : Int} (h : last < first) : dayRange first last = [] := by
  have hzero : (last - first + 1).toNat = 0 := by omega
  rw [dayRange,hzero]
  rfl

variable {basePrefix : String} {last : Int}

theorem prefixesFrom_ok (hlast : last < lastDay) (fuel : Nat) (day : Int) (hfuel : (last - day + 1).toNat < fuel) :
    prefixesFrom basePrefix last fuel day = .ok ((dayRange day last).map (dayPrefix basePrefix)) := by
  induction fuel generalizing day with
  | zero => exact absurd hfuel (Nat.not_lt_zero _)
  | succ fuel ih =>
    rw [prefixesFrom]
    by_cases hday : day ≤ last
    · have hne : day ≠ lastDay := by omega
      rw [if_pos hday,if_neg hne,ih (day + 1) (by omega),dayRange_cons hday]
      rfl
    · rw [if_neg hday,dayRange_nil (by omega)]
      rfl

theorem prefixesFrom_overflow (hlast : last = lastDay) (fuel : Nat) (day : Int) (hday : day ≤ last) (hfuel : (last - day).toNat < fuel) :
    prefixesFrom basePrefix last fuel day = .error .overflow := by
  induction fuel generalizing day with
  | zero => exact absurd hfuel (Nat.not_lt_zero _)
  | succ fuel ih =>
    rw [prefixesFrom,if_pos hday]
    by_cases hend : day = lastDay
    · rw [if_pos hend]
    · rw [if_neg hend,ih (day + 1) (by omega) (by omega)]
      rfl

end Loop

section Execute
variable (thresholds : CampaignThresholds) (now : AwareTime)

def startClock : Int := now.clock - thresholds.windowSeconds * microsPerSecond

def startInstant : Int := now.instant - thresholds.windowSeconds * microsPerSecond

def Started : Prop := Representable (startClock thresholds now) ∧ dayOf now.clock ≠ lastDay

def sweptOf (basePrefix : String) (written : List Written) (floods : List FloodEvent) : Swept :=
  let prefixes := (dayRange (dayOf (startClock thresholds now)) (dayOf now.clock)).map (dayPrefix basePrefix)
  let swept := sweepDrops (listKeys basePrefix written) (getObject basePrefix written) prefixes
  let groups := analyzeGroups swept.1 floods (startInstant thresholds now) now.instant
  { prefixes, malformed := swept.2, groups, campaigns := campaigns thresholds groups }

theorem dayOf_lt_last (hlast : dayOf now.clock ≠ lastDay) : dayOf now.clock < lastDay :=
  lt_of_le_of_ne (dayOf_mono now.representable.2) hlast

theorem execute_started {basePrefix : String} {written : List Written} {floods : List FloodEvent} (h : Started thresholds now) :
    execute thresholds now (listKeys basePrefix written) (getObject basePrefix written) basePrefix floods =
      .ok (sweptOf thresholds now basePrefix written floods) := by
  have hstart : windowStart thresholds now = .ok ⟨startClock thresholds now,now.offset,h.1⟩ := dif_pos h.1
  have hseconds : 0 ≤ (thresholds.windowSeconds : Int) * microsPerSecond := by
    rw [microsPerSecond]
    omega
  have horder : ¬ now.instant < AwareTime.instant ⟨startClock thresholds now,now.offset,h.1⟩ := by
    simp only [AwareTime.instant,startClock]
    omega
  have hprefixes : dayPrefixes ⟨startClock thresholds now,now.offset,h.1⟩ now basePrefix =
      .ok ((dayRange (dayOf (startClock thresholds now)) (dayOf now.clock)).map (dayPrefix basePrefix)) := by
    rw [dayPrefixes,if_neg horder]
    exact prefixesFrom_ok (dayOf_lt_last now h.2) _ _ (by dsimp only; omega)
  have hinstant : AwareTime.instant ⟨startClock thresholds now,now.offset,h.1⟩ = startInstant thresholds now := by
    simp only [AwareTime.instant,startClock,startInstant]
    omega
  rw [execute,Checked.bind_of_ok hstart,Checked.bind_of_ok hprefixes,hinstant]
  rfl

theorem execute_fails {basePrefix : String} {written : List Written} {floods : List FloodEvent} (h : ¬ Started thresholds now) :
    ∃ e, execute thresholds now (listKeys basePrefix written) (getObject basePrefix written) basePrefix floods = .error e := by
  by_cases hclock : Representable (startClock thresholds now)
  · have hlast : dayOf now.clock = lastDay := by
      by_contra hne
      exact h ⟨hclock,hne⟩
    have hstart : windowStart thresholds now = .ok ⟨startClock thresholds now,now.offset,hclock⟩ := dif_pos hclock
    have hseconds : 0 ≤ (thresholds.windowSeconds : Int) * microsPerSecond := by
      rw [microsPerSecond]
      omega
    have horder : ¬ now.instant < AwareTime.instant ⟨startClock thresholds now,now.offset,hclock⟩ := by
      simp only [AwareTime.instant,startClock]
      omega
    have hdays : dayOf (startClock thresholds now) ≤ dayOf now.clock := dayOf_mono (by rw [startClock]; omega)
    have hprefixes : dayPrefixes ⟨startClock thresholds now,now.offset,hclock⟩ now basePrefix = .error .overflow := by
      rw [dayPrefixes,if_neg horder]
      exact prefixesFrom_overflow hlast _ _ hdays (by dsimp only; omega)
    refine ⟨.overflow,?_⟩
    rw [execute,Checked.bind_of_ok hstart,hprefixes]
    rfl
  · have hstart : windowStart thresholds now = .error .overflow := dif_neg hclock
    refine ⟨.overflow,?_⟩
    rw [execute,hstart]
    rfl

end Execute

section Counted
variable {basePrefix : String} {written : List Written}

theorem find_key (hunique : (written.map (Written.key basePrefix)).Nodup) {w : Written} (hw : w ∈ written) :
    getObject basePrefix written (w.key basePrefix) = some (modelDumpJson w.record) := by
  rw [getObject]
  induction written with
  | nil => cases hw
  | cons w' written ih =>
    obtain ⟨hfresh,hrest⟩ := List.nodup_cons.mp hunique
    rcases List.mem_cons.mp hw with rfl | hw
    · simp
    · have hne : w'.key basePrefix ≠ w.key basePrefix := fun h => hfresh (List.mem_map.mpr ⟨w,hw,h.symm⟩)
      rw [List.find?_cons_of_neg (by simpa using hne)]
      exact ih hrest hw

theorem parse_sourceRef {key body : String} {event : ObservedEvent} (h : parseDropRecord key body = some event) : event.sourceRef = some key := by
  obtain ⟨record,-,h⟩ := Option.bind_eq_some_iff.mp h
  obtain ⟨ts,-,h⟩ := Option.bind_eq_some_iff.mp h
  obtain rfl := Option.some.inj h
  rfl

theorem parse_dump {key : String} {record : DropRecord} {t : Instant} (ht : stampOf record = some t) :
    parseDropRecord key (modelDumpJson record) = some (observedOf key record t) := by
  rw [parseDropRecord,modelValidateJson_dump]
  simp [ht]

def countsAs (basePrefix : String) (written : List Written) (start now : Instant) (ref key : String) : Bool :=
  (observe (getObject basePrefix written) key).any fun event => inWindow start now event.ts && decide (event.sourceRef = some ref)

theorem countP_observed (start now : Instant) (ref : String) (keys : List String) :
    (keys.filterMap (observe (getObject basePrefix written))).countP (fun event =>
      inWindow start now event.ts && decide (event.sourceRef = some ref)) = keys.countP (countsAs basePrefix written start now ref) := by
  induction keys with
  | nil => rfl
  | cons key keys ih =>
    rw [List.countP_cons,countsAs]
    cases hobserved : observe (getObject basePrefix written) key with
    | none => rw [List.filterMap_cons_none hobserved,ih]; rfl
    | some event => rw [List.filterMap_cons_some hobserved,List.countP_cons,ih]; rfl

theorem countsAs_eq (hunique : (written.map (Written.key basePrefix)).Nodup) {w : Written} (hw : w ∈ written) {t start now : Instant}
    (ht : stampOf w.record = some t) (key : String) :
    countsAs basePrefix written start now (w.key basePrefix) key = (decide (key = w.key basePrefix) && inWindow start now t) := by
  rw [countsAs,observe]
  by_cases hkey : key = w.key basePrefix
  · subst hkey
    rw [find_key hunique hw,Option.bind_some,parse_dump ht]
    simp [observedOf]
  · cases hobserved : (getObject basePrefix written key).bind (parseDropRecord key) with
    | none => simp [hkey]
    | some event =>
      obtain ⟨body,-,hbody⟩ := Option.bind_eq_some_iff.mp hobserved
      simp [parse_sourceRef hbody,hkey]

theorem sum_indicator (l : List Int) (x : Int) : (l.map fun d => if d = x then 1 else 0).sum = l.count x := by
  induction l with
  | nil => rfl
  | cons d l ih =>
    rw [List.map_cons,List.sum_cons,ih,List.count_cons]
    by_cases hd : d = x <;> simp [hd,Nat.add_comm]

theorem count_listed (hunique : (written.map (Written.key basePrefix)).Nodup) {w : Written} (hw : w ∈ written) {days : List Int}
    (hdays : ∀ day ∈ days, Dated (civilOfDays day)) :
    ((days.map (dayPrefix basePrefix)).flatMap (listKeys basePrefix written)).count (w.key basePrefix) = days.count (dayOf w.writtenAt) := by
  have hone : (written.map (Written.key basePrefix)).count (w.key basePrefix) = 1 :=
    List.count_eq_one_of_mem hunique (List.mem_map.mpr ⟨w,hw,rfl⟩)
  rw [List.count_flatMap,List.map_map,← sum_indicator]
  refine congrArg List.sum (List.map_congr_left fun day hday => ?_)
  rw [Function.comp_apply,Function.comp_apply,listKeys]
  by_cases hmatch : (dayPrefix basePrefix day).toList.isPrefixOf (w.key basePrefix).toList = true
  · have hcount : ((written.map (Written.key basePrefix)).filter fun key => (dayPrefix basePrefix day).toList.isPrefixOf key.toList).count
        (w.key basePrefix) = (written.map (Written.key basePrefix)).count (w.key basePrefix) := List.count_filter hmatch
    rw [hcount,hone,if_pos ((prefix_of_key (hdays day hday)).mp hmatch)]
  · rw [if_neg fun h => hmatch ((prefix_of_key (hdays day hday)).mpr h)]
    refine List.count_eq_zero.mpr fun hmem => hmatch ?_
    exact (List.mem_filter.mp hmem).2

theorem timesCounted_swept (thresholds : CampaignThresholds) (now : AwareTime) (hstarted : Started thresholds now)
    {floods : List FloodEvent} (hfloods : ∀ flood ∈ floods, flood.sourceRef = none)
    (hunique : (written.map (Written.key basePrefix)).Nodup) {w : Written} (hw : w ∈ written) {t : Instant} (ht : stampOf w.record = some t) :
    timesCounted (sweptOf thresholds now basePrefix written floods).groups (w.key basePrefix) =
      if inWindow (startInstant thresholds now) now.instant t then
        (dayRange (dayOf (startClock thresholds now)) (dayOf now.clock)).count (dayOf w.writtenAt) else 0 := by
  have hdays : ∀ day ∈ dayRange (dayOf (startClock thresholds now)) (dayOf now.clock), Dated (civilOfDays day) := by
    intro day hday
    obtain ⟨hlow,hhigh⟩ := mem_dayRange.mp hday
    exact dated_day hstarted.1 now.representable hlow hhigh
  have hgroups := timesCounted_analyzeGroups (startInstant thresholds now) now.instant
    (sweepDrops (listKeys basePrefix written) (getObject basePrefix written)
      ((dayRange (dayOf (startClock thresholds now)) (dayOf now.clock)).map (dayPrefix basePrefix))).1 hfloods (w.key basePrefix)
  have hcounts : countsAs basePrefix written (startInstant thresholds now) now.instant (w.key basePrefix) = fun key =>
      (decide (key = w.key basePrefix) && inWindow (startInstant thresholds now) now.instant t) := funext (countsAs_eq hunique hw ht)
  refine hgroups.trans ?_
  rw [sweepDrops,countP_observed,hcounts]
  cases inWindow (startInstant thresholds now) now.instant t with
  | false => simp
  | true =>
    rw [if_pos rfl,← count_listed hunique hw hdays,List.count_eq_countP]
    simp only [Bool.and_true]
    rfl

end Counted

section Claim
variable (basePrefix : String) (thresholds : CampaignThresholds) (now : AwareTime)

structure Filed (written : List Written) : Prop where
  unique : (written.map (Written.key basePrefix)).Nodup
  stamped : ∀ w ∈ written, ∃ t, stampOf w.record = some t ∧ t ≤ w.writtenAt ∧ w.writtenAt ≤ now.instant

def Recent (record : DropRecord) : Prop := ∃ t, stampOf record = some t ∧ startInstant thresholds now < t ∧ t ≤ now.instant

structure Counts (written : List Written) (swept : Swept) : Prop where
  disjoint : swept.prefixes.Pairwise fun p q => ∀ key : String, ¬ (p.toList.isPrefixOf key.toList = true ∧ q.toList.isPrefixOf key.toList = true)
  covers : ∀ w ∈ written, Recent thresholds now w.record → ∃ p ∈ swept.prefixes, p.toList.isPrefixOf (w.key basePrefix).toList = true
  once : ∀ w ∈ written, Recent thresholds now w.record → timesCounted swept.groups (w.key basePrefix) = 1
  never : ∀ w ∈ written, ¬ Recent thresholds now w.record → timesCounted swept.groups (w.key basePrefix) = 0

def Sees : Prop := ∀ (written : List Written) (floods : List FloodEvent), Filed basePrefix now written →
  (∀ flood ∈ floods, flood.sourceRef = none) →
    ∃ swept, execute thresholds now (listKeys basePrefix written) (getObject basePrefix written) basePrefix floods = .ok swept ∧
      Counts basePrefix thresholds now written swept

-- The UTC dates of the window are dates of now's own clock, from the window's start on.
structure Spans : Prop where
  started : Started thresholds now
  dates : ∀ t, Representable t → startInstant thresholds now < t → t ≤ now.instant →
    dayOf (startClock thresholds now) ≤ dayOf t ∧ dayOf t ≤ dayOf now.clock

theorem inWindow_iff {start now t : Instant} : inWindow start now t = true ↔ start < t ∧ t ≤ now := by
  rw [inWindow,Bool.and_eq_true,decide_eq_true_eq,decide_eq_true_eq]

variable {basePrefix thresholds now}

theorem prefixes_disjoint (hstarted : Started thresholds now) : ((dayRange (dayOf (startClock thresholds now)) (dayOf now.clock)).map
    (dayPrefix basePrefix)).Pairwise fun p q => ∀ key : String, ¬ (p.toList.isPrefixOf key.toList = true ∧ q.toList.isPrefixOf key.toList = true) := by
  have hdays : ∀ day ∈ dayRange (dayOf (startClock thresholds now)) (dayOf now.clock), Dated (civilOfDays day) := by
    intro day hday
    obtain ⟨hlow,hhigh⟩ := mem_dayRange.mp hday
    exact dated_day hstarted.1 now.representable hlow hhigh
  rw [List.pairwise_map]
  refine (dayRange_nodup _ _).imp_of_mem fun {day day'} hday hday' hne key hboth => hne ?_
  obtain ⟨⟨x,hx⟩,⟨y,hy⟩⟩ := And.intro (List.isPrefixOf_iff_prefix.mp hboth.1) (List.isPrefixOf_iff_prefix.mp hboth.2)
  have hlists : basePrefix.toList ++ (dayChars day ++ '/' :: x) = basePrefix.toList ++ (dayChars day' ++ '/' :: y) := by
    simpa [dayPrefix] using hx.trans hy.symm
  exact dayChars_front (hdays day hday) (hdays day' hday') (List.append_cancel_left hlists)

theorem sees_of_spans (h : Spans thresholds now) : Sees basePrefix thresholds now := by
  intro written floods hfiled hfloods
  refine ⟨_,execute_started thresholds now h.started,prefixes_disjoint h.started,?_,?_,?_⟩
  · rintro w hw ⟨t,ht,hafter,-⟩
    obtain ⟨t',ht',hle,hnow⟩ := hfiled.stamped w hw
    obtain rfl := Option.some.inj (ht'.symm.trans ht)
    have hspan := h.dates w.writtenAt w.representable (lt_of_lt_of_le hafter hle) hnow
    have hdated := dated_day h.started.1 now.representable hspan.1 hspan.2
    exact ⟨_,List.mem_map.mpr ⟨_,mem_dayRange.mpr hspan,rfl⟩,(prefix_of_key hdated).mpr rfl⟩
  · rintro w hw ⟨t,ht,hafter,hbefore⟩
    obtain ⟨t',ht',hle,hnow⟩ := hfiled.stamped w hw
    obtain rfl := Option.some.inj (ht'.symm.trans ht)
    have hspan := h.dates w.writtenAt w.representable (lt_of_lt_of_le hafter hle) hnow
    rw [timesCounted_swept thresholds now h.started hfloods hfiled.unique hw ht,if_pos (inWindow_iff.mpr ⟨hafter,hbefore⟩)]
    exact List.count_eq_one_of_mem (dayRange_nodup _ _) (mem_dayRange.mpr hspan)
  · intro w hw hnot
    obtain ⟨t,ht,-,-⟩ := hfiled.stamped w hw
    rw [timesCounted_swept thresholds now h.started hfloods hfiled.unique hw ht]
    refine if_neg fun hwindow => hnot ?_
    obtain ⟨hafter,hbefore⟩ := inWindow_iff.mp hwindow
    exact ⟨t,ht,hafter,hbefore⟩

theorem unstamped_inputs : ((none : Option (Dict AirlockInputName String)).all fun ages => ages.values.all isTzAware) = true := rfl

theorem unstamped_horizon : (none : Option String).all isTzAware = true := rfl

def recordAt (t : Int) (h : Representable t) : Written where
  record := {
    channelType := "email"
    identityDigest := OwnerDesk.zeroDigest
    reason := .expired
    ts := isoformat t
    detail := none
    chainVerified := false
    signerKeyId := none
    digested := OwnerDesk.zeroDigest_format
    aware := by rw [isTzAware,fromisoformat_isoformat h]; rfl
    coded := rfl
    attributed := rfl
    inputsAware := unstamped_inputs
    horizonAware := unstamped_horizon }
  writtenAt := t
  uuid := ""
  representable := h

theorem recordAt_stamp {t : Int} (h : Representable t) : stampOf (recordAt t h).record = some t := by
  have hparse : fromisoformat (recordAt t h).record.ts = some ⟨t,some 0⟩ := fromisoformat_isoformat h
  rw [stampOf,hparse]
  simp

theorem filed_recordAt {t : Int} (h : Representable t) (hnow : t ≤ now.instant) : Filed basePrefix now [recordAt t h] := by
  refine ⟨List.nodup_singleton _,?_⟩
  intro w hw
  obtain rfl := List.mem_singleton.mp hw
  exact ⟨t,recordAt_stamp h,le_rfl,hnow⟩

theorem spans_of_sees (hsees : Sees basePrefix thresholds now) : Spans thresholds now := by
  have hstarted : Started thresholds now := by
    by_contra hnot
    obtain ⟨e,he⟩ : ∃ e, execute thresholds now (listKeys basePrefix []) (getObject basePrefix []) basePrefix [] = .error e :=
      execute_fails thresholds now hnot
    obtain ⟨swept,hok,-⟩ := hsees [] [] ⟨List.nodup_nil,fun w hw => by cases hw⟩ (fun flood hflood => by cases hflood)
    rw [he] at hok
    cases hok
  refine ⟨hstarted,fun t ht hafter hnow => ?_⟩
  obtain ⟨swept,hok,hcounts⟩ := hsees [recordAt t ht] [] (filed_recordAt ht hnow) (fun flood hflood => by cases hflood)
  rw [execute_started thresholds now hstarted] at hok
  obtain rfl := Except.ok.inj hok
  obtain ⟨p,hp,hmatch⟩ := hcounts.covers _ (List.mem_singleton_self _) ⟨t,recordAt_stamp ht,hafter,hnow⟩
  obtain ⟨day,hday,rfl⟩ := List.mem_map.mp hp
  obtain ⟨hlow,hhigh⟩ := mem_dayRange.mp hday
  have hsame : day = dayOf t := (prefix_of_key (dated_day hstarted.1 now.representable hlow hhigh)).mp hmatch
  exact ⟨hsame ▸ hlow,hsame ▸ hhigh⟩

theorem spans_utc (hutc : now.offset = 0) : Spans thresholds now ↔ Started thresholds now := by
  refine ⟨Spans.started,fun hstarted => ⟨hstarted,fun t _ hafter hnow => ?_⟩⟩
  have hinstant : now.instant = now.clock := by
    rw [AwareTime.instant,hutc]
    exact Int.sub_zero _
  rw [startInstant,hinstant] at hafter
  rw [hinstant] at hnow
  exact ⟨dayOf_mono hafter.le,dayOf_mono hnow⟩

end Claim

theorem drop_sweep_iff (basePrefix : String) (thresholds : CampaignThresholds) (now : AwareTime) :
    Sees basePrefix thresholds now ↔ Spans thresholds now := ⟨spans_of_sees,sees_of_spans⟩

def hourly : CampaignThresholds := ⟨3,3600,by decide⟩

def eveningAfterMidnight : AwareTime := ⟨1782943200000000,-18000000000,by decide⟩

theorem evening_sweep_blind : ¬ Sees "channels/drops/" hourly eveningAfterMidnight := by
  intro hsees
  have hdates := (spans_of_sees hsees).dates eveningAfterMidnight.instant (by decide) (by decide) le_rfl
  exact absurd hdates.2 (by decide)

end Watcher

end SafeAgents
