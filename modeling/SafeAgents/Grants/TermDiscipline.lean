import SafeAgents.Grants.Store

namespace SafeAgents.Grants

open Calendar Checked Json

theorem DemotionTrigger.text_injective {a b : DemotionTrigger} (h : a.text = b.text) : a = b := by
  revert h
  cases a <;> cases b <;> decide

theorem DemotionTrigger.ofJson_text (trigger : DemotionTrigger) : DemotionTrigger.ofJson (.str trigger.text) = some trigger :=
  oneOf_text DemotionTrigger.text_injective (by cases trigger <;> simp [DemotionTrigger.all])

namespace GrantDocument

theorem memberNames_sorted (g : GrantDocument) : (g.members.map Prod.fst).Pairwise (· < ·) := by
  have hnames : g.members.map Prod.fst =
      ["actionClass","certifiedUntil","demotionReason","demotionTriggers","envelopeHash","evidence","labelLatency",
       "lastSafeLevel","level","ownerId","principal","promotedBy","ts"] := rfl
  rw [hnames]
  decide

theorem members_proper (g : GrantDocument) : ∀ f ∈ g.members, OptionProper f.2 := by
  simp only [members,List.forall_mem_cons,List.not_mem_nil,false_imp_iff,implies_true,and_true]
  have text := fun s => optionProper_some (proper_str s)
  exact ⟨text _,optionProper_text _,optionProper_some (proper_optional _),optionProper_some (proper_strs _),text _,text _,text _,
    text _,text _,text _,optionProper_some g.principal.json_proper,text _,text _⟩

theorem ofJson_members (g : GrantDocument) : ofJson (.obj (dropAbsent g.members)) = some g := by
  have hnodup := names_nodup g.memberNames_sorted
  have htext : ∀ name s, (name,some (.str s)) ∈ g.members → required (dropAbsent g.members) name str? = some s :=
    fun _ _ h => required_dropAbsent hnodup h rfl
  have htriggers : listOf DemotionTrigger.ofJson (.arr ((g.demotionTriggers.map DemotionTrigger.text).map Json.str)) =
      some g.demotionTriggers := by
    rw [List.map_map]
    exact listOf_map fun trigger _ => trigger.ofJson_text
  have huntil : defaulted (dropAbsent g.members) "certifiedUntil" none (nullable str?) = some g.certifiedUntil := by
    rw [defaulted,field_dropAbsent hnodup (show ("certifiedUntil",g.certifiedUntil.map Json.str) ∈ g.members by simp [members])]
    cases g.certifiedUntil <;> rfl
  rw [ofJson,bind_of_some (fieldsOf_dropAbsent (by simp [members,names])),
    bind_of_some (required_dropAbsent hnodup (by simp [members]) g.principal.ofJson_json),
    bind_of_some (htext "actionClass" g.actionClass (by simp [members])),
    bind_of_some (required_dropAbsent hnodup (show ("level",_) ∈ g.members by simp [members]) g.level.ofJson_text),
    bind_of_some (htext "envelopeHash" g.envelopeHash (by simp [members])),
    bind_of_some (htext "promotedBy" g.promotedBy (by simp [members])),
    bind_of_some (htext "evidence" g.evidence (by simp [members])),
    bind_of_some (htext "ts" g.ts (by simp [members])),
    bind_of_some (required_dropAbsent hnodup (show ("lastSafeLevel",_) ∈ g.members by simp [members]) g.lastSafeLevel.ofJson_text),
    bind_of_some (required_dropAbsent hnodup (by simp [members]) htriggers),
    bind_of_some (required_dropAbsent hnodup (by simp [members]) (nullable_optional DemotionReason.ofJson_text g.demotionReason)),
    bind_of_some (htext "labelLatency" g.labelLatency (by simp [members])),
    bind_of_some (htext "ownerId" g.ownerId (by simp [members])),
    bind_of_some huntil]
  rfl

theorem parse_canonical (g : GrantDocument) : parse (canonicalGrantPayload g) = some g := by
  rw [parse,canonicalGrantPayload,loads_dumps (proper_dropAbsent g.memberNames_sorted g.members_proper),Option.bind_some,
    ofJson_members]

theorem modelValidateJson_canonical {isLabelLatency : String → Bool} {g : GrantDocument} (h : g.accepted isLabelLatency = true) :
    modelValidateJson isLabelLatency (canonicalGrantPayload g) = some g := by
  rw [modelValidateJson,parse_canonical,Option.filter_some,if_pos h]

end GrantDocument

theorem canonicalGrantPayload_injective {g h : GrantDocument} (heq : canonicalGrantPayload g = canonicalGrantPayload h) :
    g = h := by
  have hparse := congrArg GrantDocument.parse heq
  rw [GrantDocument.parse_canonical,GrantDocument.parse_canonical] at hparse
  exact Option.some.inj hparse

section Commit
variable {hmac : String → String} {validate : String → Option GrantDocument} {backend : RecordBackend}
  {s s' : GrantState} {q : WriteRequest}

def applied (hmac : String → String) (backend : RecordBackend) (s : GrantState) (q : WriteRequest) : GrantState :=
  setGrant hmac backend { s with records := s.records ++ [recordRow backend q.record] } q.grant

theorem applied_stores (hmac : String → String) (backend : RecordBackend) (s : GrantState) (q : WriteRequest) :
    (applied hmac backend s q).grants (grantKey backend q.grant) = some (buildItem hmac q.grant) := by
  simp [applied,setGrant]

structure Committed (hmac : String → String) (validate : String → Option GrantDocument) (backend : RecordBackend)
    (s : GrantState) (q : WriteRequest) (s' : GrantState) : Prop where
  state : s' = applied hmac backend s q
  guarded : ∀ item, s.grants (grantKey backend q.grant) = some item →
    q.creating = false ∧ q.prevRawData = some item.data ∧ q.expectedHash = some item.grantHash
  term : q.creating = false → refuseTermExtension validate q.prevRawData q.grant q.record.recordType = .ok ()
  reattestation : refuseReattestationDrift validate q.prevRawData q.record q.grant = .ok ()
  lapse : refuseLapseDrift validate q.prevRawData q.record q.grant = .ok ()

theorem checkGrantLeg_ok {item : Option GrantItem} (h : checkGrantLeg validate item q = .ok ()) :
    (∀ stored, item = some stored →
      q.creating = false ∧ q.prevRawData = some stored.data ∧ q.expectedHash = some stored.grantHash) ∧
      (q.creating = false → refuseTermExtension validate q.prevRawData q.grant q.record.recordType = .ok ()) := by
  cases hcreating : q.creating with
  | true =>
    simp only [checkGrantLeg,hcreating,if_true,refuseIf_ok,ne_eq,not_not] at h
    simp [h]
  | false =>
    simp only [checkGrantLeg,hcreating,Bool.false_eq_true,if_false] at h
    obtain ⟨hconditions,hterm⟩ := then_ok.mp h
    refine ⟨?_,fun _ => hterm⟩
    rintro stored rfl
    simp only [checkUpdateConditions,refuseIf_ok,not_or,ne_eq,not_not] at hconditions
    exact ⟨rfl,hconditions.2.symm,hconditions.1.symm⟩

theorem putRecord_ok {table table' : RecordTable} {r : PromotionRecord} (h : putRecord backend table r = .ok table') :
    table' = table ++ [recordRow backend r] := by
  obtain ⟨_,hrest⟩ := then_ok.mp h
  dsimp only at hrest
  split at hrest
  · cases hrest
  · exact (Except.ok.inj hrest).symm

theorem writeMemory_ok (h : writeMemory hmac validate s q = .ok s') : Committed hmac validate .memory s q s' := by
  obtain ⟨hreattest,hrest⟩ := then_ok.mp h
  obtain ⟨hleg,hrest⟩ := then_ok.mp hrest
  obtain ⟨hlapse,hrest⟩ := then_ok.mp hrest
  obtain ⟨records,hput,hend⟩ := bind_ok.mp hrest
  obtain ⟨hguarded,hterm⟩ := checkGrantLeg_ok hleg
  have hstate := (pure_ok.mp hend).symm
  rw [putRecord_ok hput] at hstate
  exact ⟨hstate,hguarded,hterm,hreattest,hlapse⟩

theorem writeSqlite_ok (h : writeSqlite hmac validate s q = .ok s') : Committed hmac validate .sqlite s q s' := by
  obtain ⟨_,hrest⟩ := then_ok.mp h
  obtain ⟨hreattest,hrest⟩ := then_ok.mp hrest
  obtain ⟨hleg,hrest⟩ := then_ok.mp hrest
  obtain ⟨hlapse,hrest⟩ := then_ok.mp hrest
  obtain ⟨t,hput,hend⟩ := bind_ok.mp hrest
  obtain ⟨_,ht⟩ := then_ok.mp hput
  obtain ⟨hguarded,hterm⟩ := checkGrantLeg_ok hleg
  have hstate := (pure_ok.mp hend).symm
  rw [← pure_ok.mp ht] at hstate
  exact ⟨hstate,hguarded,hterm,hreattest,hlapse⟩

theorem grantCondition_guards {item : Option GrantItem} {hash raw : Option String} (h : grantCondition item hash raw = true)
    {stored : GrantItem} (hitem : item = some stored) : hash = some stored.grantHash ∧ raw = some stored.data := by
  subst hitem
  cases hash with
  | none => simp [grantCondition] at h
  | some expected =>
    have hboth : stored.grantHash = expected ∧ raw = some stored.data := by simpa [grantCondition] using h
    exact ⟨by rw [hboth.1],hboth.2⟩

theorem expectedHash_creating (h : q.creating = true) : q.expectedHash = none := by simp [WriteRequest.expectedHash,h]

theorem transactWriteItems_ok (h : transactWriteItems hmac s q = .ok s') :
    s' = applied hmac .dynamo s q ∧
      grantCondition (s.grants (grantKey .dynamo q.grant)) q.expectedHash q.prevRawData = true := by
  simp only [transactWriteItems] at h
  split at h
  next hboth =>
    have hgranted := (Bool.and_eq_true _ _ ▸ hboth).1
    exact ⟨(Except.ok.inj h).symm,hgranted⟩
  · split at h
    · split at h
      · cases h
      · cases h
    · cases h

theorem writeDynamo_ok (h : writeDynamo hmac validate s q = .ok s') : Committed hmac validate .dynamo s q s' := by
  obtain ⟨_,hrest⟩ := then_ok.mp h
  obtain ⟨hreattest,hrest⟩ := then_ok.mp hrest
  obtain ⟨hterm,hrest⟩ := then_ok.mp hrest
  obtain ⟨hlapse,hrest⟩ := then_ok.mp hrest
  obtain ⟨hstate,hcondition⟩ := transactWriteItems_ok hrest
  constructor
  · exact hstate
  · intro item hitem
    obtain ⟨hhash,hraw⟩ := grantCondition_guards hcondition hitem
    refine ⟨?_,hraw,hhash⟩
    cases hcreating : q.creating with
    | false => rfl
    | true =>
      rw [expectedHash_creating hcreating] at hhash
      cases hhash
  · intro hcreating
    simpa [refuseTermExtensionOnUpdate,hcreating] using hterm
  · exact hreattest
  · exact hlapse

theorem write_ok (h : writeRecordAndGrant hmac validate backend s q = .ok s') : Committed hmac validate backend s q s' := by
  cases backend with
  | memory => exact writeMemory_ok h
  | sqlite => exact writeSqlite_ok h
  | dynamo => exact writeDynamo_ok h

theorem call_cases (c : WriteCall) :
    s.call hmac validate backend c = s ∨ Committed hmac validate backend s c.request (s.call hmac validate backend c) := by
  rw [GrantState.call]
  split
  · exact .inl rfl
  · cases hwrite : writeRecordAndGrant hmac validate backend s c.request with
    | error e => exact .inl rfl
    | ok t => exact .inr (write_ok hwrite)

theorem writeMemory_commits (hreattest : refuseReattestationDrift validate q.prevRawData q.record q.grant = .ok ())
    (hleg : checkGrantLeg validate (s.grants (grantKey .memory q.grant)) q = .ok ())
    (hlapse : refuseLapseDrift validate q.prevRawData q.record q.grant = .ok ())
    (hts : validateRecordTs q.record.ts = .ok ()) (hfree : holdsKey s.records (recordRow .memory q.record) = false) :
    writeRecordAndGrant hmac validate .memory s q = .ok (applied hmac .memory s q) := by
  have hput : putRecord .memory s.records q.record = .ok (s.records ++ [recordRow .memory q.record]) := by
    rw [putRecord,hts]
    simp only [hfree]
    rfl
  rw [writeRecordAndGrant,writeMemory,hreattest,hleg,hlapse,hput]
  rfl

theorem call_commits {c : WriteCall} (hsent : c.transport ≠ .refused)
    (hwrite : writeRecordAndGrant hmac validate backend s c.request = .ok s') : s.call hmac validate backend c = s' := by
  rw [GrantState.call,if_neg hsent,hwrite]

theorem calls_concat (hmac : String → String) (validate : String → Option GrantDocument) (backend : RecordBackend)
    (before : List WriteCall) (c : WriteCall) :
    GrantState.calls hmac validate backend (before ++ [c]) =
      (GrantState.calls hmac validate backend before).call hmac validate backend c := by
  simp [GrantState.calls]

theorem Committed.grants (h : Committed hmac validate backend s q s') :
    s'.grants = Function.update s.grants (grantKey backend q.grant) (some (buildItem hmac q.grant)) := by
  rw [h.state]
  rfl

theorem Committed.records (h : Committed hmac validate backend s q s') :
    s'.records = s.records ++ [recordRow backend q.record] := by
  rw [h.state]
  rfl

theorem Committed.changed (h : Committed hmac validate backend s q s') : s' ≠ s := by
  intro heq
  have hlen := congrArg List.length h.records
  rw [heq] at hlen
  simp at hlen

end Commit

section Discipline
variable {hmac : String → String} {validate : String → Option GrantDocument} {backend : RecordBackend}
  {isLabelLatency : String → Bool}

def Stores (hmac : String → String) (s : GrantState) (key : String × String) (g : GrantDocument) : Prop :=
  s.grants key = some (buildItem hmac g)

def Genuine (hmac : String → String) (isLabelLatency : String → Bool) (s : GrantState) : Prop :=
  ∀ key item, s.grants key = some item → ∃ g, g.accepted isLabelLatency = true ∧ item = buildItem hmac g

theorem genuine_call {s : GrantState} (h : Genuine hmac isLabelLatency s) {c : WriteCall}
    (hc : c.request.grant.accepted isLabelLatency = true) :
    Genuine hmac isLabelLatency (s.call hmac validate backend c) := by
  have hcases : s.call hmac validate backend c = s ∨
      Committed hmac validate backend s c.request (s.call hmac validate backend c) := call_cases c
  rcases hcases with heq | hcommitted
  · rw [heq]
    exact h
  · intro key item hitem
    rw [hcommitted.grants] at hitem
    by_cases hkey : key = grantKey backend c.request.grant
    · rw [hkey,Function.update_self] at hitem
      exact ⟨c.request.grant,hc,(Option.some.inj hitem).symm⟩
    · rw [Function.update_of_ne hkey] at hitem
      exact h key item hitem

theorem genuine_calls {calls : List WriteCall} (h : ∀ c ∈ calls, c.request.grant.accepted isLabelLatency = true) :
    Genuine hmac isLabelLatency (GrantState.calls hmac validate backend calls) := by
  have hfold : ∀ (cs : List WriteCall) (s : GrantState), (∀ c ∈ cs, c.request.grant.accepted isLabelLatency = true) →
      Genuine hmac isLabelLatency s → Genuine hmac isLabelLatency (cs.foldl (GrantState.call hmac validate backend) s) := by
    intro cs
    induction cs with
    | nil =>
      intro s _ hs
      exact hs
    | cons c cs ih =>
      intro s hcs hs
      exact ih _ (fun d hd => hcs d (by simp [hd])) (genuine_call hs (hcs c (by simp)))
  exact hfold calls {} h (by simp [Genuine])

def Lengthens (previous proposed : Option String) : Prop :=
  ∃ p, previous = some p ∧ (proposed = none ∨
    ∃ n ended ends, proposed = some n ∧ parseCertifiedUntil p = .ok ended ∧ parseCertifiedUntil n = .ok ends ∧ ended < ends)

theorem lengthens_of_extends {previous proposed : Option String} (h : extendsTerm previous proposed = .ok false) :
    ¬ Lengthens previous proposed := by
  rintro ⟨p,rfl,rfl | ⟨n,ended,ends,rfl,hp,hn,hlt⟩⟩
  · simp [extendsTerm] at h
  · have hfalse : decide (ended < ends) = false := by simpa [extendsTerm,hp,hn,bind,Except.bind,pure,Except.pure] using h
    simp [hlt] at hfalse

theorem term_not_lengthened {g updated : GrantDocument} {raw : String} {recordType : RecordType}
    (hread : validate raw = some g) (htype : recordType ≠ .promotion)
    (h : refuseTermExtension validate (some raw) updated recordType = .ok ()) :
    ¬ Lengthens g.certifiedUntil updated.certifiedUntil := by
  simp only [refuseTermExtension,if_neg htype,Option.bind_some,hread] at h
  obtain ⟨extended,hextended,hrefuse⟩ := bind_ok.mp h
  have hfalse : extended = false := by simpa using hrefuse
  rw [hfalse] at hextended
  exact lengthens_of_extends hextended

theorem flagged_nil {flags : List (String × Bool)} (h : (flags.filterMap fun f => if f.2 then some f.1 else none) = []) :
    ∀ f ∈ flags, f.2 = false := by
  intro f hf
  have hnone := List.filterMap_eq_nil_iff.mp h f hf
  cases hflag : f.2 with
  | false => rfl
  | true => simp [hflag] at hnone

theorem reattestation_fields {g updated : GrantDocument} {raw : String} {record : PromotionRecord}
    (hread : validate raw = some g) (htype : record.recordType = .reattestation)
    (h : refuseReattestationDrift validate (some raw) record updated = .ok ()) :
    updated = { g with envelopeHash := updated.envelopeHash, promotedBy := updated.promotedBy, ts := updated.ts } := by
  simp only [refuseReattestationDrift,htype,ne_eq,not_true_eq_false,if_false,hread] at h
  obtain ⟨hdrift,_⟩ := then_ok.mp h
  have hempty : driftedFields g updated = [] := by simpa using hdrift
  have hfields := flagged_nil hempty
  simp only [List.forall_mem_cons,decide_eq_false_iff_not,not_not,ne_eq] at hfields
  cases g
  cases updated
  simp_all

theorem lapse_fields {g updated : GrantDocument} {raw : String} {record : PromotionRecord}
    (hread : validate raw = some g) (htype : record.recordType = .lapse)
    (h : refuseLapseDrift validate (some raw) record updated = .ok ()) :
    updated.certifiedUntil = g.certifiedUntil ∧ updated.lastSafeLevel = g.lastSafeLevel := by
  simp only [refuseLapseDrift,htype,ne_eq,not_true_eq_false,if_false] at h
  obtain ⟨_,hrest⟩ := then_ok.mp h
  simp only [Option.bind_some,hread,refuseIf_ok,not_not] at hrest
  have hfields := flagged_nil hrest
  simp only [List.forall_mem_cons,decide_eq_false_iff_not,not_not,ne_eq] at hfields
  exact ⟨hfields.1.symm,hfields.2.1.symm⟩

structure Discipline (hmac : String → String) (isLabelLatency : String → Bool) (backend : RecordBackend)
    (s : GrantState) (q : WriteRequest) (s' : GrantState) : Prop where
  atomic : s' = s ∨ s'.records = s.records ++ [recordRow backend q.record] ∧
    s'.grants = Function.update s.grants (grantKey backend q.grant) (some (buildItem hmac q.grant))
  genuine : ∀ item, s.grants (grantKey backend q.grant) = some item → ∃ g, g.accepted isLabelLatency = true ∧
    item = buildItem hmac g
  guarded : s' ≠ s → ∀ item, s.grants (grantKey backend q.grant) = some item →
    ∃ e, q.expected = some e ∧ e.rawData = some item.data ∧ e.storedHash = some item.grantHash
  term : s' ≠ s → ∀ g, Stores hmac s (grantKey backend q.grant) g → q.record.recordType ≠ .promotion →
    ¬ Lengthens g.certifiedUntil q.grant.certifiedUntil
  reattestation : s' ≠ s → ∀ g, Stores hmac s (grantKey backend q.grant) g → q.record.recordType = .reattestation →
    q.grant = { g with envelopeHash := q.grant.envelopeHash, promotedBy := q.grant.promotedBy, ts := q.grant.ts }
  lapse : s' ≠ s → ∀ g, Stores hmac s (grantKey backend q.grant) g → q.record.recordType = .lapse →
    q.grant.certifiedUntil = g.certifiedUntil

theorem prevRawData_expected {q : WriteRequest} {raw hash : String} (hraw : q.prevRawData = some raw)
    (hhash : q.expectedHash = some hash) : ∃ e, q.expected = some e ∧ e.rawData = some raw ∧ e.storedHash = some hash := by
  cases hexpected : q.expected with
  | none => simp [WriteRequest.prevRawData,hexpected] at hraw
  | some e =>
    cases hcreating : q.creating with
    | true => simp [WriteRequest.prevRawData,hcreating] at hraw
    | false =>
      have hr : e.rawData = some raw := by simpa [WriteRequest.prevRawData,hcreating,hexpected] using hraw
      have hh : e.storedHash = some hash := by simpa [WriteRequest.expectedHash,hcreating,hexpected] using hhash
      exact ⟨e,rfl,hr,hh⟩

theorem Committed.reads {s s' : GrantState} {q : WriteRequest} {g : GrantDocument}
    (h : Committed hmac validate backend s q s') (hstores : Stores hmac s (grantKey backend q.grant) g) :
    q.creating = false ∧ q.prevRawData = some (canonicalGrantPayload g) := by
  obtain ⟨hcreating,hraw,_⟩ := h.guarded _ hstores
  exact ⟨hcreating,hraw⟩

variable (hround : ∀ g : GrantDocument, g.accepted isLabelLatency = true → validate (canonicalGrantPayload g) = some g)
include hround

theorem discipline_call {s : GrantState} (hs : Genuine hmac isLabelLatency s) (c : WriteCall) :
    Discipline hmac isLabelLatency backend s c.request (s.call hmac validate backend c) := by
  have hcases : s.call hmac validate backend c = s ∨
      Committed hmac validate backend s c.request (s.call hmac validate backend c) := call_cases c
  have hcommitted : s.call hmac validate backend c ≠ s →
      Committed hmac validate backend s c.request (s.call hmac validate backend c) := fun hne => hcases.resolve_left hne
  have hread : ∀ g, Stores hmac s (grantKey backend c.request.grant) g → validate (canonicalGrantPayload g) = some g := by
    intro g hg
    obtain ⟨g',haccepted,heq⟩ := hs _ _ hg
    have hsame : g = g' := canonicalGrantPayload_injective (congrArg GrantItem.data heq)
    rw [hsame]
    exact hround g' haccepted
  constructor
  · rcases hcases with heq | hc
    · exact .inl heq
    · exact .inr ⟨hc.records,hc.grants⟩
  · exact hs _
  · intro hne item hitem
    obtain ⟨_,hraw,hhash⟩ := (hcommitted hne).guarded item hitem
    exact prevRawData_expected hraw hhash
  · intro hne g hg htype
    obtain ⟨hcreating,hraw⟩ := (hcommitted hne).reads hg
    have hterm := (hcommitted hne).term hcreating
    rw [hraw] at hterm
    exact term_not_lengthened (hread g hg) htype hterm
  · intro hne g hg htype
    obtain ⟨_,hraw⟩ := (hcommitted hne).reads hg
    have hdrift := (hcommitted hne).reattestation
    rw [hraw] at hdrift
    exact reattestation_fields (hread g hg) htype hdrift
  · intro hne g hg htype
    obtain ⟨_,hraw⟩ := (hcommitted hne).reads hg
    have hlapse := (hcommitted hne).lapse
    rw [hraw] at hlapse
    exact (lapse_fields (hread g hg) htype hlapse).1

theorem grant_ledger_discipline (before : List WriteCall) (c : WriteCall)
    (hbefore : ∀ b ∈ before, b.request.grant.accepted isLabelLatency = true) :
    Discipline hmac isLabelLatency backend (GrantState.calls hmac validate backend before) c.request
      (GrantState.calls hmac validate backend (before ++ [c])) := by
  rw [calls_concat]
  exact discipline_call hround (genuine_calls hbefore) c

end Discipline

noncomputable def readGrant : String → Option GrantDocument := Function.partialInv canonicalGrantPayload

theorem readGrant_payload (g : GrantDocument) : readGrant (canonicalGrantPayload g) = some g :=
  Function.partialInv_left (fun _ _ => canonicalGrantPayload_injective) g

def termed : GrantDocument where
  principal := { agentId := "mailer", skill := "inbox", user := "sam", tier := .B }
  actionClass := "email.send"
  level := .onLoop
  envelopeHash := "e0"
  promotedBy := "local:owner"
  evidence := "seed"
  ts := "2026-01-01T00:00:00+00:00"
  lastSafeLevel := .inLoop
  demotionTriggers := [.budgetBreach]
  demotionReason := none
  labelLatency := "PT1H"
  ownerId := "sam"
  certifiedUntil := some "2026-10-01T00:00:00+00:00"

def demoted : GrantDocument :=
  { termed with level := .inLoop, ts := "2026-02-01T00:00:00+00:00", demotionReason := some .failing,
                certifiedUntil := some "2026-06-01T00:00:00+00:00" }

def seeding : WriteCall where
  request :=
    { record :=
        { recordType := .bootstrap, actionClass := "email.send", principal := termed.principal, fromLevel := none,
          toLevel := .onLoop, evidence := "seed", proposedBy := "local:owner", ratifiedBy := "local:owner",
          envelopeHash := "e0", ts := "2026-01-01T00:00:00+00:00" }
      grant := termed }

def demoting : WriteCall where
  request :=
    { record :=
        { recordType := .demotion, actionClass := "email.send", principal := termed.principal, fromLevel := some .onLoop,
          toLevel := .inLoop, evidence := "breach", proposedBy := "system:demotion-evaluator",
          ratifiedBy := "system:demotion-evaluator", envelopeHash := "e0", triggeredBy := ["budget_breach"],
          demotionReason := some .failing, ts := "2026-02-01T00:00:00+00:00" }
      grant := demoted
      expected :=
        some { grant := some termed, rawData := some (canonicalGrantPayload termed),
               storedHash := some (canonicalGrantPayload termed) } }

theorem seeding_commits : GrantState.calls id readGrant .memory [seeding] = applied id .memory {} seeding.request := by
  have hts : validateRecordTs seeding.request.record.ts = .ok () := by decide
  have hwrite : writeRecordAndGrant id readGrant .memory {} seeding.request = .ok (applied id .memory {} seeding.request) :=
    writeMemory_commits rfl rfl rfl hts rfl
  exact (calls_concat id readGrant .memory [] seeding).trans (call_commits (by decide) hwrite)

theorem demoting_commits :
    GrantState.calls id readGrant .memory [seeding,demoting] =
      applied id .memory (applied id .memory {} seeding.request) demoting.request := by
  have hts : validateRecordTs demoting.request.record.ts = .ok () := by decide
  have hfree : holdsKey (applied id .memory {} seeding.request).records (recordRow .memory demoting.request.record) = false := by
    simp [holdsKey,applied,setGrant,recordRow,recordSk,seeding,demoting,RecordType.text]
  have hshorter : extendsTerm termed.certifiedUntil demoted.certifiedUntil = .ok false := by decide
  have hstored : (applied id .memory {} seeding.request).grants (grantKey .memory demoted) = some (buildItem id termed) :=
    applied_stores id .memory {} seeding.request
  have hterm : refuseTermExtension readGrant (some (canonicalGrantPayload termed)) demoted .demotion = .ok () := by
    simp only [refuseTermExtension,Option.bind_some,readGrant_payload,hshorter]
    rfl
  have hcreating : demoting.request.creating = false := rfl
  have hraw : demoting.request.prevRawData = some (canonicalGrantPayload termed) := by
    rw [WriteRequest.prevRawData,hcreating]
    rfl
  have hhash : demoting.request.expectedHash = some (canonicalGrantPayload termed) := by
    rw [WriteRequest.expectedHash,hcreating]
    rfl
  have hleg : checkGrantLeg readGrant (some (buildItem id termed)) demoting.request = .ok () := by
    have hconditions : checkUpdateConditions (some (buildItem id termed)) demoting.request.grant
        (some (canonicalGrantPayload termed)) (some (canonicalGrantPayload termed)) = .ok () := by
      simp [checkUpdateConditions,buildItem]
    rw [checkGrantLeg,hcreating,hraw,hhash]
    exact then_ok.mpr ⟨hconditions,hterm⟩
  have hwrite : writeRecordAndGrant id readGrant .memory (applied id .memory {} seeding.request) demoting.request =
      .ok (applied id .memory (applied id .memory {} seeding.request) demoting.request) := by
    apply writeMemory_commits rfl _ rfl hts hfree
    exact hstored ▸ hleg
  have hlast := calls_concat id readGrant .memory [seeding] demoting
  rw [seeding_commits] at hlast
  exact hlast.trans (call_commits (by decide) hwrite)

theorem term_set_and_shortened_without_promotion :
    seeding.request.record.accepted = true ∧ demoting.request.record.accepted = true ∧
      seeding.request.record.recordType = .bootstrap ∧ demoting.request.record.recordType = .demotion ∧
      Stores id (GrantState.calls id readGrant .memory [seeding]) (grantKey .memory termed) termed ∧
      Stores id (GrantState.calls id readGrant .memory [seeding,demoting]) (grantKey .memory termed) demoted ∧
      termed.certifiedUntil = some "2026-10-01T00:00:00+00:00" ∧ demoted.certifiedUntil = some "2026-06-01T00:00:00+00:00" := by
  have hseed : seeding.request.record.accepted = true := by decide
  have hdemote : demoting.request.record.accepted = true := by decide
  refine ⟨hseed,hdemote,rfl,rfl,?_,?_,rfl,rfl⟩
  · rw [Stores,seeding_commits]
    exact applied_stores id .memory {} seeding.request
  · rw [Stores,demoting_commits]
    exact applied_stores id .memory (applied id .memory {} seeding.request) demoting.request

theorem grant_ledger_discipline_demoting :
    (∀ g : GrantDocument, g.accepted (fun _ => true) = true → readGrant (canonicalGrantPayload g) = some g) ∧
      Discipline id (fun _ => true) .memory (GrantState.calls id readGrant .memory [seeding]) demoting.request
        (GrantState.calls id readGrant .memory ([seeding] ++ [demoting])) := by
  have haccepted : termed.accepted (fun _ => true) = true := by decide
  refine ⟨fun g _ => readGrant_payload g,grant_ledger_discipline (fun g _ => readGrant_payload g) [seeding] demoting ?_⟩
  intro b hb
  rw [List.mem_singleton.mp hb]
  exact haccepted

end SafeAgents.Grants
