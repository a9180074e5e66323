import SafeAgents.Grants.Lapse

namespace SafeAgents.Grants

open Calendar Checked Interleaving PromotionRecord

-- A stored ts as an instant, or nothing where it names none.
def PromotionRecord.instant (r : PromotionRecord) : Option Int := (recordedInstant r).toOption

def termInstant (value : String) : Option Int := (parseCertifiedUntil value).toOption

def termLabel (term : Option String) : String := (term.map pyRepr).getD "no term"

def sortedTexts (texts : List String) : List String := texts.mergeSort fun a b => decide (a ≤ b)

def levelOrNone (level : Option AutonomyLevel) : String := (level.map AutonomyLevel.text).getD "no grant"

namespace LapseTerm

section Findings
variable (records : List PromotionRecord)

def promotions : List PromotionRecord := records.filter fun r => r.recordType = .promotion

def unreadablePromotions : List String :=
  sortedTexts (((promotions records).filter fun r => r.instant.isNone).map fun r => pyRepr r.ts)

def candidates : String :=
  if promotions records = [] then "there is no promotion record there"
  else "the promotion records there ratified " ++
    ", ".intercalate (sortedTexts ((promotions records).map fun r => termLabel r.certifiedUntil).eraseDups)

def located (lapse : PromotionRecord) (named : String) : String :=
  "lapse record ts=" ++ pyRepr lapse.ts ++ " (" ++ levelOrNone lapse.fromLevel ++ " -> " ++ lapse.toLevel.text ++
    ") names the term " ++ pyRepr named

def unreadableFinding (lapse : PromotionRecord) (named : String) (unreadable : List String) : String :=
  located lapse named ++ ", which cannot be held to the ledger: the ts " ++ ", ".intercalate unreadable ++
    " at its coordinate is not an instant, so the latest promotion record before it is not established (" ++
    candidates records ++ ")"

def afterStampFindings (lapse : PromotionRecord) (named : String) (instant : Int) : List String :=
  match termInstant named with
  | none => [located lapse named ++ ", which is not an explicit UTC instant"]
  | some term =>
    if term > instant then
      [located lapse named ++ ", which is later than the record's own ts: a lapse is written at or after the instant its " ++
        "term passed, so the term it names cannot follow the record"]
    else []

def earlierPromotions (instant : Int) : List (PromotionRecord × Int) :=
  (promotions records).filterMap fun r => r.instant.bind fun stamped => if stamped < instant then some (r,stamped) else none

def latestPromotions (instant latest : Int) : List PromotionRecord :=
  ((earlierPromotions records instant).filter fun p => p.2 = latest).map Prod.fst

def unratifiedFindings (lapse : PromotionRecord) (named : String) (instant : Int) : List String :=
  match ((earlierPromotions records instant).map Prod.snd).max? with
  | none =>
    [located lapse named ++ ", but no promotion record precedes it at its coordinate, so no term was ratified there and a " ++
      "lapse record carries none"]
  | some latest =>
    let ratified := ((latestPromotions records instant latest).map PromotionRecord.certifiedUntil).eraseDups
    if ratified ≠ [some named] then
      [located lapse named ++ ", but the latest promotion record before it (ts=" ++
        ", ".intercalate (sortedTexts ((latestPromotions records instant latest).map fun r => pyRepr r.ts)) ++ ") ratified " ++
        ", ".intercalate (sortedTexts (ratified.map termLabel)) ++
        "; a lapse record names the term that expired, which is the one the checker ratified"]
    else []

def findingsAgainst (lapse : PromotionRecord) : List String :=
  if lapse.recordType ≠ .lapse then []
  else
    match lapse.certifiedUntil with
    | none => []
    | some named =>
      match lapse.instant with
      | none => [unreadableFinding records lapse named (pyRepr lapse.ts :: unreadablePromotions records)]
      | some instant =>
        if unreadablePromotions records ≠ [] then [unreadableFinding records lapse named (unreadablePromotions records)]
        else afterStampFindings lapse named instant ++ unratifiedFindings records lapse named instant

end Findings

end LapseTerm

-- lapse_term_findings over every record at one coordinate
def lapseTermFindings (records : List PromotionRecord) : List String := records.flatMap (LapseTerm.findingsAgainst records)

structure AuditedRecord where
  record : PromotionRecord
  signature : Option Json
  rawData : Option String

def recordCoordinate (r : PromotionRecord) : String := r.principal.key ++ "#" ++ r.actionClass

def auditedRecords (s : CeremonyState) : List AuditedRecord :=
  s.store.records.filterMap fun row => (modelValidateJson row.data).map fun record =>
    { record, signature := s.signatures (row.pk,row.sk), rawData := some row.data }

-- One group of _records_by_coordinate, in sort-key order.
def recordsAt (entries : List AuditedRecord) (coordinate : String) : List AuditedRecord :=
  (entries.filter fun e => recordCoordinate e.record = coordinate).mergeSort fun a b =>
    decide (recordSk a.record ≤ recordSk b.record)

def ledgerAt (s : CeremonyState) (coordinate : String) : List PromotionRecord :=
  (recordsAt (auditedRecords s) coordinate).map AuditedRecord.record

def RatifiedTerm (records : List PromotionRecord) (named : String) : Prop :=
  ∃ p ∈ LapseTerm.promotions records, ∃ latest, p.instant = some latest ∧ p.certifiedUntil = some named ∧
    ∀ q ∈ LapseTerm.promotions records, ∃ stamped, q.instant = some stamped ∧ stamped ≤ latest ∧
      (stamped = latest → q.certifiedUntil = some named)

section Judged
variable {records : List PromotionRecord} {lapse : PromotionRecord} {named : String} {instant : Int}

theorem eraseDups_constant {α : Type} [BEq α] [LawfulBEq α] {l : List α} {c : α} (hne : l ≠ []) (h : ∀ a ∈ l, a = c) :
    l.eraseDups = [c] := by
  cases l with
  | nil => exact absurd rfl hne
  | cons a l =>
    have ha : a = c := h a List.mem_cons_self
    have hrest : (l.filter fun b => !b == a) = [] := by
      rw [List.filter_eq_nil_iff]
      intro b hb
      simp [h b (List.mem_cons_of_mem a hb),ha]
    rw [List.eraseDups_cons,hrest,ha]
    rfl

theorem unreadable_nil (h : ∀ q ∈ LapseTerm.promotions records, q.instant ≠ none) : LapseTerm.unreadablePromotions records = [] := by
  have hnone : ((LapseTerm.promotions records).filter fun r => r.instant.isNone) = [] := by
    rw [List.filter_eq_nil_iff]
    intro q hq hisnone
    exact h q hq (Option.isNone_iff_eq_none.mp hisnone)
  rw [LapseTerm.unreadablePromotions,hnone]
  simp [sortedTexts]

theorem mem_earlierPromotions {q : PromotionRecord × Int} :
    q ∈ LapseTerm.earlierPromotions records instant ↔
      q.1 ∈ LapseTerm.promotions records ∧ q.1.instant = some q.2 ∧ q.2 < instant := by
  obtain ⟨r,stamped⟩ := q
  simp only [LapseTerm.earlierPromotions,List.mem_filterMap,Option.bind_eq_some_iff,Option.ite_none_right_eq_some,Option.some.injEq,
    Prod.mk.injEq]
  constructor
  · rintro ⟨r',hr',stamped',hstamped,hlt,rfl,rfl⟩
    exact ⟨hr',hstamped,hlt⟩
  · rintro ⟨hr,hstamped,hlt⟩
    exact ⟨r,hr,stamped,hstamped,hlt,rfl,rfl⟩

theorem unratified_nil (h : RatifiedTerm records named)
    (hbefore : ∀ q ∈ LapseTerm.promotions records, ∀ u, q.instant = some u → u < instant) :
    LapseTerm.unratifiedFindings records lapse named instant = [] := by
  obtain ⟨p,hp,latest,hlatest,hnamed,hall⟩ := h
  have hpmem : (p,latest) ∈ LapseTerm.earlierPromotions records instant :=
    mem_earlierPromotions.mpr ⟨hp,hlatest,hbefore p hp latest hlatest⟩
  have hmax : ((LapseTerm.earlierPromotions records instant).map Prod.snd).max? = some latest := by
    rw [List.max?_eq_some_iff]
    refine ⟨List.mem_map.mpr ⟨_,hpmem,rfl⟩,?_⟩
    intro u hu
    obtain ⟨q,hq,rfl⟩ := List.mem_map.mp hu
    obtain ⟨hq,hqinstant,_⟩ := mem_earlierPromotions.mp hq
    obtain ⟨stamped,hstamped,hle,_⟩ := hall q.1 hq
    rw [hqinstant] at hstamped
    cases hstamped
    exact hle
  have hratified : ((LapseTerm.latestPromotions records instant latest).map PromotionRecord.certifiedUntil).eraseDups = [some named] := by
    apply eraseDups_constant
    · have hlast : p ∈ LapseTerm.latestPromotions records instant latest :=
        List.mem_map.mpr ⟨(p,latest),List.mem_filter.mpr ⟨hpmem,by simp⟩,rfl⟩
      intro hnil
      rw [List.map_eq_nil_iff] at hnil
      rw [hnil] at hlast
      cases hlast
    · intro term hterm
      obtain ⟨q,hq,rfl⟩ := List.mem_map.mp hterm
      obtain ⟨⟨r,u⟩,hr,rfl⟩ := List.mem_map.mp hq
      obtain ⟨hr,hu⟩ := List.mem_filter.mp hr
      obtain ⟨hr,hinstant,_⟩ := mem_earlierPromotions.mp hr
      obtain ⟨stamped,hstamped,_,hsame⟩ := hall r hr
      rw [hinstant] at hstamped
      cases hstamped
      exact hsame (by simpa using hu)
  rw [LapseTerm.unratifiedFindings,hmax]
  simp only [hratified,ne_eq,not_true_eq_false,if_false]

theorem wellFounded_of_ratified {term : Int} (htype : lapse.recordType = .lapse) (hnamed : lapse.certifiedUntil = some named)
    (hinstant : lapse.instant = some instant) (hterm : termInstant named = some term) (hpassed : term ≤ instant)
    (h : RatifiedTerm records named) (hbefore : ∀ q ∈ LapseTerm.promotions records, ∀ u, q.instant = some u → u < instant) :
    LapseTerm.findingsAgainst records lapse = [] := by
  have hreadable : LapseTerm.unreadablePromotions records = [] := by
    apply unreadable_nil
    intro q hq hnone
    obtain ⟨_,_,_,_,_,hall⟩ := h
    obtain ⟨stamped,hstamped,_⟩ := hall q hq
    rw [hnone] at hstamped
    cases hstamped
  simp only [LapseTerm.findingsAgainst,htype,hnamed,hinstant,hreadable,ne_eq,not_true_eq_false,if_false]
  rw [unratified_nil h hbefore,LapseTerm.afterStampFindings,hterm]
  simp [hpassed]

theorem passed_of_unflagged (htype : lapse.recordType = .lapse) (hnamed : lapse.certifiedUntil = some named)
    (h : LapseTerm.findingsAgainst records lapse = []) :
    ∃ instant term, lapse.instant = some instant ∧ termInstant named = some term ∧ term ≤ instant ∧
      ∃ p ∈ LapseTerm.promotions records, p.certifiedUntil = some named := by
  simp only [LapseTerm.findingsAgainst,htype,hnamed,ne_eq,not_true_eq_false,if_false] at h
  cases hinstant : lapse.instant with
  | none => simp [hinstant] at h
  | some instant =>
    simp only [hinstant] at h
    split at h
    · cases h
    · obtain ⟨hafter,hratified⟩ := List.append_eq_nil_iff.mp h
      refine ⟨instant,?_⟩
      rw [LapseTerm.afterStampFindings] at hafter
      split at hafter
      · cases hafter
      next term hterm =>
        split at hafter
        · cases hafter
        next hle =>
          refine ⟨term,rfl,hterm,Int.not_lt.mp hle,?_⟩
          rw [LapseTerm.unratifiedFindings] at hratified
          split at hratified
          · cases hratified
          next latest hlatest =>
            dsimp only at hratified
            split at hratified
            · cases hratified
            next hsame =>
              have hmem : some named ∈ ((LapseTerm.latestPromotions records instant latest).map
                  PromotionRecord.certifiedUntil).eraseDups := by
                rw [not_not.mp hsame]
                exact List.mem_singleton_self _
              obtain ⟨p,hp,hpnamed⟩ := List.mem_map.mp (List.mem_eraseDups.mp hmem)
              obtain ⟨q,hq,rfl⟩ := List.mem_map.mp hp
              exact ⟨q.1,(mem_earlierPromotions.mp (List.mem_filter.mp hq).1).1,hpnamed⟩

end Judged

section Written
variable {F : Type} {d : Deployment F} {s s' : CeremonyState} {g : GrantDocument} {now : Moment} {skew : Int} {ts : String}
  {sign : Option (PromotionRecord → Json)} {principal : Principal} {actionClass coordinate : String} {r : PromotionRecord}

theorem mem_ledgerAt :
    r ∈ ledgerAt s coordinate ↔
      (∃ row ∈ s.store.records, modelValidateJson row.data = some r) ∧ recordCoordinate r = coordinate := by
  simp only [ledgerAt,recordsAt,auditedRecords,List.mem_map,List.mem_mergeSort,List.mem_filter,List.mem_filterMap,
    Option.map_eq_some_iff,decide_eq_true_iff]
  constructor
  · rintro ⟨entry,⟨⟨row,hrow,record,hread,rfl⟩,hcoordinate⟩,rfl⟩
    exact ⟨⟨row,hrow,hread⟩,hcoordinate⟩
  · rintro ⟨⟨row,hrow,hread⟩,hcoordinate⟩
    exact ⟨⟨r,s.signatures (row.pk,row.sk),some row.data⟩,⟨⟨row,hrow,r,hread,rfl⟩,hcoordinate⟩,rfl⟩

theorem mem_ledgerAt_own (hs : OwnLedger d.backend s.store.records) :
    r ∈ ledgerAt s coordinate ↔ r.accepted = true ∧ recordRow d.backend r ∈ s.store.records ∧ recordCoordinate r = coordinate := by
  rw [mem_ledgerAt]
  constructor
  · rintro ⟨⟨row,hrow,hread⟩,hcoordinate⟩
    obtain ⟨q,_,haccepted,_,rfl⟩ := hs row hrow
    rw [recordRow,modelValidateJson_canonical haccepted] at hread
    cases hread
    exact ⟨haccepted,hrow,hcoordinate⟩
  · rintro ⟨haccepted,hrow,hcoordinate⟩
    exact ⟨⟨_,hrow,modelValidateJson_canonical haccepted⟩,hcoordinate⟩

theorem recordPk_coordinate (backend : RecordBackend) {a b : PromotionRecord} (h : recordCoordinate a = recordCoordinate b) :
    pkOf backend a = pkOf backend b := by
  have hjoined : a.principal.key ++ "#" ++ a.actionClass = b.principal.key ++ "#" ++ b.actionClass := h
  cases backend with
  | memory => exact hjoined
  | sqlite => simpa [pkOf,recordPk,String.append_assoc] using hjoined
  | dynamo => simpa [pkOf,recordPk,String.append_assoc] using hjoined

theorem ratified_of_mem {records records' : List PromotionRecord} {named : String}
    (h : ∀ q, q ∈ LapseTerm.promotions records' ↔ q ∈ LapseTerm.promotions records) (hratified : RatifiedTerm records named) :
    RatifiedTerm records' named := by
  obtain ⟨p,hp,latest,hlatest,hnamed,hall⟩ := hratified
  exact ⟨p,(h p).mpr hp,latest,hlatest,hnamed,fun q hq => hall q ((h q).mp hq)⟩

theorem ledgerAt_appended (haccepted : r.accepted = true)
    (hrecords : s'.store.records = s.store.records ++ [recordRow d.backend r]) {q : PromotionRecord} :
    q ∈ ledgerAt s' (recordCoordinate r) ↔ q ∈ ledgerAt s (recordCoordinate r) ∨ q = r := by
  rw [mem_ledgerAt,mem_ledgerAt,hrecords]
  constructor
  · rintro ⟨⟨row,hrow,hread⟩,hcoordinate⟩
    rcases List.mem_append.mp hrow with hold | hnew
    · exact .inl ⟨⟨row,hold,hread⟩,hcoordinate⟩
    · rw [List.mem_singleton.mp hnew,recordRow,modelValidateJson_canonical haccepted] at hread
      exact .inr (Option.some.inj hread).symm
  · rintro (⟨⟨row,hrow,hread⟩,hcoordinate⟩ | rfl)
    · exact ⟨⟨row,List.mem_append_left _ hrow,hread⟩,hcoordinate⟩
    · exact ⟨⟨_,List.mem_append_right _ (List.mem_singleton_self _),modelValidateJson_canonical haccepted⟩,rfl⟩

theorem stamped_before (hs : OwnLedger d.backend s.store.records) {now : Reading} {t : Int} {q : PromotionRecord}
    (hstamps : Stamps d.backend s.store.records r.principal r.actionClass now t) (hq : q ∈ ledgerAt s (recordCoordinate r)) :
    ∃ u, q.instant = some u ∧ u < t := by
  obtain ⟨haccepted,hrow,hcoordinate⟩ := (mem_ledgerAt_own hs).mp hq
  obtain ⟨records,hlist,hall⟩ := listRecords_own hs.recordRows r.principal r.actionClass
  obtain ⟨records',hlist',hlater⟩ := hstamps.later
  rw [hlist] at hlist'
  cases hlist'
  obtain ⟨u,hu,hlt⟩ := hlater q ((hall q).mpr ⟨haccepted,hrow,recordPk_coordinate d.backend hcoordinate⟩)
  exact ⟨u,by rw [PromotionRecord.instant,hu]; rfl,hlt⟩

theorem instant_stamped {t : Int} (h : StampedAt r t) : r.instant = some t := by
  rw [PromotionRecord.instant,recordedInstant_stamped h]
  rfl

theorem wallClock_reading (now : Moment) : wallClock (Moment.reading now) = .ok now.1 := by
  simp [Moment.reading,wallClock,toUtc,Datetime.instant?,now.2]

theorem termInstant_of_parse {named : String} {term : Int} (h : parseCertifiedUntil named = .ok term) : termInstant named = some term := by
  rw [termInstant,h]
  rfl

structure Judged (s s' : CeremonyState) (now : Moment) (skew : Int) (record : PromotionRecord) (named : String) (term stamp : Int) :
    Prop where
  listed : record ∈ ledgerAt s' (recordCoordinate record)
  type : record.recordType = .lapse
  names : record.certifiedUntil = some named
  parsed : termInstant named = some term
  stamped : record.instant = some stamp
  after : now.1 ≤ stamp
  due : term ≤ now.1 + skew
  wellFounded : RatifiedTerm (ledgerAt s (recordCoordinate record)) named → term ≤ stamp →
    LapseTerm.findingsAgainst (ledgerAt s' (recordCoordinate record)) record = []

theorem lapse_judged (hs : OwnLedger d.backend s.store.records) (h : Lapses d s principal actionClass g now skew sign ts s') :
    ∃ named term stamp, g.certifiedUntil = some named ∧ Judged s s' now skew (lapseRecord g ts) named term stamp := by
  obtain ⟨⟨named,hnamed⟩,hpassed,_⟩ := lapse_due h.pending
  obtain ⟨term,hterm,_,_,hdue⟩ := termPassed_some hnamed hpassed
  obtain ⟨stamp,hiso,hstamps⟩ := nextLedgerTs_stamps h.lowers.stamp
  have hstamped : (lapseRecord g ts).instant = some stamp := instant_stamped ⟨hstamps.representable,hiso⟩
  have hafter : now.1 ≤ stamp := by
    obtain ⟨wall,hwall,hle⟩ := hstamps.reading
    rw [wallClock_reading] at hwall
    cases hwall
    exact hle
  have happended : ∀ q, q ∈ ledgerAt s' (recordCoordinate (lapseRecord g ts)) ↔
      q ∈ ledgerAt s (recordCoordinate (lapseRecord g ts)) ∨ q = lapseRecord g ts := fun q =>
    ledgerAt_appended (d := d) h.accepted h.lowers.effect.2.1
  have hpromotions : ∀ q, q ∈ LapseTerm.promotions (ledgerAt s' (recordCoordinate (lapseRecord g ts))) ↔
      q ∈ LapseTerm.promotions (ledgerAt s (recordCoordinate (lapseRecord g ts))) := by
    intro q
    simp only [LapseTerm.promotions,List.mem_filter,happended q,decide_eq_true_iff]
    constructor
    · rintro ⟨hq | rfl,htype⟩
      · exact ⟨hq,htype⟩
      · cases htype
    · rintro ⟨hq,htype⟩
      exact ⟨.inl hq,htype⟩
  refine ⟨named,term,stamp,hnamed,(happended _).mpr (.inr rfl),rfl,hnamed,termInstant_of_parse hterm,hstamped,hafter,hdue.mp rfl,?_⟩
  intro hratified hbefore
  apply wellFounded_of_ratified rfl hnamed hstamped (termInstant_of_parse hterm) hbefore (ratified_of_mem hpromotions hratified)
  intro q hq u hu
  have hold := List.mem_of_mem_filter ((hpromotions q).mp hq)
  obtain ⟨v,hv,hlt⟩ := stamped_before hs (r := lapseRecord g ts) hstamps hold
  rw [hu] at hv
  cases hv
  exact hlt

def NoTermPassed (records : List PromotionRecord) (lapse : PromotionRecord) (skew : Int) : Prop :=
  ∀ instant, lapse.instant = some instant → ∀ p ∈ LapseTerm.promotions records, ∀ ratified term,
    p.certifiedUntil = some ratified → termInstant ratified = some term → instant + skew < term

theorem flagged_of_noTermPassed {records : List PromotionRecord} {lapse : PromotionRecord} {named : String} (hskew : 0 ≤ skew)
    (htype : lapse.recordType = .lapse) (hnamed : lapse.certifiedUntil = some named) (h : NoTermPassed records lapse skew) :
    LapseTerm.findingsAgainst records lapse ≠ [] := by
  intro hnil
  obtain ⟨instant,term,hinstant,hterm,hle,p,hp,hratified⟩ := passed_of_unflagged htype hnamed hnil
  have hlt := h instant hinstant p hp named term hratified hterm
  omega

theorem flagged_of_unratified {records : List PromotionRecord} {lapse : PromotionRecord} {named : String}
    (htype : lapse.recordType = .lapse) (hnamed : lapse.certifiedUntil = some named)
    (h : ∀ p ∈ LapseTerm.promotions records, p.certifiedUntil ≠ some named) : LapseTerm.findingsAgainst records lapse ≠ [] := by
  intro hnil
  obtain ⟨_,_,_,_,_,p,hp,hratified⟩ := passed_of_unflagged htype hnamed hnil
  exact h p hp hratified

theorem unjudged_of_termless {records : List PromotionRecord} {lapse : PromotionRecord} (h : lapse.certifiedUntil = none) :
    LapseTerm.findingsAgainst records lapse = [] := by
  simp [LapseTerm.findingsAgainst,h]

end Written

theorem lapse_term_agreement {F : Type} (d : Deployment F) :
    (∀ (s : CeremonyState) (principal : Principal) (actionClass : String) (now : Moment) (skew : Int)
        (sign : Option (PromotionRecord → Json)) (outcome : LapseOutcome) (record : PromotionRecord),
      OwnLedger d.backend s.store.records →
      ((runLapse principal actionClass now skew sign : Ceremony F _).exec d.perform s).1 = .ok outcome →
      outcome.record = some record →
      ∃ g named term stamp, Holds d s principal actionClass g ∧ g.certifiedUntil = some named ∧
        Judged s ((runLapse principal actionClass now skew sign : Ceremony F _).exec d.perform s).2 now skew record named term
          stamp) ∧
    (∀ (records : List PromotionRecord) (lapse : PromotionRecord) (named : String),
      lapse ∈ records → lapse.recordType = .lapse → lapse.certifiedUntil = some named →
      (∃ skew, 0 ≤ skew ∧ NoTermPassed records lapse skew) ∨
        (∀ p ∈ LapseTerm.promotions records, p.certifiedUntil ≠ some named) →
      ∃ finding ∈ LapseTerm.findingsAgainst records lapse, finding ∈ lapseTermFindings records) ∧
    ∀ (records : List PromotionRecord) (lapse : PromotionRecord), lapse.certifiedUntil = none →
      LapseTerm.findingsAgainst records lapse = [] := by
  refine ⟨?_,?_,fun records lapse => unjudged_of_termless⟩
  · intro s principal actionClass now skew sign outcome record hs hrun hrecord
    rcases runLapse_cases (F := F) (d := d) (s := s) principal actionClass now skew sign with
      ⟨_,hquiet⟩ | ⟨g,ts,s',outcome',hlapses,hexec,_,hwritten,_⟩
    · have hnone := (hquiet outcome hrun).2
      rw [hrecord] at hnone
      cases hnone
    · rw [hexec] at hrun ⊢
      cases hrun
      rw [hrecord] at hwritten
      cases hwritten
      obtain ⟨named,term,stamp,hnamed,hjudged⟩ := lapse_judged hs hlapses
      exact ⟨g,named,term,stamp,hlapses.read,hnamed,hjudged⟩
  · intro records lapse named hmem htype hnamed hcause
    have hflagged : LapseTerm.findingsAgainst records lapse ≠ [] := by
      rcases hcause with ⟨skew,hskew,hnone⟩ | hunratified
      · exact flagged_of_noTermPassed hskew htype hnamed hnone
      · exact flagged_of_unratified htype hnamed hunratified
    obtain ⟨finding,hfinding⟩ := List.exists_mem_of_ne_nil _ hflagged
    exact ⟨finding,hfinding,List.mem_flatMap.mpr ⟨lapse,hmem,hfinding⟩⟩

namespace Certified

def desk : Deployment Int where
  backend := .memory
  hmac := id
  isLabelLatency := fun _ => true
  fmt := Wire.wholeFloats
  lax := Wire.noCoercion

def term : String := "2026-10-01T00:00:00+00:00"

def grant : GrantDocument where
  principal := { agentId := "mailer", skill := "inbox", user := "sam", tier := .B }
  actionClass := "email.send"
  level := .onLoop
  envelopeHash := "e0"
  promotedBy := "iam:checker"
  evidence := "bundle-1"
  ts := "2026-01-01T00:00:00+00:00"
  lastSafeLevel := .inLoop
  demotionTriggers := [.budgetBreach]
  demotionReason := none
  labelLatency := "PT1H"
  ownerId := "sam"
  certifiedUntil := some term

def promotion : PromotionRecord where
  actionClass := "email.send"
  principal := grant.principal
  fromLevel := some .inLoop
  toLevel := .onLoop
  evidence := "bundle-1"
  predicate := some "eligible"
  proposedBy := "iam:maker"
  ratifiedBy := "iam:checker"
  envelopeHash := "e0"
  ts := "2026-01-01T00:00:00+00:00"
  certifiedUntil := some term

def bootstrap : PromotionRecord :=
  { promotion with recordType := .bootstrap, fromLevel := none, predicate := none, certifiedUntil := none }

def ledgerOf (r : PromotionRecord) : CeremonyState where
  store :=
    { records := [recordRow .memory r]
      grants := Function.update (fun _ => none) (grantKey .memory grant) (some (buildItem id grant)) }

def state : CeremonyState := ledgerOf promotion

def seeded : CeremonyState := ledgerOf bootstrap

-- 2026-10-01T00:00:00Z, and half a minute before it
def boundary : Moment := ⟨1790812800000000,by decide⟩

def early : Moment := ⟨1790812770000000,by decide⟩

def promotedAt : Int := 1767225600000000

theorem promotion_accepted : promotion.accepted = true := by decide

theorem promotion_stamped : StampedAt promotion promotedAt := ⟨by decide,by decide⟩

theorem bootstrap_accepted : bootstrap.accepted = true := by decide

theorem bootstrap_stamped : StampedAt bootstrap promotedAt := ⟨by decide,by decide⟩

theorem grant_accepted : grant.accepted desk.isLabelLatency = true := by decide

section Ledgers
variable {r : PromotionRecord} (haccepted : r.accepted = true) (hstamped : StampedAt r promotedAt)
include haccepted hstamped

theorem own : OwnLedger .memory (ledgerOf r).store.records :=
  fun _ hrow => ⟨r,promotedAt,haccepted,hstamped,List.mem_singleton.mp hrow⟩

theorem intact : Intact desk (ledgerOf r) :=
  ⟨(kept_one (d := desk) grant_accepted (own haccepted hstamped).recordRows).rows,own haccepted hstamped⟩

theorem stamp (hpk : pkOf .memory r = recordPk .memory grant.principal grant.actionClass) (now : Moment) (h : promotedAt < now.1) :
    nextLedgerTs .memory modelValidateJson (ledgerOf r).store.records grant.principal grant.actionClass (Moment.reading now) =
      .ok (isoformat now.1) := by
  have hread : listRecords .memory modelValidateJson (ledgerOf r).store.records grant.principal grant.actionClass = .ok [r] :=
    listRecords_one haccepted hpk
  have hrecorded : [r].mapM recordedInstant = .ok [promotedAt] := by
    rw [List.mapM_cons,recordedInstant_stamped hstamped]
    rfl
  have hnext : advance now.1 [promotedAt] = .ok now.1 := by
    have hroom : Representable (promotedAt + ledgerTsTick) := by decide
    have hmax : max now.1 (promotedAt + ledgerTsTick) = now.1 := Int.max_eq_left (by simp only [ledgerTsTick]; omega)
    simp [advance,hroom,hmax]
  rw [nextLedgerTs,bind_of_ok (wallClock_reading now),bind_of_ok hread,bind_of_ok hrecorded,bind_of_ok hnext]
  rfl

theorem only_record {coordinate : String} {q : PromotionRecord} (hq : q ∈ ledgerAt (ledgerOf r) coordinate) : q = r := by
  obtain ⟨_,hrow,_⟩ := (mem_ledgerAt_own (d := desk) (own haccepted hstamped)).mp hq
  have hdata : canonicalRecordPayload q = canonicalRecordPayload r := congrArg RecordRow.data (List.mem_singleton.mp hrow)
  exact canonicalRecordPayload_injective hdata

end Ledgers

theorem holds (r : PromotionRecord) : Holds desk (ledgerOf r) grant.principal grant.actionClass grant :=
  holds_one (d := desk) grant_accepted

theorem ratified : RatifiedTerm (ledgerAt state (recordCoordinate promotion)) term := by
  have hown : OwnLedger .memory state.store.records := own promotion_accepted promotion_stamped
  have hmem : promotion ∈ LapseTerm.promotions (ledgerAt state (recordCoordinate promotion)) :=
    List.mem_filter.mpr ⟨(mem_ledgerAt_own (d := desk) hown).mpr ⟨promotion_accepted,List.mem_singleton_self _,rfl⟩,rfl⟩
  refine ⟨promotion,hmem,promotedAt,instant_stamped promotion_stamped,rfl,?_⟩
  intro q hq
  obtain rfl := only_record promotion_accepted promotion_stamped (List.mem_of_mem_filter hq)
  exact ⟨promotedAt,instant_stamped promotion_stamped,Int.le_refl _,fun _ => rfl⟩

theorem pending_boundary : grant.lapsePending boundary 0 = .ok true := by decide

theorem pending_early : grant.lapsePending early 60000000 = .ok true := by decide

def termless : PromotionRecord := { lapseRecord grant "2026-02-01T00:00:00+00:00" with certifiedUntil := none }

theorem lapse_term_agreement_boundary :
    (∃ outcome record s', (runLapse grant.principal grant.actionClass boundary 0 none : Ceremony Int _).exec desk.perform state =
        (.ok outcome,s') ∧ outcome.record = some record ∧ OwnLedger .memory state.store.records ∧
      LapseTerm.findingsAgainst (ledgerAt s' (recordCoordinate record)) record = []) ∧
    (∃ finding ∈ LapseTerm.findingsAgainst [bootstrap,lapseRecord grant term] (lapseRecord grant term),
      finding ∈ lapseTermFindings [bootstrap,lapseRecord grant term]) ∧
    LapseTerm.findingsAgainst [promotion,termless] termless = [] := by
  have hown : OwnLedger .memory state.store.records := own promotion_accepted promotion_stamped
  obtain ⟨written,unratified,unjudged⟩ := lapse_term_agreement desk
  refine ⟨?_,?_,unjudged _ _ rfl⟩
  · obtain ⟨s',outcome,_,hexec,_,hrecord,_⟩ := runLapse_lands none (intact promotion_accepted promotion_stamped) (holds promotion)
      pending_boundary (stamp promotion_accepted promotion_stamped rfl boundary (by decide))
    obtain ⟨g,named,termAt,stampAt,hread,hterm,hjudged⟩ := written state grant.principal grant.actionClass boundary 0 none
      outcome _ hown (congrArg Prod.fst hexec) hrecord
    have hafterRun : ((runLapse grant.principal grant.actionClass boundary 0 none : Ceremony Int _).exec desk.perform state).2 = s' :=
      congrArg Prod.snd hexec
    rw [hafterRun] at hjudged
    have hnamed : some term = some named := hjudged.names
    cases hnamed
    have hpassed : termAt ≤ stampAt := by
      have hdue := hjudged.due
      have hafter := hjudged.after
      omega
    exact ⟨outcome,_,s',hexec,hrecord,hown,hjudged.wellFounded ratified hpassed⟩
  · refine unratified [bootstrap,lapseRecord grant term] (lapseRecord grant term) term (by simp) rfl rfl (.inr ?_)
    have hnone : LapseTerm.promotions [bootstrap,lapseRecord grant term] = [] := by decide
    intro p hp
    rw [hnone] at hp
    cases hp

theorem skewed_lapse_flagged :
    ∃ outcome record s', (runLapse grant.principal grant.actionClass early 60000000 none : Ceremony Int _).exec desk.perform state =
        (.ok outcome,s') ∧ outcome.status = .lapsed ∧ outcome.record = some record ∧ OwnLedger .memory state.store.records ∧
      RatifiedTerm (ledgerAt state (recordCoordinate record)) term ∧
      LapseTerm.findingsAgainst (ledgerAt s' (recordCoordinate record)) record ≠ [] := by
  obtain ⟨s',outcome,_,hexec,hstatus,hrecord,_⟩ := runLapse_lands none (intact promotion_accepted promotion_stamped)
    (holds promotion) pending_early (stamp promotion_accepted promotion_stamped rfl early (by decide))
  refine ⟨outcome,_,s',hexec,hstatus,hrecord,own promotion_accepted promotion_stamped,ratified,?_⟩
  intro hnil
  obtain ⟨instant,termAt,hinstant,hterm,hle,_⟩ := passed_of_unflagged rfl (show _ = some term from rfl) hnil
  have hstamped : instant = early.1 := by
    have hread := instant_stamped (r := lapseRecord grant (isoformat early.1)) ⟨early.2,rfl⟩
    rw [hread] at hinstant
    exact (Option.some.inj hinstant).symm
  have hparsed : termInstant term = some boundary.1 := by decide
  rw [hparsed] at hterm
  cases hterm
  rw [hstamped] at hle
  exact absurd hle (by decide)

theorem seeded_lapse_flagged :
    ∃ outcome record s', (runLapse grant.principal grant.actionClass boundary 0 none : Ceremony Int _).exec desk.perform seeded =
        (.ok outcome,s') ∧ outcome.status = .lapsed ∧ outcome.record = some record ∧ OwnLedger .memory seeded.store.records ∧
      LapseTerm.findingsAgainst (ledgerAt s' (recordCoordinate record)) record ≠ [] := by
  obtain ⟨s',outcome,hlapses,hexec,hstatus,hrecord,_⟩ := runLapse_lands none (intact bootstrap_accepted bootstrap_stamped)
    (holds bootstrap) pending_boundary (stamp bootstrap_accepted bootstrap_stamped rfl boundary (by decide))
  refine ⟨outcome,_,s',hexec,hstatus,hrecord,own bootstrap_accepted bootstrap_stamped,?_⟩
  apply flagged_of_unratified rfl (show _ = some term from rfl)
  intro p hp
  obtain ⟨hlisted,htype⟩ := List.mem_filter.mp hp
  rcases (ledgerAt_appended (d := desk) hlapses.accepted hlapses.lowers.effect.2.1).mp hlisted with hold | rfl
  · obtain rfl := only_record bootstrap_accepted bootstrap_stamped hold
    exact absurd htype (by decide)
  · exact absurd htype (by decide)

theorem termless_unpassed : NoTermPassed [promotion,termless] termless 0 := by
  intro instant hinstant p hp ratified termAt hratified hterm
  have hat : termless.instant = some 1769904000000000 := by decide
  rw [hat] at hinstant
  cases hinstant
  have hpromotion : p = promotion := by
    have honly : LapseTerm.promotions [promotion,termless] = [promotion] := by decide
    rw [honly] at hp
    exact List.mem_singleton.mp hp
  subst hpromotion
  cases hratified
  have hparsed : termInstant term = some boundary.1 := by decide
  rw [hparsed] at hterm
  cases hterm
  decide

theorem early_lapse_flagged :
    (∃ outcome record s', (runLapse grant.principal grant.actionClass early 60000000 none : Ceremony Int _).exec desk.perform state =
        (.ok outcome,s') ∧ outcome.status = .lapsed ∧ outcome.record = some record ∧ OwnLedger .memory state.store.records ∧
      RatifiedTerm (ledgerAt state (recordCoordinate record)) term ∧
      LapseTerm.findingsAgainst (ledgerAt s' (recordCoordinate record)) record ≠ []) ∧
    (∃ outcome record s', (runLapse grant.principal grant.actionClass boundary 0 none : Ceremony Int _).exec desk.perform seeded =
        (.ok outcome,s') ∧ outcome.status = .lapsed ∧ outcome.record = some record ∧ OwnLedger .memory seeded.store.records ∧
      LapseTerm.findingsAgainst (ledgerAt s' (recordCoordinate record)) record ≠ []) ∧
    NoTermPassed [promotion,termless] termless 0 ∧ lapseTermFindings [promotion,termless] = [] :=
  ⟨skewed_lapse_flagged,seeded_lapse_flagged,termless_unpassed,by decide⟩

end Certified

end SafeAgents.Grants
