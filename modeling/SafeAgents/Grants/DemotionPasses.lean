import SafeAgents.Grants.Demotion
import SafeAgents.Grants.LapseAudit

namespace SafeAgents.Grants

open Calendar Checked Interleaving PromotionRecord

section Lowered
variable {g : GrantDocument} {result : DemotionResult} {triggered : List DemotionTrigger} {ts : String}

theorem demotedLevel_rank (g : GrantDocument) : autonomyRank (demotedLevel g) = min (autonomyRank g.level) (autonomyRank g.lastSafeLevel) := by
  rw [demotedLevel,demotionTargetLevel]
  split
  next h => rw [Nat.min_eq_left h]
  next h => rw [Nat.min_eq_right (by omega)]

theorem demotedGrant_floor (g : GrantDocument) (triggered : List DemotionTrigger) (ts : String) :
    autonomyRank (demotedGrant g triggered ts).level ≤ autonomyRank (demotedGrant g triggered ts).lastSafeLevel := by
  show autonomyRank (demotedLevel g) ≤ autonomyRank (if demotedLevel g = g.level ∨ g.level = .outOfLoop then g.lastSafeLevel else g.level)
  rw [demotedLevel_rank]
  split
  · exact Nat.min_le_right _ _
  · exact Nat.min_le_left _ _

theorem demotedLevel_supervised (hsafe : g.lastSafeLevel ≠ .outOfLoop) : demotedLevel g ≠ .outOfLoop := by
  intro hout
  have hrank := demotedLevel_rank g
  have htop : autonomyRank .outOfLoop = 2 := rfl
  rw [hout,htop] at hrank
  have hlast : autonomyRank g.lastSafeLevel < 2 := by
    cases hlevel : g.lastSafeLevel with
    | inLoop => decide
    | onLoop => decide
    | outOfLoop => exact absurd hlevel hsafe
  have hmin := Nat.min_le_right (autonomyRank g.level) (autonomyRank g.lastSafeLevel)
  omega

theorem demotedGrant_accepted {isLabelLatency : String → Bool} (h : g.accepted isLabelLatency = true) (triggered : List DemotionTrigger)
    (ts : String) : (demotedGrant g triggered ts).accepted isLabelLatency = true := by
  obtain ⟨hterm,hsafe,hlatency⟩ := accepted_parts h
  simp only [GrantDocument.accepted,demotedGrant,Bool.and_eq_true]
  refine ⟨⟨hterm,decide_eq_true ?_⟩,hlatency⟩
  split
  · exact hsafe
  next hchanged => exact fun hout => hchanged (.inr hout)

theorem demotionRecord_accepted (hsafe : g.lastSafeLevel ≠ .outOfLoop) (hfired : result.triggeredBy ≠ []) (ts : String) :
    (demotionRecord g result ts).accepted = true := by
  have hrank : autonomyRank (demotedLevel g) ≤ autonomyRank g.level := by
    rw [demotedLevel_rank]
    exact Nat.min_le_left _ _
  simp [accepted,demotionRecord,shapeRulesPerRecordType,noRaise,demotedLevel_supervised hsafe,hfired,hrank]

theorem evaluate_fired {tripped : List DemotionTrigger} (h : (evaluateDemotionTriggers g tripped).shouldDemote = true) :
    (evaluateDemotionTriggers g tripped).triggeredBy ≠ [] := by
  rw [evaluateDemotionTriggers] at h ⊢
  split at h
  · cases h
  next hfired =>
    rw [if_neg hfired]
    exact hfired

theorem demotion_lowering (g : GrantDocument) (result : DemotionResult) (ts : String) :
    LoweringOf g (demotedGrant g result.triggeredBy ts) (demotionRecord g result ts) ts where
  principal := rfl
  actionClass := rfl
  term := rfl
  recordPrincipal := rfl
  recordClass := rfl
  recordTs := rfl
  notReattestation := by simp [demotionRecord]
  lapse := fun h => by simp [demotionRecord] at h

end Lowered

section Ledger
variable {backend : RecordBackend} {table : RecordTable} {principal : Principal} {actionClass : String} {now : Reading} {ts : String}

theorem listRecordsWith_own (h : RecordRows backend table) (principal : Principal) (actionClass day : String) :
    ∃ records, listRecordsWith backend table principal actionClass (some day) = .ok records ∧
      ∀ r, r ∈ records ↔ r.accepted = true ∧ recordRow backend r ∈ table ∧
        pkOf backend r = recordPk backend principal actionClass ∧ (recordSk r).startsWith day = true := by
  have hmem : ∀ row, row ∈ (partition table (recordPk backend principal actionClass)).filter (fun row => (some day).all fun p => row.sk.startsWith p) ↔
      row ∈ table ∧ row.pk = recordPk backend principal actionClass ∧ row.sk.startsWith day = true := by
    intro row
    rw [List.mem_filter,mem_partition,and_assoc]
    rfl
  have hparse : ∀ row ∈ (partition table (recordPk backend principal actionClass)).filter (fun row => (some day).all fun p => row.sk.startsWith p),
      ∃ r, parseRow modelValidateJson row = .ok r := by
    intro row hrow
    obtain ⟨r,haccepted,rfl⟩ := h row ((hmem row).mp hrow).1
    exact ⟨r,parseRow_own haccepted⟩
  obtain ⟨records,hlist,hmap⟩ := mapM_ok hparse
  refine ⟨records,hlist,fun r => ?_⟩
  rw [mem_of_mapM hmap]
  constructor
  · rintro ⟨row,hrow,hread⟩
    obtain ⟨htable,hpk,hstarts⟩ := (hmem row).mp hrow
    obtain ⟨q,haccepted,rfl⟩ := h row htable
    rw [parseRow_own haccepted] at hread
    cases hread
    exact ⟨haccepted,htable,hpk,hstarts⟩
  · rintro ⟨haccepted,htable,hpk,hstarts⟩
    exact ⟨recordRow backend r,(hmem _).mpr ⟨htable,hpk,hstarts⟩,parseRow_own haccepted⟩

theorem nextLedgerTs_wall {now' : Reading} (h : wallClock now = wallClock now') :
    nextLedgerTs backend modelValidateJson table principal actionClass now =
      nextLedgerTs backend modelValidateJson table principal actionClass now' := by
  rw [nextLedgerTs,nextLedgerTs,h]

def RecordedBefore (backend : RecordBackend) (table : RecordTable) (principal : Principal) (actionClass : String) (bound : Int) : Prop :=
  ∀ r, r.accepted = true → recordRow backend r ∈ table → pkOf backend r = recordPk backend principal actionClass →
    ∃ t, recordedInstant r = .ok t ∧ Representable t ∧ t < bound

theorem instants_before (hrows : RecordRows backend table) {bound : Int}
    (hbefore : RecordedBefore backend table principal actionClass bound) :
    ∃ records recorded, listRecords backend modelValidateJson table principal actionClass = .ok records ∧
      records.mapM recordedInstant = .ok recorded ∧ ∀ t ∈ recorded, Representable t ∧ t < bound := by
  obtain ⟨records,hlist,hall⟩ := listRecords_own hrows principal actionClass
  have hinstant : ∀ r ∈ records, ∃ t, recordedInstant r = .ok t ∧ Representable t ∧ t < bound := by
    intro r hr
    obtain ⟨haccepted,htable,hpk⟩ := (hall r).mp hr
    exact hbefore r haccepted htable hpk
  obtain ⟨recorded,hmapM,hmap⟩ := mapM_ok fun r hr => (hinstant r hr).imp fun _ h => h.1
  refine ⟨records,recorded,hlist,hmapM,fun t ht => ?_⟩
  obtain ⟨r,hr,hread⟩ := (mem_of_mapM hmap).mp ht
  obtain ⟨u,hu,hrep,hlt⟩ := hinstant r hr
  rw [hu] at hread
  cases hread
  exact ⟨hrep,hlt⟩

theorem stamp_exists (now : Reading) (hrows : RecordRows backend table) (hbefore : RecordedBefore backend table principal actionClass maxInstant)
    {wall : Int} (hwall : wallClock now = .ok wall) :
    ∃ ts, nextLedgerTs backend modelValidateJson table principal actionClass now = .ok ts := by
  obtain ⟨records,recorded,hlist,hmap,hall⟩ := instants_before hrows hbefore
  obtain ⟨next,hnext⟩ := advance_lands wall hall
  refine ⟨isoformat next,?_⟩
  rw [nextLedgerTs,bind_of_ok hwall,bind_of_ok hlist,bind_of_ok hmap,bind_of_ok hnext]
  rfl

theorem advance_below {wall next bound : Int} {recorded : List Int} (h : advance wall recorded = .ok next) (hwall : wall < bound)
    (hall : ∀ t ∈ recorded, t + ledgerTsTick < bound) : next < bound := by
  rw [advance] at h
  split at h
  · cases h
    exact hwall
  next last hlast =>
    split at h
    · cases h
      exact Int.max_lt.mpr ⟨hwall,hall last (List.max?_eq_some_iff.mp hlast).1⟩
    · cases h

theorem stamp_on_day (hrows : RecordRows backend table) {day wall : Int}
    (hbefore : RecordedBefore backend table principal actionClass ((day + 1) * microsPerDay - 1))
    (hwall : wallClock now = .ok wall) (hday : wall / microsPerDay = day)
    (h : nextLedgerTs backend modelValidateJson table principal actionClass now = .ok ts) :
    ∃ t, ts = isoformat t ∧ Representable t ∧ t / microsPerDay = day := by
  obtain ⟨records,recorded,hlist,hmap,hall⟩ := instants_before hrows hbefore
  rw [nextLedgerTs,bind_of_ok hwall,bind_of_ok hlist,bind_of_ok hmap] at h
  obtain ⟨next,hnext,hend⟩ := bind_ok.mp h
  have hbelow : next < (day + 1) * microsPerDay := by
    refine advance_below hnext ?_ fun t ht => ?_
    · have hpos : (0 : Int) < microsPerDay := by decide
      exact Int.lt_mul_of_ediv_lt hpos (by omega)
    · have hlt := (hall t ht).2
      rw [ledgerTsTick]
      omega
  have hafter := advance_wall hnext
  have hnextday : next / microsPerDay = day := by
    simp only [microsPerDay,microsPerSecond] at hday hbelow ⊢
    omega
  exact ⟨next,(pure_ok.mp hend).symm,(advance_ok (wallClock_ok hwall) hnext).1,hnextday⟩

theorem isoformat_startsWith (t : Int) (rest : String) : (isoformat t ++ rest).startsWith (dayText t) = true := by
  refine String.startsWith_string_iff.mpr ?_
  rw [String.toList_append,isoformat_toList,dayText,String.toList_ofList,secondChars,dateOf,List.append_assoc,List.append_assoc]
  exact List.prefix_append _ _

theorem dayText_day {t u : Int} (h : t / microsPerDay = u / microsPerDay) : dayText t = dayText u := by
  have hdays : ∀ t : Int, secondOf t / 86400 = t / microsPerDay := fun t => Int.ediv_ediv_of_nonneg (by decide)
  rw [dayText,dayText,dateOf,dateOf,hdays,hdays,h]

end Ledger

section Apply
variable {F : Type} {d : Deployment F} {s s' : CeremonyState} {g : GrantDocument} {now : Reading} {result : DemotionResult}
  {sign : Option (PromotionRecord → Json)} {ts : String} {principal : Principal} {actionClass : String}

theorem exec_applyDemotion (g : GrantDocument) (result : DemotionResult) (now : Reading) (sign : Option (PromotionRecord → Json)) :
    (∃ e, (applyDemotion g result now sign : Ceremony F _).exec d.perform s = (.error e,s)) ∨
      ∃ (wall : Moment) (ts : String) (s' : CeremonyState), wallClock now = .ok wall.1 ∧ (demotionRecord g result ts).accepted = true ∧
        Lowers d s g wall sign ts (demotedGrant g result.triggeredBy ts) (demotionRecord g result ts) s' ∧
        (applyDemotion g result now sign : Ceremony F _).exec d.perform s =
          (.ok (demotedGrant g result.triggeredBy ts,demotionRecord g result ts),s') := by
  rw [applyDemotion]
  split
  · exact .inl ⟨_,rfl⟩
  · rw [Prog.exec_bind,exec_ledgerTs]
    cases hts : nextLedgerTs d.backend modelValidateJson s.store.records g.principal g.actionClass now with
    | error e => exact .inl ⟨.store e,rfl⟩
    | ok ts =>
      obtain ⟨wall,hwall,-⟩ := bind_ok.mp hts
      have hmoment : wallClock now = wallClock (Moment.reading ⟨wall,wallClock_ok hwall⟩) := by
        rw [hwall,wallClock_reading]
      simp only [raised,Prog.andThen_ok,Prog.exec_bind]
      rcases exec_reread (F := F) (d := d) (s := s) (g := g)
        (.grantNotFound ("grant " ++ g.coordinate ++ " not found in store; " ++
          "demotion uses UpdateItem semantics and cannot create a new grant"))
        (.demotionConflict ("grant " ++ g.coordinate ++ " was modified between evaluate and apply; re-read and re-evaluate"))
        with ⟨e,hreread⟩ | ⟨current,hcurrent,hreread⟩
      · rw [hreread]
        exact .inl ⟨e,rfl⟩
      · rw [hreread]
        simp only [Prog.andThen_ok,Prog.exec_bind,exec_judge]
        cases hconstruct : (demotionRecord g result ts).construct with
        | error e => exact .inl ⟨.store e,rfl⟩
        | ok record =>
          obtain ⟨haccepted,rfl⟩ := construct_ok.mp hconstruct
          simp only [raised,Prog.andThen_ok,Prog.exec_bind]
          rcases exec_writeEvaluated (F := F) (d := d) (s := s) (demotionRecord g result ts) (demotedGrant g result.triggeredBy ts)
            current (sign.map fun sign => sign (demotionRecord g result ts))
            (.demotionConflict ("grant " ++ g.coordinate ++
              " was modified between evaluate and apply (conditional write failed); re-read and re-evaluate"))
            with ⟨e,hwrite⟩ | ⟨store,hstore,hwrite⟩
          · rw [hwrite]
            exact .inl ⟨e,rfl⟩
          · rw [hwrite]
            refine .inr ⟨⟨wall,wallClock_ok hwall⟩,ts,_,hwall,haccepted,⟨?_,current,store,hcurrent,hstore,rfl⟩,rfl⟩
            rw [← nextLedgerTs_wall hmoment]
            exact hts

theorem exec_applyDemotion_lands (sign : Option (PromotionRecord → Json)) (hs : Kept d s) (hholds : Holds d s principal actionClass g)
    (hshould : result.shouldDemote = true) (hfired : result.triggeredBy ≠ [])
    (hstamp : nextLedgerTs d.backend modelValidateJson s.store.records g.principal g.actionClass now = .ok ts) :
    ∃ s', (applyDemotion g result now sign : Ceremony F _).exec d.perform s =
      (.ok (demotedGrant g result.triggeredBy ts,demotionRecord g result ts),s') := by
  obtain ⟨-,hsafe,-⟩ := accepted_parts hholds.accepted
  obtain ⟨current,hcurrent,hwrite⟩ := lowering_writes hs hholds (demotion_lowering g result ts) hstamp
  have hrecord : (demotionRecord g result ts).construct = .ok (demotionRecord g result ts) :=
    construct_ok.mpr ⟨demotionRecord_accepted hsafe hfired ts,rfl⟩
  have hts : (ledgerTs g.principal g.actionClass now : Ceremony F String).exec d.perform s = (.ok ts,s) := by
    rw [exec_ledgerTs,hstamp]
    rfl
  have hjudge : (judge .store (demotionRecord g result ts).construct : Ceremony F PromotionRecord).exec d.perform s =
      (.ok (demotionRecord g result ts),s) := by
    rw [exec_judge,hrecord]
    rfl
  rw [applyDemotion,hshould,if_neg (by decide),Prog.exec_bind_of _ _ hts,
    Prog.exec_bind_of _ _ (exec_reread_lands hcurrent _ _),Prog.exec_bind_of _ _ hjudge,
    Prog.exec_bind_of _ _ (exec_writeEvaluated_lands (sign.map fun sign => sign (demotionRecord g result ts)) _ hwrite)]
  exact ⟨_,rfl⟩

end Apply

section Pass
variable {F : Type} {d : Deployment F} {s s' : CeremonyState} {g : GrantDocument} {principal : Principal} {actionClass : String}
  {signals : List DemotionSignal} {clock : PassClock} {sign : Option (PromotionRecord → Json)} {ts : String}

abbrev fired (g : GrantDocument) (signals : List DemotionSignal) (principal : Principal) (actionClass : String) : DemotionResult :=
  evaluateDemotionTriggers g (metricsFromSignals signals principal actionClass)

def Repeats (g : GrantDocument) (triggeredBy : List String) (r : PromotionRecord) : Prop :=
  r.recordType = .demotion ∧ r.triggeredBy = triggeredBy ∧ r.toLevel = g.level

theorem exec_listRecords (day : String) :
    (listRecordsOp g.principal g.actionClass (some day) : Ceremony F _).exec d.perform s =
      (raised .store (listRecordsWith d.backend s.store.records g.principal g.actionClass (some day)),s) := Prog.exec_call _ _ _

theorem exec_alreadyRecorded_state (clock : PassClock) (triggeredBy : List String) :
    ((alreadyRecorded g triggeredBy clock : Ceremony F Bool).exec d.perform s).2 = s := by
  rw [alreadyRecorded]
  split
  · rw [Prog.exec_bind,exec_judge]
    cases clock.day with
    | error e => rfl
    | ok day =>
      simp only [raised,Prog.andThen_ok,sameDayDemotionRecorded,Prog.exec_bind,exec_listRecords]
      cases listRecordsWith d.backend s.store.records g.principal g.actionClass (some day) with
      | error e => rfl
      | ok records => rfl
  · rfl

theorem exec_alreadyRecorded (clock : PassClock) {day : String} (hrows : RecordRows d.backend s.store.records)
    (hday : clock.day = .ok day)
    (triggeredBy : List String) :
    ∃ recorded, (alreadyRecorded g triggeredBy clock : Ceremony F Bool).exec d.perform s = (.ok recorded,s) ∧
      (recorded = true ↔ autonomyRank g.level ≤ autonomyRank g.lastSafeLevel ∧ ∃ r, r.accepted = true ∧
        recordRow d.backend r ∈ s.store.records ∧ pkOf d.backend r = recordPk d.backend g.principal g.actionClass ∧
        (recordSk r).startsWith day = true ∧ Repeats g triggeredBy r) := by
  rw [alreadyRecorded,demotionTargetLevel]
  split
  next hfloor =>
    obtain ⟨records,hlist,hall⟩ := listRecordsWith_own hrows g.principal g.actionClass day
    rw [Prog.exec_bind,exec_judge,hday]
    simp only [raised,Prog.andThen_ok,sameDayDemotionRecorded,Prog.exec_bind,exec_listRecords,hlist]
    refine ⟨_,rfl,?_⟩
    rw [List.any_eq_true]
    constructor
    · rintro ⟨r,hr,hrepeats⟩
      simp only [Bool.and_eq_true,decide_eq_true_iff] at hrepeats
      obtain ⟨haccepted,htable,hpk,hstarts⟩ := (hall r).mp hr
      exact ⟨hfloor,r,haccepted,htable,hpk,hstarts,hrepeats.1.1,hrepeats.1.2,hrepeats.2⟩
    · rintro ⟨-,r,haccepted,htable,hpk,hstarts,htype,htriggered,hlevel⟩
      refine ⟨r,(hall r).mpr ⟨haccepted,htable,hpk,hstarts⟩,?_⟩
      simp [htype,htriggered,hlevel]
  next hfalls =>
    refine ⟨false,rfl,?_⟩
    simp [hfalls]

structure Demotes (d : Deployment F) (s : CeremonyState) (principal : Principal) (actionClass : String) (signals : List DemotionSignal)
    (clock : PassClock) (sign : Option (PromotionRecord → Json)) (g : GrantDocument) (ts : String) (s' : CeremonyState) : Prop where
  holds : Holds d s principal actionClass g
  tripped : (fired g signals principal actionClass).shouldDemote = true
  fresh : (alreadyRecorded g ((fired g signals principal actionClass).triggeredBy.map DemotionTrigger.text) clock : Ceremony F Bool).exec
    d.perform s = (.ok false,s)
  accepted : (demotionRecord g (fired g signals principal actionClass) ts).accepted = true
  lowers : ∃ wall : Moment, wallClock clock.reading = .ok wall.1 ∧ Lowers d s g wall sign ts
    (demotedGrant g (fired g signals principal actionClass).triggeredBy ts) (demotionRecord g (fired g signals principal actionClass) ts) s'

theorem runDemotion_cases (principal : Principal) (actionClass : String) (signals : List DemotionSignal) (clock : PassClock)
    (sign : Option (PromotionRecord → Json)) :
    ((runDemotion principal actionClass signals clock sign : Ceremony F _).exec d.perform s).2 = s ∨
      ∃ g ts s', Demotes d s principal actionClass signals clock sign g ts s' ∧
        ((runDemotion principal actionClass signals clock sign : Ceremony F _).exec d.perform s).2 = s' := by
  rw [runDemotion,Prog.exec_bind,exec_judge]
  cases clock.validate with
  | error e => exact .inl rfl
  | ok _ =>
    simp only [raised,Prog.andThen_ok,Prog.exec_bind,exec_getGrant]
    cases hread : getGrant d.hmac d.validate d.backend s.store principal actionClass with
    | error e => exact .inl rfl
    | ok r =>
      simp only [Prog.andThen_ok]
      cases hq : r.quarantined with
      | true => exact .inl rfl
      | false =>
        cases hg : r.grant with
        | none => exact .inl rfl
        | some g =>
          simp only [Bool.false_eq_true,if_false]
          split
          · exact .inl rfl
          next hshould =>
            have htripped : (fired g signals principal actionClass).shouldDemote = true := by simpa using hshould
            rw [Prog.exec_bind]
            have hstate := exec_alreadyRecorded_state (F := F) (d := d) (s := s) (g := g) clock
              ((fired g signals principal actionClass).triggeredBy.map DemotionTrigger.text)
            rcases hrecorded : (alreadyRecorded g ((fired g signals principal actionClass).triggeredBy.map DemotionTrigger.text) clock :
              Ceremony F Bool).exec d.perform s with ⟨e | recorded,s₁⟩
            · rw [hrecorded] at hstate
              exact .inl hstate
            · rw [hrecorded] at hstate
              obtain rfl : s₁ = s := hstate
              simp only [Prog.andThen_ok]
              cases recorded with
              | true => exact .inl rfl
              | false =>
                simp only [Bool.false_eq_true,if_false,Prog.exec_tryCatch,Prog.exec_bind]
                rcases exec_applyDemotion (F := F) (d := d) (s := s₁) g (fired g signals principal actionClass) clock.reading sign with
                  ⟨e,happly⟩ | ⟨wall,ts,s',hwall,haccepted,hlowers,happly⟩
                · rw [happly]
                  refine .inl ?_
                  simp only [Prog.andThen_error,Prog.exec,Prog.orElse_error]
                  split <;> rfl
                · rw [happly]
                  exact .inr ⟨g,ts,s',⟨⟨r,hread,hg⟩,htripped,hrecorded,haccepted,wall,hwall,hlowers⟩,rfl⟩

theorem runDemotion_lands (clock : PassClock) (sign : Option (PromotionRecord → Json)) (hs : Kept d s) (hholds : Holds d s principal actionClass g)
    (htripped : (fired g signals principal actionClass).shouldDemote = true) (hvalid : clock.validate = .ok ())
    (hfresh : (alreadyRecorded g ((fired g signals principal actionClass).triggeredBy.map DemotionTrigger.text) clock :
      Ceremony F Bool).exec d.perform s = (.ok false,s))
    (hstamp : nextLedgerTs d.backend modelValidateJson s.store.records g.principal g.actionClass clock.reading = .ok ts) :
    ∃ s', Demotes d s principal actionClass signals clock sign g ts s' ∧
      ((runDemotion principal actionClass signals clock sign : Ceremony F _).exec d.perform s).2 = s' := by
  obtain ⟨s',hlands⟩ := exec_applyDemotion_lands sign hs hholds htripped (evaluate_fired htripped) hstamp
  have hdemotes : Demotes d s principal actionClass signals clock sign g ts s' := by
    rcases exec_applyDemotion (F := F) (d := d) (s := s) g (fired g signals principal actionClass) clock.reading sign with
      ⟨e,happly⟩ | ⟨wall,ts',s'',hwall,haccepted,hlowers,happly⟩
    · rw [happly] at hlands
      cases hlands
    · rw [happly] at hlands
      obtain ⟨hresult,rfl⟩ := Prod.mk.inj hlands
      obtain rfl : ts' = ts := congrArg PromotionRecord.ts (Prod.mk.inj (Except.ok.inj hresult)).2
      exact ⟨hholds,htripped,hfresh,haccepted,wall,hwall,hlowers⟩
  refine ⟨s',hdemotes,?_⟩
  obtain ⟨r,hread,hg⟩ := hholds
  obtain ⟨item,_,_,_,hr⟩ := getGrant_grant hread hg
  have hshould : ¬ (evaluateDemotionTriggers g (metricsFromSignals signals principal actionClass)).shouldDemote = false := by
    rw [htripped]
    decide
  rw [runDemotion,Prog.exec_bind,exec_judge,hvalid]
  simp only [raised,Prog.andThen_ok,Prog.exec_bind,exec_getGrant,hread,hr,Bool.false_eq_true,if_false]
  rw [if_neg hshould,Prog.exec_bind,hfresh]
  simp only [Prog.andThen_ok,Bool.false_eq_true,if_false,Prog.exec_tryCatch,Prog.exec_bind,hlands]
  rfl

structure OnDay (clock : PassClock) (day : Int) : Prop where
  stamped : ∃ wall, wallClock clock.reading = .ok wall ∧ wall / microsPerDay = day
  evaluated : clock.ts = none → clock.evaluated.1 / microsPerDay = day

-- A caller's text names the instant its own clock face shows, since only UTC is accepted.
theorem text_clock {text : String} {wall : Int} (h : wallClock (.text text) = .ok wall) :
    validateRecordTs text = .ok () ∧ ∃ parsed, fromisoformat text = some parsed ∧ parsed.clock = wall := by
  obtain ⟨_,hvalid,hread⟩ := bind_ok.mp h
  refine ⟨hvalid,?_⟩
  rw [validateRecordTs] at hvalid
  cases hparsed : fromisoformat text with
  | none =>
    rw [hparsed] at hread
    cases hread
  | some parsed =>
    simp only [hparsed] at hread hvalid
    refine ⟨parsed,rfl,?_⟩
    cases hoffset : parsed.offset with
    | none =>
      simp only [hoffset] at hvalid
      cases hvalid
    | some offset =>
      simp only [hoffset] at hvalid
      split at hvalid
      · cases hvalid
      next hutc =>
        obtain rfl : offset = 0 := by
          by_contra hne
          exact hutc (.inl hne)
        simp only [toUtc,Datetime.instant?,hoffset,Int.sub_zero] at hread
        by_cases hrep : Representable parsed.clock
        · simpa only [if_pos hrep,Except.ok.injEq] using hread
        · simp only [if_neg hrep] at hread
          cases hread

theorem OnDay.read {day : Int} (h : OnDay clock day) :
    clock.validate = .ok () ∧ ∃ t, clock.day = .ok (dayText t) ∧ t / microsPerDay = day := by
  obtain ⟨wall,hwall,hday⟩ := h.stamped
  rw [PassClock.validate,PassClock.day]
  cases hts : clock.ts with
  | none => exact ⟨rfl,_,rfl,h.evaluated hts⟩
  | some text =>
    rw [PassClock.reading,hts] at hwall
    obtain ⟨hvalid,parsed,hparsed,hclock⟩ := text_clock hwall
    refine ⟨hvalid,parsed.clock,?_,by rw [hclock,hday]⟩
    simp only [hparsed]

end Pass

section Sequence
variable {F : Type} {d : Deployment F} {s s' : CeremonyState} {g updated : GrantDocument} {record : PromotionRecord} {ts : String}
  {now : Moment} {sign : Option (PromotionRecord → Json)} {principal : Principal} {actionClass : String} {signals : List DemotionSignal}
  {clock : PassClock}

theorem Lowers.holds (h : Lowers d s g now sign ts updated record s') (hupdated : updated.accepted d.isLabelLatency = true)
    (hkey : grantRowKey d.backend updated.principal updated.actionClass = grantRowKey d.backend principal actionClass) :
    Holds d s' principal actionClass updated := by
  obtain ⟨hgrants,-,-⟩ := h.effect
  have hrow : s'.store.grants (grantRowKey d.backend principal actionClass) = some (buildItem d.hmac updated) := by
    rw [hgrants,grantKey_eq,hkey,Function.update_self]
  exact ⟨_,getGrant_written hupdated hrow,rfl⟩

theorem Holds.unique {g' : GrantDocument} (h : Holds d s principal actionClass g) (h' : Holds d s principal actionClass g') : g = g' := by
  obtain ⟨r,hread,hg⟩ := h
  obtain ⟨r',hread',hg'⟩ := h'
  rw [hread] at hread'
  cases hread'
  rw [hg] at hg'
  exact Option.some.inj hg'

theorem Holds.row (h : Holds d s principal actionClass g) : ∃ item, s.store.grants (grantRowKey d.backend principal actionClass) =
    some item ∧ item.grantHash = d.hmac item.data ∧ d.validate item.data = some g := by
  obtain ⟨r,hread,hg⟩ := h
  obtain ⟨item,hitem,hhash,hparse,_⟩ := getGrant_grant hread hg
  exact ⟨item,hitem,hhash,hparse⟩

def demotionPass (d : Deployment F) (principal : Principal) (actionClass : String) (signals : List DemotionSignal)
    (sign : Option (PromotionRecord → Json)) (s : CeremonyState) (clock : PassClock) : CeremonyState :=
  ((runDemotion principal actionClass signals clock sign : Ceremony F RunnerOutcome).exec d.perform s).2

def demotionPasses (d : Deployment F) (principal : Principal) (actionClass : String) (signals : List DemotionSignal)
    (sign : Option (PromotionRecord → Json)) (s : CeremonyState) (clocks : List PassClock) : CeremonyState :=
  clocks.foldl (demotionPass d principal actionClass signals sign) s

theorem demotionPasses_two {s₁ s₂ : CeremonyState} {clock₁ clock₂ : PassClock}
    (hfirst : ((runDemotion principal actionClass signals clock₁ sign : Ceremony F RunnerOutcome).exec d.perform s).2 = s₁)
    (hsecond : ((runDemotion principal actionClass signals clock₂ sign : Ceremony F RunnerOutcome).exec d.perform s₁).2 = s₂) :
    demotionPasses d principal actionClass signals sign s [clock₁,clock₂] = s₂ := by
  have hpass : demotionPass d principal actionClass signals sign s clock₁ = s₁ := hfirst
  rw [demotionPasses,List.foldl_cons,List.foldl_cons,List.foldl_nil,hpass]
  exact hsecond

theorem Demotes.holds_demoted (hs : Kept d s) (h : Demotes d s principal actionClass signals clock sign g ts s') :
    Kept d s' ∧ Holds d s' principal actionClass (demotedGrant g (fired g signals principal actionClass).triggeredBy ts) ∧
      s'.store.records = s.store.records ++ [recordRow d.backend (demotionRecord g (fired g signals principal actionClass) ts)] := by
  obtain ⟨wall,-,hlowers⟩ := h.lowers
  have hupdated := demotedGrant_accepted h.holds.accepted (fired g signals principal actionClass).triggeredBy ts
  exact ⟨hlowers.kept hs h.accepted hupdated,hlowers.holds hupdated (h.holds.own hs).1,hlowers.effect.2.1⟩

def Recorded (d : Deployment F) (s s' : CeremonyState) (fromLevel toLevel : AutonomyLevel) : Prop :=
  ∃ r : PromotionRecord, s'.store.records = s.store.records ++ [recordRow d.backend r] ∧ r.recordType = .demotion ∧
    r.fromLevel = some fromLevel ∧ r.toLevel = toLevel

theorem pass_lowers (hs : Kept d s) (hholds : Holds d s principal actionClass g)
    (htripped : (fired g signals principal actionClass).shouldDemote = true) {day : Int} (hday : OnDay clock day)
    (hbefore : RecordedBefore d.backend s.store.records g.principal g.actionClass maxInstant) :
    ∃ g', Holds d (demotionPass d principal actionClass signals sign s clock) principal actionClass g' ∧
      autonomyRank g'.level = min (autonomyRank g.level) (autonomyRank g.lastSafeLevel) ∧
      (g'.level ≠ g.level → Recorded d s (demotionPass d principal actionClass signals sign s clock) g.level g'.level) := by
  obtain ⟨hvalid,t,hread,-⟩ := hday.read
  obtain ⟨wall,hwall,-⟩ := hday.stamped
  obtain ⟨recorded,hexec,hrecorded⟩ := exec_alreadyRecorded (F := F) (d := d) (s := s) (g := g) clock hs.ledger hread
    ((fired g signals principal actionClass).triggeredBy.map DemotionTrigger.text)
  cases recorded with
  | true =>
    have hfloor := (hrecorded.mp rfl).1
    have hquiet : demotionPass d principal actionClass signals sign s clock = s := by
      rcases runDemotion_cases (d := d) (s := s) principal actionClass signals clock sign with hsame | ⟨g',ts,s',hdemotes,-⟩
      · exact hsame
      · obtain rfl := hholds.unique hdemotes.holds
        have hfresh := hdemotes.fresh
        rw [hexec] at hfresh
        cases hfresh
    rw [hquiet]
    exact ⟨g,hholds,by rw [Nat.min_eq_left hfloor],fun hne => absurd rfl hne⟩
  | false =>
    obtain ⟨ts,hstamp⟩ := stamp_exists clock.reading hs.ledger hbefore hwall
    obtain ⟨s',hdemotes,hstate⟩ := runDemotion_lands clock sign hs hholds htripped hvalid hexec hstamp
    obtain ⟨-,hheld,hrecords⟩ := hdemotes.holds_demoted hs
    rw [demotionPass,hstate]
    exact ⟨_,hheld,demotedLevel_rank g,fun _ => ⟨_,hrecords,rfl,rfl,rfl⟩⟩

theorem pass_never_raises (signals : List DemotionSignal) (clock : PassClock) (sign : Option (PromotionRecord → Json))
    (principal : Principal) (actionClass : String) {p : Principal} {a : String} {before after : GrantDocument}
    (hbefore : Holds d s p a before) (hafter : Holds d (demotionPass d principal actionClass signals sign s clock) p a after) :
    autonomyRank after.level ≤ autonomyRank before.level := by
  rcases runDemotion_cases (d := d) (s := s) principal actionClass signals clock sign with hsame | ⟨g,ts,s',hdemotes,hstate⟩
  · rw [demotionPass,hsame] at hafter
    rw [hbefore.unique hafter]
  · rw [demotionPass,hstate] at hafter
    obtain ⟨wall,-,hlowers⟩ := hdemotes.lowers
    obtain ⟨item,hitem,hhash,hparse⟩ := hbefore.row
    by_cases hkey : grantRowKey d.backend g.principal g.actionClass = grantRowKey d.backend p a
    · have hupdated := demotedGrant_accepted hdemotes.holds.accepted (fired g signals principal actionClass).triggeredBy ts
      have hwritten : Holds d s' p a (demotedGrant g (fired g signals principal actionClass).triggeredBy ts) :=
        hlowers.holds hupdated hkey
      obtain ⟨current,_,hcurrent,-,-⟩ := hlowers.written
      have hread : Holds d s p a g := by
        obtain ⟨item',hitem',hhash',hparse',-⟩ := getGrant_grant hcurrent.read hcurrent.same
        rw [hkey] at hitem'
        exact ⟨_,getGrant_stored hitem' hhash' hparse',rfl⟩
      rw [← hwritten.unique hafter,← hread.unique hbefore]
      show autonomyRank (demotedLevel g) ≤ _
      rw [demotedLevel_rank]
      exact Nat.min_le_left _ _
    · have hkept : s'.store.grants (grantRowKey d.backend p a) = some item := by
        rw [hlowers.effect.1,grantKey_eq]
        exact (Function.update_of_ne (fun hsame => hkey hsame.symm) _ _).trans hitem
      have hstill : Holds d s' p a before := ⟨_,getGrant_stored hkept hhash hparse,rfl⟩
      rw [hstill.unique hafter]

theorem fired_demoted (g : GrantDocument) (triggered : List DemotionTrigger) (ts : String) :
    (fired (demotedGrant g triggered ts) signals principal actionClass).triggeredBy = (fired g signals principal actionClass).triggeredBy ∧
      (fired (demotedGrant g triggered ts) signals principal actionClass).shouldDemote =
        (fired g signals principal actionClass).shouldDemote := by
  have htriggers : (demotedGrant g triggered ts).demotionTriggers = g.demotionTriggers := rfl
  simp only [fired,evaluateDemotionTriggers,htriggers]
  split
  · exact ⟨rfl,rfl⟩
  · exact ⟨rfl,rfl⟩

def Quiet (d : Deployment F) (principal : Principal) (actionClass : String) (signals : List DemotionSignal)
    (sign : Option (PromotionRecord → Json)) (day : Int) (s : CeremonyState) : Prop :=
  ∀ clock, OnDay clock day → demotionPass d principal actionClass signals sign s clock = s

theorem quiet_after (hs : Kept d s) {day : Int} (hday : OnDay clock day)
    (hbefore : RecordedBefore d.backend s.store.records g.principal g.actionClass ((day + 1) * microsPerDay - 1))
    (h : Demotes d s principal actionClass signals clock sign g ts s') : Quiet d principal actionClass signals sign day s' := by
  obtain ⟨hkept,hheld,hrecords⟩ := h.holds_demoted hs
  obtain ⟨wall,hwall,hlowers⟩ := h.lowers
  obtain ⟨wall',hwall',hwallday⟩ := hday.stamped
  have hstamp := hlowers.stamp
  have hmoment : wallClock (Moment.reading wall) = wallClock clock.reading := by rw [wallClock_reading,hwall]
  rw [nextLedgerTs_wall hmoment] at hstamp
  obtain ⟨t,hts,-,htday⟩ := stamp_on_day hs.ledger hbefore hwall' hwallday hstamp
  intro clock' hday'
  rcases runDemotion_cases (d := d) (s := s') principal actionClass signals clock' sign with hsame | ⟨g',ts',s'',hdemotes,-⟩
  · exact hsame
  · obtain rfl := hheld.unique hdemotes.holds
    obtain ⟨-,u,hread,huday⟩ := hday'.read
    obtain ⟨recorded,hexec,hrecorded⟩ := exec_alreadyRecorded (F := F) (d := d) (s := s')
      (g := demotedGrant g (fired g signals principal actionClass).triggeredBy ts) clock' hkept.ledger hread
      ((fired (demotedGrant g (fired g signals principal actionClass).triggeredBy ts) signals principal actionClass).triggeredBy.map
        DemotionTrigger.text)
    have hnone := hdemotes.fresh
    rw [hexec] at hnone
    have hfalse : recorded = false := Except.ok.inj (Prod.mk.inj hnone).1
    refine absurd (hrecorded.mpr ⟨demotedGrant_floor g _ ts,demotionRecord g (fired g signals principal actionClass) ts,h.accepted,?_,rfl,
      ?_,rfl,?_,rfl⟩) (by rw [hfalse]; decide)
    · rw [hrecords]
      exact List.mem_append_right _ (List.mem_singleton_self _)
    · rw [dayText_day (huday.trans htday.symm),recordSk]
      show (ts ++ "#" ++ _).startsWith _ = true
      rw [hts,String.append_assoc]
      exact isoformat_startsWith t _
    · rw [(fired_demoted g _ ts).1]
      rfl

theorem passes_quiet {day : Int} (hquiet : Quiet d principal actionClass signals sign day s) {clocks : List PassClock}
    (hclocks : ∀ clock ∈ clocks, OnDay clock day) : demotionPasses d principal actionClass signals sign s clocks = s := by
  induction clocks with
  | nil => rfl
  | cons clock clocks ih =>
    rw [demotionPasses,List.foldl_cons,hquiet clock (hclocks clock List.mem_cons_self)]
    exact ih fun c hc => hclocks c (List.mem_cons_of_mem _ hc)

theorem passes_write_once (hs : Kept d s) {day : Int}
    (hbefore : ∀ g, Holds d s principal actionClass g →
      RecordedBefore d.backend s.store.records g.principal g.actionClass ((day + 1) * microsPerDay - 1))
    {clocks : List PassClock} (hclocks : ∀ clock ∈ clocks, OnDay clock day) :
    (∀ n, demotionPasses d principal actionClass signals sign s (clocks.take n) = s) ∨
      ∃ k s₁ fromLevel toLevel, Recorded d s s₁ fromLevel toLevel ∧
        (∀ n ≤ k, demotionPasses d principal actionClass signals sign s (clocks.take n) = s) ∧
        ∀ n, k < n → demotionPasses d principal actionClass signals sign s (clocks.take n) = s₁ := by
  induction clocks with
  | nil => exact .inl fun n => by rw [List.take_nil]; rfl
  | cons clock clocks ih =>
    have hrest : ∀ c ∈ clocks, OnDay c day := fun c hc => hclocks c (List.mem_cons_of_mem _ hc)
    have hfirst := hclocks clock List.mem_cons_self
    have hstep : ∀ n, demotionPasses d principal actionClass signals sign s ((clock :: clocks).take (n + 1)) =
        demotionPasses d principal actionClass signals sign (demotionPass d principal actionClass signals sign s clock) (clocks.take n) :=
      fun n => rfl
    have hnone : demotionPasses d principal actionClass signals sign s ((clock :: clocks).take 0) = s := rfl
    rcases runDemotion_cases (d := d) (s := s) principal actionClass signals clock sign with hsame | ⟨g,ts,s₁,hdemotes,hstate⟩
    · have hpass : demotionPass d principal actionClass signals sign s clock = s := hsame
      rcases ih hrest with hquiet | ⟨k,s₁,fromLevel,toLevel,hrecorded,hearlier,hlater⟩
      · refine .inl fun n => ?_
        cases n with
        | zero => exact hnone
        | succ n => rw [hstep,hpass,hquiet]
      · refine .inr ⟨k + 1,s₁,fromLevel,toLevel,hrecorded,fun n hn => ?_,fun n hn => ?_⟩
        · cases n with
          | zero => exact hnone
          | succ n => rw [hstep,hpass,hearlier n (by omega)]
        · cases n with
          | zero => omega
          | succ n => rw [hstep,hpass,hlater n (by omega)]
    · have hpass : demotionPass d principal actionClass signals sign s clock = s₁ := hstate
      have hquiet := quiet_after hs hfirst (hbefore g hdemotes.holds) hdemotes
      refine .inr ⟨0,s₁,g.level,demotedLevel g,⟨_,(hdemotes.holds_demoted hs).2.2,rfl,rfl,rfl⟩,fun n hn => ?_,fun n hn => ?_⟩
      · rw [Nat.le_zero.mp hn]
        exact hnone
      · cases n with
        | zero => omega
        | succ n =>
          rw [hstep,hpass]
          exact passes_quiet hquiet fun c hc => hrest c (List.mem_of_mem_take hc)

end Sequence

theorem demotion_passes {F : Type} {d : Deployment F} {s : CeremonyState} (hs : Kept d s) (principal : Principal) (actionClass : String)
    (signals : List DemotionSignal) (sign : Option (PromotionRecord → Json)) (day : Int) :
    (∀ g clock, Holds d s principal actionClass g → (fired g signals principal actionClass).shouldDemote = true → OnDay clock day →
      RecordedBefore d.backend s.store.records g.principal g.actionClass maxInstant →
      ∃ g', Holds d (demotionPass d principal actionClass signals sign s clock) principal actionClass g' ∧
        autonomyRank g'.level = min (autonomyRank g.level) (autonomyRank g.lastSafeLevel) ∧
        (g'.level ≠ g.level → Recorded d s (demotionPass d principal actionClass signals sign s clock) g.level g'.level)) ∧
    (∀ clock p a before after, Holds d s p a before →
      Holds d (demotionPass d principal actionClass signals sign s clock) p a after →
      autonomyRank after.level ≤ autonomyRank before.level) ∧
    ∀ clocks : List PassClock, (∀ clock ∈ clocks, OnDay clock day) →
      (∀ g, Holds d s principal actionClass g →
        RecordedBefore d.backend s.store.records g.principal g.actionClass ((day + 1) * microsPerDay - 1)) →
      (∀ n, demotionPasses d principal actionClass signals sign s (clocks.take n) = s) ∨
        ∃ k s₁ fromLevel toLevel, Recorded d s s₁ fromLevel toLevel ∧
          (∀ n ≤ k, demotionPasses d principal actionClass signals sign s (clocks.take n) = s) ∧
          ∀ n, k < n → demotionPasses d principal actionClass signals sign s (clocks.take n) = s₁ :=
  ⟨fun _ _ hholds htripped hday hbefore => pass_lowers hs hholds htripped hday hbefore,
    fun clock _ _ _ _ hbefore hafter => pass_never_raises signals clock sign principal actionClass hbefore hafter,
    fun _ hclocks hbefore => passes_write_once hs hbefore hclocks⟩

namespace Certified

def floored : GrantDocument := { grant with level := .inLoop }

def lead : PromotionRecord := { promotion with ts := "2026-10-02T00:00:00+00:00" }

def leadAt : Int := 1790899200000000

def ahead : CeremonyState where
  store :=
    { records := [recordRow .memory lead]
      grants := Function.update (fun _ => none) (grantKey .memory floored) (some (buildItem id floored)) }

def breach : List DemotionSignal := [{ trigger := .budgetBreach, principal := grant.principal, actionClass := "email.send" }]

-- 2026-10-01, midnight
def today : Int := 20727

def passAt (t : Moment) : PassClock := { ts := none, evaluated := t, stamped := t }

theorem onDay_boundary : OnDay (passAt boundary) today := ⟨⟨boundary.1,rfl,by decide⟩,fun _ => by decide⟩

theorem lead_accepted : lead.accepted = true := by decide

theorem lead_stamped : StampedAt lead leadAt := ⟨by decide,by decide⟩

theorem floored_accepted : floored.accepted desk.isLabelLatency = true := by decide

theorem ahead_rows : RecordRows .memory ahead.store.records := fun _ hrow => ⟨lead,lead_accepted,List.mem_singleton.mp hrow⟩

theorem ahead_kept : Kept desk ahead := kept_one (d := desk) floored_accepted ahead_rows

theorem ahead_holds : Holds desk ahead grant.principal grant.actionClass floored := holds_one (d := desk) floored_accepted

theorem breach_fires : (fired floored breach grant.principal grant.actionClass).shouldDemote = true := by decide

theorem only_lead {r : PromotionRecord} (h : recordRow .memory r ∈ ahead.store.records) : r = lead :=
  canonicalRecordPayload_injective (congrArg RecordRow.data (List.mem_singleton.mp h))

theorem ahead_stamp : nextLedgerTs .memory modelValidateJson ahead.store.records grant.principal grant.actionClass
    (passAt boundary).reading = .ok (isoformat (leadAt + 1)) := by
  have hlist : listRecords .memory modelValidateJson ahead.store.records grant.principal grant.actionClass = .ok [lead] :=
    listRecords_one lead_accepted rfl
  have hrecorded : [lead].mapM recordedInstant = .ok [leadAt] := by
    rw [List.mapM_cons,recordedInstant_stamped lead_stamped]
    rfl
  have hnext : advance boundary.1 [leadAt] = .ok (leadAt + 1) := by decide
  have hwall : wallClock (passAt boundary).reading = .ok boundary.1 := rfl
  rw [nextLedgerTs,bind_of_ok hwall,bind_of_ok hlist,bind_of_ok hrecorded,bind_of_ok hnext]
  rfl

theorem unrecorded {s : CeremonyState} {g : GrantDocument} (hrows : RecordRows .memory s.store.records)
    (hstored : ∀ r, recordRow .memory r ∈ s.store.records → r.recordType = .demotion → r.ts = isoformat (leadAt + 1)) (triggeredBy : List String) :
    (alreadyRecorded g triggeredBy (passAt boundary) : Ceremony Int Bool).exec desk.perform s = (.ok false,s) := by
  obtain ⟨recorded,hexec,hrecorded⟩ := exec_alreadyRecorded (F := Int) (d := desk) (s := s) (g := g) (passAt boundary) hrows rfl
    triggeredBy
  cases recorded with
  | false => exact hexec
  | true =>
    obtain ⟨-,r,-,htable,-,hstarts,hrepeats⟩ := hrecorded.mp rfl
    have hts := hstored r htable hrepeats.1
    have hother : (isoformat (leadAt + 1) ++ "#" ++ RecordType.text .demotion).startsWith (dayText boundary.1) = false := by
      rw [String.startsWith_string_eq_false_iff]
      decide
    rw [recordSk,hts,hrepeats.1] at hstarts
    exact absurd hstarts (ne_true_of_eq_false hother)

def first : PromotionRecord := demotionRecord floored (fired floored breach grant.principal grant.actionClass) (isoformat (leadAt + 1))

def noted : GrantDocument :=
  demotedGrant floored (fired floored breach grant.principal grant.actionClass).triggeredBy (isoformat (leadAt + 1))

theorem demotion_repeated : ∃ c₁ c₂ : PassClock, OnDay c₁ today ∧ OnDay c₂ today ∧ Kept desk ahead ∧
    ∃ r₁ r₂ : PromotionRecord,
      (demotionPasses desk grant.principal grant.actionClass breach none ahead [c₁,c₂]).store.records =
        ahead.store.records ++ [recordRow .memory r₁] ++ [recordRow .memory r₂] ∧
      r₁.recordType = .demotion ∧ r₁.fromLevel = some r₁.toLevel ∧ r₂.recordType = .demotion ∧ r₂.fromLevel = some r₂.toLevel := by
  obtain ⟨s₁,hfirst,hstate₁⟩ := runDemotion_lands (passAt boundary) none ahead_kept ahead_holds breach_fires rfl
    (unrecorded ahead_rows (fun r hr htype => by rw [only_lead hr] at htype; cases htype) _) ahead_stamp
  obtain ⟨hkept,hheld,-⟩ := hfirst.holds_demoted ahead_kept
  have hrecords : s₁.store.records = ahead.store.records ++ [recordRow .memory first] := (hfirst.holds_demoted ahead_kept).2.2
  have hstored : ∀ r, recordRow .memory r ∈ s₁.store.records → r = lead ∨ r = first := by
    intro r hr
    rw [hrecords] at hr
    rcases List.mem_append.mp hr with hold | hnew
    · exact .inl (only_lead hold)
    · exact .inr (canonicalRecordPayload_injective (congrArg RecordRow.data (List.mem_singleton.mp hnew)))
  have hroom : RecordedBefore .memory s₁.store.records grant.principal grant.actionClass maxInstant := by
    intro r _ hr _
    rcases hstored r hr with rfl | rfl
    · exact ⟨leadAt,recordedInstant_stamped lead_stamped,by decide,by decide⟩
    · have hnext : Representable (leadAt + 1) := by decide
      exact ⟨leadAt + 1,recordedInstant_stamped ⟨hnext,rfl⟩,hnext,by decide⟩
  obtain ⟨ts,hstamp⟩ := stamp_exists (passAt boundary).reading hkept.ledger hroom rfl
  have hagain := unrecorded (g := noted) hkept.ledger (fun r hr htype => by
    rcases hstored r hr with rfl | rfl
    · cases htype
    · rfl) ((fired noted breach grant.principal grant.actionClass).triggeredBy.map DemotionTrigger.text)
  obtain ⟨s₂,hsecond,hstate₂⟩ := runDemotion_lands (passAt boundary) none hkept hheld
    ((fired_demoted floored _ _).2.trans breach_fires) rfl hagain hstamp
  obtain ⟨-,-,hrecords₂⟩ := hsecond.holds_demoted hkept
  refine ⟨passAt boundary,passAt boundary,onDay_boundary,onDay_boundary,ahead_kept,first,
    demotionRecord noted (fired noted breach grant.principal grant.actionClass) ts,?_,rfl,by decide,rfl,?_⟩
  · rw [demotionPasses_two hstate₁ hstate₂,hrecords₂,hrecords]
    rfl
  · show some noted.level = some (demotedLevel noted)
    decide

theorem demotion_passes_boundary :
    (∃ g', Holds desk (demotionPass desk grant.principal grant.actionClass breach none state (passAt boundary)) grant.principal
        grant.actionClass g' ∧ g'.level = .inLoop ∧
        Recorded desk state (demotionPass desk grant.principal grant.actionClass breach none state (passAt boundary)) .onLoop .inLoop) ∧
      ((∀ n, demotionPasses desk grant.principal grant.actionClass breach none state ([passAt boundary,passAt boundary].take n) = state) ∨
        ∃ k s₁ fromLevel toLevel, Recorded desk state s₁ fromLevel toLevel ∧
          (∀ n ≤ k, demotionPasses desk grant.principal grant.actionClass breach none state ([passAt boundary,passAt boundary].take n) =
            state) ∧
          ∀ n, k < n → demotionPasses desk grant.principal grant.actionClass breach none state
            ([passAt boundary,passAt boundary].take n) = s₁) := by
  have hbefore : ∀ bound, promotedAt < bound →
      RecordedBefore .memory state.store.records grant.principal grant.actionClass bound := by
    intro bound hbound r _ hr _
    obtain rfl : r = promotion := canonicalRecordPayload_injective (congrArg RecordRow.data (List.mem_singleton.mp hr))
    exact ⟨promotedAt,recordedInstant_stamped promotion_stamped,by decide,hbound⟩
  have hkept : Kept desk state := (intact promotion_accepted promotion_stamped).kept
  obtain ⟨hlowers,-,hquiet⟩ := demotion_passes hkept grant.principal grant.actionClass breach none today
  obtain ⟨g',hholds,hrank,hrecorded⟩ :=
    hlowers grant (passAt boundary) (holds promotion) (by decide) onDay_boundary (hbefore _ (by decide))
  have hzero : autonomyRank g'.level = 0 := hrank
  have hlevel : g'.level = .inLoop := by
    cases hlevel : g'.level with
    | inLoop => rfl
    | onLoop => rw [hlevel] at hzero; cases hzero
    | outOfLoop => rw [hlevel] at hzero; cases hzero
  refine ⟨⟨g',hholds,hlevel,?_⟩,hquiet [passAt boundary,passAt boundary] (fun clock hclock => ?_) fun g hg => ?_⟩
  · have hwritten := hrecorded (by rw [hlevel]; decide)
    rw [hlevel] at hwritten
    exact hwritten
  · have hsame : clock = passAt boundary := by simpa using hclock
    rw [hsame]
    exact onDay_boundary
  · rw [← (holds promotion).unique hg]
    exact hbefore _ (by decide)

end Certified

end SafeAgents.Grants
