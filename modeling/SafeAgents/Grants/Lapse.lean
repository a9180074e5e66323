import SafeAgents.Grants.Writers

namespace SafeAgents.Grants

open Calendar Checked Interleaving PromotionRecord

inductive LapseStatus where
  | noGrant | quarantined | noTerm | notDue | nothingToLapse | lapsed | conflict
  deriving DecidableEq

structure LapseOutcome where
  status : LapseStatus
  reason : String
  updatedGrant : Option GrantDocument := none
  record : Option PromotionRecord := none
  deriving DecidableEq

def skewNote (lead : String) (skew : Int) : String := if skew = 0 then "" else lead ++ pyTimedelta skew

def lapsedGrant (g : GrantDocument) (ts : String) : GrantDocument :=
  { g with level := g.lastSafeLevel, demotionReason := some .pendingEvidence, ts }

def lapseRecord (g : GrantDocument) (ts : String) : PromotionRecord where
  recordType := .lapse
  actionClass := g.actionClass
  principal := g.principal
  fromLevel := some g.level
  toLevel := g.lastSafeLevel
  evidence := "certification term expired: certifiedUntil=" ++ g.certifiedUntil.getD "None"
  proposedBy := demotionRatifier
  ratifiedBy := demotionRatifier
  envelopeHash := g.envelopeHash
  demotionReason := some .pendingEvidence
  ts
  certifiedUntil := g.certifiedUntil

def buildLapse (g : GrantDocument) (now : Moment) (ts : String) (skew : Int) :
    Except CeremonyError (GrantDocument × PromotionRecord) := do
  let pending ← raised .store (g.lapsePending now skew)
  refuseIf (pending = false) (.lapseNotDue ("grant " ++ g.coordinate ++ " owes no lapse at " ++ isoformat now.1 ++
    " (certifiedUntil=" ++ pyOptional g.certifiedUntil ++ ", level=" ++ pyRepr g.level.text ++ ", lastSafeLevel=" ++
    pyRepr g.lastSafeLevel.text ++ ")"))
  let record ← raised .store (lapseRecord g ts).construct
  return (lapsedGrant g ts,record)

def lapsedOutcome (coordinate certified : String) (now : Moment) (skew : Int) (g updated : GrantDocument)
    (record : PromotionRecord) : LapseOutcome where
  status := .lapsed
  reason := "grant " ++ coordinate ++ " LAPSED: certification term " ++ certified ++ " passed at " ++ isoformat now.1 ++
    skewNote " with a clock-skew bound of " skew ++ "; " ++ g.level.text ++ " -> " ++ record.toLevel.text ++
    ", demotionReason=pending-evidence"
  updatedGrant := some updated
  record := some record

section Writer
variable {F : Type}

def applyLapse (g : GrantDocument) (now : Moment) (skew : Int) (sign : Option (PromotionRecord → Json)) :
    Ceremony F (GrantDocument × PromotionRecord) :=
  applyLowering g now (fun ts => buildLapse g now ts skew)
    (.lapseConflict ("grant " ++ g.coordinate ++
      " is missing or was modified between evaluation and the lapse write; re-read and re-evaluate"))
    (.lapseConflict ("grant " ++ g.coordinate ++
      " was modified between evaluation and the lapse write (conditional write failed); nothing was written — re-read and " ++
      "re-evaluate"))
    sign

def lapseConflictText : CeremonyError → Option String
  | .lapseConflict text => some text
  | .store (.recordAlreadyExists text) => some text
  | _ => none

def runLapse (principal : Principal) (actionClass : String) (now : Moment) (skew : Int)
    (sign : Option (PromotionRecord → Json)) : Ceremony F LapseOutcome := do
  let coordinate := principal.agentId ++ "/" ++ actionClass
  let read ← getGrantOp principal actionClass
  if read.quarantined then
    return { status := .quarantined
             reason := "grant " ++ coordinate ++ " is QUARANTINED (" ++ read.quarantineReason.getD "None" ++
               "); not evaluating a lapse — quarantined contents are untrusted" }
  match read.grant with
  | none => return { status := .noGrant, reason := "no grant for " ++ coordinate }
  | some g =>
    match g.certifiedUntil with
    | none => return { status := .noTerm, reason := "grant " ++ coordinate ++ " carries no term; it never lapses" }
    | some certified => do
      let passed ← judge .store (g.termPassed now skew)
      if passed = false then
        return { status := .notDue
                 reason := "grant " ++ coordinate ++ " is certified until " ++ certified ++ "; not passed at " ++
                   isoformat now.1 ++ skewNote " with a clock-skew bound of " skew }
      let pending ← judge .store (g.lapsePending now skew)
      if pending = false then
        return { status := .nothingToLapse
                 reason := "grant " ++ coordinate ++ "'s term passed at " ++ certified ++ ", but it is already at " ++
                   pyRepr g.level.text ++ " (lastSafeLevel " ++ pyRepr g.lastSafeLevel.text ++ "); nothing to lapse" }
      tryCatch
        (do
          let (updated,record) ← applyLapse g now skew sign
          return lapsedOutcome coordinate certified now skew g updated record)
        fun e =>
          match lapseConflictText e with
          | some text => return { status := .conflict, reason := text }
          | none => throw e

end Writer

section Lemmas
variable {F : Type} {d : Deployment F} {s : CeremonyState} {g : GrantDocument} {now : Moment} {skew : Int}
  {sign : Option (PromotionRecord → Json)}

theorem buildLapse_ok {ts : String} {built : GrantDocument × PromotionRecord} (h : buildLapse g now ts skew = .ok built) :
    g.lapsePending now skew = .ok true ∧ (lapseRecord g ts).accepted = true ∧ built = (lapsedGrant g ts,lapseRecord g ts) := by
  obtain ⟨pending,hpending,hrest⟩ := bind_ok.mp h
  obtain ⟨hdue,hrest⟩ := then_ok.mp hrest
  obtain ⟨record,hrecord,hend⟩ := bind_ok.mp hrest
  obtain ⟨haccepted,rfl⟩ := construct_ok.mp (raised_ok.mp hrecord)
  have htrue : pending = true := by simpa using hdue
  rw [htrue] at hpending
  exact ⟨raised_ok.mp hpending,haccepted,(pure_ok.mp hend).symm⟩

theorem exec_applyLapse (g : GrantDocument) (now : Moment) (skew : Int) (sign : Option (PromotionRecord → Json)) :
    (∃ e, (applyLapse g now skew sign : Ceremony F _).exec d.perform s = (.error e,s)) ∨
      ∃ ts s', (lapseRecord g ts).accepted = true ∧ Lowers d s g now sign ts (lapsedGrant g ts) (lapseRecord g ts) s' ∧
        (applyLapse g now skew sign : Ceremony F _).exec d.perform s = (.ok (lapsedGrant g ts,lapseRecord g ts),s') := by
  rcases exec_applyLowering (F := F) (d := d) (s := s) g now (fun ts => buildLapse g now ts skew) _ _ sign with
    ⟨e,happly⟩ | ⟨ts,updated,record,s',hbuild,hlowers,happly⟩
  · exact .inl ⟨e,happly⟩
  · obtain ⟨_,haccepted,hbuilt⟩ := buildLapse_ok hbuild
    obtain ⟨rfl,rfl⟩ := Prod.mk.inj hbuilt
    exact .inr ⟨ts,s',haccepted,hlowers,happly⟩

structure Lapses (d : Deployment F) (s : CeremonyState) (principal : Principal) (actionClass : String) (g : GrantDocument)
    (now : Moment) (skew : Int) (sign : Option (PromotionRecord → Json)) (ts : String) (s' : CeremonyState) : Prop where
  read : ∃ r, getGrant d.hmac d.validate d.backend s.store principal actionClass = .ok r ∧ r.grant = some g
  pending : g.lapsePending now skew = .ok true
  accepted : (lapseRecord g ts).accepted = true
  lowers : Lowers d s g now sign ts (lapsedGrant g ts) (lapseRecord g ts) s'

theorem runLapse_cases (principal : Principal) (actionClass : String) (now : Moment) (skew : Int)
    (sign : Option (PromotionRecord → Json)) :
    (((runLapse principal actionClass now skew sign : Ceremony F _).exec d.perform s).2 = s ∧
        ∀ outcome, ((runLapse principal actionClass now skew sign : Ceremony F _).exec d.perform s).1 = .ok outcome →
          outcome.status ≠ .lapsed ∧ outcome.record = none) ∨
      ∃ g ts s' outcome, Lapses d s principal actionClass g now skew sign ts s' ∧
        (runLapse principal actionClass now skew sign : Ceremony F _).exec d.perform s = (.ok outcome,s') ∧
        outcome.status = .lapsed ∧ outcome.record = some (lapseRecord g ts) ∧ outcome.updatedGrant = some (lapsedGrant g ts) := by
  rw [runLapse,Prog.exec_bind,exec_getGrant]
  cases hread : getGrant d.hmac d.validate d.backend s.store principal actionClass with
  | error e => exact .inl ⟨rfl,by simp [raised,Prog.exec]⟩
  | ok r =>
    simp only [raised,Prog.andThen_ok]
    cases hq : r.quarantined with
    | true => exact .inl ⟨rfl,by simp⟩
    | false =>
      cases hg : r.grant with
      | none => exact .inl ⟨rfl,by simp⟩
      | some g =>
        cases hcertified : g.certifiedUntil with
        | none => exact .inl ⟨by simp [hcertified],by simp [hcertified]⟩
        | some certified =>
          simp only [hcertified,Bool.false_eq_true,if_false,Prog.exec_bind,exec_judge]
          cases hpassed : g.termPassed now skew with
          | error e => exact .inl ⟨rfl,by simp [raised,Prog.exec]⟩
          | ok passed =>
            cases passed with
            | false => exact .inl ⟨rfl,by simp [raised]⟩
            | true =>
              simp only [raised,Prog.andThen_ok,Bool.true_eq_false,if_false,Prog.exec_bind,exec_judge]
              cases hpending : g.lapsePending now skew with
              | error e => exact .inl ⟨rfl,by simp [Prog.exec]⟩
              | ok pending =>
                cases pending with
                | false => exact .inl ⟨rfl,by simp⟩
                | true =>
                  simp only [Prog.andThen_ok,Bool.true_eq_false,if_false,Prog.exec_tryCatch,Prog.exec_bind]
                  rcases exec_applyLapse (F := F) (d := d) (s := s) g now skew sign with
                    ⟨e,happly⟩ | ⟨ts,s',haccepted,hlowers,happly⟩
                  · rw [happly]
                    cases htext : lapseConflictText e with
                    | none => exact .inl ⟨by simp [Prog.exec,htext],by simp [Prog.exec,htext]⟩
                    | some text => exact .inl ⟨by simp [Prog.exec,htext],by simp [Prog.exec,htext]⟩
                  · rw [happly]
                    exact .inr ⟨g,ts,s',_,⟨⟨r,hread,hg⟩,hpending,haccepted,hlowers⟩,rfl,rfl,rfl,rfl⟩

theorem lapse_lowering (g : GrantDocument) (ts : String) : LoweringOf g (lapsedGrant g ts) (lapseRecord g ts) ts where
  principal := rfl
  actionClass := rfl
  term := rfl
  recordPrincipal := rfl
  recordClass := rfl
  recordTs := rfl
  notReattestation := by simp [lapseRecord]
  lapse := fun _ => ⟨rfl,rfl⟩

theorem accepted_parts {isLabelLatency : String → Bool} (h : g.accepted isLabelLatency = true) :
    g.certifiedUntil.all isUtcInstant = true ∧ g.lastSafeLevel ≠ .outOfLoop ∧ isLabelLatency g.labelLatency = true := by
  simp only [GrantDocument.accepted,Bool.and_eq_true,decide_eq_true_iff] at h
  exact ⟨h.1.1,h.1.2,h.2⟩

theorem lapseRecord_accepted {isLabelLatency : String → Bool} (h : g.accepted isLabelLatency = true)
    (hlower : autonomyRank g.lastSafeLevel < autonomyRank g.level) (ts : String) : (lapseRecord g ts).accepted = true := by
  obtain ⟨hterm,hsafe,_⟩ := accepted_parts h
  have hrank : autonomyRank g.lastSafeLevel ≤ autonomyRank g.level := Nat.le_of_lt hlower
  cases hcertified : g.certifiedUntil with
  | none => simp [accepted,lapseRecord,hcertified,shapeRulesPerRecordType,evaluatorShape,noRaise,hsafe,hrank]
  | some certified =>
    have hutc : isUtcInstant certified = true := by simpa [hcertified] using hterm
    simp [accepted,lapseRecord,hcertified,hutc,isTermBearing,shapeRulesPerRecordType,evaluatorShape,noRaise,hsafe,hrank]

theorem lapse_due (h : g.lapsePending now skew = .ok true) :
    (∃ certified, g.certifiedUntil = some certified) ∧ g.termPassed now skew = .ok true ∧
      autonomyRank g.lastSafeLevel < autonomyRank g.level := by
  obtain ⟨passed,hpassed,hiff⟩ := lapsePending_ok h
  obtain ⟨rfl,hlower⟩ := hiff.mp rfl
  refine ⟨?_,hpassed,hlower⟩
  cases hcertified : g.certifiedUntil with
  | none =>
    simp only [GrantDocument.termPassed,hcertified] at hpassed
    cases hpassed
  | some certified => exact ⟨certified,rfl⟩

theorem runLapse_lands (sign : Option (PromotionRecord → Json)) {principal : Principal} {actionClass : String} {ts : String} (hs : Intact d s)
    (hholds : Holds d s principal actionClass g) (hpending : g.lapsePending now skew = .ok true)
    (hstamp : nextLedgerTs d.backend modelValidateJson s.store.records g.principal g.actionClass (Moment.reading now) = .ok ts) :
    ∃ s' outcome, Lapses d s principal actionClass g now skew sign ts s' ∧
      (runLapse principal actionClass now skew sign : Ceremony F _).exec d.perform s = (.ok outcome,s') ∧
      outcome.status = .lapsed ∧ outcome.record = some (lapseRecord g ts) ∧ outcome.updatedGrant = some (lapsedGrant g ts) := by
  obtain ⟨⟨certified,hcertified⟩,hpassed,hlower⟩ := lapse_due hpending
  have haccepted := lapseRecord_accepted hholds.accepted hlower ts
  have hbuild : buildLapse g now ts skew = .ok (lapsedGrant g ts,lapseRecord g ts) := by
    rw [buildLapse,hpending,construct_ok.mpr ⟨haccepted,rfl⟩]
    rfl
  obtain ⟨s',hlowers,happly⟩ := applyLowering_lands sign (fun ts => buildLapse g now ts skew) hs.kept hholds hbuild
    (lapse_lowering g ts) hstamp
    (.lapseConflict ("grant " ++ g.coordinate ++
      " is missing or was modified between evaluation and the lapse write; re-read and re-evaluate"))
    (.lapseConflict ("grant " ++ g.coordinate ++
      " was modified between evaluation and the lapse write (conditional write failed); nothing was written — re-read and " ++
      "re-evaluate"))
  obtain ⟨r,hread,hg⟩ := hholds
  obtain ⟨item,_,_,_,hr⟩ := getGrant_grant hread hg
  refine ⟨s',lapsedOutcome (principal.agentId ++ "/" ++ actionClass) certified now skew g (lapsedGrant g ts) (lapseRecord g ts),
    ⟨⟨r,hread,hg⟩,hpending,haccepted,hlowers⟩,?_,rfl,rfl,rfl⟩
  rw [runLapse,Prog.exec_bind,exec_getGrant,hread]
  simp only [raised,Prog.andThen_ok,hr,Bool.false_eq_true,if_false,hcertified,Prog.exec_bind,exec_judge,hpassed,hpending,
    Bool.true_eq_false,Prog.exec_tryCatch]
  rw [applyLapse,happly]
  rfl

end Lemmas

end SafeAgents.Grants
