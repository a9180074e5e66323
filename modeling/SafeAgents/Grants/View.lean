import SafeAgents.Grants.Read
import SafeAgents.Grants.Term

namespace SafeAgents.Grants

open Calendar Checked

def GrantDocument.view (g : GrantDocument) : Except GrantError Grant := do
  let certifiedUntil ← g.certifiedUntil.elim (.ok none) fun text => (parseCertifiedUntil text).map some
  return { level := g.level, lastSafeLevel := g.lastSafeLevel, envelopeHash := g.envelopeHash, certifiedUntil }

def GrantReadResult.view (r : GrantReadResult) : Except GrantError SafeAgents.GrantReadResult := do
  let grant ← r.grant.elim (.ok none) fun g => g.view.map some
  return { grant, quarantined := r.quarantined, quarantineReason := r.quarantineReason }

variable {g : GrantDocument} {view : Grant} {now : Moment} {skew : Int}

theorem view_ok (h : g.view = .ok view) : ∃ certifiedUntil,
    g.certifiedUntil.elim (.ok none) (fun text => (parseCertifiedUntil text).map some) = .ok certifiedUntil ∧
      view = { level := g.level, lastSafeLevel := g.lastSafeLevel, envelopeHash := g.envelopeHash, certifiedUntil } := by
  obtain ⟨certifiedUntil,hterm,hview⟩ := bind_ok.mp h
  exact ⟨certifiedUntil,hterm,(pure_ok.mp hview).symm⟩

theorem endJudgedAt_moment {judged : Moment} :
    Moment.endJudgedAt now skew = .ok judged ↔ SafeAgents.endJudgedAt now.1 skew = .ok judged.1 := by
  constructor
  · intro h
    obtain ⟨hlow,hhigh,hsum⟩ := endJudgedAt_ok h
    rw [endJudgedAt_eq hlow hhigh]
    exact datetimeSum_ok.mpr ⟨judged.2,hsum⟩
  · intro h
    have hsum := SafeAgents.endJudgedAt_ok h
    rw [SafeAgents.endJudgedAt] at h
    split at h
    · cases h
    next hlow =>
      split at h
      · cases h
      next hhigh =>
        have hbound : requireBound skew = .ok () := requireBound_ok.mpr ⟨by omega,by omega⟩
        have hrep : Representable (now.1 + skew) := hsum ▸ judged.2
        rw [Moment.endJudgedAt,bind_of_ok hbound,dif_pos hrep]
        exact congrArg Except.ok (Subtype.ext hsum.symm)

theorem termPassed_view (h : g.view = .ok view) {passed : Bool} :
    g.termPassed now skew = .ok passed ↔ SafeAgents.termPassed view now.1 skew = .ok passed := by
  obtain ⟨certifiedUntil,hterm,rfl⟩ := view_ok h
  cases huntil : g.certifiedUntil with
  | none =>
    rw [huntil] at hterm
    obtain rfl := Except.ok.inj hterm
    simp [GrantDocument.termPassed,SafeAgents.termPassed,huntil]
  | some text =>
    rw [huntil] at hterm
    obtain ⟨term,hparse,rfl⟩ : ∃ term, parseCertifiedUntil text = .ok term ∧ some term = certifiedUntil := by
      cases hread : parseCertifiedUntil text with
      | error e => simp [hread,Except.map] at hterm
      | ok term => exact ⟨term,rfl,by simpa [hread,Except.map] using hterm⟩
    simp only [GrantDocument.termPassed,SafeAgents.termPassed,huntil]
    constructor
    · intro hpassed
      obtain ⟨judged,hjudged,hrest⟩ := bind_ok.mp hpassed
      obtain ⟨term',hparse',hend⟩ := bind_ok.mp hrest
      obtain rfl : term = term' := Except.ok.inj (hparse.symm.trans hparse')
      rw [endJudgedAt_moment.mp hjudged,← pure_ok.mp hend]
      rfl
    · intro hpassed
      cases hjudged : SafeAgents.endJudgedAt now.1 skew with
      | error e => simp [hjudged,Except.map] at hpassed
      | ok judged =>
        have hrep : Representable judged := by
          rw [SafeAgents.endJudgedAt] at hjudged
          split at hjudged
          · cases hjudged
          · split at hjudged
            · cases hjudged
            · exact (datetimeSum_ok.mp hjudged).1
        have hmoment : Moment.endJudgedAt now skew = .ok ⟨judged,hrep⟩ := endJudgedAt_moment.mpr hjudged
        rw [bind_of_ok hmoment,bind_of_ok hparse]
        exact pure_ok.mpr (by simpa [hjudged,Except.map] using hpassed)

theorem effectiveLevel_view (h : g.view = .ok view) (held : Bool) {level : AutonomyLevel} :
    g.effectiveLevel now skew held = .ok level ↔ SafeAgents.effectiveLevel view now.1 skew held = .ok level := by
  have hlevels : view.level = g.level ∧ view.lastSafeLevel = g.lastSafeLevel := by
    obtain ⟨_,_,rfl⟩ := view_ok h
    exact ⟨rfl,rfl⟩
  constructor
  · intro hlevel
    obtain ⟨passed,hpassed,rfl⟩ := effectiveLevel_ok hlevel
    rw [SafeAgents.effectiveLevel,(termPassed_view h).mp hpassed,hlevels.1,hlevels.2]
    rfl
  · intro hlevel
    cases hpassed : SafeAgents.termPassed view now.1 skew with
    | error e => simp [SafeAgents.effectiveLevel,hpassed,Except.map] at hlevel
    | ok passed =>
      rw [GrantDocument.effectiveLevel,bind_of_ok ((termPassed_view h).mpr hpassed)]
      rw [SafeAgents.effectiveLevel,hpassed,hlevels.1,hlevels.2] at hlevel
      exact pure_ok.mpr (Except.ok.inj hlevel)

theorem getGrant_view {hmac : String → String} {isLabelLatency : String → Bool} {backend : RecordBackend} {s : GrantState}
    {principal : Principal} {actionClass : String} (haccepted : g.accepted isLabelLatency = true)
    (hrow : s.grants (grantRowKey backend principal actionClass) = some (buildItem hmac g)) (hview : g.view = .ok view) :
    (getGrant hmac (GrantDocument.modelValidateJson isLabelLatency) backend s principal actionClass >>= GrantReadResult.view) =
      .ok { grant := some view } := by
  rw [bind_of_ok (getGrant_written haccepted hrow)]
  simp [GrantReadResult.view,hview,Except.map,bind,Except.bind,pure,Except.pure]

end SafeAgents.Grants
