import SafeAgents.Grants.LedgerClock
import SafeAgents.Grants.Store

namespace SafeAgents.Grants

open Calendar Checked

def pyTimedelta (micros : Int) : String :=
  let day := 86400 * microsPerSecond
  let days := micros / day
  let seconds := micros % day / microsPerSecond
  (if days = 0 then "" else toString days ++ " day" ++ (if days = 1 ∨ days = -1 then "" else "s") ++ ", ") ++
    toString (seconds / 3600) ++ ":" ++ padded 2 (seconds % 3600 / 60) ++ ":" ++ padded 2 (seconds % 60) ++
    fraction (micros % microsPerSecond)

example : pyTimedelta (-1) = "-1 day, 23:59:59.999999" := by decide

def requireBound (bound : Int) : Except GrantError Unit := do
  refuseIf (bound < 0) (.value ("a clock-skew bound must not be negative: a negative bound would apply the skew toward MORE " ++
    "authority (PTC §6.13, GAL §6.7.6); got " ++ pyTimedelta bound))
  refuseIf (bound > maxSkew) (.value ("a clock-skew bound must be at most 86400 seconds (one day); a wider bound is a typo, " ++
    "not a clock; got " ++ pyTimedelta bound))

def Moment.endJudgedAt (now : Moment) (bound : Int) : Except GrantError Moment := do
  requireBound bound
  if h : Representable (now.1 + bound) then return ⟨now.1 + bound,h⟩ else .error .overflow

namespace GrantDocument
variable (g : GrantDocument) (now : Moment) (skew : Int)

def termPassed : Except GrantError Bool :=
  match g.certifiedUntil with
  | none => .ok false
  | some certifiedUntil => do
    let judged ← Moment.endJudgedAt now skew
    let term ← parseCertifiedUntil certifiedUntil
    return decide (judged.1 ≥ term)

def lapsePending : Except GrantError Bool := do
  let passed ← g.termPassed now skew
  return passed && decide (autonomyRank g.level > autonomyRank g.lastSafeLevel)

def lowerLevel : AutonomyLevel :=
  if autonomyRank g.lastSafeLevel < autonomyRank g.level then g.lastSafeLevel else g.level

def effectiveLevel (standingHeld : Bool := true) : Except GrantError AutonomyLevel := do
  let passed ← g.termPassed now skew
  return if standingHeld && !passed then g.level else g.lowerLevel

end GrantDocument

section Lemmas
variable {g : GrantDocument} {now later : Moment} {skew wider : Int} {held : Bool}

theorem requireBound_ok {bound : Int} : requireBound bound = .ok () ↔ 0 ≤ bound ∧ bound ≤ maxSkew := by
  rw [requireBound,then_ok,refuseIf_ok,refuseIf_ok,not_lt,not_lt]

theorem endJudgedAt_ok {judged : Moment} (h : Moment.endJudgedAt now skew = .ok judged) :
    0 ≤ skew ∧ skew ≤ maxSkew ∧ judged.1 = now.1 + skew := by
  obtain ⟨hbound,hrest⟩ := then_ok.mp h
  obtain ⟨hlow,hhigh⟩ := requireBound_ok.mp hbound
  split at hrest
  · rw [← pure_ok.mp hrest]
    exact ⟨hlow,hhigh,rfl⟩
  · cases hrest

theorem termPassed_some {certified : String} (huntil : g.certifiedUntil = some certified) {passed : Bool}
    (h : g.termPassed now skew = .ok passed) :
    ∃ term, parseCertifiedUntil certified = .ok term ∧ 0 ≤ skew ∧ skew ≤ maxSkew ∧
      (passed = true ↔ term ≤ now.1 + skew) := by
  simp only [GrantDocument.termPassed,huntil] at h
  obtain ⟨judged,hjudged,hrest⟩ := bind_ok.mp h
  obtain ⟨term,hterm,hend⟩ := bind_ok.mp hrest
  obtain ⟨hlow,hhigh,heq⟩ := endJudgedAt_ok hjudged
  refine ⟨term,hterm,hlow,hhigh,?_⟩
  rw [← pure_ok.mp hend,decide_eq_true_iff,heq]

theorem termPassed_mono {passed passed' : Bool} (hnow : now.1 ≤ later.1) (hskew : skew ≤ wider)
    (h : g.termPassed now skew = .ok passed) (h' : g.termPassed later wider = .ok passed')
    (hpassed : passed = true) : passed' = true := by
  cases huntil : g.certifiedUntil with
  | none =>
    simp only [GrantDocument.termPassed,huntil] at h
    cases h
    cases hpassed
  | some certified =>
    obtain ⟨term,hterm,_,_,hiff⟩ := termPassed_some huntil h
    obtain ⟨term',hterm',_,_,hiff'⟩ := termPassed_some huntil h'
    rw [hterm] at hterm'
    cases hterm'
    have hle := hiff.mp hpassed
    rw [hiff']
    omega

theorem lowerLevel_le (g : GrantDocument) : autonomyRank g.lowerLevel ≤ autonomyRank g.level := by
  rw [GrantDocument.lowerLevel]
  split
  next hlt => exact Nat.le_of_lt hlt
  · exact Nat.le_refl _

theorem lowerLevel_le_lastSafe (g : GrantDocument) : autonomyRank g.lowerLevel ≤ autonomyRank g.lastSafeLevel := by
  rw [GrantDocument.lowerLevel]
  split
  · exact Nat.le_refl _
  next hlt => exact Nat.le_of_not_lt hlt

theorem effectiveLevel_ok {level : AutonomyLevel} (h : g.effectiveLevel now skew held = .ok level) :
    ∃ passed, g.termPassed now skew = .ok passed ∧ level = if held && !passed then g.level else g.lowerLevel := by
  obtain ⟨passed,hpassed,hend⟩ := bind_ok.mp h
  exact ⟨passed,hpassed,(pure_ok.mp hend).symm⟩

theorem effectiveLevel_le {level : AutonomyLevel} (h : g.effectiveLevel now skew held = .ok level) :
    autonomyRank level ≤ autonomyRank g.level := by
  obtain ⟨passed,_,rfl⟩ := effectiveLevel_ok h
  split
  · exact Nat.le_refl _
  · exact lowerLevel_le g

theorem effectiveLevel_antitone {level level' : AutonomyLevel} (hnow : now.1 ≤ later.1) (hskew : skew ≤ wider)
    (h : g.effectiveLevel now skew held = .ok level) (h' : g.effectiveLevel later wider held = .ok level') :
    autonomyRank level' ≤ autonomyRank level := by
  have hbelow := effectiveLevel_le h'
  obtain ⟨passed,hpassed,rfl⟩ := effectiveLevel_ok h
  split
  · exact hbelow
  next hfell =>
    obtain ⟨passed',hpassed',rfl⟩ := effectiveLevel_ok h'
    have hstill : ¬ (held && !passed') = true := by
      intro hkept
      obtain ⟨hheld,hnot⟩ := Bool.and_eq_true_iff.mp hkept
      have hearlier : passed = true := by simpa [hheld] using hfell
      have := termPassed_mono hnow hskew hpassed hpassed' hearlier
      simp [this] at hnot
    rw [if_neg hstill]

theorem lapsePending_ok {pending : Bool} (h : g.lapsePending now skew = .ok pending) :
    ∃ passed, g.termPassed now skew = .ok passed ∧
      (pending = true ↔ passed = true ∧ autonomyRank g.lastSafeLevel < autonomyRank g.level) := by
  obtain ⟨passed,hpassed,hend⟩ := bind_ok.mp h
  refine ⟨passed,hpassed,?_⟩
  rw [← pure_ok.mp hend,Bool.and_eq_true_iff,decide_eq_true_iff]

end Lemmas

end SafeAgents.Grants
