import SafeAgents.Schemas.IsoOrder
import SafeAgents.Enforcement.Types

namespace SafeAgents

open Calendar

-- A datetime plus a timedelta, which raises past the years a datetime can hold.
def datetimeSum (t delta : Int) : Except Exn Instant :=
  if Representable (t + delta) then .ok (t + delta) else .error (.exception "date value out of range")

def maxSkew : Int := 86400 * microsPerSecond

def endJudgedAt (now : Instant) (bound : Int) : Except Exn Instant :=
  if bound < 0 then
    .error (.exception "a clock-skew bound must not be negative: a negative bound would apply the skew toward MORE authority (PTC §6.13, GAL §6.7.6)")
  else if bound > maxSkew then
    .error (.exception "a clock-skew bound must be at most 86400 seconds (one day); a wider bound is a typo, not a clock")
  else datetimeSum now bound

theorem datetimeSum_ok {t delta u : Int} : datetimeSum t delta = .ok u ↔ Representable u ∧ u = t + delta := by
  rw [datetimeSum]
  split
  next hrep =>
    constructor
    · intro hu
      obtain rfl := Except.ok.inj hu
      exact ⟨hrep,rfl⟩
    · rintro ⟨-,rfl⟩
      rfl
  next hlate =>
    constructor
    · intro hu
      cases hu
    · rintro ⟨hu,rfl⟩
      exact absurd hu hlate

theorem endJudgedAt_eq {now : Instant} {bound : Int} (hlow : 0 ≤ bound) (hhigh : bound ≤ maxSkew) :
    endJudgedAt now bound = datetimeSum now bound := by
  rw [endJudgedAt,if_neg (Int.not_lt.mpr hlow),if_neg (Int.not_lt.mpr hhigh)]

theorem endJudgedAt_ok {now t : Instant} {bound : Int} (h : endJudgedAt now bound = .ok t) : t = now + bound := by
  unfold endJudgedAt at h
  split at h
  · cases h
  · split at h
    · cases h
    · exact (datetimeSum_ok.mp h).2

end SafeAgents
