import SafeAgents.Schemas.IsoParse

namespace SafeAgents.Calendar

theorem number_nonneg {width : Nat} {l rest : List Char} {n : Int} (h : number width l = some (n,rest)) : 0 ≤ n := by
  rw [number] at h
  split at h
  · rw [← (Prod.mk.inj (Option.some.inj h)).1]
    exact Int.natCast_nonneg _
  · cases h

theorem parseFraction_bounds {l : List Char} {m : Int} (h : parseFraction l = some m) : 0 ≤ m ∧ m < 1000000 := by
  rw [parseFraction] at h
  split at h
  next hdigits =>
    obtain rfl := Option.some.inj h
    have hkept : Lexical.AllDigits (l.take 6) := fun c hc => List.all_eq_true.mp hdigits.2 c (List.mem_of_mem_take hc)
    have hlen : (l.take 6).length ≤ 6 := List.length_take_le ..
    have hlt := Lexical.ofDigitChars_lt hkept
    refine ⟨Int.natCast_nonneg _,?_⟩
    have hscaled : Nat.ofDigitChars 10 (l.take 6) 0 * 10 ^ (6 - (l.take 6).length) < 1000000 := by
      calc Nat.ofDigitChars 10 (l.take 6) 0 * 10 ^ (6 - (l.take 6).length)
          < 10 ^ (l.take 6).length * 10 ^ (6 - (l.take 6).length) := Nat.mul_lt_mul_of_pos_right hlt (Nat.pow_pos (by decide))
        _ = 1000000 := by rw [← Nat.pow_add,Nat.add_sub_cancel' hlen]
    exact_mod_cast hscaled
  · cases h

structure ClockFace.Nonneg (f : ClockFace) : Prop where
  hour : 0 ≤ f.hour
  minute : 0 ≤ f.minute
  second : 0 ≤ f.second
  micros : 0 ≤ f.micros ∧ f.micros < 1000000

theorem parseClock_nonneg {l : List Char} {f : ClockFace} (h : parseClock l = some f) : f.Nonneg := by
  have hwhole : (0 : Int) ≤ 0 ∧ (0 : Int) < 1000000 := by decide
  rw [parseClock] at h
  obtain ⟨⟨hour,rest⟩,hhour,h⟩ := Option.bind_eq_some_iff.mp h
  have hnonneg := number_nonneg hhour
  dsimp only at h
  split at h
  · obtain rfl := Option.some.inj h
    exact ⟨hnonneg,Int.le_refl _,Int.le_refl _,hwhole⟩
  · obtain ⟨⟨minute,rest'⟩,hminute,h⟩ := Option.bind_eq_some_iff.mp h
    have hnonneg' := number_nonneg hminute
    dsimp only at h
    split at h
    · obtain rfl := Option.some.inj h
      exact ⟨hnonneg,hnonneg',Int.le_refl _,hwhole⟩
    · split at h
      · cases h
      · obtain ⟨⟨second,rest''⟩,hsecond,h⟩ := Option.bind_eq_some_iff.mp h
        have hnonneg'' := number_nonneg hsecond
        dsimp only at h
        split at h
        · obtain rfl := Option.some.inj h
          exact ⟨hnonneg,hnonneg',hnonneg'',hwhole⟩
        · split at h
          · obtain ⟨micros,hmicros,h⟩ := Option.bind_eq_some_iff.mp h
            obtain rfl := Option.some.inj h
            exact ⟨hnonneg,hnonneg',hnonneg'',parseFraction_bounds hmicros⟩
          · cases h

theorem daysInMonth_le (year month : Int) : daysInMonth year month ≤ 31 := by
  rw [daysInMonth]
  split
  · split <;> decide
  · split <;> decide

theorem daysOfCivil_bounds {c : CivilDate} (hy : 1 ≤ c.year ∧ c.year ≤ 9999) (hm : 1 ≤ c.month ∧ c.month ≤ 12)
    (hd : 1 ≤ c.day ∧ c.day ≤ 31) : -719162 ≤ daysOfCivil c ∧ daysOfCivil c ≤ 2932896 := by
  simp only [daysOfCivil,daysBeforeYear]
  split <;> omega

theorem datetime_representable {date : CivilDate} {face : ClockFace} {offset : Option Int} {d : Datetime} (hface : face.Nonneg)
    (h : datetime date face offset = some d) : Representable d.clock ∧ d.offset = offset := by
  rw [datetime] at h
  split at h
  next hvalid =>
    obtain rfl := Option.some.inj h
    obtain ⟨hy,hy',hm,hm',hd,hd',hhour,hminute,hsecond⟩ := hvalid
    have hdays := daysOfCivil_bounds ⟨hy,hy'⟩ ⟨hm,hm'⟩ ⟨hd,Int.le_trans hd' (daysInMonth_le _ _)⟩
    have hmicros := hface.micros
    have h1 := hface.hour
    have h2 := hface.minute
    have h3 := hface.second
    refine ⟨?_,rfl⟩
    simp only [Representable,minInstant,maxInstant,ClockFace.total,microsPerDay,microsPerSecond]
    omega
  · cases h

theorem fromisoformat_representable {text : String} {d : Datetime} (h : fromisoformat text = some d) : Representable d.clock := by
  have hzero : ClockFace.Nonneg { hour := 0, minute := 0, second := 0, micros := 0 } :=
    ⟨Int.le_refl _,Int.le_refl _,Int.le_refl _,by decide⟩
  rw [fromisoformat] at h
  dsimp only at h
  split at h
  · cases h
  · obtain ⟨location,-,h⟩ := Option.bind_eq_some_iff.mp h
    obtain ⟨date,-,h⟩ := Option.bind_eq_some_iff.mp h
    split at h
    · exact (datetime_representable hzero h).1
    · obtain ⟨⟨face,offset⟩,htime,h⟩ := Option.bind_eq_some_iff.mp h
      rw [parseTime] at htime
      obtain ⟨face',hface,htime⟩ := Option.bind_eq_some_iff.mp htime
      obtain ⟨zone,-,htime⟩ := Option.bind_eq_some_iff.mp htime
      cases htime
      exact (datetime_representable (parseClock_nonneg hface) h).1

theorem isoformat_lt_iff {t t' : Int} (ht : Representable t) (ht' : Representable t') : isoformat t < isoformat t' ↔ t < t' := by
  have hmono : ∀ {a b : Int}, Representable a → Representable b → a < b → isoformat a < isoformat b := by
    intro a b ha hb hab
    have h := isoformat_append_lt ha hb hab "" ""
    rwa [String.append_empty,String.append_empty] at h
  constructor
  · intro hlt
    rcases Int.lt_trichotomy t t' with h | rfl | h
    · exact h
    · exact absurd hlt (String.lt_irrefl _)
    · exact absurd hlt (String.lt_asymm (hmono ht' ht h))
  · exact hmono ht ht'

theorem isoformat_inj {t t' : Int} (ht : Representable t) (ht' : Representable t') : isoformat t = isoformat t' ↔ t = t' := by
  constructor
  · intro heq
    have hread := instant_fromisoformat ht
    rw [heq,instant_fromisoformat ht'] at hread
    exact (Option.some.inj hread).symm
  · exact congrArg isoformat

end SafeAgents.Calendar
