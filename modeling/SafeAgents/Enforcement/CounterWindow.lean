import SafeAgents.Enforcement.CounterKeys
import SafeAgents.Schemas.IsoRange

namespace SafeAgents.Enforcement

open Calendar Lexical CounterKeys

def periodStep : CounterPeriod → Int
  | .utcDay => 86400 * microsPerSecond
  | .utcHour => 3600 * microsPerSecond

def maxWindowPeriods : CounterPeriod → Int
  | .utcDay => 366
  | .utcHour => 8784

def periodName : CounterPeriod → String
  | .utcDay => "utc-day"
  | .utcHour => "utc-hour"

def bucketForm : CounterPeriod → String
  | .utcDay => "YYYYMMDD"
  | .utcHour => "YYYYMMDDTHH"

-- strptime's own ValueError texts are the library's and stay unnamed.
inductive WindowError where
  | value (text : String)
  | strptime (bucket : String)
  | overflow
  deriving DecidableEq

section Reader
variable (unicodeDigit : Char → Bool) (digitValue : Char → Option Nat)

-- The \d of strptime's pattern and int() also read digits outside ASCII.
def decimal (c : Char) : Option Nat := if c.isDigit then some (c.toNat - '0'.toNat) else if 127 < c.toNat then digitValue c else none

def decimals (l : List Char) : Option Int := (l.mapM (decimal digitValue)).map fun digits => (digits.foldl (fun n d => 10 * n + d) 0 : Nat)

-- Of a bucket of the right length every field has its full width, or strptime leaves characters over.
def strptime (bucket : String) (period : CounterPeriod) : Option Int := do
  let l := bucket.toList
  let year ← decimals digitValue (l.take 4)
  let month ← decimals digitValue ((l.drop 4).take 2)
  let day ← decimals digitValue ((l.drop 6).take 2)
  let hour ← match period with
    | .utcDay => some 0
    | .utcHour => decimals digitValue (l.drop 9)
  if 1 ≤ year ∧ 1 ≤ month ∧ month ≤ 12 ∧ 1 ≤ day ∧ day ≤ daysInMonth year month ∧ hour < 24 then
    some (daysOfCivil { year, month, day } * microsPerDay + hour * (3600 * microsPerSecond))
  else none

def requireBucket (bucket : String) (period : CounterPeriod) : Except WindowError Unit :=
  if validateBucket unicodeDigit bucket period then .ok ()
  else .error (.value (periodName period ++ " bucket must be a " ++ bucketForm period ++ " string, got " ++ pyRepr bucket))

def anchorOf (now : Int) (period : CounterPeriod) : Option String → Except WindowError Int
  | none => .ok now
  | some bucket => do
    requireBucket unicodeDigit bucket period
    match strptime digitValue bucket period with
    | none => .error (.strptime bucket)
    | some anchor => .ok anchor

-- A datetime before year 1 does not exist: the subtraction raises.
def bucketBefore (anchor : Int) (period : CounterPeriod) (offset : Nat) : Except WindowError String :=
  if Representable (anchor - offset * periodStep period) then .ok (periodBucketOf (anchor - offset * periodStep period) period)
  else .error .overflow

def readCounterWindow (readCounter : String → ℚ) (now : Int) (principal : Principal) (tool op suffix : String) (windowPeriods : Int)
    (period : CounterPeriod) (anchorBucket : Option String) : Except WindowError ℚ := do
  if ¬ (1 ≤ windowPeriods ∧ windowPeriods ≤ maxWindowPeriods period) then
    .error (.value ("window_periods must be between 1 and " ++ toString (maxWindowPeriods period) ++ " for " ++ periodName period ++
      ", got " ++ toString windowPeriods))
  else
    let anchor ← anchorOf unicodeDigit digitValue now period anchorBucket
    (List.range windowPeriods.toNat).foldlM (fun total offset => do
      let bucket ← bucketBefore anchor period offset
      requireBucket unicodeDigit bucket period
      return total + readCounter (scopedCounterKey principal tool op bucket suffix)) 0

end Reader

def compactChars (c : CivilDate) : List Char := fixedWidth 4 c.year.toNat ++ (fixedWidth 2 c.month.toNat ++ fixedWidth 2 c.day.toNat)

def hourChars (period : CounterPeriod) (t : Int) : List Char :=
  match period with
  | .utcDay => []
  | .utcHour => 'T' :: fixedWidth 2 (hourOf t).toNat

theorem bucket_toList (t : Int) (period : CounterPeriod) :
    (periodBucketOf t period).toList = compactChars (dateOf t) ++ hourChars period t := by
  have htee : "T".toList = ['T'] := rfl
  cases period <;> simp [periodBucketOf,compactChars,hourChars,padded_toList,htee]

theorem hourOf_bounds (t : Int) : 0 ≤ hourOf t ∧ hourOf t < 24 := by
  simp only [hourOf]
  omega

theorem fixedWidth_front {w n m : Nat} {x y : List Char} (hw : 0 < w) (hn : n < 10 ^ w) (hm : m < 10 ^ w)
    (h : fixedWidth w n ++ x = fixedWidth w m ++ y) : n = m ∧ x = y := by
  obtain ⟨hdigits,hrest⟩ := List.append_inj h (by rw [length_fixedWidth hw hn,length_fixedWidth hw hm])
  have hvalue := congrArg (fun l => Nat.ofDigitChars 10 l 0) hdigits
  simp only [ofDigitChars_fixedWidth] at hvalue
  exact ⟨hvalue,hrest⟩

structure Dated (c : CivilDate) : Prop where
  year : 1 ≤ c.year ∧ c.year ≤ 9999
  month : 1 ≤ c.month ∧ c.month ≤ 12
  day : 1 ≤ c.day ∧ c.day ≤ 31

theorem dated {t : Int} (h : Representable t) : Dated (dateOf t) := ⟨year_bounds h,month_bounds _,day_bounds _⟩

theorem compactChars_front {c d : CivilDate} {x y : List Char} (hc : Dated c) (hd : Dated d)
    (h : compactChars c ++ x = compactChars d ++ y) : c = d ∧ x = y := by
  obtain ⟨hcy,hcm,hcd⟩ := hc
  obtain ⟨hdy,hdm,hdd⟩ := hd
  simp only [compactChars,List.append_assoc] at h
  obtain ⟨hyear,h⟩ := fixedWidth_front (by decide) (by omega) (by omega) h
  obtain ⟨hmonth,h⟩ := fixedWidth_front (by decide) (by omega) (by omega) h
  obtain ⟨hday,h⟩ := fixedWidth_front (by decide) (by omega) (by omega) h
  refine ⟨?_,h⟩
  obtain ⟨cy,cm,cd⟩ := c
  obtain ⟨dy,dm,dd⟩ := d
  dsimp only at *
  congr 1 <;> omega

theorem step_pos (period : CounterPeriod) : 0 < periodStep period := by cases period <;> decide

theorem bucket_eq_iff {t t' : Int} (ht : Representable t) (ht' : Representable t') (period : CounterPeriod) :
    periodBucketOf t period = periodBucketOf t' period ↔ t / periodStep period = t' / periodStep period := by
  have hday : ∀ s : Int, s / (86400 * microsPerSecond) = secondOf s / 86400 := by
    intro s
    simp only [secondOf,microsPerSecond]
    omega
  constructor
  · intro h
    have hlist := congrArg String.toList h
    rw [bucket_toList,bucket_toList] at hlist
    obtain ⟨hdate,hhour⟩ := compactChars_front (dated ht) (dated ht') hlist
    have hdays : secondOf t / 86400 = secondOf t' / 86400 := by
      rw [← daysOfCivil_civilOfDays (secondOf t / 86400),← daysOfCivil_civilOfDays (secondOf t' / 86400)]
      exact congrArg daysOfCivil hdate
    cases period with
    | utcDay =>
      rw [periodStep,hday,hday]
      exact hdays
    | utcHour =>
      have hb := hourOf_bounds t
      have hb' := hourOf_bounds t'
      have hwidth : fixedWidth 2 (hourOf t).toNat ++ [] = fixedWidth 2 (hourOf t').toNat ++ [] := by
        rw [List.append_nil,List.append_nil]
        exact (List.cons.inj hhour).2
      have hhours := (fixedWidth_front (by decide) (by omega) (by omega) hwidth).1
      simp only [periodStep,hourOf,secondOf,microsPerSecond] at *
      omega
  · intro h
    apply String.toList_injective
    rw [bucket_toList,bucket_toList]
    cases period with
    | utcDay =>
      rw [periodStep,hday,hday] at h
      rw [dateOf,dateOf,h]
      rfl
    | utcHour =>
      have hdays : secondOf t / 86400 = secondOf t' / 86400 := by
        simp only [periodStep,secondOf,microsPerSecond] at h ⊢
        omega
      have hhours : hourOf t = hourOf t' := by
        simp only [periodStep,hourOf,secondOf,microsPerSecond] at h ⊢
        omega
      rw [dateOf,dateOf,hdays,hourChars,hourChars,hhours]

theorem compactChars_lt {c d : CivilDate} (h : c.Before d) (hc : Dated c) (hd : Dated d) : compactChars c < compactChars d := by
  obtain ⟨hcy,hcm,hcd⟩ := hc
  obtain ⟨hdy,hdm,hdd⟩ := hd
  simp only [CivilDate.Before,CivilDate.monthIndex] at h
  apply append_lt_append_of_blocks (by rw [four_digits (show c.year < 10000 by omega),four_digits (show d.year < 10000 by omega)])
  by_cases hyear : c.year < d.year
  · left
    exact fixedWidth_int_lt (by decide) (by omega) (by omega) hyear
  · have hsame : c.year = d.year := by omega
    right
    refine ⟨by rw [hsame],?_⟩
    apply append_lt_append_of_blocks
      (by rw [two_digits (show c.month < 100 by omega),two_digits (show d.month < 100 by omega)])
    by_cases hmonth : c.month < d.month
    · left
      exact fixedWidth_int_lt (by decide) (by omega) (by omega) hmonth
    · have hsame' : c.month = d.month := by omega
      right
      exact ⟨by rw [hsame'],fixedWidth_int_lt (by decide) (by omega) (by omega) (by omega)⟩

theorem length_compactChars {c : CivilDate} (h : Dated c) : (compactChars c).length = 8 := by
  obtain ⟨hy,hm,hd⟩ := h
  simp only [compactChars,List.length_append,four_digits (show c.year < 10000 by omega),two_digits (show c.month < 100 by omega),
    two_digits (show c.day < 100 by omega)]

theorem bucket_lt_iff {t u : Int} (ht : Representable t) (hu : Representable u) (period : CounterPeriod) :
    periodBucketOf t period < periodBucketOf u period ↔ t / periodStep period < u / periodStep period := by
  have hmono : ∀ {t u : Int}, Representable t → Representable u → t / periodStep period < u / periodStep period →
      periodBucketOf t period < periodBucketOf u period := by
    intro t u ht hu h
    rw [String.lt_iff,bucket_toList,bucket_toList]
    apply append_lt_append_of_blocks (by rw [length_compactChars (dated ht),length_compactChars (dated hu)])
    by_cases hday : secondOf t / 86400 < secondOf u / 86400
    · left
      exact compactChars_lt (civilOfDays_before hday) (dated ht) (dated hu)
    · cases period with
      | utcDay =>
        simp only [periodStep,secondOf,microsPerSecond] at h hday
        omega
      | utcHour =>
        have hsame : secondOf t / 86400 = secondOf u / 86400 := by
          simp only [periodStep,secondOf,microsPerSecond] at h hday ⊢
          omega
        have hhours : hourOf t < hourOf u := by
          simp only [periodStep,hourOf,secondOf,microsPerSecond] at h hsame ⊢
          omega
        have hbt := hourOf_bounds t
        have hbu := hourOf_bounds u
        right
        refine ⟨by rw [dateOf,dateOf,hsame],List.cons_lt_cons_iff.mpr (.inr ⟨rfl,?_⟩)⟩
        exact fixedWidth_int_lt (by decide) hbt.1 (by omega) hhours
  constructor
  · intro hlt
    rcases Int.lt_trichotomy (t / periodStep period) (u / periodStep period) with h | h | h
    · exact h
    · rw [(bucket_eq_iff ht hu period).mpr h] at hlt
      exact absurd hlt (String.lt_irrefl _)
    · exact absurd hlt (String.lt_asymm (hmono hu ht h))
  · exact hmono ht hu

theorem periodStep_divides {t : Int} (ht : Representable t) (period : CounterPeriod) :
    Representable (t / periodStep period * periodStep period) := by
  cases period <;>
    simp only [Representable,minInstant,maxInstant,periodStep,microsPerSecond] at ht ⊢ <;>
    omega

section Anchor
variable (unicodeDigit : Char → Bool) (digitValue : Char → Option Nat)

theorem validate_rendered {t : Int} (ht : Representable t) (period : CounterPeriod) :
    validateBucket unicodeDigit (periodBucketOf t period) period = true := by
  have hdate := dated ht
  have hy := hdate.year
  have hm := hdate.month
  have hd := hdate.day
  have hh := hourOf_bounds t
  have hlen : (compactChars (dateOf t)).length = 8 := length_compactChars hdate
  have hdigits : ∀ c ∈ compactChars (dateOf t), isdigit unicodeDigit c = true := by
    intro c hc
    have hall : AllDigits (compactChars (dateOf t)) := by
      intro c hc
      rcases List.mem_append.mp hc with hc | hc
      · exact allDigits_fixedWidth _ _ c hc
      · rcases List.mem_append.mp hc with hc | hc <;> exact allDigits_fixedWidth _ _ c hc
    rw [isdigit,hall c hc]
    rfl
  cases period with
  | utcDay =>
    simp only [validateBucket,bucket_toList,hourChars,List.append_nil,hlen,decide_true,Bool.true_and]
    exact List.all_eq_true.mpr hdigits
  | utcHour =>
    have hwidth : (fixedWidth 2 (hourOf t).toNat).length = 2 := length_fixedWidth (by decide) (by omega)
    have htake : (compactChars (dateOf t) ++ 'T' :: fixedWidth 2 (hourOf t).toNat).take 8 = compactChars (dateOf t) := by
      rw [List.take_append_of_le_length (by omega),List.take_of_length_le (by omega)]
    have hdrop : (compactChars (dateOf t) ++ 'T' :: fixedWidth 2 (hourOf t).toNat).drop 9 = fixedWidth 2 (hourOf t).toNat := by
      rw [List.drop_append,List.drop_of_length_le (by omega),hlen]
      rfl
    have hmark : (compactChars (dateOf t) ++ 'T' :: fixedWidth 2 (hourOf t).toNat)[8]? = some 'T' := by
      rw [List.getElem?_append_right (by omega),hlen]
      rfl
    simp only [validateBucket,bucket_toList,hourChars,List.length_append,List.length_cons,hlen,hwidth,htake,hdrop,hmark]
    refine Bool.and_eq_true_iff.mpr ⟨by decide,List.all_eq_true.mpr fun c hc => ?_⟩
    rcases List.mem_append.mp hc with hc | hc
    · exact hdigits c hc
    · rw [isdigit,allDigits_fixedWidth _ _ c hc]
      rfl

theorem decimals_fixedWidth (w n : Nat) : decimals digitValue (fixedWidth w n) = some (n : Int) := by
  have hread : ∀ l : List Char, AllDigits l → l.mapM (decimal digitValue) = some (l.map fun c => c.toNat - '0'.toNat) := by
    intro l hl
    induction l with
    | nil => rfl
    | cons c l ih =>
      rw [List.mapM_cons,ih fun d hd => hl d (List.mem_cons_of_mem _ hd),decimal,hl c List.mem_cons_self]
      rfl
  have hvalue : ∀ (l : List Char) (init : Nat), (l.map fun c => c.toNat - '0'.toNat).foldl (fun n d => 10 * n + d) init =
      Nat.ofDigitChars 10 l init := by
    intro l init
    rw [List.foldl_map,Nat.ofDigitChars_eq_foldl]
  rw [decimals,hread _ (allDigits_fixedWidth w n),Option.map_some,hvalue,ofDigitChars_fixedWidth]

theorem strptime_rendered {t : Int} (ht : Representable t) (period : CounterPeriod) :
    strptime digitValue (periodBucketOf t period) period = some (t / periodStep period * periodStep period) := by
  have hdate := dated ht
  have hy := hdate.year
  have hm := hdate.month
  have hd := hdate.day
  have hh := hourOf_bounds t
  have hdays := day_le_daysInMonth (secondOf t / 86400)
  have hciv := daysOfCivil_civilOfDays (secondOf t / 86400)
  have hyear : (fixedWidth 4 (dateOf t).year.toNat).length = 4 := length_fixedWidth (by decide) (by omega)
  have hmonth : (fixedWidth 2 (dateOf t).month.toNat).length = 2 := length_fixedWidth (by decide) (by omega)
  have hday : (fixedWidth 2 (dateOf t).day.toNat).length = 2 := length_fixedWidth (by decide) (by omega)
  have hlist : (periodBucketOf t period).toList =
      fixedWidth 4 (dateOf t).year.toNat ++ (fixedWidth 2 (dateOf t).month.toNat ++ (fixedWidth 2 (dateOf t).day.toNat ++
        hourChars period t)) := by
    rw [bucket_toList,compactChars]
    simp only [List.append_assoc]
  have hdropYear : (periodBucketOf t period).toList.drop 4 = fixedWidth 2 (dateOf t).month.toNat ++
      (fixedWidth 2 (dateOf t).day.toNat ++ hourChars period t) := by
    rw [hlist,List.drop_left' hyear]
  have hdropMonth : (periodBucketOf t period).toList.drop 6 = fixedWidth 2 (dateOf t).day.toNat ++ hourChars period t := by
    rw [show 6 = 4 + 2 from rfl,← List.drop_drop,hdropYear,List.drop_left' hmonth]
  have hdropDay : (periodBucketOf t period).toList.drop 8 = hourChars period t := by
    rw [show 8 = 6 + 2 from rfl,← List.drop_drop,hdropMonth,List.drop_left' hday]
  have hdropMark : (periodBucketOf t period).toList.drop 9 = (hourChars period t).drop 1 := by
    rw [show 9 = 8 + 1 from rfl,← List.drop_drop,hdropDay]
  have htakeYear : (periodBucketOf t period).toList.take 4 = fixedWidth 4 (dateOf t).year.toNat := by
    rw [hlist,List.take_left' hyear]
  have hnat : ∀ n : Int, 0 ≤ n → ((n.toNat : Nat) : Int) = n := fun n hn => Int.toNat_of_nonneg hn
  have hvalid : 1 ≤ (dateOf t).year ∧ 1 ≤ (dateOf t).month ∧ (dateOf t).month ≤ 12 ∧ 1 ≤ (dateOf t).day ∧
      (dateOf t).day ≤ daysInMonth (dateOf t).year (dateOf t).month := ⟨hy.1,hm.1,hm.2,hd.1,hdays⟩
  rw [strptime,htakeYear,hdropYear,hdropMonth,hdropMark,List.take_left' hmonth,List.take_left' hday,decimals_fixedWidth,
    decimals_fixedWidth,decimals_fixedWidth]
  simp only [Option.bind_eq_bind,Option.bind_some,hnat _ (show 0 ≤ (dateOf t).year by omega),
    hnat _ (show 0 ≤ (dateOf t).month by omega),hnat _ (show 0 ≤ (dateOf t).day by omega)]
  have hdaysOf : daysOfCivil { year := (dateOf t).year, month := (dateOf t).month, day := (dateOf t).day } = secondOf t / 86400 := hciv
  cases period with
  | utcDay =>
    simp only [hdaysOf]
    rw [if_pos ⟨hvalid.1,hvalid.2.1,hvalid.2.2.1,hvalid.2.2.2.1,hvalid.2.2.2.2,by decide⟩]
    simp only [periodStep,microsPerDay,secondOf,microsPerSecond,Option.some.injEq]
    omega
  | utcHour =>
    simp only [hourChars,List.drop_succ_cons,List.drop_zero,decimals_fixedWidth,Option.bind_some,hnat _ hh.1,hdaysOf]
    rw [if_pos ⟨hvalid.1,hvalid.2.1,hvalid.2.2.1,hvalid.2.2.2.1,hvalid.2.2.2.2,hh.2⟩]
    simp only [periodStep,microsPerDay,hourOf,secondOf,microsPerSecond,Option.some.injEq]
    omega

end Anchor

def bucketAt (u : Int) (period : CounterPeriod) (offset : Nat) : String :=
  periodBucketOf ((u / periodStep period - offset) * periodStep period) period

def windowBuckets (u : Int) (period : CounterPeriod) (n : Nat) : List String := (List.range n).map (bucketAt u period)

def InWindow (u : Int) (period : CounterPeriod) (n : Nat) (t : Int) : Prop :=
  u / periodStep period - n < t / periodStep period ∧ t / periodStep period ≤ u / periodStep period

instance (u : Int) (period : CounterPeriod) (n : Nat) (t : Int) : Decidable (InWindow u period n t) := inferInstanceAs (Decidable (_ ∧ _))

def Reaches (u : Int) (period : CounterPeriod) (n : Nat) : Prop :=
  Representable ((u / periodStep period - (n - 1)) * periodStep period)

instance (u : Int) (period : CounterPeriod) (n : Nat) : Decidable (Reaches u period n) := inferInstanceAs (Decidable (Representable _))

section Tiling
variable {u : Int} {period : CounterPeriod} {n : Nat}

theorem reaches_each (hu : Representable u) (hreach : Reaches u period n) {k : Nat} (hk : k < n) :
    Representable ((u / periodStep period - k) * periodStep period) := by
  have hlast := periodStep_divides hu period
  have hle : (u / periodStep period - (n - 1)) * periodStep period ≤ (u / periodStep period - k) * periodStep period :=
    Int.mul_le_mul_of_nonneg_right (by omega) (Int.le_of_lt (step_pos period))
  have hge : (u / periodStep period - k) * periodStep period ≤ u / periodStep period * periodStep period :=
    Int.mul_le_mul_of_nonneg_right (by omega) (Int.le_of_lt (step_pos period))
  exact ⟨Int.le_trans hreach.1 hle,Int.le_trans hge hlast.2⟩

theorem rendered_at (hu : Representable u) (hreach : Reaches u period n) {k : Nat} (hk : k < n) {t : Int} (ht : Representable t) :
    periodBucketOf t period = bucketAt u period k ↔ t / periodStep period = u / periodStep period - k := by
  rw [bucketAt,bucket_eq_iff ht (reaches_each hu hreach hk),Int.mul_ediv_cancel _ (Int.ne_of_gt (step_pos period))]

theorem windowBuckets_nodup (hu : Representable u) (hreach : Reaches u period n) : (windowBuckets u period n).Nodup := by
  rw [windowBuckets,List.nodup_map_iff_inj_on List.nodup_range]
  intro k hk l hl h
  have hkn := List.mem_range.mp hk
  have hln := List.mem_range.mp hl
  have hsame := (rendered_at hu hreach hln (reaches_each hu hreach hkn)).mp h
  rw [Int.mul_ediv_cancel _ (Int.ne_of_gt (step_pos period))] at hsame
  omega

theorem mem_windowBuckets (hu : Representable u) (hreach : Reaches u period n) {t : Int} (ht : Representable t) :
    periodBucketOf t period ∈ windowBuckets u period n ↔ InWindow u period n t := by
  rw [windowBuckets,List.mem_map]
  constructor
  · rintro ⟨k,hk,h⟩
    have hkn := List.mem_range.mp hk
    have hat := (rendered_at hu hreach hkn ht).mp h.symm
    constructor <;> omega
  · rintro ⟨hlow,hhigh⟩
    have hk : (u / periodStep period - t / periodStep period).toNat < n := by omega
    refine ⟨(u / periodStep period - t / periodStep period).toNat,List.mem_range.mpr hk,((rendered_at hu hreach hk ht).mpr ?_).symm⟩
    omega

theorem bucketBefore_ok (hu : Representable u) (hreach : Reaches u period n) {k : Nat} (hk : k < n) :
    bucketBefore (u / periodStep period * periodStep period) period k = .ok (bucketAt u period k) := by
  have hback : u / periodStep period * periodStep period - k * periodStep period = (u / periodStep period - k) * periodStep period :=
    (Int.sub_mul _ _ _).symm
  rw [bucketBefore,hback,if_pos (reaches_each hu hreach hk),bucketAt]

theorem sum_reads (unicodeDigit : Char → Bool) (g : String → ℚ) {read : Nat → Except WindowError String} {bucket : Nat → String} {ks : List Nat} (hread : ∀ k ∈ ks, read k = .ok (bucket k)) (hvalid : ∀ k ∈ ks, validateBucket unicodeDigit (bucket k) period = true)
    (total : ℚ) : (ks.foldlM (fun total k => do
      let bucket ← read k
      requireBucket unicodeDigit bucket period
      return total + g bucket) total : Except WindowError ℚ) = .ok (total + (ks.map fun k => g (bucket k)).sum) := by
  induction ks generalizing total with
  | nil => simp [pure,Except.pure]
  | cons k ks ih =>
    have hstep : (do
        let bucket ← read k
        requireBucket unicodeDigit bucket period
        return total + g bucket : Except WindowError ℚ) = .ok (total + g (bucket k)) := by
      have hrequired : requireBucket unicodeDigit (bucket k) period = .ok () := if_pos (hvalid k List.mem_cons_self)
      rw [hread k List.mem_cons_self]
      show (requireBucket unicodeDigit (bucket k) period >>= fun _ => pure (total + g (bucket k))) = _
      rw [hrequired]
      rfl
    rw [List.foldlM_cons,hstep]
    have hrest := ih (fun l hl => hread l (List.mem_cons_of_mem _ hl)) (fun l hl => hvalid l (List.mem_cons_of_mem _ hl))
      (total + g (bucket k))
    rw [List.map_cons,List.sum_cons,← add_assoc]
    exact hrest

theorem sum_overflows (unicodeDigit : Char → Bool) (g : String → ℚ) {read : Nat → Except WindowError String} {ks : List Nat}
    (hread : ∀ k ∈ ks, read k = .error .overflow ∨ ∃ bucket, read k = .ok bucket ∧ validateBucket unicodeDigit bucket period = true)
    (hfails : ∃ k ∈ ks, read k = .error .overflow) (total : ℚ) : (ks.foldlM (fun total k => do
      let bucket ← read k
      requireBucket unicodeDigit bucket period
      return total + g bucket) total : Except WindowError ℚ) = .error .overflow := by
  induction ks generalizing total with
  | nil => simp at hfails
  | cons k ks ih =>
    rw [List.foldlM_cons]
    rcases hread k List.mem_cons_self with hfail | ⟨bucket,hok,hvalid⟩
    · rw [hfail]
      rfl
    · have hrequired : requireBucket unicodeDigit bucket period = .ok () := if_pos hvalid
      have hlater : ∃ l ∈ ks, read l = .error .overflow := by
        obtain ⟨l,hl,hfail⟩ := hfails
        rcases List.mem_cons.mp hl with rfl | hl
        · rw [hok] at hfail
          cases hfail
        · exact ⟨l,hl,hfail⟩
      rw [hok]
      show ((requireBucket unicodeDigit bucket period >>= fun _ => pure (total + g bucket)) >>= _) = _
      rw [hrequired]
      exact ih (fun l hl => hread l (List.mem_cons_of_mem _ hl)) hlater _

theorem anchorOf_rendered (unicodeDigit : Char → Bool) (digitValue : Char → Option Nat) (now : Int) (hu : Representable u) :
    anchorOf unicodeDigit digitValue now period (some (periodBucketOf u period)) = .ok (u / periodStep period * periodStep period) := by
  rw [anchorOf,requireBucket,if_pos (validate_rendered unicodeDigit hu period),strptime_rendered digitValue hu period]
  rfl

theorem readCounterWindow_eq (unicodeDigit : Char → Bool) (digitValue : Char → Option Nat) (readCounter : String → ℚ) (now : Int)
    (principal : Principal) (tool op suffix : String) (hn : 1 ≤ n ∧ (n : Int) ≤ maxWindowPeriods period) (hu : Representable u)
    (hreach : Reaches u period n) :
    readCounterWindow unicodeDigit digitValue readCounter now principal tool op suffix n period (some (periodBucketOf u period)) =
      .ok ((windowBuckets u period n).map fun b => readCounter (scopedCounterKey principal tool op b suffix)).sum := by
  have hinside : ¬ ¬ (1 ≤ (n : Int) ∧ (n : Int) ≤ maxWindowPeriods period) := not_not.mpr ⟨by omega,hn.2⟩
  rw [readCounterWindow,if_neg hinside,anchorOf_rendered unicodeDigit digitValue now hu,windowBuckets,List.map_map]
  have hsum := sum_reads unicodeDigit (fun b => readCounter (scopedCounterKey principal tool op b suffix))
    (fun k hk => bucketBefore_ok hu hreach (List.mem_range.mp hk))
    (fun k hk => validate_rendered unicodeDigit (reaches_each hu hreach (List.mem_range.mp hk)) period) 0
  rw [zero_add] at hsum
  exact hsum

theorem readCounterWindow_overflows (unicodeDigit : Char → Bool) (digitValue : Char → Option Nat) (readCounter : String → ℚ) (now : Int)
    (principal : Principal) (tool op suffix : String) (hn : 1 ≤ n ∧ (n : Int) ≤ maxWindowPeriods period) (hu : Representable u)
    (hshort : ¬ Reaches u period n) :
    readCounterWindow unicodeDigit digitValue readCounter now principal tool op suffix n period (some (periodBucketOf u period)) =
      .error .overflow := by
  have hinside : ¬ ¬ (1 ≤ (n : Int) ∧ (n : Int) ≤ maxWindowPeriods period) := not_not.mpr ⟨by omega,hn.2⟩
  have hback : ∀ k : Nat, u / periodStep period * periodStep period - k * periodStep period =
      (u / periodStep period - k) * periodStep period := fun k => (Int.sub_mul _ _ _).symm
  rw [readCounterWindow,if_neg hinside,anchorOf_rendered unicodeDigit digitValue now hu]
  refine sum_overflows unicodeDigit (fun b => readCounter (scopedCounterKey principal tool op b suffix)) (fun k _ => ?_)
    ⟨n - 1,List.mem_range.mpr (by omega),?_⟩ 0
  · rw [bucketBefore,hback]
    by_cases hrep : Representable ((u / periodStep period - k) * periodStep period)
    · rw [if_pos hrep]
      exact .inr ⟨_,rfl,validate_rendered unicodeDigit hrep period⟩
    · rw [if_neg hrep]
      exact .inl rfl
  · have hlast : (((n - 1 : Nat) : Int)) = (n : Int) - 1 := by omega
    rw [bucketBefore,hback,hlast]
    exact if_neg hshort

end Tiling

structure Increment where
  principal : Principal
  tool : String
  op : String
  suffix : String
  period : CounterPeriod
  instant : Int
  dated : Representable instant
  delta : ℚ
  cap : ℚ

def Increment.key (i : Increment) : String := scopedCounterKey i.principal i.tool i.op (periodBucketOf i.instant i.period) i.suffix

def written (b : Backend) : EnforcementState → List Increment → EnforcementState × List Increment
  | s, [] => (s,[])
  | s, i :: rest =>
    match StoreOp.apply b (.tryIncrementCounter i.key i.delta i.cap) s with
    | (.ok true,s') => ((written b s' rest).1,i :: (written b s' rest).2)
    | (_,s') => written b s' rest

theorem increment_effect (b : Backend) (s : EnforcementState) (key : String) (delta cap : ℚ) :
    (∃ s', StoreOp.apply b (.tryIncrementCounter key delta cap) s = (.ok false,s') ∧ s'.counters = s.counters) ∨
      ∃ s', StoreOp.apply b (.tryIncrementCounter key delta cap) s = (.ok true,s') ∧
        ∀ k, s'.counter k = s.counter k + if key = k then delta else 0 := by
  rcases b.tryIncrementCounter_spec (s.counters key) delta cap with hout | ⟨hout,-⟩
  · refine .inl ⟨_,by rw [StoreOp.apply,hout],?_⟩
    simp [EnforcementState.setCounter]
  · refine .inr ⟨_,by rw [StoreOp.apply,hout],fun k => ?_⟩
    by_cases hk : key = k
    · simp [EnforcementState.setCounter,EnforcementState.counter,hk]
    · simp [EnforcementState.setCounter,EnforcementState.counter,Function.update_of_ne (Ne.symm hk),hk]

theorem written_counter (b : Backend) (s : EnforcementState) (history : List Increment) (key : String) :
    (written b s history).1.counter key =
      s.counter key + (((written b s history).2.filter fun i => i.key = key).map Increment.delta).sum := by
  induction history generalizing s with
  | nil => simp [written]
  | cons i rest ih =>
    rcases increment_effect b s i.key i.delta i.cap with ⟨s',hout,hcounters⟩ | ⟨s',hout,hcounters⟩
    · rw [written,hout]
      dsimp only
      rw [ih s',EnforcementState.counter,EnforcementState.counter,hcounters]
    · rw [written,hout]
      dsimp only
      rw [ih s',hcounters key]
      by_cases hkey : i.key = key
      · rw [if_pos hkey,List.filter_cons_of_pos (by simpa using hkey),List.map_cons,List.sum_cons,add_assoc]
      · rw [if_neg hkey,List.filter_cons_of_neg (by simpa using hkey),add_zero]

theorem written_accepted (b : Backend) (s : EnforcementState) (history : List Increment) : (written b s history).2 ⊆ history := by
  induction history generalizing s with
  | nil => exact List.Subset.refl _
  | cons i rest ih =>
    rcases increment_effect b s i.key i.delta i.cap with ⟨s',hout,-⟩ | ⟨s',hout,-⟩
    · rw [written,hout]
      exact List.subset_cons_of_subset _ (ih s')
    · rw [written,hout]
      exact List.cons_subset_cons _ (ih s')

theorem sum_by_key {α : Type} (key : α → String) (weight : α → ℚ) {keys : List String} (h : keys.Nodup) (l : List α) :
    (keys.map fun k => ((l.filter fun a => key a = k).map weight).sum).sum = ((l.filter fun a => key a ∈ keys).map weight).sum := by
  induction keys with
  | nil => simp
  | cons k keys ih =>
    obtain ⟨hfresh,hrest⟩ := List.nodup_cons.mp h
    rw [List.map_cons,List.sum_cons,ih hrest]
    clear ih
    induction l with
    | nil => simp
    | cons a l ihl =>
      by_cases hk : key a = k
      · have hnot : key a ∉ keys := hk ▸ hfresh
        rw [List.filter_cons_of_pos (by simpa using hk),List.filter_cons_of_neg (by simpa using hnot),
          List.filter_cons_of_pos (by simp [hk])]
        simp only [List.map_cons,List.sum_cons]
        rw [add_assoc,ihl]
      · by_cases hmem : key a ∈ keys
        · rw [List.filter_cons_of_neg (by simpa using hk),List.filter_cons_of_pos (by simpa using hmem),
            List.filter_cons_of_pos (by simp [hmem])]
          simp only [List.map_cons,List.sum_cons]
          rw [← ihl,add_left_comm]
        · rw [List.filter_cons_of_neg (by simpa using hk),List.filter_cons_of_neg (by simpa using hmem),
            List.filter_cons_of_neg (by simp [hk,hmem]),ihl]

def Increment.at (i : Increment) (principal : Principal) (tool op suffix : String) : Prop :=
  i.principal = principal ∧ i.tool = tool ∧ i.op = op ∧ i.suffix = suffix

instance (i : Increment) (principal : Principal) (tool op suffix : String) : Decidable (i.at principal tool op suffix) :=
  inferInstanceAs (Decidable (_ ∧ _))

structure Tiles (u : Int) (period : CounterPeriod) (n : Nat) (buckets : List String) : Prop where
  length : buckets.length = n
  distinct : buckets.Nodup
  ends : buckets.head? = some (periodBucketOf u period)
  consecutive : ∀ k < n, ∃ t, Representable t ∧ buckets[k]? = some (periodBucketOf t period) ∧ t / periodStep period = u / periodStep period - k
  covers : ∀ t, Representable t → (periodBucketOf t period ∈ buckets ↔ InWindow u period n t)

theorem windowBuckets_tile {u : Int} {period : CounterPeriod} {n : Nat} (hn : 1 ≤ n) (hu : Representable u) (hreach : Reaches u period n) :
    Tiles u period n (windowBuckets u period n) where
  length := by simp [windowBuckets]
  distinct := windowBuckets_nodup hu hreach
  ends := by
    obtain ⟨m,rfl⟩ : ∃ m, n = m + 1 := ⟨n - 1,by omega⟩
    have hnewest : periodBucketOf u period = bucketAt u period 0 := (rendered_at hu hreach (k := 0) (by omega) hu).mpr (by simp)
    rw [windowBuckets,List.range_succ_eq_map,List.map_cons,List.head?_cons,hnewest]
  consecutive := by
    intro k hk
    refine ⟨_,reaches_each hu hreach hk,?_,Int.mul_ediv_cancel _ (Int.ne_of_gt (step_pos period))⟩
    simp [windowBuckets,hk,bucketAt]
  covers := fun t ht => mem_windowBuckets hu hreach ht

theorem length_bucket {t : Int} (ht : Representable t) (period : CounterPeriod) :
    (periodBucketOf t period).toList.length = match period with
      | .utcDay => 8
      | .utcHour => 11 := by
  have hvalid := validate_rendered (fun _ => false) ht period
  cases period <;> simp only [validateBucket,Bool.and_eq_true,decide_eq_true_eq] at hvalid
  · exact hvalid.1
  · exact hvalid.1.1

theorem key_bucket {principal : Principal} {tool op suffix b b' : String}
    (h : scopedCounterKey principal tool op b suffix = scopedCounterKey principal tool op b' suffix) : b = b' := by
  simp only [scopedCounterKey,String.append_left_inj,String.append_right_inj] at h
  exact h

theorem counted_iff {principal : Principal} {tool op suffix : String} {period : CounterPeriod} {n : Nat} {u : Int} (hu : Representable u)
    (hreach : Reaches u period n) {i : Increment}
    (hdistinct : ¬ i.at principal tool op suffix → ∀ bucket ∈ windowBuckets u period n,
      i.key ≠ scopedCounterKey principal tool op bucket suffix) :
    i.key ∈ (windowBuckets u period n).map (fun b => scopedCounterKey principal tool op b suffix) ↔
      i.at principal tool op suffix ∧ i.period = period ∧ InWindow u period n i.instant := by
  rw [List.mem_map]
  constructor
  · rintro ⟨bucket,hmem,hkey⟩
    have hat : i.at principal tool op suffix := by
      by_contra hother
      exact hdistinct hother bucket hmem hkey.symm
    obtain ⟨rfl,rfl,rfl,rfl⟩ := hat
    obtain rfl := key_bucket hkey
    obtain ⟨k,hk,hbucket⟩ := List.mem_map.mp hmem
    have hperiod : i.period = period := by
      have hlen := congrArg (fun b => b.toList.length) hbucket
      rw [bucketAt,length_bucket (reaches_each hu hreach (List.mem_range.mp hk)),length_bucket i.dated] at hlen
      cases hp : i.period <;> cases period <;> simp_all
    refine ⟨⟨rfl,rfl,rfl,rfl⟩,hperiod,?_⟩
    rw [hperiod] at hmem
    exact (mem_windowBuckets hu hreach i.dated).mp hmem
  · rintro ⟨⟨rfl,rfl,rfl,rfl⟩,hperiod,hin⟩
    refine ⟨periodBucketOf i.instant period,(mem_windowBuckets hu hreach i.dated).mpr hin,?_⟩
    rw [Increment.key,hperiod]

theorem counter_windows_tile (unicodeDigit : Char → Bool) (digitValue : Char → Option Nat) (b : Backend) (now : Int)
    (principal : Principal) (tool op suffix : String) {period : CounterPeriod} {n : Nat} {u : Int}
    (hn : 1 ≤ n ∧ (n : Int) ≤ maxWindowPeriods period) (hu : Representable u) :
    (Reaches u period n → ∃ buckets, Tiles u period n buckets ∧ ∀ history : List Increment,
      (∀ i ∈ history, ¬ i.at principal tool op suffix → ∀ bucket ∈ buckets, i.key ≠ scopedCounterKey principal tool op bucket suffix) →
      readCounterWindow unicodeDigit digitValue (written b .empty history).1.counter now principal tool op suffix n period
        (some (periodBucketOf u period)) =
        .ok (((written b .empty history).2.filter fun i =>
          decide (i.at principal tool op suffix ∧ i.period = period ∧ InWindow u period n i.instant)).map Increment.delta).sum) ∧
    (¬ Reaches u period n → ∀ readCounter : String → ℚ,
      readCounterWindow unicodeDigit digitValue readCounter now principal tool op suffix n period (some (periodBucketOf u period)) =
        .error .overflow) := by
  refine ⟨fun hreach => ?_,fun hshort readCounter =>
    readCounterWindow_overflows unicodeDigit digitValue readCounter now principal tool op suffix hn hu hshort⟩
  refine ⟨windowBuckets u period n,windowBuckets_tile hn.1 hu hreach,fun history hdistinct => ?_⟩
  have hkeys : ((windowBuckets u period n).map fun bucket => scopedCounterKey principal tool op bucket suffix).Nodup :=
    (List.nodup_map_iff_inj_on (windowBuckets_nodup hu hreach)).mpr fun _ _ _ _ h => key_bucket h
  have hread : ∀ key, (written b .empty history).1.counter key =
      (((written b .empty history).2.filter fun i => i.key = key).map Increment.delta).sum := by
    intro key
    rw [written_counter]
    simp [EnforcementState.empty,EnforcementState.counter]
  have hsum := sum_by_key Increment.key Increment.delta hkeys (written b .empty history).2
  rw [List.map_map] at hsum
  rw [readCounterWindow_eq unicodeDigit digitValue _ now principal tool op suffix hn hu hreach]
  simp only [hread]
  refine congrArg Except.ok (hsum.trans ?_)
  refine congrArg (fun l => (l.map Increment.delta).sum) (List.filter_congr fun i hi => ?_)
  exact decide_eq_decide.mpr (counted_iff hu hreach (hdistinct i (written_accepted b .empty history hi)))

def assistant : Principal where
  agentId := "assistant"
  skill := "mail"
  user := "sam"
  tier := .B

theorem window_before_year_one :
    validateBucket (fun _ => false) "00010101" .utcDay = true ∧
    readCounterWindow (fun _ => false) (fun _ => none) EnforcementState.empty.counter 0 assistant "mail" "send" "sent" 2 .utcDay
      (some "00010101") = .error .overflow := by
  have hrep : Representable minInstant := by decide
  have hfirst : periodBucketOf minInstant .utcDay = "00010101" := by decide
  rw [← hfirst]
  refine ⟨validate_rendered _ hrep _,?_⟩
  exact readCounterWindow_overflows (n := 2) (fun _ => false) (fun _ => none) _ 0 assistant "mail" "send" "sent" (by decide) hrep
    (by decide)

theorem counter_windows_tile_leap_day :
    ∃ buckets, Tiles 1709251200000000 .utcDay 3 buckets ∧ ∀ history : List Increment,
      (∀ i ∈ history, ¬ i.at assistant "mail" "send" "sent" → ∀ bucket ∈ buckets,
        i.key ≠ scopedCounterKey assistant "mail" "send" bucket "sent") →
      readCounterWindow (fun _ => false) (fun _ => none) (written .memory .empty history).1.counter 0 assistant "mail" "send" "sent" 3
        .utcDay (some (periodBucketOf 1709251200000000 .utcDay)) =
        .ok (((written .memory .empty history).2.filter fun i =>
          decide (i.at assistant "mail" "send" "sent" ∧ i.period = .utcDay ∧ InWindow 1709251200000000 .utcDay 3 i.instant)).map
            Increment.delta).sum :=
  (counter_windows_tile (fun _ => false) (fun _ => none) .memory 0 assistant "mail" "send" "sent" (n := 3) (by decide)
    (by decide)).1 (by decide)

end SafeAgents.Enforcement
