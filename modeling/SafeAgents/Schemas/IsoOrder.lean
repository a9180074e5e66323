import SafeAgents.Schemas.CivilOrder
import SafeAgents.Text.Lex

namespace SafeAgents.Calendar

open Lexical

def minInstant : Int := -62135596800000000

def maxInstant : Int := 253402300799999999

-- What a datetime of the source can hold: years 1 to 9999.
def Representable (t : Int) : Prop := minInstant ≤ t ∧ t ≤ maxInstant

instance (t : Int) : Decidable (Representable t) := inferInstanceAs (Decidable (_ ∧ _))

theorem year_bounds {t : Int} (h : Representable t) : 1 ≤ (dateOf t).year ∧ (dateOf t).year ≤ 9999 := by
  have hfirst : (civilOfDays (-719162)).year = 1 := by decide
  have hlast : (civilOfDays 2932896).year = 9999 := by decide
  have hlow : -719162 ≤ secondOf t / 86400 := by
    have hb := h.1
    simp only [minInstant,secondOf,microsPerSecond] at hb ⊢
    omega
  have hhigh : secondOf t / 86400 ≤ 2932896 := by
    have hb := h.2
    simp only [maxInstant,secondOf,microsPerSecond] at hb ⊢
    omega
  have hmono := civilOfDays_year_mono hlow
  have hmono' := civilOfDays_year_mono hhigh
  rw [dateOf]
  omega

theorem padded_toList (w : Nat) (n : Int) : (padded w n).toList = fixedWidth w n.toNat := by
  have hdigits : (toString n.toNat).toList = Nat.toDigits 10 n.toNat := Nat.toList_repr
  have hlen : (toString n.toNat).length = (Nat.toDigits 10 n.toNat).length := by rw [← hdigits,String.length_toList]
  simp only [padded,String.toList_append,String.toList_ofList,hdigits,hlen,fixedWidth]

def dateChars (c : CivilDate) : List Char :=
  fixedWidth 4 c.year.toNat ++ ('-' :: (fixedWidth 2 c.month.toNat ++ ('-' :: fixedWidth 2 c.day.toNat)))

def clockChars (s : Int) : List Char :=
  fixedWidth 2 (s % 86400 / 3600).toNat ++ (':' :: (fixedWidth 2 (s % 3600 / 60).toNat ++ (':' :: fixedWidth 2 (s % 60).toNat)))

def secondChars (s : Int) : List Char := dateChars (civilOfDays (s / 86400)) ++ ('T' :: clockChars s)

def zone : List Char := ['+','0','0',':','0','0']

def fractionChars (micros : Int) : List Char := if micros = 0 then [] else '.' :: fixedWidth 6 micros.toNat

theorem fraction_toList (micros : Int) : (fraction micros).toList = fractionChars micros := by
  simp only [fraction,fractionChars]
  split
  · rfl
  · simp [padded_toList]

theorem isoformat_toList (t : Int) :
    (isoformat t).toList = secondChars (secondOf t) ++ (fractionChars (t % microsPerSecond) ++ zone) := by
  have hdash : "-".toList = ['-'] := rfl
  have htee : "T".toList = ['T'] := rfl
  have hcolon : ":".toList = [':'] := rfl
  have hzone : "+00:00".toList = zone := rfl
  simp only [isoformat,String.toList_append,padded_toList,fraction_toList,hdash,htee,hcolon,hzone,
    secondChars,dateChars,clockChars,dateOf,hourOf,List.append_assoc,List.cons_append,List.nil_append]

theorem two_digits {n : Int} (h : n < 100) : (fixedWidth 2 n.toNat).length = 2 := length_fixedWidth (by decide) (by omega)

theorem four_digits {n : Int} (h : n < 10000) : (fixedWidth 4 n.toNat).length = 4 := length_fixedWidth (by decide) (by omega)

theorem fixedWidth_int_lt {w : Nat} {n m : Int} (hw : 0 < w) (hn : 0 ≤ n) (hm : m < 10 ^ w) (h : n < m) :
    fixedWidth w n.toNat < fixedWidth w m.toNat := by
  apply fixedWidth_lt hw _ (by omega)
  have hpow : ((10 ^ w : Nat) : Int) = 10 ^ w := by push_cast; rfl
  omega

theorem length_dateChars {c : CivilDate} (hy : c.year < 10000) (hm : c.month ≤ 12) (hd : c.day ≤ 31) :
    (dateChars c).length = 10 := by
  simp only [dateChars,List.length_append,List.length_cons,four_digits hy,two_digits (show c.month < 100 by omega),
    two_digits (show c.day < 100 by omega)]

theorem length_clockChars (s : Int) : (clockChars s).length = 8 := by
  simp only [clockChars,List.length_append,List.length_cons,two_digits (show s % 86400 / 3600 < 100 by omega),
    two_digits (show s % 3600 / 60 < 100 by omega),two_digits (show s % 60 < 100 by omega)]

theorem dateChars_lt {c d : CivilDate} (h : c.Before d) (hcy : 0 ≤ c.year) (hcm : 1 ≤ c.month) (hcd : 1 ≤ c.day)
    (hcm' : c.month ≤ 12) (hdm' : 1 ≤ d.month) (hdy : d.year < 10000) (hdm : d.month ≤ 12) (hdd : d.day ≤ 31) :
    dateChars c < dateChars d := by
  simp only [CivilDate.Before,CivilDate.monthIndex] at h
  have hcy' : c.year < 10000 := by omega
  apply append_lt_append_of_blocks (by rw [four_digits hcy',four_digits hdy])
  by_cases hyear : c.year < d.year
  · left
    exact fixedWidth_int_lt (by decide) hcy (by omega) hyear
  · have hsame : c.year = d.year := by omega
    right
    refine ⟨by rw [hsame],List.cons_lt_cons_iff.mpr (.inr ⟨rfl,?_⟩)⟩
    apply append_lt_append_of_blocks
      (by rw [two_digits (show c.month < 100 by omega),two_digits (show d.month < 100 by omega)])
    by_cases hmonth : c.month < d.month
    · left
      exact fixedWidth_int_lt (by decide) (by omega) (by omega) hmonth
    · have hsame' : c.month = d.month := by omega
      right
      refine ⟨by rw [hsame'],List.cons_lt_cons_iff.mpr (.inr ⟨rfl,?_⟩)⟩
      exact fixedWidth_int_lt (by decide) (by omega) (by omega) (by omega)

theorem clockChars_lt {s s' : Int} (h : s % 86400 < s' % 86400) : clockChars s < clockChars s' := by
  apply append_lt_append_of_blocks
    (by rw [two_digits (show s % 86400 / 3600 < 100 by omega),two_digits (show s' % 86400 / 3600 < 100 by omega)])
  by_cases hhour : s % 86400 / 3600 < s' % 86400 / 3600
  · left
    exact fixedWidth_int_lt (by decide) (by omega) (by omega) hhour
  · have hsame : s % 86400 / 3600 = s' % 86400 / 3600 := by omega
    right
    refine ⟨by rw [hsame],List.cons_lt_cons_iff.mpr (.inr ⟨rfl,?_⟩)⟩
    apply append_lt_append_of_blocks
      (by rw [two_digits (show s % 3600 / 60 < 100 by omega),two_digits (show s' % 3600 / 60 < 100 by omega)])
    by_cases hminute : s % 3600 / 60 < s' % 3600 / 60
    · left
      exact fixedWidth_int_lt (by decide) (by omega) (by omega) hminute
    · have hsame' : s % 3600 / 60 = s' % 3600 / 60 := by omega
      right
      refine ⟨by rw [hsame'],List.cons_lt_cons_iff.mpr (.inr ⟨rfl,?_⟩)⟩
      exact fixedWidth_int_lt (by decide) (by omega) (by omega) (by omega)

theorem length_secondChars {t : Int} (h : Representable t) : (secondChars (secondOf t)).length = 19 := by
  have hy := year_bounds h
  have hm := month_bounds (secondOf t / 86400)
  have hd := day_bounds (secondOf t / 86400)
  have hdate : (dateChars (civilOfDays (secondOf t / 86400))).length = 10 :=
    length_dateChars (by rw [dateOf] at hy; omega) hm.2 hd.2
  simp only [secondChars,List.length_append,List.length_cons,hdate,length_clockChars]

theorem secondChars_lt {t u : Int} (ht : Representable t) (hu : Representable u) (h : secondOf t < secondOf u) :
    secondChars (secondOf t) < secondChars (secondOf u) := by
  have hyt := year_bounds ht
  have hyu := year_bounds hu
  have hmt := month_bounds (secondOf t / 86400)
  have hmu := month_bounds (secondOf u / 86400)
  have hdt := day_bounds (secondOf t / 86400)
  have hdu := day_bounds (secondOf u / 86400)
  rw [dateOf] at hyt hyu
  apply append_lt_append_of_blocks
    (by rw [length_dateChars (by omega) hmt.2 hdt.2,length_dateChars (by omega) hmu.2 hdu.2])
  by_cases hday : secondOf t / 86400 < secondOf u / 86400
  · left
    exact dateChars_lt (civilOfDays_before hday) (by omega) hmt.1 hdt.1 hmt.2 hmu.1 (by omega) hmu.2 hdu.2
  · have hsame : secondOf t / 86400 = secondOf u / 86400 := by omega
    right
    refine ⟨by rw [hsame],List.cons_lt_cons_iff.mpr (.inr ⟨rfl,?_⟩)⟩
    exact clockChars_lt (by omega)

theorem micros_bounds (t : Int) : 0 ≤ t % microsPerSecond ∧ t % microsPerSecond < 1000000 := by
  simp only [microsPerSecond]
  omega

-- '+' sorts before '.', so a whole second sorts before every fraction of it.
theorem fractionChars_lt {m m' : Int} (hm : 0 ≤ m) (hm' : m' < 1000000) (h : m < m') (x y : List Char) :
    fractionChars m ++ (zone ++ x) < fractionChars m' ++ (zone ++ y) := by
  have hpos : m' ≠ 0 := by omega
  rw [fractionChars,fractionChars,if_neg hpos]
  by_cases hzero : m = 0
  · rw [if_pos hzero]
    exact List.cons_lt_cons_iff.mpr (.inl (by decide))
  · rw [if_neg hzero,List.cons_append,List.cons_append]
    refine List.cons_lt_cons_iff.mpr (.inr ⟨rfl,?_⟩)
    have hwidth : (fixedWidth 6 m.toNat).length = (fixedWidth 6 m'.toNat).length := by
      rw [length_fixedWidth (by decide) (by omega),length_fixedWidth (by decide) (by omega)]
    exact append_lt_append_of_length_eq hwidth (fixedWidth_int_lt (by decide) hm (by omega) h) _ _

theorem isoformat_append_lt {t u : Int} (ht : Representable t) (hu : Representable u) (h : t < u) (x y : String) :
    isoformat t ++ x < isoformat u ++ y := by
  have hmt := micros_bounds t
  have hmu := micros_bounds u
  rw [String.lt_iff,String.toList_append,String.toList_append,isoformat_toList,isoformat_toList]
  simp only [List.append_assoc]
  apply append_lt_append_of_blocks (by rw [length_secondChars ht,length_secondChars hu])
  by_cases hsecond : secondOf t < secondOf u
  · left
    exact secondChars_lt ht hu hsecond
  · have hsame : secondOf t = secondOf u := by
      simp only [secondOf,microsPerSecond] at hsecond ⊢
      omega
    have hmicros : t % microsPerSecond < u % microsPerSecond := by
      simp only [secondOf,microsPerSecond] at hsame ⊢
      omega
    right
    exact ⟨by rw [hsame],fractionChars_lt hmt.1 hmu.2 hmicros _ _⟩

end SafeAgents.Calendar
