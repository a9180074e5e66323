import SafeAgents.Schemas.IsoOrder

namespace SafeAgents.Calendar

open Lexical

-- A parsed datetime: its clock face in microseconds and, when it is aware, its offset from UTC.
structure Datetime where
  clock : Int
  offset : Option Int
  deriving DecidableEq

def number (width : Nat) (l : List Char) : Option (Int × List Char) :=
  let digits := l.take width
  if digits.length = width ∧ digits.all Char.isDigit then some (Nat.ofDigitChars 10 digits 0,l.drop width) else none

def separated (sep : Char) (present : Bool) (l : List Char) : Option (List Char) :=
  if (l.head? == some sep) = present then some (if present then l.tail else l) else none

def isoWeekOneMonday (year : Int) : Int :=
  let firstDay := daysOfCivil { year, month := 1, day := 1 }
  let firstWeekday := (firstDay + 3) % 7
  let weekOneMonday := firstDay - firstWeekday
  if 3 < firstWeekday then weekOneMonday + 7 else weekOneMonday

def isoWeekToGregorian (year week day : Int) : Option CivilDate :=
  let firstWeekday := (daysOfCivil { year, month := 1, day := 1 } + 3) % 7
  let longYear := firstWeekday = 3 ∨ firstWeekday = 2 ∧ isLeapYear year
  if 1 ≤ year ∧ year ≤ 9999 ∧ (0 < week ∧ week < 53 ∨ week = 53 ∧ longYear) ∧ 0 < day ∧ day < 8 then
    some (civilOfDays (isoWeekOneMonday year + (week - 1) * 7 + (day - 1)))
  else none

def parseDate (l : List Char) : Option CivilDate := do
  let (year,rest) ← number 4 l
  let hasSep := rest.head? == some '-'
  let rest := if hasSep then rest.tail else rest
  if rest.head? = some 'W' then
    let (week,rest) ← number 2 rest.tail
    if rest = [] then isoWeekToGregorian year week 1
    else
      let rest ← separated '-' hasSep rest
      let (day,_) ← number 1 rest
      isoWeekToGregorian year week day
  else
    let (month,rest) ← number 2 rest
    let rest ← separated '-' hasSep rest
    let (day,_) ← number 2 rest
    some { year, month, day }

def separatorLocation (l : List Char) : Option Nat :=
  if l.length = 7 then some 7
  else if l[4]? = some '-' then
    if l[5]? = some 'W' then
      if l[8]? = some '-' then
        if l.length = 9 then none
        else if (l[10]?.any Char.isDigit) then some 8 else some 10
      else some 8
    else some 10
  else if l[4]? = some 'W' then
    let digitsEnd := 7 + ((l.drop 7).takeWhile Char.isDigit).length
    if digitsEnd < 9 then some digitsEnd else if digitsEnd % 2 = 0 then some 7 else some 8
  else some 8

def parseFraction (l : List Char) : Option Int :=
  let kept := l.take 6
  if kept ≠ [] ∧ l.all Char.isDigit then some (Nat.ofDigitChars 10 kept 0 * 10 ^ (6 - kept.length) : Nat) else none

structure ClockFace where
  hour : Int
  minute : Int
  second : Int
  micros : Int

-- HH[:?MM[:?SS[{.,}f+]]]
def parseClock (l : List Char) : Option ClockFace := do
  let (hour,rest) ← number 2 l
  let hasSep := rest.head? == some ':'
  if rest = [] then some { hour, minute := 0, second := 0, micros := 0 }
  else
    let rest := if hasSep then rest.tail else rest
    let (minute,rest) ← number 2 rest
    if rest = [] then some { hour, minute, second := 0, micros := 0 }
    else
      if hasSep && rest.head? != some ':' then none
      else
        let rest := if hasSep then rest.tail else rest
        let (second,rest) ← number 2 rest
        match rest with
        | [] => some { hour, minute, second, micros := 0 }
        | mark :: rest =>
          if mark = '.' ∨ mark = ',' then
            let micros ← parseFraction rest
            some { hour, minute, second, micros }
          else none

def ClockFace.total (f : ClockFace) : Int := ((f.hour * 60 + f.minute) * 60 + f.second) * microsPerSecond + f.micros

def microsPerDay : Int := 86400 * microsPerSecond

def parseZone (l : List Char) : Option (Option Int) :=
  match l with
  | [] => some none
  | ['Z'] => some (some 0)
  | mark :: rest => do
    let face ← parseClock rest
    let offset := if mark = '-' then -face.total else face.total
    if -microsPerDay < offset ∧ offset < microsPerDay then some (some offset) else none

def isZoneMark (c : Char) : Bool := c == '+' || c == '-' || c == 'Z'

def parseTime (l : List Char) : Option (ClockFace × Option Int) := do
  let face ← parseClock (l.takeWhile fun c => !isZoneMark c)
  let zone ← parseZone (l.dropWhile fun c => !isZoneMark c)
  some (face,zone)

def datetime (date : CivilDate) (face : ClockFace) (offset : Option Int) : Option Datetime :=
  if 1 ≤ date.year ∧ date.year ≤ 9999 ∧ 1 ≤ date.month ∧ date.month ≤ 12 ∧ 1 ≤ date.day ∧
      date.day ≤ daysInMonth date.year date.month ∧ face.hour < 24 ∧ face.minute < 60 ∧ face.second < 60 then
    some { clock := daysOfCivil date * microsPerDay + face.total, offset }
  else none

def fromisoformat (text : String) : Option Datetime := do
  let l := text.toList
  if l.length < 7 then none
  else
    let location ← separatorLocation l
    let date ← parseDate (l.take location)
    let time := l.drop (location + 1)
    if time = [] then datetime date { hour := 0, minute := 0, second := 0, micros := 0 } none
    else
      let (face,offset) ← parseTime time
      datetime date face offset

-- astimezone(UTC): the instant an aware datetime names, when UTC can still represent it.
def Datetime.instant? (d : Datetime) : Option Int :=
  match d.offset with
  | none => none
  | some offset => if Representable (d.clock - offset) then some (d.clock - offset) else none

theorem number_fixedWidth {w n : Nat} (hw : 0 < w) (h : n < 10 ^ w) (rest : List Char) :
    number w (fixedWidth w n ++ rest) = some ((n : Int),rest) := by
  have hlen := length_fixedWidth hw h
  have htake : (fixedWidth w n ++ rest).take w = fixedWidth w n := by rw [List.take_append_of_le_length (by omega),List.take_of_length_le (by omega)]
  have hdrop : (fixedWidth w n ++ rest).drop w = rest := by rw [List.drop_append_of_le_length (by omega),List.drop_of_length_le (by omega),List.nil_append]
  have hall : (fixedWidth w n).all Char.isDigit = true := List.all_eq_true.mpr (allDigits_fixedWidth w n)
  simp only [number,htake,hdrop,hlen,hall,and_self,if_true,ofDigitChars_fixedWidth]

theorem number_field {w : Nat} {n : Int} (hw : 0 < w) (hn : 0 ≤ n) (h : n < 10 ^ w) (rest : List Char) :
    number w (fixedWidth w n.toNat ++ rest) = some (n,rest) := by
  have hpow : ((10 ^ w : Nat) : Int) = 10 ^ w := by push_cast; rfl
  rw [number_fixedWidth hw (by omega),Int.toNat_of_nonneg hn]

theorem fixedWidth_head_isDigit {w n : Nat} {rest : List Char} {c : Char} (hc : c.isDigit = false) (hn : n < 10 ^ w) (hw : 0 < w) :
    (fixedWidth w n ++ rest).head? ≠ some c := by
  intro h
  have hlen := length_fixedWidth hw hn
  cases hl : fixedWidth w n with
  | nil => simp [hl] at hlen; omega
  | cons d l =>
    rw [hl] at h
    have hd : d.isDigit = true := allDigits_fixedWidth w n d (by simp [hl])
    have heq : d = c := by simpa using h
    simp [heq,hc] at hd

theorem parseDate_dateChars {c : CivilDate} (hy : 0 ≤ c.year) (hy' : c.year < 10000) (hm : 0 ≤ c.month) (hm' : c.month < 100)
    (hd : 0 ≤ c.day) (hd' : c.day < 100) : parseDate (dateChars c) = some c := by
  have hyear := number_field (w := 4) (by decide) hy hy'
  have hmonth := number_field (w := 2) (by decide) hm hm'
  have hday : number 2 (fixedWidth 2 c.day.toNat) = some (c.day,[]) := by
    simpa using number_field (w := 2) (by decide) hd hd' []
  have hnotW : ∀ rest, (fixedWidth 2 c.month.toNat ++ rest).head? ≠ some 'W' := fun rest =>
    fixedWidth_head_isDigit (by decide) (by omega) (by decide)
  simp only [parseDate,dateChars,hyear,hmonth,hday,hnotW,separated,Option.bind_eq_bind,Option.bind_some,List.head?_cons,
    List.tail_cons,beq_self_eq_true,if_true,if_false]

theorem parseFraction_fixedWidth {m : Int} (hm : 0 ≤ m) (hm' : m < 1000000) :
    parseFraction (fixedWidth 6 m.toNat) = some m := by
  have hlen : (fixedWidth 6 m.toNat).length = 6 := length_fixedWidth (by decide) (by omega)
  have htake : (fixedWidth 6 m.toNat).take 6 = fixedWidth 6 m.toNat := List.take_of_length_le (by omega)
  have hne : fixedWidth 6 m.toNat ≠ [] := by
    intro hnil
    simp [hnil] at hlen
  have hall : (fixedWidth 6 m.toNat).all Char.isDigit = true := List.all_eq_true.mpr (allDigits_fixedWidth 6 m.toNat)
  simp only [parseFraction,htake,hlen,hall,ofDigitChars_fixedWidth,ne_eq,hne,not_false_eq_true,and_self,if_true,
    Nat.sub_self,Nat.pow_zero,Nat.mul_one,Int.toNat_of_nonneg hm]

theorem parseClock_clockChars (s : Int) {m : Int} (hm : 0 ≤ m) (hm' : m < 1000000) :
    parseClock (clockChars s ++ fractionChars m) =
      some { hour := s % 86400 / 3600, minute := s % 3600 / 60, second := s % 60, micros := m } := by
  have hhour := number_field (w := 2) (n := s % 86400 / 3600) (by decide) (by omega) (by omega)
  have hminute := number_field (w := 2) (n := s % 3600 / 60) (by decide) (by omega) (by omega)
  have hsecond := number_field (w := 2) (n := s % 60) (by decide) (by omega) (by omega)
  simp only [parseClock,clockChars,List.append_assoc,List.cons_append,hhour,hminute,hsecond,Option.bind_eq_bind,
    Option.bind_some,List.head?_cons,List.tail_cons,beq_self_eq_true,if_true,if_false,reduceCtorEq,bne_self_eq_false,
    Bool.and_false,Bool.false_eq_true]
  by_cases hzero : m = 0
  · simp only [fractionChars,hzero,if_true]
  · simp only [fractionChars,hzero,if_false,true_or,if_true,parseFraction_fixedWidth hm hm',Option.bind_some]

theorem not_zoneMark_of_isDigit {c : Char} (h : c.isDigit = true) : isZoneMark c = false := by
  have hplus : c ≠ '+' := by
    rintro rfl
    simp at h
  have hminus : c ≠ '-' := by
    rintro rfl
    simp at h
  have hzulu : c ≠ 'Z' := by
    rintro rfl
    simp at h
  simp [isZoneMark,hplus,hminus,hzulu]

theorem not_zoneMark_of_mem_clock {s m : Int} {c : Char} (h : c ∈ clockChars s ++ fractionChars m) :
    (!isZoneMark c) = true := by
  have hdigits : ∀ w n, c ∈ fixedWidth w n → isZoneMark c = false := fun w n hc =>
    not_zoneMark_of_isDigit (allDigits_fixedWidth w n c hc)
  have hmark : isZoneMark c = false := by
    simp only [clockChars,fractionChars,List.mem_append,List.mem_cons] at h
    rcases h with (h | rfl | h | rfl | h) | h
    · exact hdigits _ _ h
    · rfl
    · exact hdigits _ _ h
    · rfl
    · exact hdigits _ _ h
    · split at h
      · simp at h
      · rcases List.mem_cons.mp h with rfl | h
        · rfl
        · exact hdigits _ _ h
  rw [hmark]
  rfl

theorem parseTime_clockChars (s : Int) {m : Int} (hm : 0 ≤ m) (hm' : m < 1000000) :
    parseTime (clockChars s ++ (fractionChars m ++ zone)) =
      some ({ hour := s % 86400 / 3600, minute := s % 3600 / 60, second := s % 60, micros := m },some 0) := by
  have hpos : ∀ c ∈ clockChars s ++ fractionChars m, (!isZoneMark c) = true := fun c hc => not_zoneMark_of_mem_clock hc
  have htake : zone.takeWhile (fun c => !isZoneMark c) = [] := by decide
  have hdrop : zone.dropWhile (fun c => !isZoneMark c) = zone := by decide
  have hzone : parseZone zone = some (some 0) := by decide
  rw [← List.append_assoc]
  simp only [parseTime,List.takeWhile_append_of_pos hpos,List.dropWhile_append_of_pos hpos,htake,hdrop,List.append_nil,
    parseClock_clockChars s hm hm',hzone,Option.bind_eq_bind,Option.bind_some]

theorem separatorLocation_dateChars {c : CivilDate} (hy : c.year < 10000) (hm : c.month ≤ 12) (hd : c.day ≤ 31)
    (x : Char) (rest : List Char) : separatorLocation (dateChars c ++ x :: rest) = some 10 := by
  have hlen := length_dateChars hy hm hd
  have hyear := four_digits hy
  have hseven : (dateChars c ++ x :: rest).length ≠ 7 := by
    simp only [List.length_append,hlen,List.length_cons]
    omega
  have hdash : (dateChars c ++ x :: rest)[4]? = some '-' := by
    rw [dateChars,List.append_assoc,List.getElem?_append_right (by omega),hyear]
    rfl
  have hnotW : (dateChars c ++ x :: rest)[5]? ≠ some 'W' := by
    rw [dateChars,List.append_assoc,List.getElem?_append_right (by omega),hyear,List.cons_append,List.append_assoc]
    have hhead : (fixedWidth 2 c.month.toNat ++ (('-' :: fixedWidth 2 c.day.toNat) ++ x :: rest)).head? ≠ some 'W' :=
      fixedWidth_head_isDigit (by decide) (by omega) (by decide)
    rwa [List.head?_eq_getElem?] at hhead
  simp only [separatorLocation,hseven,hdash,hnotW,if_true,if_false]

theorem fromisoformat_isoformat {t : Int} (h : Representable t) :
    fromisoformat (isoformat t) = some { clock := t, offset := some 0 } := by
  have hy := year_bounds h
  rw [dateOf] at hy
  have hm := month_bounds (secondOf t / 86400)
  have hd := day_bounds (secondOf t / 86400)
  have hlen := length_dateChars (show (civilOfDays (secondOf t / 86400)).year < 10000 by omega) hm.2 hd.2
  have hmicros := micros_bounds t
  have hdate := parseDate_dateChars (show 0 ≤ (civilOfDays (secondOf t / 86400)).year by omega) (by omega) (by omega)
    (show (civilOfDays (secondOf t / 86400)).month < 100 by omega) (by omega)
    (show (civilOfDays (secondOf t / 86400)).day < 100 by omega)
  have hloc := separatorLocation_dateChars (show (civilOfDays (secondOf t / 86400)).year < 10000 by omega) hm.2 hd.2 'T'
    (clockChars (secondOf t) ++ (fractionChars (t % microsPerSecond) ++ zone))
  have htime := parseTime_clockChars (secondOf t) hmicros.1 hmicros.2
  have hlist : (isoformat t).toList = dateChars (civilOfDays (secondOf t / 86400)) ++
      'T' :: (clockChars (secondOf t) ++ (fractionChars (t % microsPerSecond) ++ zone)) := by
    rw [isoformat_toList,secondChars,List.append_assoc,List.cons_append]
  have hlong : ¬ (isoformat t).toList.length < 7 := by
    simp only [hlist,List.length_append,hlen]
    omega
  have htake : (isoformat t).toList.take 10 = dateChars (civilOfDays (secondOf t / 86400)) := by
    rw [hlist,List.take_append_of_le_length (by omega),List.take_of_length_le (by omega)]
  have hdrop : (isoformat t).toList.drop 11 = clockChars (secondOf t) ++ (fractionChars (t % microsPerSecond) ++ zone) := by
    rw [hlist,List.drop_append,List.drop_of_length_le (by omega),hlen]
    rfl
  have hsome : clockChars (secondOf t) ++ (fractionChars (t % microsPerSecond) ++ zone) ≠ [] := by
    simp [zone]
  have hclock : daysOfCivil (civilOfDays (secondOf t / 86400)) * microsPerDay +
      ClockFace.total { hour := secondOf t % 86400 / 3600, minute := secondOf t % 3600 / 60, second := secondOf t % 60,
                        micros := t % microsPerSecond } = t := by
    rw [daysOfCivil_civilOfDays]
    simp only [ClockFace.total,microsPerDay,secondOf,microsPerSecond]
    omega
  have hmonthDays := day_le_daysInMonth (secondOf t / 86400)
  have hvalid : 1 ≤ (civilOfDays (secondOf t / 86400)).year ∧ (civilOfDays (secondOf t / 86400)).year ≤ 9999 ∧
      1 ≤ (civilOfDays (secondOf t / 86400)).month ∧ (civilOfDays (secondOf t / 86400)).month ≤ 12 ∧
      1 ≤ (civilOfDays (secondOf t / 86400)).day ∧ (civilOfDays (secondOf t / 86400)).day ≤
        daysInMonth (civilOfDays (secondOf t / 86400)).year (civilOfDays (secondOf t / 86400)).month ∧
      secondOf t % 86400 / 3600 < 24 ∧ secondOf t % 3600 / 60 < 60 ∧ secondOf t % 60 < 60 :=
    ⟨hy.1,hy.2,hm.1,hm.2,hd.1,hmonthDays,by omega,by omega,by omega⟩
  rw [← hlist] at hloc
  simp only [fromisoformat,hlong,if_false,hloc,Option.bind_eq_bind,Option.bind_some,htake,hdate,hdrop,hsome,htime,datetime]
  rw [if_pos hvalid,hclock]

theorem instant_fromisoformat {t : Int} (h : Representable t) :
    (fromisoformat (isoformat t)).bind Datetime.instant? = some t := by
  simp [fromisoformat_isoformat h,Datetime.instant?,h]

end SafeAgents.Calendar
