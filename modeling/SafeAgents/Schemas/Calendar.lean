import Mathlib.Init

namespace SafeAgents

-- Instants are microseconds since the epoch, the resolution of the source's datetimes.
abbrev Instant := Int

def microsPerSecond : Int := 1000000

namespace Calendar

structure CivilDate where
  year : Int
  month : Int
  day : Int
  deriving DecidableEq

def civilOfDays (days : Int) : CivilDate :=
  let shifted := days + 719468
  let era := shifted / 146097
  let dayOfEra := shifted - era * 146097
  let yearOfEra := (dayOfEra - dayOfEra / 1460 + dayOfEra / 36524 - dayOfEra / 146096) / 365
  let dayOfYear := dayOfEra - (365 * yearOfEra + yearOfEra / 4 - yearOfEra / 100)
  let shiftedMonth := (5 * dayOfYear + 2) / 153
  let month := if shiftedMonth < 10 then shiftedMonth + 3 else shiftedMonth - 9
  { year := yearOfEra + era * 400 + (if month ≤ 2 then 1 else 0)
    month
    day := dayOfYear - (153 * shiftedMonth + 2) / 5 + 1 }

def padded (width : Nat) (n : Int) : String :=
  let digits := toString n.toNat
  String.ofList (List.replicate (width - digits.length) '0') ++ digits

def secondOf (t : Instant) : Int := t / microsPerSecond

def dateOf (t : Instant) : CivilDate := civilOfDays (secondOf t / 86400)

def hourOf (t : Instant) : Int := secondOf t % 86400 / 3600

def fraction (micros : Int) : String := if micros = 0 then "" else "." ++ padded 6 micros

def isoformat (t : Instant) : String :=
  let date := dateOf t
  padded 4 date.year ++ "-" ++ padded 2 date.month ++ "-" ++ padded 2 date.day ++ "T" ++
    padded 2 (hourOf t) ++ ":" ++ padded 2 (secondOf t % 3600 / 60) ++ ":" ++ padded 2 (secondOf t % 60) ++
    fraction (t % microsPerSecond) ++ "+00:00"

end Calendar

inductive CounterPeriod where
  | utcDay | utcHour
  deriving DecidableEq

def periodBucketOf (moment : Instant) (period : CounterPeriod) : String :=
  let date := Calendar.dateOf moment
  let day := Calendar.padded 4 date.year ++ Calendar.padded 2 date.month ++ Calendar.padded 2 date.day
  match period with
  | .utcDay => day
  | .utcHour => day ++ "T" ++ Calendar.padded 2 (Calendar.hourOf moment)

example : Calendar.isoformat 1709164800000001 = "2024-02-29T00:00:00.000001+00:00" := by decide

end SafeAgents
