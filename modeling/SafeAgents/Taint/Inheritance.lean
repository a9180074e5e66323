import SafeAgents.Schemas.IsoOrder
import SafeAgents.Schemas.Grant
import Mathlib.Data.List.Sort

namespace SafeAgents

namespace Inheritance

open Calendar Lexical

def inheritPrefix : String := "INHERIT#"

def recordPk (target : Principal) : String := inheritPrefix ++ target.key

-- `strftime("%Y-%m-%dT%H:%M:%S.%fZ")` writes the fraction of a whole second too.
def instantKey (t : Instant) : String :=
  let date := dateOf t
  padded 4 date.year ++ "-" ++ padded 2 date.month ++ "-" ++ padded 2 date.day ++ "T" ++
    padded 2 (hourOf t) ++ ":" ++ padded 2 (secondOf t % 3600 / 60) ++ ":" ++ padded 2 (secondOf t % 60) ++
    "." ++ padded 6 (t % microsPerSecond) ++ "Z"

def recordSk (record : InheritanceRecord) : String := instantKey record.notAfter ++ "#" ++ record.id

def liveAt (record : InheritanceRecord) (now : Instant) : Bool := now < record.notAfter

def outOfRange : Exn := .exception "date value out of range"

-- The rows of one store by partition. A row's sort key is read off its record, and no two rows of a partition share one.
structure Ledger where
  rows : String → List InheritanceRecord
  keyed : ∀ pk, ∀ record ∈ rows pk, recordPk record.target = pk
  dated : ∀ pk, ∀ record ∈ rows pk, Representable record.notAfter
  unique : ∀ pk, ((rows pk).map recordSk).Nodup

namespace Ledger

def empty : Ledger := ⟨fun _ => [],by simp,by simp,by simp⟩

section Insert
variable (ledger : Ledger) (record : InheritanceRecord)

def partition (target : Principal) : List InheritanceRecord := ledger.rows (recordPk target)

theorem mem_update {pk : String} {other : InheritanceRecord}
    (h : other ∈ Function.update ledger.rows (recordPk record.target) (ledger.partition record.target ++ [record]) pk) :
    other ∈ ledger.rows pk ∨ other = record ∧ recordPk record.target = pk := by
  by_cases hpk : pk = recordPk record.target
  · subst hpk
    simpa [partition] using h
  · rw [Function.update_of_ne hpk] at h
    exact .inl h

def insert (dated : Representable record.notAfter) (fresh : recordSk record ∉ (ledger.partition record.target).map recordSk) :
    Ledger where
  rows := Function.update ledger.rows (recordPk record.target) (ledger.partition record.target ++ [record])
  keyed pk other h := by
    rcases ledger.mem_update record h with hold | ⟨rfl,hpk⟩
    · exact ledger.keyed pk other hold
    · exact hpk
  dated pk other h := by
    rcases ledger.mem_update record h with hold | ⟨rfl,-⟩
    · exact ledger.dated pk other hold
    · exact dated
  unique pk := by
    by_cases hpk : pk = recordPk record.target
    · subst hpk
      rw [Function.update_self,List.map_append,List.nodup_append]
      refine ⟨ledger.unique _,by simp,fun a ha b hb => ?_⟩
      rintro rfl
      exact fresh (by rw [List.mem_singleton.mp hb] at ha; exact ha)
    · rw [Function.update_of_ne hpk]
      exact ledger.unique pk

end Insert

def putRecord (record : InheritanceRecord) (ledger : Ledger) : Except Exn Unit × Ledger :=
  if dated : Representable record.notAfter then
    if fresh : recordSk record ∉ (ledger.partition record.target).map recordSk then
      (.ok (),ledger.insert record dated fresh)
    else (.error (.exception record.id),ledger)
  else (.error outOfRange,ledger)

def liveRecords (target : Principal) (now : Instant) (ledger : Ledger) : Except Exn (List InheritanceRecord) :=
  if Representable now then
    let rows := (ledger.partition target).insertionSort fun a b => recordSk a ≤ recordSk b
    .ok ((rows.filter fun record => instantKey now < recordSk record).filter fun record => liveAt record now)
  else .error outOfRange

end Ledger

section Keys

theorem instantKey_toList (t : Int) :
    (instantKey t).toList =
      secondChars (secondOf t) ++ ('.' :: (fixedWidth 6 (t % microsPerSecond).toNat ++ ['Z'])) := by
  have hdash : "-".toList = ['-'] := rfl
  have htee : "T".toList = ['T'] := rfl
  have hcolon : ":".toList = [':'] := rfl
  have hdot : ".".toList = ['.'] := rfl
  have hzulu : "Z".toList = ['Z'] := rfl
  simp only [instantKey,String.toList_append,padded_toList,hdash,htee,hcolon,hdot,hzulu,
    secondChars,dateChars,clockChars,dateOf,hourOf,List.append_assoc,List.cons_append,List.nil_append]

theorem instantKey_append_lt {t u : Int} (ht : Representable t) (hu : Representable u) (h : t < u) (x y : String) :
    instantKey t ++ x < instantKey u ++ y := by
  have hmt := micros_bounds t
  have hmu := micros_bounds u
  rw [String.lt_iff,String.toList_append,String.toList_append,instantKey_toList,instantKey_toList]
  simp only [List.append_assoc,List.cons_append]
  apply append_lt_append_of_blocks (by rw [length_secondChars ht,length_secondChars hu])
  by_cases hsecond : secondOf t < secondOf u
  · left
    exact secondChars_lt ht hu hsecond
  · have hsame : secondOf t = secondOf u := by
      simp only [secondOf,microsPerSecond] at hsecond ⊢
      omega
    have hmicros : t % microsPerSecond < u % microsPerSecond := by
      simp only [secondOf,microsPerSecond] at hsame ⊢
      omega
    have hwidth : (fixedWidth 6 (t % microsPerSecond).toNat).length = (fixedWidth 6 (u % microsPerSecond).toNat).length := by
      rw [length_fixedWidth (by decide) (by omega),length_fixedWidth (by decide) (by omega)]
    right
    refine ⟨by rw [hsame],List.cons_lt_cons_iff.mpr (.inr ⟨rfl,?_⟩)⟩
    exact append_lt_append_of_length_eq hwidth (fixedWidth_int_lt (by decide) hmt.1 (by omega) hmicros) _ _

theorem instantKey_lt_iff {t u : Int} (ht : Representable t) (hu : Representable u) :
    instantKey t < instantKey u ↔ t < u := by
  have hlt {t u : Int} (ht : Representable t) (hu : Representable u) (h : t < u) : instantKey t < instantKey u := by
    simpa using instantKey_append_lt ht hu h "" ""
  refine ⟨fun h => ?_,hlt ht hu⟩
  by_contra hnot
  rcases Int.lt_or_eq_of_le (Int.not_lt.mp hnot) with hgt | rfl
  · exact absurd h (String.lt_asymm (hlt hu ht hgt))
  · exact String.lt_irrefl _ h

theorem instantKey_lt_recordSk {now : Int} {record : InheritanceRecord} (hnow : Representable now)
    (hdated : Representable record.notAfter) (h : now < record.notAfter) : instantKey now < recordSk record := by
  have hlt := instantKey_append_lt hnow hdated h "" ("#" ++ record.id)
  simpa [recordSk,String.append_assoc] using hlt

theorem notAfter_le_of_recordSk_le {a b : InheritanceRecord} (ha : Representable a.notAfter) (hb : Representable b.notAfter)
    (h : recordSk a ≤ recordSk b) : a.notAfter ≤ b.notAfter := by
  by_contra hnot
  have hlt := instantKey_append_lt hb ha (Int.not_le.mp hnot) ("#" ++ b.id) ("#" ++ a.id)
  simp only [recordSk,String.append_assoc] at h
  exact h hlt

end Keys

namespace Ledger
variable {ledger : Ledger} {record other : InheritanceRecord} {target : Principal} {now : Int}

theorem mem_partition (h : other ∈ (putRecord record ledger).2.partition target) :
    other ∈ ledger.partition target ∨ other = record := by
  unfold putRecord at h
  split at h
  · split at h
    · exact (ledger.mem_update record h).imp_right And.left
    · exact .inl h
  · exact .inl h

theorem partition_mono (h : other ∈ ledger.partition target) : other ∈ (putRecord record ledger).2.partition target := by
  unfold putRecord
  split
  · split
    · by_cases hpk : recordPk target = recordPk record.target
      · have hmem : other ∈ ledger.partition record.target ++ [record] := by
          rw [partition,← hpk]
          exact List.mem_append_left _ h
        simpa [partition,insert,hpk] using hmem
      · simpa [partition,insert,Function.update_of_ne hpk] using h
    · exact h
  · exact h

theorem putRecord_stores (h : (putRecord record ledger).1 = .ok ()) :
    record ∈ (putRecord record ledger).2.partition record.target := by
  unfold putRecord at h ⊢
  split at h
  · split at h
    · next dated fresh =>
      rw [dif_pos dated,dif_pos fresh]
      simp [partition,insert]
    · cases h
  · cases h

theorem mem_liveRecords {rows : List InheritanceRecord} (h : ledger.liveRecords target now = .ok rows) :
    record ∈ rows ↔ record ∈ ledger.partition target ∧ now < record.notAfter := by
  unfold liveRecords at h
  split at h
  · next hnow =>
    cases h
    simp only [List.mem_filter,List.mem_insertionSort,decide_eq_true_eq,liveAt]
    refine ⟨fun hmem => ⟨hmem.1.1,hmem.2⟩,fun hmem => ⟨⟨hmem.1,?_⟩,hmem.2⟩⟩
    exact instantKey_lt_recordSk hnow (ledger.dated _ record hmem.1) hmem.2
  · cases h

theorem liveRecords_ordered {rows : List InheritanceRecord} (h : ledger.liveRecords target now = .ok rows) :
    rows.Pairwise fun a b => a.notAfter ≤ b.notAfter := by
  unfold liveRecords at h
  split at h
  · cases h
    have hsorted := List.pairwise_insertionSort (fun a b => recordSk a ≤ recordSk b) (ledger.partition target)
    refine List.Pairwise.filter _ (List.Pairwise.filter _ (hsorted.imp_of_mem fun {a b} ha hb hle => ?_))
    have hdated {r : InheritanceRecord} (hr : r ∈ (ledger.partition target).insertionSort fun a b => recordSk a ≤ recordSk b) :
        Representable r.notAfter := ledger.dated _ r ((List.mem_insertionSort _).mp hr)
    exact notAfter_le_of_recordSk_le (hdated ha) (hdated hb) hle
  · cases h

end Ledger

end Inheritance

end SafeAgents
