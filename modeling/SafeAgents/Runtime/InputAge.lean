import SafeAgents.Dict
import SafeAgents.Runtime.Execute
import SafeAgents.Schemas.IsoOrder
import Mathlib.Order.Bounds.Basic
import Mathlib.Data.Int.Order.Basic

namespace SafeAgents

open Calendar

namespace Runtime

structure InputAsOf where
  fetchedAt : Instant
  statedAt : Option Instant := none

-- The earlier of the fetch and the time the source stated.
def InputAsOf.asOf (entry : InputAsOf) : Instant :=
  match entry.statedAt with
  | none => entry.fetchedAt
  | some stated => min entry.fetchedAt stated

structure InputAgePolicy where
  startup : Dict String InputAsOf := .empty
  maxAge : Dict String Int := .empty
  lowering : Dict String Int := .empty

-- A sum past what a datetime holds is the last instant one holds.
def endOf (asOf : Instant) (maxAge : Int) : Instant := if Representable (asOf + maxAge) then asOf + maxAge else maxInstant

structure StaleInput where
  name : String
  asOf : Instant
  maxAge : Int

def StaleInput.describe (s : StaleInput) : String :=
  s.name ++ " (as of " ++ isoformat s.asOf ++ ", maximum age " ++ toString (s.maxAge.tdiv microsPerSecond) ++ "s)"

structure DecisionInputs where
  maxAge : Dict String Int
  horizonAge : Dict String Int
  entries : Dict String InputAsOf

inductive Gated where
  | refused (reason : String)
  | consulted (decision : Decision)

def Gated.decision : Gated → Decision
  | .refused reason => .deny reason
  | .consulted decision => decision

namespace DecisionInputs

def ofPolicy (policy : InputAgePolicy) : DecisionInputs where
  maxAge := policy.maxAge
  horizonAge := policy.lowering.merge policy.maxAge
  entries := policy.startup

def establish (inputs : DecisionInputs) (name : String) (entry : InputAsOf) : DecisionInputs :=
  match inputs.entries.get? name with
  | none => { inputs with entries := inputs.entries.set name entry }
  | some held => if entry.asOf < held.asOf then { inputs with entries := inputs.entries.set name entry } else inputs

def horizon (inputs : DecisionInputs) : Option Instant :=
  (inputs.entries.entries.filterMap fun e => (inputs.horizonAge.get? e.1).map (endOf e.2.asOf)).min?

def staleInput (inputs : DecisionInputs) (now : Instant) (e : String × InputAsOf) : Option StaleInput :=
  match inputs.maxAge.get? e.1 with
  | some age => if endOf e.2.asOf age ≤ now then some ⟨e.1,e.2.asOf,age⟩ else none
  | none => none

def stale (inputs : DecisionInputs) (now : Instant) : List StaleInput :=
  (inputs.entries.entries.mergeSort fun x y => decide (x.1 ≤ y.1)).filterMap (inputs.staleInput now)

def gate {Call Facts : Type} (inputs : DecisionInputs) (decider : Call → Facts → Decision) (now : Instant) (call : Call)
    (facts : Facts) : Gated :=
  if inputs.stale now = [] then .consulted (decider call facts)
  else .refused (inputPastMaxAgeReason ++ ": " ++ "; ".intercalate ((inputs.stale now).map StaleInput.describe))

end DecisionInputs

-- A timed read takes its instant first, then reads, with whatever the read does inside; a read that raises stamps nothing.
inductive InputOp where
  | establish (name : String) (entry : InputAsOf)
  | timed (names : List String) (fetchedAt : Instant) (inside : List InputOp) (returns : Bool)
  | decide (now : Instant)

namespace InputOp

mutual

def apply : InputOp → DecisionInputs → DecisionInputs
  | .establish name entry, inputs => inputs.establish name entry
  | .timed names fetchedAt inside returns, inputs =>
    let read := applyAll inside inputs
    if returns then names.foldl (fun inputs name => inputs.establish name { fetchedAt }) read else read
  | .decide _, inputs => inputs

def applyAll : List InputOp → DecisionInputs → DecisionInputs
  | [], inputs => inputs
  | op :: ops, inputs => applyAll ops (apply op inputs)

end

mutual

def readings : InputOp → List (String × InputAsOf)
  | .establish name entry => [(name,entry)]
  | .timed names fetchedAt inside returns =>
    readingsAll inside ++ if returns then names.map fun name => (name,{ fetchedAt }) else []
  | .decide _ => []

def readingsAll : List InputOp → List (String × InputAsOf)
  | [] => []
  | op :: ops => readings op ++ readingsAll ops

end

end InputOp

def earliest (policy : InputAgePolicy) (ops : List InputOp) (name : String) : Option Instant :=
  (((policy.startup.get? name).toList ++ ((InputOp.readingsAll ops).filter fun r => r.1 = name).map Prod.snd).map InputAsOf.asOf).min?

def horizonAgeOf (policy : InputAgePolicy) (name : String) : Option Int := (policy.maxAge.get? name).or (policy.lowering.get? name)

def endsUnder (policy : InputAgePolicy) (ops : List InputOp) (age : String → Option Int) : Set Instant :=
  {e | ∃ name asOf maxAge, earliest policy ops name = some asOf ∧ age name = some maxAge ∧ e = endOf asOf maxAge}

namespace InputOp

def stamp (inputs : DecisionInputs) (r : String × InputAsOf) : DecisionInputs := inputs.establish r.1 r.2

mutual

theorem apply_eq : ∀ (op : InputOp) (inputs : DecisionInputs), apply op inputs = (readings op).foldl stamp inputs
  | .establish _ _, _ => rfl
  | .timed names fetchedAt inside returns, inputs => by
    rw [apply,readings,List.foldl_append,applyAll_eq inside inputs]
    cases returns with
    | false => rfl
    | true =>
      simp only [if_true,List.foldl_map]
      rfl
  | .decide _, _ => rfl

theorem applyAll_eq : ∀ (ops : List InputOp) (inputs : DecisionInputs), applyAll ops inputs = (readingsAll ops).foldl stamp inputs
  | [], _ => rfl
  | op :: ops, inputs => by rw [applyAll,readingsAll,List.foldl_append,apply_eq op inputs,applyAll_eq ops]

end

end InputOp

namespace DecisionInputs

variable (inputs : DecisionInputs)

def asOf (name : String) : Option Instant := (inputs.entries.get? name).map InputAsOf.asOf

theorem establish_ages (name : String) (entry : InputAsOf) :
    (inputs.establish name entry).maxAge = inputs.maxAge ∧ (inputs.establish name entry).horizonAge = inputs.horizonAge := by
  rw [establish]
  split
  · exact ⟨rfl,rfl⟩
  · split <;> exact ⟨rfl,rfl⟩

theorem establish_other {name k : String} (h : k ≠ name) (entry : InputAsOf) : (inputs.establish name entry).asOf k = inputs.asOf k := by
  rw [establish]
  split
  · simp [asOf,Dict.get?_set,h]
  · split
    · simp [asOf,Dict.get?_set,h]
    · rfl

theorem establish_same (name : String) (entry : InputAsOf) :
    (inputs.establish name entry).asOf name = ((inputs.asOf name).toList ++ [entry.asOf]).min? := by
  rw [establish]
  cases hheld : inputs.entries.get? name with
  | none => simp [asOf,hheld]
  | some held =>
    have hmin : ((inputs.asOf name).toList ++ [entry.asOf]).min? = some (min held.asOf entry.asOf) := by
      simp [asOf,hheld]
    rw [hmin]
    dsimp only
    split
    next hlt =>
      rw [min_eq_right hlt.le]
      simp [asOf]
    next hle =>
      rw [min_eq_left (not_lt.mp hle)]
      simp [asOf,hheld]

theorem min?_step (o : Option Instant) (x : Instant) (xs : List Instant) :
    (((o.toList ++ [x]).min?).toList ++ xs).min? = (o.toList ++ x :: xs).min? := by
  cases o with
  | none => rfl
  | some h => cases hxs : xs.min? <;> simp [hxs,min_assoc]

theorem stamps_asOf (readings : List (String × InputAsOf)) (name : String) :
    (readings.foldl InputOp.stamp inputs).asOf name =
      ((inputs.asOf name).toList ++ ((readings.filter fun r => r.1 = name).map Prod.snd).map InputAsOf.asOf).min? := by
  induction readings generalizing inputs with
  | nil =>
    rw [List.foldl_nil]
    cases inputs.asOf name <;> rfl
  | cons r readings ih =>
    rw [List.foldl_cons,ih,InputOp.stamp]
    by_cases hname : r.1 = name
    · subst hname
      rw [establish_same,min?_step]
      simp
    · rw [establish_other inputs (fun h => hname h.symm)]
      simp [hname]

theorem stamps_ages (readings : List (String × InputAsOf)) : (readings.foldl InputOp.stamp inputs).maxAge = inputs.maxAge ∧
    (readings.foldl InputOp.stamp inputs).horizonAge = inputs.horizonAge := by
  induction readings generalizing inputs with
  | nil => exact ⟨rfl,rfl⟩
  | cons r readings ih =>
    obtain ⟨hmax,hhorizon⟩ := inputs.establish_ages r.1 r.2
    obtain ⟨hmax',hhorizon'⟩ := ih (InputOp.stamp inputs r)
    exact ⟨hmax'.trans hmax,hhorizon'.trans hhorizon⟩

theorem entry_of_asOf {name : String} {t : Instant} : inputs.asOf name = some t ↔ ∃ entry, (name,entry) ∈ inputs.entries.entries ∧ entry.asOf = t := by
  rw [asOf,Option.map_eq_some_iff]
  simp only [Dict.get?_iff]

theorem stale_nil {now : Instant} : inputs.stale now = [] ↔
    ∀ name t age, inputs.asOf name = some t → inputs.maxAge.get? name = some age → now < endOf t age := by
  rw [stale,List.filterMap_eq_nil_iff]
  constructor
  · intro h name t age ht hage
    obtain ⟨entry,hmem,rfl⟩ := inputs.entry_of_asOf.mp ht
    have hnone := h (name,entry) ((List.mergeSort_perm _ _).mem_iff.mpr hmem)
    rw [staleInput] at hnone
    dsimp only at hnone
    rw [hage] at hnone
    dsimp only at hnone
    split at hnone
    · cases hnone
    · exact not_le.mp ‹_›
  · rintro h ⟨name,entry⟩ hmem
    rw [staleInput]
    dsimp only
    cases hage : inputs.maxAge.get? name with
    | none => rfl
    | some age =>
      have hlt := h name entry.asOf age (inputs.entry_of_asOf.mpr ⟨entry,(List.mergeSort_perm _ _).mem_iff.mp hmem,rfl⟩) hage
      exact if_neg (not_le.mpr hlt)

theorem mem_ends {e : Instant} : e ∈ (inputs.entries.entries.filterMap fun e => (inputs.horizonAge.get? e.1).map (endOf e.2.asOf)) ↔
    ∃ name t age, inputs.asOf name = some t ∧ inputs.horizonAge.get? name = some age ∧ e = endOf t age := by
  rw [List.mem_filterMap]
  constructor
  · rintro ⟨⟨name,entry⟩,hmem,h⟩
    obtain ⟨age,hage,rfl⟩ := Option.map_eq_some_iff.mp h
    exact ⟨name,entry.asOf,age,inputs.entry_of_asOf.mpr ⟨entry,hmem,rfl⟩,hage,rfl⟩
  · rintro ⟨name,t,age,ht,hage,rfl⟩
    obtain ⟨entry,hmem,rfl⟩ := inputs.entry_of_asOf.mp ht
    exact ⟨(name,entry),hmem,Option.map_eq_some_iff.mpr ⟨age,hage,rfl⟩⟩

theorem gate_consulted {Call Facts : Type} {decider : Call → Facts → Decision} {now : Instant} {call : Call} {facts : Facts} :
    inputs.gate decider now call facts = .consulted (decider call facts) ↔ inputs.stale now = [] := by
  rw [gate]
  by_cases h : inputs.stale now = [] <;> simp [h]

end DecisionInputs

section Run
variable (policy : InputAgePolicy) (ops : List InputOp)

def afterOps : DecisionInputs := InputOp.applyAll ops (.ofPolicy policy)

theorem afterOps_asOf (name : String) : (afterOps policy ops).asOf name = earliest policy ops name := by
  rw [afterOps,InputOp.applyAll_eq,DecisionInputs.stamps_asOf,earliest,List.map_append]
  cases hstartup : policy.startup.get? name <;> simp [DecisionInputs.asOf,DecisionInputs.ofPolicy,hstartup]

theorem afterOps_maxAge : (afterOps policy ops).maxAge = policy.maxAge := by
  rw [afterOps,InputOp.applyAll_eq]
  exact (DecisionInputs.stamps_ages _ _).1

theorem afterOps_horizonAge (name : String) : (afterOps policy ops).horizonAge.get? name = horizonAgeOf policy name := by
  rw [afterOps,InputOp.applyAll_eq,(DecisionInputs.stamps_ages _ _).2]
  exact Dict.get?_merge _ _ _

theorem mem_horizonEnds {e : Instant} : e ∈ ((afterOps policy ops).entries.entries.filterMap fun e =>
    ((afterOps policy ops).horizonAge.get? e.1).map (endOf e.2.asOf)) ↔ e ∈ endsUnder policy ops (horizonAgeOf policy) := by
  rw [DecisionInputs.mem_ends]
  simp only [afterOps_asOf,afterOps_horizonAge]
  rfl

theorem horizon_some {h : Instant} : (afterOps policy ops).horizon = some h ↔ IsLeast (endsUnder policy ops (horizonAgeOf policy)) h := by
  rw [DecisionInputs.horizon,List.min?_eq_some_iff,mem_horizonEnds]
  refine and_congr_right fun _ => ?_
  constructor
  · exact fun hall e he => hall e ((mem_horizonEnds policy ops).mpr he)
  · exact fun hall e he => hall ((mem_horizonEnds policy ops).mp he)

theorem horizon_none : (afterOps policy ops).horizon = none ↔ endsUnder policy ops (horizonAgeOf policy) = ∅ := by
  rw [DecisionInputs.horizon,List.min?_eq_none_iff,List.eq_nil_iff_forall_not_mem,Set.eq_empty_iff_forall_notMem]
  exact forall_congr' fun e => not_congr (mem_horizonEnds policy ops)

theorem gated_iff {Call Facts : Type} (decider : Call → Facts → Decision) (now : Instant) (call : Call) (facts : Facts) :
    (afterOps policy ops).gate decider now call facts = .consulted (decider call facts) ↔
      ∀ e ∈ endsUnder policy ops policy.maxAge.get?, now < e := by
  rw [DecisionInputs.gate_consulted,DecisionInputs.stale_nil]
  simp only [afterOps_asOf,afterOps_maxAge]
  constructor
  · rintro h e ⟨name,t,age,ht,hage,rfl⟩
    exact h name t age ht hage
  · exact fun h name t age ht hage => h _ ⟨name,t,age,ht,hage,rfl⟩

theorem refusing_is_horizon (h : policy.lowering = .empty) : horizonAgeOf policy = policy.maxAge.get? := by
  funext name
  rw [horizonAgeOf,h,Dict.get?_empty,Option.or_none]

theorem before_horizon {now : Instant} : (∀ h, (afterOps policy ops).horizon = some h → now < h) ↔
    ∀ e ∈ endsUnder policy ops (horizonAgeOf policy), now < e := by
  cases hhorizon : (afterOps policy ops).horizon with
  | none =>
    rw [(horizon_none policy ops).mp hhorizon]
    simp
  | some h =>
    have hleast := (horizon_some policy ops).mp hhorizon
    constructor
    · exact fun hnow e he => (hnow h rfl).trans_le (hleast.2 he)
    · rintro hnow h' hh'
      exact Option.some.inj hh' ▸ hnow h hleast.1

end Run

theorem aged_inputs (policy : InputAgePolicy) (ops : List InputOp) :
    (∀ name, (afterOps policy ops).asOf name = earliest policy ops name) ∧
      (∀ h, (afterOps policy ops).horizon = some h ↔ IsLeast (endsUnder policy ops (horizonAgeOf policy)) h) ∧
      ((afterOps policy ops).horizon = none ↔ endsUnder policy ops (horizonAgeOf policy) = ∅) ∧
      (∀ (Call Facts : Type) (decider : Call → Facts → Decision) (now : Instant) (call : Call) (facts : Facts),
        (afterOps policy ops).gate decider now call facts = .consulted (decider call facts) ↔
          ∀ e ∈ endsUnder policy ops policy.maxAge.get?, now < e) ∧
      (policy.lowering = .empty → ∀ (Call Facts : Type) (decider : Call → Facts → Decision) (now : Instant) (call : Call) (facts : Facts),
        (afterOps policy ops).gate decider now call facts = .consulted (decider call facts) ↔
          ∀ h, (afterOps policy ops).horizon = some h → now < h) := by
  refine ⟨afterOps_asOf policy ops,fun h => horizon_some policy ops,horizon_none policy ops,?_,?_⟩
  · exact fun Call Facts decider now call facts => gated_iff policy ops decider now call facts
  · intro hlowering Call Facts decider now call facts
    rw [gated_iff,before_horizon,refusing_is_horizon policy hlowering]

def bothAges : InputAgePolicy where
  maxAge := Dict.empty.set "issuer_standing" (3600 * microsPerSecond)
  lowering := Dict.empty.set "issuer_standing" (600 * microsPerSecond)

theorem lowering_end_dropped :
    ¬ ∀ h, (afterOps bothAges [.establish "issuer_standing" ⟨0,none⟩]).horizon = some h ↔
      IsLeast {e | ∃ name asOf maxAge, earliest bothAges [.establish "issuer_standing" ⟨0,none⟩] name = some asOf ∧
        (bothAges.maxAge.get? name = some maxAge ∨ bothAges.lowering.get? name = some maxAge) ∧ e = endOf asOf maxAge} h := by
  intro hall
  have hhorizon : (afterOps bothAges [.establish "issuer_standing" ⟨0,none⟩]).horizon = some (3600 * microsPerSecond) := by decide
  have hlowering : endOf 0 (600 * microsPerSecond) = 600 * microsPerSecond := by decide
  have hle := ((hall _).mp hhorizon).2 ⟨"issuer_standing",0,600 * microsPerSecond,by decide,.inr (by decide),rfl⟩
  rw [hlowering] at hle
  exact absurd hle (by decide)

end Runtime

end SafeAgents
