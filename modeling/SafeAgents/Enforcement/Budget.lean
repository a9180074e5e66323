import SafeAgents.Enforcement.ExactlyOnce
import Mathlib.Data.Finset.Card
import Mathlib.Data.Rat.Cast.Order
import Mathlib.Tactic.Push

namespace SafeAgents

open Interleaving

namespace Enforcement.Budget

inductive Draw where
  | before | drew | barred | ran
  deriving DecidableEq

def Draw.after (l : Draw) (here : Bool) : Except Exn Bool → Draw
  | .ok true => if here then .drew else l
  | _ => .barred

section Contract
variable (κ : Option String) (cap : ℚ) (charged : Bool)

def budgetContract : Contract Op Op.Ret Exn Draw where
  may l
    | .store (.tryIncrementCounter key delta c) =>
      (l = .before ∨ l = .drew) ∧ (some key = κ → delta = 1 ∧ c ≤ cap)
    | .env (.executor _ _) => l = if charged then .drew else .before
    | _ => True
  heard _ _ _ := True
  next l
    | .store (.tryIncrementCounter key _ _), r => l.after (some key = κ) r
    | .env (.executor _ _), _ => .ran
    | _, _ => l

@[simp] theorem budgetContract_next_draw (l : Draw) (key : String) (delta c : ℚ) (r : Except Exn Bool) :
    (budgetContract κ cap charged).next l (.store (.tryIncrementCounter key delta c)) r = l.after (some key = κ) r := rfl

def Spares (o : Op) : Prop :=
  ∀ l, (budgetContract κ cap charged).may l o ∧ ∀ r, (budgetContract κ cap charged).next l o r = l

variable {κ cap charged}

theorem keeps_spares {α : Type} {p : Act α} (hp : Uses (Spares κ cap charged) p) (l : Draw) :
    Keeps (budgetContract κ cap charged) (fun l' _ => l' = l) l p :=
  hp.keeps (fun _ h => (h l).1) (fun _ r h => (h l).2 r) fun _ => rfl

theorem spares_of_bookkeeps {claimedKey : Option String} {o : Op} (ho : Bookkeeps claimedKey o) :
    Spares κ cap charged o := by
  intro l
  cases o with
  | store o =>
    cases o with
    | tryIncrementCounter key delta cap => exact ho.elim
    | _ => exact ⟨trivial,fun r => rfl⟩
  | env o =>
    cases o with
    | executor call decision => exact ho.elim
    | _ => exact ⟨trivial,fun r => rfl⟩
  | _ => exact ho.elim

def Drawn (l₀ : Draw) (hit : Prop) [Decidable hit] (l : Draw) (r : Except Exn Decision) : Prop :=
  ∀ effective, r = .ok effective → effective.executes = true → l = if hit then .drew else l₀

theorem keeps_drawAncestors (draws : List CounterDraw) (effective : Decision) {l : Draw}
    (hl : l = .before ∨ l = .drew) (hdraws : ∀ d ∈ draws, some d.key = κ → d.delta = 1 ∧ d.cap ≤ cap) :
    Keeps (budgetContract κ cap charged) (Drawn l (κ ∈ draws.map fun d => some d.key)) l
      (drawAncestors draws effective) := by
  induction draws generalizing l with
  | nil => exact fun _ _ _ => rfl
  | cons draw draws ih =>
    simp only [drawAncestors,store,Prog.call,keeps_bind,keeps_act,keeps_finish]
    refine ⟨⟨hl,hdraws draw List.mem_cons_self⟩,fun r _ => ?_⟩
    rcases r with e | won
    · exact fun out hout => by cases hout
    cases won with
    | false =>
      intro out hout hex
      cases hout
      cases hex
    | true =>
      have hrest : ∀ d ∈ draws, some d.key = κ → d.delta = 1 ∧ d.cap ≤ cap :=
        fun d hd => hdraws d (List.mem_cons_of_mem _ hd)
      simp only [budgetContract_next_draw,Draw.after,Prog.andThen_ok,if_true]
      by_cases hkey : some draw.key = κ
      · simp only [hkey,decide_true,if_true]
        refine keeps_mono ?_ (ih (.inr rfl) hrest)
        intro l' out hout eff heff hex
        simpa [← hkey] using hout eff heff hex
      · have hkey' : κ ≠ some draw.key := fun h => hkey h.symm
        simp only [hkey,decide_false,Bool.false_eq_true,if_false]
        refine keeps_mono ?_ (ih hl hrest)
        intro l' out hout eff heff hex
        simpa [hkey'] using hout eff heff hex

def Charges (κ : Option String) (q : Request) : Prop :=
  κ = some q.counterKey ∨ κ ∈ q.ancestorDraws.map fun d => some d.key

instance (κ : Option String) (q : Request) : Decidable (Charges κ q) := inferInstanceAs (Decidable (_ ∨ _))

def UnitDraws (κ : Option String) (cap : ℚ) (q : Request) : Prop :=
  (some q.counterKey = κ → q.counterDelta = 1 ∧ q.counterCap ≤ cap) ∧
    ∀ d ∈ q.ancestorDraws, some d.key = κ → d.delta = 1 ∧ d.cap ≤ cap

theorem keeps_drawBudget (q : Request) (hq : UnitDraws κ cap q) (effective : Decision) :
    Keeps (budgetContract κ cap charged) (Drawn .before (Charges κ q)) .before
      (drawBudget q.counterKey q.counterDelta q.counterCap q.ancestorDraws effective) := by
  unfold drawBudget
  split
  · simp only [store,Prog.call,keeps_bind,keeps_act,keeps_finish]
    refine ⟨⟨.inl rfl,hq.1⟩,fun r _ => ?_⟩
    rcases r with e | won
    · exact fun out hout => by cases hout
    cases won with
    | false =>
      intro out hout hex
      cases hout
      cases hex
    | true =>
      simp only [budgetContract_next_draw,Draw.after,Prog.andThen_ok,if_true]
      by_cases hkey : some q.counterKey = κ
      · simp only [hkey,decide_true,if_true]
        refine keeps_mono ?_ (keeps_drawAncestors _ effective (.inr rfl) hq.2)
        intro l' out hout eff heff hex
        simpa [Charges,← hkey] using hout eff heff hex
      · have hkey' : κ ≠ some q.counterKey := fun h => hkey h.symm
        simp only [hkey,decide_false,Bool.false_eq_true,if_false]
        refine keeps_mono ?_ (keeps_drawAncestors _ effective (.inl rfl) hq.2)
        intro l' out hout eff heff hex
        simpa [Charges,hkey'] using hout eff heff hex
  · next hidle =>
    intro out hout hex
    cases hout
    exact absurd hex hidle

variable (q : Request) (hasExecutor : Bool)

def Ready (κ : Option String) (q : Request) (l : Draw) (r : Except Exn (Decision × String)) : Prop :=
  ∀ out, r = .ok out → out.1.executes = true → l = if Charges κ q then .drew else .before

theorem keeps_books {α : Type} {p : Act α} {claimedKey : Option String} (hp : Uses (Bookkeeps claimedKey) p) (l : Draw) :
    Keeps (budgetContract κ cap charged) (fun l' _ => l' = l) l p :=
  keeps_spares (hp.mono fun _ => spares_of_bookkeeps) l

theorem keeps_anyhow {α : Type} {p : Act α} {claimedKey : Option String} (hp : Uses (Bookkeeps claimedKey) p)
    (l : Draw) : Keeps (budgetContract κ cap charged) (fun _ _ => True) l p :=
  keeps_mono (fun _ _ _ => trivial) (keeps_books hp l)

theorem keeps_prepare (hq : UnitDraws κ cap q) :
    Keeps (budgetContract κ cap charged) (Ready κ q) .before (prepare q (callbacks hasExecutor)) := by
  have facts : Uses (Spares κ cap charged) (env (.freshFacts q.call)) := uses_env.mpr fun l => ⟨trivial,fun r => rfl⟩
  refine (keeps_spares facts .before).bind ?_ fun _ _ _ _ => nofun
  rintro _ currentFacts rfl
  have decides : Uses (Spares κ cap charged) (env (.decider q.call currentFacts)) :=
    uses_env.mpr fun l => ⟨trivial,fun r => rfl⟩
  refine (keeps_spares decides .before).bind ?_ fun _ _ _ _ => nofun
  rintro _ revalidated rfl
  refine (keeps_drawBudget q hq _).bind (fun l effective hl => ?_) fun _ _ _ _ => nofun
  refine (keeps_books (uses_journal q effective : Uses (Bookkeeps none) _) l).bind ?_ fun _ _ _ _ => nofun
  rintro _ entryId rfl out hout hex
  cases hout
  exact hl effective rfl hex

variable {claimedKey : Option String}

theorem keeps_prepareOrRelease (hq : UnitDraws κ cap q) :
    Keeps (budgetContract κ cap charged) (Ready κ q) .before
      (prepareOrRelease q (callbacks hasExecutor) claimedKey) := by
  refine (keeps_prepare q hasExecutor hq).tryCatch (fun _ _ h => h) fun l e _ => ?_
  exact (keeps_books uses_releaseIfClaimed l).bind (fun _ _ _ _ => nofun) fun _ _ _ _ => nofun

theorem keeps_executeStep (entryId : String) (effective : Decision) {l : Draw}
    (hl : effective.executes = true → l = if charged then .drew else .before) :
    Keeps (budgetContract κ cap charged) (fun _ _ => True) l
      (executeStep q (callbacks hasExecutor) claimedKey entryId effective) := by
  have run : ∀ d, l = (if charged then .drew else .before) → Keeps (budgetContract κ cap charged) (fun _ _ => True) l
      (runExecutor q (callbacks hasExecutor) claimedKey entryId d) := by
    intro d hready
    cases hasExecutor with
    | false => trivial
    | true =>
      simp only [runExecutor,callbacks,if_true,env,Prog.call,keeps_tryCatch,keeps_act,keeps_finish]
      refine ⟨hready,fun r _ => ?_⟩
      cases r with
      | ok result => trivial
      | error e =>
        simp only [Prog.orElse_error]
        split
        · exact keeps_anyhow (uses_sagaFailure q entryId e) _
        · trivial
  have committed : ∀ l' (result : ConnectorResult), Keeps (budgetContract κ cap charged) (fun _ _ => True) l'
      (do commit entryId; return result) := fun l' result =>
    (keeps_anyhow (uses_commit entryId : Uses (Bookkeeps none) _) l').bind (fun _ _ _ => trivial) fun _ _ _ => trivial
  cases effective with
  | allow => exact (run _ (hl rfl)).bind (fun l' result _ => committed l' result) fun _ _ _ => trivial
  | transform op args => exact (run _ (hl rfl)).bind (fun l' result _ => committed l' result) fun _ _ _ => trivial
  | requireApproval r reason => trivial
  | deny reason => exact committed l .none
  | abstain escalate reason => exact committed l .none

theorem keeps_enforceClaimed (hq : UnitDraws κ cap q) :
    Keeps (budgetContract κ cap (Charges κ q)) (fun _ _ => True) .before
      (enforceClaimed q (callbacks hasExecutor) claimedKey) := by
  refine (keeps_prepareOrRelease q hasExecutor hq).bind (fun l out hl => ?_) fun _ _ _ => trivial
  have ready : out.1.executes = true → l = if decide (Charges κ q) then .drew else .before := by
    simpa using hl out rfl
  refine (keeps_executeStep q hasExecutor out.2 out.1 ready).bind (fun l result _ => ?_) fun _ _ _ => trivial
  exact (keeps_anyhow (uses_settleClaim out.1 result) l).bind (fun _ _ _ => trivial) fun _ _ _ => trivial

theorem keeps_program (p : Caller) (hq : UnitDraws κ cap p.request) :
    Keeps (budgetContract κ cap (Charges κ p.request)) (fun _ _ => True) .before p.program := by
  unfold Caller.program enforce
  split
  · exact keeps_enforceClaimed p.request p.hasExecutor hq
  · next key _ =>
    refine (keeps_books uses_claim .before).bind ?_ fun _ _ _ => trivial
    rintro _ out rfl
    cases out with
    | some settled => trivial
    | none => exact keeps_enforceClaimed p.request p.hasExecutor hq

end Contract

def value (s : State) (κ : String) : ℚ := s.enforcement.counter κ

inductive Spends (cap : ℚ) (charged : Bool) : ℚ → Draw → ℚ → Draw → Bool → Prop
  | idle (v : ℚ) (l : Draw) : Spends cap charged v l v l false
  | drew (v : ℚ) (l : Draw) (h : v + 1 ≤ cap) : Spends cap charged v l (v + 1) .drew false
  | barred (v : ℚ) (l : Draw) : Spends cap charged v l v .barred false
  | wasted (v : ℚ) (l : Draw) (h : v + 1 ≤ cap) : Spends cap charged v l (v + 1) .barred false
  | ran (v : ℚ) (l : Draw) (h : l = if charged then .drew else .before) : Spends cap charged v l v .ran true

section Steps
variable {κ : String} {cap : ℚ} {charged : Bool} {l : Draw} {B : Substrate}

theorem counter_setCounter (es : EnforcementState) (key : String) (v : Option ℚ) :
    (es.setCounter key v).counter κ = if key = κ then v.getD 0 else es.counter κ := by
  by_cases h : key = κ
  · subst h
    simp [EnforcementState.counter,EnforcementState.setCounter]
  · have h' : κ ≠ key := fun e => h e.symm
    simp [EnforcementState.counter,EnforcementState.setCounter,h,h']

theorem spends_draw {b : Backend} {es : EnforcementState} {key : String} {delta c : ℚ} (d : Delivery)
    (h : some key = some κ → delta = 1 ∧ c ≤ cap) :
    Spends cap charged (es.counter κ) l
      ((d.receive (StoreOp.apply b (.tryIncrementCounter key delta c) es) es).2.counter κ)
      (l.after (some key = some κ) (d.receive (StoreOp.apply b (.tryIncrementCounter key delta c) es) es).1) false := by
  by_cases hkey : key = κ
  · subst hkey
    obtain ⟨rfl,hc⟩ := h rfl
    rcases b.tryIncrementCounter_spec (es.counters key) 1 c with hout | ⟨hout,hle⟩
    · have hbarred : Spends cap charged (es.counter key) l (es.counter key) .barred false := .barred _ _
      cases d <;>
        simpa [Delivery.receive,StoreOp.apply,hout,EnforcementState.setCounter,Draw.after,EnforcementState.counter]
          using hbarred
    · have hroom : es.counter key + 1 ≤ cap := le_trans hle hc
      have hdrew : Spends cap charged (es.counter key) l (es.counter key + 1) .drew false := .drew _ _ hroom
      have hwasted : Spends cap charged (es.counter key) l (es.counter key + 1) .barred false := .wasted _ _ hroom
      cases d with
      | answered =>
        simpa [Delivery.receive,StoreOp.apply,hout,EnforcementState.setCounter,Draw.after,EnforcementState.counter]
          using hdrew
      | fault e => exact .barred _ _
      | lost e =>
        simpa [Delivery.receive,StoreOp.apply,hout,EnforcementState.setCounter,Draw.after,EnforcementState.counter]
          using hwasted
  · have hidle : Spends cap charged (es.counter κ) l (es.counter κ) l false := .idle _ _
    cases d with
    | answered =>
      simp only [Delivery.receive,StoreOp.apply,counter_setCounter,hkey,if_false]
      cases (b.tryIncrementCounter (es.counters key) delta c).1 with
      | false => exact .barred _ _
      | true => simpa [Draw.after,hkey] using hidle
    | fault e => exact .barred _ _
    | lost e =>
      simp only [Delivery.receive,StoreOp.apply,counter_setCounter,hkey,if_false]
      exact .barred _ _

theorem counter_of_not_draw {b : Backend} {es : EnforcementState} (o : StoreOp) (d : Delivery)
    (h : ∀ key delta c, o ≠ .tryIncrementCounter key delta c) :
    (d.receive (o.apply b es) es).2.counters = es.counters := by
  refine d.receive_state (P := fun t : EnforcementState => t.counters = es.counters) rfl ?_
  cases o with
  | putIdempotencyIfAbsent record => simp only [StoreOp.apply]; split <;> rfl
  | tryIncrementCounter key delta c => exact absurd rfl (h key delta c)
  | completeIdempotency key decisionJson resultJson => exact StoreOp.settle_counters _ _ _
  | failIdempotency key error => exact StoreOp.settle_counters _ _ _
  | commitLedger entryId ts => exact StoreOp.amendLedger_counters _ _ _
  | compensateLedger entryId error => exact StoreOp.amendLedger_counters _ _ _
  | escalateLedger entryId error => exact StoreOp.amendLedger_counters _ _ _
  | _ => rfl

theorem spends_perform {s : State} (o : Op) (x : Substrate.Input o)
    (h : (budgetContract (some κ) cap charged).may l o) :
    Spends cap charged (value s κ) l (value (B.perform o x s).2 κ)
      ((budgetContract (some κ) cap charged).next l o (B.perform o x s).1) (isExecutor o) := by
  cases o with
  | env o =>
    cases o with
    | executor call decision => exact .ran _ _ h
    | _ => exact .idle _ _
  | store o =>
    cases o with
    | tryIncrementCounter key delta c => exact spends_draw x h.2
    | _ =>
      have hsame : value (B.perform _ x s).2 κ = value s κ := by
        simp only [value,EnforcementState.counter,Substrate.perform]
        rw [counter_of_not_draw _ x (by simp)]
      rw [hsame]
      exact .idle _ _
  | _ => exact .idle _ _

end Steps

structure Spending (cap start v : ℚ) {ι : Type} (l : ι → Draw) (runs : Nat) : Prop where
  bound : v ≤ cap
  backed : ∃ waiting : Finset ι, start + runs + waiting.card ≤ v ∧ ∀ i, l i = .drew → i ∈ waiting

section Invariant
variable {ι : Type} [DecidableEq ι] {cap start v v' : ℚ} {l : ι → Draw} {runs : Nat} {i : ι} {l' : Draw}
  {charged ran : Bool}

theorem drew_of_update {j : ι} (h : Function.update l i l' j = .drew) (hl' : l' ≠ .drew) : l j = .drew ∧ j ≠ i := by
  by_cases hj : j = i
  · subst hj
    simp [hl'] at h
  · exact ⟨by simpa [Function.update_of_ne hj] using h,hj⟩

theorem Spending.step (h : Spending cap start v l runs) (hs : Spends cap charged v (l i) v' l' ran) :
    Spending cap start v' (Function.update l i l') (runs + (charged && ran).toNat) := by
  obtain ⟨bound,waiting,hback,hwait⟩ := h
  generalize hli : l i = li at hs
  cases hs with
  | idle =>
    rw [← hli,Function.update_eq_self]
    exact ⟨bound,waiting,by simpa using hback,hwait⟩
  | barred => exact ⟨bound,waiting,by simpa using hback,fun j hj => hwait j (drew_of_update hj nofun).1⟩
  | wasted hroom =>
    refine ⟨hroom,waiting,?_,fun j hj => hwait j (drew_of_update hj nofun).1⟩
    simp only [Bool.and_false,Bool.toNat_false,Nat.add_zero]
    linarith
  | drew hroom =>
    refine ⟨hroom,insert i waiting,?_,fun j hj => ?_⟩
    · have hcard : ((insert i waiting).card : ℚ) ≤ waiting.card + 1 := by
        exact_mod_cast Finset.card_insert_le i waiting
      simp only [Bool.and_false,Bool.toNat_false,Nat.add_zero]
      linarith
    · by_cases hji : j = i
      · exact hji ▸ Finset.mem_insert_self i waiting
      · exact Finset.mem_insert_of_mem (hwait j (by simpa [Function.update_of_ne hji] using hj))
  | ran hready =>
    cases charged with
    | false =>
      exact ⟨bound,waiting,by simpa using hback,fun j hj => hwait j (drew_of_update hj nofun).1⟩
    | true =>
      -- The run spends the headroom its own draw reserved.
      have hmem : i ∈ waiting := hwait i (by simpa [hready] using hli)
      refine ⟨bound,waiting.erase i,?_,fun j hj => ?_⟩
      · have hcard : ((waiting.erase i).card : ℚ) + 1 = waiting.card := by
          exact_mod_cast Finset.card_erase_add_one hmem
        simp only [Bool.and_self,Bool.toNat_true,Nat.cast_add,Nat.cast_one]
        linarith
      · obtain ⟨hdrew,hji⟩ := drew_of_update hj nofun
        exact Finset.mem_erase.mpr ⟨hji,hwait j hdrew⟩

end Invariant

section Runs
variable {ι : Type} {B : Substrate} {callers : ι → Caller}

def chargedRuns (callers : ι → Caller) (κ : String) (tr : Trace ι) : Nat :=
  tr.countP fun e => decide (Charges (some κ) (callers e.thread).request) && isExecutor e.op

def RefusedDraw : Event ι Op Op.Ret Exn → Prop
  | ⟨_,.store (.tryIncrementCounter _ _ _),.ok false⟩ => True
  | _ => False

abbrev contracts (κ : Option String) (cap : ℚ) (callers : ι → Caller) (i : ι) : Contract Op Op.Ret Exn Draw :=
  budgetContract κ cap (Charges κ (callers i).request)

structure Marks (l : ι → Draw) (tr : Trace ι) : Prop where
  refused : ∀ e ∈ tr, RefusedDraw e → l e.thread = .barred
  executed : ∀ e ∈ tr, isExecutor e.op = true → l e.thread = .ran

theorem next_of_over {charged : Bool} {κ : Option String} {cap : ℚ} {l : Draw} {o : Op}
    (hmay : (budgetContract κ cap charged).may l o) (hl : l = .barred ∨ l = .ran) (r : Except Exn o.Ret) :
    (budgetContract κ cap charged).next l o r = l := by
  cases o with
  | store o =>
    cases o with
    | tryIncrementCounter key delta c => rcases hl with rfl | rfl <;> simp [budgetContract] at hmay
    | _ => rfl
  | env o =>
    cases o with
    | executor call decision =>
      rcases hl with rfl | rfl <;> cases charged <;> simp [budgetContract] at hmay
    | _ => rfl
  | _ => rfl

theorem next_of_refused {charged : Bool} {κ : Option String} {cap : ℚ} {l : Draw} {i : ι} {o : Op}
    {r : Except Exn o.Ret} (h : RefusedDraw (⟨i,o,r⟩ : Event ι Op Op.Ret Exn)) :
    (budgetContract κ cap charged).next l o r = .barred := by
  unfold RefusedDraw at h
  split at h
  · next heq =>
    cases heq
    rfl
  · exact h.elim

theorem next_of_executor {charged : Bool} {κ : Option String} {cap : ℚ} {l : Draw} {o : Op} {r : Except Exn o.Ret}
    (h : isExecutor o = true) : (budgetContract κ cap charged).next l o r = .ran := by
  unfold isExecutor at h
  split at h
  · rfl
  · cases h

theorem chargedRuns_append_singleton (κ : String) (tr : Trace ι) (e : Event ι Op Op.Ret Exn) :
    chargedRuns callers κ (tr ++ [e]) = chargedRuns callers κ tr +
      (decide (Charges (some κ) (callers e.thread).request) && isExecutor e.op).toNat := by
  rw [chargedRuns,List.countP_append]
  congr 1

variable [DecidableEq ι]

theorem Marks.step {l : ι → Draw} {tr : Trace ι} {κ : Option String} {cap : ℚ} {i : ι} {o : Op}
    {r : Except Exn o.Ret} (h : Marks l tr) (hmay : (contracts κ cap callers i).may (l i) o) :
    Marks (Function.update l i ((contracts κ cap callers i).next (l i) o r)) (tr ++ [⟨i,o,r⟩]) := by
  have hold : ∀ j d, l j = d → d = .barred ∨ d = .ran →
      Function.update l i ((contracts κ cap callers i).next (l i) o r) j = d := by
    intro j d hj hd
    by_cases hji : j = i
    · subst hji
      rw [Function.update_self,next_of_over hmay (hj ▸ hd),hj]
    · rw [Function.update_of_ne hji,hj]
  constructor
  · intro e he hrefused
    rcases List.mem_append.mp he with hmem | hmem
    · exact hold _ _ (h.refused e hmem hrefused) (.inl rfl)
    · obtain rfl := List.mem_singleton.mp hmem
      rw [Function.update_self]
      exact next_of_refused hrefused
  · intro e he hexec
    rcases List.mem_append.mp he with hmem | hmem
    · exact hold _ _ (h.executed e hmem hexec) (.inr rfl)
    · obtain rfl := List.mem_singleton.mp hmem
      rw [Function.update_self]
      exact next_of_executor hexec

theorem marks_preserved (κ : Option String) (cap : ℚ) :
    Preserved B.device anyStep (contracts κ cap callers) (fun _ _ (_ : Except Exn EnforcementResult) => True)
      (fun _ l tr => Marks l tr) where
  heard _ _ _ _ _ _ _ _ _ := trivial
  next _ _ _ _ _ _ _ _ _ _ hi hmay := hi.step hmay

theorem spending_preserved (κ : String) (cap start : ℚ) :
    Preserved B.device anyStep (contracts (some κ) cap callers) (fun _ _ (_ : Except Exn EnforcementResult) => True)
      (fun s l tr => Spending cap start (value s κ) l (chargedRuns callers κ tr)) where
  heard _ _ _ _ _ _ _ _ _ := trivial
  next c l tr i o f x _ _ _ hi hmay := by
    rw [chargedRuns_append_singleton]
    exact hi.step (spends_perform o x hmay)

theorem capped_counter {κ : String} {cap : ℚ} {s : State} {tr : Trace ι} {c : Pool ι}
    (hunit : ∀ i, UnitDraws (some κ) cap (callers i).request) (hstart : value s κ ≤ cap)
    (h : Run B.device anyStep (startPool callers s) tr c) :
    value c.state κ ≤ cap ∧ (chargedRuns callers κ tr : ℚ) ≤ cap - value s κ := by
  have hinit : Spending cap (value s κ) (value s κ) (fun _ : ι => Draw.before) (chargedRuns callers κ []) :=
    ⟨hstart,∅,by simp [chargedRuns],nofun⟩
  obtain ⟨l,-,hi⟩ := h.invariant (spending_preserved κ cap (value s κ)) (fun i => keeps_program (callers i) (hunit i)) hinit
  obtain ⟨waiting,hback,-⟩ := hi.backed
  refine ⟨hi.bound,?_⟩
  have hcard : (0 : ℚ) ≤ waiting.card := Nat.cast_nonneg _
  have hbound := hi.bound
  simp only [List.nil_append] at hback
  linarith

theorem counter_untouched {κ : String} {s : State} {tr : Trace ι} {c : Pool ι}
    (hfree : ∀ i, ¬ Charges (some κ) (callers i).request) (h : Run B.device anyStep (startPool callers s) tr c) :
    value c.state κ = value s κ := by
  have hunit : ∀ i, UnitDraws (some κ) (value s κ) (callers i).request := by
    intro i
    refine ⟨fun hkey => absurd (.inl hkey.symm) (hfree i),?_⟩
    intro d hd hkey
    exact absurd (.inr (List.mem_map.mpr ⟨d,hd,hkey⟩)) (hfree i)
  have hinit : Spending (value s κ) (value s κ) (value s κ) (fun _ : ι => Draw.before) (chargedRuns callers κ []) :=
    ⟨le_refl _,∅,by simp [chargedRuns],nofun⟩
  obtain ⟨l,-,hi⟩ := h.invariant (spending_preserved κ (value s κ) (value s κ))
    (fun i => keeps_program (callers i) (hunit i)) hinit
  obtain ⟨waiting,hback,-⟩ := hi.backed
  have hcard : (0 : ℚ) ≤ waiting.card := Nat.cast_nonneg _
  have hruns : (0 : ℚ) ≤ chargedRuns callers κ ([] ++ tr) := Nat.cast_nonneg _
  have hbound := hi.bound
  linarith

theorem refused_never_runs {s : State} {tr : Trace ι} {c : Pool ι}
    (h : Run B.device anyStep (startPool callers s) tr c) (i : ι)
    (hrefused : ∃ e ∈ tr, e.thread = i ∧ RefusedDraw e) : ∀ e ∈ tr, e.thread = i → isExecutor e.op = false := by
  have hunit : ∀ i, UnitDraws none 0 (callers i).request := fun i => ⟨nofun,fun _ _ => nofun⟩
  obtain ⟨l,-,hi⟩ := h.invariant (marks_preserved none 0) (fun i => keeps_program (callers i) (hunit i))
    (⟨by simp,by simp⟩ : Marks (fun _ : ι => Draw.before) [])
  simp only [List.nil_append] at hi
  obtain ⟨e',he',rfl,hr⟩ := hrefused
  intro e he hthread
  by_contra hexec
  have hran := hi.executed e he (by simpa using hexec)
  rw [hthread,hi.refused e' he' hr] at hran
  cases hran

theorem budget_caps_bound_executions (B : Substrate) (callers : ι → Caller) (s : State) {tr : Trace ι} {c : Pool ι}
    (h : Run B.device anyStep (startPool callers s) tr c) :
    (∀ κ cap, (∀ i, UnitDraws (some κ) cap (callers i).request) → value s κ ≤ cap →
      value c.state κ ≤ cap ∧ (chargedRuns callers κ tr : ℚ) ≤ cap - value s κ) ∧
    ∀ i, (∃ e ∈ tr, e.thread = i ∧ RefusedDraw e) → ∀ e ∈ tr, e.thread = i → isExecutor e.op = false :=
  ⟨fun _ _ hunit hstart => capped_counter hunit hstart h,fun i => refused_never_runs h i⟩

end Runs

def pooledCallers : Bool → Caller := fun _ => {
  request := {
    call := ledgerCall
    initialDecision := .allow
    idempotencyKey := none
    counterKey := "calls"
    counterDelta := 1
    counterCap := 2
    ancestorDraws := [⟨"tree",1,1⟩] } }

def pooledRun : Trace Bool × Pool Bool :=
  play memory.device (turns true 8 ++ turns false 8) (startPool pooledCallers emptyState)

def refusedCheck : Event Bool Op Op.Ret Exn → Bool
  | ⟨_,.store (.tryIncrementCounter _ _ _),.ok false⟩ => true
  | _ => false

theorem refusedCheck_sound (e : Event Bool Op Op.Ret Exn) (h : refusedCheck e = true) : RefusedDraw e := by
  unfold refusedCheck at h
  split at h
  · trivial
  · cases h

theorem budget_caps_bound_executions_pool :
    value pooledRun.2.state "calls" ≤ 2 ∧ value pooledRun.2.state "tree" ≤ 1 ∧
      chargedRuns pooledCallers "tree" pooledRun.1 = 1 ∧
      ∀ e ∈ pooledRun.1, e.thread = false → isExecutor e.op = false := by
  have main := budget_caps_bound_executions memory pooledCallers emptyState
    (play_run (turns true 8 ++ turns false 8) (startPool pooledCallers emptyState))
  have hcalls := main.1 "calls" 2 (fun _ => by simp [UnitDraws,pooledCallers]) (by decide)
  have htree := main.1 "tree" 1 (fun _ => by simp [UnitDraws,pooledCallers]) (by decide)
  have hrefused : ∃ e ∈ pooledRun.1, e.thread = false ∧ refusedCheck e = true := by decide +kernel
  obtain ⟨e,he,hthread,hcheck⟩ := hrefused
  refine ⟨hcalls.1,htree.1,by decide +kernel,main.2 false ⟨e,he,hthread,refusedCheck_sound e hcheck⟩⟩

end Enforcement.Budget

end SafeAgents
