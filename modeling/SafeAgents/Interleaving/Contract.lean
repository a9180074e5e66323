import SafeAgents.Interleaving.Run

namespace Interleaving

structure Contract (Op : Type) (Ret : Op → Type) (ε L : Type) where
  may : L → Op → Prop
  heard : L → (o : Op) → Except ε (Ret o) → Prop
  next : L → (o : Op) → Except ε (Ret o) → L

variable {ι Op : Type} {Ret : Op → Type} {ε σ α β L : Type}

@[simp] theorem forall_except {P : Except ε α → Prop} : (∀ r, P r) ↔ (∀ a, P (.ok a)) ∧ ∀ e, P (.error e) := by
  refine ⟨fun h => ⟨fun a => h _,fun e => h _⟩,fun h r => ?_⟩
  cases r with
  | ok a => exact h.1 a
  | error e => exact h.2 e

theorem error_ne_ok {P : α → Prop} (e : ε) (a : α) (h : (.error e : Except ε α) = .ok a) : P a := by
  cases h

def Keeps (C : Contract Op Ret ε L) (Q : L → Except ε α → Prop) : L → Prog Op Ret ε α → Prop
  | l, .ret a => Q l (.ok a)
  | l, .raise e => Q l (.error e)
  | l, .act o k => C.may l o ∧ ∀ r, C.heard l o r → Keeps C Q (C.next l o r) (k r)

section Rules
variable {C : Contract Op Ret ε L} {Q Q' : L → Except ε α → Prop} {R : L → Except ε β → Prop}
  {l : L} {p : Prog Op Ret ε α}

@[simp] theorem keeps_ret {a : α} : Keeps C Q l (.ret a) ↔ Q l (.ok a) := Iff.rfl

@[simp] theorem keeps_raise {e : ε} : Keeps C Q l (.raise e) ↔ Q l (.error e) := Iff.rfl

@[simp] theorem keeps_act {o : Op} {k : Except ε (Ret o) → Prog Op Ret ε α} :
    Keeps C Q l (.act o k) ↔ C.may l o ∧ ∀ r, C.heard l o r → Keeps C Q (C.next l o r) (k r) := Iff.rfl

@[simp] theorem keeps_finish {r : Except ε α} : Keeps C Q l (.finish r) ↔ Q l r := by
  cases r <;> rfl

theorem keeps_mono (h : ∀ l r, Q l r → Q' l r) : Keeps C Q l p → Keeps C Q' l p := by
  induction p generalizing l with
  | ret a => exact h l _
  | raise e => exact h l _
  | act o k ih => exact fun hp => ⟨hp.1,fun r hr => ih r (hp.2 r hr)⟩

theorem keeps_outcome {r : Except ε α} (h : Keeps C Q l p) (hr : p.outcome = some r) : Q l r := by
  cases p with
  | ret a =>
    cases hr
    exact h
  | raise e =>
    cases hr
    exact h
  | act o k => cases hr

@[simp] theorem keeps_attempt {f : Except ε α → Prog Op Ret ε β} :
    Keeps C R l (p.attempt f) ↔ Keeps C (fun l' r => Keeps C R l' (f r)) l p := by
  induction p generalizing l with
  | ret a => rfl
  | raise e => rfl
  | act o k ih =>
    simp only [Prog.attempt,keeps_act]
    exact and_congr_right fun _ => forall_congr' fun r => imp_congr_right fun _ => ih r

@[simp] theorem keeps_pure {a : α} : Keeps C Q l (pure a) ↔ Q l (.ok a) := Iff.rfl

@[simp] theorem keeps_throw {e : ε} : Keeps C Q l (throw e) ↔ Q l (.error e) := Iff.rfl

@[simp] theorem keeps_bind {f : α → Prog Op Ret ε β} :
    Keeps C R l (p >>= f) ↔ Keeps C (fun l' r => Keeps C R l' (.andThen f r)) l p := keeps_attempt

@[simp] theorem keeps_tryCatch {h : ε → Prog Op Ret ε α} :
    Keeps C Q l (tryCatch p h) ↔ Keeps C (fun l' r => Keeps C Q l' (.orElse h r)) l p := keeps_attempt

theorem Keeps.bind {f : α → Prog Op Ret ε β} (hp : Keeps C Q l p)
    (hok : ∀ l' a, Q l' (.ok a) → Keeps C R l' (f a)) (herr : ∀ l' e, Q l' (.error e) → R l' (.error e)) :
    Keeps C R l (p >>= f) := by
  refine keeps_bind.mpr (keeps_mono (fun l' r h => ?_) hp)
  cases r with
  | ok a => exact hok l' a h
  | error e => exact herr l' e h

theorem Keeps.tryCatch {h : ε → Prog Op Ret ε α} (hp : Keeps C Q l p)
    (hok : ∀ l' a, Q l' (.ok a) → Q' l' (.ok a)) (herr : ∀ l' e, Q l' (.error e) → Keeps C Q' l' (h e)) :
    Keeps C Q' l (tryCatch p h) := by
  refine keeps_tryCatch.mpr (keeps_mono (fun l' r hr => ?_) hp)
  cases r with
  | ok a => exact hok l' a hr
  | error e => exact herr l' e hr

end Rules

section Quiet
variable (P : Op → Prop)

def Uses : Prog Op Ret ε α → Prop
  | .ret _ => True
  | .raise _ => True
  | .act o k => P o ∧ ∀ r, Uses (k r)

variable {P}

@[simp] theorem uses_ret {a : α} : Uses P (.ret a : Prog Op Ret ε α) := trivial

@[simp] theorem uses_raise {e : ε} : Uses P (.raise e : Prog Op Ret ε α) := trivial

@[simp] theorem uses_finish {r : Except ε α} : Uses P (.finish r : Prog Op Ret ε α) := by
  cases r <;> trivial

@[simp] theorem uses_call {o : Op} : Uses P (.call o : Prog Op Ret ε (Ret o)) ↔ P o := by
  simp [Prog.call,Uses]

theorem uses_attempt {p : Prog Op Ret ε α} {f : Except ε α → Prog Op Ret ε β} (hp : Uses P p)
    (hf : ∀ r, Uses P (f r)) : Uses P (p.attempt f) := by
  induction p with
  | ret a => exact hf _
  | raise e => exact hf _
  | act o k ih => exact ⟨hp.1,fun r => ih r (hp.2 r)⟩

theorem Uses.mono {P' : Op → Prop} {p : Prog Op Ret ε α} (hP : ∀ o, P o → P' o) (hp : Uses P p) : Uses P' p := by
  induction p with
  | ret a => trivial
  | raise e => trivial
  | act o k ih => exact ⟨hP o hp.1,fun r => ih r (hp.2 r)⟩

theorem Uses.bind {p : Prog Op Ret ε α} {f : α → Prog Op Ret ε β} (hp : Uses P p)
    (hf : ∀ a, Uses P (f a)) : Uses P (p >>= f) := by
  refine uses_attempt hp fun r => ?_
  cases r with
  | ok a => exact hf a
  | error e => trivial

theorem Uses.tryCatch {p : Prog Op Ret ε α} {h : ε → Prog Op Ret ε α} (hp : Uses P p)
    (hh : ∀ e, Uses P (h e)) : Uses P (tryCatch p h) := by
  refine uses_attempt hp fun r => ?_
  cases r with
  | ok a => trivial
  | error e => exact hh e

@[simp] theorem uses_pure {a : α} : Uses P (pure a : Prog Op Ret ε α) := trivial

@[simp] theorem uses_throw {e : ε} : Uses P (throw e : Prog Op Ret ε α) := trivial

theorem Uses.keeps {C : Contract Op Ret ε L} {Q : L → Except ε α → Prop} {l : L}
    {p : Prog Op Ret ε α} (hp : Uses P p) (hmay : ∀ o, P o → C.may l o)
    (hnext : ∀ o r, P o → C.next l o r = l) (hQ : ∀ r, Q l r) : Keeps C Q l p := by
  induction p with
  | ret a => exact hQ _
  | raise e => exact hQ _
  | act o k ih =>
    refine ⟨hmay o hp.1,fun r _ => ?_⟩
    rw [hnext o r hp.1]
    exact ih r (hp.2 r)

def Yields (P : Op → Prop) (V : Except ε α → Prop) : Prog Op Ret ε α → Prop
  | .ret a => V (.ok a)
  | .raise e => V (.error e)
  | .act o k => P o ∧ ∀ r, Yields P V (k r)

theorem Uses.yields {V : Except ε α → Prop} {p : Prog Op Ret ε α} (hp : Uses P p) (hV : ∀ r, V r) : Yields P V p := by
  induction p with
  | ret a => exact hV _
  | raise e => exact hV _
  | act o k ih => exact ⟨hp.1,fun r => ih r (hp.2 r)⟩

theorem Yields.uses {V : Except ε α → Prop} {p : Prog Op Ret ε α} (hp : Yields P V p) : Uses P p := by
  induction p with
  | ret a => trivial
  | raise e => trivial
  | act o k ih => exact ⟨hp.1,fun r => ih r (hp.2 r)⟩

theorem Yields.mono {V W : Except ε α → Prop} {p : Prog Op Ret ε α} (hp : Yields P V p) (hV : ∀ r, V r → W r) :
    Yields P W p := by
  induction p with
  | ret a => exact hV _ hp
  | raise e => exact hV _ hp
  | act o k ih => exact ⟨hp.1,fun r => ih r (hp.2 r)⟩

theorem Yields.imp {P' : Op → Prop} {V : Except ε α → Prop} {p : Prog Op Ret ε α} (hp : Yields P V p)
    (hP : ∀ o, P o → P' o) : Yields P' V p := by
  induction p with
  | ret a => exact hp
  | raise e => exact hp
  | act o k ih => exact ⟨hP o hp.1,fun r => ih r (hp.2 r)⟩

theorem yields_attempt {V : Except ε α → Prop} {W : Except ε β → Prop} {p : Prog Op Ret ε α}
    {f : Except ε α → Prog Op Ret ε β} (hp : Yields P V p) (hf : ∀ r, V r → Yields P W (f r)) :
    Yields P W (p.attempt f) := by
  induction p with
  | ret a => exact hf _ hp
  | raise e => exact hf _ hp
  | act o k ih => exact ⟨hp.1,fun r => ih r (hp.2 r)⟩

theorem Yields.bind {V : Except ε α → Prop} {W : Except ε β → Prop} {p : Prog Op Ret ε α}
    {f : α → Prog Op Ret ε β} (hp : Yields P V p) (hok : ∀ a, V (.ok a) → Yields P W (f a))
    (herr : ∀ e, V (.error e) → W (.error e)) : Yields P W (p >>= f) := by
  refine yields_attempt hp fun r hr => ?_
  cases r with
  | ok a => exact hok a hr
  | error e => exact herr e hr

theorem Yields.then {W : Except ε β → Prop} {p : Prog Op Ret ε α} {f : α → Prog Op Ret ε β} (hp : Uses P p)
    (hok : ∀ a, Yields P W (f a)) (herr : ∀ e, W (.error e)) : Yields P W (p >>= f) :=
  Yields.bind (hp.yields fun _ => trivial) (fun a _ => hok a) fun e _ => herr e

theorem Yields.tryCatch {V W : Except ε α → Prop} {p : Prog Op Ret ε α} {h : ε → Prog Op Ret ε α}
    (hp : Yields P V p) (hok : ∀ a, V (.ok a) → W (.ok a)) (herr : ∀ e, V (.error e) → Yields P W (h e)) :
    Yields P W (tryCatch p h) := by
  refine yields_attempt hp fun r hr => ?_
  cases r with
  | ok a => exact hok a hr
  | error e => exact herr e hr

theorem Yields.keeps {C : Contract Op Ret ε L} {V : Except ε α → Prop} {l : L} {p : Prog Op Ret ε α}
    (hp : Yields P V p) (hmay : ∀ o, P o → C.may l o) (hnext : ∀ o r, P o → C.next l o r = l) :
    Keeps C (fun l' r => l' = l ∧ V r) l p := by
  induction p with
  | ret a => exact ⟨rfl,hp⟩
  | raise e => exact ⟨rfl,hp⟩
  | act o k ih =>
    refine ⟨hmay o hp.1,fun r _ => ?_⟩
    rw [hnext o r hp.1]
    exact ih r (hp.2 r)

end Quiet

def anything : Contract Op Ret ε L := ⟨fun _ _ => True,fun _ _ _ => True,fun l _ _ => l⟩

theorem keeps_anything {l : L} {p : Prog Op Ret ε α} : Keeps anything (fun _ _ => True) l p := by
  induction p with
  | ret a => trivial
  | raise e => trivial
  | act o k ih => exact ⟨trivial,fun r _ => ih r⟩

section Pool
variable [DecidableEq ι] {D : Device Op Ret ε σ} {G : Guard ι Op Ret ε σ β}
  {C : ι → Contract Op Ret ε L} {Q : ι → L → Except ε β → Prop}
  {Inv : σ → (ι → L) → List (Event ι Op Ret ε) → Prop}

def KeepsAll (C : ι → Contract Op Ret ε L) (Q : ι → L → Except ε β → Prop) (l : ι → L)
    (threads : ι → Prog Op Ret ε β) : Prop :=
  ∀ j, Keeps (C j) (Q j) (l j) (threads j)

structure Preserved (D : Device Op Ret ε σ) (G : Guard ι Op Ret ε σ β)
    (C : ι → Contract Op Ret ε L) (Q : ι → L → Except ε β → Prop)
    (Inv : σ → (ι → L) → List (Event ι Op Ret ε) → Prop) : Prop where
  heard : ∀ (c : Config ι Op Ret ε σ β) (l : ι → L) (tr : List (Event ι Op Ret ε)) (i : ι) (o : Op)
    (x : D.Input o), KeepsAll C Q l c.threads → Inv c.state l tr → (C i).may (l i) o →
    (C i).heard (l i) o (D.perform o x c.state).1
  next : ∀ (c : Config ι Op Ret ε σ β) (l : ι → L) (tr : List (Event ι Op Ret ε)) (i : ι) (o : Op)
    (k : Except ε (Ret o) → Prog Op Ret ε β) (x : D.Input o), c.threads i = .act o k →
    G c ⟨i,o,(D.perform o x c.state).1⟩
      (c.advance i (k (D.perform o x c.state).1) (D.perform o x c.state).2) →
    KeepsAll C Q l c.threads → Inv c.state l tr → (C i).may (l i) o →
    Inv (D.perform o x c.state).2
      (Function.update l i ((C i).next (l i) o (D.perform o x c.state).1))
      (tr ++ [⟨i,o,(D.perform o x c.state).1⟩])

theorem KeepsAll.update {l : ι → L} {threads : ι → Prog Op Ret ε β} (h : KeepsAll C Q l threads)
    {i : ι} {p : Prog Op Ret ε β} {l' : L} (hp : Keeps (C i) (Q i) l' p) :
    KeepsAll C Q (Function.update l i l') (Function.update threads i p) := by
  intro j
  by_cases hj : j = i
  · subst hj
    simpa using hp
  · simpa [Function.update_of_ne hj] using h j

def advanceStage (C : ι → Contract Op Ret ε L) (l : ι → L) (e : Event ι Op Ret ε) : ι → L :=
  Function.update l e.thread ((C e.thread).next (l e.thread) e.op e.reply)

def stages (C : ι → Contract Op Ret ε L) (l : ι → L) (tr : List (Event ι Op Ret ε)) : ι → L :=
  tr.foldl (advanceStage C) l

@[simp] theorem stages_nil (l : ι → L) : stages C l [] = l := rfl

theorem stages_append (l : ι → L) (tr tr' : List (Event ι Op Ret ε)) :
    stages C l (tr ++ tr') = stages C (stages C l tr) tr' := List.foldl_append

@[simp] theorem stages_concat (l : ι → L) (tr : List (Event ι Op Ret ε)) (e : Event ι Op Ret ε) :
    stages C l (tr ++ [e]) = advanceStage C (stages C l tr) e := stages_append l tr [e]

theorem Preserved.step (hP : Preserved D G C Q Inv) {c c' : Config ι Op Ret ε σ β}
    {e : Event ι Op Ret ε} {l : ι → L} {tr : List (Event ι Op Ret ε)} (hs : Step D c e c')
    (hg : G c e c') (hk : KeepsAll C Q l c.threads) (hi : Inv c.state l tr) :
    KeepsAll C Q (advanceStage C l e) c'.threads ∧ Inv c'.state (advanceStage C l e) (tr ++ [e]) := by
  cases hs with
  | act i o k x h =>
    have hth := hk i
    rw [h,keeps_act] at hth
    exact ⟨hk.update (hth.2 _ (hP.heard c l tr i o x hk hi hth.1)),hP.next c l tr i o k x h hg hk hi hth.1⟩

theorem Run.staged (hP : Preserved D G C Q Inv) {c c' : Config ι Op Ret ε σ β} {l : ι → L}
    {tr tr' : List (Event ι Op Ret ε)} (h : Run D G c tr' c') (hk : KeepsAll C Q l c.threads)
    (hi : Inv c.state l tr) :
    KeepsAll C Q (stages C l tr') c'.threads ∧ Inv c'.state (stages C l tr') (tr ++ tr') := by
  induction h with
  | refl => exact ⟨hk,by simpa using hi⟩
  | step _ hs hg ih =>
    rw [stages_concat,← List.append_assoc]
    exact hP.step hs hg ih.1 ih.2

theorem KeepsAll.may_of_step {c c' : Config ι Op Ret ε σ β} {l : ι → L} {e : Event ι Op Ret ε}
    (hk : KeepsAll C Q l c.threads) (hs : Step D c e c') : (C e.thread).may (l e.thread) e.op := by
  cases hs with
  | act i o k x hth =>
    have hthread := hk i
    rw [hth,keeps_act] at hthread
    exact hthread.1

theorem Run.stage_induct (hP : Preserved D G C Q Inv) {c c' : Config ι Op Ret ε σ β} {l : ι → L}
    {tr tr' : List (Event ι Op Ret ε)} (h : Run D G c tr' c') (hk : KeepsAll C Q l c.threads)
    (hi : Inv c.state l tr) {i : ι} {P : L → Prop}
    (hnext : ∀ l o r, (C i).may l o → P l → P ((C i).next l o r)) (hstart : P (l i)) : P (stages C l tr' i) := by
  induction h with
  | refl => exact hstart
  | @step c' c'' tr' e hrun hs hg ih =>
    have hmay := (hrun.staged hP hk hi).1.may_of_step hs
    rw [stages_concat,advanceStage]
    by_cases hthread : i = e.thread
    · subst hthread
      rw [Function.update_self]
      exact hnext _ _ _ hmay ih
    · rwa [Function.update_of_ne hthread]

theorem Run.may_at (hP : Preserved D G C Q Inv) {c c' : Config ι Op Ret ε σ β} {l : ι → L}
    {tr tr₁ tr₂ : List (Event ι Op Ret ε)} {e : Event ι Op Ret ε} (h : Run D G c (tr₁ ++ e :: tr₂) c')
    (hk : KeepsAll C Q l c.threads) (hi : Inv c.state l tr) :
    (C e.thread).may (stages C l tr₁ e.thread) e.op := by
  obtain ⟨c₁,c₂,h₁,hs,-,-⟩ := h.split rfl
  exact (h₁.staged hP hk hi).1.may_of_step hs

theorem Run.staged_from_start (hP : Preserved D G C Q Inv) {c c' : Config ι Op Ret ε σ β} {l : ι → L}
    {tr : List (Event ι Op Ret ε)} (h : Run D G c tr c') (hk : KeepsAll C Q l c.threads) (hi : Inv c.state l []) :
    KeepsAll C Q (stages C l tr) c'.threads ∧ Inv c'.state (stages C l tr) tr := h.staged hP hk hi

theorem Run.invariant (hP : Preserved D G C Q Inv) {c c' : Config ι Op Ret ε σ β} {l : ι → L}
    {tr tr' : List (Event ι Op Ret ε)} (h : Run D G c tr' c') (hk : KeepsAll C Q l c.threads)
    (hi : Inv c.state l tr) :
    ∃ l', KeepsAll C Q l' c'.threads ∧ Inv c'.state l' (tr ++ tr') := ⟨_,h.staged hP hk hi⟩

end Pool

end Interleaving
