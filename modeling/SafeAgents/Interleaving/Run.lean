import SafeAgents.Interleaving.Prog

namespace Interleaving

structure Device (Op : Type) (Ret : Op → Type) (ε σ : Type) where
  Input : Op → Type
  perform : (o : Op) → Input o → σ → Except ε (Ret o) × σ

structure Event (ι Op : Type) (Ret : Op → Type) (ε : Type) where
  thread : ι
  op : Op
  reply : Except ε (Ret op)

structure Config (ι Op : Type) (Ret : Op → Type) (ε σ β : Type) where
  state : σ
  threads : ι → Prog Op Ret ε β

variable {ι Op : Type} {Ret : Op → Type} {ε σ β : Type} [DecidableEq ι]

namespace Config

def advance (c : Config ι Op Ret ε σ β) (i : ι) (p : Prog Op Ret ε β) (s : σ) : Config ι Op Ret ε σ β :=
  ⟨s,Function.update c.threads i p⟩

@[simp] theorem advance_state (c : Config ι Op Ret ε σ β) (i : ι) (p : Prog Op Ret ε β) (s : σ) :
    (c.advance i p s).state = s := rfl

@[simp] theorem advance_threads (c : Config ι Op Ret ε σ β) (i : ι) (p : Prog Op Ret ε β) (s : σ) :
    (c.advance i p s).threads = Function.update c.threads i p := rfl

end Config

inductive Step (D : Device Op Ret ε σ) :
    Config ι Op Ret ε σ β → Event ι Op Ret ε → Config ι Op Ret ε σ β → Prop
  | act (c : Config ι Op Ret ε σ β) (i : ι) (o : Op) (k : Except ε (Ret o) → Prog Op Ret ε β)
      (x : D.Input o) (h : c.threads i = .act o k) :
      Step D c ⟨i,o,(D.perform o x c.state).1⟩
        (c.advance i (k (D.perform o x c.state).1) (D.perform o x c.state).2)

abbrev Guard (ι Op : Type) (Ret : Op → Type) (ε σ β : Type) :=
  Config ι Op Ret ε σ β → Event ι Op Ret ε → Config ι Op Ret ε σ β → Prop

def anyStep : Guard ι Op Ret ε σ β := fun _ _ _ => True

inductive Run (D : Device Op Ret ε σ) (G : Guard ι Op Ret ε σ β) :
    Config ι Op Ret ε σ β → List (Event ι Op Ret ε) → Config ι Op Ret ε σ β → Prop
  | refl (c : Config ι Op Ret ε σ β) : Run D G c [] c
  | step {c c' c'' : Config ι Op Ret ε σ β} {tr : List (Event ι Op Ret ε)} {e : Event ι Op Ret ε} :
      Run D G c tr c' → Step D c' e c'' → G c' e c'' → Run D G c (tr ++ [e]) c''

variable {D : Device Op Ret ε σ} {G : Guard ι Op Ret ε σ β}

theorem Step.effect {c c' : Config ι Op Ret ε σ β} {e : Event ι Op Ret ε} (h : Step D c e c') :
    ∃ x, e.reply = (D.perform e.op x c.state).1 ∧ c'.state = (D.perform e.op x c.state).2 := by
  cases h with
  | act i o k x hth => exact ⟨x,rfl,rfl⟩

theorem Run.trans {c c' c'' : Config ι Op Ret ε σ β} {tr tr' : List (Event ι Op Ret ε)}
    (h : Run D G c tr c') (h' : Run D G c' tr' c'') : Run D G c (tr ++ tr') c'' := by
  induction h' with
  | refl => simpa using h
  | step _ hs hg ih => simpa [List.append_assoc] using Run.step ih hs hg

theorem Run.mono {G' : Guard ι Op Ret ε σ β} {c c' : Config ι Op Ret ε σ β}
    {tr : List (Event ι Op Ret ε)} (hG : ∀ a e b, G a e b → G' a e b) (h : Run D G c tr c') :
    Run D G' c tr c' := by
  induction h with
  | refl => exact .refl _
  | step _ hs hg ih => exact .step ih hs (hG _ _ _ hg)

theorem Run.eq_of_nil {c c' : Config ι Op Ret ε σ β} (h : Run D G c [] c') : c = c' := by
  generalize hnil : [] = tr at h
  cases h with
  | refl => rfl
  | step _ _ _ => simp at hnil

theorem Run.split {c c' : Config ι Op Ret ε σ β} {tr : List (Event ι Op Ret ε)} (h : Run D G c tr c')
    {tr₁ tr₂ : List (Event ι Op Ret ε)} {e : Event ι Op Ret ε} (htr : tr = tr₁ ++ e :: tr₂) :
    ∃ c₁ c₂, Run D G c tr₁ c₁ ∧ Step D c₁ e c₂ ∧ G c₁ e c₂ ∧ Run D G c₂ tr₂ c' := by
  induction h generalizing tr₂ with
  | refl => simp at htr
  | @step c' c'' tr e' hrun hs hg ih =>
    rcases List.eq_nil_or_concat tr₂ with rfl | ⟨tr₃,e'',rfl⟩
    · obtain ⟨rfl,he⟩ := List.append_inj' htr rfl
      cases he
      exact ⟨c',c'',hrun,hs,hg,.refl c''⟩
    · have hsplit : tr ++ [e'] = (tr₁ ++ e :: tr₃) ++ [e''] := by simpa using htr
      obtain ⟨rfl,he⟩ := List.append_inj' hsplit rfl
      cases he
      obtain ⟨c₁,c₂,h₁,hstep,hgstep,h₂⟩ := ih rfl
      exact ⟨c₁,c₂,h₁,hstep,hgstep,by simpa using h₂.step hs hg⟩

theorem Run.state_invariant {P : σ → Prop} (hP : ∀ a e b, Step D a e b → G a e b → P a.state → P b.state)
    {c c' : Config ι Op Ret ε σ β} {tr : List (Event ι Op Ret ε)} (h : Run D G c tr c') (h0 : P c.state) :
    P c'.state := by
  induction h with
  | refl => exact h0
  | step _ hs hg ih => exact hP _ _ _ hs hg ih

inductive Tally (D : Device Op Ret ε σ) (P : Guard ι Op Ret ε σ β) :
    Config ι Op Ret ε σ β → List (Event ι Op Ret ε) → Config ι Op Ret ε σ β → Nat → Prop
  | refl (c : Config ι Op Ret ε σ β) : Tally D P c [] c 0
  | hit {c c' c'' : Config ι Op Ret ε σ β} {tr : List (Event ι Op Ret ε)} {e : Event ι Op Ret ε} {n : Nat} :
      Tally D P c tr c' n → Step D c' e c'' → P c' e c'' → Tally D P c (tr ++ [e]) c'' (n + 1)
  | miss {c c' c'' : Config ι Op Ret ε σ β} {tr : List (Event ι Op Ret ε)} {e : Event ι Op Ret ε} {n : Nat} :
      Tally D P c tr c' n → Step D c' e c'' → ¬ P c' e c'' → Tally D P c (tr ++ [e]) c'' n

theorem Tally.run {P : Guard ι Op Ret ε σ β} {c c' : Config ι Op Ret ε σ β} {tr : List (Event ι Op Ret ε)} {n : Nat}
    (h : Tally D P c tr c' n) : Run D anyStep c tr c' := by
  induction h with
  | refl => exact .refl _
  | hit _ hs _ ih => exact .step ih hs trivial
  | miss _ hs _ ih => exact .step ih hs trivial

abbrev Oracle (D : Device Op Ret ε σ) := (o : Op) → D.Input o

def play (D : Device Op Ret ε σ) : List (ι × Oracle D) → Config ι Op Ret ε σ β →
    List (Event ι Op Ret ε) × Config ι Op Ret ε σ β
  | [], c => ([],c)
  | (i,x) :: script, c =>
    match c.threads i with
    | .ret _ => play D script c
    | .raise _ => play D script c
    | .act o k =>
      let out := D.perform o (x o) c.state
      let rest := play D script (c.advance i (k out.1) out.2)
      (⟨i,o,out.1⟩ :: rest.1,rest.2)

theorem play_run (script : List (ι × Oracle D)) (c : Config ι Op Ret ε σ β) :
    Run D anyStep c (play D script c).1 (play D script c).2 := by
  induction script generalizing c with
  | nil => exact .refl c
  | cons ix script ih =>
    obtain ⟨i,x⟩ := ix
    simp only [play]
    split
    · exact ih c
    · exact ih c
    · rename_i o k hk
      have first : Run D anyStep c _ _ := .step (.refl c) (Step.act c i o k (x o) hk) trivial
      exact first.trans (ih _)

theorem play_step {i : ι} {x : Oracle D} {c : Config ι Op Ret ε σ β} {e : Event ι Op Ret ε}
    (h : (play D [(i,x)] c).1 = [e]) : Step D c e (play D [(i,x)] c).2 := by
  simp only [play] at h ⊢
  split at h
  · cases h
  · cases h
  · rename_i o k hk
    cases h
    exact .act c i o k (x o) hk

theorem play_unscheduled (script : List (ι × Oracle D)) (c : Config ι Op Ret ε σ β) {j : ι}
    (h : ∀ ix ∈ script, ix.1 ≠ j) : (play D script c).2.threads j = c.threads j := by
  induction script generalizing c with
  | nil => rfl
  | cons ix script ih =>
    obtain ⟨i,x⟩ := ix
    have hrest := fun c => ih c fun ix hix => h ix (List.mem_cons_of_mem _ hix)
    have hi : j ≠ i := fun hj => h (i,x) List.mem_cons_self hj.symm
    simp only [play]
    split
    · exact hrest c
    · exact hrest c
    · rw [hrest,Config.advance_threads,Function.update_of_ne hi]

def checked (D : Device Op Ret ε σ) (g : Config ι Op Ret ε σ β → Event ι Op Ret ε → Config ι Op Ret ε σ β → Bool) :
    List (ι × Oracle D) → Config ι Op Ret ε σ β → Bool
  | [], _ => true
  | (i,x) :: script, c =>
    match c.threads i with
    | .ret _ => checked D g script c
    | .raise _ => checked D g script c
    | .act o k =>
      let out := D.perform o (x o) c.state
      let c' := c.advance i (k out.1) out.2
      g c ⟨i,o,out.1⟩ c' && checked D g script c'

theorem play_checked {g : Config ι Op Ret ε σ β → Event ι Op Ret ε → Config ι Op Ret ε σ β → Bool}
    (hg : ∀ a e b, g a e b = true → G a e b) (script : List (ι × Oracle D)) (c : Config ι Op Ret ε σ β)
    (h : checked D g script c = true) : Run D G c (play D script c).1 (play D script c).2 := by
  induction script generalizing c with
  | nil => exact .refl c
  | cons ix script ih =>
    obtain ⟨i,x⟩ := ix
    simp only [play,checked] at h ⊢
    split at h
    · exact ih c h
    · exact ih c h
    · rename_i o k hk
      obtain ⟨hnow,hrest⟩ := Bool.and_eq_true_iff.mp h
      have first : Run D G c _ _ := .step (.refl c) (Step.act c i o k (x o) hk) (hg _ _ _ hnow)
      exact first.trans (ih _ hrest)

end Interleaving
