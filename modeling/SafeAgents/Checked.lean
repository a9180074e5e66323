import Mathlib.Init

namespace Checked

variable {ε α β : Type}

def refuseIf (c : Prop) [Decidable c] (e : ε) : Except ε Unit := if c then .error e else .ok ()

@[simp] theorem refuseIf_ok {c : Prop} [Decidable c] {e : ε} {u : Unit} : refuseIf c e = .ok u ↔ ¬ c := by
  by_cases hc : c <;> simp [refuseIf,hc]

theorem refuseIf_pass {c : Prop} [Decidable c] {e : ε} (h : ¬ c) : refuseIf c e = .ok () := by simp [h]

theorem bind_ok {x : Except ε α} {f : α → Except ε β} {b : β} : (x >>= f) = .ok b ↔ ∃ a, x = .ok a ∧ f a = .ok b := by
  cases x with
  | error e =>
    constructor
    · intro h
      cases h
    · rintro ⟨a,ha,_⟩
      cases ha
  | ok a =>
    constructor
    · intro h
      exact ⟨a,rfl,h⟩
    · rintro ⟨a',ha,h⟩
      cases ha
      exact h

theorem bind_of_ok {x : Except ε α} {a : α} (h : x = .ok a) (f : α → Except ε β) : (x >>= f) = f a := by
  subst h
  rfl

theorem bind_error {x : Except ε α} {f : α → Except ε β} {e : ε} :
    (x >>= f) = .error e ↔ x = .error e ∨ ∃ a, x = .ok a ∧ f a = .error e := by
  cases x with
  | error e' =>
    constructor
    · intro h
      cases h
      exact .inl rfl
    · rintro (h | ⟨a,ha,_⟩)
      · cases h
        rfl
      · cases ha
  | ok a =>
    constructor
    · intro h
      exact .inr ⟨a,rfl,h⟩
    · rintro (h | ⟨a',ha,h⟩)
      · cases h
      · cases ha
        exact h

theorem then_ok {x : Except ε Unit} {y : Except ε β} {b : β} : (x >>= fun _ => y) = .ok b ↔ x = .ok () ∧ y = .ok b := by
  rw [bind_ok]
  constructor
  · rintro ⟨a,ha,hb⟩
    exact ⟨ha,hb⟩
  · rintro ⟨ha,hb⟩
    exact ⟨(),ha,hb⟩

theorem forM_ok {f : α → Except ε Unit} {l : List α} : l.forM f = .ok () ↔ ∀ a ∈ l, f a = .ok () := by
  induction l with
  | nil =>
    constructor
    · intro _ a ha
      cases ha
    · intro _
      rfl
  | cons a l ih =>
    have hcons : (a :: l).forM f = (f a >>= fun _ => l.forM f) := rfl
    rw [hcons,then_ok,ih]
    constructor
    · rintro ⟨ha,hl⟩ b hb
      rcases List.mem_cons.mp hb with rfl | hb
      · exact ha
      · exact hl b hb
    · intro h
      exact ⟨h a List.mem_cons_self,fun b hb => h b (List.mem_cons_of_mem a hb)⟩

theorem mapM_ok {f : α → Except ε β} {l : List α} (h : ∀ a ∈ l, ∃ b, f a = .ok b) :
    ∃ bs, l.mapM f = .ok bs ∧ l.map f = bs.map .ok := by
  induction l with
  | nil => exact ⟨[],by rw [List.mapM_nil]; rfl,rfl⟩
  | cons a l ih =>
    obtain ⟨b,hb⟩ := h a List.mem_cons_self
    obtain ⟨bs,hbs,hmap⟩ := ih fun c hc => h c (List.mem_cons_of_mem a hc)
    refine ⟨b :: bs,?_,by rw [List.map_cons,List.map_cons,hb,hmap]⟩
    rw [List.mapM_cons,hb,hbs]
    rfl

theorem map_of_mapM_ok {f : α → Except ε β} {l : List α} {bs : List β} (h : l.mapM f = .ok bs) : l.map f = bs.map .ok := by
  induction l generalizing bs with
  | nil =>
    rw [List.mapM_nil] at h
    cases h
    rfl
  | cons a l ih =>
    rw [List.mapM_cons] at h
    obtain ⟨b,hb,hrest⟩ := bind_ok.mp h
    obtain ⟨cs,hcs,hend⟩ := bind_ok.mp hrest
    cases hend
    rw [List.map_cons,List.map_cons,hb,ih hcs]

theorem mem_of_mapM {f : α → Except ε β} {l : List α} {bs : List β} (h : l.map f = bs.map .ok) {b : β} :
    b ∈ bs ↔ ∃ a ∈ l, f a = .ok b := by
  have hok : b ∈ bs ↔ .ok b ∈ bs.map (Except.ok : β → Except ε β) := by simp
  rw [hok,← h,List.mem_map]

theorem map_of_mapM {γ : Type} {f : α → Except ε β} {l : List α} {bs : List β} (h : l.map f = bs.map .ok) {g : β → γ} {k : α → γ}
    (hk : ∀ a ∈ l, ∀ b, f a = .ok b → g b = k a) : bs.map g = l.map k := by
  induction l generalizing bs with
  | nil =>
    obtain rfl : bs = [] := by simpa using h.symm
    rfl
  | cons a l ih =>
    cases bs with
    | nil => simp at h
    | cons b bs =>
      obtain ⟨ha,hl⟩ := List.cons.inj h
      rw [List.map_cons,List.map_cons,hk a List.mem_cons_self b ha,ih hl fun c hc => hk c (List.mem_cons_of_mem a hc)]

theorem pure_ok {a b : α} : (pure a : Except ε α) = .ok b ↔ a = b := by
  constructor
  · intro h
    cases h
    rfl
  · rintro rfl
    rfl

end Checked
