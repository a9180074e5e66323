import Mathlib.Data.List.Induction
import Mathlib.Data.List.Nodup
import Mathlib.Data.List.Perm.Subperm
import SafeAgents.Interleaving.Contract

namespace Interleaving

variable {ι Op : Type} {Ret : Op → Type} {ε σ α β : Type}

structure Saw (Op : Type) (Ret : Op → Type) (ε : Type) where
  op : Op
  reply : Except ε (Ret op)

inductive Plays : Prog Op Ret ε α → List (Saw Op Ret ε) → Except ε α → Prop
  | ret (a : α) : Plays (.ret a) [] (.ok a)
  | raise (e : ε) : Plays (.raise e) [] (.error e)
  | act {o : Op} {k : Except ε (Ret o) → Prog Op Ret ε α} {r : Except ε (Ret o)} {own : List (Saw Op Ret ε)} {out : Except ε α} :
      Plays (k r) own out → Plays (.act o k) (⟨o,r⟩ :: own) out

section Played
variable {own : List (Saw Op Ret ε)} {out : Except ε α}

@[simp] theorem plays_ret {a : α} : Plays (.ret a : Prog Op Ret ε α) own out ↔ own = [] ∧ out = .ok a := by
  constructor
  · rintro ⟨⟩
    exact ⟨rfl,rfl⟩
  · rintro ⟨rfl,rfl⟩
    exact .ret a

@[simp] theorem plays_raise {e : ε} : Plays (.raise e : Prog Op Ret ε α) own out ↔ own = [] ∧ out = .error e := by
  constructor
  · rintro ⟨⟩
    exact ⟨rfl,rfl⟩
  · rintro ⟨rfl,rfl⟩
    exact .raise e

@[simp] theorem plays_act {o : Op} {k : Except ε (Ret o) → Prog Op Ret ε α} :
    Plays (.act o k) own out ↔ ∃ r rest, own = ⟨o,r⟩ :: rest ∧ Plays (k r) rest out := by
  constructor
  · rintro (_ | _ | h)
    exact ⟨_,_,rfl,h⟩
  · rintro ⟨r,rest,rfl,h⟩
    exact .act h

@[simp] theorem plays_finish {r : Except ε α} : Plays (.finish r : Prog Op Ret ε α) own out ↔ own = [] ∧ out = r := by
  cases r with
  | ok a => exact plays_ret
  | error e => exact plays_raise

theorem Plays.attempt {p : Prog Op Ret ε α} {f : Except ε α → Prog Op Ret ε β} {r : Except ε α} {own own' : List (Saw Op Ret ε)}
    {out : Except ε β} (hp : Plays p own r) (hf : Plays (f r) own' out) : Plays (p.attempt f) (own ++ own') out := by
  induction hp with
  | ret a => exact hf
  | raise e => exact hf
  | act _ ih => exact .act (ih hf)

theorem Plays.bind {p : Prog Op Ret ε α} {f : α → Prog Op Ret ε β} {a : α} {own own' : List (Saw Op Ret ε)} {out : Except ε β}
    (hp : Plays p own (.ok a)) (hf : Plays (f a) own' out) : Plays (p >>= f) (own ++ own') out := hp.attempt hf

theorem plays_attempt {p : Prog Op Ret ε α} {f : Except ε α → Prog Op Ret ε β} {own : List (Saw Op Ret ε)} {out : Except ε β}
    (h : Plays (p.attempt f) own out) : ∃ first rest r, own = first ++ rest ∧ Plays p first r ∧ Plays (f r) rest out := by
  induction p generalizing own with
  | ret a => exact ⟨[],own,.ok a,rfl,.ret a,h⟩
  | raise e => exact ⟨[],own,.error e,rfl,.raise e,h⟩
  | act o k ih =>
    obtain ⟨reply,more,rfl,hmore⟩ := plays_act.mp h
    obtain ⟨first,rest,r,rfl,hfirst,hrest⟩ := ih reply hmore
    exact ⟨⟨o,reply⟩ :: first,rest,r,rfl,.act hfirst,hrest⟩

theorem plays_bind_ok {p : Prog Op Ret ε α} {f : α → Prog Op Ret ε β} {own : List (Saw Op Ret ε)} {b : β}
    (h : Plays (p >>= f) own (.ok b)) :
    ∃ first rest a, own = first ++ rest ∧ Plays p first (.ok a) ∧ Plays (f a) rest (.ok b) := by
  obtain ⟨first,rest,r,rfl,hfirst,hrest⟩ := plays_attempt h
  cases r with
  | ok a => exact ⟨first,rest,a,rfl,hfirst,hrest⟩
  | error e =>
    obtain ⟨-,hout⟩ := plays_raise.mp hrest
    cases hout

theorem plays_call (o : Op) (r : Except ε (Ret o)) : Plays (.call o) [⟨o,r⟩] r := by
  cases r with
  | ok a => exact .act (.ret a)
  | error e => exact .act (.raise e)

theorem plays_tryCatch {p : Prog Op Ret ε α} {h : ε → Prog Op Ret ε α} {own : List (Saw Op Ret ε)} {out : Except ε α}
    (hplays : Plays (tryCatch p h) own out) : (∃ a, out = .ok a ∧ Plays p own (.ok a)) ∨
      ∃ first rest e, own = first ++ rest ∧ Plays p first (.error e) ∧ Plays (h e) rest out := by
  obtain ⟨first,rest,r,rfl,hfirst,hrest⟩ := plays_attempt hplays
  cases r with
  | ok a =>
    obtain ⟨rfl,rfl⟩ := plays_ret.mp hrest
    exact .inl ⟨a,rfl,by simpa using hfirst⟩
  | error e => exact .inr ⟨first,rest,e,rfl,hfirst,hrest⟩

theorem plays_called {o : Op} {r : Except ε (Ret o)} (h : Plays (.call o : Prog Op Ret ε (Ret o)) own r) : own = [⟨o,r⟩] := by
  obtain ⟨reply,rest,rfl,hrest⟩ := plays_act.mp h
  obtain ⟨rfl,rfl⟩ := plays_finish.mp hrest
  rfl

theorem plays_head {p : Prog Op Ret ε α} {o : Op} {r : Except ε (Ret o)} (h : Plays p (⟨o,r⟩ :: own) out) :
    ∃ k, p = .act o k ∧ Plays (k r) own out := by
  cases p with
  | ret a => simp at h
  | raise e => simp at h
  | act o' k =>
    obtain ⟨r',more,heq,hmore⟩ := plays_act.mp h
    cases heq
    exact ⟨k,rfl,hmore⟩

theorem Plays.uses {P : Op → Prop} {p : Prog Op Ret ε α} (h : Plays p own out) (hp : Uses P p) : ∀ saw ∈ own, P saw.op := by
  induction h with
  | ret a => simp
  | raise e => simp
  | act _ ih => simpa using ⟨hp.1,ih (hp.2 _)⟩

theorem plays_against (answers : (o : Op) → Except ε (Ret o)) (p : Prog Op Ret ε α) : ∃ own, Plays p own (p.against answers) := by
  induction p with
  | ret a => exact ⟨[],.ret a⟩
  | raise e => exact ⟨[],.raise e⟩
  | act o k ih =>
    obtain ⟨own,h⟩ := ih (answers o)
    exact ⟨⟨o,answers o⟩ :: own,.act h⟩

end Played

-- A postcondition on what a program has seen of its own operations. `heard` says which replies are counted on, and `M`
-- what an operation may follow.
def Tells (heard : (o : Op) → Except ε (Ret o) → Prop) (M : List (Saw Op Ret ε) → Op → Prop)
    (V : List (Saw Op Ret ε) → Except ε α → Prop) : Prog Op Ret ε α → Prop
  | .ret a => V [] (.ok a)
  | .raise e => V [] (.error e)
  | .act o k => M [] o ∧ ∀ r, heard o r → Tells heard (fun own => M (⟨o,r⟩ :: own)) (fun own => V (⟨o,r⟩ :: own)) (k r)

section Rules
variable {heard : (o : Op) → Except ε (Ret o) → Prop} {M M' : List (Saw Op Ret ε) → Op → Prop}
  {V V' : List (Saw Op Ret ε) → Except ε α → Prop} {W : List (Saw Op Ret ε) → Except ε β → Prop} {p : Prog Op Ret ε α}

@[simp] theorem tells_ret {a : α} : Tells heard M V (.ret a) ↔ V [] (.ok a) := Iff.rfl

@[simp] theorem tells_raise {e : ε} : Tells heard M V (.raise e) ↔ V [] (.error e) := Iff.rfl

theorem tells_act {o : Op} {k : Except ε (Ret o) → Prog Op Ret ε α} :
    Tells heard M V (.act o k) ↔
      M [] o ∧ ∀ r, heard o r → Tells heard (fun own => M (⟨o,r⟩ :: own)) (fun own => V (⟨o,r⟩ :: own)) (k r) := Iff.rfl

@[simp] theorem tells_pure {a : α} : Tells heard M V (pure a) ↔ V [] (.ok a) := Iff.rfl

@[simp] theorem tells_throw {e : ε} : Tells heard M V (throw e) ↔ V [] (.error e) := Iff.rfl

@[simp] theorem tells_finish {r : Except ε α} : Tells heard M V (.finish r) ↔ V [] r := by
  cases r <;> rfl

@[simp] theorem tells_call {o : Op} {V : List (Saw Op Ret ε) → Except ε (Ret o) → Prop} :
    Tells heard M V (.call o) ↔ M [] o ∧ ∀ r, heard o r → V [⟨o,r⟩] r := by
  simp only [Prog.call,tells_act,tells_finish]

theorem tells_call_bind {o : Op} {f : Ret o → Prog Op Ret ε β} :
    Tells heard M W (Prog.call o >>= f) ↔ M [] o ∧
      (∀ a, heard o (.ok a) → Tells heard (fun own => M (⟨o,.ok a⟩ :: own)) (fun own => W (⟨o,.ok a⟩ :: own)) (f a)) ∧
      ∀ e, heard o (.error e) → W [⟨o,.error e⟩] (.error e) := by
  constructor
  · intro h
    exact ⟨h.1,fun a ha => h.2 (.ok a) ha,fun e he => h.2 (.error e) he⟩
  · rintro ⟨hM,hok,herr⟩
    refine ⟨hM,fun r hr => ?_⟩
    cases r with
    | ok a => exact hok a hr
    | error e => exact herr e hr

theorem tells_call_attempt_bind {o : Op} {f : Except ε (Ret o) → Prog Op Ret ε β} :
    Tells heard M W ((Prog.call o).attempt .ret >>= f) ↔ M [] o ∧
      ∀ r, heard o r → Tells heard (fun own => M (⟨o,r⟩ :: own)) (fun own => W (⟨o,r⟩ :: own)) (f r) := by
  refine and_congr_right fun _ => forall_congr' fun r => imp_congr_right fun _ => ?_
  cases r <;> rfl

theorem Tells.mono (h : Tells heard M V p) (hM : ∀ own o, M own o → M' own o) (hV : ∀ own r, V own r → V' own r) :
    Tells heard M' V' p := by
  induction p generalizing M M' V V' with
  | ret a => exact hV [] _ h
  | raise e => exact hV [] _ h
  | act o k ih => exact ⟨hM [] o h.1,fun r hr => ih r (h.2 r hr) (fun own o => hM _ o) fun own r => hV _ r⟩

theorem tells_attempt {f : Except ε α → Prog Op Ret ε β} (hp : Tells heard M V p)
    (hf : ∀ own r, V own r → Tells heard (fun own' => M (own ++ own')) (fun own' => W (own ++ own')) (f r)) :
    Tells heard M W (p.attempt f) := by
  induction p generalizing M V W with
  | ret a => exact hf [] _ hp
  | raise e => exact hf [] _ hp
  | act o k ih =>
    refine ⟨hp.1,fun r hr => ih r (hp.2 r hr) fun own r' hr' => ?_⟩
    simpa using hf (⟨o,r⟩ :: own) r' hr'

theorem Tells.bind {f : α → Prog Op Ret ε β} (hp : Tells heard M V p)
    (hok : ∀ own a, V own (.ok a) → Tells heard (fun own' => M (own ++ own')) (fun own' => W (own ++ own')) (f a))
    (herr : ∀ own e, V own (.error e) → W own (.error e)) : Tells heard M W (p >>= f) := by
  refine tells_attempt hp fun own r hr => ?_
  cases r with
  | ok a => exact hok own a hr
  | error e => simpa using herr own e hr

theorem Tells.tryCatch {h : ε → Prog Op Ret ε α} (hp : Tells heard M V p)
    (hok : ∀ own a, V own (.ok a) → V' own (.ok a))
    (herr : ∀ own e, V own (.error e) → Tells heard (fun own' => M (own ++ own')) (fun own' => V' (own ++ own')) (h e)) :
    Tells heard M V' (tryCatch p h) := by
  refine tells_attempt hp fun own r hr => ?_
  cases r with
  | ok a => simpa using hok own a hr
  | error e => exact herr own e hr

theorem Uses.tells {P : Op → Prop} (hp : Uses P p) (hM : ∀ own o, P o → M own o) (hV : ∀ own r, V own r) :
    Tells heard M V p := by
  induction p generalizing M V with
  | ret a => exact hV [] _
  | raise e => exact hV [] _
  | act o k ih => exact ⟨hM [] o hp.1,fun r _ => ih r (hp.2 r) (fun own o => hM _ o) fun own r => hV _ r⟩

theorem Tells.and {P : Op → Prop} {A : Except ε α → Prop} (h : Tells heard M V p) (hp : Yields P A p) :
    Tells heard M (fun own r => V own r ∧ A r) p := by
  induction p generalizing M V with
  | ret a => exact ⟨h,hp⟩
  | raise e => exact ⟨h,hp⟩
  | act o k ih => exact ⟨h.1,fun r hr => ih r (h.2 r hr) (hp.2 r)⟩

theorem Tells.only {P : Op → Prop} (h : Tells heard M V p) (hp : Uses P p) (hM : ∀ own o, M own o → P o → M' own o) :
    Tells heard M' (fun own r => V own r ∧ ∀ saw ∈ own, P saw.op) p := by
  induction p generalizing M M' V with
  | ret a => exact ⟨h,by simp⟩
  | raise e => exact ⟨h,by simp⟩
  | act o k ih =>
    refine ⟨hM [] o h.1 hp.1,fun r hr => (ih r (h.2 r hr) (hp.2 r) fun own o => hM _ o).mono (fun _ _ hM => hM) ?_⟩
    rintro own out ⟨hV,hown⟩
    exact ⟨hV,by simpa using ⟨hp.1,hown⟩⟩

theorem tells_plays {P : Op → Prop} (hp : Uses P p) (hM : ∀ own o, P o → M own o) :
    Tells heard M (fun own r => Plays p own r) p := by
  induction p generalizing M with
  | ret a => exact .ret a
  | raise e => exact .raise e
  | act o k ih =>
    refine ⟨hM [] o hp.1,fun r _ => ?_⟩
    exact (ih r (hp.2 r) fun own o => hM _ o).mono (fun _ _ h => h) fun own out h => .act h

theorem uses_any (p : Prog Op Ret ε α) : Uses (fun _ => True) p := by
  induction p with
  | ret a => trivial
  | raise e => trivial
  | act o k ih => exact ⟨trivial,ih⟩

theorem tells_anyhow {p : Prog Op Ret ε α} (hV : ∀ own r, V own r) : Tells heard (fun _ _ => True) V p := by
  induction p generalizing V with
  | ret a => exact hV [] _
  | raise e => exact hV [] _
  | act o k ih => exact ⟨trivial,fun r _ => ih r fun own r => hV _ r⟩

end Rules

section Raising
variable {heard : (o : Op) → Except ε (Ret o) → Prop} {E : ε → Prop}

def Raises (heard : (o : Op) → Except ε (Ret o) → Prop) (E : ε → Prop) (p : Prog Op Ret ε α) : Prop :=
  Tells heard (fun _ _ => True) (fun _ r => ∀ e, r = .error e → E e) p

theorem raises_pure {a : α} : Raises heard E (pure a : Prog Op Ret ε α) := fun _ h => by cases h

theorem raises_throw {e : ε} (he : E e) : Raises heard E (throw e : Prog Op Ret ε α) := by
  rintro _ ⟨⟩
  exact he

theorem raises_finish {r : Except ε α} (h : ∀ e, r = .error e → E e) : Raises heard E (.finish r : Prog Op Ret ε α) :=
  tells_finish.mpr h

theorem raises_call {o : Op} (h : ∀ r e, heard o r → r = .error e → E e) : Raises heard E (.call o : Prog Op Ret ε (Ret o)) :=
  tells_call.mpr ⟨trivial,fun r hr e => h r e hr⟩

theorem Raises.bind {p : Prog Op Ret ε α} {f : α → Prog Op Ret ε β} (hp : Raises heard E p) (hf : ∀ a, Raises heard E (f a)) :
    Raises heard E (p >>= f) := Tells.bind hp (fun _ a _ => hf a) fun _ _ h e' he' => h e' (by cases he'; rfl)

theorem Raises.tryCatch {E' : ε → Prop} {p : Prog Op Ret ε α} {h : ε → Prog Op Ret ε α} (hp : Raises heard E p)
    (hh : ∀ e, E e → Raises heard E' (h e)) : Raises heard E' (tryCatch p h) :=
  Tells.tryCatch hp (fun _ _ _ e he => by cases he) fun _ e he => hh e (he e rfl)

end Raising

theorem Tells.plays {M : List (Saw Op Ret ε) → Op → Prop} {V : List (Saw Op Ret ε) → Except ε α → Prop} {p : Prog Op Ret ε α}
    {own : List (Saw Op Ret ε)} {out : Except ε α} (h : Tells (fun _ _ => True) M V p) (hplays : Plays p own out) : V own out := by
  induction hplays generalizing M V with
  | ret a => exact h
  | raise e => exact h
  | act _ ih => exact ih (h.2 _ trivial)

structure Duty (Op : Type) (Ret : Op → Type) (ε : Type) where
  owes : List (Saw Op Ret ε) → Op → Prop
  stays : ∀ earlier own o, owes own o → owes (earlier ++ own) o

section Duty
variable {F : Duty Op Ret ε}

def Minds (F : Duty Op Ret ε) (p : Prog Op Ret ε α) : Prop := Tells (fun _ _ => True) F.owes (fun _ _ => True) p

theorem Minds.after {p : Prog Op Ret ε α} (hp : Minds F p) (earlier : List (Saw Op Ret ε)) :
    Tells (fun _ _ => True) (fun own => F.owes (earlier ++ own)) (fun _ _ => True) p :=
  Tells.mono hp (fun own o => F.stays earlier own o) fun _ _ h => h

theorem minds_pure {a : α} : Minds F (pure a : Prog Op Ret ε α) := trivial

theorem minds_throw {e : ε} : Minds F (throw e : Prog Op Ret ε α) := trivial

theorem minds_finish {r : Except ε α} : Minds F (.finish r : Prog Op Ret ε α) := tells_finish.mpr trivial

theorem minds_call {o : Op} (h : F.owes [] o) : Minds F (.call o : Prog Op Ret ε (Ret o)) :=
  tells_call.mpr ⟨h,fun _ _ => trivial⟩

theorem Minds.bind {p : Prog Op Ret ε α} {f : α → Prog Op Ret ε β} (hp : Minds F p) (hf : ∀ a, Minds F (f a)) :
    Minds F (p >>= f) := Tells.bind hp (fun own a _ => (hf a).after own) fun _ _ _ => trivial

theorem Minds.tryCatch {p : Prog Op Ret ε α} {h : ε → Prog Op Ret ε α} (hp : Minds F p) (hh : ∀ e, Minds F (h e)) :
    Minds F (tryCatch p h) := Tells.tryCatch hp (fun _ _ _ => trivial) fun own e _ => (hh e).after own

theorem Uses.minds {P : Op → Prop} {p : Prog Op Ret ε α} (hp : Uses P p) (hP : ∀ o, P o → F.owes [] o) : Minds F p :=
  hp.tells (fun own o ho => by simpa using F.stays own [] o (hP o ho)) fun _ _ => trivial

end Duty

section Own
variable [DecidableEq ι] {D : Device Op Ret ε σ} {G : Guard ι Op Ret ε σ β}

def own (i : ι) (tr : List (Event ι Op Ret ε)) : List (Saw Op Ret ε) :=
  (tr.filter fun e => decide (e.thread = i)).map fun e => ⟨e.op,e.reply⟩

@[simp] theorem own_nil (i : ι) : own i ([] : List (Event ι Op Ret ε)) = [] := rfl

theorem own_cons (i : ι) (e : Event ι Op Ret ε) (tr : List (Event ι Op Ret ε)) :
    own i (e :: tr) = if e.thread = i then ⟨e.op,e.reply⟩ :: own i tr else own i tr := by
  by_cases he : e.thread = i <;> simp [own,he]

theorem own_append (i : ι) (tr tr' : List (Event ι Op Ret ε)) : own i (tr ++ tr') = own i tr ++ own i tr' := by simp [own]

def events (i : ι) (seen : List (Saw Op Ret ε)) : List (Event ι Op Ret ε) := seen.map fun saw => ⟨i,saw.op,saw.reply⟩

theorem own_events (i : ι) (seen : List (Saw Op Ret ε)) : own i (events i seen) = seen := by
  induction seen with
  | nil => rfl
  | cons saw rest ih =>
    rw [events,List.map_cons,own_cons,if_pos rfl]
    exact congrArg _ ih

theorem own_events_other {i j : ι} (hne : i ≠ j) (seen : List (Saw Op Ret ε)) : own j (events i seen) = [] := by
  induction seen with
  | nil => rfl
  | cons saw rest ih =>
    rw [events,List.map_cons,own_cons,if_neg hne]
    exact ih

theorem own_concat (i : ι) (tr : List (Event ι Op Ret ε)) (e : Event ι Op Ret ε) :
    own i (tr ++ [e]) = if e.thread = i then own i tr ++ [⟨e.op,e.reply⟩] else own i tr := by
  by_cases he : e.thread = i <;> simp [own,he]

theorem mem_own {i : ι} {tr : List (Event ι Op Ret ε)} {o : Op} {r : Except ε (Ret o)} :
    (⟨o,r⟩ : Saw Op Ret ε) ∈ own i tr ↔ (⟨i,o,r⟩ : Event ι Op Ret ε) ∈ tr := by
  simp only [own,List.mem_map,List.mem_filter,decide_eq_true_eq]
  constructor
  · rintro ⟨⟨j,o',r'⟩,⟨he,rfl⟩,heq⟩
    cases heq
    exact he
  · intro h
    exact ⟨_,⟨h,rfl⟩,rfl⟩

theorem own_split {i : ι} {tr : List (Event ι Op Ret ε)} {before later : List (Saw Op Ret ε)} {o : Op} {r : Except ε (Ret o)}
    (h : own i tr = before ++ ⟨o,r⟩ :: later) : ∃ tr₁ tr₂, tr = tr₁ ++ ⟨i,o,r⟩ :: tr₂ ∧ own i tr₁ = before := by
  obtain ⟨evs,evs',hevs,rfl,hlater⟩ := List.map_eq_append_iff.mp h
  obtain ⟨⟨j,o',r'⟩,evs'',rfl,hsaw,-⟩ := List.map_eq_cons_iff.mp hlater
  cases hsaw
  obtain ⟨tr₁,tr₂,rfl,rfl,htr₂⟩ := List.filter_eq_append_iff.mp hevs
  obtain ⟨skipped,tr₃,rfl,hskipped,hj,-⟩ := List.filter_eq_cons_iff.mp htr₂
  have hthread : j = i := by simpa using hj
  subst hthread
  have hnone : skipped.filter (fun e => decide (e.thread = j)) = [] := List.filter_eq_nil_iff.mpr hskipped
  refine ⟨tr₁ ++ skipped,tr₃,by simp,?_⟩
  simp [own,hnone]

theorem Run.tells {heard : (o : Op) → Except ε (Ret o) → Prop} {M : List (Saw Op Ret ε) → Op → Prop}
    {V : List (Saw Op Ret ε) → Except ε β → Prop} {c c' : Config ι Op Ret ε σ β} {tr : List (Event ι Op Ret ε)} {i : ι}
    (h : Run D G c tr c') (hG : ∀ a e b, G a e b → e.thread = i → heard e.op e.reply)
    (hp : Tells heard M V (c.threads i)) :
    Tells heard (fun rest => M (own i tr ++ rest)) (fun rest => V (own i tr ++ rest)) (c'.threads i) := by
  induction h with
  | refl => exact hp
  | @step c' c'' tr e hrun hs hg ih =>
    cases hs with
    | act j o k x hth =>
      rw [own_concat]
      by_cases hj : j = i
      · subst hj
        rw [hth,tells_act] at ih
        have hnext := ih.2 _ (hG _ _ _ hg rfl)
        simpa using hnext
      · have hij : i ≠ j := fun h => hj h.symm
        simpa only [hj,if_false,Config.advance_threads,Function.update_of_ne hij] using ih

theorem Run.told {heard : (o : Op) → Except ε (Ret o) → Prop} {M : List (Saw Op Ret ε) → Op → Prop}
    {V : List (Saw Op Ret ε) → Except ε β → Prop} {c c' : Config ι Op Ret ε σ β} {tr : List (Event ι Op Ret ε)} {i : ι}
    (h : Run D G c tr c') (hG : ∀ a e b, G a e b → e.thread = i → heard e.op e.reply)
    (hp : Tells heard M V (c.threads i)) {b : β} (hreturned : c'.threads i = .ret b) : V (own i tr) (.ok b) := by
  have hend := h.tells hG hp
  rw [hreturned] at hend
  simpa using hend

theorem Run.played {c c' : Config ι Op Ret ε σ β} {tr : List (Event ι Op Ret ε)} {i : ι} (h : Run D G c tr c') {b : β}
    (hreturned : c'.threads i = .ret b) : Plays (c.threads i) (own i tr) (.ok b) := by
  have hp : Tells (fun _ _ => True) (fun _ _ => True) (fun own r => Plays (c.threads i) own r) (c.threads i) :=
    tells_plays (uses_any _) fun _ _ _ => trivial
  exact h.told (fun _ _ _ _ _ => trivial) hp hreturned

theorem Run.follows {M : List (Saw Op Ret ε) → Op → Prop} {V : List (Saw Op Ret ε) → Except ε β → Prop}
    {c c' : Config ι Op Ret ε σ β} {tr tr₁ tr₂ : List (Event ι Op Ret ε)} {i : ι} {o : Op} {r : Except ε (Ret o)}
    (h : Run D G c tr c') (hp : Tells (fun _ _ => True) M V (c.threads i)) (htr : tr = tr₁ ++ ⟨i,o,r⟩ :: tr₂) :
    M (own i tr₁) o := by
  obtain ⟨c₁,c₂,h₁,hs,-,-⟩ := h.split htr
  have hnow := h₁.tells (fun _ _ _ _ _ => trivial) hp
  generalize hev : (⟨i,o,r⟩ : Event ι Op Ret ε) = e at hs
  cases hs with
  | act j o' k x hth =>
    cases hev
    rw [hth,tells_act] at hnow
    simpa using hnow.1

theorem Run.minded {F : Duty Op Ret ε} {c c' : Config ι Op Ret ε σ β} {tr tr₁ tr₂ : List (Event ι Op Ret ε)} {i : ι} {o : Op}
    {r : Except ε (Ret o)} (h : Run D G c tr c') (hp : Minds F (c.threads i)) (htr : tr = tr₁ ++ ⟨i,o,r⟩ :: tr₂) :
    F.owes (own i tr₁) o := h.follows hp htr

inductive Answers (D : Device Op Ret ε σ) : σ → List (Event ι Op Ret ε) → σ → Prop
  | nil (s : σ) : Answers D s [] s
  | cons {s s' : σ} {tr : List (Event ι Op Ret ε)} (i : ι) (o : Op) (x : D.Input o) :
      Answers D (D.perform o x s).2 tr s' → Answers D s (⟨i,o,(D.perform o x s).1⟩ :: tr) s'

theorem Answers.act {s s₁ s' : σ} {tr : List (Event ι Op Ret ε)} (i : ι) {o : Op} {r : Except ε (Ret o)} (x : D.Input o)
    (h : D.perform o x s = (r,s₁)) (hrest : Answers D s₁ tr s') : Answers D s (⟨i,o,r⟩ :: tr) s' := by
  have hr : (D.perform o x s).1 = r := by rw [h]
  have hs : (D.perform o x s).2 = s₁ := by rw [h]
  subst hr hs
  exact .cons i o x hrest

theorem Answers.append {s s₁ s' : σ} {tr tr' : List (Event ι Op Ret ε)} (h : Answers D s tr s₁) (h' : Answers D s₁ tr' s') :
    Answers D s (tr ++ tr') s' := by
  induction h with
  | nil s => exact h'
  | cons i o x _ ih => exact .cons i o x (ih h')

theorem Answers.run {s s' : σ} {tr : List (Event ι Op Ret ε)} (h : Answers D s tr s') {threads : ι → Prog Op Ret ε β}
    {rest : ι → List (Saw Op Ret ε)} {out : ι → Except ε β} (hp : ∀ i, Plays (threads i) (own i tr ++ rest i) (out i)) :
    ∃ c', Run D anyStep ⟨s,threads⟩ tr c' ∧ c'.state = s' ∧ ∀ i, Plays (c'.threads i) (rest i) (out i) := by
  induction h generalizing threads with
  | nil s => exact ⟨_,.refl _,rfl,hp⟩
  | @cons s s' tr i o x _ ih =>
    have hplays := hp i
    rw [own_cons,if_pos rfl] at hplays
    obtain ⟨k,hthread,hnext⟩ := plays_head hplays
    have hrest : ∀ j, Plays (Function.update threads i (k (D.perform o x s).1) j) (own j tr ++ rest j) (out j) := by
      intro j
      by_cases hj : j = i
      · subst hj
        simpa using hnext
      · have hplays := hp j
        rw [own_cons,if_neg fun h => hj h.symm] at hplays
        simpa [Function.update_of_ne hj] using hplays
    obtain ⟨c',hrun,hstate,hafter⟩ := ih hrest
    have first : Run D anyStep ⟨s,threads⟩ [⟨i,o,(D.perform o x s).1⟩]
        ⟨(D.perform o x s).2,Function.update threads i (k (D.perform o x s).1)⟩ :=
      .step (.refl _) (.act ⟨s,threads⟩ i o k x hthread) trivial
    exact ⟨c',by simpa using first.trans hrun,hstate,hafter⟩

end Own

section Counting
variable {p q : Event ι Op Ret ε → Bool} {tr : List (Event ι Op Ret ε)}

theorem threads_nodup (h : ∀ tr₁ e tr₂, tr = tr₁ ++ e :: tr₂ → p e = true → ∀ e' ∈ tr₁, p e' = true → e'.thread ≠ e.thread) :
    ((tr.filter p).map Event.thread).Nodup := by
  induction tr using List.reverseRecOn with
  | nil => simp
  | append_singleton tr e ih =>
    have hbefore := ih fun tr₁ e' tr₂ htr => h tr₁ e' (tr₂ ++ [e]) (by simp [htr])
    by_cases he : p e = true
    · rw [List.filter_append,List.filter_singleton,he,cond_true,List.map_append,List.nodup_append]
      refine ⟨hbefore,by simp,?_⟩
      intro i hi j hj
      obtain ⟨e',hmem,rfl⟩ := List.mem_map.mp hi
      obtain ⟨hmem,hp⟩ := List.mem_filter.mp hmem
      obtain rfl : j = e.thread := by simpa using hj
      exact h tr e [] rfl he e' hmem hp
    · simpa [List.filter_append,he] using hbefore

theorem countP_le_of_preceded (h : ∀ tr₁ e tr₂, tr = tr₁ ++ e :: tr₂ → p e = true →
    (∀ e' ∈ tr₁, p e' = true → e'.thread ≠ e.thread) ∧ ∃ e' ∈ tr₁, q e' = true ∧ e'.thread = e.thread) :
    tr.countP p ≤ tr.countP q := by
  have hsub : (tr.filter p).map Event.thread ⊆ (tr.filter q).map Event.thread := by
    intro i hi
    obtain ⟨e,hmem,rfl⟩ := List.mem_map.mp hi
    obtain ⟨hmem,hp⟩ := List.mem_filter.mp hmem
    obtain ⟨tr₁,tr₂,htr⟩ := List.append_of_mem hmem
    obtain ⟨e',hmem',hq,hthread⟩ := (h tr₁ e tr₂ htr hp).2
    refine List.mem_map.mpr ⟨e',List.mem_filter.mpr ⟨?_,hq⟩,hthread⟩
    rw [htr]
    exact List.mem_append_left _ hmem'
  have hle := ((threads_nodup fun tr₁ e tr₂ htr hp => (h tr₁ e tr₂ htr hp).1).subperm hsub).length_le
  simpa only [List.length_map,← List.countP_eq_length_filter] using hle

end Counting

end Interleaving
