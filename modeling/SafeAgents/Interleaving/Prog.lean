import Mathlib.Logic.Function.Basic

namespace Interleaving

inductive Prog (Op : Type) (Ret : Op → Type) (ε α : Type) : Type where
  | ret (a : α)
  | raise (e : ε)
  | act (o : Op) (k : Except ε (Ret o) → Prog Op Ret ε α)

namespace Prog
variable {Op : Type} {Ret : Op → Type} {ε α β γ : Type}

def finish : Except ε α → Prog Op Ret ε α
  | .ok a => .ret a
  | .error e => .raise e

def attempt : Prog Op Ret ε α → (Except ε α → Prog Op Ret ε β) → Prog Op Ret ε β
  | .ret a, f => f (.ok a)
  | .raise e, f => f (.error e)
  | .act o k, f => .act o fun r => attempt (k r) f

def call (o : Op) : Prog Op Ret ε (Ret o) := .act o finish

def andThen (f : α → Prog Op Ret ε β) : Except ε α → Prog Op Ret ε β
  | .ok a => f a
  | .error e => .raise e

def orElse (h : ε → Prog Op Ret ε α) : Except ε α → Prog Op Ret ε α
  | .ok a => .ret a
  | .error e => h e

instance : Monad (Prog Op Ret ε) where
  pure := .ret
  bind p f := p.attempt (andThen f)

instance : MonadExceptOf ε (Prog Op Ret ε) where
  throw := .raise
  tryCatch p h := p.attempt (orElse h)

theorem bind_eq (p : Prog Op Ret ε α) (f : α → Prog Op Ret ε β) :
    p >>= f = p.attempt (andThen f) := rfl

@[simp] theorem andThen_ok (f : α → Prog Op Ret ε β) (a : α) : andThen f (.ok a) = f a := rfl
@[simp] theorem andThen_error (f : α → Prog Op Ret ε β) (e : ε) :
    andThen f (.error e) = .raise e := rfl
@[simp] theorem orElse_ok (h : ε → Prog Op Ret ε α) (a : α) : orElse h (.ok a) = .ret a := rfl
@[simp] theorem orElse_error (h : ε → Prog Op Ret ε α) (e : ε) : orElse h (.error e) = h e := rfl

def head : Prog Op Ret ε α → Option Op
  | .ret _ => none
  | .raise _ => none
  | .act o _ => some o

def outcome : Prog Op Ret ε α → Option (Except ε α)
  | .ret a => some (.ok a)
  | .raise e => some (.error e)
  | .act _ _ => none

theorem ret_of_outcome {p : Prog Op Ret ε α} {f : α → β} {b : β} (h : p.outcome.bind (fun r => r.toOption.map f) = some b) :
    ∃ a, p = .ret a ∧ f a = b := by
  cases p with
  | ret a => exact ⟨a,rfl,by simpa [outcome,Except.toOption] using h⟩
  | raise e => simp [outcome,Except.toOption] at h
  | act o k => simp [outcome] at h

def against (answers : (o : Op) → Except ε (Ret o)) : Prog Op Ret ε α → Except ε α
  | .ret a => .ok a
  | .raise e => .error e
  | .act o k => against answers (k (answers o))

section Answered
variable (answers : (o : Op) → Except ε (Ret o))

@[simp] theorem against_pure (a : α) : (pure a : Prog Op Ret ε α).against answers = .ok a := rfl

@[simp] theorem against_throw (e : ε) : (throw e : Prog Op Ret ε α).against answers = .error e := rfl

@[simp] theorem against_finish (r : Except ε α) : (finish r : Prog Op Ret ε α).against answers = r := by
  cases r <;> rfl

@[simp] theorem against_call (o : Op) : (call o : Prog Op Ret ε (Ret o)).against answers = answers o := by
  simp only [call,against,against_finish]

theorem against_attempt (p : Prog Op Ret ε α) (f : Except ε α → Prog Op Ret ε β) :
    (p.attempt f).against answers = (f (p.against answers)).against answers := by
  induction p with
  | ret a => rfl
  | raise e => rfl
  | act o k ih => simp only [attempt,against,ih]

@[simp] theorem against_bind (p : Prog Op Ret ε α) (f : α → Prog Op Ret ε β) :
    (p >>= f).against answers = (p.against answers >>= fun a => (f a).against answers) := by
  rw [bind_eq,against_attempt]
  cases p.against answers <;> rfl

end Answered

-- What a program comes to when it runs alone, each operation acting on the state the last one left.
def exec {σ : Type} (perform : (o : Op) → σ → Except ε (Ret o) × σ) : Prog Op Ret ε α → σ → Except ε α × σ
  | .ret a, s => (.ok a,s)
  | .raise e, s => (.error e,s)
  | .act o k, s => exec perform (k (perform o s).1) (perform o s).2

section Alone
variable {σ : Type} (perform : (o : Op) → σ → Except ε (Ret o) × σ) (s : σ)

@[simp] theorem exec_pure (a : α) : (pure a : Prog Op Ret ε α).exec perform s = (.ok a,s) := rfl

@[simp] theorem exec_throw (e : ε) : (throw e : Prog Op Ret ε α).exec perform s = (.error e,s) := rfl

@[simp] theorem exec_finish (r : Except ε α) : (finish r : Prog Op Ret ε α).exec perform s = (r,s) := by
  cases r <;> rfl

@[simp] theorem exec_call (o : Op) : (call o : Prog Op Ret ε (Ret o)).exec perform s = perform o s := by
  simp only [call,exec,exec_finish]

theorem exec_attempt (p : Prog Op Ret ε α) (f : Except ε α → Prog Op Ret ε β) :
    (p.attempt f).exec perform s = (f (p.exec perform s).1).exec perform (p.exec perform s).2 := by
  induction p generalizing s with
  | ret a => rfl
  | raise e => rfl
  | act o k ih => simp only [attempt,exec,ih]

theorem exec_bind (p : Prog Op Ret ε α) (f : α → Prog Op Ret ε β) :
    (p >>= f).exec perform s = (andThen f (p.exec perform s).1).exec perform (p.exec perform s).2 :=
  exec_attempt perform s p (andThen f)

theorem exec_tryCatch (p : Prog Op Ret ε α) (h : ε → Prog Op Ret ε α) :
    (tryCatch p h).exec perform s = (orElse h (p.exec perform s).1).exec perform (p.exec perform s).2 :=
  exec_attempt perform s p (orElse h)

theorem exec_bind_of {p : Prog Op Ret ε α} {a : α} {t : σ} (h : p.exec perform s = (.ok a,t)) (f : α → Prog Op Ret ε β) :
    (p >>= f).exec perform s = (f a).exec perform t := by
  rw [exec_bind,h]
  rfl

end Alone

end Prog

end Interleaving
