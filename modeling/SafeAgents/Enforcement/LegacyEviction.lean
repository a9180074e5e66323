import SafeAgents.Enforcement.ExactlyOnce

namespace SafeAgents

open Interleaving

namespace Enforcement

variable {ι : Type} {callers : ι → Caller} {k : String}

def ClaimPut (k : String) : Op → Prop
  | .store (.putIdempotencyIfAbsent record) => record.key = k
  | _ => False

def Evicts (k : String) (tr : Trace ι) (e : Event ι Op Op.Ret Exn) : Prop :=
  e.op = .store (.deleteIdempotency k) ∧ ∀ e' ∈ tr, e'.thread = e.thread → ¬ ClaimPut k e'.op

def EvictionSafe [DecidableEq ι] (B : Substrate) (G : Guard ι Op Op.Ret Exn State EnforcementResult)
    (callers : ι → Caller) (k : String) (s : State) : Prop :=
  ∀ tr c, Run B.device G (startPool callers s) tr c →
    runsFor callers k tr ≤ 1 ∧
    ∀ e c', Step B.device c e c' → Evicts k tr e →
      ∀ record, row c.state k = some record → legacy record = true

def Claimants (k : String) (l : ι → Phase) (tr : Trace ι) : Prop :=
  ∀ i, (l i).Live → ∃ e ∈ tr, e.thread = i ∧ ClaimPut k e.op

theorem afterGet_live {l : Phase} {r : Except Exn (Option IdempotencyRecord)} (h : (l.afterGet r).Live) : l.Live := by
  unfold Phase.afterGet at h
  split at h
  · simp [Phase.Live] at h
  · split at h <;> simp [Phase.Live] at h
  · simp [Phase.Live] at h
  · exact h

theorem afterDelete_live {l : Phase} {r : Except Exn Unit} : ¬ (l.afterDelete r).Live := by
  unfold Phase.afterDelete
  split <;> simp [Phase.Live]

theorem storeNext_live {l : Phase} {o : StoreOp} {r : Except Exn o.Ret} (h : (storeNext k l o r).Live) :
    l.Live ∨ ClaimPut k (.store o) := by
  unfold storeNext at h
  split at h
  all_goals try split at h
  · exact .inl (afterGet_live h)
  · exact .inl h
  · next hk => exact .inr hk
  · exact .inl h
  · simp [Phase.Live] at h
  · exact .inl h
  · simp [Phase.Live] at h
  · exact .inl h
  · exact absurd h afterDelete_live
  · exact .inl h
  · exact .inl h

theorem next_live {mine : Bool} {l : Phase} {o : Op} {r : Except Exn o.Ret}
    (hmay : (claimContract k mine).may l o) (h : ((claimContract k mine).next l o r).Live) :
    l.Live ∨ ClaimPut k o := by
  cases o with
  | store o => exact storeNext_live h
  | env o =>
    cases o with
    | executor call decision =>
      cases mine with
      | false => exact .inl h
      | true => exact .inl (.inl (hmay.2 rfl))
    | _ => exact .inl h
  | _ => exact .inl h

structure Evictions (callers : ι → Caller) (k : String) (s : State) (l : ι → Phase) (tr : Trace ι) : Prop where
  claims : ClaimsHold False callers k s l tr
  claimants : Claimants k l tr

variable [DecidableEq ι] {B : Substrate}

theorem Claimants.step {l : ι → Phase} {tr : Trace ι} {i : ι} {o : Op} {r : Except Exn o.Ret}
    (h : Claimants k l tr) (hmay : (contracts k callers i).may (l i) o) :
    Claimants k (Function.update l i ((contracts k callers i).next (l i) o r)) (tr ++ [⟨i,o,r⟩]) := by
  intro j hj
  by_cases hji : j = i
  · subst hji
    rw [Function.update_self] at hj
    rcases next_live hmay hj with hlive | hput
    · obtain ⟨e,he,hthread⟩ := h j hlive
      exact ⟨e,List.mem_append_left _ he,hthread⟩
    · exact ⟨_,List.mem_append_right _ (List.mem_singleton.mpr rfl),rfl,hput⟩
  · rw [Function.update_of_ne hji] at hj
    obtain ⟨e,he,hthread⟩ := h j hj
    exact ⟨e,List.mem_append_left _ he,hthread⟩

theorem evictions_preserved :
    Preserved B.device (noClaimDuringEviction k) (contracts k callers) (fun _ => Over) (Evictions callers k) where
  heard _ _ _ _ _ _ _ _ _ := trivial
  next _ _ _ _ _ _ _ _ hg hk hi hmay :=
    ⟨claims_step (.inr fun _ _ _ h => h) hg hk hi.claims hmay,hi.claimants.step hmay⟩

theorem eviction_spares_claims (B : Substrate) (callers : ι → Caller) (k : String) (s : State) :
    EvictionSafe B (noClaimDuringEviction k) callers k s := by
  intro tr c h
  have hfree : False → ∀ record, row s k = some record → legacy record = false := False.elim
  obtain ⟨hk,hi⟩ := claims_start callers s hfree
  have hnobody : Claimants k (fun i => phaseAtEntry k (callers i)) ([] : Trace ι) :=
    fun i hlive => absurd hlive (phaseAtEntry_idle k (callers i)).1
  obtain ⟨l,hk',hi'⟩ := h.invariant evictions_preserved hk ⟨hi,hnobody⟩
  simp only [List.nil_append] at hi'
  refine ⟨hi'.claims.once,fun e c' hstep hevicts record hrow => ?_⟩
  cases hstep with
  | act i o f x hth =>
    obtain ⟨rfl,hfirst⟩ := hevicts
    have hmay := hk' i
    rw [hth,keeps_act] at hmay
    rcases hmay.1.2 rfl with hev | hhold
    · exact hi'.claims.stale i hev record hrow
    · obtain ⟨e,he,hthread,hput⟩ := hi'.claimants i (.inl hhold)
      exact absurd hput (hfirst e he hthread)

def legacyRow : IdempotencyRecord where
  key := "k"
  decisionJson := .json (.deny "capacity budget exceeded")
  ts := "1969-12-31T23:59:59+00:00"

def legacyState : State where
  enforcement := EnforcementState.empty.setIdempotency "k" (some legacyRow)
  approval := .empty

def guardCheck (c : Pool Bool) (e : Event Bool Op Op.Ret Exn) (c' : Pool Bool) : Bool :=
  (row c.state "k").isSome || (row c'.state "k").isNone ||
    match (c.threads !e.thread).head with
    | some (.store (.deleteIdempotency _)) => false
    | _ => true

theorem guardCheck_sound (c : Pool Bool) (e : Event Bool Op Op.Ret Exn) (c' : Pool Bool)
    (h : guardCheck c e c' = true) : noClaimDuringEviction "k" c e c' := by
  intro hnone hsome j hj hhead
  have hj' : j = !e.thread := by cases j <;> cases ht : e.thread <;> simp_all
  subst hj'
  cases hrow : row c'.state "k" with
  | none => exact hsome hrow
  | some record => simp [guardCheck,hnone,hrow,hhead] at h

def inTurn : Trace Bool × Pool Bool :=
  play memory.device (turns true 14 ++ turns false 14) (startPool pairOfCallers legacyState)

theorem eviction_spares_claims_in_turn :
    runsFor pairOfCallers "k" inTurn.1 = 1 ∧
      ∀ e c', Step memory.device inTurn.2 e c' → Evicts "k" inTurn.1 e →
        ∀ record, row inTurn.2.state "k" = some record → legacy record = true := by
  have hrun := play_checked guardCheck_sound (turns true 14 ++ turns false 14) (startPool pairOfCallers legacyState)
    (by decide +kernel)
  exact ⟨by decide +kernel,(eviction_spares_claims memory pairOfCallers "k" legacyState _ _ hrun).2⟩

def evictionRace : List (Bool × Oracle memory.device) :=
  turns true 1 ++ turns false 1 ++ turns true 10 ++ turns false 10

theorem eviction_race_runs_twice :
    runsFor pairOfCallers "k" (play memory.device evictionRace (startPool pairOfCallers legacyState)).1 = 2 ∧
      ¬ EvictionSafe memory anyStep pairOfCallers "k" legacyState := by
  have htwice : runsFor pairOfCallers "k"
      (play memory.device evictionRace (startPool pairOfCallers legacyState)).1 = 2 := by decide +kernel
  refine ⟨htwice,fun hsafe => ?_⟩
  have honce := (hsafe _ _ (play_run evictionRace (startPool pairOfCallers legacyState))).1
  omega

end Enforcement

end SafeAgents
