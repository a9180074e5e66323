import SafeAgents.Interleaving.History
import SafeAgents.Runtime.Pep

namespace SafeAgents

open Interleaving

namespace Runtime

abbrev Seen := List (Saw Op Op.Ret Exn)

-- Only the Doer raises a ConnectorExecutionError, and it reports the op it ran.
def Honest : (o : Op) → Except Exn o.Ret → Prop
  | .env (.doer _ call effective), r => ∀ result, r = .ok result → result.op = BrokerRuntime.effectiveOp call effective
  | _, r => ∀ e, r = .error e → e.isConnectorExecution = false

def Mild {α : Type} (p : Act α) : Prop := Raises Honest (fun e => e.isConnectorExecution = false) p

section Parts
variable {α β : Type}

theorem mild_pure {a : α} : Mild (pure a : Act α) := raises_pure

theorem mild_throw {e : Exn} (h : e.isConnectorExecution = false) : Mild (throw e : Act α) := raises_throw h

theorem mild_finish {r : Except Exn α} (h : ∀ e, r = .error e → e.isConnectorExecution = false) :
    Mild (Prog.finish r : Act α) := raises_finish h

theorem Mild.bind {p : Act α} {f : α → Act β} (hp : Mild p) (hf : ∀ a, Mild (f a)) : Mild (p >>= f) := Raises.bind hp hf

theorem Mild.catch {p : Act α} {h : Exn → Act α} (hp : Mild p) (hh : ∀ e, e.isConnectorExecution = false → Mild (h e)) :
    Mild (tryCatch p h) := Raises.tryCatch hp hh

theorem mild_store (o : StoreOp) : Mild (store o) := raises_call fun _ e h => h e

theorem mild_process (o : ProcessOp) : Mild (process o) := raises_call fun _ e h => h e

theorem mild_env {o : EnvOp} (ho : ∀ path call effective, o ≠ .doer path call effective) : Mild (env o) := by
  cases o with
  | doer path call effective => exact absurd rfl (ho path call effective)
  | _ => exact raises_call fun _ e h => h e

theorem mild_guarded {p : Act Unit} (hp : Mild p) : Mild (guarded p) := by
  refine hp.catch fun e he => ?_
  split
  · exact mild_pure
  · exact mild_throw he

theorem mild_gate {decider : BrokeredCall → Facts → Act Decision} (hd : ∀ call facts, Mild (decider call facts))
    (call : BrokeredCall) (facts : Facts) : Mild (gate decider call facts) := by
  refine Mild.bind (Mild.catch (.bind (mild_env (by simp)) fun _ => mild_pure) fun e he => ?_) fun stale => ?_
  · split
    · exact mild_pure
    · exact mild_throw he
  · rcases stale with e | _ | ⟨first,rest⟩
    · exact mild_pure
    · exact hd call facts
    · exact mild_pure

theorem mild_counterKey (period : CounterPeriod) (principal : Principal) (tool op suffix : String) :
    Mild (counterKey period principal tool op suffix) :=
  .bind (.bind (mild_env (by simp)) fun _ => mild_pure) fun _ => mild_pure

theorem mild_anchorOf (principal : Principal) (tool op : String) (ownCap : ℚ) (subGrant : Option SubGrant) :
    Mild (Prog.finish (Delegation.anchorOf principal tool op ownCap subGrant) : Act (String × ℚ)) := by
  apply mild_finish
  intro e he
  unfold Delegation.anchorOf Delegation.rootGrantId at he
  split at he
  · split at he
    · cases he
      rfl
    · split at he
      · cases he
        rfl
      · cases he
  · split at he
    · cases he
      rfl
    · cases he

theorem mild_treeCounterKey (period : CounterPeriod) (anchor tool op suffix : String) :
    Mild (Delegation.treeCounterKey period anchor tool op suffix) := by
  unfold Delegation.treeCounterKey
  split
  · exact mild_throw rfl
  · split
    · exact mild_throw rfl
    · exact .bind (.bind (mild_env (by simp)) fun _ => mild_pure) fun _ => mild_pure

theorem mild_resolveTreePool (delegates : Bool) (period : CounterPeriod) (cap : ℚ) (principal : Principal)
    (tool op : String) : Mild (Delegation.resolveTreePool delegates period cap principal tool op) := by
  cases delegates with
  | false => exact mild_pure
  | true =>
    refine .bind (mild_env (by simp)) fun subGrant => .bind (mild_anchorOf _ _ _ _ _) fun anchored => ?_
    exact .bind (mild_treeCounterKey _ _ _ _ _) fun _ => mild_pure

end Parts

section Enforcement
open SafeAgents.Enforcement

theorem mild_settledOutcome (row : IdempotencyRecord) (key : String) :
    Mild (Prog.finish (settledOutcome row key) : Act (Option EnforcementResult)) := by
  apply mild_finish
  intro e he
  unfold settledOutcome at he
  split at he
  · cases he
  · cases he
  · split at he
    · next e' hdecision =>
      cases he
      unfold IdempotencyRecord.decision at hdecision
      split at hdecision <;> cases hdecision
      rfl
    · split at he
      · split at he
        · next e' hresult =>
          cases he
          unfold IdempotencyRecord.result at hresult
          split at hresult
          · cases hresult
          · unfold loads at hresult
            split at hresult <;> cases hresult <;> rfl
        · cases he
      · cases he

theorem mild_claimAbsent (key : String) : Mild (claimAbsent key) := by
  refine .bind (mild_env (by simp)) fun ts => .bind (mild_store _) fun won => ?_
  cases won with
  | true => exact mild_pure
  | false =>
    refine .bind (mild_store _) fun stored => ?_
    cases stored with
    | none => exact mild_pure
    | some row =>
      refine .bind (mild_settledOutcome row key) fun settled => ?_
      cases settled with
      | none => exact mild_pure
      | some settled => exact mild_pure

theorem mild_claim (key : String) : Mild (claim key) := by
  refine .bind (mild_store _) fun stored => ?_
  cases stored with
  | none => exact mild_claimAbsent key
  | some row =>
    refine .bind (mild_settledOutcome row key) fun settled => ?_
    cases settled with
    | none => exact .bind (mild_store _) fun _ => mild_claimAbsent key
    | some settled => exact mild_pure

theorem mild_drawAncestors (draws : List CounterDraw) (effective : Decision) : Mild (drawAncestors draws effective) := by
  induction draws with
  | nil => exact mild_pure
  | cons draw draws ih =>
    refine .bind (mild_store _) fun won => ?_
    cases won with
    | true => exact ih
    | false => exact mild_pure

theorem mild_drawBudget (key : String) (delta cap : ℚ) (draws : List CounterDraw) (effective : Decision) :
    Mild (drawBudget key delta cap draws effective) := by
  unfold drawBudget
  split
  · refine .bind (mild_store _) fun won => ?_
    cases won with
    | true => exact mild_drawAncestors draws effective
    | false => exact mild_pure
  · exact mild_pure

theorem mild_journal (q : Request) (effective : Decision) : Mild (journal q effective) :=
  .bind (mild_env (by simp)) fun _ => .bind (mild_env (by simp)) fun _ => .bind (mild_store _) fun _ => mild_pure

theorem mild_commit (entryId : String) : Mild (commit entryId) := .bind (mild_env (by simp)) fun _ => mild_store _

theorem mild_releaseClaim (key : String) : Mild (releaseClaim key) := mild_guarded (mild_store _)

theorem mild_failIfClaimed (claimedKey : Option String) (error : String) : Mild (failIfClaimed claimedKey error) := by
  cases claimedKey with
  | none => exact mild_pure
  | some key => exact mild_guarded (.bind (mild_store _) fun _ => mild_pure)

theorem mild_markLedger (q : Request) (entryId error : String) : Mild (markLedger q entryId error) := by
  unfold markLedger
  split
  · exact mild_store _
  · exact mild_store _

theorem mild_resultJson (result : ConnectorResult) : Mild (Prog.finish (resultJson result) : Act (Option (Text Json))) := by
  apply mild_finish
  intro e he
  cases result <;> cases he <;> rfl

theorem mild_settleClaim (claimedKey : Option String) (effective : Decision) (result : ConnectorResult) :
    Mild (settleClaim claimedKey effective result) := by
  cases claimedKey with
  | none => exact mild_pure
  | some key =>
    simp only [settleClaim]
    split
    · exact .bind (mild_resultJson result) fun _ => .bind (mild_store _) fun _ => mild_pure
    · exact mild_releaseClaim key

theorem mild_prepareOrRelease (q : Request) (cb : Callbacks) (claimedKey : Option String) (facts : Mild (cb.freshFacts q.call))
    (decides : ∀ facts, Mild (cb.decider q.call facts)) : Mild (prepareOrRelease q cb claimedKey) := by
  refine Mild.catch ?_ fun e he => .bind ?_ fun _ => mild_throw he
  · refine .bind facts fun facts => .bind (decides facts) fun revalidated => ?_
    exact .bind (mild_drawBudget _ _ _ _ _) fun effective => .bind (mild_journal q effective) fun _ => mild_pure
  · cases claimedKey with
    | none => exact mild_pure
    | some key => exact mild_releaseClaim key

end Enforcement

namespace BrokerRuntime
variable (R : BrokerRuntime)

theorem mild_treeDraws (principal : Principal) (tool op : String) : Mild (R.treeDraws principal tool op) :=
  .bind (mild_resolveTreePool _ _ _ _ _ _) fun _ => mild_pure

theorem mild_afterRead (ref : TurnRef) (call : BrokeredCall) : Mild (R.afterRead ref call) := by
  unfold afterRead
  split
  · refine .bind ?_ fun _ => ?_
    · unfold selfIngest
      simp only []
      split
      · exact mild_pure
      · exact mild_process _
    · unfold meterQueryBytes
      split
      · exact mild_pure
      · exact .bind (mild_counterKey _ _ _ _ _) fun _ => .bind (mild_store _) fun _ => mild_pure
  · exact mild_pure

theorem mild_drawErrorBudget (call : BrokeredCall) (knob : Confidence) (tolerance : ℚ) :
    Mild (R.drawErrorBudget call knob tolerance) := by
  refine .bind (mild_finish ?_) fun draw => .bind (mild_counterKey _ _ _ _ _) fun key => ?_
  · intro e he
    unfold errorBudgetDraw at he
    split at he
    · cases he
    · cases he
      rfl
  · refine .bind (mild_store _) fun _ => .bind (mild_store _) fun spent => ?_
    unfold signalIfCrossed
    split
    · exact mild_guarded (mild_env (by simp))
    · exact mild_pure

theorem mild_meterErrorBudget (call : BrokeredCall) : Mild (R.meterErrorBudget call) := by
  unfold meterErrorBudget
  split
  · exact mild_pure
  · split
    · exact mild_pure
    · split
      · exact R.mild_drawErrorBudget call _ _
      · exact mild_pure

theorem mild_countObservation (call : BrokeredCall) : Mild (R.countObservation call) :=
  mild_guarded (.bind (mild_counterKey _ _ _ _ _) fun _ => .bind (mild_store _) fun _ => mild_pure)

theorem mild_decider (call : BrokeredCall) (facts : Facts) : Mild (R.deciderFor none call facts) :=
  mild_gate (fun _ _ => mild_pure) call facts

end BrokerRuntime

end Runtime

end SafeAgents
