import SafeAgents.Approval.Rows
import SafeAgents.Runtime.Footprint

namespace SafeAgents

open Interleaving

namespace Approval

inductive Action where
  | hold (hold : Hold)
  | approve (intentId approvedBy : String) (hasExecutor : Bool) (now : Option Instant) (skew : Int)
  | reissue (intentId approvedBy : String) (now : Option Instant) (skew : Int)
  | reject (intentId rejectedBy : String) (now : Option Instant)
  | expire (intent : Intent) (now : Instant)
  | sweep (runtime : Runtime.BrokerRuntime) (now : Option Instant)
  | permit (runtime : Runtime.BrokerRuntime) (report : Runtime.DecisionReport)

inductive Result where
  | held (result : ApprovalResult)
  | settled (result : ExecutionResult)
  | expired (won : Bool)
  | swept (recorded : Nat)
  | answered (decision : Runtime.HarnessDecision)

def executor (hasExecutor : Bool) : Option (BrokeredCall → Act ConnectorResult) :=
  if hasExecutor then some fun call => env (.release call) else none

def Action.program : Action → Act Result
  | .hold h => do return .held (← materialize h)
  | .approve intentId approvedBy hasExecutor now skew => do
    return .settled (← Approval.approve intentId approvedBy (executor hasExecutor) now skew)
  | .reissue intentId approvedBy now skew => do return .settled (← approveForReissue intentId approvedBy now skew)
  | .reject intentId rejectedBy now => do return .settled (← Approval.reject intentId rejectedBy now)
  | .expire intent now => do return .expired (← expireIfDue intent now)
  | .sweep runtime now => do return .swept (← runtime.sweepExpiredIntents now)
  | .permit runtime report => do return .answered (← runtime.decideHarnessCall report)

def Action.isPermit : Action → Bool
  | .permit _ _ => true
  | _ => false

inductive Declared : IntentStatus → IntentStatus → Prop
  | approve : Declared .pending .approved
  | reject : Declared .pending .rejected
  | expire : Declared .pending .expired
  | execute : Declared .approved .executed
  | refuse : Declared .approved .refused
  | lapse : Declared .approved .expired
  | permit : Declared .approved .permitted
  | abandon : Declared .permitted .refused

theorem Declared.not_pending {expected new : IntentStatus} (h : Declared expected new) : new ≠ .pending := by
  cases h <;> nofun

inductive Stage where
  | idle
  | timed (t : Instant)
  | seen (t : Instant) (intent : Intent)
  | won (t : Instant) (intent : Intent)
  | ran (t : Instant) (intent : Intent)
  | closed (recorded : Bool)
  | dropped
  | concluded

def Stage.Ends : Stage → Prop
  | .seen _ _ => False
  | .won _ _ => False
  | .ran _ _ => False
  | _ => True

structure Approver where
  intentId : String
  now : Option Instant
  skew : Int

inductive Role where
  | approver (approver : Approver)
  | bystander (permits : Bool)

def Action.role : Action → Role
  | .approve intentId _ _ now skew => .approver ⟨intentId,now,skew⟩
  | action => .bystander action.isPermit

def Stage.start : Role → Stage
  | .approver a =>
    match a.now with
    | some t => .timed t
    | none => .idle
  | .bystander _ => .idle

def Stage.afterRead (skew : Int) (t : Instant) : Except Exn (Option Intent) → Stage
  | .ok (some intent) =>
    match isExpired intent.expiry t skew with
    | .ok false => .seen t intent
    | _ => .concluded
  | _ => .concluded

namespace Approver
variable (a : Approver)

def MayMove (l : Stage) (expected new : IntentStatus) : Prop :=
  match l with
  | .seen _ _ => expected = .pending ∧ new = .approved
  | .won _ _ => expected = .approved ∧ (new = .executed ∨ new = .refused)
  | .ran _ _ => expected = .approved ∧ (new = .executed ∨ new = .refused)
  | .concluded => expected = .pending ∧ new = .expired
  | _ => False

def may (l : Stage) : Op → Prop
  | .intents (.transitionStatus id expected new _ _) => id = a.intentId ∧ MayMove l expected new
  | .intents (.getIntent id) => id = a.intentId ∧ ((∃ t, l = .timed t) ∨ l = .concluded)
  | .env .now => l = .idle ∨ (∃ t intent, l = .won t intent) ∨ ∃ t intent, l = .ran t intent
  | .env (.release call) => ∃ t intent, l = .won t intent ∧ call = intent.materializedRequest
  | _ => False

def afterMove (l : Stage) (expected new : IntentStatus) (r : Except Exn Bool) : Stage :=
  match l with
  | .seen t intent =>
    match r with
    | .ok true => .won t intent
    | _ => .concluded
  | .won _ _ | .ran _ _ =>
    match expected, new, r with
    | .approved, .executed, .ok recorded => .closed recorded
    | _, _, _ => .dropped
  | l => l

def next (l : Stage) : (o : Op) → Except Exn o.Ret → Stage
  | .intents (.transitionStatus _ expected new _ _), r => afterMove l expected new r
  | .intents (.getIntent _), r =>
    match l with
    | .timed t => .afterRead a.skew t r
    | l => l
  | .env .now, r =>
    match l, r with
    | .idle, .ok t => .timed t
    | .idle, .error _ => .concluded
    | .won _ _, .error _ => .dropped
    | .ran _ _, .error _ => .dropped
    | l, _ => l
  | .env (.release _), r =>
    match l, r with
    | .won t intent, .ok _ => .ran t intent
    | .won t intent, .error (.releaseRefused _) => .ran t intent
    | .won _ _, .error _ => .dropped
    | l, _ => l
  | _, _ => l

end Approver

def Bystands (permits : Bool) : Op → Prop
  | .intents (.putIntent intent) => intent.status = .pending
  | .intents (.transitionStatus _ expected new _ _) => Declared expected new ∧ (permits = false → expected = .pending)
  | .env (.release _) => False
  | _ => True

def stageContract : Role → Contract Op Op.Ret Exn Stage
  | .approver a => ⟨a.may,fun _ _ _ => True,a.next⟩
  | .bystander permits => ⟨fun _ => Bystands permits,fun _ _ _ => True,fun l _ _ => l⟩

def Reports : Role → Stage → Except Exn Result → Prop
  | .approver _, l, r =>
    l.Ends ∧ ∀ result, r = .ok (.settled result) → result.executed = true → ∃ recorded, l = .closed recorded
  | _, _, _ => True

section Bystanders
variable {permits : Bool}

theorem bystands_of_routine {o : Op} (h : Runtime.Routine o) : Bystands permits o := by
  cases o with
  | intents o => cases o <;> trivial
  | env o => cases o <;> trivial
  | _ => trivial

theorem bystands_resolvePending {intentId actor : String} {new : IntentStatus} {now : Option Instant} {skew : Int}
    {onWin : Intent → Act ExecutionResult} (hnew : Declared .pending new)
    (hwin : ∀ intent, Uses (Bystands permits) (onWin intent)) :
    Uses (Bystands permits) (resolvePending intentId actor new now skew onWin) := by
  have moves {new : IntentStatus} {by_ : Option String} (h : Declared .pending new) :
      Bystands permits (.intents (.transitionStatus intentId .pending new by_ none)) := ⟨h,fun _ => rfl⟩
  refine .bind ((Runtime.plain_resolveNow now).mono (Runtime.routinely fun _ => bystands_of_routine)) fun t => ?_
  refine .bind (uses_intents.mpr trivial) fun read => ?_
  cases read with
  | none => trivial
  | some intent =>
    refine .bind uses_finish fun expired => ?_
    cases expired with
    | true => exact .bind (uses_intents.mpr (moves .expire)) fun _ => trivial
    | false =>
      refine .bind (uses_intents.mpr (moves hnew)) fun won => ?_
      cases won with
      | true => exact hwin intent
      | false => exact .bind (uses_intents.mpr trivial) fun _ => trivial

theorem bystands_expireIfDue (intent : Intent) (now : Instant) :
    Uses (Bystands permits) (expireIfDue intent now) := by
  unfold expireIfDue
  split
  · trivial
  · refine .bind uses_finish fun due => ?_
    cases due with
    | false => trivial
    | true => exact uses_intents.mpr ⟨.expire,fun _ => rfl⟩

theorem bystands_permit (runtime : Runtime.BrokerRuntime) (report : Runtime.DecisionReport) :
    Uses (Bystands true) (runtime.decideHarnessCall report) := by
  refine runtime.uses_decideHarnessCall (fun _ => bystands_of_routine) (fun _ => trivial) ?_ report
  rintro id expected new (⟨rfl,rfl | rfl | rfl⟩ | ⟨rfl,rfl⟩)
  · exact ⟨.permit,nofun⟩
  · exact ⟨.refuse,nofun⟩
  · exact ⟨.lapse,nofun⟩
  · exact ⟨.abandon,nofun⟩

theorem bystands_program (action : Action) (h : action.role = .bystander permits) :
    Uses (Bystands permits) action.program := by
  cases action with
  | approve intentId approvedBy hasExecutor now skew => cases h
  | hold hold =>
    exact .bind ((Runtime.plain_materialize hold).mono (Runtime.routinely fun _ => bystands_of_routine)) fun _ => trivial
  | reissue intentId approvedBy now skew =>
    exact .bind (bystands_resolvePending .approve fun _ => trivial) fun _ => trivial
  | reject intentId rejectedBy now =>
    exact .bind (bystands_resolvePending .reject fun _ => trivial) fun _ => trivial
  | expire intent now => exact .bind (bystands_expireIfDue intent now) fun _ => trivial
  | sweep runtime now =>
    exact .bind (runtime.uses_sweepExpiredIntents (fun _ => bystands_of_routine) (fun _ => trivial)
      (fun _ => ⟨.expire,fun _ => rfl⟩) now) fun _ => trivial
  | permit runtime report =>
    cases h
    exact .bind (bystands_permit runtime report) fun _ => trivial

end Bystanders

section Approving
variable (a : Approver)

abbrev Approves {α : Type} (Q : Stage → Except Exn α → Prop) (l : Stage) (p : Act α) : Prop :=
  Keeps (stageContract (.approver a)) Q l p

def Reported (l : Stage) (r : Except Exn ExecutionResult) : Prop :=
  l.Ends ∧ ∀ result, r = .ok result → result.executed = true → ∃ recorded, l = .closed recorded

theorem Reported.raised {l : Stage} (hl : l.Ends) (e : Exn) : Reported l (.error e) := ⟨hl,nofun⟩

theorem Reported.refused {l : Stage} (hl : l.Ends) {result : ExecutionResult} (h : result.executed = false) :
    Reported l (.ok result) := by
  refine ⟨hl,?_⟩
  rintro _ ⟨⟩ hexecuted
  simp [h] at hexecuted

theorem approves_resolveNow :
    Approves a (fun l r => l.Ends ∧ ∀ t, r = .ok t → l = .timed t) (.start (.approver a)) (resolveNow a.now) := by
  obtain ⟨intentId,now,skew⟩ := a
  cases now with
  | some t =>
    refine ⟨trivial,?_⟩
    rintro _ ⟨⟩
    rfl
  | none =>
    simp only [resolveNow,env,Prog.call,keeps_act,keeps_finish]
    refine ⟨.inl rfl,fun r _ => ?_⟩
    cases r with
    | error e => exact ⟨trivial,fun t ht => by cases ht⟩
    | ok t =>
      refine ⟨trivial,?_⟩
      rintro _ ⟨⟩
      rfl

theorem approves_expiredResult : Approves a Reported .concluded (expiredResult a.intentId) := by
  simp only [expiredResult,intents,Prog.call,keeps_bind,keeps_act,keeps_finish]
  refine ⟨⟨rfl,rfl,rfl⟩,fun r _ => ?_⟩
  cases r with
  | error e =>
    refine .raised ?_ e
    trivial
  | ok won =>
    refine .refused ?_ rfl
    trivial

theorem approves_notPending : Approves a Reported .concluded (notPending a.intentId) := by
  simp only [notPending,intents,Prog.call,keeps_bind,keeps_act,keeps_finish]
  refine ⟨⟨rfl,.inr rfl⟩,fun r _ => ?_⟩
  cases r with
  | error e =>
    refine .raised ?_ e
    trivial
  | ok current =>
    refine .refused ?_ rfl
    trivial

def Released (t : Instant) (intent : Intent) (l : Stage) : Prop := l = .won t intent ∨ l = .ran t intent

def AfterRun (t : Instant) (intent : Intent) (l : Stage) : Except Exn (Except String ConnectorResult) → Prop
  | .ok _ => Released t intent l
  | .error _ => l = .dropped

theorem approves_runRelease (hasExecutor : Bool) (t : Instant) (intent : Intent) :
    Approves a (AfterRun t intent) (.won t intent) (runRelease (executor hasExecutor) intent.materializedRequest) := by
  cases hasExecutor with
  | false => exact .inl rfl
  | true =>
    simp only [runRelease,executor,if_true,env,Prog.call,keeps_tryCatch,keeps_bind,keeps_act,keeps_finish]
    refine ⟨⟨t,intent,rfl,rfl⟩,fun r _ => ?_⟩
    cases r with
    | ok result => exact .inr rfl
    | error e =>
      cases e with
      | releaseRefused reason => exact .inr rfl
      | _ => rfl

theorem approves_finishRelease {t : Instant} {intent : Intent} {l : Stage} (hl : Released t intent l)
    (outcome : Except String ConnectorResult) : Approves a Reported l (finishRelease a.intentId outcome) := by
  cases outcome with
  | error reason =>
    simp only [finishRelease,intents,Prog.call,keeps_bind,keeps_act,keeps_finish]
    refine ⟨⟨rfl,?_⟩,fun r _ => ?_⟩
    · rcases hl with rfl | rfl <;> exact ⟨rfl,.inr rfl⟩
    · have hends (r : Except Exn Bool) : ((stageContract (.approver a)).next l
          (.intents (.transitionStatus a.intentId .approved .refused none none)) r).Ends := by
        rcases hl with rfl | rfl <;> cases r <;> trivial
      cases r with
      | error e => exact .raised (hends _) e
      | ok b => exact .refused (hends _) rfl
  | ok result =>
    simp only [finishRelease,intents,env,Prog.call,keeps_bind,keeps_act,keeps_finish]
    refine ⟨?_,fun r _ => ?_⟩
    · rcases hl with rfl | rfl
      · exact .inr (.inl ⟨t,intent,rfl⟩)
      · exact .inr (.inr ⟨t,intent,rfl⟩)
    · cases r with
      | error e =>
        refine .raised ?_ e
        rcases hl with rfl | rfl <;> trivial
      | ok executedAt =>
        have hsame : (stageContract (.approver a)).next l (.env .now) (.ok executedAt) = l := by
          rcases hl with rfl | rfl <;> rfl
        rw [hsame]
        simp only [Prog.andThen_ok,keeps_bind,keeps_act,keeps_finish]
        refine ⟨⟨rfl,?_⟩,fun r _ => ?_⟩
        · rcases hl with rfl | rfl <;> exact ⟨rfl,.inl rfl⟩
        · cases r with
          | error e =>
            refine .raised ?_ e
            rcases hl with rfl | rfl <;> trivial
          | ok recorded =>
            have hclosed : (stageContract (.approver a)).next l
                (.intents (.transitionStatus a.intentId .approved .executed none (some executedAt))) (.ok recorded) =
                .closed recorded := by rcases hl with rfl | rfl <;> rfl
            rw [hclosed]
            exact ⟨trivial,fun _ _ _ => ⟨recorded,rfl⟩⟩

theorem approves_release (hasExecutor : Bool) (t : Instant) (intent : Intent) :
    Approves a Reported (.won t intent) (release a.intentId (executor hasExecutor) intent) := by
  refine (approves_runRelease a hasExecutor t intent).bind (fun l' outcome hl => ?_) fun l' e hl => ?_
  · exact approves_finishRelease a hl outcome
  · obtain rfl : l' = .dropped := hl
    refine .raised ?_ e
    trivial

theorem approves_approve (approvedBy : String) (hasExecutor : Bool) :
    Approves a Reported (.start (.approver a))
      (Approval.approve a.intentId approvedBy (executor hasExecutor) a.now a.skew) := by
  refine (approves_resolveNow a).bind (fun l t hl => ?_) fun l' e hl => .raised hl.1 e
  obtain rfl := hl.2 t rfl
  simp only [intents,Prog.call,keeps_bind,keeps_act,keeps_finish]
  refine ⟨⟨rfl,.inl ⟨t,rfl⟩⟩,fun r _ => ?_⟩
  rcases r with e | _ | intent
  · refine .raised ?_ e
    trivial
  · refine .refused ?_ rfl
    trivial
  · have hstage : (stageContract (.approver a)).next (.timed t) (.intents (.getIntent a.intentId)) (.ok (some intent)) =
        Stage.afterRead a.skew t (.ok (some intent)) := rfl
    rw [hstage]
    simp only [Prog.andThen_ok,keeps_bind,keeps_finish,Stage.afterRead]
    cases hexp : isExpired intent.expiry t a.skew with
    | error e =>
      refine .raised ?_ e
      trivial
    | ok expired =>
      cases expired with
      | true => exact approves_expiredResult a
      | false =>
        simp only [Prog.andThen_ok,Bool.false_eq_true,if_false,keeps_bind,keeps_act,keeps_finish]
        refine ⟨⟨rfl,rfl,rfl⟩,fun r _ => ?_⟩
        rcases r with e | won
        · refine .raised ?_ e
          trivial
        cases won with
        | true => exact approves_release a hasExecutor t intent
        | false => exact approves_notPending a

end Approving

theorem keeps_action (action : Action) :
    Keeps (stageContract action.role) (Reports action.role) (.start action.role) action.program := by
  cases hrole : action.role with
  | bystander permits =>
    exact (bystands_program action hrole).keeps (fun _ h => h) (fun _ _ _ => rfl) fun _ => trivial
  | approver a =>
    cases action with
    | approve intentId approvedBy hasExecutor now skew =>
      cases hrole
      refine (approves_approve ⟨intentId,now,skew⟩ approvedBy hasExecutor).bind (fun l result h => ?_)
        fun l e h => ⟨h.1,nofun⟩
      refine ⟨h.1,?_⟩
      rintro _ ⟨⟩ hexecuted
      exact h.2 result rfl hexecuted
    | _ => cases hrole

end Approval

end SafeAgents
