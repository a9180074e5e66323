import SafeAgents.Approval.Pool
import SafeAgents.Runtime.Rules

namespace SafeAgents

open Interleaving SafeAgents.Runtime SafeAgents.Enforcement

namespace Approval

inductive Permit where
  | asking
  | read (held : Intent)
  | judged (held : Intent) (t : Instant)
  | won (held : Intent) (t : Instant)
  | recorded (held : Intent) (t : Instant)
  | off

structure Asker where
  intentId : String
  skew : Int

def Claims (expected new : IntentStatus) : Prop := expected = .approved ∧ new = .permitted

instance (expected new : IntentStatus) : Decidable (Claims expected new) :=
  inferInstanceAs (Decidable (_ ∧ _))

def PermitsId (id : String) (record : AuditRecord) : Prop := record.outcome = .permitted ∧ record.intentId = some id

instance (id : String) (record : AuditRecord) : Decidable (PermitsId id record) := inferInstanceAs (Decidable (_ ∧ _))

namespace Permit

def afterRead (l : Permit) (r : Except Exn (Option Intent)) : Permit :=
  match l, r with
  | asking, .ok (some held) => if held.status = .approved then read held else off
  | asking, _ => off
  | l, _ => l

def afterClock (l : Permit) (r : Except Exn Instant) : Permit :=
  match l, r with
  | read held, .ok t => judged held t
  | read _, .error _ => off
  | l, _ => l

def afterClaim (l : Permit) (r : Except Exn Bool) : Permit :=
  match l, r with
  | judged held t, .ok true => won held t
  | judged _ _, _ => off
  | l, _ => l

def afterRecord (id : String) (l : Permit) (record : AuditRecord) (r : Except Exn Unit) : Permit :=
  match l, r with
  | won held t, .ok _ => if PermitsId id record then recorded held t else off
  | won _ _, .error _ => off
  | l, _ => l

def afterMemory (l : Permit) {α : Type} (r : Except Exn α) : Permit :=
  match l, r with
  | won _ _, .error _ => off
  | l, _ => l

end Permit

namespace Asker
variable (a : Asker)

def may (l : Permit) : Op → Prop
  | .intents (.getIntent id) => l = .asking → id = a.intentId
  | .intents (.transitionStatus id expected new _ _) => Claims expected new →
    id = a.intentId ∧ ∃ held t, l = .judged held t ∧ t + a.skew < held.expiry
  | _ => True

def next (l : Permit) : (o : Op) → Except Exn o.Ret → Permit
  | .intents (.getIntent _), r => l.afterRead r
  | .intents (.transitionStatus _ expected new _ _), r => if Claims expected new then l.afterClaim r else l
  | .env .now, r => l.afterClock r
  | .process _, r => l.afterMemory r
  | .audit record, r => l.afterRecord a.intentId record r
  | _, _ => l

def contract : Contract Op Op.Ret Exn Permit := ⟨a.may,fun _ _ _ => True,a.next⟩

end Asker

def Unclaiming : Op → Prop
  | .intents (.transitionStatus _ expected new _ _) => ¬ Claims expected new
  | _ => True

theorem unclaiming_of_routine {o : Op} (h : Routine o) : Unclaiming o := by
  cases o with
  | intents o => cases o <;> trivial
  | _ => trivial

def Between (held : Intent) (t : Instant) (l : Permit) : Prop :=
  l = .judged held t ∨ l = .recorded held t ∨ l = .off

theorem quiet_between (a : Asker) (held : Intent) (t : Instant) : Quiet a.contract Unclaiming (Between held t) where
  may l o hl ho := by
    have hlate : l ≠ .asking := by rcases hl with rfl | rfl | rfl <;> nofun
    cases o with
    | intents o =>
      cases o with
      | getIntent id => exact fun h => absurd h hlate
      | transitionStatus id expected new approvedBy executedAt => exact fun h => absurd h ho
      | _ => trivial
    | _ => trivial
  next l o r hl ho := by
    cases o with
    | intents o =>
      cases o with
      | getIntent id => rcases hl with rfl | rfl | rfl <;> rfl
      | transitionStatus id expected new approvedBy executedAt => exact if_neg ho
      | _ => rfl
    | env o =>
      cases o with
      | now => rcases hl with rfl | rfl | rfl <;> rfl
      | _ => rfl
    | process o => rcases hl with rfl | rfl | rfl <;> rfl
    | audit record => rcases hl with rfl | rfl | rfl <;> rfl
    | store o => rfl

section Permitting
variable (R : BrokerRuntime) (request : DecisionRequest) {release : HarnessRelease}

theorem permitsId_permitRecord (call : BrokeredCall) :
    PermitsId release.intentId (R.permitRecord (some release) call) := ⟨rfl,rfl⟩

variable (a : Asker) (held : Intent) (t : Instant)

def Permitted (l : Permit) (r : Except Exn ConnectorResult) : Prop :=
  (r = .ok .permitRecorded ∧ l = .recorded held t) ∨ ((∃ e, r = .error e) ∧ Between held t l)

theorem keeps_emitPermit (hid : release.intentId = a.intentId) (call : BrokeredCall) :
    Keeps a.contract (fun l r => (∃ u, r = .ok u ∧ l = .recorded held t) ∨ ((∃ e, r = .error e) ∧ l = .off))
      (.won held t) (emit (R.permitRecord (some release) call)) := by
  simp only [emit,Prog.call,keeps_act,keeps_finish]
  refine ⟨trivial,fun r _ => ?_⟩
  cases r with
  | ok u =>
    refine .inl ⟨u,rfl,?_⟩
    exact if_pos (hid ▸ permitsId_permitRecord R call)
  | error e => exact .inr ⟨⟨e,rfl⟩,rfl⟩

theorem keeps_recordPermit (hid : release.intentId = a.intentId) (ref : TurnRef) (call : BrokeredCall) :
    Keeps a.contract (fun l r => (∃ u, r = .ok u ∧ l = .recorded held t) ∨ ((∃ e, r = .error e) ∧ l = .off))
      (.won held t) (R.recordPermit request (some release) ref call) := by
  unfold BrokerRuntime.recordPermit
  split
  · simp only [BrokerRuntime.ingestSource,process,Prog.call,keeps_bind,keeps_act,keeps_finish]
    refine ⟨trivial,fun r _ => ?_⟩
    cases r with
    | ok u => exact keeps_emitPermit R a held t hid call
    | error e => exact .inr ⟨⟨e,rfl⟩,rfl⟩
  · exact keeps_emitPermit R a held t hid call

theorem keeps_abandonPermit (held : Intent) (t : Instant) : Keeps a.contract (fun l _ => l = .off) .off (BrokerRuntime.abandonPermit (some release)) := by
  refine (quiet_between a held t).uses (.inr (.inr rfl)) (uses_guarded ?_)
  exact .bind (uses_intents.mpr fun h => by cases h.1) fun _ => trivial

theorem keeps_recordOrAbandon (hid : release.intentId = a.intentId) (ref : TurnRef) (call : BrokeredCall) :
    Keeps a.contract (fun l r => (∃ u, r = .ok u ∧ l = .recorded held t) ∨ ((∃ e, r = .error e) ∧ l = .off))
      (.won held t) (R.recordOrAbandon request (some release) ref call) := by
  refine (keeps_recordPermit R request a held t hid ref call).tryCatch (fun l u h => h) ?_
  rintro l e (⟨u,hu,-⟩ | ⟨-,rfl⟩)
  · cases hu
  · refine (keeps_abandonPermit a held t).bind ?_ ?_
    · rintro _ u rfl
      exact .inr ⟨⟨e,rfl⟩,rfl⟩
    · rintro _ e' rfl
      exact .inr ⟨⟨e',rfl⟩,rfl⟩

theorem keeps_permit (hid : release.intentId = a.intentId) (hfresh : t + a.skew < held.expiry) (ref : TurnRef)
    (call : BrokeredCall) (effective : Decision) :
    Keeps a.contract (Permitted held t) (.judged held t) (R.permit request (some release) ref call effective) := by
  unfold BrokerRuntime.permit
  split
  · simp only [BrokerRuntime.claimRelease,intents,Prog.call,keeps_bind,keeps_act,keeps_finish]
    refine ⟨fun _ => ⟨hid,held,t,rfl,hfresh⟩,fun r _ => ?_⟩
    rcases r with e | won
    · exact .inr ⟨⟨e,rfl⟩,.inr (.inr rfl)⟩
    cases won with
    | false => exact .inr ⟨⟨_,rfl⟩,.inr (.inr rfl)⟩
    | true =>
      refine (keeps_recordOrAbandon R request a held t hid ref call).bind ?_ ?_
      · rintro l u (⟨-,-,rfl⟩ | ⟨⟨e,he⟩,-⟩)
        · exact .inl ⟨rfl,rfl⟩
        · cases he
      · rintro l e (⟨u,hu,-⟩ | ⟨-,rfl⟩)
        · cases hu
        · exact .inr ⟨⟨e,rfl⟩,.inr (.inr rfl)⟩
  · exact .inr ⟨⟨_,rfl⟩,.inl rfl⟩

theorem Permitted.between {l : Permit} {r : Except Exn ConnectorResult} (h : Permitted held t l r) : Between held t l := by
  rcases h with ⟨-,rfl⟩ | ⟨-,h⟩
  · exact .inr (.inl rfl)
  · exact h

theorem not_isPermit_of_cut {response : BrokerResponse} (h : Cut response) : BrokerRuntime.isPermit response = false := by
  unfold BrokerRuntime.isPermit
  rw [h.empty]
  simp

theorem refuse_refusalAnswer (response : BrokerResponse) : (BrokerRuntime.refusalAnswer response).answer = .refuse := by
  unfold BrokerRuntime.refusalAnswer
  split <;> rfl

def Answered (a : Asker) (l : Permit) (r : Except Exn HarnessDecision) : Prop :=
  ∀ d, r = .ok d → d.answer = .permit → ∀ id, d.intentId = some id → id = a.intentId ∧ ∃ held t, l = .recorded held t

theorem answered_refused {a : Asker} {l : Permit} {d : HarnessDecision} (h : d.answer = .refuse) : Answered a l (.ok d) := by
  rintro _ ⟨⟩ hpermit
  rw [h] at hpermit
  cases hpermit

theorem answered_error {a : Asker} {l : Permit} (e : Exn) : Answered a l (.error e) := error_ne_ok e

theorem keeps_pipeline_release (hid : release.intentId = a.intentId) (hfresh : t + a.skew < held.expiry)
    (agentRequest : AgentRequest) (holdId : String) :
    Keeps a.contract (Responded (.judged held t) (Permitted held t)) (.judged held t)
      (R.pipeline agentRequest none [] (some (R.harnessHooks request (some release) holdId))) := by
  have pipe : Pipe a.contract Unclaiming (Between held t) (Permitted held t) (.judged held t) :=
    ⟨quiet_between a held t,.inl rfl,fun _ _ h => h.between held t,fun _ => unclaiming_of_routine⟩
  refine R.keeps_pipeline pipe _ _ (fun _ => trivial) none [] fun ref turn entry confidence ts _ => ?_
  refine ⟨fun _ => True,fun facts => ?_,fun effective _ _ => keeps_permit R request a held t hid hfresh ref _ effective⟩
  exact (R.uses_harnessDeciderFor (routinely fun _ => unclaiming_of_routine) request (some release) holdId _ facts).yields
    fun _ _ _ => trivial

theorem keeps_answerHarness (hid : release.intentId = a.intentId) {l : Permit} {response : BrokerResponse}
    (h : Responded (.judged held t) (Permitted held t) l (.ok response)) :
    Keeps a.contract (Answered a) l (BrokerRuntime.answerHarness request (some release) response) := by
  unfold BrokerRuntime.answerHarness
  split
  · next hpermit =>
    rintro _ ⟨⟩ - id hintent
    have hrecorded : l = .recorded held t := by
      rcases h with ⟨-,hnothing⟩ | ⟨out,hout,hresponse⟩
      · rcases hnothing _ rfl with hreplayed | hcut
        · simp [BrokerRuntime.isPermit,hreplayed] at hpermit
        · simp [not_isPermit_of_cut hcut] at hpermit
      · rcases hresponse _ rfl with hcut | ⟨result,rfl,hdelivers⟩
        · simp [not_isPermit_of_cut hcut] at hpermit
        · rcases hout with ⟨-,hl⟩ | ⟨⟨e,he⟩,-⟩
          · exact hl
          · cases he
    obtain rfl : release.intentId = id := by simpa [BrokerRuntime.permitAnswer,BrokerRuntime.releasedId] using hintent
    exact ⟨hid,held,t,hrecorded⟩
  · simp only [BrokerRuntime.refuseRelease,intents,Prog.call,keeps_bind,keeps_act,keeps_finish]
    refine ⟨fun h => (by cases h.2),fun r _ => ?_⟩
    cases r with
    | error e => exact answered_error e
    | ok won => exact answered_refused (refuse_refusalAnswer response)

theorem keeps_decideThrough_release (hid : release.intentId = a.intentId) (hfresh : t + a.skew < held.expiry)
    (holdId : String) :
    Keeps a.contract (Answered a) (.judged held t) (R.decideThrough request (some release) holdId) := by
  refine (keeps_pipeline_release R request a held t hid hfresh _ holdId).bind (fun l response h => ?_)
    fun l e _ => answered_error e
  exact keeps_answerHarness request a held t hid h

end Permitting

section Fresh
variable (R : BrokerRuntime) (request : DecisionRequest) (a : Asker)

theorem next_ne_asking {l : Permit} {o : Op} {r : Except Exn o.Ret} (hl : l ≠ .asking) : a.next l o r ≠ .asking := by
  cases o with
  | intents o =>
    cases o with
    | getIntent id => cases l <;> simp_all [Asker.next,Permit.afterRead]
    | transitionStatus id expected new approvedBy executedAt =>
      simp only [Asker.next]
      split
      · unfold Permit.afterClaim
        split <;> first | exact hl | nofun
      · exact hl
    | _ => exact hl
  | env o =>
    cases o with
    | now =>
      simp only [Asker.next]
      unfold Permit.afterClock
      split <;> first | exact hl | nofun
    | _ => exact hl
  | process o =>
    simp only [Asker.next]
    unfold Permit.afterMemory
    split <;> first | exact hl | nofun
  | audit record =>
    simp only [Asker.next]
    unfold Permit.afterRecord
    split
    · split <;> nofun
    · nofun
    · exact hl
  | store o => exact hl

theorem keeps_unclaiming {α : Type} {V : Except Exn α → Prop} {p : Act α} {l : Permit} (hp : Yields Unclaiming V p)
    (hl : l ≠ .asking) : Keeps a.contract (fun l' r => l' ≠ .asking ∧ V r) l p := by
  induction p generalizing l with
  | ret x => exact ⟨hl,hp⟩
  | raise e => exact ⟨hl,hp⟩
  | act o k ih =>
    refine ⟨?_,fun r _ => ih r (hp.2 r) (next_ne_asking a hl)⟩
    have ho := hp.1
    cases o with
    | intents o =>
      cases o with
      | getIntent id => exact fun h => absurd h hl
      | transitionStatus id expected new approvedBy executedAt => exact fun h => absurd h ho
      | _ => trivial
    | _ => trivial

theorem uses_permit_fresh (ref : TurnRef) (call : BrokeredCall) (effective : Decision) :
    Uses Unclaiming (R.permit request none ref call effective) := by
  unfold BrokerRuntime.permit
  split
  · refine .bind (by trivial) fun _ => .bind (.tryCatch ?_ fun e => .bind (by trivial) fun _ => trivial) fun _ => trivial
    exact R.uses_recordPermit (fun _ => unclaiming_of_routine) (fun _ => trivial) request none ref call
  · trivial

def Unnamed (r : Except Exn HarnessDecision) : Prop := ∀ d, r = .ok d → d.answer = .permit → d.intentId = none

theorem unnamed_decideThrough (holdId : String) : Yields Unclaiming Unnamed (R.decideThrough request none holdId) := by
  refine .then ?_ (fun response => ?_) fun e => error_ne_ok e
  · exact R.uses_pipeline (fun _ => unclaiming_of_routine) (fun _ => trivial) _ none [] _
      (R.uses_harnessDeciderFor (routinely fun _ => unclaiming_of_routine) request none holdId)
      (fun ref call decision => uses_permit_fresh R request ref call decision)
  · unfold BrokerRuntime.answerHarness
    split
    · rintro _ ⟨⟩ -
      rfl
    · rintro _ ⟨⟩ hpermit
      rw [refuse_refusalAnswer] at hpermit
      cases hpermit

theorem keeps_decideThrough_fresh {l : Permit} (hl : l ≠ .asking) (holdId : String) :
    Keeps a.contract (Answered a) l (R.decideThrough request none holdId) := by
  refine keeps_mono (fun l' r h d hd hpermit id hid => ?_) (keeps_unclaiming a (unnamed_decideThrough R request holdId) hl)
  rw [h.2 d hd hpermit] at hid
  cases hid

end Fresh

section Asking
variable (R : BrokerRuntime) (request : DecisionRequest) (a : Asker)

def FoundAt (l : Permit) (r : Except Exn Found) : Prop :=
  l ≠ .asking ∧ ∀ found, r = .ok found →
    (∀ release, found = .release release → release.intentId = a.intentId ∧
      ∃ held t, l = .judged held t ∧ t + a.skew < held.expiry) ∧
    ∀ d, found = .answered d → d.answer = .refuse

def Unreleased (r : Except Exn Found) : Prop :=
  ∀ found, r = .ok found → (∀ release, found ≠ .release release) ∧ ∀ d, found = .answered d → d.answer = .refuse

theorem unreleased_error (e : Exn) : Unreleased (.error e) := error_ne_ok e

theorem unreleased_fresh : Unreleased (.ok .fresh) := by
  rintro _ ⟨⟩
  exact ⟨nofun,nofun⟩

theorem unreleased_answered {d : HarnessDecision} (h : d.answer = .refuse) : Unreleased (.ok (.answered d)) := by
  rintro _ ⟨⟩
  refine ⟨nofun,?_⟩
  rintro _ ⟨⟩
  exact h

theorem Unreleased.foundAt {l : Permit} {r : Except Exn Found} (h : l ≠ .asking ∧ Unreleased r) : FoundAt a l r :=
  ⟨h.1,fun found hfound => ⟨fun release hrelease => absurd hrelease ((h.2 found hfound).1 release),(h.2 found hfound).2⟩⟩

theorem keeps_unreleased {p : Act Found} {l : Permit} (hp : Yields Unclaiming Unreleased p) (hl : l ≠ .asking) :
    Keeps a.contract (FoundAt a) l p := keeps_mono (fun _ _ h => Unreleased.foundAt a h) (keeps_unclaiming a hp hl)

theorem unreleased_lapse (holdId : String) (held : Intent) : Yields Unclaiming Unreleased (R.lapse holdId held) := by
  refine .then (uses_intents.mpr fun h => by cases h.2) (fun won => ?_) unreleased_error
  cases won with
  | false => exact unreleased_fresh
  | true => exact .then (uses_emit.mpr trivial) (fun _ => unreleased_fresh) unreleased_error

theorem unreleased_refuseMismatch (holdId : String) :
    Yields Unclaiming Unreleased (R.refuseMismatch request holdId) :=
  .then (uses_emit.mpr trivial) (fun _ => unreleased_answered rfl) unreleased_error

theorem keeps_judgeApproved (hskew : a.skew = R.clockSkew) (held : Intent) :
    Keeps a.contract (FoundAt a) (.read held) (R.judgeApproved request a.intentId held) := by
  unfold BrokerRuntime.judgeApproved
  split
  · simp only [env,Prog.call,keeps_bind,keeps_act,keeps_finish]
    refine ⟨trivial,fun r _ => ?_⟩
    cases r with
    | error e =>
      have hoff : Permit.off ≠ .asking := by simp
      exact Unreleased.foundAt a ⟨hoff,unreleased_error e⟩
    | ok t =>
      have hjudged : a.contract.next (.read held) (.env .now) (.ok t) = .judged held t := rfl
      rw [hjudged]
      have hlate : Permit.judged held t ≠ .asking := by simp
      simp only [Prog.andThen_ok,keeps_bind,keeps_finish]
      cases hexp : pastExpiry held.expiry t R.clockSkew with
      | error e => exact Unreleased.foundAt a ⟨hlate,unreleased_error e⟩
      | ok expired =>
        cases expired with
        | true => exact keeps_unreleased a (unreleased_lapse R a.intentId held) hlate
        | false =>
          refine ⟨hlate,?_⟩
          rintro _ ⟨⟩
          refine ⟨?_,fun d hd => by cases hd⟩
          rintro _ ⟨⟩
          exact ⟨rfl,held,t,rfl,hskew ▸ isExpired_false hexp⟩
  · exact keeps_unreleased a (unreleased_refuseMismatch R request a.intentId) (by simp)

def ReadAt (l : Permit) (r : Except Exn BrokerRuntime.IntentRead) : Prop :=
  l ≠ .asking ∧ ∀ held, r = .ok (.found (some held)) → held.status = .approved → l = .read held

theorem afterRead_late (r : Except Exn (Option Intent)) : Permit.asking.afterRead r ≠ .asking := by
  match r with
  | .error e => nofun
  | .ok none => nofun
  | .ok (some held) =>
    simp only [Permit.afterRead]
    split <;> nofun

theorem readAt_error {l : Permit} (hl : l ≠ .asking) (e : Exn) : ReadAt l (.error e) := ⟨hl,fun _ h => by cases h⟩

theorem readAt_quarantined {l : Permit} (hl : l ≠ .asking) (intentId reason : String) :
    ReadAt l (.ok (.quarantined intentId reason)) := ⟨hl,fun _ h => by cases h⟩

theorem readAt_found (found : Option Intent) : ReadAt (Permit.asking.afterRead (.ok found)) (.ok (.found found)) := by
  refine ⟨afterRead_late _,?_⟩
  rintro held ⟨⟩ happroved
  exact if_pos happroved

theorem keeps_readIntent : Keeps a.contract ReadAt .asking (BrokerRuntime.readIntent a.intentId) := by
  simp only [BrokerRuntime.readIntent,intents,Prog.call,keeps_tryCatch,keeps_bind,keeps_act,keeps_finish]
  refine ⟨fun _ => rfl,fun r _ => ?_⟩
  cases r with
  | ok found => exact readAt_found found
  | error e =>
    have hlate (e : Exn) : a.contract.next .asking (.intents (.getIntent a.intentId)) (.error e) ≠ .asking :=
      afterRead_late (.error e)
    simp only [Prog.andThen_error,keeps_raise,Prog.orElse_error]
    split
    · exact keeps_pure.mpr (readAt_quarantined (hlate _) _ _)
    · exact keeps_throw.mpr (readAt_error (hlate e) e)

theorem keeps_approvedHarnessIntent (hskew : a.skew = R.clockSkew) :
    Keeps a.contract (FoundAt a) .asking (R.approvedHarnessIntent request a.intentId) := by
  refine (keeps_readIntent a).bind (fun l read h => ?_) fun l e h => Unreleased.foundAt a ⟨h.1,unreleased_error e⟩
  match read with
  | .quarantined intentId reason =>
    exact keeps_unreleased a (.then (uses_emit.mpr trivial) (fun _ => unreleased_answered rfl) unreleased_error) h.1
  | .found none => exact Unreleased.foundAt a ⟨h.1,unreleased_fresh⟩
  | .found (some held) =>
    dsimp only
    split
    · next happroved =>
      obtain rfl := h.2 held rfl happroved
      exact keeps_judgeApproved R request a hskew held
    · exact Unreleased.foundAt a ⟨h.1,unreleased_fresh⟩

theorem keeps_decideHarness (hid : a.intentId = R.holdIdFor request) (hskew : a.skew = R.clockSkew) :
    Keeps a.contract (Answered a) .asking (R.decideHarness request) := by
  simp only [BrokerRuntime.decideHarness,env,Prog.call,← hid,keeps_bind,keeps_act,keeps_finish]
  refine ⟨trivial,fun r _ => ?_⟩
  rcases r with e | t
  · exact answered_error e
  have hasking : a.contract.next .asking (.env .now) (.ok t) = .asking := rfl
  rw [hasking]
  refine (keeps_approvedHarnessIntent R request a hskew).bind (fun l found h => ?_) fun l e _ => answered_error e
  cases found with
  | answered d => exact answered_refused ((h.2 _ rfl).2 d rfl)
  | fresh => exact keeps_decideThrough_fresh R request a h.1 _
  | release release =>
    obtain ⟨hrelease,held,t,rfl,hfresh⟩ := (h.2 _ rfl).1 release rfl
    exact keeps_decideThrough_release R request a held t hrelease hfresh _

theorem keeps_recordedRefusal {l : Permit} (record : AuditRecord) {d : HarnessDecision} (hd : d.answer = .refuse) :
    Keeps a.contract (Answered a) l (do
      guarded (emit record)
      return d) := by
  simp only [guarded,emit,Prog.call,keeps_bind,keeps_tryCatch,keeps_act,keeps_finish]
  refine ⟨trivial,fun r _ => ?_⟩
  cases r with
  | ok u => exact answered_refused hd
  | error e =>
    simp only [Prog.orElse_error]
    split
    · exact answered_refused hd
    · exact answered_error e

theorem keeps_refuseDecisionRequest (mouth cause : String) {l : Permit} :
    Keeps a.contract (Answered a) l (R.refuseDecisionRequest mouth cause) := by
  unfold BrokerRuntime.refuseDecisionRequest
  split
  · exact answered_error _
  · split
    · exact answered_error _
    · simp only [caught,emit,Prog.call,keeps_bind,keeps_tryCatch,keeps_act,keeps_finish]
      refine ⟨trivial,fun r _ => ?_⟩
      cases r with
      | ok u => exact answered_refused rfl
      | error e =>
        simp only [Prog.andThen_error,keeps_raise,Prog.orElse_error]
        split
        · exact answered_refused rfl
        · exact answered_error e

theorem keeps_decideOrRefuse (hid : a.intentId = R.holdIdFor request) (hskew : a.skew = R.clockSkew) :
    Keeps a.contract (Answered a) .asking (R.decideOrRefuse request) := by
  refine (keeps_decideHarness R request a hid hskew).tryCatch (fun _ _ h => h) fun l e _ => ?_
  split
  · exact keeps_recordedRefusal a _ rfl
  · exact answered_error e

end Asking

def asker (R : BrokerRuntime) (report : DecisionReport) : Asker where
  intentId :=
    match validateDecisionRequest report with
    | .ok request => R.holdIdFor request
    | .error _ => ""
  skew := R.clockSkew

theorem keeps_decideHarnessCall (R : BrokerRuntime) (report : DecisionReport) :
    Keeps (asker R report).contract (Answered (asker R report)) .asking (R.decideHarnessCall report) := by
  unfold BrokerRuntime.decideHarnessCall
  cases hreport : validateDecisionRequest report with
  | error e => exact keeps_refuseDecisionRequest R _ _ _
  | ok request => exact keeps_decideOrRefuse R request _ (by simp [asker,hreport]) rfl

end Approval

end SafeAgents
