import Mathlib.Data.Finset.Card
import SafeAgents.Approval.Permits

namespace SafeAgents

open Interleaving SafeAgents.Runtime

namespace Approval

variable {ι : Type}

def claims (id : String) : Event ι Op Op.Ret Exn → Bool
  | ⟨_,.intents (.transitionStatus id' .approved .permitted _ _),.ok true⟩ => id' = id
  | _ => false

theorem claims_iff {id : String} {e : Event ι Op Op.Ret Exn} :
    claims id e = true ↔ ∃ approvedBy executedAt,
      e = ⟨e.thread,.intents (.transitionStatus id .approved .permitted approvedBy executedAt),.ok true⟩ := by
  constructor
  · intro h
    unfold claims at h
    split at h
    · simp only [decide_eq_true_eq] at h
      subst h
      exact ⟨_,_,rfl⟩
    · cases h
  · rintro ⟨approvedBy,executedAt,h⟩
    rw [h]
    simp [claims]

def clock : Event ι Op Op.Ret Exn → Option Instant
  | ⟨_,.env .now,.ok t⟩ => some t
  | _ => none

section Readings
variable [DecidableEq ι]

def readings (i : ι) (tr : Trace ι) : List Instant := (tr.filter fun e => e.thread = i).filterMap clock

theorem readings_concat (i : ι) (tr : Trace ι) (e : Event ι Op Op.Ret Exn) :
    readings i (tr ++ [e]) = readings i tr ++ if e.thread = i then (clock e).toList else [] := by
  by_cases h : e.thread = i
  · cases hc : clock e <;> simp [readings,h,hc]
  · simp [readings,h]

end Readings

def Asked [DecidableEq ι] (i : ι) (a : Asker) (held : Intent) (V : List Instant → Prop) (tr : Trace ι) : Prop :=
  held.status = .approved ∧ ∃ before after,
    tr = before ++ ⟨i,.intents (.getIntent a.intentId),.ok (some held)⟩ :: after ∧ V (readings i after)

structure ClaimedAt [DecidableEq ι] (i : ι) (a : Asker) (held : Intent) (t : Instant) (tr : Trace ι) : Prop where
  judged : Asked i a held (fun clocks => clocks.head? = some t) tr
  fresh : t + a.skew < held.expiry
  claimed : ∃ e ∈ tr, e.thread = i ∧ claims a.intentId e = true

def Told [DecidableEq ι] (i : ι) (a : Asker) (tr : Trace ι) : Permit → Prop
  | .asking => True
  | .read held => Asked i a held (fun clocks => clocks = []) tr
  | .judged held t => Asked i a held (fun clocks => clocks.head? = some t) tr
  | .won held t => ClaimedAt i a held t tr
  | .recorded held t => ClaimedAt i a held t tr ∧ ∃ record,
      (⟨i,.audit record,.ok ()⟩ : Event ι Op Op.Ret Exn) ∈ tr ∧ PermitsId a.intentId record
  | .off => True

section Own
variable {i : ι} {a : Asker} {tr : Trace ι}

variable [DecidableEq ι] {l : Permit} {V : List Instant → Prop}

theorem Asked.grow {held : Intent} (h : Asked i a held V tr) {W : List Instant → Prop} (e : Event ι Op Op.Ret Exn)
    (hV : ∀ clocks, V clocks → W (clocks ++ if e.thread = i then (clock e).toList else [])) :
    Asked i a held W (tr ++ [e]) := by
  obtain ⟨happroved,before,after,rfl,hclocks⟩ := h
  refine ⟨happroved,before,after ++ [e],by simp,?_⟩
  rw [readings_concat]
  exact hV _ hclocks

theorem Asked.head {held : Intent} {t : Instant} (h : Asked i a held (fun clocks => clocks.head? = some t) tr)
    (e : Event ι Op Op.Ret Exn) : Asked i a held (fun clocks => clocks.head? = some t) (tr ++ [e]) := by
  refine h.grow e fun clocks hclocks => ?_
  rw [List.head?_append,hclocks]
  rfl

theorem ClaimedAt.grow {held : Intent} {t : Instant} (h : ClaimedAt i a held t tr) (e : Event ι Op Op.Ret Exn) :
    ClaimedAt i a held t (tr ++ [e]) where
  judged := h.judged.head e
  fresh := h.fresh
  claimed := by
    obtain ⟨e',hmem,hclaim⟩ := h.claimed
    exact ⟨e',List.mem_append_left _ hmem,hclaim⟩

theorem Told.grow {e : Event ι Op Op.Ret Exn} (h : Told i a tr l) (hsilent : e.thread = i → clock e = none) :
    Told i a (tr ++ [e]) l := by
  cases l with
  | asking => trivial
  | read held =>
    have hread : Asked i a held (fun clocks => clocks = []) tr := h
    refine hread.grow (W := fun clocks => clocks = []) e fun clocks hclocks => ?_
    rw [hclocks]
    split
    · next hown =>
      rw [hsilent hown]
      rfl
    · rfl
  | judged held t => exact Asked.head h e
  | won held t => exact ClaimedAt.grow h e
  | recorded held t =>
    obtain ⟨hclaimed,record,hmem,hrecord⟩ := h
    exact ⟨hclaimed.grow e,record,List.mem_append_left _ hmem,hrecord⟩
  | off => trivial

theorem told_getIntent {id : String} {r : Except Exn (Option Intent)} (hmay : a.may l (.intents (.getIntent id)))
    (h : Told i a tr l) : Told i a (tr ++ [⟨i,.intents (.getIntent id),r⟩]) (l.afterRead r) := by
  have hsame := h.grow (e := ⟨i,.intents (.getIntent id),r⟩) fun _ => rfl
  cases l with
  | asking =>
    obtain rfl := hmay rfl
    match r with
    | .error e => trivial
    | .ok none => trivial
    | .ok (some held) =>
      simp only [Permit.afterRead]
      split
      · next happroved => exact ⟨happroved,tr,[],rfl,rfl⟩
      · trivial
  | _ => exact hsame

theorem told_claim {id : String} {expected new : IntentStatus} {approvedBy : Option String} {executedAt : Option Instant}
    {r : Except Exn Bool} (hmay : a.may l (.intents (.transitionStatus id expected new approvedBy executedAt)))
    (h : Told i a tr l) : Told i a (tr ++ [⟨i,.intents (.transitionStatus id expected new approvedBy executedAt),r⟩])
      (if Claims expected new then l.afterClaim r else l) := by
  have hsame := h.grow (e := ⟨i,.intents (.transitionStatus id expected new approvedBy executedAt),r⟩) fun _ => rfl
  split
  · next hclaims =>
    obtain ⟨rfl,held,t,rfl,hfresh⟩ := hmay hclaims
    obtain ⟨rfl,rfl⟩ := hclaims
    match r with
    | .error e => trivial
    | .ok false => trivial
    | .ok true => exact ⟨hsame,hfresh,_,List.mem_append_right _ (List.mem_singleton.mpr rfl),rfl,by simp [claims]⟩
  · exact hsame

theorem told_now {r : Except Exn Instant} (h : Told i a tr l) :
    Told i a (tr ++ [⟨i,.env .now,r⟩]) (l.afterClock r) := by
  cases l with
  | asking => trivial
  | read held =>
    cases r with
    | error e => trivial
    | ok t =>
      have hread : Asked i a held (fun clocks => clocks = []) tr := h
      refine hread.grow (W := fun clocks => clocks.head? = some t) _ fun clocks hclocks => ?_
      simp [hclocks,clock]
  | judged held t => exact Asked.head h _
  | won held t => exact ClaimedAt.grow h _
  | recorded held t =>
    obtain ⟨hclaimed,record,hmem,hrecord⟩ := h
    exact ⟨hclaimed.grow _,record,List.mem_append_left _ hmem,hrecord⟩
  | off => trivial

theorem told_record {record : AuditRecord} {r : Except Exn Unit} (h : Told i a tr l) :
    Told i a (tr ++ [⟨i,.audit record,r⟩]) (l.afterRecord a.intentId record r) := by
  have hsame := h.grow (e := ⟨i,.audit record,r⟩) fun _ => rfl
  unfold Permit.afterRecord
  split
  · split
    · next hrecord => exact ⟨hsame,record,List.mem_append_right _ (List.mem_singleton.mpr rfl),hrecord⟩
    · trivial
  · trivial
  · exact hsame

theorem told_own {o : Op} {r : Except Exn o.Ret} (hmay : a.may l o) (h : Told i a tr l) :
    Told i a (tr ++ [⟨i,o,r⟩]) (a.next l o r) := by
  cases o with
  | intents o =>
    cases o with
    | getIntent id => exact told_getIntent hmay h
    | transitionStatus id expected new approvedBy executedAt => exact told_claim hmay h
    | putIntent intent => exact h.grow fun _ => rfl
    | expiredPendingCandidates principalKey now => exact h.grow fun _ => rfl
  | env o =>
    by_cases ho : o = .now
    · subst ho
      exact told_now h
    · have hnext : a.next l (.env o) r = l := by cases o <;> first | rfl | exact absurd rfl ho
      have hsilent : clock (⟨i,.env o,r⟩ : Event ι Op Op.Ret Exn) = none := by
        cases o <;> first | rfl | exact absurd rfl ho
      rw [hnext]
      exact h.grow fun _ => hsilent
  | process o =>
    have hsame := h.grow (e := ⟨i,.process o,r⟩) fun _ => rfl
    simp only [Asker.next]
    unfold Permit.afterMemory
    split
    · trivial
    · exact hsame
  | audit record => exact told_record h
  | store o => exact h.grow fun _ => rfl

end Own

section Contracts

def askerOf : Action → Option Asker
  | .permit R report => some (asker R report)
  | _ => none

theorem askerOf_some {action : Action} {a : Asker} (h : askerOf action = some a) :
    ∃ R report, action = .permit R report ∧ a = asker R report := by
  cases action with
  | permit R report => exact ⟨R,report,rfl,(Option.some.inj h).symm⟩
  | _ => cases h

def permitContract (action : Action) : Contract Op Op.Ret Exn Permit :=
  match askerOf action with
  | some a => a.contract
  | none => anything

def PermittedOn (id : String) (r : Except Exn Result) : Prop :=
  ∃ d, r = .ok (.answered d) ∧ d.answer = .permit ∧ d.intentId = some id

def PermitReport (action : Action) (l : Permit) (r : Except Exn Result) : Prop :=
  ∀ id, PermittedOn id r → ∃ a, askerOf action = some a ∧ id = a.intentId ∧ ∃ held t, l = .recorded held t

theorem permitContract_asker {action : Action} {a : Asker} (h : askerOf action = some a) :
    permitContract action = a.contract := by rw [permitContract,h]

theorem permitReport_error (action : Action) (l : Permit) (e : Exn) : PermitReport action l (.error e) := by
  rintro id ⟨d,he,-⟩
  cases he

theorem keeps_unanswered {α : Type} (p : Act α) (f : α → Result) (hf : ∀ x d, f x ≠ .answered d) (action : Action) :
    Keeps anything (PermitReport action) .asking (do return f (← p)) := by
  refine keeps_anything.bind (fun l x _ => ?_) fun l e _ => permitReport_error action l e
  rintro id ⟨d,hd,-⟩
  exact absurd (Except.ok.inj hd) (hf x d)

theorem keeps_permit_action (action : Action) :
    Keeps (permitContract action) (PermitReport action) .asking action.program := by
  cases action with
  | permit R report =>
    refine (keeps_decideHarnessCall R report).bind (fun l d h => ?_) fun l e _ => permitReport_error _ l e
    rintro id ⟨_,⟨⟩,hpermit,hid⟩
    exact ⟨asker R report,rfl,h d rfl hpermit id hid⟩
  | hold hold => exact keeps_unanswered _ .held (fun _ _ => Result.noConfusion) _
  | approve intentId approvedBy hasExecutor now skew =>
    exact keeps_unanswered _ .settled (fun _ _ => Result.noConfusion) _
  | reissue intentId approvedBy now skew => exact keeps_unanswered _ .settled (fun _ _ => Result.noConfusion) _
  | reject intentId rejectedBy now => exact keeps_unanswered _ .settled (fun _ _ => Result.noConfusion) _
  | expire intent now => exact keeps_unanswered _ .expired (fun _ _ => Result.noConfusion) _
  | sweep runtime now => exact keeps_unanswered _ .swept (fun _ _ => Result.noConfusion) _

variable (actions : ι → Action)

def AllTold [DecidableEq ι] (l : ι → Permit) (tr : Trace ι) : Prop :=
  ∀ i a, askerOf (actions i) = some a → Told i a tr (l i)

variable {actions} [DecidableEq ι] {B : Substrate} {G : Guard ι Op Op.Ret Exn State Result}

theorem told_preserved :
    Preserved B.device G (fun i => permitContract (actions i)) (fun i => PermitReport (actions i))
      fun _ l tr => AllTold actions l tr where
  heard c l tr i o x _ _ _ := by
    unfold permitContract
    split <;> trivial
  next c l tr j o k x _ _ _ hi hmay := by
    intro i a ha
    by_cases hij : i = j
    · subst hij
      rw [permitContract_asker ha] at hmay ⊢
      rw [Function.update_self]
      exact told_own hmay (hi i a ha)
    · rw [Function.update_of_ne hij]
      exact (hi i a ha).grow fun h => absurd h.symm hij

end Contracts

section Counting
variable {B : Substrate} {c c' : Pool ι} {e : Event ι Op Op.Ret Exn} {id : String}

def BecomesApproved (id : String) : Guard ι Op Op.Ret Exn State Result :=
  fun c _ c' => rowStatus c.state id ≠ some .approved ∧ rowStatus c'.state id = some .approved

def live (s : State) (id : String) : Nat := if rowStatus s id = some .approved then 1 else 0

theorem live_approved (h : BecomesApproved id c e c') : live c.state id = 0 ∧ live c'.state id = 1 :=
  ⟨if_neg h.1,if_pos h.2⟩

theorem live_not_approved (h : ¬ BecomesApproved id c e c') : live c'.state id ≤ live c.state id := by
  unfold live
  split
  · next hafter =>
    rw [if_pos]
    exact Classical.byContradiction fun hbefore => h ⟨hbefore,hafter⟩
  · exact Nat.zero_le _

variable [DecidableEq ι]

theorem step_claims_row (hs : Step B.device c e c') (h : claims id e = true) :
    rowStatus c.state id = some .approved ∧ rowStatus c'.state id = some .permitted := by
  obtain ⟨approvedBy,executedAt,he⟩ := claims_iff.mp h
  rw [he] at hs
  obtain ⟨x,hreply,hstate⟩ := hs.effect
  obtain ⟨item,hrow,hstatus,hnext⟩ := transition_won hreply.symm
  refine ⟨by simp [rowStatus,hrow,hstatus],?_⟩
  rw [rowStatus,hstate]
  exact congrArg (Option.map IntentItem.status) hnext

theorem live_claims (hs : Step B.device c e c') (h : claims id e = true) :
    live c.state id = 1 ∧ live c'.state id = 0 := by
  obtain ⟨hbefore,hafter⟩ := step_claims_row hs h
  exact ⟨if_pos hbefore,if_neg (by simp [hafter])⟩

theorem claims_le_approvals {c₀ : Pool ι} {tr : Trace ι} {n : Nat} (h : Tally B.device (BecomesApproved id) c₀ tr c n) :
    tr.countP (claims id) + live c.state id ≤ n + live c₀.state id := by
  induction h with
  | refl => simp
  | @hit c c' tr e n _ hs happroves ih =>
    have hlive := live_approved happroves
    rw [List.countP_append,List.countP_singleton]
    by_cases hclaims : claims id e = true
    · have := live_claims hs hclaims
      omega
    · simp only [hclaims,Bool.false_eq_true,if_false]
      omega
  | @miss c c' tr e n _ hs happroves ih =>
    have hlive := live_not_approved happroves
    rw [List.countP_append,List.countP_singleton]
    by_cases hclaims : claims id e = true
    · have := live_claims hs hclaims
      simp only [hclaims,if_true]
      omega
    · simp only [hclaims,Bool.false_eq_true,if_false]
      omega

theorem card_le_countP {granted : Finset ι} {tr : Trace ι} {p : Event ι Op Op.Ret Exn → Bool}
    (h : ∀ i ∈ granted, ∃ e ∈ tr, e.thread = i ∧ p e = true) : granted.card ≤ tr.countP p := by
  have hsub : granted ⊆ ((tr.filter p).map Event.thread).toFinset := by
    intro i hi
    obtain ⟨e,hmem,hthread,hp⟩ := h i hi
    exact List.mem_toFinset.mpr (List.mem_map.mpr ⟨e,List.mem_filter.mpr ⟨hmem,hp⟩,hthread⟩)
  calc granted.card ≤ ((tr.filter p).map Event.thread).toFinset.card := Finset.card_le_card hsub
    _ ≤ ((tr.filter p).map Event.thread).length := List.toFinset_card_le _
    _ = tr.countP p := by rw [List.length_map,List.countP_eq_length_filter]

end Counting

def Grants (c : Pool ι) (i : ι) (id : String) : Prop := ∃ r, (c.threads i).outcome = some r ∧ PermittedOn id r

def decisionOf : Except Exn Result → Option HarnessDecision
  | .ok (.answered d) => some d
  | _ => none

theorem grants_of_decision {c : Pool ι} {i : ι} {id : String} {d : HarnessDecision}
    (h : (c.threads i).outcome.bind decisionOf = some d) (hpermit : d.answer = .permit) (hid : d.intentId = some id) :
    Grants c i id := by
  obtain ⟨r,hout,hr⟩ := Option.bind_eq_some_iff.mp h
  refine ⟨r,hout,d,?_,hpermit,hid⟩
  unfold decisionOf at hr
  split at hr
  · cases hr
    rfl
  · cases hr

variable [DecidableEq ι]

structure Permits (B : Substrate) (actions : ι → Action) (s : State)
    ( InTime : Int → Intent → List Instant → Prop) : Prop where
  counted : ∀ id tr c n, Tally B.device (BecomesApproved id) (startPool actions s) tr c n →
    ∀ granted : Finset ι, (∀ i ∈ granted, Grants c i id) → granted.card ≤ n + live s id
  recorded : ∀ tr c i id, Run B.device anyStep (startPool actions s) tr c → Grants c i id →
    ∃ record, (⟨i,.audit record,.ok ()⟩ : Event ι Op Op.Ret Exn) ∈ tr ∧ PermitsId id record
  timely : ∀ tr c i id, Run B.device anyStep (startPool actions s) tr c → Grants c i id →
    ∃ R report held before after, actions i = .permit R report ∧
      tr = before ++ ⟨i,.intents (.getIntent id),.ok (some held)⟩ :: after ∧ held.status = .approved ∧
      InTime R.clockSkew held (readings i after)

def AskedInTime (skew : Int) (held : Intent) (clocks : List Instant) : Prop :=
  ∃ t, clocks.head? = some t ∧ t + skew < held.expiry

def AnsweredInTime (skew : Int) (held : Intent) (clocks : List Instant) : Prop :=
  ∀ t ∈ clocks, t + skew < held.expiry

section Granted
variable {actions : ι → Action} {B : Substrate} {s : State} {c : Pool ι} {tr : Trace ι} {i : ι} {id : String}

theorem told_granted (h : Run B.device anyStep (startPool actions s) tr c) (hgrant : Grants c i id) :
    ∃ R report held t, actions i = .permit R report ∧ id = (asker R report).intentId ∧
      Told i (asker R report) tr (.recorded held t) := by
  obtain ⟨hkeeps,htold⟩ := h.staged_from_start told_preserved (fun i => keeps_permit_action (actions i))
    (fun i a _ => trivial : AllTold actions (fun _ => .asking) [])
  obtain ⟨r,hout,hr⟩ := hgrant
  obtain ⟨a,ha,hid,held,t,hl⟩ := keeps_outcome (hkeeps i) hout id hr
  have htold := htold i a ha
  rw [hl] at htold
  obtain ⟨R,report,haction,rfl⟩ := askerOf_some ha
  exact ⟨R,report,held,t,haction,hid,htold⟩

end Granted

theorem one_permit_per_approval (B : Substrate) (actions : ι → Action) (s : State) :
    Permits B actions s AskedInTime where
  counted id tr c n h granted hgranted := by
    have hcount : granted.card ≤ tr.countP (claims id) := by
      refine card_le_countP fun i hi => ?_
      obtain ⟨R,report,held,t,-,rfl,htold⟩ := told_granted h.run (hgranted i hi)
      exact htold.1.claimed
    exact hcount.trans ((Nat.le_add_right _ _).trans (claims_le_approvals h))
  recorded tr c i id h hgrant := by
    obtain ⟨R,report,held,t,-,rfl,htold⟩ := told_granted h hgrant
    exact htold.2
  timely tr c i id h hgrant := by
    obtain ⟨R,report,held,t,haction,rfl,htold⟩ := told_granted h hgrant
    obtain ⟨happroved,before,after,hread,hjudged⟩ := htold.1.judged
    exact ⟨R,report,held,before,after,haction,hread,happroved,t,hjudged,htold.1.fresh⟩

def shellOp : ToolOp :=
  { tool := harnessTool, op := "shell/project", effect := .write, external := false, reversible := some true }

def hexDigest : String := "0123456789abcdef0123456789abcdef0123456789abcdef0123456789abcdef"

def shellBroker : BrokerRuntime where
  instanceId := "broker"
  principal := ⟨"agent","skill","owner",.B⟩
  optable := ⟨[shellOp],by decide⟩
  pip call := env (.freshFacts call)
  pipReads := reads_freshFacts
  trustMap _ := false
  envelopeHash := "envelope"
  inheritanceRequired _ m hm := by
    obtain rfl := List.mem_singleton.mp hm
    rfl
  digests := ⟨fun _ => hexDigest,fun _ => hexDigest,fun _ => hexDigest,fun _ => hexDigest⟩
  pyFloat _ := ""

def shellReport : DecisionReport :=
  ⟨"mouth","harness","shell","project","sha256:" ++ hexDigest,"sha256:" ++ hexDigest,"sha256:" ++ hexDigest⟩

def shellRequest : DecisionRequest :=
  ⟨"mouth","harness",.shell,.project,"sha256:" ++ hexDigest,"sha256:" ++ hexDigest,"sha256:" ++ hexDigest⟩

def shellId : String := shellBroker.holdIdFor shellRequest

def shellCall : BrokeredCall where
  principal := shellBroker.principal
  tool := harnessTool
  op := "shell/project"
  args := shellRequest.args
  manifest := shellOp
  taint := ⟨false,[]⟩
  session := ⟨"turn-1",[]⟩
  ts := "1970-01-01T00:00:00+00:00"

def askedAgain : Fin 3 → Action
  | 0 => .hold { call := shellCall, renderedIntent := ⟨"intent-1","shell"⟩, dedupId := some shellId, now := some 0 }
  | 1 => .reissue shellId "owner" (some 0) 0
  | 2 => .permit shellBroker shellReport

def lateInstant : Instant := 7200 * microsPerSecond

def late : Oracle memory.device
  | .env .now => (.ok lateInstant : Except Exn Instant)
  | o => memory.calm o

def answeredLate : Trace (Fin 3) × Pool (Fin 3) :=
  play memory.device (turns 0 3 ++ turns 1 2 ++ turns 2 3 ++ List.replicate 24 (2,late)) (startPool askedAgain emptyState)

def expiresAfter (t : Instant) : Trace (Fin 3) → Bool
  | ⟨_,.intents (.getIntent _),.ok (some held)⟩ :: after => held.expiry ≤ t && t ∈ readings 2 after
  | _ => true

theorem late_answer_is_permitted :
    Grants answeredLate.2 2 shellId ∧ readings 2 answeredLate.1 = [0,0,lateInstant] ∧
      ¬ Permits memory askedAgain emptyState AnsweredInTime := by
  let permitted := BrokerRuntime.permitAnswer shellRequest (some ⟨shellId,"owner",hexDigest⟩)
  have hrun : (answeredLate.2.threads 2).outcome.bind decisionOf = some permitted ∧
      readings 2 answeredLate.1 = [0,0,lateInstant] ∧ answeredLate.1.tails.all (expiresAfter lateInstant) = true := by
    decide +kernel
  obtain ⟨hanswer,hclock,hreads⟩ := hrun
  have hgrant : Grants answeredLate.2 2 shellId := grants_of_decision hanswer rfl rfl
  refine ⟨hgrant,hclock,fun hpermits => ?_⟩
  obtain ⟨R,report,held,before,after,haction,hread,-,htime⟩ := hpermits.timely _ _ 2 shellId (play_run _ _) hgrant
  cases haction
  have hlate := List.all_eq_true.mp hreads _ ((List.mem_tails _ _).mpr ⟨before,hread.symm⟩)
  simp only [expiresAfter,Bool.and_eq_true,decide_eq_true_eq] at hlate
  have hfresh : lateInstant + 0 < held.expiry := htime lateInstant hlate.2
  exact Int.not_lt.mpr hlate.1 ((Int.add_zero lateInstant).symm ▸ hfresh)

end Approval

end SafeAgents
