import SafeAgents.Approval.Pool

namespace SafeAgents

open Interleaving

namespace Approval

variable {ι : Type}

def RowShown (s : State) (id : String) (intent : Intent) : Prop :=
  ∀ item, row s id = some item → item.status = .pending → item.data = some (canonicalIntentPayload intent)

theorem RowShown.step {s s' : State} {id : String} {intent : Intent} {hmac : IntentPayload → String}
    (h : RowShown s id intent) (hstep : RowStep hmac id (row s id) (row s' id)) (hheld : ¬ Reheld id s s') :
    RowShown s' id intent := by
  intro item hrow hpending
  have hfresh : rowStatus s id = some .pending := by
    by_contra hnot
    exact hheld ⟨hnot,by simp [rowStatus,hrow,hpending]⟩
  rw [hrow] at hstep
  generalize hbefore : row s id = before at hstep
  cases hstep with
  | same r => exact h item hbefore hpending
  | held r intent hid hstatus hfree => exact absurd (by rw [← hfresh,rowStatus,hbefore]) hfree
  | moved item new approvedBy executedAt hmove => exact absurd hpending hmove.not_pending

structure Judged (i : ι) (a : Approver) (t : Instant) (intent : Intent) (tr : Trace ι) : Prop where
  instant : a.now = some t ∨ (⟨i,.env .now,.ok t⟩ : Event ι Op Op.Ret Exn) ∈ tr
  read : (⟨i,.intents (.getIntent a.intentId),.ok (some intent)⟩ : Event ι Op Op.Ret Exn) ∈ tr
  fresh : t + a.skew < intent.expiry

def Known (s : State) (i : ι) (a : Approver) (tr : Trace ι) : Stage → Prop
  | .timed t => a.now = some t ∨ (⟨i,.env .now,.ok t⟩ : Event ι Op Op.Ret Exn) ∈ tr
  | .seen t intent => Judged i a t intent tr ∧ RowShown s a.intentId intent
  | .won _ _ => ∃ e ∈ tr, e.thread = i ∧ wins a.intentId e = true
  | .ran _ _ => ∃ e ∈ tr, e.thread = i ∧ wins a.intentId e = true
  | _ => True

section Own
variable {B : Substrate} {s : State} {i : ι} {a : Approver} {tr : Trace ι} {l : Stage}

theorem known_start (s : State) (i : ι) (a : Approver) : Known s i a [] (.start (.approver a)) := by
  obtain ⟨intentId,now,skew⟩ := a
  cases now with
  | some t => exact .inl rfl
  | none => trivial

theorem known_own {o : Op} {x : Substrate.Input o} (hmay : a.may l o) (h : Known s i a tr l) :
    Known (B.perform o x s).2 i a (tr ++ [⟨i,o,(B.perform o x s).1⟩]) (a.next l o (B.perform o x s).1) := by
  have hmove := stageMove_next (i := i) (r := (B.perform o x s).1) hmay
  have hrow := rowMove_perform B s a.intentId o x
  generalize he : (⟨i,o,(B.perform o x s).1⟩ : Event ι Op Op.Ret Exn) = e at hmove ⊢
  generalize a.next l o (B.perform o x s).1 = l' at hmove ⊢
  have hlast : e ∈ tr ++ [e] := List.mem_append_right _ (List.mem_singleton.mpr rfl)
  have hreleased (hl : ∃ t intent, Released t intent l) : Known (B.perform o x s).2 i a (tr ++ [e]) l := by
    have hgrow : (∃ e ∈ tr, e.thread = i ∧ wins a.intentId e = true) →
        ∃ e' ∈ tr ++ [e], e'.thread = i ∧ wins a.intentId e' = true :=
      fun ⟨e,hmem,hwin⟩ => ⟨e,List.mem_append_left _ hmem,hwin⟩
    obtain ⟨t,intent,rfl | rfl⟩ := hl <;> exact hgrow h
  cases hmove with
  | clock t => exact .inr hlast
  | saw t intent hfresh =>
    refine ⟨⟨h.imp_right (List.mem_append_left _),hlast,isExpired_false hfresh⟩,fun item hitem hpending => ?_⟩
    obtain ⟨item',hitem',-,hdata,-⟩ := read_row he
    simp only [Event.mk.injEq,true_and] at he
    obtain ⟨rfl,-⟩ := he
    rw [hitem,hitem'] at hrow
    cases hrow with
    | same => exact hdata
    | held r intent hid hfree ho => cases ho
    | moved item expected new approvedBy executedAt hstatus ho => cases ho
  | took t intent approvedBy executedAt => exact ⟨_,hlast,rfl,by simp [wins]⟩
  | released t intent r => exact hreleased ⟨t,intent,.inl rfl⟩
  | stamped l at_ hl => exact hreleased hl
  | _ => trivial

theorem Known.other {s s' : State} {e : Event ι Op Op.Ret Exn} (h : Known s i a tr l)
    (hrow : ∀ t intent, l = .seen t intent → RowShown s a.intentId intent → RowShown s' a.intentId intent) :
    Known s' i a (tr ++ [e]) l := by
  have hgrow {P : Event ι Op Op.Ret Exn → Prop} : (∃ e ∈ tr, P e) → ∃ e' ∈ tr ++ [e], P e' :=
    fun ⟨e,he,hP⟩ => ⟨e,List.mem_append_left _ he,hP⟩
  cases l with
  | timed t => exact Or.imp_right (List.mem_append_left _) h
  | seen t intent =>
    obtain ⟨⟨hinstant,hread,hfresh⟩,hshown⟩ := h
    exact ⟨⟨hinstant.imp_right (List.mem_append_left _),List.mem_append_left _ hread,hfresh⟩,hrow t intent rfl hshown⟩
  | won t intent => exact hgrow h
  | ran t intent => exact hgrow h
  | _ => trivial

end Own

def Fixed (t : Instant) (intent : Intent) (l : Stage) : Prop :=
  l = .won t intent ∨ l = .ran t intent ∨ (∃ recorded, l = .closed recorded) ∨ l = .dropped

theorem Fixed.next {a : Approver} {t : Instant} {intent : Intent} {i : ι} {l l' : Stage} {e : Event ι Op Op.Ret Exn}
    (hmove : StageMove a i l e l') (h : Fixed t intent l) : Fixed t intent l' := by
  cases hmove with
  | released t' intent' r =>
    rcases h with h | h | ⟨recorded,h⟩ | h <;> cases h
    exact .inr (.inl rfl)
  | stamped l at_ hl => exact h
  | raised t' intent' e => exact .inr (.inr (.inr rfl))
  | unstamped l e hl => exact .inr (.inr (.inr rfl))
  | recorded l approvedBy executedAt won hl => exact .inr (.inr (.inl ⟨won,rfl⟩))
  | dropped l new approvedBy executedAt r hl => exact .inr (.inr (.inr rfl))
  | _ => rcases h with h | h | ⟨recorded,h⟩ | h <;> cases h

theorem Fixed.released {a : Approver} {t : Instant} {intent : Intent} {l : Stage} {call : BrokeredCall}
    (h : Fixed t intent l) (hmay : a.may l (.env (.release call))) : call = intent.materializedRequest := by
  obtain ⟨t',intent',rfl,rfl⟩ := hmay
  rcases h with h | h | ⟨recorded,h⟩ | h <;> cases h
  rfl

def Sees (actions : ι → Action) (s : State) (l : ι → Stage) (tr : Trace ι) : Prop :=
  ∀ i a, (actions i).role = .approver a → Known s i a tr (l i)

variable {B : Substrate} {actions : ι → Action}

theorem seen_aboutToTake {l : ι → Stage} {c : Pool ι} (hk : Staged actions l c) {i : ι} {a : Approver}
    (hrole : (actions i).role = .approver a) {t : Instant} {intent : Intent} (hl : l i = .seen t intent) :
    AboutToTake actions c a.intentId := by
  have hthread := hk i
  rw [contracts_approver hrole,reports,hrole,hl] at hthread
  exact ⟨i,a,hrole,seen_head hthread⟩

theorem sees_start (actions : ι → Action) (s : State) : Sees actions s (starts actions) [] := by
  intro i a hrole
  rw [starts,hrole]
  exact known_start s i a

def holdCheck (approvers : List ι) (c : Pool ι) (_ : Event ι Op Op.Ret Exn) (c' : Pool ι) : Bool :=
  approvers.all fun i =>
    match (c.threads i).head with
    | some (.intents (.transitionStatus id .pending .approved _ _)) =>
      decide (rowStatus c.state id = some .pending) || decide (rowStatus c'.state id ≠ some .pending)
    | _ => true

theorem holdCheck_sound {actions : ι → Action} {approvers : List ι}
    (happrovers : ∀ i a, (actions i).role = .approver a → i ∈ approvers) (c : Pool ι) (e : Event ι Op Op.Ret Exn)
    (c' : Pool ι) (h : holdCheck approvers c e c' = true) : noHoldDuringApproval actions c e c' := by
  rintro id ⟨i,a,hrole,o,ho,htakes⟩ ⟨hfree,hheld⟩
  have hcheck := List.all_eq_true.mp h i (happrovers i a hrole)
  unfold takes at htakes
  split at htakes
  · rw [Option.mem_def] at ho
    simp only [decide_eq_true_eq] at htakes
    subst htakes
    simp [ho,hfree,hheld] at hcheck
  · cases htakes

variable [DecidableEq ι]

theorem sees_preserved :
    Preserved B.device (noHoldDuringApproval actions) (contracts actions) (reports actions) (Sees actions) where
  heard c l tr i o x _ _ _ := by
    unfold contracts stageContract
    split <;> trivial
  next c l tr i o k x hth hg hk hi hmay := by
    intro j a hrole
    by_cases hj : j = i
    · subst hj
      rw [contracts_approver hrole] at hmay ⊢
      rw [Function.update_self]
      exact known_own hmay (hi j a hrole)
    · rw [Function.update_of_ne hj]
      refine (hi j a hrole).other fun t intent hl hshown => ?_
      exact hshown.step (rowStep_perform x hmay) (hg _ (seen_aboutToTake hk hrole hl))

section Runs
variable {s : State} {c c' c'' : Pool ι} {tr tr' : Trace ι} {e : Event ι Op Op.Ret Exn} {id : String}

theorem run_sees (h : Run B.device (noHoldDuringApproval actions) (startPool actions s) tr c) :
    Staged actions (stageAfter actions tr) c ∧ Sees actions c.state (stageAfter actions tr) tr := by
  exact h.staged_from_start sees_preserved (staged_start actions s) (sees_start actions s)

theorem wins_shown (h : Run B.device (noHoldDuringApproval actions) (startPool actions s) tr c)
    (hs : Step B.device c e c') (hwin : wins id e = true) {a : Approver} (hrole : (actions e.thread).role = .approver a) :
    a.intentId = id ∧ ∃ t intent item, stageAfter actions (tr ++ [e]) e.thread = .won t intent ∧
      Judged e.thread a t intent tr ∧ row c.state id = some item ∧ item.status = .pending ∧
      item.data = some (canonicalIntentPayload intent) := by
  obtain ⟨hk,hi⟩ := run_sees h
  obtain ⟨rfl,t,intent,hseen,hwon⟩ := wins_stage hk hs hwin hrole
  obtain ⟨item,-,-,hrow,hpending,-⟩ := step_wins_row hs hwin
  have hknown := hi e.thread a hrole
  rw [hseen] at hknown
  refine ⟨rfl,t,intent,item,?_,hknown.1,hrow,hpending,hknown.2 item hrow hpending⟩
  rw [stageAfter,stages_concat]
  exact hwon

theorem release_stage (h : Run B.device (noHoldDuringApproval actions) (startPool actions s) (tr ++ e :: tr') c)
    {call : BrokeredCall} (hop : e.op = .env (.release call)) :
    ∃ a, (actions e.thread).role = .approver a ∧ a.may (stageAfter actions tr e.thread) (.env (.release call)) := by
  have hmay := h.may_at sees_preserved (staged_start actions s) (sees_start actions s)
  rw [hop] at hmay
  cases hrole : (actions e.thread).role with
  | approver a =>
    rw [contracts_approver hrole] at hmay
    exact ⟨a,rfl,hmay⟩
  | bystander permits =>
    rw [contracts,hrole] at hmay
    exact hmay.elim

theorem release_claimed (h : Run B.device (noHoldDuringApproval actions) (startPool actions s) (tr ++ e :: tr') c)
    {call : BrokeredCall} (hop : e.op = .env (.release call)) :
    ∃ a, (actions e.thread).role = .approver a ∧ ∃ e' ∈ tr, e'.thread = e.thread ∧ wins a.intentId e' = true := by
  obtain ⟨a,hrole,t,intent,hl,-⟩ := release_stage h hop
  obtain ⟨c₁,c₂,h₁,-,-,-⟩ := h.split rfl
  have hknown := (run_sees h₁).2 e.thread a hrole
  rw [hl] at hknown
  exact ⟨a,hrole,hknown⟩

theorem release_shown (h : Run B.device (noHoldDuringApproval actions) (startPool actions s) tr c)
    (hs : Step B.device c e c') (hg : noHoldDuringApproval actions c e c')
    (h' : Run B.device (noHoldDuringApproval actions) c' tr' c'') (hwin : wins id e = true)
    {call : BrokeredCall} {r : Except Exn ConnectorResult}
    (hmem : (⟨e.thread,.env (.release call),r⟩ : Event ι Op Op.Ret Exn) ∈ tr') :
    ∃ a t intent item, (actions e.thread).role = .approver a ∧ Judged e.thread a t intent tr ∧ a.intentId = id ∧
      row c.state id = some item ∧ item.status = .pending ∧ item.data = some (canonicalIntentPayload intent) ∧
      call = intent.materializedRequest := by
  obtain ⟨tr₁,tr₂,rfl⟩ := List.append_of_mem hmem
  have hrun := (h.step hs hg).trans h'
  rw [← List.append_assoc] at hrun
  obtain ⟨a,hrole,hmay⟩ := release_stage hrun rfl
  obtain ⟨hid,t,intent,item,hwon,hjudged,hrow,hpending,hdata⟩ := wins_shown h hs hwin hrole
  refine ⟨a,t,intent,item,hrole,hjudged,hid,hrow,hpending,hdata,?_⟩
  have hfixed : Fixed t intent (stageAfter actions (tr ++ [e] ++ tr₁) e.thread) := by
    obtain ⟨hk,hi⟩ := run_sees (h.step hs hg)
    obtain ⟨c₁,c₂,h₁,-,-,-⟩ := h'.split rfl
    rw [stageAfter,stages_append]
    refine h₁.stage_induct sees_preserved hk hi (fun l o r hmay hl => ?_) (.inl hwon)
    rw [contracts_approver hrole] at hmay ⊢
    exact hl.next (stageMove_next (i := e.thread) hmay)
  exact hfixed.released hmay

end Runs

structure WhatYouSee (B : Substrate) (G : Guard ι Op Op.Ret Exn State Result) (actions : ι → Action) (s : State) :
    Prop where
  claimed : ∀ tr e tr' c, Run B.device G (startPool actions s) (tr ++ e :: tr') c → releases e = true →
    ∃ id, ∃ e' ∈ tr, e'.thread = e.thread ∧ wins id e' = true
  shown : ∀ tr c e c' tr' c'', Run B.device G (startPool actions s) tr c → Step B.device c e c' → G c e c' →
    Run B.device G c' tr' c'' → ∀ id, wins id e = true →
    ∀ call r, (⟨e.thread,.env (.release call),r⟩ : Event ι Op Op.Ret Exn) ∈ tr' →
    ∃ intent item, (⟨e.thread,.intents (.getIntent id),.ok (some intent)⟩ : Event ι Op Op.Ret Exn) ∈ tr ∧
      row c.state id = some item ∧ item.data = some (canonicalIntentPayload intent) ∧
      call = intent.materializedRequest

theorem approve_runs_what_it_shows (B : Substrate) (actions : ι → Action) (s : State) :
    WhatYouSee B (noHoldDuringApproval actions) actions s where
  claimed tr e tr' c h hrel := by
    obtain ⟨call,hop⟩ := releases_iff.mp hrel
    obtain ⟨a,-,hclaimed⟩ := release_claimed h hop
    exact ⟨a.intentId,hclaimed⟩
  shown tr c e c' tr' c'' h hs hg h' id hwin call r hmem := by
    obtain ⟨a,t,intent,item,-,hjudged,rfl,hrow,-,hdata,hcall⟩ := release_shown h hs hg h' hwin hmem
    exact ⟨intent,item,hjudged.read,hrow,hdata,hcall⟩

def heldCall (turnId ts : String) : BrokeredCall where
  principal := ⟨"agent","skill","owner",.B⟩
  tool := "payments"
  op := "transfer"
  args := .obj [("amount",.num "5")]
  manifest := { tool := "payments", op := "transfer", effect := .write, external := true, reversible := some true }
  taint := ⟨false,[]⟩
  session := ⟨turnId,[]⟩
  ts := ts

def dedupId : String := "intent-dedup-0123456789abcdef"

def holdOf (turnId ts : String) (now : Instant) : Hold where
  call := heldCall turnId ts
  renderedIntent := ⟨"intent-1","payments.transfer 5"⟩
  dedupId := some dedupId
  now := some now

def heldTwice : Fin 4 → Action
  | 0 => .hold (holdOf "turn-1" "1970-01-01T00:00:00+00:00" 0)
  | 1 => .approve dedupId "owner" true (some 1000000) 0
  | 2 => .reject dedupId "owner" (some 2000000)
  | 3 => .hold (holdOf "turn-2" "1970-01-01T00:00:03+00:00" 3000000)

theorem heldTwice_approvers (i : Fin 4) (a : Approver) (h : (heldTwice i).role = .approver a) : i ∈ [1] := by
  match i with
  | 0 => cases h
  | 1 => decide
  | 2 => cases h
  | 3 => cases h

def inTurn : Trace (Fin 4) × Pool (Fin 4) :=
  play memory.device (turns 0 3 ++ turns 1 1) (startPool heldTwice emptyState)

def taken : Trace (Fin 4) × Pool (Fin 4) := play memory.device (turns 1 1) inTurn.2

def released : Trace (Fin 4) × Pool (Fin 4) := play memory.device (turns 1 3 ++ turns 2 3 ++ turns 3 3) taken.2

theorem approve_runs_what_it_shows_in_turn :
    ∃ intent item, (⟨1,.intents (.getIntent dedupId),.ok (some intent)⟩ : Event (Fin 4) Op Op.Ret Exn) ∈ inTurn.1 ∧
      row inTurn.2.state dedupId = some item ∧ item.data = some (canonicalIntentPayload intent) ∧
      heldCall "turn-1" "1970-01-01T00:00:00+00:00" = intent.materializedRequest := by
  have before := play_checked (holdCheck_sound heldTwice_approvers) (turns 0 3 ++ turns 1 1) (startPool heldTwice emptyState)
    (by decide)
  have after := play_checked (holdCheck_sound heldTwice_approvers) (turns 1 3 ++ turns 2 3 ++ turns 3 3) taken.2 (by decide)
  have htaken : Step memory.device inTurn.2
      ⟨1,.intents (.transitionStatus dedupId .pending .approved (some "owner") none),.ok true⟩ taken.2 := play_step rfl
  exact (approve_runs_what_it_shows memory heldTwice emptyState).shown _ _ _ _ _ _ before htaken
    (holdCheck_sound heldTwice_approvers _ _ _ (by decide)) after dedupId (by decide) _ (.ok .none) List.mem_cons_self

def beforeTaking : Trace (Fin 4) × Pool (Fin 4) :=
  play memory.device (turns 0 3 ++ turns 1 1 ++ turns 2 2 ++ turns 3 3) (startPool heldTwice emptyState)

def taking : Trace (Fin 4) × Pool (Fin 4) := play memory.device (turns 1 1) beforeTaking.2

def afterTaking : Trace (Fin 4) × Pool (Fin 4) := play memory.device (turns 1 3) taking.2

theorem reheld_intent_runs_another_call :
    (⟨1,.env (.release (heldCall "turn-1" "1970-01-01T00:00:00+00:00")),.ok .none⟩ : Event (Fin 4) Op Op.Ret Exn) ∈
        afterTaking.1 ∧
      ((row beforeTaking.2.state dedupId).bind IntentItem.data).map IntentPayload.materializedRequest =
        some (heldCall "turn-2" "1970-01-01T00:00:03+00:00") ∧
      ¬ WhatYouSee memory anyStep heldTwice emptyState := by
  have hrow : ((row beforeTaking.2.state dedupId).bind IntentItem.data).map IntentPayload.materializedRequest =
      some (heldCall "turn-2" "1970-01-01T00:00:03+00:00") := rfl
  have hmem : (⟨1,.env (.release (heldCall "turn-1" "1970-01-01T00:00:00+00:00")),.ok .none⟩ :
      Event (Fin 4) Op Op.Ret Exn) ∈ afterTaking.1 := List.mem_cons_self
  refine ⟨hmem,hrow,fun hsees => ?_⟩
  have htaking : Step memory.device beforeTaking.2
      ⟨1,.intents (.transitionStatus dedupId .pending .approved (some "owner") none),.ok true⟩ taking.2 := play_step rfl
  obtain ⟨intent,item,-,hitem,hdata,hcall⟩ := hsees.shown _ _ _ _ _ _ (play_run _ _) htaking trivial (play_run _ _)
    dedupId (by decide) _ _ hmem
  rw [show row beforeTaking.2.state dedupId = some item from hitem] at hrow
  simp only [Option.bind_some,hdata,Option.map_some,canonicalIntentPayload,← hcall] at hrow
  exact absurd (congrArg BrokeredCall.ts (Option.some.inj hrow)) (by decide)

end Approval

end SafeAgents
