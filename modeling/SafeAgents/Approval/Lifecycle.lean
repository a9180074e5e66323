import SafeAgents.Approval.WhatYouSee

namespace SafeAgents

open Interleaving

namespace Approval

variable {ι : Type}

namespace Stage

def Early : Stage → Prop
  | idle => True
  | timed _ => True
  | _ => False

def Fresh : Stage → Prop
  | idle => True
  | timed _ => True
  | seen _ _ => True
  | _ => False

def Took : Stage → Prop
  | won _ _ => True
  | ran _ _ => True
  | closed _ => True
  | dropped => True
  | _ => False

def Ran : Stage → Prop
  | ran _ _ => True
  | closed _ => True
  | dropped => True
  | _ => False

theorem Ran.took {l : Stage} (h : l.Ran) : l.Took := by
  cases l <;> trivial

theorem seen_of_fresh {l : Stage} (h : l.Fresh) (hlate : ¬ l.Early) : ∃ t intent, l = .seen t intent := by
  cases l with
  | idle => exact absurd trivial hlate
  | timed t => exact absurd trivial hlate
  | seen t intent => exact ⟨t,intent,rfl⟩
  | _ => exact h.elim

end Stage

theorem Released.took {t : Instant} {intent : Intent} {l : Stage} (h : Released t intent l) : l.Took := by
  rcases h with rfl | rfl <;> trivial

section Moves
variable {a : Approver} {i : ι} {l l' : Stage} {e : Event ι Op Op.Ret Exn}

theorem fresh_of_move (h : StageMove a i l e l') (hl : l'.Fresh) : l.Fresh := by
  cases h with
  | stamped l at_ hreleased => exact hl
  | clock t => trivial
  | saw t intent hfresh => trivial
  | _ => exact hl.elim

theorem early_of_move (h : StageMove a i l e l') (hl : l'.Early) : l.Early := by
  cases h with
  | stamped l at_ hreleased => exact hl
  | clock t => trivial
  | _ => exact hl.elim

theorem took_of_move (h : StageMove a i l e l') (hl : l'.Took) :
    l.Took ∨ ((∃ t intent, l = .seen t intent) ∧ wins a.intentId e = true) := by
  cases h with
  | took t intent approvedBy executedAt => exact .inr ⟨⟨t,intent,rfl⟩,by simp [wins]⟩
  | released t intent r => exact .inl trivial
  | raised t intent e => exact .inl trivial
  | stamped l at_ hreleased => exact .inl hl
  | unstamped l e hreleased =>
    obtain ⟨t,intent,hreleased⟩ := hreleased
    exact .inl hreleased.took
  | recorded l approvedBy executedAt won hreleased =>
    obtain ⟨t,intent,hreleased⟩ := hreleased
    exact .inl hreleased.took
  | dropped l new approvedBy executedAt r hreleased =>
    obtain ⟨t,intent,hreleased⟩ := hreleased
    exact .inl hreleased.took
  | _ => exact hl.elim

theorem took_move (h : StageMove a i l e l') (hl : l.Took) : l'.Took := by
  cases h with
  | stamped l at_ hreleased => exact hl
  | unstamped l e hreleased => trivial
  | released t intent r => trivial
  | raised t intent e => trivial
  | recorded l approvedBy executedAt won hreleased => trivial
  | dropped l new approvedBy executedAt r hreleased => trivial
  | _ => exact hl.elim

theorem ran_move (h : StageMove a i l e l') (hl : l.Ran) : l'.Ran ∧ releases e = false := by
  cases h with
  | stamped l at_ hreleased => exact ⟨hl,rfl⟩
  | unstamped l e hreleased => exact ⟨trivial,rfl⟩
  | recorded l approvedBy executedAt won hreleased => exact ⟨trivial,rfl⟩
  | dropped l new approvedBy executedAt r hreleased => exact ⟨trivial,rfl⟩
  | _ => exact hl.elim

theorem ran_of_releases (h : StageMove a i l e l') (he : releases e = true) : l'.Ran := by
  cases h with
  | released t intent r => trivial
  | raised t intent e => trivial
  | _ => cases he

theorem reads_move {id : String} (h : StageMove a i l e l') (he : reads id e = true) :
    a.intentId = id ∧ ¬ l.Took ∧ ¬ l'.Early := by
  cases h with
  | saw t intent hfresh => exact ⟨by simpa [reads] using he,fun h => h,fun h => h⟩
  | missed t r =>
    refine ⟨?_,fun h => h,fun h => h⟩
    obtain ⟨intent,hevent⟩ := reads_iff.mp he
    simp only [Event.mk.injEq,Op.intents.injEq,IntentOp.getIntent.injEq,true_and] at hevent
    exact hevent.1
  | reread r =>
    refine ⟨?_,fun h => h,fun h => h⟩
    obtain ⟨intent,hevent⟩ := reads_iff.mp he
    simp only [Event.mk.injEq,Op.intents.injEq,IntentOp.getIntent.injEq,true_and] at hevent
    exact hevent.1
  | _ => cases he

end Moves

theorem bystander_silent {actions : ι → Action} {i : ι} {l : Stage} {o : Op} {r : Except Exn o.Ret} {permits : Bool}
    (hrole : (actions i).role = .bystander permits) (hmay : (contracts actions i).may l o) :
    (contracts actions i).next l o r = l ∧ releases (⟨i,o,r⟩ : Event ι Op Op.Ret Exn) = false := by
  rw [contracts,hrole] at hmay ⊢
  refine ⟨rfl,?_⟩
  by_contra h
  obtain ⟨call,ho⟩ := releases_iff.mp (by simpa using h)
  obtain rfl : o = .env (.release call) := ho
  exact hmay

theorem rest_step {actions : ι → Action} {mine : ι → Prop} {late : Prop} {id : String} {c c' : Pool ι} {l : ι → Stage} (hk : Staged actions l c)
    (hmine : ∀ i, mine i → ∃ a, (actions i).role = .approver a ∧ a.intentId = id)
    (hcalm : ∀ id, AboutToTake actions c id → ¬ Reheld id c.state c'.state)
    (hlate : late ∨ ¬ Reheld id c.state c'.state) (hpast : late → ∀ i, mine i → ¬ (l i).Early) {j : ι} (hj : mine j)
    (hfresh : (l j).Fresh) (hrest : rowStatus c.state id ≠ some .pending) : rowStatus c'.state id ≠ some .pending := by
  intro hpending
  rcases hlate with hlate | hnever
  · obtain ⟨a,hrole,rfl⟩ := hmine j hj
    obtain ⟨t,intent,hl⟩ := Stage.seen_of_fresh hfresh (hpast hlate j hj)
    exact hcalm _ (seen_aboutToTake hk hrole hl) ⟨hrest,hpending⟩
  · exact hnever ⟨hrest,hpending⟩

section Taking
variable [DecidableEq ι]

def releasesBy (i : ι) (tr : Trace ι) : Nat := tr.countP fun e => decide (e.thread = i) && releases e

structure Once (mine : ι → Prop) (late : Prop) (id : String) (s : State) (l : ι → Stage) (tr : Trace ι) : Prop where
  one : ∀ i j, mine i → mine j → (l i).Took → (l j).Took → i = j
  rest : ∀ i j, mine i → mine j → (l i).Took → (l j).Fresh → rowStatus s id ≠ some .pending
  past : late → ∀ i, mine i → ¬ (l i).Early
  counted : ∀ i, releasesBy i tr = 0 ∨ (releasesBy i tr = 1 ∧ (l i).Ran)

variable {B : Substrate} {actions : ι → Action} {G : Guard ι Op Op.Ret Exn State Result} {mine : ι → Prop}
  {late : Prop} {id : String}

theorem releasesBy_concat (i : ι) (tr : Trace ι) (e : Event ι Op Op.Ret Exn) :
    releasesBy i (tr ++ [e]) = releasesBy i tr + if e.thread = i ∧ releases e = true then 1 else 0 := by
  simp [releasesBy,List.countP_append,List.countP_singleton]

theorem counted_step {l : ι → Stage} {tr : Trace ι} {i : ι} {o : Op} {r : Except Exn o.Ret}
    (h : ∀ i, releasesBy i tr = 0 ∨ (releasesBy i tr = 1 ∧ (l i).Ran)) (hmay : (contracts actions i).may (l i) o) (j : ι) :
    releasesBy j (tr ++ [⟨i,o,r⟩]) = 0 ∨ (releasesBy j (tr ++ [⟨i,o,r⟩]) = 1 ∧
      (Function.update l i ((contracts actions i).next (l i) o r) j).Ran) := by
  rw [releasesBy_concat]
  by_cases hj : j = i
  · subst hj
    rw [Function.update_self]
    cases hrole : (actions j).role with
    | bystander permits =>
      obtain ⟨hstage,hquiet⟩ := bystander_silent (r := r) hrole hmay
      simpa [hstage,hquiet] using h j
    | approver a =>
      rw [contracts_approver hrole] at hmay ⊢
      have hmove := stageMove_next (i := j) (r := r) hmay
      rcases h j with hzero | ⟨hone,hran⟩
      · by_cases hrel : releases (⟨j,o,r⟩ : Event ι Op Op.Ret Exn) = true
        · exact .inr ⟨by simp [hzero,hrel],ran_of_releases hmove hrel⟩
        · exact .inl (by simp [hzero,hrel])
      · obtain ⟨hran',hquiet⟩ := ran_move hmove hran
        exact .inr ⟨by simp [hone,hquiet],hran'⟩
  · rw [Function.update_of_ne hj]
    simpa [Ne.symm hj] using h j

theorem once_preserved (hmine : ∀ i, mine i → ∃ a, (actions i).role = .approver a ∧ a.intentId = id)
    (hG : ∀ c e c', G c e c' → noHoldDuringApproval actions c e c' ∧ (late ∨ ¬ Reheld id c.state c'.state)) :
    Preserved B.device G (contracts actions) (reports actions) (Once mine late id) where
  heard c l tr i o x _ _ _ := by
    unfold contracts stageContract
    split <;> trivial
  next c l tr i o k x hth hg hk hi hmay := by
    obtain ⟨hcalm,hlate⟩ := hG _ _ _ hg
    have hmove (hj : mine i) : ∃ a, a.intentId = id ∧ StageMove a i (l i) ⟨i,o,(B.perform o x c.state).1⟩
        ((contracts actions i).next (l i) o (B.perform o x c.state).1) := by
      obtain ⟨a,hrole,hid⟩ := hmine i hj
      rw [contracts_approver hrole] at hmay ⊢
      exact ⟨a,hid,stageMove_next hmay⟩
    have hfresh (j : ι) (hj : mine j) : (Function.update l i ((contracts actions i).next (l i) o
        (B.perform o x c.state).1) j).Fresh → (l j).Fresh := by
      by_cases hji : j = i
      · subst hji
        obtain ⟨a,-,hm⟩ := hmove hj
        simpa using fresh_of_move hm
      · simp [Function.update_of_ne hji]
    have htook (j : ι) (hj : mine j) : (Function.update l i ((contracts actions i).next (l i) o
        (B.perform o x c.state).1) j).Took → (l j).Took ∨ (l j).Fresh ∧ j = i ∧
          wins id (⟨i,o,(B.perform o x c.state).1⟩ : Event ι Op Op.Ret Exn) = true := by
      by_cases hji : j = i
      · subst hji
        obtain ⟨a,rfl,hm⟩ := hmove hj
        rw [Function.update_self]
        intro h
        refine (took_of_move hm h).imp_right fun hnew => ?_
        obtain ⟨⟨t,intent,hl⟩,hwin⟩ := hnew
        exact ⟨by rw [hl]; trivial,rfl,hwin⟩
      · exact fun h => .inl (by simpa [Function.update_of_ne hji] using h)
    refine ⟨fun i₁ i₂ h₁ h₂ ht₁ ht₂ => ?_,fun i₁ i₂ h₁ h₂ ht hf => ?_,fun hl j hj => ?_,counted_step hi.counted hmay⟩
    · have hopen (hwin : wins id (⟨i,o,(B.perform o x c.state).1⟩ : Event ι Op Op.Ret Exn) = true) :
          rowStatus c.state id = some .pending := by
        obtain ⟨item,-,-,hrow,hpending,-⟩ := wins_row hwin
        simp [rowStatus,hrow,hpending]
      rcases htook i₁ h₁ ht₁ with old₁ | ⟨hf₁,he₁,hwin⟩
      · rcases htook i₂ h₂ ht₂ with old₂ | ⟨hf₂,-,hwin⟩
        · exact hi.one i₁ i₂ h₁ h₂ old₁ old₂
        · exact absurd (hopen hwin) (hi.rest i₁ i₂ h₁ h₂ old₁ hf₂)
      · rcases htook i₂ h₂ ht₂ with old₂ | ⟨-,he₂,-⟩
        · exact absurd (hopen hwin) (hi.rest i₂ i₁ h₂ h₁ old₂ hf₁)
        · exact he₁.trans he₂.symm
    · rcases htook i₁ h₁ ht with old | ⟨-,-,hwin⟩
      · exact rest_step hk hmine hcalm hlate hi.past h₂ (hfresh i₂ h₂ hf) (hi.rest i₁ i₂ h₁ h₂ old (hfresh i₂ h₂ hf))
      · obtain ⟨item,approvedBy,executedAt,-,-,hrow⟩ := wins_row hwin
        have hstatus : rowStatus (B.perform o x c.state).2 id = some .approved := by
          simp [rowStatus,hrow,IntentOp.transitioned]
        exact fun hpending => by cases hstatus.symm.trans hpending
    · by_cases hji : j = i
      · subst hji
        obtain ⟨a,-,hm⟩ := hmove hj
        rw [Function.update_self]
        exact fun h => hi.past hl j hj (early_of_move hm h)
      · rw [Function.update_of_ne hji]
        exact hi.past hl j hj

end Taking

inductive Settled : IntentStatus → Prop
  | rejected : Settled .rejected
  | expired : Settled .expired
  | executed : Settled .executed
  | permitted : Settled .permitted
  | refused : Settled .refused

theorem settled_step {B : Substrate} {id : String} {c c' : Pool ι} {status : IntentStatus}
    (hsettled : Settled status) (hstep : RowStep B.hmac id (row c.state id) (row c'.state id))
    (hsame : ¬ Reheld id c.state c'.state)
    (h : rowStatus c.state id = some status ∨ (status = .permitted ∧ rowStatus c.state id = some .refused)) :
    rowStatus c'.state id = some status ∨ (status = .permitted ∧ rowStatus c'.state id = some .refused) := by
  simp only [rowStatus,Reheld] at h hsame ⊢
  generalize row c.state id = before at hstep h hsame
  generalize row c'.state id = after at hstep hsame ⊢
  cases hstep with
  | same r => exact h
  | held r intent hid hpending hfree => exact absurd ⟨hfree,by simp [intentItemAttrs,hpending]⟩ hsame
  | moved item new approvedBy executedAt hmove =>
    simp only [Option.map_some,Option.some.injEq] at h ⊢
    rcases h with h | ⟨hpermitted,h⟩
    · rw [h] at hmove
      cases hsettled <;> cases hmove
      exact .inr ⟨rfl,rfl⟩
    · rw [h] at hmove
      cases hmove

variable [DecidableEq ι] {B : Substrate} {actions : ι → Action} {s : State} {id : String}

def sameHold (G : Guard ι Op Op.Ret Exn State Result) (id : String) : Guard ι Op Op.Ret Exn State Result :=
  fun c e c' => G c e c' ∧ ¬ Reheld id c.state c'.state

def readBy (id : String) (i : ι) (tr : Trace ι) : Bool := tr.any fun e => decide (e.thread = i) && reads id e

def executions (id : String) (held rest : Trace ι) : Nat :=
  (held ++ rest).countP fun e => releases e && readBy id e.thread held

structure Lifecycle (B : Substrate) (G : Guard ι Op Op.Ret Exn State Result) (actions : ι → Action) (s : State) :
    Prop where
  once : ∀ tr c held c' rest c'' id, Run B.device G (startPool actions s) tr c →
    Run B.device (sameHold G id) c held c' → Run B.device G c' rest c'' → executions id held rest ≤ 1
  settled : ∀ tr c held c' id status, Run B.device G (startPool actions s) tr c →
    Run B.device (sameHold G id) c held c' → Settled status → rowStatus c.state id = some status →
    rowStatus c'.state id = some status ∨ (status = .permitted ∧ rowStatus c'.state id = some .refused)
  moves : ∀ tr c e c' id, Run B.device G (startPool actions s) tr c → Step B.device c e c' → G c e c' →
    RowStep B.hmac id (row c.state id) (row c'.state id)
  claimed : ∀ tr e tr' c, Run B.device G (startPool actions s) (tr ++ e :: tr') c → releases e = true →
    ∃ id, ∃ e' ∈ tr, e'.thread = e.thread ∧ wins id e' = true
  fresh : ∀ tr c e c' tr' c'' id call r, Run B.device G (startPool actions s) tr c → Step B.device c e c' →
    G c e c' → Run B.device G c' tr' c'' → wins id e = true →
    (⟨e.thread,.env (.release call),r⟩ : Event ι Op Op.Ret Exn) ∈ tr' →
    ∃ a t intent item, (actions e.thread).role = .approver a ∧ Judged e.thread a t intent tr ∧
      row c.state id = some item ∧ item.data = some (canonicalIntentPayload intent)

section Rows
variable {c c' : Pool ι} {tr held : Trace ι} {e : Event ι Op Op.Ret Exn} {status : IntentStatus}

theorem settled_run {G : Guard ι Op Op.Ret Exn State Result} (h : Run B.device G (startPool actions s) tr c)
    (hheld : Run B.device (sameHold G id) c held c') (hsettled : Settled status)
    (hstatus : rowStatus c.state id = some status) :
    rowStatus c'.state id = some status ∨ (status = .permitted ∧ rowStatus c'.state id = some .refused) := by
  induction hheld with
  | refl => exact .inl hstatus
  | step hrun hs hg ih =>
    have hprefix := h.trans (hrun.mono fun _ _ _ hg => hg.1)
    exact settled_step hsettled (rowStep_step id (run_staged hprefix) hs) hg.2 ih

end Rows

section Executions
variable {c c' c'' : Pool ι} {tr held rest : Trace ι}

def Reader (actions : ι → Action) (id : String) (held : Trace ι) (i : ι) : Prop :=
  (∃ a, (actions i).role = .approver a ∧ a.intentId = id) ∧ readBy id i held = true

theorem readBy_iff {i : ι} {tr : Trace ι} : readBy id i tr = true ↔ ∃ e ∈ tr, e.thread = i ∧ reads id e = true := by
  simp [readBy]

theorem reader_stage (h : Run B.device (noHoldDuringApproval actions) (startPool actions s) tr c)
    (hheld : Run B.device (noHoldDuringApproval actions) c held c') {i : ι} {a : Approver}
    (hrole : (actions i).role = .approver a) (hread : readBy id i held = true) :
    a.intentId = id ∧ ¬ (stageAfter actions tr i).Took ∧ ¬ (stageAfter actions (tr ++ held) i).Early := by
  obtain ⟨e,hmem,rfl,hreads⟩ := readBy_iff.mp hread
  obtain ⟨before,after,rfl⟩ := List.append_of_mem hmem
  obtain ⟨c₁,c₂,h₁,hs,hg,h₂⟩ := hheld.split rfl
  have hthere := h.trans h₁
  obtain ⟨hk,hi⟩ := run_sees h
  obtain ⟨hk₁,hi₁⟩ := run_sees hthere
  have hmay := hk₁.may_of_step hs
  rw [contracts_approver hrole] at hmay
  obtain ⟨hid,hfresh,hlate⟩ := reads_move (stageMove_next (i := e.thread) (r := e.reply) hmay) hreads
  refine ⟨hid,fun htook => hfresh ?_,?_⟩
  · rw [stageAfter,stages_append]
    refine h₁.stage_induct sees_preserved hk hi (fun l o r hmay hl => ?_) htook
    rw [contracts_approver hrole] at hmay ⊢
    exact took_move (stageMove_next (i := e.thread) hmay) hl
  · obtain ⟨hk₂,hi₂⟩ := run_sees (hthere.step hs hg)
    have hsplit : tr ++ (before ++ e :: after) = tr ++ before ++ [e] ++ after := by simp
    rw [hsplit,stageAfter,stages_append]
    refine h₂.stage_induct sees_preserved hk₂ hi₂ (P := fun l => ¬ l.Early) (fun l o r hmay hl => ?_) ?_
    · rw [contracts_approver hrole] at hmay ⊢
      exact fun h => hl (early_of_move (stageMove_next (i := e.thread) hmay) h)
    · rw [stageAfter,stages_concat,advanceStage,Function.update_self,contracts_approver hrole]
      exact hlate

theorem once_run (h : Run B.device (noHoldDuringApproval actions) (startPool actions s) tr c)
    (hheld : Run B.device (sameHold (noHoldDuringApproval actions) id) c held c')
    (hrest : Run B.device (noHoldDuringApproval actions) c' rest c'') :
    Once (Reader actions id held) True id c''.state (stageAfter actions (tr ++ held ++ rest)) (held ++ rest) := by
  have hany : Run B.device (noHoldDuringApproval actions) c held c' := hheld.mono fun _ _ _ hg => hg.1
  have hmine (i : ι) (hi : Reader actions id held i) : ∃ a, (actions i).role = .approver a ∧ a.intentId = id := hi.1
  have hstage (i : ι) (hi : Reader actions id held i) :
      ¬ (stageAfter actions tr i).Took ∧ ¬ (stageAfter actions (tr ++ held) i).Early := by
    obtain ⟨⟨a,hrole,-⟩,hread⟩ := hi
    exact (reader_stage h hany hrole hread).2
  have hstart : Once (Reader actions id held) False id c.state (stageAfter actions tr) [] :=
    ⟨fun i _ hi _ htook _ => absurd htook (hstage i hi).1,fun i _ hi _ htook _ => absurd htook (hstage i hi).1,
      False.elim,fun _ => .inl rfl⟩
  obtain ⟨hk,hfirst⟩ := hheld.staged (once_preserved hmine fun _ _ _ hg => ⟨hg.1,.inr hg.2⟩) (run_sees h).1 hstart
  rw [List.nil_append,← stages_append] at hfirst
  have hsecond : Once (Reader actions id held) True id c'.state (stageAfter actions (tr ++ held)) held :=
    { hfirst with past := fun _ i hi => (hstage i hi).2 }
  rw [stageAfter,stages_append]
  exact (hrest.staged (once_preserved hmine fun _ _ _ hg => ⟨hg,.inl trivial⟩) (run_sees (h.trans hany)).1 hsecond).2

theorem executions_le_one (h : Run B.device (noHoldDuringApproval actions) (startPool actions s) tr c)
    (hheld : Run B.device (sameHold (noHoldDuringApproval actions) id) c held c')
    (hrest : Run B.device (noHoldDuringApproval actions) c' rest c'') : executions id held rest ≤ 1 := by
  have honce := once_run h hheld hrest
  have hany : Run B.device (noHoldDuringApproval actions) c held c' := hheld.mono fun _ _ _ hg => hg.1
  have hall := h.trans (hany.trans hrest)
  have hreader (e : Event ι Op Op.Ret Exn) (hmem : e ∈ held ++ rest)
      (he : (releases e && readBy id e.thread held) = true) :
      Reader actions id held e.thread ∧ (stageAfter actions (tr ++ held ++ rest) e.thread).Took := by
    obtain ⟨hrel,hread⟩ := Bool.and_eq_true_iff.mp he
    obtain ⟨call,hop⟩ := releases_iff.mp hrel
    obtain ⟨before,after,hsplit⟩ := List.append_of_mem hmem
    rw [hsplit,← List.append_assoc] at hall
    obtain ⟨a,hrole,-⟩ := release_stage hall hop
    refine ⟨⟨⟨a,hrole,(reader_stage h hany hrole hread).1⟩,hread⟩,?_⟩
    rcases honce.counted e.thread with hzero | ⟨-,hran⟩
    · rw [releasesBy,List.countP_eq_zero] at hzero
      exact absurd (by simp [hrel]) (hzero e hmem)
    · exact hran.took
  by_cases hnone : ∀ e ∈ held ++ rest, ¬ (releases e && readBy id e.thread held) = true
  · rw [executions,List.countP_eq_zero.mpr hnone]
    omega
  · push Not at hnone
    obtain ⟨e,hmem,he⟩ := hnone
    obtain ⟨hmine,htook⟩ := hreader e hmem he
    have hsame : executions id held rest ≤ releasesBy e.thread (held ++ rest) := by
      refine List.countP_mono_left fun e' hmem' he' => ?_
      obtain ⟨hmine',htook'⟩ := hreader e' hmem' he'
      simp [honce.one _ _ hmine' hmine htook' htook,(Bool.and_eq_true_iff.mp he').1]
    rcases honce.counted e.thread with hzero | ⟨hone,-⟩ <;> omega

end Executions

theorem holds_keep_their_lifecycle (B : Substrate) (actions : ι → Action) (s : State) :
    Lifecycle B (noHoldDuringApproval actions) actions s where
  once tr c held c' rest c'' id h hheld hrest := executions_le_one h hheld hrest
  settled tr c held c' id status h hheld hsettled hstatus := settled_run h hheld hsettled hstatus
  moves tr c e c' id h hs _ := rowStep_step id (run_staged h) hs
  claimed tr e tr' c h hrel := by
    obtain ⟨call,hop⟩ := releases_iff.mp hrel
    obtain ⟨a,-,hclaimed⟩ := release_claimed h hop
    exact ⟨a.intentId,hclaimed⟩
  fresh tr c e c' tr' c'' id call r h hs hg h' hwin hmem := by
    obtain ⟨a,t,intent,item,hrole,hjudged,-,hrow,-,hdata,-⟩ := release_shown h hs hg h' hwin hmem
    exact ⟨a,t,intent,item,hrole,hjudged,hrow,hdata⟩

def approvedTwice : Fin 4 → Action
  | 0 => .hold (holdOf "turn-1" "1970-01-01T00:00:00+00:00" 0)
  | 1 => .approve dedupId "owner" true (some 1000000) 0
  | 2 => .approve dedupId "owner" true (some 2000000) 0
  | 3 => .hold (holdOf "turn-2" "1970-01-01T00:00:03+00:00" 3000000)

def firstHold : Trace (Fin 4) × Pool (Fin 4) :=
  play memory.device (turns 0 3) (startPool approvedTwice emptyState)

def firstStretch : Trace (Fin 4) × Pool (Fin 4) := play memory.device (turns 1 1 ++ turns 2 5) firstHold.2

def secondStretch : Trace (Fin 4) × Pool (Fin 4) := play memory.device (turns 3 3 ++ turns 1 4) firstStretch.2

def sameHoldCheck (c : Pool (Fin 4)) (_ : Event (Fin 4) Op Op.Ret Exn) (c' : Pool (Fin 4)) : Bool :=
  decide (rowStatus c.state dedupId = some .pending) || decide (rowStatus c'.state dedupId ≠ some .pending)

theorem sameHoldCheck_sound (c : Pool (Fin 4)) (e : Event (Fin 4) Op Op.Ret Exn) (c' : Pool (Fin 4))
    (h : sameHoldCheck c e c' = true) : ¬ Reheld dedupId c.state c'.state := by
  rintro ⟨hfree,hheld⟩
  simp [sameHoldCheck,hfree,hheld] at h

theorem approvedTwice_approvers (i : Fin 4) (a : Approver) (h : (approvedTwice i).role = .approver a) : i ∈ [1,2] := by
  match i with
  | 0 => cases h
  | 1 => decide
  | 2 => decide
  | 3 => cases h

def inOrder : Trace (Fin 4) × Pool (Fin 4) := play memory.device (turns 1 5) firstHold.2

def closing : Trace (Fin 4) × Pool (Fin 4) := play memory.device (turns 2 4 ++ turns 3 3) inOrder.2

theorem holds_keep_their_lifecycle_in_order :
    executions dedupId inOrder.1 closing.1 = 1 ∧ executions dedupId inOrder.1 closing.1 ≤ 1 := by
  have hold := play_checked (holdCheck_sound approvedTwice_approvers) (turns 0 3) (startPool approvedTwice emptyState)
    (by decide)
  have held : Run memory.device (sameHold (noHoldDuringApproval approvedTwice) dedupId) firstHold.2 inOrder.1 inOrder.2 :=
    play_checked (g := fun c e c' => holdCheck [1,2] c e c' && sameHoldCheck c e c')
      (fun c e c' h => ⟨holdCheck_sound approvedTwice_approvers c e c' (Bool.and_eq_true_iff.mp h).1,
        sameHoldCheck_sound c e c' (Bool.and_eq_true_iff.mp h).2⟩) (turns 1 5) firstHold.2 (by decide)
  have rest := play_checked (holdCheck_sound approvedTwice_approvers) (turns 2 4 ++ turns 3 3) inOrder.2
    (by decide)
  exact ⟨by decide,(holds_keep_their_lifecycle memory approvedTwice emptyState).once _ _ _ _ _ _ _ hold held rest⟩

theorem held_request_runs_twice :
    executions dedupId firstStretch.1 secondStretch.1 = 2 ∧ ¬ Lifecycle memory anyStep approvedTwice emptyState := by
  have htwice : executions dedupId firstStretch.1 secondStretch.1 = 2 := by decide
  refine ⟨htwice,fun hlife => ?_⟩
  have held : Run memory.device (sameHold anyStep dedupId) firstHold.2 firstStretch.1 firstStretch.2 :=
    play_checked (fun c e c' h => ⟨trivial,sameHoldCheck_sound c e c' h⟩) (turns 1 1 ++ turns 2 5) firstHold.2
      (by decide)
  have honce : executions dedupId firstStretch.1 secondStretch.1 ≤ 1 := hlife.once _ _ _ _ _ _ dedupId (play_run _ _) held
    (play_run (turns 3 3 ++ turns 1 4) firstStretch.2)
  omega

end Approval

end SafeAgents
