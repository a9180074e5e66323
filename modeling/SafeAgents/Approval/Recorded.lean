import SafeAgents.Approval.Lifecycle

namespace SafeAgents

open Interleaving

namespace Approval

variable {ι : Type}

def finishes (id : String) : Op → Bool
  | .intents (.transitionStatus id' .approved _ _ _) => id' = id
  | .env .now => true
  | .env (.release _) => true
  | _ => false

def Outstanding (actions : ι → Action) (c : Pool ι) (i : ι) (id : String) : Prop :=
  (∃ a, (actions i).role = .approver a ∧ a.intentId = id) ∧ (c.threads i).outcome = none ∧
    Uses (fun o => finishes id o = true) (c.threads i)

def noHoldOverOutstanding (actions : ι → Action) : Guard ι Op Op.Ret Exn State Result :=
  fun c _ c' => ∀ i id, Outstanding actions c i id → ¬ Reheld id c.state c'.state

def Holding (l : Stage) : Prop := ∃ t intent, Released t intent l

section Stages
variable {a : Approver} {i : ι} {l l' : Stage} {e : Event ι Op Op.Ret Exn}

theorem Holding.took (h : Holding l) : l.Took := by
  obtain ⟨t,intent,h⟩ := h
  exact h.took

theorem Holding.not_ends (h : Holding l) : ¬ l.Ends := by
  obtain ⟨t,intent,rfl | rfl⟩ := h <;> exact id

theorem may_took {o : Op} (h : a.may l o) (hl : l.Took) : finishes a.intentId o = true := by
  cases o with
  | intents o =>
    cases o with
    | transitionStatus id expected new approvedBy executedAt =>
      obtain ⟨rfl,hmove⟩ := h
      cases l with
      | won t intent =>
        obtain ⟨rfl,-⟩ := hmove
        simp [finishes]
      | ran t intent =>
        obtain ⟨rfl,-⟩ := hmove
        simp [finishes]
      | closed recorded => exact hmove.elim
      | dropped => exact hmove.elim
      | _ => exact hl.elim
    | getIntent id =>
      obtain ⟨-,⟨t,rfl⟩ | rfl⟩ := h <;> exact hl.elim
    | _ => exact h.elim
  | env o =>
    cases o with
    | now => rfl
    | release call => rfl
    | _ => exact h.elim
  | _ => exact h.elim

theorem uses_finishes {p : Act Result} {Q : Stage → Except Exn Result → Prop}
    (h : Keeps (stageContract (.approver a)) Q l p) (hl : l.Took) : Uses (fun o => finishes a.intentId o = true) p := by
  induction p generalizing l with
  | ret r => trivial
  | raise e => trivial
  | act o k ih =>
    refine ⟨may_took h.1 hl,fun r => ih r (h.2 r trivial) ?_⟩
    exact took_move (stageMove_next (i := ()) h.1) hl

theorem holding_of_move (h : StageMove a i l e l') (hl : Holding l') :
    Holding l ∨ ¬ l.Took ∧ wins a.intentId e = true := by
  cases h with
  | took t intent approvedBy executedAt => exact .inr ⟨fun h => h,by simp [wins]⟩
  | released t intent r => exact .inl ⟨t,intent,.inl rfl⟩
  | stamped l at_ hl => exact .inl hl
  | _ => obtain ⟨t,intent,hl | hl⟩ := hl <;> cases hl

theorem holding_of_approved {id : String} {new : IntentStatus} {approvedBy : Option String} {executedAt : Option Instant}
    (h : a.may l (.intents (.transitionStatus id .approved new approvedBy executedAt))) : a.intentId = id ∧ Holding l := by
  obtain ⟨rfl,hmove⟩ := h
  cases l with
  | won t intent => exact ⟨rfl,t,intent,.inl rfl⟩
  | ran t intent => exact ⟨rfl,t,intent,.inr rfl⟩
  | seen t intent => cases hmove.1
  | concluded => cases hmove.1
  | _ => exact hmove.elim

theorem not_holding_of_approved {id : String} {new : IntentStatus} {approvedBy : Option String}
    {executedAt : Option Instant} {r : Except Exn Bool}
    (h : StageMove a i l ⟨i,.intents (.transitionStatus id .approved new approvedBy executedAt),r⟩ l') : ¬ Holding l' := by
  rintro ⟨t,intent,hl | hl⟩ <;> cases h <;> cases hl

theorem closed_of_move {recorded : Bool} (h : StageMove a i l e l') (hl : l' = .closed recorded) :
    ∃ approvedBy executedAt,
      e = ⟨i,.intents (.transitionStatus a.intentId .approved .executed approvedBy executedAt),.ok recorded⟩ := by
  cases h with
  | recorded l approvedBy executedAt won hreleased =>
    cases hl
    exact ⟨approvedBy,executedAt,rfl⟩
  | stamped l at_ hreleased =>
    obtain ⟨t,intent,rfl | rfl⟩ := hreleased <;> cases hl
  | _ => cases hl

end Stages

variable {actions : ι → Action} {B : Substrate}

theorem holding_outstanding {l : ι → Stage} {c : Pool ι} (hk : Staged actions l c) {i : ι} {a : Approver}
    (hrole : (actions i).role = .approver a) (hl : Holding (l i)) : Outstanding actions c i a.intentId := by
  have hthread := hk i
  rw [contracts_approver hrole,reports,hrole] at hthread
  refine ⟨⟨a,hrole,rfl⟩,?_,uses_finishes hthread hl.took⟩
  cases hp : c.threads i with
  | ret r =>
    rw [hp] at hthread
    exact absurd hthread.1 hl.not_ends
  | raise e =>
    rw [hp] at hthread
    exact absurd hthread.1 hl.not_ends
  | act o k => rfl

theorem mover_holds {i : ι} {l : Stage} (hpermit : (actions i).isPermit = false) {id : String} {new : IntentStatus}
    {approvedBy : Option String} {executedAt : Option Instant}
    (hmay : (contracts actions i).may l (.intents (.transitionStatus id .approved new approvedBy executedAt))) :
    ∃ a, (actions i).role = .approver a ∧ a.intentId = id ∧ Holding l := by
  cases hrole : (actions i).role with
  | approver a =>
    have happrover : a.may l (.intents (.transitionStatus id .approved new approvedBy executedAt)) := by
      rwa [contracts_approver hrole] at hmay
    exact ⟨a,rfl,holding_of_approved happrover⟩
  | bystander permits =>
    rw [contracts,hrole] at hmay
    have hnever : permits = false := by
      cases haction : actions i <;> simp_all [Action.role,Action.isPermit]
    cases hmay.2 hnever

structure Taken (actions : ι → Action) (s : State) (l : ι → Stage) : Prop where
  approved : ∀ i a, (actions i).role = .approver a → Holding (l i) → rowStatus s a.intentId = some .approved
  alone : ∀ i j a b, (actions i).role = .approver a → (actions j).role = .approver b → a.intentId = b.intentId →
    Holding (l i) → Holding (l j) → i = j

theorem taken_start (actions : ι → Action) (s : State) : Taken actions s (starts actions) := by
  have hidle (i : ι) : ¬ Holding (starts actions i) := by
    rintro ⟨t,intent,hl | hl⟩ <;>
    · unfold starts Stage.start at hl
      split at hl
      · split at hl <;> cases hl
      · cases hl
  exact ⟨fun i _ _ hl => absurd hl (hidle i),fun i _ _ _ _ _ _ hl _ => absurd hl (hidle i)⟩

section Steps
variable [DecidableEq ι] {c : Pool ι} {l : ι → Stage} {i : ι} {o : Op} {x : Substrate.Input o}

theorem approved_kept (hpermit : ∀ i, (actions i).isPermit = false) (hmay : (contracts actions i).may (l i) o)
    (h : Taken actions c.state l) {j : ι} {a : Approver} (hrole : (actions j).role = .approver a)
    (hcalm : ¬ Reheld a.intentId c.state (B.perform o x c.state).2) (hold : Holding (l j))
    (hnew : Holding (Function.update l i ((contracts actions i).next (l i) o (B.perform o x c.state).1) j)) :
    ∃ item item', row c.state a.intentId = some item ∧ row (B.perform o x c.state).2 a.intentId = some item' ∧
      item'.status = .approved ∧ item'.data = item.data := by
  have happroved := h.approved j a hrole hold
  have hmove := rowMove_perform B c.state a.intentId o x
  simp only [rowStatus,Option.map_eq_some_iff,Reheld] at happroved hcalm
  obtain ⟨item,hrow,hstatus⟩ := happroved
  generalize hafter : row (B.perform o x c.state).2 a.intentId = after at hmove hcalm
  rw [hrow] at hmove
  cases hmove with
  | same => exact ⟨item,item,hrow,rfl,hstatus,rfl⟩
  | held r intent hid hfree ho =>
    subst ho
    exact absurd ⟨by simp [hrow,hstatus],by simp [intentItemAttrs,may_put hmay]⟩ hcalm
  | moved item expected new approvedBy executedAt hexpected ho =>
    subst ho
    obtain rfl := hexpected.symm.trans hstatus
    obtain ⟨b,hrole',hid,hholds⟩ := mover_holds (hpermit i) hmay
    obtain rfl := h.alone i j b a hrole' hrole hid hholds hold
    rw [contracts_approver hrole] at hmay hnew
    rw [Function.update_self] at hnew
    exact absurd hnew (not_holding_of_approved (stageMove_next (i := i) hmay))

theorem holding_update (hmay : (contracts actions i).may (l i) o) {r : Except Exn o.Ret} {j : ι} {a : Approver}
    (hrole : (actions j).role = .approver a)
    (hnew : Holding (Function.update l i ((contracts actions i).next (l i) o r) j)) :
    Holding (l j) ∨ j = i ∧ ¬ (l j).Took ∧ wins a.intentId (⟨i,o,r⟩ : Event ι Op Op.Ret Exn) = true := by
  by_cases hj : j = i
  · subst hj
    rw [contracts_approver hrole] at hmay hnew
    rw [Function.update_self] at hnew
    exact (holding_of_move (stageMove_next (i := j) hmay) hnew).imp_right fun hwin => ⟨rfl,hwin⟩
  · rw [Function.update_of_ne hj] at hnew
    exact .inl hnew

theorem taken_step (hpermit : ∀ i, (actions i).isPermit = false) (hmay : (contracts actions i).may (l i) o)
    (hk : Staged actions l c)
    (hcalm : ∀ j id, Outstanding actions c j id → ¬ Reheld id c.state (B.perform o x c.state).2)
    (h : Taken actions c.state l) :
    Taken actions (B.perform o x c.state).2
      (Function.update l i ((contracts actions i).next (l i) o (B.perform o x c.state).1)) where
  approved j a hrole hnew := by
    rcases holding_update hmay hrole hnew with hold | ⟨rfl,-,hwin⟩
    · obtain ⟨item,item',-,hrow,hstatus,-⟩ := approved_kept hpermit hmay h hrole
        (hcalm j _ (holding_outstanding hk hrole hold)) hold hnew
      simp [rowStatus,hrow,hstatus]
    · obtain ⟨item,approvedBy,executedAt,-,-,hrow⟩ := wins_row hwin
      simp [rowStatus,hrow,IntentOp.transitioned]
  alone j k a b hj hk' hid hnew hnew' := by
    have hopen {a : Approver} (hwin : wins a.intentId (⟨i,o,(B.perform o x c.state).1⟩ : Event ι Op Op.Ret Exn) = true)
        (happroved : rowStatus c.state a.intentId = some .approved) : False := by
      obtain ⟨item,-,-,hrow,hpending,-⟩ := wins_row hwin
      simp [rowStatus,hrow,hpending] at happroved
    rcases holding_update hmay hj hnew with hold | ⟨rfl,-,hwin⟩
    · rcases holding_update hmay hk' hnew' with hold' | ⟨rfl,-,hwin⟩
      · exact h.alone j k a b hj hk' hid hold hold'
      · exact (hopen hwin (hid ▸ h.approved j a hj hold)).elim
    · rcases holding_update hmay hk' hnew' with hold' | ⟨rfl,-⟩
      · exact (hopen hwin (hid ▸ h.approved k b hk' hold')).elim
      · rfl

structure Closing (actions : ι → Action) (i : ι) (a : Approver) (data : Option IntentPayload) (s : State)
    (l : ι → Stage) (tr : Trace ι) : Prop where
  taken : Taken actions s l
  took : (l i).Took
  same : Holding (l i) → ∃ item, row s a.intentId = some item ∧ item.data = data
  closed : ∀ recorded, l i = .closed recorded → ∃ approvedBy executedAt,
    (⟨i,.intents (.transitionStatus a.intentId .approved .executed approvedBy executedAt),.ok recorded⟩ :
      Event ι Op Op.Ret Exn) ∈ tr

theorem taken_preserved (hpermit : ∀ i, (actions i).isPermit = false) :
    Preserved B.device (noHoldOverOutstanding actions) (contracts actions) (reports actions)
      fun s l _ => Taken actions s l where
  heard c l tr i o x _ _ _ := by
    unfold contracts stageContract
    split <;> trivial
  next c l tr i o k x _ hg hk hi hmay := taken_step hpermit hmay hk hg hi

theorem closing_preserved (hpermit : ∀ i, (actions i).isPermit = false) {i : ι} {a : Approver}
    {data : Option IntentPayload} (hrole : (actions i).role = .approver a) :
    Preserved B.device (noHoldOverOutstanding actions) (contracts actions) (reports actions)
      (Closing actions i a data) where
  heard c l tr i o x _ _ _ := by
    unfold contracts stageContract
    split <;> trivial
  next c l tr j o k x _ hg hk hi hmay := by
    refine ⟨taken_step hpermit hmay hk hg hi.taken,?_,fun hnew => ?_,fun recorded hclosed => ?_⟩
    · by_cases hij : i = j
      · subst hij
        rw [contracts_approver hrole] at hmay ⊢
        rw [Function.update_self]
        exact took_move (stageMove_next (i := i) hmay) hi.took
      · rw [Function.update_of_ne hij]
        exact hi.took
    · rcases holding_update hmay hrole hnew with hold | ⟨-,hfresh,-⟩
      · obtain ⟨item,item',hrow,hrow',-,hdata⟩ := approved_kept hpermit hmay hi.taken hrole
          (hg i _ (holding_outstanding hk hrole hold)) hold hnew
        obtain ⟨item₀,hrow₀,hdata₀⟩ := hi.same hold
        obtain rfl := Option.some.inj (hrow₀.symm.trans hrow)
        exact ⟨item',hrow',hdata.trans hdata₀⟩
      · exact absurd hi.took hfresh
    · by_cases hij : i = j
      · subst hij
        rw [contracts_approver hrole] at hmay hclosed
        rw [Function.update_self] at hclosed
        obtain ⟨approvedBy,executedAt,hevent⟩ := closed_of_move (stageMove_next (i := i) hmay) hclosed
        exact ⟨approvedBy,executedAt,List.mem_append_right _ (List.mem_singleton.mpr hevent.symm)⟩
      · rw [Function.update_of_ne hij] at hclosed
        obtain ⟨approvedBy,executedAt,hmem⟩ := hi.closed recorded hclosed
        exact ⟨approvedBy,executedAt,List.mem_append_left _ hmem⟩

end Steps

variable [DecidableEq ι]

structure Recorded (B : Substrate) (G : Guard ι Op Op.Ret Exn State Result) (actions : ι → Action) (s : State) :
    Prop where
  reported : ∀ tr c e c' tr' c'' id a result, Run B.device G (startPool actions s) tr c → Step B.device c e c' →
    G c e c' → wins id e = true → (actions e.thread).role = .approver a → Run B.device G c' tr' c'' →
    (c''.threads e.thread).outcome = some (.ok (.settled result)) → result.executed = true →
    ∃ approvedBy executedAt,
      (⟨e.thread,.intents (.transitionStatus id .approved .executed approvedBy executedAt),.ok true⟩ :
        Event ι Op Op.Ret Exn) ∈ tr'
  recorded : ∀ tr c e c' tr' c₁ c₂ rest c₃ id approvedBy executedAt won, Run B.device G (startPool actions s) tr c →
    Step B.device c e c' → G c e c' → wins id e = true → Run B.device G c' tr' c₁ →
    Step B.device c₁ ⟨e.thread,.intents (.transitionStatus id .approved .executed approvedBy executedAt),.ok won⟩ c₂ →
    G c₁ ⟨e.thread,.intents (.transitionStatus id .approved .executed approvedBy executedAt),.ok won⟩ c₂ →
    Run B.device (sameHold G id) c₂ rest c₃ →
    won = true ∧ ∃ item item', row c.state id = some item ∧ row c₃.state id = some item' ∧
      item'.status = .executed ∧ item'.data = item.data
  waiting : ∀ tr c e c' id item, Run B.device G (startPool actions s) tr c → Step B.device c e c' → G c e c' →
    row c.state id = some item → item.status = .pending →
    ∃ item', row c'.state id = some item' ∧ item'.data = item.data

section Runs
variable {s : State} {c c' c₁ c₂ : Pool ι} {tr tr' rest : Trace ι} {e : Event ι Op Op.Ret Exn} {id : String} {a : Approver}

theorem run_taken (hpermit : ∀ i, (actions i).isPermit = false)
    (h : Run B.device (noHoldOverOutstanding actions) (startPool actions s) tr c) :
    Taken actions c.state (stageAfter actions tr) :=
  (h.staged_from_start (taken_preserved hpermit) (staged_start actions s) (taken_start actions s)).2

theorem closing_start (hpermit : ∀ i, (actions i).isPermit = false)
    (h : Run B.device (noHoldOverOutstanding actions) (startPool actions s) tr c) (hs : Step B.device c e c')
    (hg : noHoldOverOutstanding actions c e c') (hwin : wins id e = true)
    (hrole : (actions e.thread).role = .approver a) :
    a.intentId = id ∧ ∃ item, row c.state id = some item ∧
      Closing actions e.thread a item.data c'.state (stageAfter actions (tr ++ [e])) [] := by
  obtain ⟨rfl,t,intent,-,hwon⟩ := wins_stage (run_staged h) hs hwin hrole
  obtain ⟨item,approvedBy,executedAt,hrow,-,hrow'⟩ := step_wins_row hs hwin
  have hstage : stageAfter actions (tr ++ [e]) e.thread = .won t intent := by
    rw [stageAfter,stages_concat]
    exact hwon
  refine ⟨rfl,item,hrow,run_taken hpermit (h.step hs hg),?_,fun _ => ⟨_,hrow',rfl⟩,fun recorded hclosed => ?_⟩
  · rw [hstage]
    trivial
  · rw [hstage] at hclosed
    cases hclosed

theorem closing_run (hpermit : ∀ i, (actions i).isPermit = false)
    (h : Run B.device (noHoldOverOutstanding actions) (startPool actions s) tr c) (hs : Step B.device c e c')
    (hg : noHoldOverOutstanding actions c e c') (hwin : wins id e = true)
    (hrole : (actions e.thread).role = .approver a) (h' : Run B.device (noHoldOverOutstanding actions) c' tr' c₁) :
    a.intentId = id ∧ ∃ item, row c.state id = some item ∧
      Closing actions e.thread a item.data c₁.state (stageAfter actions (tr ++ [e] ++ tr')) tr' := by
  obtain ⟨hid,item,hrow,hstart⟩ := closing_start hpermit h hs hg hwin hrole
  have hend := (h'.staged (closing_preserved hpermit hrole) (run_staged (h.step hs hg)) hstart).2
  rw [List.nil_append,← stages_append] at hend
  exact ⟨hid,item,hrow,hend⟩

theorem executed_kept {G : Guard ι Op Op.Ret Exn State Result} {data : Option IntentPayload}
    (h : Run B.device G (startPool actions s) tr c) (hheld : Run B.device (sameHold G id) c rest c')
    (hrow : ∃ item, row c.state id = some item ∧ item.status = .executed ∧ item.data = data) :
    ∃ item, row c'.state id = some item ∧ item.status = .executed ∧ item.data = data := by
  induction hheld with
  | refl => exact hrow
  | @step c₁ c₂ rest e hrun hs hg ih =>
    obtain ⟨item,hitem,hstatus,hdata⟩ := ih
    have hstep := rowStep_step id (run_staged (h.trans (hrun.mono fun _ _ _ hg => hg.1))) hs
    have hsame := hg.2
    simp only [Reheld,rowStatus] at hsame
    rw [hitem] at hstep hsame
    generalize row c₂.state id = after at hstep hsame ⊢
    cases hstep with
    | same => exact ⟨item,rfl,hstatus,hdata⟩
    | held r intent hid hpending hfree => exact absurd ⟨by simp [hstatus],by simp [intentItemAttrs,hpending]⟩ hsame
    | moved item new approvedBy executedAt hmove =>
      rw [hstatus] at hmove
      cases hmove

theorem closing_recorded (hpermit : ∀ i, (actions i).isPermit = false)
    (h : Run B.device (noHoldOverOutstanding actions) (startPool actions s) tr c) (hs : Step B.device c e c')
    (hg : noHoldOverOutstanding actions c e c') (hwin : wins id e = true)
    (h' : Run B.device (noHoldOverOutstanding actions) c' tr' c₁) {approvedBy : Option String}
    {executedAt : Option Instant} {won : Bool}
    (hclose : Step B.device c₁
      ⟨e.thread,.intents (.transitionStatus id .approved .executed approvedBy executedAt),.ok won⟩ c₂) :
    won = true ∧ ∃ item item', row c.state id = some item ∧ row c₂.state id = some item' ∧
      item'.status = .executed ∧ item'.data = item.data := by
  have hmay := (run_staged ((h.step hs hg).trans h')).may_of_step hclose
  obtain ⟨a,hrole,-,hholds⟩ := mover_holds (hpermit e.thread) hmay
  obtain ⟨rfl,item,hrow,hclosing⟩ := closing_run hpermit h hs hg hwin hrole h'
  obtain ⟨hwon,item',hrow',hnext⟩ := step_transition hclose (hclosing.taken.approved e.thread a hrole hholds)
  obtain ⟨item₀,hrow₀,hdata⟩ := hclosing.same hholds
  obtain rfl := Option.some.inj (hrow₀.symm.trans hrow')
  exact ⟨hwon,item,_,hrow,hnext,rfl,hdata⟩

end Runs

theorem executed_approval_is_recorded (B : Substrate) (actions : ι → Action) (s : State)
    (hpermit : ∀ i, (actions i).isPermit = false) : Recorded B (noHoldOverOutstanding actions) actions s where
  reported tr c e c' tr' c'' id a result h hs hg hwin hrole h' houtcome hexecuted := by
    obtain ⟨rfl,item,hrow,hclosing⟩ := closing_run hpermit h hs hg hwin hrole h'
    have hthread := run_staged ((h.step hs hg).trans h') e.thread
    rw [reports,hrole] at hthread
    obtain ⟨recorded,hclosed⟩ := (keeps_outcome hthread houtcome).2 result rfl hexecuted
    obtain ⟨approvedBy,executedAt,hmem⟩ := hclosing.closed recorded hclosed
    obtain ⟨before,after,hsplit⟩ := List.append_of_mem hmem
    obtain ⟨c₁,c₂,h₁,hclose,-,-⟩ := h'.split hsplit
    obtain ⟨rfl,-⟩ := closing_recorded hpermit h hs hg hwin h₁ hclose
    exact ⟨approvedBy,executedAt,hmem⟩
  recorded tr c e c' tr' c₁ c₂ rest c₃ id approvedBy executedAt won h hs hg hwin h' hclose hg' hrest := by
    obtain ⟨hwon,item,item',hrow,hrow',hstatus,hdata⟩ := closing_recorded hpermit h hs hg hwin h' hclose
    obtain ⟨item'',hlast⟩ := executed_kept (((h.step hs hg).trans h').step hclose hg') hrest ⟨item',hrow',hstatus,hdata⟩
    exact ⟨hwon,item,item'',hrow,hlast⟩
  waiting tr c e c' id item h hs _ hrow hpending := by
    have hstep := rowStep_step id (run_staged h) hs
    rw [hrow] at hstep
    generalize row c'.state id = after at hstep ⊢
    cases hstep with
    | same => exact ⟨item,rfl,rfl⟩
    | held r intent hid hstatus hfree => exact absurd (by simp [hpending]) hfree
    | moved item new approvedBy executedAt hmove => exact ⟨_,rfl,rfl⟩

def heldOver : Fin 3 → Action
  | 0 => .hold (holdOf "turn-1" "1970-01-01T00:00:00+00:00" 0)
  | 1 => .approve dedupId "owner" true (some 1000000) 0
  | 2 => .hold (holdOf "turn-2" "1970-01-01T00:00:03+00:00" 3000000)

def outstandingCheck (c : Pool (Fin 3)) (_ : Event (Fin 3) Op Op.Ret Exn) (c' : Pool (Fin 3)) : Bool :=
  !((c.threads 1).head.any (finishes dedupId)) || decide (rowStatus c.state dedupId = some .pending) ||
    decide (rowStatus c'.state dedupId ≠ some .pending)

theorem outstandingCheck_sound (c : Pool (Fin 3)) (e : Event (Fin 3) Op Op.Ret Exn) (c' : Pool (Fin 3))
    (h : outstandingCheck c e c' = true) : noHoldOverOutstanding heldOver c e c' := by
  rintro i id ⟨⟨a,hrole,rfl⟩,hopen,huses⟩ ⟨hfree,hheld⟩
  match i with
  | 0 => cases hrole
  | 2 => cases hrole
  | 1 =>
    cases hrole
    cases hp : c.threads 1 with
    | ret r => simp [hp,Prog.outcome] at hopen
    | raise x => simp [hp,Prog.outcome] at hopen
    | act o k =>
      rw [hp] at huses
      have hhead := huses.1
      simp_all [outstandingCheck,Prog.head]

def approvalRead : Trace (Fin 3) × Pool (Fin 3) :=
  play memory.device (turns 0 3 ++ turns 1 1) (startPool heldOver emptyState)

def approvalTaken : Trace (Fin 3) × Pool (Fin 3) := play memory.device (turns 1 1) approvalRead.2

def approvalClosed : Trace (Fin 3) × Pool (Fin 3) := play memory.device (turns 1 3) approvalTaken.2

theorem executed_approval_is_recorded_undisturbed :
    rowStatus approvalClosed.2.state dedupId = some .executed ∧ ∃ approvedBy executedAt,
      (⟨1,.intents (.transitionStatus dedupId .approved .executed approvedBy executedAt),.ok true⟩ :
        Event (Fin 3) Op Op.Ret Exn) ∈ approvalClosed.1 := by
  have hread := play_checked outstandingCheck_sound (turns 0 3 ++ turns 1 1) (startPool heldOver emptyState)
    (by decide)
  have hclosed := play_checked outstandingCheck_sound (turns 1 3) approvalTaken.2 (by decide)
  have htaken : Step memory.device approvalRead.2
      ⟨1,.intents (.transitionStatus dedupId .pending .approved (some "owner") none),.ok true⟩ approvalTaken.2 :=
    play_step rfl
  refine ⟨by decide,?_⟩
  refine (executed_approval_is_recorded memory heldOver emptyState fun i => ?_).reported _ _ _ _ _ _ dedupId
    ⟨dedupId,some 1000000,0⟩ { intentId := dedupId, executed := true } hread htaken
    (outstandingCheck_sound _ _ _ (by decide)) (by decide) rfl hclosed rfl rfl
  match i with
  | 0 => rfl
  | 1 => rfl
  | 2 => rfl

def overwritten : Trace (Fin 3) × Pool (Fin 3) :=
  play memory.device (turns 1 1 ++ turns 2 3 ++ turns 1 2) approvalTaken.2

def recordsExecution : Event (Fin 3) Op Op.Ret Exn → Bool
  | ⟨_,.intents (.transitionStatus _ .approved .executed _ _),.ok true⟩ => true
  | _ => false

theorem overwritten_approval_is_not_recorded :
    (overwritten.2.threads 1).outcome = some (.ok (.settled { intentId := dedupId, executed := true })) ∧
      rowStatus overwritten.2.state dedupId = some .pending ∧ ¬ Recorded memory anyStep heldOver emptyState := by
  refine ⟨rfl,by decide,fun hrecorded => ?_⟩
  have htaken : Step memory.device approvalRead.2
      ⟨1,.intents (.transitionStatus dedupId .pending .approved (some "owner") none),.ok true⟩ approvalTaken.2 :=
    play_step rfl
  obtain ⟨approvedBy,executedAt,hmem⟩ := hrecorded.reported _ _ _ _ overwritten.1 overwritten.2 dedupId
    ⟨dedupId,some 1000000,0⟩ { intentId := dedupId, executed := true } (play_run _ _) htaken trivial (by decide) rfl
    (play_run _ _) rfl rfl
  have hnone : overwritten.1.any recordsExecution = false := by decide
  have hsome : overwritten.1.any recordsExecution = true := List.any_eq_true.mpr ⟨_,hmem,rfl⟩
  rw [hnone] at hsome
  cases hsome

end Approval

end SafeAgents
