import SafeAgents.Approval.Actions

namespace SafeAgents

open Interleaving

namespace Approval

abbrev Pool (ι : Type) := Config ι Op Op.Ret Exn State Result

abbrev Trace (ι : Type) := List (Event ι Op Op.Ret Exn)

variable {ι : Type}

def startPool (actions : ι → Action) (s : State) : Pool ι := ⟨s,fun i => (actions i).program⟩

section Events
variable (id : String)

def reads : Event ι Op Op.Ret Exn → Bool
  | ⟨_,.intents (.getIntent id'),.ok (some _)⟩ => id' = id
  | _ => false

def wins : Event ι Op Op.Ret Exn → Bool
  | ⟨_,.intents (.transitionStatus id' .pending .approved _ _),.ok true⟩ => id' = id
  | _ => false

def releases : Event ι Op Op.Ret Exn → Bool
  | ⟨_,.env (.release _),_⟩ => true
  | _ => false

def takes : Op → Bool
  | .intents (.transitionStatus id' .pending .approved _ _) => id' = id
  | _ => false

end Events

def Reheld (id : String) (s s' : State) : Prop :=
  rowStatus s id ≠ some .pending ∧ rowStatus s' id = some .pending

def AboutToTake (actions : ι → Action) (c : Pool ι) (id : String) : Prop :=
  ∃ i a, (actions i).role = .approver a ∧ ∃ o ∈ (c.threads i).head, takes id o = true

def noHoldDuringApproval (actions : ι → Action) : Guard ι Op Op.Ret Exn State Result :=
  fun c _ c' => ∀ id, AboutToTake actions c id → ¬ Reheld id c.state c'.state

def contracts (actions : ι → Action) (i : ι) : Contract Op Op.Ret Exn Stage := stageContract (actions i).role

def reports (actions : ι → Action) (i : ι) : Stage → Except Exn Result → Prop := Reports (actions i).role

def starts (actions : ι → Action) (i : ι) : Stage := .start (actions i).role

abbrev Staged (actions : ι → Action) (l : ι → Stage) (c : Pool ι) : Prop :=
  KeepsAll (contracts actions) (reports actions) l c.threads

theorem staged_start (actions : ι → Action) (s : State) : Staged actions (starts actions) (startPool actions s) :=
  fun i => keeps_action (actions i)

theorem wins_iff {id : String} {e : Event ι Op Op.Ret Exn} :
    wins id e = true ↔ ∃ approvedBy executedAt,
      e = ⟨e.thread,.intents (.transitionStatus id .pending .approved approvedBy executedAt),.ok true⟩ := by
  constructor
  · intro h
    unfold wins at h
    split at h
    · simp only [decide_eq_true_eq] at h
      subst h
      exact ⟨_,_,rfl⟩
    · cases h
  · rintro ⟨approvedBy,executedAt,h⟩
    rw [h]
    simp [wins]

theorem reads_iff {id : String} {e : Event ι Op Op.Ret Exn} :
    reads id e = true ↔ ∃ intent, e = ⟨e.thread,.intents (.getIntent id),.ok (some intent)⟩ := by
  constructor
  · intro h
    unfold reads at h
    split at h
    · simp only [decide_eq_true_eq] at h
      subst h
      exact ⟨_,rfl⟩
    · cases h
  · rintro ⟨intent,h⟩
    rw [h]
    simp [reads]

theorem releases_iff {e : Event ι Op Op.Ret Exn} : releases e = true ↔ ∃ call, e.op = .env (.release call) := by
  constructor
  · intro h
    unfold releases at h
    split at h
    · exact ⟨_,rfl⟩
    · cases h
  · rintro ⟨call,h⟩
    obtain ⟨i,o,r⟩ := e
    subst h
    rfl

section Steps
variable {B : Substrate} {s : State} {id : String} {i : ι} {o : Op} {x : Substrate.Input o}

theorem wins_row (h : wins id (⟨i,o,(B.perform o x s).1⟩ : Event ι Op Op.Ret Exn) = true) :
    ∃ item approvedBy executedAt, row s id = some item ∧ item.status = .pending ∧
      row (B.perform o x s).2 id = some (IntentOp.transitioned item .approved approvedBy executedAt) := by
  obtain ⟨approvedBy,executedAt,h⟩ := wins_iff.mp h
  simp only [Event.mk.injEq,true_and] at h
  obtain ⟨rfl,h⟩ := h
  obtain ⟨item,hrow,hstatus,hnext⟩ := transition_won (eq_of_heq h)
  exact ⟨item,approvedBy,executedAt,hrow,hstatus,hnext⟩

theorem read_row {intent : Intent}
    (h : (⟨i,o,(B.perform o x s).1⟩ : Event ι Op Op.Ret Exn) = ⟨i,.intents (.getIntent id),.ok (some intent)⟩) :
    ∃ item, row s id = some item ∧ item.status = intent.status ∧ item.data = some (canonicalIntentPayload intent) ∧
      intent.id = id := by
  simp only [Event.mk.injEq,true_and] at h
  obtain ⟨rfl,h⟩ := h
  exact get_read (eq_of_heq h)

end Steps

inductive RowStep (hmac : IntentPayload → String) (id : String) : Option IntentItem → Option IntentItem → Prop
  | same (r : Option IntentItem) : RowStep hmac id r r
  | held (r : Option IntentItem) (intent : Intent) (hid : intent.id = id) (hpending : intent.status = .pending)
      (hfree : r.map IntentItem.status ≠ some .pending) : RowStep hmac id r (some (intentItemAttrs hmac intent))
  | moved (item : IntentItem) (new : IntentStatus) (approvedBy : Option String) (executedAt : Option Instant)
      (hmove : Declared item.status new) :
      RowStep hmac id (some item) (some (IntentOp.transitioned item new approvedBy executedAt))

section Contracts
variable {actions : ι → Action} {i : ι} {l : Stage} {id : String} {expected new : IntentStatus}
  {approvedBy : Option String} {executedAt : Option Instant}

theorem may_transition
    (h : (contracts actions i).may l (.intents (.transitionStatus id expected new approvedBy executedAt))) :
    Declared expected new := by
  unfold contracts stageContract at h
  split at h
  · cases l with
    | seen t intent =>
      obtain ⟨-,rfl,rfl⟩ := h
      exact .approve
    | won t intent =>
      obtain ⟨-,rfl,rfl | rfl⟩ := h
      · exact .execute
      · exact .refuse
    | ran t intent =>
      obtain ⟨-,rfl,rfl | rfl⟩ := h
      · exact .execute
      · exact .refuse
    | concluded =>
      obtain ⟨-,rfl,rfl⟩ := h
      exact .expire
    | _ => exact h.2.elim
  · exact h.1

theorem may_put {intent : Intent} (h : (contracts actions i).may l (.intents (.putIntent intent))) :
    intent.status = .pending := by
  unfold contracts stageContract at h
  split at h
  · exact h.elim
  · exact h

theorem rowStep_perform {B : Substrate} {s : State} {o : Op} (x : Substrate.Input o)
    (hmay : (contracts actions i).may l o) : RowStep B.hmac id (row s id) (row (B.perform o x s).2 id) := by
  have hmove := rowMove_perform B s id o x
  revert hmove
  generalize row s id = before
  generalize row (B.perform o x s).2 id = after
  intro hmove
  cases hmove with
  | same r => exact .same _
  | held r intent hid hfree ho =>
    subst ho
    exact .held _ intent hid (may_put hmay) hfree
  | moved item expected new approvedBy executedAt hstatus ho =>
    subst ho hstatus
    exact .moved item new approvedBy executedAt (may_transition hmay)

theorem rowStep_step [DecidableEq ι] (id : String) {B : Substrate} {c c' : Pool ι} {e : Event ι Op Op.Ret Exn} {l : ι → Stage}
    (hk : Staged actions l c) (hs : Step B.device c e c') : RowStep B.hmac id (row c.state id) (row c'.state id) := by
  have hmay := hk.may_of_step hs
  cases hs with
  | act i o k x hth => exact rowStep_perform x hmay

end Contracts

inductive StageMove (a : Approver) (i : ι) : Stage → Event ι Op Op.Ret Exn → Stage → Prop
  | clock (t : Instant) : StageMove a i .idle ⟨i,.env .now,.ok t⟩ (.timed t)
  | clockless (e : Exn) : StageMove a i .idle ⟨i,.env .now,.error e⟩ .concluded
  | saw (t : Instant) (intent : Intent) (hfresh : isExpired intent.expiry t a.skew = .ok false) :
      StageMove a i (.timed t) ⟨i,.intents (.getIntent a.intentId),.ok (some intent)⟩ (.seen t intent)
  | missed (t : Instant) (r : Except Exn (Option Intent)) :
      StageMove a i (.timed t) ⟨i,.intents (.getIntent a.intentId),r⟩ .concluded
  | took (t : Instant) (intent : Intent) (approvedBy : Option String) (executedAt : Option Instant) :
      StageMove a i (.seen t intent)
        ⟨i,.intents (.transitionStatus a.intentId .pending .approved approvedBy executedAt),.ok true⟩ (.won t intent)
  | outrun (t : Instant) (intent : Intent) (approvedBy : Option String) (executedAt : Option Instant)
      (r : Except Exn Bool) (hr : r ≠ .ok true) :
      StageMove a i (.seen t intent)
        ⟨i,.intents (.transitionStatus a.intentId .pending .approved approvedBy executedAt),r⟩ .concluded
  | released (t : Instant) (intent : Intent) (r : Except Exn ConnectorResult) :
      StageMove a i (.won t intent) ⟨i,.env (.release intent.materializedRequest),r⟩ (.ran t intent)
  | raised (t : Instant) (intent : Intent) (e : Exn) :
      StageMove a i (.won t intent) ⟨i,.env (.release intent.materializedRequest),.error e⟩ .dropped
  | stamped (l : Stage) (at_ : Instant) (hl : ∃ t intent, Released t intent l) :
      StageMove a i l ⟨i,.env .now,.ok at_⟩ l
  | unstamped (l : Stage) (e : Exn) (hl : ∃ t intent, Released t intent l) :
      StageMove a i l ⟨i,.env .now,.error e⟩ .dropped
  | recorded (l : Stage) (approvedBy : Option String) (executedAt : Option Instant) (won : Bool)
      (hl : ∃ t intent, Released t intent l) :
      StageMove a i l ⟨i,.intents (.transitionStatus a.intentId .approved .executed approvedBy executedAt),.ok won⟩
        (.closed won)
  | dropped (l : Stage) (new : IntentStatus) (approvedBy : Option String) (executedAt : Option Instant)
      (r : Except Exn Bool) (hl : ∃ t intent, Released t intent l) :
      StageMove a i l ⟨i,.intents (.transitionStatus a.intentId .approved new approvedBy executedAt),r⟩ .dropped
  | expired (approvedBy : Option String) (executedAt : Option Instant) (r : Except Exn Bool) :
      StageMove a i .concluded ⟨i,.intents (.transitionStatus a.intentId .pending .expired approvedBy executedAt),r⟩ .concluded
  | reread (r : Except Exn (Option Intent)) :
      StageMove a i .concluded ⟨i,.intents (.getIntent a.intentId),r⟩ .concluded

section Approvers
variable {a : Approver} {l : Stage} {i : ι}

theorem stageMove_closing {new : IntentStatus} {approvedBy : Option String} {executedAt : Option Instant}
    {r : Except Exn Bool} (hnew : new = .executed ∨ new = .refused) (hl : ∃ t intent, Released t intent l) :
    StageMove a i l ⟨i,.intents (.transitionStatus a.intentId .approved new approvedBy executedAt),r⟩
      (Approver.afterMove l .approved new r) := by
  rcases hnew with rfl | rfl
  · cases r with
    | error e =>
      have hnext : Approver.afterMove l .approved .executed (.error e) = .dropped := by
        obtain ⟨t,intent,rfl | rfl⟩ := hl <;> rfl
      rw [hnext]
      exact .dropped l _ _ _ _ hl
    | ok won =>
      have hnext : Approver.afterMove l .approved .executed (.ok won) = .closed won := by
        obtain ⟨t,intent,rfl | rfl⟩ := hl <;> rfl
      rw [hnext]
      exact .recorded l _ _ won hl
  · have hnext : Approver.afterMove l .approved .refused r = .dropped := by
      obtain ⟨t,intent,rfl | rfl⟩ := hl <;> rfl
    rw [hnext]
    exact .dropped l _ _ _ _ hl

theorem stageMove_transition {intentId : String} {expected new : IntentStatus} {approvedBy : Option String}
    {executedAt : Option Instant} {r : Except Exn Bool}
    (hmay : a.may l (.intents (.transitionStatus intentId expected new approvedBy executedAt))) :
    StageMove a i l ⟨i,.intents (.transitionStatus intentId expected new approvedBy executedAt),r⟩
      (Approver.afterMove l expected new r) := by
  obtain ⟨rfl,hmove⟩ := hmay
  cases l with
  | seen t intent =>
    obtain ⟨rfl,rfl⟩ := hmove
    match r with
    | .error e => exact .outrun t intent _ _ _ nofun
    | .ok false => exact .outrun t intent _ _ _ nofun
    | .ok true => exact .took t intent _ _
  | won t intent =>
    obtain ⟨rfl,hnew⟩ := hmove
    exact stageMove_closing hnew ⟨t,intent,.inl rfl⟩
  | ran t intent =>
    obtain ⟨rfl,hnew⟩ := hmove
    exact stageMove_closing hnew ⟨t,intent,.inr rfl⟩
  | concluded =>
    obtain ⟨rfl,rfl⟩ := hmove
    exact .expired _ _ r
  | _ => exact hmove.elim

theorem stageMove_read {intentId : String} {r : Except Exn (Option Intent)}
    (hmay : a.may l (.intents (.getIntent intentId))) :
    StageMove a i l ⟨i,.intents (.getIntent intentId),r⟩ (a.next l (.intents (.getIntent intentId)) r) := by
  obtain ⟨rfl,⟨t,rfl⟩ | rfl⟩ := hmay
  · simp only [Approver.next]
    match r with
    | .error e => exact .missed t _
    | .ok none => exact .missed t _
    | .ok (some intent) =>
      simp only [Stage.afterRead]
      split
      · next hfresh => exact .saw t intent hfresh
      · exact .missed t _
  · exact .reread r

theorem stageMove_stamp {r : Except Exn Instant} (hl : ∃ t intent, Released t intent l) :
    StageMove a i l ⟨i,.env .now,r⟩ (a.next l (.env .now) r) := by
  cases r with
  | error e =>
    have hnext : a.next l (.env .now) (.error e) = .dropped := by
      obtain ⟨t,intent,rfl | rfl⟩ := hl <;> rfl
    rw [hnext]
    exact .unstamped l e hl
  | ok at_ =>
    have hnext : a.next l (.env .now) (.ok at_) = l := by
      obtain ⟨t,intent,rfl | rfl⟩ := hl <;> rfl
    rw [hnext]
    exact .stamped l at_ hl

theorem stageMove_next {o : Op} {r : Except Exn o.Ret} (hmay : a.may l o) :
    StageMove a i l ⟨i,o,r⟩ (a.next l o r) := by
  cases o with
  | intents o =>
    cases o with
    | getIntent intentId => exact stageMove_read hmay
    | transitionStatus intentId expected new approvedBy executedAt => exact stageMove_transition hmay
    | _ => exact hmay.elim
  | env o =>
    cases o with
    | now =>
      rcases hmay with rfl | ⟨t,intent,rfl⟩ | ⟨t,intent,rfl⟩
      · cases r with
        | error e => exact .clockless e
        | ok t => exact .clock t
      · exact stageMove_stamp ⟨t,intent,.inl rfl⟩
      · exact stageMove_stamp ⟨t,intent,.inr rfl⟩
    | release call =>
      obtain ⟨t,intent,rfl,rfl⟩ := hmay
      match r with
      | .ok result => exact .released t intent _
      | .error (.releaseRefused reason) => exact .released t intent _
      | .error (.connectorExecution message refused) => exact .raised t intent _
      | .error (.inheritanceWrite message) => exact .raised t intent _
      | .error (.quarantinedIntent intentId reason) => exact .raised t intent _
      | .error (.intentAlreadyPending intentId) => exact .raised t intent _
      | .error (.exception text) => exact .raised t intent _
      | .error (.baseException text) => exact .raised t intent _
    | _ => exact hmay.elim
  | _ => exact hmay.elim

theorem may_seen {t : Instant} {intent : Intent} {o : Op} (h : a.may (.seen t intent) o) :
    takes a.intentId o = true := by
  cases o with
  | intents o =>
    cases o with
    | transitionStatus id expected new approvedBy executedAt =>
      obtain ⟨rfl,rfl,rfl⟩ := h
      simp [takes]
    | getIntent id => rcases h.2 with ⟨_,h⟩ | h <;> cases h
    | _ => exact h.elim
  | env o =>
    cases o with
    | now => rcases h with h | ⟨_,_,h⟩ | ⟨_,_,h⟩ <;> cases h
    | release call =>
      obtain ⟨_,_,h,-⟩ := h
      cases h
    | _ => exact h.elim
  | _ => exact h.elim

theorem seen_head {t : Instant} {intent : Intent} {p : Act Result}
    (h : Keeps (stageContract (.approver a)) (Reports (.approver a)) (.seen t intent) p) :
    ∃ o ∈ p.head, takes a.intentId o = true := by
  cases p with
  | ret r => exact h.1.elim
  | raise e => exact h.1.elim
  | act o k => exact ⟨o,rfl,may_seen h.1⟩

end Approvers

variable {actions : ι → Action}

theorem contracts_approver {i : ι} {a : Approver} (h : (actions i).role = .approver a) :
    contracts actions i = stageContract (.approver a) := by rw [contracts,h]

variable [DecidableEq ι] {B : Substrate} {G : Guard ι Op Op.Ret Exn State Result}

abbrev stageAfter (actions : ι → Action) (tr : Trace ι) : ι → Stage := stages (contracts actions) (starts actions) tr

theorem staged_preserved :
    Preserved B.device G (contracts actions) (reports actions) fun _ _ _ => True where
  heard c l tr i o x _ _ _ := by
    unfold contracts stageContract
    split <;> trivial
  next _ _ _ _ _ _ _ _ _ _ _ _ := trivial

theorem run_staged {s : State} {c : Pool ι} {tr : Trace ι} (h : Run B.device G (startPool actions s) tr c) :
    Staged actions (stageAfter actions tr) c :=
  (h.staged_from_start staged_preserved (staged_start actions s) trivial).1

theorem wins_stage {l : ι → Stage} {c c' : Pool ι} {e : Event ι Op Op.Ret Exn} {id : String} {a : Approver}
    (hk : Staged actions l c) (hs : Step B.device c e c') (hwin : wins id e = true)
    (hrole : (actions e.thread).role = .approver a) :
    a.intentId = id ∧ ∃ t intent, l e.thread = .seen t intent ∧
      advanceStage (contracts actions) l e e.thread = .won t intent := by
  have hmay := hk.may_of_step hs
  obtain ⟨approvedBy,executedAt,hevent⟩ := wins_iff.mp hwin
  obtain ⟨i,o,r⟩ := e
  simp only [Event.mk.injEq,true_and] at hevent
  obtain ⟨rfl,hr⟩ := hevent
  obtain rfl := eq_of_heq hr
  rw [advanceStage,Function.update_self]
  rw [contracts_approver hrole] at hmay ⊢
  obtain ⟨hid,hmove⟩ := hmay
  change Approver.MayMove (l i) .pending .approved at hmove
  generalize l i = before at hmove ⊢
  cases before with
  | seen t intent => exact ⟨hid.symm,t,intent,rfl,rfl⟩
  | won t intent => cases hmove.1
  | ran t intent => cases hmove.1
  | concluded => cases hmove.2
  | _ => exact hmove.elim

theorem step_transition {c c' : Pool ι} {i : ι} {id : String} {expected new : IntentStatus}
    {approvedBy : Option String} {executedAt : Option Instant} {won : Bool}
    (hs : Step B.device c ⟨i,.intents (.transitionStatus id expected new approvedBy executedAt),.ok won⟩ c')
    (hstatus : rowStatus c.state id = some expected) :
    won = true ∧ ∃ item, row c.state id = some item ∧
      row c'.state id = some (IntentOp.transitioned item new approvedBy executedAt) := by
  obtain ⟨x,hreply,hstate⟩ := hs.effect
  cases won with
  | false => exact absurd hstatus (transition_refused hreply.symm)
  | true =>
    obtain ⟨item,hrow,-,hnext⟩ := transition_won hreply.symm
    rw [hstate]
    exact ⟨rfl,item,hrow,hnext⟩

theorem step_wins_row {c c' : Pool ι} {e : Event ι Op Op.Ret Exn} {id : String} (hs : Step B.device c e c')
    (hwin : wins id e = true) : ∃ item approvedBy executedAt, row c.state id = some item ∧ item.status = .pending ∧
      row c'.state id = some (IntentOp.transitioned item .approved approvedBy executedAt) := by
  cases hs with
  | act i o k x hth => exact wins_row hwin

end Approval

end SafeAgents
