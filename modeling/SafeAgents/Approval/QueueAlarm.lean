import SafeAgents.Dict
import SafeAgents.Enforcement.CounterWindow

namespace SafeAgents

open Calendar Enforcement

inductive AlarmState where
  | raised | expired | cleared
  deriving DecidableEq

structure ApprovalAlarmEvent where
  state : AlarmState
  agentId : String
  tool : String
  op : String
  bucket : String
  cap : Nat
  expiredCount : Int := 0
  newExpiries : Nat := 0

abbrev AlarmCoord := String × String × String

def ApprovalAlarmEvent.coord (e : ApprovalAlarmEvent) : AlarmCoord := (e.tool,e.op,e.bucket)

def alarmRaisedSuffix : String := "approval_alarm_raised"

def alarmExpiredSuffix : String := "approval_alarm_expired"

def raisedMarkerCap : ℚ := 1

structure ApprovalQueueAlarm where
  principal : Principal
  backend : Backend
  cap : Nat
  period : CounterPeriod
  holdWindowSeconds : Nat

structure AlarmMemory where
  store : EnforcementState := .empty
  raised : Dict (String × String) String := .empty
  unreported : Dict AlarmCoord Nat := .empty
  delivered : List ApprovalAlarmEvent := []

-- Tuples sort by their first component, then by the next.
def nameLe (a b : String × String) : Bool := decide (a.1 < b.1) || decide (a.1 = b.1) && decide (a.2 ≤ b.2)

def coordLe (a b : AlarmCoord) : Bool := decide (a.1 < b.1) || decide (a.1 = b.1) && nameLe a.2 b.2

-- int() of a float truncates.
def wholePart (q : ℚ) : Int := q.num.tdiv q.den

namespace ApprovalQueueAlarm

variable (a : ApprovalQueueAlarm)

def bucketOf (t : Int) : String := periodBucketOf t a.period

def holdWindow : Int := a.holdWindowSeconds * microsPerSecond

def key (tool op suffix bucket : String) : String := scopedCounterKey a.principal tool op bucket suffix

def event (state : AlarmState) (tool op bucket : String) (expiredCount : Int) (newExpiries : Nat) : ApprovalAlarmEvent :=
  { state, agentId := a.principal.agentId, tool, op, bucket, cap := a.cap, expiredCount, newExpiries }

def send (m : AlarmMemory) (events : List ApprovalAlarmEvent) : AlarmMemory := { m with delivered := m.delivered ++ events }

def raiseFor (tool op : String) (at_ : Int) (m : AlarmMemory) : AlarmMemory :=
  let bucket := a.bucketOf at_
  match StoreOp.apply a.backend (.tryIncrementCounter (a.key tool op alarmRaisedSuffix bucket) 1 raisedMarkerCap) m.store with
  | (.error _,store) => { m with store }
  | (.ok first,store) =>
    let raised := { m with store, raised := m.raised.set (tool,op) bucket }
    if first then send raised [a.event .raised tool op bucket 0 0] else raised

def isRaised (m : AlarmMemory) (tool op bucket : String) : Bool := decide (1 ≤ m.store.counter (a.key tool op alarmRaisedSuffix bucket))

def expiryBucket (m : AlarmMemory) (tool op : String) (heldAt expiredAt : Int) : Option String :=
  [heldAt,expiredAt].findSome? fun moment => if a.isRaised m tool op (a.bucketOf moment) then some (a.bucketOf moment) else none

def countExpiry (tool op : String) (heldAt expiredAt : Int) (m : AlarmMemory) : Bool × AlarmMemory :=
  match a.expiryBucket m tool op heldAt expiredAt with
  | none => (true,m)
  | some bucket =>
    match StoreOp.apply a.backend (.tryIncrementCounter (a.key tool op alarmExpiredSuffix bucket) 1 unboundedCounterCap) m.store with
    | (.error _,store) => (false,{ m with store })
    | (.ok _,store) =>
      (true,{ m with
        store
        raised := if (m.raised.get? (tool,op)).isSome then m.raised else m.raised.set (tool,op) bucket
        unreported := m.unreported.set (tool,op,bucket) ((m.unreported.get? (tool,op,bucket)).getD 0 + 1) })

def readTotal (m : AlarmMemory) (tool op bucket : String) : Int :=
  wholePart (m.store.counter (a.key tool op alarmExpiredSuffix bucket))

def deliverCounts (m : AlarmMemory) : AlarmMemory :=
  let pending := m.unreported.entries.mergeSort fun x y => coordLe x.1 y.1
  send { m with unreported := .empty } (pending.map fun e =>
    a.event .expired e.1.1 e.1.2.1 e.1.2.2 (a.readTotal m e.1.1 e.1.2.1 e.1.2.2) e.2)

def ended (now : Int) (m : AlarmMemory) : List ((String × String) × String) :=
  (m.raised.entries.mergeSort fun x y => nameLe x.1 y.1).filter fun e => decide (e.2 < a.bucketOf (now - a.holdWindow))

def deliverClears (now : Int) (m : AlarmMemory) : AlarmMemory :=
  send { m with raised := ((a.ended now m).map Prod.fst).foldl Dict.erase m.raised }
    ((a.ended now m).map fun e => a.event .cleared e.1.1 e.1.2 e.2 (a.readTotal m e.1.1 e.1.2 e.2) 0)

def flush (now : Int) (m : AlarmMemory) : AlarmMemory := a.deliverClears now (a.deliverCounts m)

end ApprovalQueueAlarm

inductive AlarmOp where
  | raiseFor (tool op : String) (at_ : Int)
  | countExpiry (tool op : String) (heldAt expiredAt : Int)
  | flush (now : Int)

namespace AlarmOp

def apply (a : ApprovalQueueAlarm) : AlarmOp → AlarmMemory → AlarmMemory
  | raiseFor tool op at_, m => a.raiseFor tool op at_ m
  | countExpiry tool op heldAt expiredAt, m => (a.countExpiry tool op heldAt expiredAt m).2
  | flush now, m => a.flush now m

def name : AlarmOp → Option (String × String)
  | raiseFor tool op _ => some (tool,op)
  | countExpiry tool op _ _ => some (tool,op)
  | flush _ => none

def moment : AlarmOp → Option Int
  | raiseFor _ _ at_ => some at_
  | countExpiry _ _ _ _ => none
  | flush now => some now

def Dated (a : ApprovalQueueAlarm) : AlarmOp → Prop
  | raiseFor _ _ at_ => Representable at_
  | countExpiry _ _ heldAt expiredAt => Representable heldAt ∧ Representable expiredAt
  | flush now => Representable now ∧ Representable (now - a.holdWindow)

end AlarmOp

-- A history lists its operations latest first.
abbrev AlarmHistory := List AlarmOp

namespace AlarmHistory

variable (a : ApprovalQueueAlarm)

def after : AlarmHistory → AlarmMemory
  | [] => {}
  | o :: h => o.apply a (after h)

def Ordered : AlarmHistory → Prop
  | [] => True
  | o :: h => o.Dated a ∧ (∀ now, o.moment = some now → ∀ o' ∈ h, ∀ earlier, o'.moment = some earlier → earlier ≤ now) ∧ Ordered h

def raisedIn (c : AlarmCoord) (h : AlarmHistory) : Bool :=
  h.any fun
    | .raiseFor tool op at_ => decide ((tool,op,a.bucketOf at_) = c)
    | _ => false

def countedAs (h : AlarmHistory) : AlarmOp → Option AlarmCoord
  | .countExpiry tool op heldAt expiredAt =>
    [heldAt,expiredAt].findSome? fun moment =>
      if raisedIn a (tool,op,a.bucketOf moment) h then some (tool,op,a.bucketOf moment) else none
  | _ => none

def counted (c : AlarmCoord) : AlarmHistory → Nat
  | [] => 0
  | o :: h => counted c h + if countedAs a h o = some c then 1 else 0

def countedByFlush (c : AlarmCoord) : AlarmHistory → Nat
  | [] => 0
  | .flush _ :: h => counted a c h
  | _ :: h => countedByFlush c h

def flushedPast (c : AlarmCoord) (h : AlarmHistory) : Bool :=
  h.any fun
    | .flush now => decide (c.2.2 < a.bucketOf (now - a.holdWindow))
    | _ => false

end AlarmHistory

namespace AlarmMemory

def sent (m : AlarmMemory) (state : AlarmState) (c : AlarmCoord) : List ApprovalAlarmEvent :=
  m.delivered.filter fun e => decide (e.state = state ∧ e.coord = c)

end AlarmMemory

open AlarmHistory

structure Paired (a : ApprovalQueueAlarm) (h : AlarmHistory) : Prop where
  clears : ∀ c, (after a h).sent .raised c ≠ [] → ((after a h).sent .cleared c).length = if flushedPast a c h then 1 else 0
  reported : ∀ c, (((after a h).sent .expired c).map ApprovalAlarmEvent.newExpiries).sum = countedByFlush a c h
  total : ∀ c e, ((after a h).sent .expired c).getLast? = some e → e.expiredCount = countedByFlush a c h

-- No hold passes the cap in a new period while the op's alarm stands for another one, and no expiry is counted for an op whose alarm has cleared.
def Meets (a : ApprovalQueueAlarm) (m : AlarmMemory) : AlarmOp → Prop
  | .raiseFor tool op at_ => ∀ bucket, m.raised.get? (tool,op) = some bucket → bucket = a.bucketOf at_
  | .countExpiry tool op heldAt expiredAt => ∀ bucket, a.expiryBucket m tool op heldAt expiredAt = some bucket →
    (m.raised.get? (tool,op)).isSome ∧ m.store.counter (a.key tool op alarmExpiredSuffix bucket) + 1 ≤ unboundedCounterCap
  | .flush _ => True

def Conforms (a : ApprovalQueueAlarm) : AlarmHistory → Prop
  | [] => True
  | o :: h => Meets a (after a h) o ∧ Conforms a h

def SeparatedNames (names : List (String × String)) : Prop :=
  ∀ n ∈ names, ∀ n' ∈ names, n.1 ++ "." ++ n.2 = n'.1 ++ "." ++ n'.2 → n = n'

theorem Backend.tryIncrementCounter_within (b : Backend) {current : Option ℚ} {delta cap : ℚ} (hcurrent : 0 ≤ current.getD 0)
    (hroom : current.getD 0 + delta ≤ cap) : b.tryIncrementCounter current delta cap = (true,some (current.getD 0 + delta)) := by
  have hheadroom : ¬ cap - delta < 0 := by linarith
  have hcap : ¬ current.getD 0 + delta > cap := not_lt.mpr hroom
  cases b with
  | memory => simp [tryIncrementCounter,InMemoryStore.tryIncrementCounter,hcap]
  | dynamo =>
    cases current with
    | none => simp [tryIncrementCounter,DynamoStore.tryIncrementCounter,hheadroom]
    | some spent =>
      have hfits : spent ≤ cap - delta := by
        rw [Option.getD_some] at hroom
        linarith
      simp [tryIncrementCounter,DynamoStore.tryIncrementCounter,hheadroom,hfits]
  | sqlite => simp [tryIncrementCounter,SqliteEnforcementStore.tryIncrementCounter,hheadroom,hcap]

theorem increment_within (b : Backend) (s : EnforcementState) (key : String) (delta cap : ℚ) (hcurrent : 0 ≤ s.counter key)
    (hroom : s.counter key + delta ≤ cap) :
    StoreOp.apply b (.tryIncrementCounter key delta cap) s = (.ok true,s.setCounter key (some (s.counter key + delta))) := by
  rw [StoreOp.apply,b.tryIncrementCounter_within hcurrent hroom]
  rfl

theorem increment_over (b : Backend) (s : EnforcementState) (key : String) (delta cap : ℚ) (hroom : cap < s.counter key + delta) :
    StoreOp.apply b (.tryIncrementCounter key delta cap) s = (.ok false,s) := by
  rcases b.tryIncrementCounter_spec (s.counters key) delta cap with h | ⟨-,h⟩
  · rw [StoreOp.apply,h]
    simp [EnforcementState.setCounter]
  · exact absurd h (not_le.mpr hroom)

section Coordinates
variable {a : ApprovalQueueAlarm} {names : List (String × String)} {c d : AlarmCoord}

structure InUse (a : ApprovalQueueAlarm) (names : List (String × String)) (c : AlarmCoord) : Prop where
  name : (c.1,c.2.1) ∈ names
  rendered : ∃ t, Representable t ∧ c.2.2 = a.bucketOf t

theorem coord_ext (hname : (c.1,c.2.1) = (d.1,d.2.1)) (hbucket : c.2.2 = d.2.2) : c = d := by
  obtain ⟨tool,op,bucket⟩ := c
  obtain ⟨tool',op',bucket'⟩ := d
  obtain ⟨rfl,rfl⟩ := Prod.mk.inj hname
  rw [show bucket = bucket' from hbucket]

theorem alarm_key_inj (hsep : SeparatedNames names) (hc : InUse a names c) (hd : InUse a names d) {f f' : String} (hf : ':' ∉ f.toList)
    (hf' : ':' ∉ f'.toList) (h : a.key c.1 c.2.1 f c.2.2 = a.key d.1 d.2.1 f' d.2.2) : c = d ∧ f = f' := by
  obtain ⟨t,ht,hbucket⟩ := hc.rendered
  obtain ⟨u,hu,hbucket'⟩ := hd.rendered
  have hlists := congrArg String.toList h
  rw [ApprovalQueueAlarm.key,ApprovalQueueAlarm.key,CounterKeys.key_scopedCounterKey,CounterKeys.key_scopedCounterKey,
    CounterKeys.key_toList,CounterKeys.key_toList] at hlists
  have hvalid : ∃ period, CounterKeys.validateBucket (fun _ => false) c.2.2 period = true :=
    ⟨a.period,by rw [hbucket]; exact validate_rendered _ ht a.period⟩
  have hvalid' : ∃ period, CounterKeys.validateBucket (fun _ => false) d.2.2 period = true :=
    ⟨a.period,by rw [hbucket']; exact validate_rendered _ hu a.period⟩
  obtain ⟨hscope,hb,hsuffix⟩ := CounterKeys.tail_unique hvalid hvalid' hf hf' hlists
  have hjoined : c.1 ++ "." ++ c.2.1 = d.1 ++ "." ++ d.2.1 := by
    apply String.toList_injective
    simpa [CounterKeys.scope] using hscope
  exact ⟨coord_ext (hsep _ hc.name _ hd.name hjoined) hb,hsuffix⟩

theorem raised_key_iff (hsep : SeparatedNames names) (hc : InUse a names c) (hd : InUse a names d) :
    a.key c.1 c.2.1 alarmRaisedSuffix c.2.2 = a.key d.1 d.2.1 alarmRaisedSuffix d.2.2 ↔ c = d := by
  constructor
  · exact fun h => (alarm_key_inj hsep hc hd (by decide) (by decide) h).1
  · rintro rfl
    rfl

theorem expired_key_iff (hsep : SeparatedNames names) (hc : InUse a names c) (hd : InUse a names d) :
    a.key c.1 c.2.1 alarmExpiredSuffix c.2.2 = a.key d.1 d.2.1 alarmExpiredSuffix d.2.2 ↔ c = d := by
  constructor
  · exact fun h => (alarm_key_inj hsep hc hd (by decide) (by decide) h).1
  · rintro rfl
    rfl

theorem suffixes_apart (hsep : SeparatedNames names) (hc : InUse a names c) (hd : InUse a names d) :
    a.key c.1 c.2.1 alarmRaisedSuffix c.2.2 ≠ a.key d.1 d.2.1 alarmExpiredSuffix d.2.2 := by
  intro h
  exact absurd (alarm_key_inj hsep hc hd (by decide) (by decide) h).2 (by decide)

end Coordinates

namespace AlarmHistory

variable {a : ApprovalQueueAlarm} {c : AlarmCoord} {h : AlarmHistory}

theorem flushedPast_iff : flushedPast a c h = true ↔ ∃ now, AlarmOp.flush now ∈ h ∧ c.2.2 < a.bucketOf (now - a.holdWindow) := by
  rw [flushedPast,List.any_eq_true]
  constructor
  · rintro ⟨o,ho,hflush⟩
    cases o with
    | raiseFor tool op at_ => cases hflush
    | countExpiry tool op heldAt expiredAt => cases hflush
    | flush now => exact ⟨now,ho,by simpa using hflush⟩
  · rintro ⟨now,hmem,hlt⟩
    exact ⟨_,hmem,by simpa using hlt⟩

theorem Ordered.dated (hordered : Ordered a h) {o : AlarmOp} (ho : o ∈ h) : o.Dated a := by
  induction h with
  | nil => simp at ho
  | cons o' h ih =>
    rcases List.mem_cons.mp ho with rfl | ho
    · exact hordered.1
    · exact ih hordered.2.2 ho

theorem unflushed_raise {tool op : String} {at_ : Int} (hordered : Ordered a (.raiseFor tool op at_ :: h)) :
    flushedPast a (tool,op,a.bucketOf at_) h = false := by
  obtain ⟨hdated,hlater,hrest⟩ := hordered
  cases hpast : flushedPast a (tool,op,a.bucketOf at_) h with
  | false => rfl
  | true =>
    obtain ⟨now,hmem,hlt⟩ := flushedPast_iff.mp hpast
    have hnow : now ≤ at_ := hlater at_ rfl _ hmem now rfl
    have hperiod := (bucket_lt_iff hdated (hrest.dated hmem).2 a.period).mp hlt
    have hback : now - a.holdWindow ≤ at_ := by
      have hwindow : 0 ≤ a.holdWindow := by
        rw [ApprovalQueueAlarm.holdWindow,microsPerSecond]
        omega
      omega
    have hmono := Int.ediv_le_ediv (step_pos a.period) hback
    omega

end AlarmHistory

structure Tracks (a : ApprovalQueueAlarm) (names : List (String × String)) (h : AlarmHistory) (m : AlarmMemory) : Prop where
  marker : ∀ c, InUse a names c → m.store.counter (a.key c.1 c.2.1 alarmRaisedSuffix c.2.2) = if raisedIn a c h then 1 else 0
  total : ∀ c, InUse a names c → m.store.counter (a.key c.1 c.2.1 alarmExpiredSuffix c.2.2) = counted a c h
  pending : ∀ c, countedByFlush a c h + (m.unreported.get? c).getD 0 = counted a c h
  used : ∀ c, (m.unreported.get? c).isSome → InUse a names c
  standing : ∀ c, m.raised.get? (c.1,c.2.1) = some c.2.2 → raisedIn a c h = true ∧ flushedPast a c h = false
  settled : ∀ c, raisedIn a c h = true → m.raised.get? (c.1,c.2.1) ≠ some c.2.2 → flushedPast a c h = true
  announced : ∀ c, m.sent .raised c ≠ [] → raisedIn a c h = true
  clears : ∀ c, (m.sent .cleared c).length = if raisedIn a c h && flushedPast a c h then 1 else 0
  reported : ∀ c, ((m.sent .expired c).map ApprovalAlarmEvent.newExpiries).sum = countedByFlush a c h
  latest : ∀ c e, (m.sent .expired c).getLast? = some e → e.expiredCount = countedByFlush a c h

namespace Tracks

variable {a : ApprovalQueueAlarm} {names : List (String × String)} {h : AlarmHistory} {m : AlarmMemory}

theorem init : Tracks a names [] {} := by
  constructor <;> simp [EnforcementState.counter,EnforcementState.empty,raisedIn,counted,countedByFlush,flushedPast,AlarmMemory.sent]

theorem isRaised_eq (ht : Tracks a names h m) {tool op bucket : String} (hc : InUse a names (tool,op,bucket)) :
    a.isRaised m tool op bucket = raisedIn a (tool,op,bucket) h := by
  have hmarker := ht.marker (tool,op,bucket) hc
  rw [ApprovalQueueAlarm.isRaised,hmarker]
  cases raisedIn a (tool,op,bucket) h <;> norm_num

theorem expiryBucket_eq (ht : Tracks a names h m) {tool op : String} {heldAt expiredAt : Int} (hname : (tool,op) ∈ names)
    (hheld : Representable heldAt) (hexpired : Representable expiredAt) :
    (a.expiryBucket m tool op heldAt expiredAt).map (fun bucket => ((tool,op,bucket) : AlarmCoord)) =
      countedAs a h (.countExpiry tool op heldAt expiredAt) := by
  have hheldRaised : a.isRaised m tool op (a.bucketOf heldAt) = raisedIn a (tool,op,a.bucketOf heldAt) h :=
    ht.isRaised_eq ⟨hname,heldAt,hheld,rfl⟩
  have hexpiredRaised : a.isRaised m tool op (a.bucketOf expiredAt) = raisedIn a (tool,op,a.bucketOf expiredAt) h :=
    ht.isRaised_eq ⟨hname,expiredAt,hexpired,rfl⟩
  simp only [ApprovalQueueAlarm.expiryBucket,countedAs,List.findSome?_cons,List.findSome?_nil,hheldRaised,hexpiredRaised]
  cases raisedIn a (tool,op,a.bucketOf heldAt) h <;> cases raisedIn a (tool,op,a.bucketOf expiredAt) h <;> rfl

theorem sent_append {m' : AlarmMemory} {events : List ApprovalAlarmEvent} (hm : m'.delivered = m.delivered ++ events) (state : AlarmState)
    (c : AlarmCoord) : m'.sent state c = m.sent state c ++ events.filter fun e => decide (e.state = state ∧ e.coord = c) := by
  rw [AlarmMemory.sent,hm,List.filter_append]
  rfl

section Raise
variable {tool op : String} {at_ : Int}

theorem raise_again (ht : Tracks a names h m) (hraised : raisedIn a (tool,op,a.bucketOf at_) h = true)
    (hstands : m.raised.get? (tool,op) = some (a.bucketOf at_)) :
    Tracks a names (.raiseFor tool op at_ :: h) { m with raised := m.raised.set (tool,op) (a.bucketOf at_) } := by
  have hspec : ∀ c, raisedIn a c (.raiseFor tool op at_ :: h) = raisedIn a c h := by
    intro c
    have hcons : raisedIn a c (.raiseFor tool op at_ :: h) = (decide ((tool,op,a.bucketOf at_) = c) || raisedIn a c h) := rfl
    by_cases hc : (tool,op,a.bucketOf at_) = c
    · subst hc
      rw [hcons,hraised,Bool.or_true]
    · rw [hcons,decide_eq_false hc,Bool.false_or]
  have hget : ∀ n, (m.raised.set (tool,op) (a.bucketOf at_)).get? n = m.raised.get? n := by
    intro n
    rw [Dict.get?_set]
    split
    next hn => rw [hn,hstands]
    next => rfl
  refine ⟨?_,ht.total,ht.pending,ht.used,?_,?_,?_,?_,ht.reported,ht.latest⟩
  · intro c hc
    rw [hspec]
    exact ht.marker c hc
  · intro c hc
    rw [hget] at hc
    rw [hspec]
    exact ht.standing c hc
  · intro c hc hn
    rw [hspec] at hc
    rw [hget] at hn
    exact ht.settled c hc hn
  · intro c hc
    rw [hspec]
    exact ht.announced c hc
  · intro c
    rw [hspec]
    exact ht.clears c

theorem raise_first (ht : Tracks a names h m) (hsep : SeparatedNames names) (huse : InUse a names (tool,op,a.bucketOf at_))
    (hpast : flushedPast a (tool,op,a.bucketOf at_) h = false) (hnone : m.raised.get? (tool,op) = none) {m' : AlarmMemory}
    (hstore : m'.store = m.store.setCounter (a.key tool op alarmRaisedSuffix (a.bucketOf at_)) (some 1))
    (hraised : m'.raised = m.raised.set (tool,op) (a.bucketOf at_)) (hunreported : m'.unreported = m.unreported)
    (hdelivered : m'.delivered = m.delivered ++ [a.event .raised tool op (a.bucketOf at_) 0 0]) :
    Tracks a names (.raiseFor tool op at_ :: h) m' := by
  have hspec : ∀ c, raisedIn a c (.raiseFor tool op at_ :: h) = (decide ((tool,op,a.bucketOf at_) = c) || raisedIn a c h) := fun _ => rfl
  have hother : ∀ state c, state ≠ .raised → m'.sent state c = m.sent state c := by
    intro state c hstate
    rw [sent_append hdelivered]
    simp [ApprovalQueueAlarm.event,hstate.symm]
  have hget : ∀ n, m'.raised.get? n = if n = (tool,op) then some (a.bucketOf at_) else m.raised.get? n := by
    intro n
    rw [hraised,Dict.get?_set]
  refine ⟨?_,?_,?_,?_,?_,?_,?_,?_,?_,?_⟩
  · intro c hc
    rw [hspec,hstore,Budget.counter_setCounter]
    have hkey := raised_key_iff hsep huse hc
    by_cases heq : (tool,op,a.bucketOf at_) = c
    · rw [if_pos (hkey.mpr heq),decide_eq_true heq]
      rfl
    · rw [if_neg fun he => heq (hkey.mp he),decide_eq_false heq,Bool.false_or]
      exact ht.marker c hc
  · intro c hc
    rw [hstore,Budget.counter_setCounter,if_neg (suffixes_apart hsep huse hc)]
    exact ht.total c hc
  · intro c
    rw [hunreported]
    exact ht.pending c
  · intro c hc
    rw [hunreported] at hc
    exact ht.used c hc
  · intro c hc
    rw [hspec]
    rw [hget] at hc
    by_cases heq : (tool,op,a.bucketOf at_) = c
    · subst heq
      exact ⟨by simp,hpast⟩
    · have hold : m.raised.get? (c.1,c.2.1) = some c.2.2 := by
        split at hc
        next hn => exact absurd (coord_ext hn.symm (Option.some.inj hc)) heq
        next => exact hc
      obtain ⟨hstanding,hunflushed⟩ := ht.standing c hold
      exact ⟨by rw [hstanding,Bool.or_true],hunflushed⟩
  · intro c hc hn
    rw [hspec] at hc
    rw [hget] at hn
    by_cases heq : (tool,op,a.bucketOf at_) = c
    · subst heq
      simp at hn
    · have hbefore : raisedIn a c h = true := by simpa [heq] using hc
      refine ht.settled c hbefore fun hold => ?_
      split at hn
      next hname =>
        rw [hname,hnone] at hold
        cases hold
      next => exact hn hold
  · intro c hc
    rw [hspec]
    by_cases heq : (tool,op,a.bucketOf at_) = c
    · simp [heq]
    · have hold : m.sent .raised c ≠ [] := by
        rw [sent_append hdelivered] at hc
        simpa [ApprovalQueueAlarm.event,ApprovalAlarmEvent.coord,heq] using hc
      rw [ht.announced c hold,Bool.or_true]
  · intro c
    rw [hother .cleared c (by decide),ht.clears,hspec]
    by_cases heq : (tool,op,a.bucketOf at_) = c
    · subst heq
      have hsame : flushedPast a (tool,op,a.bucketOf at_) (.raiseFor tool op at_ :: h) = false := hpast
      rw [hsame,hpast,Bool.and_false,Bool.and_false]
    · have hsame : flushedPast a c (.raiseFor tool op at_ :: h) = flushedPast a c h := rfl
      rw [decide_eq_false heq,Bool.false_or,hsame]
  · intro c
    rw [hother .expired c (by decide)]
    exact ht.reported c
  · intro c e he
    rw [hother .expired c (by decide)] at he
    exact ht.latest c e he

theorem raise (ht : Tracks a names h m) (hsep : SeparatedNames names) (hname : (tool,op) ∈ names)
    (hordered : Ordered a (.raiseFor tool op at_ :: h)) (hmeets : Meets a m (.raiseFor tool op at_)) :
    Tracks a names (.raiseFor tool op at_ :: h) (a.raiseFor tool op at_ m) := by
  have huse : InUse a names (tool,op,a.bucketOf at_) := ⟨hname,at_,hordered.1,rfl⟩
  have hpast := unflushed_raise hordered
  have hmarker := ht.marker _ huse
  dsimp only at hmarker
  rw [ApprovalQueueAlarm.raiseFor]
  cases hraised : raisedIn a (tool,op,a.bucketOf at_) h with
  | true =>
    rw [hraised,if_pos rfl] at hmarker
    have hover := increment_over a.backend m.store (a.key tool op alarmRaisedSuffix (a.bucketOf at_)) 1 raisedMarkerCap
      (by rw [hmarker,raisedMarkerCap]; norm_num)
    simp only [hover]
    refine ht.raise_again hraised ?_
    by_contra hnot
    have hflushed := ht.settled (tool,op,a.bucketOf at_) hraised hnot
    rw [hpast] at hflushed
    cases hflushed
  | false =>
    rw [hraised,if_neg (by decide)] at hmarker
    have hwithin := increment_within a.backend m.store (a.key tool op alarmRaisedSuffix (a.bucketOf at_)) 1 raisedMarkerCap
      (by rw [hmarker]) (by rw [hmarker,raisedMarkerCap]; norm_num)
    rw [hmarker,zero_add] at hwithin
    simp only [hwithin]
    have hnone : m.raised.get? (tool,op) = none := by
      cases hget : m.raised.get? (tool,op) with
      | none => rfl
      | some bucket =>
        obtain rfl := hmeets bucket hget
        have hstanding := (ht.standing (tool,op,a.bucketOf at_) hget).1
        rw [hraised] at hstanding
        cases hstanding
    exact ht.raise_first hsep huse hpast hnone rfl rfl rfl rfl

end Raise

section Count
variable {tool op : String} {heldAt expiredAt : Int}

theorem expiry_inUse {bucket : String} (hname : (tool,op) ∈ names) (hheld : Representable heldAt) (hexpired : Representable expiredAt)
    (hbucket : a.expiryBucket m tool op heldAt expiredAt = some bucket) : InUse a names (tool,op,bucket) := by
  obtain ⟨moment,hmem,hmoment⟩ := List.exists_of_findSome?_eq_some hbucket
  split at hmoment
  · obtain rfl := Option.some.inj hmoment
    rcases List.mem_cons.mp hmem with rfl | hmem
    · exact ⟨hname,moment,hheld,rfl⟩
    · obtain rfl := List.mem_singleton.mp hmem
      exact ⟨hname,moment,hexpired,rfl⟩
  · cases hmoment

theorem count_nothing (ht : Tracks a names h m) (hnone : countedAs a h (.countExpiry tool op heldAt expiredAt) = none) :
    Tracks a names (.countExpiry tool op heldAt expiredAt :: h) m := by
  have hcounted : ∀ c, counted a c (.countExpiry tool op heldAt expiredAt :: h) = counted a c h := by
    intro c
    rw [counted,hnone]
    rfl
  refine ⟨ht.marker,?_,?_,ht.used,ht.standing,ht.settled,ht.announced,ht.clears,ht.reported,ht.latest⟩
  · intro c hc
    rw [hcounted]
    exact ht.total c hc
  · intro c
    rw [hcounted]
    exact ht.pending c

theorem count_one (ht : Tracks a names h m) (hsep : SeparatedNames names) {bucket : String} (huse : InUse a names (tool,op,bucket))
    (hsome : countedAs a h (.countExpiry tool op heldAt expiredAt) = some (tool,op,bucket)) {m' : AlarmMemory}
    (hstore : m'.store = m.store.setCounter (a.key tool op alarmExpiredSuffix bucket) (some (counted a (tool,op,bucket) h + 1)))
    (hraised : m'.raised = m.raised)
    (hunreported : m'.unreported = m.unreported.set (tool,op,bucket) ((m.unreported.get? (tool,op,bucket)).getD 0 + 1))
    (hdelivered : m'.delivered = m.delivered) : Tracks a names (.countExpiry tool op heldAt expiredAt :: h) m' := by
  have hcounted : ∀ c, counted a c (.countExpiry tool op heldAt expiredAt :: h) = counted a c h + if (tool,op,bucket) = c then 1 else 0 := by
    intro c
    rw [counted,hsome]
    simp only [Option.some.injEq]
  have hsent : ∀ state c, m'.sent state c = m.sent state c := fun _ _ => by rw [AlarmMemory.sent,hdelivered]; rfl
  refine ⟨?_,?_,?_,?_,?_,?_,?_,?_,?_,?_⟩
  · intro c hc
    rw [hstore,Budget.counter_setCounter,if_neg (suffixes_apart hsep hc huse).symm]
    exact ht.marker c hc
  · intro c hc
    have hkey := expired_key_iff hsep huse hc
    rw [hcounted,hstore,Budget.counter_setCounter]
    by_cases heq : (tool,op,bucket) = c
    · rw [if_pos (hkey.mpr heq),if_pos heq,← heq]
      push_cast
      rfl
    · rw [if_neg fun he => heq (hkey.mp he),if_neg heq]
      exact ht.total c hc
  · intro c
    have hold := ht.pending c
    have hflush : countedByFlush a c (.countExpiry tool op heldAt expiredAt :: h) = countedByFlush a c h := rfl
    rw [hcounted,hflush,hunreported,Dict.get?_set]
    by_cases heq : (tool,op,bucket) = c
    · rw [if_pos heq.symm,if_pos heq,heq,Option.getD_some]
      omega
    · rw [if_neg fun he => heq he.symm,if_neg heq]
      omega
  · intro c hc
    rw [hunreported,Dict.get?_set] at hc
    split at hc
    next heq => exact heq ▸ huse
    next => exact ht.used c hc
  · intro c hc
    rw [hraised] at hc
    exact ht.standing c hc
  · intro c hc hn
    rw [hraised] at hn
    exact ht.settled c hc hn
  · intro c hc
    rw [hsent] at hc
    exact ht.announced c hc
  · intro c
    rw [hsent]
    exact ht.clears c
  · intro c
    rw [hsent]
    exact ht.reported c
  · intro c e he
    rw [hsent] at he
    exact ht.latest c e he

theorem count (ht : Tracks a names h m) (hsep : SeparatedNames names) (hname : (tool,op) ∈ names) (hheld : Representable heldAt)
    (hexpired : Representable expiredAt) (hmeets : Meets a m (.countExpiry tool op heldAt expiredAt)) :
    Tracks a names (.countExpiry tool op heldAt expiredAt :: h) (a.countExpiry tool op heldAt expiredAt m).2 := by
  have hspec := ht.expiryBucket_eq hname hheld hexpired
  rw [ApprovalQueueAlarm.countExpiry]
  cases hbucket : a.expiryBucket m tool op heldAt expiredAt with
  | none =>
    rw [hbucket,Option.map_none] at hspec
    exact ht.count_nothing hspec.symm
  | some bucket =>
    rw [hbucket,Option.map_some] at hspec
    have huse := expiry_inUse hname hheld hexpired hbucket
    obtain ⟨hstanding,hroom⟩ := hmeets bucket hbucket
    have htotal := ht.total (tool,op,bucket) huse
    dsimp only at htotal
    have hcurrent : 0 ≤ m.store.counter (a.key tool op alarmExpiredSuffix bucket) := by
      rw [htotal]
      exact Nat.cast_nonneg _
    have hwithin := increment_within a.backend _ _ _ _ hcurrent hroom
    simp only [hwithin,if_pos hstanding]
    exact ht.count_one hsep huse hspec.symm (by rw [htotal]) rfl rfl rfl

end Count

section Flush
variable {now : Int}

def reportOf (a : ApprovalQueueAlarm) (m : AlarmMemory) (c : AlarmCoord) (new : Nat) : ApprovalAlarmEvent :=
  a.event .expired c.1 c.2.1 c.2.2 (a.readTotal m c.1 c.2.1 c.2.2) new

theorem reports_of (a : ApprovalQueueAlarm) (m : AlarmMemory) (c : AlarmCoord) :
    ((m.unreported.entries.mergeSort fun x y => coordLe x.1 y.1).map fun e => reportOf a m e.1 e.2).filter
      (fun e => decide (e.state = .expired ∧ e.coord = c)) = ((m.unreported.get? c).map (reportOf a m c)).toList := by
  have hmatch : ∀ e : AlarmCoord × Nat, decide ((reportOf a m e.1 e.2).state = .expired ∧ (reportOf a m e.1 e.2).coord = c) =
      decide (e.1 = c) := by
    intro e
    apply decide_eq_decide.mpr
    exact ⟨fun he => he.2,fun he => ⟨rfl,he⟩⟩
  rw [List.filter_map]
  simp only [Function.comp_def,hmatch]
  rw [Dict.filter_perm (List.mergeSort_perm _ _)]
  cases m.unreported.get? c <;> rfl

def clearOf (a : ApprovalQueueAlarm) (m : AlarmMemory) (e : (String × String) × String) : ApprovalAlarmEvent :=
  a.event .cleared e.1.1 e.1.2 e.2 (a.readTotal m e.1.1 e.1.2 e.2) 0

theorem clears_of (a : ApprovalQueueAlarm) (m : AlarmMemory) (now : Int) (c : AlarmCoord) :
    (((a.ended now m).map (clearOf a m)).filter fun e => decide (e.state = .cleared ∧ e.coord = c)).length =
      if m.raised.get? (c.1,c.2.1) = some c.2.2 ∧ c.2.2 < a.bucketOf (now - a.holdWindow) then 1 else 0 := by
  have hmatch : ∀ e : (String × String) × String, (decide ((clearOf a m e).state = .cleared ∧ (clearOf a m e).coord = c) &&
      decide (e.2 < a.bucketOf (now - a.holdWindow))) =
      (decide (e.2 = c.2.2 ∧ c.2.2 < a.bucketOf (now - a.holdWindow)) && decide (e.1 = (c.1,c.2.1))) := by
    intro e
    rw [← Bool.decide_and,← Bool.decide_and]
    apply decide_eq_decide.mpr
    constructor
    · rintro ⟨⟨-,rfl⟩,hlt⟩
      exact ⟨⟨rfl,hlt⟩,rfl⟩
    · rintro ⟨⟨hbucket,hlt⟩,hname⟩
      have hcoord : (clearOf a m e).coord = c := coord_ext hname hbucket
      exact ⟨⟨rfl,hcoord⟩,hbucket ▸ hlt⟩
  rw [List.filter_map,List.length_map,ApprovalQueueAlarm.ended,List.filter_filter]
  simp only [Function.comp_def,hmatch]
  rw [← List.filter_filter,Dict.filter_perm (List.mergeSort_perm _ _)]
  cases hget : m.raised.get? (c.1,c.2.1) with
  | none => simp
  | some bucket =>
    have hone : ∀ p : (String × String) × String → Bool, ([((c.1,c.2.1),bucket)].filter p).length =
        if p ((c.1,c.2.1),bucket) = true then 1 else 0 := by
      intro p
      cases hp : p ((c.1,c.2.1),bucket) <;> simp [hp]
    have hread : (Option.map (fun v => ((c.1,c.2.1),v)) (some bucket)).toList = [((c.1,c.2.1),bucket)] := rfl
    rw [hread,hone]
    simp only [Option.some.injEq,decide_eq_true_eq]

theorem mem_ended (a : ApprovalQueueAlarm) (m : AlarmMemory) (now : Int) (n : String × String) :
    n ∈ (a.ended now m).map Prod.fst ↔ ∃ bucket, m.raised.get? n = some bucket ∧ bucket < a.bucketOf (now - a.holdWindow) := by
  rw [List.mem_map]
  constructor
  · rintro ⟨⟨name,bucket⟩,hmem,rfl⟩
    obtain ⟨hentry,hlt⟩ := List.mem_filter.mp hmem
    exact ⟨bucket,Dict.get?_iff.mpr ((List.mergeSort_perm _ _).mem_iff.mp hentry),of_decide_eq_true hlt⟩
  · rintro ⟨bucket,hget,hlt⟩
    exact ⟨(n,bucket),List.mem_filter.mpr ⟨(List.mergeSort_perm _ _).mem_iff.mpr (Dict.get?_iff.mp hget),decide_eq_true hlt⟩,rfl⟩

theorem flush_sent (a : ApprovalQueueAlarm) (m : AlarmMemory) (now : Int) (state : AlarmState) (c : AlarmCoord) :
    (a.flush now m).sent state c = m.sent state c ++
      (((m.unreported.entries.mergeSort fun x y => coordLe x.1 y.1).map fun e => reportOf a m e.1 e.2).filter
        (fun e => decide (e.state = state ∧ e.coord = c)) ++
      ((a.ended now m).map (clearOf a m)).filter fun e => decide (e.state = state ∧ e.coord = c)) := by
  rw [AlarmMemory.sent,ApprovalQueueAlarm.flush,ApprovalQueueAlarm.deliverClears,ApprovalQueueAlarm.deliverCounts]
  simp only [ApprovalQueueAlarm.send,List.filter_append,List.append_assoc]
  rfl

theorem no_events {events : List ApprovalAlarmEvent} {state : AlarmState} (hstate : ∀ e ∈ events, e.state ≠ state) (c : AlarmCoord) :
    events.filter (fun e => decide (e.state = state ∧ e.coord = c)) = [] := by
  rw [List.filter_eq_nil_iff]
  exact fun e he hmatch => hstate e he (of_decide_eq_true hmatch).1

theorem reports_state (a : ApprovalQueueAlarm) (m : AlarmMemory) (l : List (AlarmCoord × Nat)) :
    ∀ e ∈ l.map (fun e => reportOf a m e.1 e.2), e.state = .expired := by
  intro e he
  obtain ⟨x,-,rfl⟩ := List.mem_map.mp he
  rfl

theorem clears_state (a : ApprovalQueueAlarm) (m : AlarmMemory) (l : List ((String × String) × String)) :
    ∀ e ∈ l.map (clearOf a m), e.state = .cleared := by
  intro e he
  obtain ⟨x,-,rfl⟩ := List.mem_map.mp he
  rfl

theorem flush_cleared (a : ApprovalQueueAlarm) (m : AlarmMemory) (now : Int) (c : AlarmCoord) :
    ((a.flush now m).sent .cleared c).length = (m.sent .cleared c).length +
      if m.raised.get? (c.1,c.2.1) = some c.2.2 ∧ c.2.2 < a.bucketOf (now - a.holdWindow) then 1 else 0 := by
  have hnone : ∀ e ∈ (m.unreported.entries.mergeSort fun x y => coordLe x.1 y.1).map fun e => reportOf a m e.1 e.2, e.state ≠ .cleared := by
    intro e he hstate
    cases (reports_state a m _ e he).symm.trans hstate
  rw [flush_sent,no_events hnone,List.nil_append,List.length_append,clears_of a m now]

theorem flush_raised (a : ApprovalQueueAlarm) (m : AlarmMemory) (now : Int) (c : AlarmCoord) :
    (a.flush now m).raised.get? (c.1,c.2.1) = some c.2.2 ↔
      m.raised.get? (c.1,c.2.1) = some c.2.2 ∧ ¬ c.2.2 < a.bucketOf (now - a.holdWindow) := by
  have hget : (a.flush now m).raised.get? (c.1,c.2.1) = some c.2.2 ↔
      (c.1,c.2.1) ∉ (a.ended now m).map Prod.fst ∧ m.raised.get? (c.1,c.2.1) = some c.2.2 := Dict.get?_erased
  rw [hget,mem_ended]
  constructor
  · rintro ⟨hnot,h⟩
    exact ⟨h,fun hlt => hnot ⟨c.2.2,h,hlt⟩⟩
  · rintro ⟨h,hlt⟩
    refine ⟨?_,h⟩
    rintro ⟨bucket,hbucket,hbefore⟩
    obtain rfl := Option.some.inj (h.symm.trans hbucket)
    exact hlt hbefore

theorem wholePart_natCast (n : Nat) : wholePart (n : ℚ) = n := by
  rw [wholePart]
  simp

theorem flush (ht : Tracks a names h m) (now : Int) : Tracks a names (.flush now :: h) (a.flush now m) := by
  have hpast : ∀ c, flushedPast a c (.flush now :: h) = (decide (c.2.2 < a.bucketOf (now - a.holdWindow)) || flushedPast a c h) :=
    fun _ => rfl
  have hnoReports : ∀ state c, state ≠ .expired → ((m.unreported.entries.mergeSort fun x y => coordLe x.1 y.1).map
      fun e => reportOf a m e.1 e.2).filter (fun e => decide (e.state = state ∧ e.coord = c)) = [] := fun state c hne =>
    no_events (fun e he hstate => hne (hstate.symm.trans (reports_state a m _ e he))) c
  have hnoClears : ∀ state c, state ≠ .cleared → ((a.ended now m).map (clearOf a m)).filter
      (fun e => decide (e.state = state ∧ e.coord = c)) = [] := fun state c hne =>
    no_events (fun e he hstate => hne (hstate.symm.trans (clears_state a m _ e he))) c
  have hreports : ∀ c, (a.flush now m).sent .expired c = m.sent .expired c ++ ((m.unreported.get? c).map (reportOf a m c)).toList := by
    intro c
    rw [flush_sent,reports_of,hnoClears .expired c (by decide),List.append_nil]
  have hraises : ∀ c, (a.flush now m).sent .raised c = m.sent .raised c := by
    intro c
    rw [flush_sent,hnoReports .raised c (by decide),hnoClears .raised c (by decide),List.append_nil,List.append_nil]
  have hreported : ∀ c, countedByFlush a c (.flush now :: h) = counted a c h := fun _ => rfl
  have hcounted : ∀ c, counted a c (.flush now :: h) = counted a c h := fun _ => rfl
  refine ⟨ht.marker,?_,?_,?_,?_,?_,?_,?_,?_,?_⟩
  · intro c hc
    rw [hcounted]
    exact ht.total c hc
  · intro c
    exact Nat.add_zero _
  · intro c hc
    cases hc
  · intro c hc
    obtain ⟨hget,hnot⟩ := (flush_raised a m now c).mp hc
    obtain ⟨hraised,hunflushed⟩ := ht.standing c hget
    refine ⟨hraised,?_⟩
    rw [hpast,decide_eq_false hnot,hunflushed]
    rfl
  · intro c hc hn
    rw [hpast]
    by_cases hlt : c.2.2 < a.bucketOf (now - a.holdWindow)
    · rw [decide_eq_true hlt,Bool.true_or]
    · have hsettled := ht.settled c hc fun hget => hn ((flush_raised a m now c).mpr ⟨hget,hlt⟩)
      rw [hsettled,Bool.or_true]
  · intro c hc
    rw [hraises] at hc
    exact ht.announced c hc
  · intro c
    have hsame : raisedIn a c (.flush now :: h) = raisedIn a c h := rfl
    rw [flush_cleared,ht.clears,hsame,hpast]
    by_cases hget : m.raised.get? (c.1,c.2.1) = some c.2.2
    · obtain ⟨hraised,hunflushed⟩ := ht.standing c hget
      by_cases hlt : c.2.2 < a.bucketOf (now - a.holdWindow) <;> simp [hget,hraised,hunflushed,hlt]
    · cases hraised : raisedIn a c h with
      | false => simp [hget]
      | true => simp [hget,ht.settled c hraised hget]
  · intro c
    rw [hreports,hreported,List.map_append,List.sum_append,ht.reported]
    have hpending := ht.pending c
    cases hget : m.unreported.get? c with
    | none =>
      rw [hget,Option.getD_none] at hpending
      simpa using hpending
    | some new =>
      rw [hget,Option.getD_some] at hpending
      simpa [reportOf,ApprovalQueueAlarm.event] using hpending
  · intro c e he
    rw [hreports] at he
    rw [hreported]
    have hpending := ht.pending c
    cases hget : m.unreported.get? c with
    | none =>
      rw [hget,Option.getD_none,Nat.add_zero] at hpending
      rw [hget,Option.map_none,Option.toList_none,List.append_nil] at he
      rw [ht.latest c e he,hpending]
    | some new =>
      have huse := ht.used c (by rw [hget]; rfl)
      rw [hget,Option.map_some,Option.toList_some,List.getLast?_append,List.getLast?_singleton,Option.some_or] at he
      obtain rfl := Option.some.inj he
      show wholePart (m.store.counter (a.key c.1 c.2.1 alarmExpiredSuffix c.2.2)) = _
      rw [ht.total c huse,wholePart_natCast]

end Flush

end Tracks

theorem tracks_history {a : ApprovalQueueAlarm} {names : List (String × String)} (hsep : SeparatedNames names) {h : AlarmHistory}
    (hnames : ∀ o ∈ h, ∀ n, o.name = some n → n ∈ names) (hordered : Ordered a h) (hconforms : Conforms a h) :
    Tracks a names h (after a h) := by
  induction h with
  | nil => exact .init
  | cons o h ih =>
    have ht := ih (fun o' ho' => hnames o' (List.mem_cons_of_mem _ ho')) hordered.2.2 hconforms.2
    cases o with
    | raiseFor tool op at_ => exact ht.raise hsep (hnames _ List.mem_cons_self _ rfl) hordered hconforms.1
    | countExpiry tool op heldAt expiredAt =>
      exact ht.count hsep (hnames _ List.mem_cons_self _ rfl) hordered.1.1 hordered.1.2 hconforms.1
    | flush now => exact ht.flush now

theorem alarms_paired {a : ApprovalQueueAlarm} {h : AlarmHistory} (hsep : SeparatedNames (h.filterMap AlarmOp.name))
    (hordered : Ordered a h) (hconforms : Conforms a h) : Paired a h := by
  have ht := tracks_history hsep (fun o ho n hn => List.mem_filterMap.mpr ⟨o,ho,hn⟩) hordered hconforms
  refine ⟨fun c hc => ?_,ht.reported,ht.latest⟩
  rw [ht.clears c,ht.announced c hc,Bool.true_and]

theorem raiseFor_stands (a : ApprovalQueueAlarm) (tool op : String) (at_ : Int) (m : AlarmMemory) :
    (a.raiseFor tool op at_ m).raised.get? (tool,op) = some (a.bucketOf at_) ∧
      ∀ c, (a.raiseFor tool op at_ m).sent .cleared c = m.sent .cleared c ∧
        (m.sent .raised c ≠ [] → (a.raiseFor tool op at_ m).sent .raised c ≠ []) := by
  rw [ApprovalQueueAlarm.raiseFor]
  rcases hout : StoreOp.apply a.backend (.tryIncrementCounter (a.key tool op alarmRaisedSuffix (a.bucketOf at_)) 1 raisedMarkerCap)
    m.store with ⟨answer,store⟩
  cases answer with
  | error e => simp [StoreOp.apply] at hout
  | ok first =>
    cases first with
    | false => exact ⟨Dict.get?_set_same _ _ _,fun c => ⟨rfl,id⟩⟩
    | true =>
      have happended : ∀ state c, (ApprovalQueueAlarm.send { m with store, raised := m.raised.set (tool,op) (a.bucketOf at_) }
          [a.event .raised tool op (a.bucketOf at_) 0 0]).sent state c = m.sent state c ++
            [a.event .raised tool op (a.bucketOf at_) 0 0].filter fun e => decide (e.state = state ∧ e.coord = c) :=
        fun state c => Tracks.sent_append rfl state c
      refine ⟨Dict.get?_set_same _ _ _,fun c => ⟨?_,fun hc hnone => ?_⟩⟩
      · exact (happended .cleared c).trans (by simp [ApprovalQueueAlarm.event])
      · have hbefore := (happended .raised c).symm.trans hnone
        exact hc (List.append_eq_nil_iff.mp hbefore).1

theorem raiseFor_announces (a : ApprovalQueueAlarm) {tool op : String} {at_ : Int} {m : AlarmMemory}
    (hzero : m.store.counter (a.key tool op alarmRaisedSuffix (a.bucketOf at_)) = 0) :
    (a.raiseFor tool op at_ m).sent .raised (tool,op,a.bucketOf at_) ≠ [] := by
  have hwithin := increment_within a.backend _ _ 1 raisedMarkerCap (le_of_eq hzero.symm)
    (by rw [hzero,raisedMarkerCap]; norm_num)
  rw [ApprovalQueueAlarm.raiseFor,hwithin]
  intro hnone
  have hmem : a.event .raised tool op (a.bucketOf at_) 0 0 ∈ m.delivered ++ [a.event .raised tool op (a.bucketOf at_) 0 0] := by simp
  exact List.filter_eq_nil_iff.mp hnone _ hmem (decide_eq_true ⟨rfl,rfl⟩)

def dayAlarm : ApprovalQueueAlarm where
  principal := assistant
  backend := .memory
  cap := 1
  period := .utcDay
  holdWindowSeconds := 3600

def floodOfOneDay : AlarmHistory :=
  [.flush 1767614400000000,.countExpiry "mail" "send" 1767268800000000 1767272400000000,.raiseFor "mail" "send" 1767268800000000]

theorem alarms_paired_one_day :
    Paired dayAlarm floodOfOneDay ∧
      flushedPast dayAlarm ("mail","send",dayAlarm.bucketOf 1767268800000000) floodOfOneDay = true := by
  have hheld : Representable 1767268800000000 := by decide
  have hexpired : Representable 1767272400000000 := by decide
  have hback : Representable (1767614400000000 - dayAlarm.holdWindow) := by decide
  have hsep : SeparatedNames (floodOfOneDay.filterMap AlarmOp.name) := by simp [SeparatedNames,floodOfOneDay,AlarmOp.name]
  have hordered : Ordered dayAlarm floodOfOneDay := by
    simp only [floodOfOneDay,Ordered,AlarmOp.Dated,AlarmOp.moment]
    exact ⟨⟨by decide,hback⟩,by simp,⟨hheld,hexpired⟩,by simp,hheld,by simp,trivial⟩
  have hraise : Conforms dayAlarm [.raiseFor "mail" "send" 1767268800000000] := by
    refine ⟨fun bucket hbucket => ?_,trivial⟩
    cases hbucket
  have hnamed : ∀ o ∈ floodOfOneDay.drop 2, ∀ n, o.name = some n → n ∈ floodOfOneDay.filterMap AlarmOp.name := by
    simp [floodOfOneDay,AlarmOp.name]
  have ht := tracks_history hsep hnamed hordered.2.2.2.2 hraise
  have hcount : Conforms dayAlarm (floodOfOneDay.drop 1) := by
    refine ⟨fun bucket hbucket => ⟨?_,?_⟩,hraise⟩
    · have hstands := (raiseFor_stands dayAlarm "mail" "send" 1767268800000000 {}).1
      exact Option.isSome_iff_exists.mpr ⟨_,hstands⟩
    · have hmem : ("mail","send") ∈ floodOfOneDay.filterMap AlarmOp.name := by simp [floodOfOneDay,AlarmOp.name]
      have huse := Tracks.expiry_inUse hmem hheld hexpired hbucket
      have hzero : (after dayAlarm (floodOfOneDay.drop 2)).store.counter (dayAlarm.key "mail" "send" alarmExpiredSuffix bucket) = 0 :=
        (ht.total _ huse).trans (by simp [floodOfOneDay,counted,countedAs])
      exact (congrArg (· + 1) hzero).trans_le (by norm_num [unboundedCounterCap])
  refine ⟨alarms_paired hsep hordered ⟨trivial,hcount⟩,?_⟩
  have hlate : dayAlarm.bucketOf 1767268800000000 < dayAlarm.bucketOf (1767614400000000 - dayAlarm.holdWindow) :=
    (bucket_lt_iff hheld hback .utcDay).mpr (by decide)
  exact flushedPast_iff.mpr ⟨1767614400000000,List.mem_cons_self,hlate⟩

def floodOfTwoDays : AlarmHistory :=
  [.flush 1767614400000000,.raiseFor "mail" "send" 1767355200000000,.raiseFor "mail" "send" 1767268800000000]

theorem second_flood_hides_clear :
    Ordered dayAlarm floodOfTwoDays ∧ SeparatedNames (floodOfTwoDays.filterMap AlarmOp.name) ∧ ¬ Paired dayAlarm floodOfTwoDays := by
  have hfirst : Representable 1767268800000000 := by decide
  have hsecond : Representable 1767355200000000 := by decide
  have hback : Representable (1767614400000000 - dayAlarm.holdWindow) := by decide
  have hnever : (dayAlarm.bucketOf 1767355200000000) ≠ dayAlarm.bucketOf 1767268800000000 := by
    intro heq
    exact absurd ((bucket_eq_iff hsecond hfirst .utcDay).mp heq) (by decide)
  have hlate : dayAlarm.bucketOf 1767268800000000 < dayAlarm.bucketOf (1767614400000000 - dayAlarm.holdWindow) :=
    (bucket_lt_iff hfirst hback .utcDay).mpr (by decide)
  refine ⟨?_,?_,?_⟩
  · simp only [floodOfTwoDays,Ordered,AlarmOp.Dated,AlarmOp.moment]
    exact ⟨⟨by decide,hback⟩,by simp,hsecond,by simp,hfirst,by simp,trivial⟩
  · simp [SeparatedNames,floodOfTwoDays,AlarmOp.name]
  · intro hpaired
    obtain ⟨hstands,hsent⟩ := raiseFor_stands dayAlarm "mail" "send" 1767355200000000
      (after dayAlarm [.raiseFor "mail" "send" 1767268800000000])
    have hannounced : (after dayAlarm [.raiseFor "mail" "send" 1767268800000000]).sent .raised
        ("mail","send",dayAlarm.bucketOf 1767268800000000) ≠ [] := raiseFor_announces dayAlarm rfl
    obtain ⟨-,hsent'⟩ := raiseFor_stands dayAlarm "mail" "send" 1767268800000000 {}
    obtain ⟨hclears,hraised⟩ := hsent ("mail","send",dayAlarm.bucketOf 1767268800000000)
    obtain ⟨hclears',-⟩ := hsent' ("mail","send",dayAlarm.bucketOf 1767268800000000)
    have hdelivered : (after dayAlarm floodOfTwoDays).sent .raised ("mail","send",dayAlarm.bucketOf 1767268800000000) ≠ [] := by
      intro hnone
      rw [floodOfTwoDays,after,AlarmOp.apply,Tracks.flush_sent] at hnone
      exact hraised hannounced (List.append_eq_nil_iff.mp hnone).1
    have hpast : flushedPast dayAlarm ("mail","send",dayAlarm.bucketOf 1767268800000000) floodOfTwoDays = true :=
      flushedPast_iff.mpr ⟨1767614400000000,List.mem_cons_self,hlate⟩
    have hcount := hpaired.clears _ hdelivered
    have hcleared := Tracks.flush_cleared dayAlarm (after dayAlarm (floodOfTwoDays.drop 1)) 1767614400000000
      ("mail","send",dayAlarm.bucketOf 1767268800000000)
    have hnone : (after dayAlarm (floodOfTwoDays.drop 1)).sent .cleared ("mail","send",dayAlarm.bucketOf 1767268800000000) = [] :=
      hclears.trans hclears'
    rw [hnone,if_neg fun hstanding => hnever (Option.some.inj (hstands.symm.trans hstanding.1))] at hcleared
    rw [hpast,if_pos rfl] at hcount
    exact absurd (hcleared.symm.trans hcount) (by decide)

end SafeAgents
