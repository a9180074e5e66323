import SafeAgents.Channels.Adapters

namespace SafeAgents.Channels

open Lexical Checked Interleaving

inductive TableReply where
  | answered
  | refused (e : ChannelError)
  | lost (e : ChannelError)

namespace DynamoDbDedupeStore

def pk (hasher : Hasher) (key : String × String) : String := hasher.digest key.1 ++ "#" ++ key.2

def contains (hasher : Hasher) (key : String × String) (reply : TableReply) (table : List String) : Except ChannelError Bool :=
  match reply with
  | .answered => .ok (table.contains (pk hasher key))
  | .refused e => .error e
  | .lost e => .error e

-- A conditional put: an item already there fails the condition, and that failure is swallowed.
def putItem (hasher : Hasher) (key : String × String) (table : List String) : List String :=
  if table.contains (pk hasher key) then table else pk hasher key :: table

def add (hasher : Hasher) (key : String × String) (reply : TableReply) (table : List String) : Except ChannelError Unit × List String :=
  match reply with
  | .answered => (.ok (),putItem hasher key table)
  | .refused e => (.error e,table)
  | .lost e => (.error e,putItem hasher key table)

def Input : AirlockOp → Type
  | .contains _ => TableReply
  | .add _ => TableReply
  | o => Except ChannelError o.Ret

-- The shared table; the seams that are not the store answer as they please.
def device (hasher : Hasher) : Device AirlockOp AirlockOp.Ret ChannelError (List String) where
  Input := Input
  perform o x table :=
    match o, x with
    | .contains key, reply => (contains hasher key reply table,table)
    | .add key, reply => add hasher key reply table
    | .verifyChain _, answer => (answer,table)
    | .screen _, answer => (answer,table)
    | .drop _, answer => (answer,table)
    | .verdict _, answer => (answer,table)

end DynamoDbDedupeStore

def AirlockOp.screens : AirlockOp → Option (String × String)
  | .screen e => some e.dedupeKey
  | _ => none

def DispatchOutcome.accepts (o : DispatchOutcome) : Option (String × String) := o.envelope.map EventTrigger.dedupeKey

abbrev Deliveries (ι : Type) := Config ι AirlockOp AirlockOp.Ret ChannelError (List String) DispatchOutcome

abbrev DeliveryTrace (ι : Type) := List (Event ι AirlockOp AirlockOp.Ret ChannelError)

structure OncePerKey {ι : Type} (tr : DeliveryTrace ι) (c : Deliveries ι) : Prop where
  accepted : ∀ i j o o' key, c.threads i = .ret o → c.threads j = .ret o' → o.accepts = some key → o'.accepts = some key → i = j
  screened : ∀ e ∈ tr, ∀ e' ∈ tr, ∀ key, e.op.screens = some key → e'.op.screens = some key → e.thread = e'.thread

inductive Standing where
  | fresh
  | absent (key : String × String)
  | claimed (key : String × String)

namespace Standing

def may : Standing → AirlockOp → Prop
  | .fresh, .verifyChain _ => True
  | .fresh, .contains _ => True
  | .fresh, .drop _ => True
  | .absent key, .add key' => key' = key
  | .claimed key, .screen e => e.dedupeKey = key
  | .claimed _, .drop _ => True
  | .claimed _, .verdict _ => True
  | _, _ => False

def next (l : Standing) : (o : AirlockOp) → Except ChannelError o.Ret → Standing
  | .contains key, .ok false => .absent key
  | .add key, .ok _ => .claimed key
  | .add _, .error _ => .fresh
  | _, _ => l

def contract : Contract AirlockOp AirlockOp.Ret ChannelError Standing := ⟨may,fun _ _ _ => True,next⟩

def isAbsent : Standing → Bool
  | .absent _ => true
  | _ => false

def Over (l : Standing) (out : Except ChannelError DispatchOutcome) : Prop :=
  l.isAbsent = false ∧ ∀ o key, out = .ok o → o.accepts = some key → l = .claimed key

def Holds (l : Standing) (key : String × String) : Prop := l = .absent key ∨ l = .claimed key

end Standing

open Standing (contract Over)

namespace Airlock
variable {Request : Type} {a : Airlock Request} {identity : PyStr} {e : EventTrigger} {resolution : TrustResolution} {v : Verification}
  {l : Standing} {key : String × String}

theorem over_empty (hl : l.isAbsent = false) {out : Except ChannelError DispatchOutcome}
    (h : ∀ o, out = .ok o → o.envelope = none) : Over l out := by
  refine ⟨hl,fun o key hout haccepts => ?_⟩
  rw [DispatchOutcome.accepts,h o hout] at haccepts
  cases haccepts

theorem keeps_dropped (hl : l.isAbsent = false) {reason : DropReason} {detail : Option String} {verified : Verified}
    {refusal : Option RefusalClass} : Keeps contract Over l (a.dropped identity reason detail verified ⟨none,refusal⟩) := by
  unfold dropped
  split
  · exact over_empty hl fun o h => by cases h
  · refine keeps_act.mpr ⟨?_,fun reply _ => ?_⟩
    · cases l with
      | fresh => trivial
      | absent key => cases hl
      | claimed key => trivial
    · cases reply with
      | error x => exact over_empty hl fun o h => by cases h
      | ok u => exact over_empty hl fun o h => by cases h; rfl

theorem keeps_refuse (hl : l.isAbsent = false) {reason : DropReason} {refusal : RefusalClass} {detail : Option String}
    {verified : Verified} : Keeps contract Over l (a.refuse identity reason refusal detail verified) := keeps_dropped hl

theorem keeps_taintStamp : Keeps contract Over (.claimed e.dedupeKey) (a.taintStamp e resolution v) := by
  unfold taintStamp
  split
  · exact over_empty rfl fun o h => by cases h
  · rename_i accepted haccepted
    obtain ⟨entry,-,-,-,-,-,rfl⟩ := stampInbound_ok haccepted
    refine ⟨rfl,fun o key hout haccepts => ?_⟩
    cases hout
    cases haccepts
    rfl

theorem keeps_judged {answer : ScreenAnswer} : Keeps contract Over (.claimed e.dedupeKey) (a.judged identity e resolution v answer) := by
  unfold judged
  split
  · exact keeps_taintStamp
  · exact keeps_dropped rfl

theorem keeps_recorded {answer : ScreenAnswer} :
    Keeps contract Over (.claimed e.dedupeKey) (a.recorded identity e resolution v answer) := by
  unfold recorded
  split
  · split
    · exact over_empty rfl fun o h => by cases h
    · refine keeps_act.mpr ⟨trivial,fun reply _ => ?_⟩
      cases reply with
      | error x => exact over_empty rfl fun o h => by cases h
      | ok u => exact keeps_judged
  · exact keeps_judged

theorem keeps_screenGate : Keeps contract Over (.claimed e.dedupeKey) (a.screenGate identity e resolution v) := by
  unfold screenGate
  split
  · refine keeps_act.mpr ⟨rfl,fun reply _ => ?_⟩
    cases reply with
    | error x => exact keeps_recorded
    | ok answer => exact keeps_recorded
  · exact keeps_taintStamp

theorem keeps_dedupeGate : Keeps contract Over .fresh (a.dedupeGate identity e resolution v) := by
  refine keeps_act.mpr ⟨trivial,fun reply _ => ?_⟩
  match reply with
  | .error x => exact keeps_refuse rfl
  | .ok true => exact over_empty rfl fun o h => by cases h; rfl
  | .ok false =>
    refine keeps_act.mpr ⟨rfl,fun added _ => ?_⟩
    cases added with
    | error x => exact keeps_refuse rfl
    | ok u => exact keeps_screenGate

theorem keeps_expiryGate : Keeps contract Over .fresh (a.expiryGate identity e v) := by
  unfold expiryGate
  split
  · exact over_empty rfl fun o h => by cases h
  · exact keeps_refuse rfl
  · unfold mapGate
    split
    · exact keeps_refuse rfl
    · split
      · exact keeps_refuse rfl
      · exact keeps_dedupeGate

theorem keeps_chainGate : Keeps contract Over .fresh (a.chainGate identity e) := by
  unfold chainGate
  split
  · refine keeps_act.mpr ⟨trivial,fun reply _ => ?_⟩
    match reply with
    | .error x =>
      cases x with
      | keySourceUnavailable => exact keeps_refuse rfl
      | _ => exact over_empty rfl fun o h => by cases h
    | .ok (.failed reason detail) => exact keeps_refuse rfl
    | .ok (.passed signerKeyId signerZone separated custody) => exact keeps_expiryGate
  · exact keeps_expiryGate

theorem keeps_dispatchOutcome (a : Airlock Request) (request : Request) : Keeps contract Over .fresh (a.dispatchOutcome request) := by
  unfold dispatchOutcome
  split
  · split
    · exact keeps_dropped rfl
    · unfold schemaGate
      split
      · exact keeps_refuse rfl
      · exact keeps_refuse rfl
      · unfold formGate
        split
        · exact keeps_refuse rfl
        · split
          · exact keeps_refuse rfl
          · split
            · exact keeps_refuse rfl
            · exact keeps_chainGate
  · exact keeps_dropped rfl

end Airlock

theorem head_of_absent {key : String × String} {p : Airlocked} (h : Keeps contract Over (.absent key) p) :
    p.head = some (.add key) := by
  cases p with
  | ret o => cases h.1
  | raise x => cases h.1
  | act o k =>
    have hmay : Standing.may (.absent key) o := h.1
    cases o with
    | add key' =>
      obtain rfl : key' = key := hmay
      rfl
    | _ => exact hmay.elim

section Runs
variable {ι : Type} {hasher : Hasher} {table table' : List String} {l : ι → Standing} {tr : DeliveryTrace ι}

def foundAbsent : Event ι AirlockOp AirlockOp.Ret ChannelError → Option (String × String)
  | ⟨_,.contains key,.ok false⟩ => some key
  | _ => none

def noLookupBeforePut : Guard ι AirlockOp AirlockOp.Ret ChannelError (List String) DispatchOutcome :=
  fun c e _ => ∀ key, foundAbsent e = some key → ∀ j, j ≠ e.thread → (c.threads j).head ≠ some (.add key)

structure Exclusive (hasher : Hasher) (table : List String) (l : ι → Standing) (tr : DeliveryTrace ι) : Prop where
  unique : ∀ i j key, (l i).Holds key → (l j).Holds key → i = j
  stored : ∀ i key, l i = .claimed key → DynamoDbDedupeStore.pk hasher key ∈ table
  screened : ∀ e ∈ tr, ∀ key, e.op.screens = some key → l e.thread = .claimed key

theorem subset_putItem (hasher : Hasher) (key : String × String) (table : List String) :
    table ⊆ DynamoDbDedupeStore.putItem hasher key table := by
  unfold DynamoDbDedupeStore.putItem
  split
  · exact List.Subset.refl table
  · exact List.subset_cons_self _ table

theorem mem_putItem (hasher : Hasher) (key : String × String) (table : List String) :
    DynamoDbDedupeStore.pk hasher key ∈ DynamoDbDedupeStore.putItem hasher key table := by
  unfold DynamoDbDedupeStore.putItem
  split
  · rename_i hstored
    exact List.contains_iff_mem.mp hstored
  · exact List.mem_cons_self

theorem Exclusive.grows (h : Exclusive hasher table l tr) (htable : table ⊆ table') {e : Event ι AirlockOp AirlockOp.Ret ChannelError}
    (hscreen : ∀ key, e.op.screens = some key → l e.thread = .claimed key) : Exclusive hasher table' l (tr ++ [e]) where
  unique := h.unique
  stored i key hi := htable (h.stored i key hi)
  screened e' he' := by
    rcases List.mem_append.mp he' with hold | hnew
    · exact h.screened e' hold
    · obtain rfl := List.mem_singleton.mp hnew
      exact hscreen

variable [DecidableEq ι] {i : ι}

theorem Exclusive.moves (h : Exclusive hasher table l tr) (hfree : ∀ key, l i ≠ .claimed key) (htable : table ⊆ table')
    {l' : Standing} (hholds : ∀ key, l'.Holds key → ∀ j, j ≠ i → ¬ (l j).Holds key)
    (hclaimed : ∀ key, l' = .claimed key → DynamoDbDedupeStore.pk hasher key ∈ table')
    {e : Event ι AirlockOp AirlockOp.Ret ChannelError} (hquiet : e.op.screens = none) :
    Exclusive hasher table' (Function.update l i l') (tr ++ [e]) where
  unique j j' key hj hj' := by
    by_cases hji : j = i
    · by_cases hji' : j' = i
      · rw [hji,hji']
      · subst hji
        rw [Function.update_self] at hj
        rw [Function.update_of_ne hji'] at hj'
        exact absurd hj' (hholds key hj j' hji')
    · rw [Function.update_of_ne hji] at hj
      by_cases hji' : j' = i
      · subst hji'
        rw [Function.update_self] at hj'
        exact absurd hj (hholds key hj' j hji)
      · rw [Function.update_of_ne hji'] at hj'
        exact h.unique j j' key hj hj'
  stored j key hj := by
    by_cases hji : j = i
    · subst hji
      rw [Function.update_self] at hj
      exact hclaimed key hj
    · rw [Function.update_of_ne hji] at hj
      exact htable (h.stored j key hj)
  screened e' he' key hkey := by
    rcases List.mem_append.mp he' with hold | hnew
    · have hscreened := h.screened e' hold key hkey
      have hthread : e'.thread ≠ i := fun heq => hfree key (heq ▸ hscreened)
      rw [Function.update_of_ne hthread]
      exact hscreened
    · obtain rfl := List.mem_singleton.mp hnew
      rw [hquiet] at hkey
      cases hkey

theorem fresh_of_contains {l : Standing} {key : String × String} (h : l.may (.contains key)) : l = .fresh := by
  cases l with
  | fresh => rfl
  | absent key' => exact h.elim
  | claimed key' => exact h.elim

theorem absent_of_add {l : Standing} {key : String × String} (h : l.may (.add key)) : l = .absent key := by
  cases l with
  | fresh => exact h.elim
  | absent key' =>
    obtain rfl : key = key' := h
    rfl
  | claimed key' => exact h.elim

theorem claimed_of_screen {l : Standing} {e : EventTrigger} (h : l.may (.screen e)) : l = .claimed e.dedupeKey := by
  cases l with
  | fresh => exact h.elim
  | absent key' => exact h.elim
  | claimed key' =>
    obtain rfl : e.dedupeKey = key' := h
    rfl

theorem Exclusive.quiet (h : Exclusive hasher table l tr) {e : Event ι AirlockOp AirlockOp.Ret ChannelError}
    (hscreen : ∀ key, e.op.screens = some key → l e.thread = .claimed key) :
    Exclusive hasher table (Function.update l i (l i)) (tr ++ [e]) := by
  rw [Function.update_eq_self]
  exact h.grows (List.Subset.refl table) hscreen

theorem Exclusive.looks (h : Exclusive hasher table l tr) {key : String × String} {reply : Except ChannelError Bool}
    (hmay : (l i).may (.contains key)) (hreply : reply = .ok false → DynamoDbDedupeStore.pk hasher key ∉ table)
    (hothers : reply = .ok false → ∀ j, j ≠ i → l j ≠ .absent key) :
    Exclusive hasher table (Function.update l i ((l i).next (.contains key) reply)) (tr ++ [⟨i,.contains key,reply⟩]) := by
  have hfresh := fresh_of_contains hmay
  match reply, hreply, hothers with
  | .error x, _, _ => exact h.quiet fun key hkey => by cases hkey
  | .ok true, _, _ => exact h.quiet fun key hkey => by cases hkey
  | .ok false, hreply, hothers =>
    refine h.moves (fun key hclaimed => ?_) (List.Subset.refl table) (fun key' hholds j hj hheld => ?_) (fun key' hclaimed => ?_) rfl
    · rw [hfresh] at hclaimed
      cases hclaimed
    · obtain rfl : key = key' := by
        rcases hholds with habsent | hclaimed
        · cases habsent
          rfl
        · cases hclaimed
      rcases hheld with habsent | hclaimed
      · exact hothers rfl j hj habsent
      · exact hreply rfl (h.stored j key hclaimed)
    · cases hclaimed

theorem Exclusive.puts (h : Exclusive hasher table l tr) {key : String × String} {reply : Except ChannelError Unit}
    (hmay : (l i).may (.add key)) (htable : table ⊆ table') (hreply : reply = .ok () → DynamoDbDedupeStore.pk hasher key ∈ table') :
    Exclusive hasher table' (Function.update l i ((l i).next (.add key) reply)) (tr ++ [⟨i,.add key,reply⟩]) := by
  have habsent := absent_of_add hmay
  have hfree : ∀ key, l i ≠ .claimed key := fun key hclaimed => by
    rw [habsent] at hclaimed
    cases hclaimed
  cases reply with
  | error x =>
    refine h.moves hfree htable (fun key' hholds => ?_) (fun key' hclaimed => ?_) rfl
    · rcases hholds with hholds | hholds <;> cases hholds
    · cases hclaimed
  | ok u =>
    refine h.moves hfree htable (fun key' hholds j hj hheld => ?_) (fun key' hclaimed => ?_) rfl
    · obtain rfl : key = key' := by
        rcases hholds with habsent | hclaimed
        · cases habsent
        · cases hclaimed
          rfl
      exact hj (h.unique j i key hheld (.inl habsent))
    · cases hclaimed
      exact hreply rfl

theorem exclusive_step {c : Deliveries ι} {o : AirlockOp} {k : Except ChannelError o.Ret → Airlocked}
    {x : DynamoDbDedupeStore.Input o}
    (hguard : noLookupBeforePut c ⟨i,o,((DynamoDbDedupeStore.device hasher).perform o x c.state).1⟩
      (c.advance i (k ((DynamoDbDedupeStore.device hasher).perform o x c.state).1)
        ((DynamoDbDedupeStore.device hasher).perform o x c.state).2))
    (hkeeps : KeepsAll (fun _ => contract) (fun _ => Over) l c.threads) (h : Exclusive hasher c.state l tr) (hmay : (l i).may o) :
    Exclusive hasher ((DynamoDbDedupeStore.device hasher).perform o x c.state).2
      (Function.update l i ((l i).next o ((DynamoDbDedupeStore.device hasher).perform o x c.state).1))
      (tr ++ [⟨i,o,((DynamoDbDedupeStore.device hasher).perform o x c.state).1⟩]) := by
  cases o with
  | verifyChain e => exact h.quiet fun key hkey => by cases hkey
  | drop record => exact h.quiet fun key hkey => by cases hkey
  | verdict record => exact h.quiet fun key hkey => by cases hkey
  | screen e =>
    refine h.quiet fun key hkey => ?_
    cases hkey
    exact claimed_of_screen hmay
  | contains key =>
    refine h.looks hmay (fun hreply hstored => ?_) fun hreply j hj habsent => ?_
    · cases x with
      | answered => simp [DynamoDbDedupeStore.device,DynamoDbDedupeStore.contains,hstored] at hreply
      | refused e => cases hreply
      | lost e => cases hreply
    · have hkept := hkeeps j
      rw [habsent] at hkept
      refine hguard key ?_ j hj (head_of_absent hkept)
      rw [hreply]
      rfl
  | add key =>
    cases x with
    | answered => exact h.puts hmay (subset_putItem hasher key c.state) fun _ => mem_putItem hasher key c.state
    | refused e => exact h.puts hmay (List.Subset.refl _) nofun
    | lost e => exact h.puts hmay (subset_putItem hasher key c.state) nofun

theorem exclusive_preserved : Preserved (DynamoDbDedupeStore.device hasher) noLookupBeforePut (fun _ : ι => contract) (fun _ => Over)
    (Exclusive hasher) where
  heard _ _ _ _ _ _ _ _ _ := trivial
  next _ _ _ _ _ _ _ _ hguard hkeeps h hmay := exclusive_step hguard hkeeps h hmay

end Runs

def deliveries {ι : Type} {Request : ι → Type} (a : (i : ι) → Airlock (Request i)) (request : (i : ι) → Request i)
    (table : List String) : Deliveries ι := ⟨table,fun i => (a i).dispatchOutcome (request i)⟩

theorem accepted_once_between_puts {ι : Type} [DecidableEq ι] {Request : ι → Type} (a : (i : ι) → Airlock (Request i))
    (request : (i : ι) → Request i) (hasher : Hasher) (table : List String) (tr : DeliveryTrace ι) (c : Deliveries ι)
    (h : Run (DynamoDbDedupeStore.device hasher) noLookupBeforePut (deliveries a request table) tr c) : OncePerKey tr c := by
  have hstart : Exclusive hasher table (fun _ : ι => Standing.fresh) [] := by
    refine ⟨fun i j key hi => ?_,fun i key hi => ?_,fun e he => ?_⟩
    · rcases hi with hi | hi <;> cases hi
    · cases hi
    · cases he
  obtain ⟨hkeeps,hexclusive⟩ := h.staged_from_start exclusive_preserved (fun i => (a i).keeps_dispatchOutcome (request i)) hstart
  refine ⟨fun i j o o' key hi hj haccepts haccepts' => ?_,fun e he e' he' key hkey hkey' => ?_⟩
  · have hdone := hkeeps i
    have hdone' := hkeeps j
    rw [hi] at hdone
    rw [hj] at hdone'
    exact hexclusive.unique i j key (.inr (hdone.2 o key rfl haccepts)) (.inr (hdone'.2 o' key rfl haccepts'))
  · exact hexclusive.unique _ _ key (.inr (hexclusive.screened e he key hkey)) (.inr (hexclusive.screened e' he' key hkey'))

namespace OwnerDesk

def screening : Airlock WebhookRequest := { airlock with screens := true }

def redelivered : Deliveries Bool := deliveries (fun _ => screening) (fun _ => command) []

def healthy : Oracle (DynamoDbDedupeStore.device hasher)
  | .verifyChain _ => .ok (.passed none none false none)
  | .contains _ => TableReply.answered
  | .add _ => TableReply.answered
  | .screen _ => .ok (.plain true)
  | .drop _ => .ok ()
  | .verdict _ => .ok ()

def overlapping : List (Bool × Oracle (DynamoDbDedupeStore.device hasher)) := [false,true,false,true,false,true].map (·,healthy)

def serial : List (Bool × Oracle (DynamoDbDedupeStore.device hasher)) := [false,false,true,false].map (·,healthy)

def key : String × String := ("alice","ev-1")

def acceptedKey (c : Deliveries Bool) (i : Bool) : Option (Option (String × String)) :=
  (c.threads i).outcome.bind fun r => r.toOption.map DispatchOutcome.accepts

def screenedBy (tr : DeliveryTrace Bool) : List (Bool × (String × String)) :=
  tr.filterMap fun e => e.op.screens.map (e.thread,·)

theorem overlapping_accepts : acceptedKey (play (DynamoDbDedupeStore.device hasher) overlapping redelivered).2 false = some (some key) ∧
    acceptedKey (play (DynamoDbDedupeStore.device hasher) overlapping redelivered).2 true = some (some key) := by decide +kernel

theorem overlapping_screens : screenedBy (play (DynamoDbDedupeStore.device hasher) overlapping redelivered).1 =
    [(false,key),(true,key)] := by decide +kernel

theorem redelivery_accepted_twice : ∃ tr c, Run (DynamoDbDedupeStore.device hasher) anyStep redelivered tr c ∧
    acceptedKey c false = some (some key) ∧ acceptedKey c true = some (some key) ∧
    screenedBy tr = [(false,key),(true,key)] ∧ ¬ OncePerKey tr c := by
  obtain ⟨hfirst,hsecond⟩ := overlapping_accepts
  refine ⟨_,_,play_run overlapping redelivered,hfirst,hsecond,overlapping_screens,fun h => ?_⟩
  obtain ⟨o,ho,haccepts⟩ := Prog.ret_of_outcome hfirst
  obtain ⟨o',ho',haccepts'⟩ := Prog.ret_of_outcome hsecond
  cases h.accepted false true o o' key ho ho' haccepts haccepts'

def putsNext (c : Deliveries Bool) (i : Bool) : Option (String × String) :=
  (c.threads i).head.bind fun o => match o with
    | .add key => some key
    | _ => none

def lookupsApart (c : Deliveries Bool) (e : Event Bool AirlockOp AirlockOp.Ret ChannelError) (_ : Deliveries Bool) : Bool :=
  (foundAbsent e).all fun key => putsNext c (!e.thread) != some key

theorem lookupsApart_sound (c : Deliveries Bool) (e : Event Bool AirlockOp AirlockOp.Ret ChannelError) (c' : Deliveries Bool)
    (h : lookupsApart c e c' = true) : noLookupBeforePut c e c' := by
  intro key hfound j hj hhead
  obtain rfl : j = !e.thread := Bool.eq_not.mpr hj
  simp [lookupsApart,hfound,putsNext,hhead] at h

theorem serial_checked : checked (DynamoDbDedupeStore.device hasher) lookupsApart serial redelivered = true := by decide +kernel

theorem serial_accepts : acceptedKey (play (DynamoDbDedupeStore.device hasher) serial redelivered).2 false = some (some key) ∧
    acceptedKey (play (DynamoDbDedupeStore.device hasher) serial redelivered).2 true = some none := by decide +kernel

theorem accepted_once_serial : ∃ tr c, Run (DynamoDbDedupeStore.device hasher) noLookupBeforePut redelivered tr c ∧
    acceptedKey c false = some (some key) ∧ acceptedKey c true = some none ∧ OncePerKey tr c := by
  have hrun := play_checked lookupsApart_sound serial redelivered serial_checked
  exact ⟨_,_,hrun,serial_accepts.1,serial_accepts.2,accepted_once_between_puts _ _ hasher [] _ _ hrun⟩

end OwnerDesk

end SafeAgents.Channels
