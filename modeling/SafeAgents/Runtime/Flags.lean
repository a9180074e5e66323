import SafeAgents.Approval.OnePermit
import SafeAgents.Enforcement.CounterKeys
import SafeAgents.Runtime.Releases

namespace SafeAgents

open Interleaving Enforcement

namespace Runtime

def flagMarkerPrefix : String := "flag-marker"

def flagMarkerCap : ℚ := 1

def flaggedByOwnerReason : String := "flagged by owner"

def flagMarkerKey (intentId : String) : String := flagMarkerPrefix ++ ":" ++ intentId

-- The instant whose period a flag's mark lands on: when the op took effect, or the hold for a row that does not say.
def effectiveAt (intent : Intent) : Instant := intent.executedAt.getD intent.ts

def recovered {α : Type} (p : Act α) : Act (Except Exn α) :=
  tryCatch
    (do
      let a ← p
      return .ok a)
    fun e => if e.isException then return .error e else throw e

namespace BrokerRuntime
variable (R : BrokerRuntime)

def falseActionKey (intent : Intent) : String :=
  scopedCounterKey intent.materializedRequest.principal intent.materializedRequest.tool intent.materializedRequest.op
    (periodBucketOf (effectiveAt intent) R.counterPeriod) CounterKeys.falseActionSuffix

def flagRecord (intent : Intent) (intentId flaggedBy : String) : AuditRecord :=
  { R.callRecord intent.materializedRequest .requireApproval .flagged with
    reason := some flaggedByOwnerReason
    intentId := some intentId
    storedCallDigest := some (R.digests.hashStoredCall intent.materializedRequest)
    actorDigest := some (R.actorDigest flaggedBy)
    evidenceBucket := some (periodBucketOf (effectiveAt intent) R.counterPeriod) }

def markFalseAction (intent : Intent) (intentId flaggedBy : String) : Act Approval.ExecutionResult := do
  match ← recovered (store (.tryIncrementCounter (R.falseActionKey intent) 1 unboundedCounterCap)) with
  | .error e => return refusedExecution intentId ("flag counter write failed: " ++ e.str)
  | .ok _ =>
    match ← recovered (emit (R.flagRecord intent intentId flaggedBy)) with
    | .error e => return refusedExecution intentId ("flag audit write failed: " ++ e.str)
    | .ok _ => return refusedExecution intentId flaggedByOwnerReason

def claimFlag (intent : Intent) (intentId flaggedBy : String) : Act Approval.ExecutionResult := do
  match ← recovered (store (.tryIncrementCounter (flagMarkerKey intentId) 1 flagMarkerCap)) with
  | .error e => return refusedExecution intentId ("flag marker write failed: " ++ e.str)
  | .ok false => return refusedExecution intentId "intent already flagged"
  | .ok true => R.markFalseAction intent intentId flaggedBy

def flagFound (intent : Option Intent) (intentId flaggedBy : String) : Act Approval.ExecutionResult :=
  if R.foreign intent then return foreignIntentResult intentId
  else
    match intent with
    | none => return refusedExecution intentId "intent not found"
    | some intent =>
      if intent.status = .executed then R.claimFlag intent intentId flaggedBy
      else return refusedExecution intentId ("intent not executed (current status: " ++ intent.status.text ++ ")")

def flagIntent (intentId flaggedBy : String) : Act Approval.ExecutionResult := do
  match ← readIntent intentId with
  | .quarantined intentId reason => R.quarantinedIntentResult intentId reason "flag"
  | .found intent => R.flagFound intent intentId flaggedBy

end BrokerRuntime

def Flagged (R : BrokerRuntime) (intentId flaggedBy : String) (own : Seen) : Prop :=
  ∃ intent counted, intent.status = .executed ∧ R.ownsIntent intent = true ∧
    own = [⟨.intents (.getIntent intentId),.ok (some intent)⟩,
      ⟨.store (.tryIncrementCounter (flagMarkerKey intentId) 1 flagMarkerCap),.ok true⟩,
      ⟨.store (.tryIncrementCounter (R.falseActionKey intent) 1 unboundedCounterCap),.ok counted⟩,
      ⟨.audit (R.flagRecord intent intentId flaggedBy),.ok ()⟩]

section Replies
variable {R : BrokerRuntime} {intentId flaggedBy reason : String} {own : Seen} {reply : Approval.ExecutionResult}

theorem plays_recovered {α : Type} {p : Act α} {out : Except Exn α} (h : Plays (recovered p) own (.ok out)) : Plays p own out := by
  obtain ⟨tried,caught,r,rfl,htried,hcaught⟩ := plays_attempt h
  obtain ⟨ran,last,got,rfl,hgot,hlast⟩ := plays_attempt htried
  cases got with
  | ok a =>
    obtain ⟨rfl,rfl⟩ := plays_ret.mp hlast
    obtain ⟨rfl,hout⟩ := plays_ret.mp hcaught
    cases hout
    simpa using hgot
  | error e =>
    obtain ⟨rfl,rfl⟩ := plays_raise.mp hlast
    dsimp only [Prog.orElse] at hcaught
    split at hcaught
    · obtain ⟨rfl,hout⟩ := plays_ret.mp hcaught
      cases hout
      simpa using hgot
    · obtain ⟨-,hbad⟩ := plays_raise.mp hcaught
      cases hbad

theorem not_clean {text : String} (hne : text ≠ flaggedByOwnerReason) :
    (refusedExecution intentId text).rejectionReason ≠ some flaggedByOwnerReason := by simpa [refusedExecution] using hne

theorem prefix_ne {head rest text : String} (h : ¬ head.toList <+: text.toList) : head ++ rest ≠ text := by
  rintro rfl
  exact h (by simp [String.toList_append])

theorem plays_readIntent {found : Option Intent} (h : Plays (BrokerRuntime.readIntent intentId) own (.ok (.found found))) :
    own = [⟨.intents (.getIntent intentId),.ok found⟩] := by
  rcases plays_tryCatch h with ⟨read,hread,hran⟩ | ⟨first,last,e,rfl,-,hlast⟩
  · cases hread
    obtain ⟨reading,last,got,rfl,hreading,hlast⟩ := plays_bind_ok hran
    obtain ⟨rfl,hout⟩ := plays_ret.mp hlast
    cases hout
    simpa using plays_called hreading
  · split at hlast
    · obtain ⟨-,hout⟩ := plays_ret.mp hlast
      cases hout
    · obtain ⟨-,hout⟩ := plays_raise.mp hlast
      cases hout

theorem plays_markFalseAction {intent : Intent} (h : Plays (R.markFalseAction intent intentId flaggedBy) own (.ok reply))
    (hclean : reply.rejectionReason = some flaggedByOwnerReason) : ∃ counted,
      own = [⟨.store (.tryIncrementCounter (R.falseActionKey intent) 1 unboundedCounterCap),.ok counted⟩,
        ⟨.audit (R.flagRecord intent intentId flaggedBy),.ok ()⟩] := by
  obtain ⟨counting,rest,counted,rfl,hcounting,hrest⟩ := plays_bind_ok h
  cases counted with
  | error e =>
    obtain ⟨-,hreply⟩ := plays_ret.mp hrest
    cases hreply
    exact absurd hclean (not_clean (prefix_ne (by decide)))
  | ok b =>
    obtain ⟨recording,last,recorded,rfl,hrecording,hlast⟩ := plays_bind_ok hrest
    cases recorded with
    | error e =>
      obtain ⟨-,hreply⟩ := plays_ret.mp hlast
      cases hreply
      exact absurd hclean (not_clean (prefix_ne (by decide)))
    | ok _ =>
      obtain ⟨rfl,-⟩ := plays_ret.mp hlast
      obtain rfl := plays_called (plays_recovered hcounting)
      obtain rfl := plays_called (plays_recovered hrecording)
      exact ⟨b,rfl⟩

theorem plays_claimFlag {intent : Intent} (h : Plays (R.claimFlag intent intentId flaggedBy) own (.ok reply))
    (hclean : reply.rejectionReason = some flaggedByOwnerReason) : ∃ counted,
      own = [⟨.store (.tryIncrementCounter (flagMarkerKey intentId) 1 flagMarkerCap),.ok true⟩,
        ⟨.store (.tryIncrementCounter (R.falseActionKey intent) 1 unboundedCounterCap),.ok counted⟩,
        ⟨.audit (R.flagRecord intent intentId flaggedBy),.ok ()⟩] := by
  obtain ⟨claiming,rest,claimed,rfl,hclaiming,hrest⟩ := plays_bind_ok h
  rcases claimed with e | _ | _
  · obtain ⟨-,hreply⟩ := plays_ret.mp hrest
    cases hreply
    exact absurd hclean (not_clean (prefix_ne (by decide)))
  · obtain ⟨-,hreply⟩ := plays_ret.mp hrest
    cases hreply
    exact absurd hclean (not_clean (by decide))
  · obtain rfl := plays_called (plays_recovered hclaiming)
    obtain ⟨counted,rfl⟩ := plays_markFalseAction hrest hclean
    exact ⟨counted,rfl⟩

theorem flagged_of_clean (h : Plays (R.flagIntent intentId flaggedBy) own (.ok reply))
    (hclean : reply.rejectionReason = some flaggedByOwnerReason) : Flagged R intentId flaggedBy own := by
  obtain ⟨reading,rest,read,rfl,hreading,hrest⟩ := plays_bind_ok h
  rcases read with found | ⟨quarantinedId,why⟩
  · obtain rfl := plays_readIntent hreading
    dsimp only [BrokerRuntime.flagFound] at hrest
    split at hrest
    · obtain ⟨-,hreply⟩ := plays_ret.mp hrest
      cases hreply
      exact absurd hclean (not_clean (by decide))
    · next hforeign =>
      cases found with
      | none =>
        obtain ⟨-,hreply⟩ := plays_ret.mp hrest
        cases hreply
        exact absurd hclean (not_clean (by decide))
      | some intent =>
        dsimp only at hrest
        split at hrest
        · next hexecuted =>
          obtain ⟨counted,rfl⟩ := plays_claimFlag hrest hclean
          exact ⟨intent,counted,hexecuted,by simpa [BrokerRuntime.foreign] using hforeign,rfl⟩
        · obtain ⟨-,hreply⟩ := plays_ret.mp hrest
          cases hreply
          rw [String.append_assoc] at hclean
          exact absurd hclean (not_clean (prefix_ne (by decide)))
  · obtain ⟨surfacing,last,_,rfl,-,hlast⟩ := plays_bind_ok hrest
    obtain ⟨-,hreply⟩ := plays_ret.mp hlast
    cases hreply
    exact absurd hclean (not_clean (prefix_ne (by decide)))

end Replies

def labels : Op → Bool
  | .store (.tryIncrementCounter _ _ cap) => cap = unboundedCounterCap
  | _ => false

def wonMarker (intentId : String) : Saw Op Op.Ret Exn := ⟨.store (.tryIncrementCounter (flagMarkerKey intentId) 1 flagMarkerCap),.ok true⟩

def LabelsOnce (intentId : String) (own : Seen) (o : Op) : Prop :=
  labels o = true → wonMarker intentId ∈ own ∧ ∀ saw ∈ own, labels saw.op = false

section Labelling
variable {R : BrokerRuntime} {intentId flaggedBy : String} {α : Type} {p : Act α}

theorem flagMarker_unlabelled : labels (.store (.tryIncrementCounter (flagMarkerKey intentId) 1 flagMarkerCap)) = false := by
  simp [labels,flagMarkerCap,unboundedCounterCap]
  norm_num

theorem tells_recovered {heard : (o : Op) → Except Exn o.Ret → Prop} {M : Seen → Op → Prop} {V : Seen → Except Exn α → Prop}
    (hp : Tells heard M V p) : Tells heard M (fun own r => ∀ out, r = .ok out → V own out) (recovered p) := by
  have hraw : Tells heard M (fun own r => (∀ out, r = .ok out → V own out) ∧ ∀ e, r = .error e → V own (.error e)) (do
      let a ← p
      return Except.ok a : Act (Except Exn α)) := by
    refine Tells.bind hp (fun own a h => ?_) fun own e h => ⟨fun _ hout => (by cases hout),fun e' he => ?_⟩
    · rw [tells_pure,List.append_nil]
      refine ⟨fun out hout => ?_,fun _ he => (by cases he)⟩
      obtain rfl := Except.ok.inj hout
      exact h
    · obtain rfl := Except.error.inj he
      exact h
  refine Tells.tryCatch hraw (fun own out h => ?_) fun own e h => ?_
  · rintro _ ⟨⟩
    exact h.1 _ rfl
  · split
    · rw [tells_pure,List.append_nil]
      rintro _ ⟨⟩
      exact h.2 _ rfl
    · rw [tells_throw]
      rintro _ ⟨⟩

theorem labelsOnce_of_quiet {own : Seen} {o : Op} (h : labels o = false) : LabelsOnce intentId own o := fun hlabel => by
  simp [h] at hlabel

theorem tells_quiet {V : Seen → Except Exn α → Prop} (hp : Uses (fun o => labels o = false) p) (own : Seen)
    (hV : ∀ own' r, V own' r) : Tells (fun _ _ => True) (fun own' => LabelsOnce intentId (own ++ own')) V p :=
  hp.tells (fun _ _ => labelsOnce_of_quiet) hV

theorem tells_markFalseAction {intent : Intent} {before : Seen} (hwon : wonMarker intentId ∈ before)
    (hnone : ∀ saw ∈ before, labels saw.op = false) :
    Tells (fun _ _ => True) (fun own => LabelsOnce intentId (before ++ own)) (fun _ _ => True)
      (R.markFalseAction intent intentId flaggedBy) := by
  have hdraw : LabelsOnce intentId (before ++ []) (.store (.tryIncrementCounter (R.falseActionKey intent) 1 unboundedCounterCap)) :=
    fun _ => by simpa using ⟨hwon,hnone⟩
  have hcall : Tells (fun _ _ => True) (fun own => LabelsOnce intentId (before ++ own)) (fun _ _ => True)
      (store (.tryIncrementCounter (R.falseActionKey intent) 1 unboundedCounterCap)) :=
    (tells_call (o := Op.store (.tryIncrementCounter (R.falseActionKey intent) 1 unboundedCounterCap)) (V := fun _ _ => True)).mpr
      ⟨hdraw,fun _ _ => trivial⟩
  refine Tells.bind (tells_recovered hcall) (fun own counted _ => ?_) fun _ _ _ => trivial
  simp only [← List.append_assoc]
  refine tells_quiet ?_ _ fun _ _ => trivial
  cases counted with
  | error e => trivial
  | ok b =>
    refine .bind (.tryCatch (.bind (uses_emit.mpr rfl) fun _ => trivial) fun e => ?_) fun recorded => ?_
    · split <;> trivial
    · cases recorded <;> trivial

theorem tells_claimFlag {intent : Intent} {before : Seen} (hnone : ∀ saw ∈ before, labels saw.op = false) :
    Tells (fun _ _ => True) (fun own => LabelsOnce intentId (before ++ own)) (fun _ _ => True)
      (R.claimFlag intent intentId flaggedBy) := by
  refine Tells.bind (V := fun own r => ∀ out, r = .ok out →
    own = [⟨.store (.tryIncrementCounter (flagMarkerKey intentId) 1 flagMarkerCap),out⟩]) ?_ (fun own claimed h => ?_) fun _ _ _ => trivial
  · refine tells_recovered (V := fun own out => own = [⟨.store (.tryIncrementCounter (flagMarkerKey intentId) 1 flagMarkerCap),out⟩]) ?_
    exact tells_call.mpr ⟨labelsOnce_of_quiet flagMarker_unlabelled,fun _ _ => rfl⟩
  · obtain rfl := h claimed rfl
    rcases claimed with e | _ | _
    · trivial
    · trivial
    · simp only [← List.append_assoc]
      refine tells_markFalseAction (by simp [wonMarker]) fun saw hsaw => ?_
      rcases List.mem_append.mp hsaw with hbefore | hclaim
      · exact hnone saw hbefore
      · obtain rfl := List.mem_singleton.mp hclaim
        exact flagMarker_unlabelled

theorem tells_flagIntent : Tells (fun _ _ => True) (LabelsOnce intentId) (fun _ _ => True) (R.flagIntent intentId flaggedBy) := by
  have hread : Uses (fun o => labels o = false) (BrokerRuntime.readIntent intentId) := by
    refine .tryCatch (.bind (uses_intents.mpr rfl) fun _ => trivial) fun e => ?_
    split <;> trivial
  refine Tells.bind ((tells_quiet hread [] fun _ _ => trivial).only hread fun _ _ h _ => h) (fun own found h => ?_) fun _ _ _ => trivial
  rcases found with held | ⟨quarantinedId,why⟩
  · dsimp only [BrokerRuntime.flagFound]
    split
    · trivial
    · cases held with
      | none => trivial
      | some intent =>
        dsimp only
        split
        · exact tells_claimFlag h.2
        · trivial
  · refine tells_quiet ?_ own fun _ _ => trivial
    exact .bind (uses_emit.mpr rfl) fun _ => trivial

end Labelling

section Marker
variable {ι β : Type} {intentId : String} {B : Substrate} {G : Guard ι Op Op.Ret Exn State β} {c c' : Config ι Op Op.Ret Exn State β}
  {e : Event ι Op Op.Ret Exn} {tr : List (Event ι Op Op.Ret Exn)}

def Grows (key : String) : Op → Prop
  | .store (.tryIncrementCounter key' delta _) => key' = key → 0 ≤ delta
  | _ => True

def winsMarker (intentId : String) : Event ι Op Op.Ret Exn → Bool
  | ⟨_,.store (.tryIncrementCounter key delta cap),.ok true⟩ => key = flagMarkerKey intentId ∧ delta = 1 ∧ cap = flagMarkerCap
  | _ => false

theorem winsMarker_iff : winsMarker intentId e = true ↔
    e = ⟨e.thread,.store (.tryIncrementCounter (flagMarkerKey intentId) 1 flagMarkerCap),.ok true⟩ := by
  constructor
  · intro h
    unfold winsMarker at h
    split at h
    · simp only [decide_eq_true_eq] at h
      obtain ⟨rfl,rfl,rfl⟩ := h
      rfl
    · cases h
  · intro h
    rw [h]
    simp [winsMarker]

theorem value_grows {key : String} {o : Op} {x : Substrate.Input o} {s : State} (ho : Grows key o) :
    Budget.value s key ≤ Budget.value (B.perform o x s).2 key := by
  cases o with
  | store o =>
    by_cases hdraw : ∃ key' delta cap, o = .tryIncrementCounter key' delta cap
    · obtain ⟨key',delta,cap,rfl⟩ := hdraw
      refine Delivery.receive_state (P := fun es : EnforcementState => Budget.value s key ≤ es.counter key) x le_rfl ?_
      rw [StoreOp.apply,Budget.counter_setCounter]
      split
      · next hkey =>
        subst hkey
        rcases B.backend.tryIncrementCounter_spec (s.enforcement.counters key') delta cap with hout | ⟨hout,-⟩
        · rw [hout]
          exact le_rfl
        · rw [hout]
          exact le_add_of_nonneg_right (ho rfl)
      · exact le_rfl
    · have hsame : Budget.value (B.perform (.store o) x s).2 key = Budget.value s key := by
        simp only [Budget.value,EnforcementState.counter,Substrate.perform]
        rw [Budget.counter_of_not_draw _ x fun key' delta cap h => hdraw ⟨key',delta,cap,h⟩]
      exact hsame.ge
  | _ => exact le_rfl

theorem value_won {s : State} {x : Delivery}
    (h : (B.perform (.store (.tryIncrementCounter (flagMarkerKey intentId) 1 flagMarkerCap)) x s).1 = .ok true) :
    Budget.value (B.perform (.store (.tryIncrementCounter (flagMarkerKey intentId) 1 flagMarkerCap)) x s).2 (flagMarkerKey intentId) =
      Budget.value s (flagMarkerKey intentId) + 1 ∧ Budget.value s (flagMarkerKey intentId) + 1 ≤ 1 := by
  cases x with
  | fault e => cases h
  | lost e => cases h
  | answered =>
    have hwon : (B.backend.tryIncrementCounter (s.enforcement.counters (flagMarkerKey intentId)) 1 flagMarkerCap).1 = true := by
      simpa [Substrate.perform,Delivery.receive,StoreOp.apply] using h
    rcases B.backend.tryIncrementCounter_spec (s.enforcement.counters (flagMarkerKey intentId)) 1 flagMarkerCap with hout | ⟨hout,hle⟩
    · rw [hout] at hwon
      cases hwon
    · refine ⟨?_,hle⟩
      simp [Budget.value,Substrate.perform,Delivery.receive,StoreOp.apply,hout,EnforcementState.counter,EnforcementState.setCounter]

variable [DecidableEq ι]

theorem markers_le_one (h : Run B.device G c tr c') (hgrows : ∀ e ∈ tr, Grows (flagMarkerKey intentId) e.op)
    (hstart : 0 ≤ Budget.value c.state (flagMarkerKey intentId)) :
    tr.countP (winsMarker intentId) ≤ 1 ∧ (tr.countP (winsMarker intentId) : ℚ) ≤ Budget.value c'.state (flagMarkerKey intentId) := by
  induction h with
  | refl => simpa using hstart
  | @step c' c'' tr e hrun hs hg ih =>
    obtain ⟨hone,hcovered⟩ := ih fun e' he' => hgrows e' (List.mem_append_left _ he')
    have hgrow := hgrows e (List.mem_append_right _ (List.mem_singleton.mpr rfl))
    rw [List.countP_append,List.countP_singleton]
    by_cases hwon : winsMarker intentId e = true
    · rw [winsMarker_iff.mp hwon] at hs
      obtain ⟨x,hreply,hstate⟩ := hs.effect
      obtain ⟨hnext,hroom⟩ := value_won hreply.symm
      have hvalue : Budget.value c''.state (flagMarkerKey intentId) = Budget.value c'.state (flagMarkerKey intentId) + 1 := by
        rw [hstate]
        exact hnext
      have hnone : tr.countP (winsMarker intentId) = 0 := by
        have hle : (tr.countP (winsMarker intentId) : ℚ) ≤ 0 := by linarith
        exact_mod_cast le_antisymm hle (Nat.cast_nonneg _)
      rw [if_pos hwon,hnone]
      refine ⟨le_rfl,?_⟩
      rw [hnone] at hcovered
      push_cast at hcovered ⊢
      linarith
    · rw [if_neg hwon,Nat.add_zero]
      obtain ⟨x,-,hstate⟩ := hs.effect
      refine ⟨hone,hcovered.trans ?_⟩
      rw [hstate]
      exact value_grows hgrow

end Marker

section Runs
variable {ι : Type} [DecidableEq ι] {intentId : String} {B : Substrate} {G : Guard ι Op Op.Ret Exn State Approval.ExecutionResult}
  {c c' : Config ι Op Op.Ret Exn State Approval.ExecutionResult} {tr : List (Event ι Op Op.Ret Exn)} {flagger : ι → Bool}

def ReturnsClean (c : Config ι Op Op.Ret Exn State Approval.ExecutionResult) (i : ι) : Prop :=
  ∃ reply, c.threads i = .ret reply ∧ reply.rejectionReason = some flaggedByOwnerReason

theorem flagged_of_returned (h : Run B.device G c tr c') {i : ι} {R : BrokerRuntime} {flaggedBy : String}
    (hthread : c.threads i = R.flagIntent intentId flaggedBy) (hclean : ReturnsClean c' i) : Flagged R intentId flaggedBy (own i tr) := by
  obtain ⟨reply,hreturned,hreason⟩ := hclean
  have hplayed := h.played hreturned
  rw [hthread] at hplayed
  exact flagged_of_clean hplayed hreason

theorem labels_le_markers (h : Run B.device G c tr c')
    (hflags : ∀ i, flagger i = true → ∃ R flaggedBy, c.threads i = BrokerRuntime.flagIntent R intentId flaggedBy) :
    tr.countP (fun e => flagger e.thread && labels e.op) ≤ tr.countP (winsMarker intentId) := by
  refine countP_le_of_preceded fun tr₁ e tr₂ htr hlabel => ?_
  obtain ⟨hflagger,hlabels⟩ := Bool.and_eq_true_iff.mp hlabel
  obtain ⟨R,flaggedBy,hthread⟩ := hflags e.thread hflagger
  have htells : Tells (fun _ _ => True) (LabelsOnce intentId) (fun _ _ => True) (R.flagIntent intentId flaggedBy) := tells_flagIntent
  rw [← hthread] at htells
  obtain ⟨hwon,hnone⟩ := h.follows (i := e.thread) (o := e.op) (r := e.reply) htells htr hlabels
  constructor
  · intro e' hmem hlabel' hsame
    have hseen : (⟨e'.op,e'.reply⟩ : Saw Op Op.Ret Exn) ∈ own e.thread tr₁ := mem_own.mpr (hsame ▸ hmem)
    have hquiet := hnone _ hseen
    simp [hquiet] at hlabel'
  · exact ⟨_,mem_own.mp hwon,winsMarker_iff.mpr rfl,rfl⟩

theorem flagged_once (h : Run B.device G c tr c') (hgrows : ∀ e ∈ tr, Grows (flagMarkerKey intentId) e.op)
    (hstart : 0 ≤ Budget.value c.state (flagMarkerKey intentId))
    (hflags : ∀ i, flagger i = true → ∃ R flaggedBy, c.threads i = BrokerRuntime.flagIntent R intentId flaggedBy) :
    tr.countP (fun e => flagger e.thread && labels e.op) ≤ 1 ∧
      (∀ i j, flagger i = true → flagger j = true → ReturnsClean c' i → ReturnsClean c' j → i = j) ∧
      ∀ i R flaggedBy, c.threads i = BrokerRuntime.flagIntent R intentId flaggedBy → ReturnsClean c' i →
        Flagged R intentId flaggedBy (own i tr) := by
  have hmarkers := (markers_le_one h hgrows hstart).1
  refine ⟨(labels_le_markers h hflags).trans hmarkers,fun i j hi hj hcleani hcleanj => ?_,fun i R flaggedBy hthread hclean =>
    flagged_of_returned h hthread hclean⟩
  have won (k : ι) (hk : flagger k = true) (hclean : ReturnsClean c' k) : ∃ e ∈ tr, e.thread = k ∧ winsMarker intentId e = true := by
    obtain ⟨R,flaggedBy,hthread⟩ := hflags k hk
    obtain ⟨intent,counted,-,-,hown⟩ := flagged_of_returned h hthread hclean
    exact ⟨_,mem_own.mp (hown ▸ List.mem_cons_of_mem _ (List.mem_cons_self ..)),rfl,winsMarker_iff.mpr rfl⟩
  by_contra hne
  have hcard : ({i,j} : Finset ι).card ≤ tr.countP (winsMarker intentId) := by
    refine Approval.card_le_countP fun k hk => ?_
    rcases Finset.mem_insert.mp hk with rfl | hk
    · exact won k hi hcleani
    · obtain rfl := Finset.mem_singleton.mp hk
      exact won k hj hcleanj
  rw [Finset.card_pair hne] at hcard
  omega

end Runs

theorem BrokerRuntime.uses_flagIntent (R : BrokerRuntime) {P : Op → Prop} (reads : ∀ intentId, P (.intents (.getIntent intentId)))
    (draws : ∀ key cap, P (.store (.tryIncrementCounter key 1 cap))) (records : ∀ record, P (.audit record))
    (intentId flaggedBy : String) : Uses P (R.flagIntent intentId flaggedBy) := by
  have hrecovered {α : Type} {p : Act α} (hp : Uses P p) : Uses P (recovered p) := by
    refine .tryCatch (.bind hp fun _ => trivial) fun e => ?_
    split <;> trivial
  refine .bind (.tryCatch (.bind (uses_intents.mpr (reads intentId)) fun _ => trivial) fun e => ?_) fun read => ?_
  · split <;> trivial
  · rcases read with held | ⟨quarantinedId,why⟩
    · dsimp only [BrokerRuntime.flagFound]
      split
      · trivial
      · cases held with
        | none => trivial
        | some intent =>
          dsimp only
          split
          · refine .bind (hrecovered (uses_store.mpr (draws _ _))) fun claimed => ?_
            rcases claimed with e | _ | _
            · trivial
            · trivial
            · refine .bind (hrecovered (uses_store.mpr (draws _ _))) fun counted => ?_
              cases counted with
              | error e => trivial
              | ok b =>
                refine .bind (hrecovered (uses_emit.mpr (records _))) fun recorded => ?_
                cases recorded <;> trivial
          · trivial
    · exact .bind (uses_emit.mpr (records _)) fun _ => trivial

theorem grows_flagIntent (R : BrokerRuntime) (key intentId flaggedBy : String) : Uses (Grows key) (R.flagIntent intentId flaggedBy) :=
  R.uses_flagIntent (fun _ => trivial) (fun _ _ _ => zero_le_one) (fun _ => trivial) intentId flaggedBy

def sentMail : State :=
  { emptyState with approval := IntentState.empty.setItem "m1" (intentItemAttrs memory.hmac { heldMail with status := .executed }) }

def flaggers : Config Bool Op Op.Ret Exn State Approval.ExecutionResult := ⟨sentMail,fun _ => mailBroker.flagIntent "m1" "ann"⟩

def mailFlagged : List (Event Bool Op Op.Ret Exn) × Config Bool Op Op.Ret Exn State Approval.ExecutionResult :=
  play memory.device (turns false 1 ++ turns true 4 ++ turns false 3) flaggers

theorem flagged_once_raced : ReturnsClean mailFlagged.2 true ∧
    mailFlagged.1.countP (fun e => labels e.op) ≤ 1 ∧
      (∀ i j, ReturnsClean mailFlagged.2 i → ReturnsClean mailFlagged.2 j → i = j) ∧
      Flagged mailBroker "m1" "ann" (own true mailFlagged.1) := by
  have hrun : Run memory.device anyStep flaggers mailFlagged.1 mailFlagged.2 := play_run _ _
  have hgrows : ∀ e ∈ mailFlagged.1, Grows (flagMarkerKey "m1") e.op := by
    intro e he
    obtain ⟨tr₁,tr₂,htr⟩ := List.append_of_mem he
    exact hrun.follows (i := e.thread) (o := e.op) (r := e.reply)
      ((grows_flagIntent mailBroker _ "m1" "ann").tells (M := fun _ => Grows (flagMarkerKey "m1")) (V := fun _ _ => True)
        (fun _ _ ho => ho) fun _ _ => trivial) htr
  have hclean : ReturnsClean mailFlagged.2 true := by
    have hreplied : (mailFlagged.2.threads true).outcome.bind (fun r => r.toOption.map Approval.ExecutionResult.rejectionReason) =
        some (some flaggedByOwnerReason) := by decide +kernel
    exact Prog.ret_of_outcome hreplied
  have hflags : ∀ i, (fun _ : Bool => true) i = true → ∃ R flaggedBy, flaggers.threads i = BrokerRuntime.flagIntent R "m1" flaggedBy :=
    fun _ _ => ⟨mailBroker,"ann",rfl⟩
  obtain ⟨hlabels,honly,hflagged⟩ := flagged_once hrun hgrows le_rfl hflags
  exact ⟨hclean,by simpa using hlabels,fun i j => honly i j rfl rfl,hflagged true mailBroker "ann" rfl hclean⟩

end Runtime

end SafeAgents
