import SafeAgents.Enforcement.Footprint
import SafeAgents.Interleaving.History

namespace SafeAgents

open Interleaving

namespace Enforcement

abbrev History := List (Saw Op Op.Ret Exn)

def taken (draw : CounterDraw) : Saw Op Op.Ret Exn := ⟨.store (.tryIncrementCounter draw.key draw.delta draw.cap),.ok true⟩

def Request.draws (q : Request) : List CounterDraw := ⟨q.counterKey,q.counterDelta,q.counterCap⟩ :: q.ancestorDraws

structure Journaled (call : BrokeredCall) (effective : Decision) (journal : History) : Prop where
  written : ∃ entry tsCreated, journal =
    [⟨.env .uuid,.ok entry.entryId⟩,⟨.env .nowIso,.ok tsCreated⟩,⟨.store (.writeLedger entry),.ok ()⟩] ∧
    entry.callJson = call ∧ entry.decisionKind = effective.kind ∧ entry.status = .uncommitted

structure Cleared (q : Request) (cb : Callbacks) (effective : Decision) (own : History) : Prop where
  steps : ∃ reads judged journal facts revalidated, own = reads ++ (judged ++ (q.draws.map taken ++ journal)) ∧
    Plays (cb.freshFacts q.call) reads (.ok facts) ∧ Plays (cb.decider q.call facts) judged (.ok revalidated) ∧
    Journaled q.call effective journal ∧ effective = q.initialDecision.pickStricter revalidated
  executes : effective.executes = true

def HandsOff : Op → Prop
  | .env (.doer _ _ _) => False
  | _ => True

theorem handsOff_of_bookkeeps {claimedKey : Option String} {o : Op} (h : Bookkeeps claimedKey o) : HandsOff o := by
  cases o with
  | env o => cases o <;> trivial
  | _ => trivial

section Tells
variable {α : Type} {heard : (o : Op) → Except Exn o.Ret → Prop} {M : History → Op → Prop} {p : Act α}

theorem tells_handsOff (hM : ∀ own o, HandsOff o → M own o) (hp : Uses HandsOff p) :
    Tells heard M (fun own r => Plays p own r ∧ ∀ saw ∈ own, HandsOff saw.op) p :=
  (tells_plays hp hM).only hp fun own o _ ho => hM own o ho

theorem tells_drawAncestors (hM : ∀ own o, HandsOff o → M own o) (effective : Decision) (pool : List CounterDraw) :
    Tells heard M (fun own r => ∀ d, r = .ok d → d.executes = true → d = effective ∧ own = pool.map taken)
      (drawAncestors pool effective) := by
  induction pool generalizing M with
  | nil =>
    rintro d ⟨⟩ -
    exact ⟨rfl,rfl⟩
  | cons draw pool ih =>
    refine (tells_call_bind (o := Op.store (.tryIncrementCounter draw.key draw.delta draw.cap))).mpr
      ⟨hM _ _ trivial,fun won _ => ?_,fun e _ d hd => by cases hd⟩
    cases won with
    | true =>
      refine (ih fun own o => hM _ o).mono (fun _ _ h => h) fun own r h d hr hd => ?_
      obtain ⟨rfl,rfl⟩ := h d hr hd
      exact ⟨rfl,rfl⟩
    | false =>
      rintro d ⟨⟩ hd
      cases hd

theorem tells_drawBudget (hM : ∀ own o, HandsOff o → M own o) (q : Request) (effective : Decision) :
    Tells heard M (fun own r => ∀ d, r = .ok d → d.executes = true → d = effective ∧ own = q.draws.map taken)
      (drawBudget q.counterKey q.counterDelta q.counterCap q.ancestorDraws effective) := by
  unfold drawBudget
  split
  · refine (tells_call_bind (o := Op.store (.tryIncrementCounter q.counterKey q.counterDelta q.counterCap))).mpr
      ⟨hM _ _ trivial,fun won _ => ?_,fun e _ d hd => by cases hd⟩
    cases won with
    | true =>
      refine (tells_drawAncestors (fun own o => hM _ o) effective q.ancestorDraws).mono (fun _ _ h => h) fun own r h d hr hd => ?_
      obtain ⟨rfl,rfl⟩ := h d hr hd
      exact ⟨rfl,rfl⟩
    | false =>
      rintro d ⟨⟩ hd
      cases hd
  · next hrefuses =>
    rintro d ⟨⟩ hd
    exact absurd hd hrefuses

theorem tells_journal (hM : ∀ own o, HandsOff o → M own o) (q : Request) (effective : Decision) :
    Tells heard M (fun own r => ∀ entryId, r = .ok entryId → Journaled q.call effective own) (journal q effective) := by
  refine (tells_call_bind (o := Op.env .uuid)).mpr ⟨hM _ _ trivial,fun entryId _ => ?_,fun e _ d hd => by cases hd⟩
  refine (tells_call_bind (o := Op.env .nowIso)).mpr ⟨hM _ _ trivial,fun tsCreated _ => ?_,fun e _ d hd => by cases hd⟩
  refine (tells_call_bind (o := Op.store (.writeLedger _))).mpr ⟨hM _ _ trivial,fun _ _ => ?_,fun e _ d hd => by cases hd⟩
  rintro _ ⟨⟩
  exact ⟨{ entryId, idempotencyKey := q.idempotencyKey, callJson := q.call, decisionKind := effective.kind,
           status := .uncommitted, tsCreated },tsCreated,rfl,rfl,rfl,rfl⟩

end Tells

section Enforce
variable {heard : (o : Op) → Except Exn o.Ret → Prop} {M : History → Op → Prop} {q : Request} {cb : Callbacks}
  {executor : BrokeredCall → Decision → Act ConnectorResult} {claimedKey : Option String}
  (facts : ∀ call, Uses HandsOff (cb.freshFacts call)) (decides : ∀ call facts, Uses HandsOff (cb.decider call facts))

include facts decides

theorem tells_prepare (hM : ∀ own o, HandsOff o → M own o) :
    Tells heard M (fun own r => ∀ out, r = .ok out → out.1.executes = true → Cleared q cb out.1 own) (prepare q cb) := by
  unfold prepare
  refine (tells_plays (facts q.call) hM).bind (fun reads current hreads => ?_) fun own e _ d hd => by cases hd
  refine (tells_plays (decides q.call current) fun own o => hM _ o).bind (fun judged revalidated hjudged => ?_)
    fun own e _ d hd => by cases hd
  refine (tells_drawBudget (fun own o => hM _ o) q (q.initialDecision.pickStricter revalidated)).bind
    (fun drawn effective hdrawn => ?_) fun own e _ d hd => by cases hd
  refine (tells_journal (fun own o => hM _ o) q effective).bind (fun written entryId hwritten => ?_)
    fun own e _ d hd => by cases hd
  rintro _ ⟨⟩ hexecutes
  obtain ⟨rfl,rfl⟩ := hdrawn _ rfl hexecutes
  refine ⟨⟨reads,judged,written,current,revalidated,?_,hreads,hjudged,hwritten _ rfl,rfl⟩,hexecutes⟩
  simp

theorem tells_prepareOrRelease (hM : ∀ own o, HandsOff o → M own o) :
    Tells heard M (fun own r => ∀ out, r = .ok out → out.1.executes = true → Cleared q cb out.1 own)
      (prepareOrRelease q cb claimedKey) := by
  refine (tells_prepare facts decides hM).tryCatch (fun _ _ h => h) fun own e _ => ?_
  refine (uses_releaseIfClaimed.mono fun _ => handsOff_of_bookkeeps).tells (V := fun _ _ => True) (fun _ o => hM _ o)
    (fun _ _ => trivial) |>.bind (fun own' _ _ => ?_) fun own' e' _ d hd => by cases hd
  exact fun d hd => by cases hd

variable (hcb : cb.executor = some executor)
include hcb

omit facts decides in
theorem tells_executeStep (hM : ∀ own o, HandsOff o → M own o) {effective : Decision} (entryId : String)
    (hexec : effective.executes = true → Tells heard M (fun _ _ => True) (executor q.call effective)) :
    Tells heard M (fun _ _ => True) (executeStep q cb claimedKey entryId effective) := by
  have quiet {α : Type} {p : Act α} {N : History → Op → Prop} (hN : ∀ own o, HandsOff o → N own o)
      (hp : Uses (Bookkeeps claimedKey) p) : Tells heard N (fun _ _ => True) p :=
    (hp.mono fun _ => handsOff_of_bookkeeps).tells hN fun _ _ => trivial
  have ran (heff : effective.executes = true) : Tells heard M (fun _ _ => True) (do
      let result ← runExecutor q cb claimedKey entryId effective
      commit entryId
      return result) := by
    refine Tells.bind (V := fun _ _ => True) ?_ (fun own result _ => ?_) fun _ _ _ => trivial
    · simp only [runExecutor,hcb]
      refine (hexec heff).tryCatch (fun _ _ h => h) fun own e _ => ?_
      split
      · exact quiet (fun own o => hM _ o) (uses_sagaFailure q entryId e)
      · trivial
    · exact (quiet (fun own o => hM _ o) (uses_commit entryId)).bind (fun _ _ _ => trivial) fun _ _ _ => trivial
  cases effective with
  | allow => exact ran rfl
  | transform op args => exact ran rfl
  | requireApproval renderedIntent reason => trivial
  | deny reason => exact (quiet hM (uses_commit entryId)).bind (fun _ _ _ => trivial) fun _ _ _ => trivial
  | abstain escalate reason => exact (quiet hM (uses_commit entryId)).bind (fun _ _ _ => trivial) fun _ _ _ => trivial

theorem tells_enforceClaimed (hM : ∀ own o, HandsOff o → M own o)
    (hexec : ∀ own effective, Cleared q cb effective own → (∀ saw ∈ own, HandsOff saw.op) →
      Tells heard (fun own' => M (own ++ own')) (fun _ _ => True) (executor q.call effective)) :
    Tells heard M (fun _ _ => True) (enforceClaimed q cb claimedKey) := by
  have books : ∀ o, Bookkeeps claimedKey o → HandsOff o := fun _ => handsOff_of_bookkeeps
  have prepared : Uses HandsOff (prepareOrRelease q cb claimedKey) :=
    .tryCatch (uses_prepare q books (fun _ _ _ => trivial) facts decides) fun _ => .bind (uses_releaseIfClaimed.mono books) fun _ => trivial
  refine ((tells_prepareOrRelease facts decides hM).only prepared fun _ _ h _ => h).bind (fun own out hcleared => ?_)
    fun _ _ _ => trivial
  refine (tells_executeStep hcb (fun own o => hM _ o) out.2
    fun heff => hexec own out.1 (hcleared.1 _ rfl heff) hcleared.2).bind (fun own' result _ => ?_) fun _ _ _ => trivial
  have settles : Uses HandsOff (settleClaim claimedKey out.1 result) := (uses_settleClaim out.1 result).mono books
  exact (settles.tells (V := fun _ _ => True) (fun _ o => hM _ o) fun _ _ => trivial).bind (fun _ _ _ => trivial) fun _ _ _ => trivial

theorem tells_enforce (hM : ∀ own o, HandsOff o → M own o)
    (hexec : ∀ claimed own effective, Cleared q cb effective own → (∀ saw ∈ claimed ++ own, HandsOff saw.op) →
      Tells heard (fun own' => M (claimed ++ (own ++ own'))) (fun _ _ => True) (executor q.call effective)) :
    Tells heard M (fun _ _ => True) (enforce q cb) := by
  unfold enforce
  split
  · exact tells_enforceClaimed facts decides hcb hM (hexec [])
  · next key _ =>
    have claiming : Uses HandsOff (claim key) := uses_claim.mono fun _ => handsOff_of_bookkeeps
    refine (tells_handsOff hM claiming).bind (fun claimed settled hclaimed => ?_) fun _ _ _ => trivial
    cases settled with
    | some out => trivial
    | none =>
      refine tells_enforceClaimed facts decides hcb (fun own o => hM _ o) fun own effective hcleared hown => ?_
      exact hexec claimed own effective hcleared fun saw hsaw => (List.mem_append.mp hsaw).elim (hclaimed.2 saw) (hown saw)

end Enforce

end Enforcement

end SafeAgents
