import Mathlib.Logic.Relation
import SafeAgents.Approval.Store
import SafeAgents.Grants.Proposals
import SafeAgents.Schemas.WireCall

namespace SafeAgents.Wire

open Calendar Json

structure Intent (F : Type) where
  id : String
  materializedRequest : BrokeredCall F
  renderedForHuman : String
  status : IntentStatus
  expiry : String
  approvedBy : Option String := none
  ts : String
  executedAt : Option String := none

structure IntentItem where
  data : Option String
  intentHash : Option String
  status : Option String
  approvedBy : Option String := none
  executedAt : Option String := none
  pendingPrincipal : Option String := none
  pendingExpiry : Option Int := none
  deriving DecidableEq

inductive IntentError where
  | quarantined (intentId reason : String)
  | alreadyPending (intentId : String)
  | value
  | key (name : String)
  | validation
  deriving DecidableEq

structure IntentFormat (F : Type) where
  float : FloatFormat F
  lax : Coercion F
  hmac : String → String
  repr : Option Json → String

def IntentStatus.all : List IntentStatus := [.pending,.approved,.rejected,.expired,.executed,.refused,.permitted]

theorem IntentStatus.text_injective {a b : IntentStatus} (h : a.text = b.text) : a = b := by
  revert h
  cases a <;> cases b <;> decide

section Store
variable {F : Type} (fmt : IntentFormat F)

def payloadMembers (intent : Intent F) : List (String × Json) :=
  [("expiry",.str intent.expiry),
   ("id",.str intent.id),
   ("materializedRequest",intent.materializedRequest.json fmt.float),
   ("renderedForHuman",.str intent.renderedForHuman),
   ("ts",.str intent.ts)]

def canonicalIntentPayload (intent : Intent F) : String := (Json.obj (payloadMembers fmt intent)).dumps

def replaceZulu (text : String) : String := String.ofList (text.toList.flatMap fun c => if c = 'Z' then "+00:00".toList else [c])

def expiryEpoch (expiry : String) : Except IntentError Int :=
  match fromisoformat (replaceZulu expiry) with
  | none => .error .value
  | some parsed => .ok ((parsed.clock - parsed.offset.getD 0) / microsPerSecond)

def intentItemAttrs (intent : Intent F) : Except IntentError IntentItem := do
  let payload := canonicalIntentPayload fmt intent
  let item : IntentItem :=
    { data := some payload
      intentHash := some (fmt.hmac payload)
      status := some intent.status.text
      approvedBy := intent.approvedBy
      executedAt := intent.executedAt }
  if intent.status = .pending then
    let epoch ← expiryEpoch intent.expiry
    return { item with pendingPrincipal := some intent.materializedRequest.principal.key, pendingExpiry := some epoch }
  else return item

def required {α : Type} (fields : List (String × Json)) (name : String) (read : Json → Option α) : Except IntentError α :=
  match field fields name with
  | none => .error (.key name)
  | some j =>
    match read j with
    | none => .error .validation
    | some a => .ok a

def readStatus (item : IntentItem) : Except IntentError IntentStatus :=
  match item.status with
  | none => .error (.key "status")
  | some text =>
    match IntentStatus.all.find? fun status => status.text == text with
    | none => .error .validation
    | some status => .ok status

def intentFromPayload (intentId : String) (item : IntentItem) (fields : List (String × Json)) : Except IntentError (Intent F) := do
  let materializedRequest ← required fields "materializedRequest" (BrokeredCall.modelValidate fmt.float fmt.lax)
  let renderedForHuman ← required fields "renderedForHuman" str?
  let status ← readStatus item
  let expiry ← required fields "expiry" str?
  let ts ← required fields "ts" str?
  return { id := intentId, materializedRequest, renderedForHuman, status, expiry, approvedBy := item.approvedBy, ts,
           executedAt := item.executedAt }

def intentFromItem (intentId : String) (item : IntentItem) : Except IntentError (Intent F) :=
  match item.data,item.intentHash with
  | some data,some storedHash =>
    if storedHash ≠ fmt.hmac data then
      .error (.quarantined intentId
        "HMAC mismatch over stored intent bytes; the item cannot be verified and must not release anything")
    else
      match Json.loads data with
      | some (.obj fields) =>
        if (field fields "id").bind str? ≠ some intentId then
          .error (.quarantined intentId ("stored payload identity " ++ fmt.repr (field fields "id") ++
            " does not match the row key " ++ pyRepr intentId ++ " (cross-row replay)"))
        else intentFromPayload fmt intentId item fields
      | _ => .error .value
  | _,_ =>
    .error (.quarantined intentId
      "stored item is missing its data or intentHash attribute; the item cannot be verified and must not release anything")

def transitioned (item : IntentItem) (new : IntentStatus) (approvedBy executedAt : Option String) : IntentItem where
  data := item.data
  intentHash := item.intentHash
  status := some new.text
  approvedBy := approvedBy.or item.approvedBy
  executedAt := executedAt.or item.executedAt
  pendingPrincipal := if new = .pending then item.pendingPrincipal else none
  pendingExpiry := if new = .pending then item.pendingExpiry else none

end Store

section Stored
variable {F : Type} {fmt : IntentFormat F} {intent : Intent F} {item : IntentItem} {intentId : String}

structure Intent.Admitted (fmt : IntentFormat F) (intent : Intent F) : Prop where
  accepted : intent.materializedRequest.accepted fmt.float = true
  args : intent.materializedRequest.args.Proper

theorem payload_proper (h : intent.Admitted fmt) : (Json.obj (payloadMembers fmt intent)).Proper := by
  apply proper_obj ["expiry","id","materializedRequest","renderedForHuman","ts"] rfl (by decide)
  exact ⟨trivial,trivial,BrokeredCall.json_proper fmt.float h.args,trivial,trivial,trivial⟩

theorem loads_payload (h : intent.Admitted fmt) :
    Json.loads (canonicalIntentPayload fmt intent) = some (.obj (payloadMembers fmt intent)) := loads_dumps (payload_proper h)

theorem readStatus_text {status : IntentStatus} (h : item.status = some status.text) : readStatus item = .ok status := by
  rw [readStatus,h]
  cases status <;> rfl

theorem intentFromPayload_members (h : intent.Admitted fmt) {status : IntentStatus} (hstatus : item.status = some status.text) :
    intentFromPayload fmt intentId item (payloadMembers fmt intent) =
      .ok { intent with id := intentId, status, approvedBy := item.approvedBy, executedAt := item.executedAt } := by
  have hrequest := BrokeredCall.modelValidate_json fmt.float fmt.lax h.accepted
  have hread := readStatus_text hstatus
  simp [intentFromPayload,required,payloadMembers,field,hrequest,str?,hread,bind,Except.bind,pure,Except.pure]

structure Sealed (fmt : IntentFormat F) (item : IntentItem) (intent : Intent F) : Prop where
  data : item.data = some (canonicalIntentPayload fmt intent)
  hash : item.intentHash = some (fmt.hmac (canonicalIntentPayload fmt intent))

theorem intentFromItem_sealed (h : intent.Admitted fmt) (hsealed : Sealed fmt item intent) :
    intentFromItem fmt intentId item =
      if intent.id = intentId then intentFromPayload fmt intentId item (payloadMembers fmt intent)
      else .error (.quarantined intentId ("stored payload identity " ++ fmt.repr (some (.str intent.id)) ++
        " does not match the row key " ++ pyRepr intentId ++ " (cross-row replay)")) := by
  have hid : field (payloadMembers fmt intent) "id" = some (.str intent.id) := by simp [payloadMembers,field]
  simp only [intentFromItem,hsealed.data,hsealed.hash,loads_payload h,hid,Option.bind_some,str?]
  by_cases hrow : intent.id = intentId
  · simp [hrow]
  · simp [hrow]

theorem intentItemAttrs_sealed (h : intentItemAttrs fmt intent = .ok item) :
    Sealed fmt item intent ∧ item.status = some intent.status.text ∧ item.approvedBy = intent.approvedBy ∧
      item.executedAt = intent.executedAt := by
  rw [intentItemAttrs] at h
  split at h
  · cases hepoch : expiryEpoch intent.expiry with
    | error e => simp [hepoch,bind,Except.bind] at h
    | ok epoch =>
      simp only [hepoch,bind,Except.bind,pure,Except.pure,Except.ok.injEq] at h
      subst h
      exact ⟨⟨rfl,rfl⟩,rfl,rfl,rfl⟩
  · cases h
    exact ⟨⟨rfl,rfl⟩,rfl,rfl,rfl⟩

theorem intentFromItem_attrs (h : intent.Admitted fmt) (hitem : intentItemAttrs fmt intent = .ok item) :
    intentFromItem fmt intent.id item = .ok intent := by
  obtain ⟨hsealed,hstatus,happroved,hexecuted⟩ := intentItemAttrs_sealed hitem
  rw [intentFromItem_sealed h hsealed,if_pos rfl,intentFromPayload_members h hstatus,happroved,hexecuted]

theorem transitioned_sealed (hsealed : Sealed fmt item intent) (new : IntentStatus) (approvedBy executedAt : Option String) :
    Sealed fmt (transitioned item new approvedBy executedAt) intent := ⟨hsealed.data,hsealed.hash⟩

theorem intentFromItem_transitioned (h : intent.Admitted fmt) (hsealed : Sealed fmt item intent) (new : IntentStatus)
    (approvedBy executedAt : Option String) :
    intentFromItem fmt intent.id (transitioned item new approvedBy executedAt) =
      .ok { intent with status := new, approvedBy := approvedBy.or item.approvedBy, executedAt := executedAt.or item.executedAt } := by
  rw [intentFromItem_sealed h (transitioned_sealed hsealed new approvedBy executedAt),if_pos rfl,intentFromPayload_members h rfl]
  rfl

end Stored

section Runs
variable {F : Type} {fmt : IntentFormat F}

structure IntentTable (F : Type) where
  rows : String → Option IntentItem := fun _ => none
  written : List (Intent F) := []

def IntentTable.setRow (s : IntentTable F) (intentId : String) (item : Option IntentItem) : IntentTable F :=
  { s with rows := Function.update s.rows intentId item }

theorem setRow_self (s : IntentTable F) (intentId : String) (item : Option IntentItem) : (s.setRow intentId item).rows intentId = item :=
  Function.update_self _ _ _

-- Without the key, a tag that verifies is one the key holder made.
def Unforged (fmt : IntentFormat F) (written : List (Intent F)) (item : IntentItem) : Prop :=
  ∀ data, item.data = some data → item.intentHash = some (fmt.hmac data) → ∃ w ∈ written, data = canonicalIntentPayload fmt w

inductive IntentStep (fmt : IntentFormat F) : IntentTable F → IntentTable F → Prop where
  | put {s : IntentTable F} {intent : Intent F} {item : IntentItem} (hadmitted : intent.Admitted fmt)
      (hitem : intentItemAttrs fmt intent = .ok item)
      (hfree : (s.rows intent.id).bind IntentItem.status ≠ some IntentStatus.pending.text) :
      IntentStep fmt s { s.setRow intent.id (some item) with written := intent :: s.written }
  | transition {s : IntentTable F} {intentId : String} {item : IntentItem} {expected new : IntentStatus}
      {approvedBy executedAt : Option String} (hrow : s.rows intentId = some item) (hstatus : item.status = some expected.text) :
      IntentStep fmt s (s.setRow intentId (some (transitioned item new approvedBy executedAt)))
  | tamper {s : IntentTable F} {intentId : String} {item : IntentItem} (hunforged : Unforged fmt s.written item) :
      IntentStep fmt s (s.setRow intentId (some item))
  | delete {s : IntentTable F} {intentId : String} : IntentStep fmt s (s.setRow intentId none)

def IntentReachable (fmt : IntentFormat F) (s : IntentTable F) : Prop := Relation.ReflTransGen (IntentStep fmt) {} s

structure Genuine (fmt : IntentFormat F) (s : IntentTable F) : Prop where
  admitted : ∀ w ∈ s.written, w.Admitted fmt
  unforged : ∀ intentId item, s.rows intentId = some item → Unforged fmt s.written item

theorem Unforged.mono {written later : List (Intent F)} {item : IntentItem} (h : Unforged fmt written item)
    (hsub : ∀ w ∈ written, w ∈ later) : Unforged fmt later item := by
  intro data hdata hhash
  obtain ⟨w,hw,heq⟩ := h data hdata hhash
  exact ⟨w,hsub w hw,heq⟩

theorem Genuine.setRow {s : IntentTable F} (h : Genuine fmt s) {intentId : String} {item : Option IntentItem}
    (hitem : ∀ i, item = some i → Unforged fmt s.written i) : Genuine fmt (s.setRow intentId item) where
  admitted := h.admitted
  unforged := by
    intro k stored hstored
    by_cases hk : k = intentId
    · subst hk
      exact hitem stored (by simpa [IntentTable.setRow] using hstored)
    · exact h.unforged k stored (by simpa [IntentTable.setRow,hk] using hstored)

theorem sealed_unforged {intent : Intent F} {item : IntentItem} {written : List (Intent F)} (h : Sealed fmt item intent)
    (hmem : intent ∈ written) : Unforged fmt written item := by
  intro data hdata _
  rw [h.data] at hdata
  exact ⟨intent,hmem,(Option.some.inj hdata).symm⟩

theorem genuine_step {s t : IntentTable F} (h : Genuine fmt s) (hstep : IntentStep fmt s t) : Genuine fmt t := by
  cases hstep with
  | @put intent item hadmitted hitem _ =>
    have hsealed := (intentItemAttrs_sealed hitem).1
    refine ⟨?_,?_⟩
    · intro w hw
      rcases List.mem_cons.mp hw with rfl | hw
      · exact hadmitted
      · exact h.admitted w hw
    · intro k stored hstored
      by_cases hk : k = intent.id
      · subst hk
        obtain rfl : item = stored := by simpa [IntentTable.setRow] using hstored
        exact sealed_unforged hsealed (by simp)
      · have hold : s.rows k = some stored := by simpa [IntentTable.setRow,hk] using hstored
        exact (h.unforged k stored hold).mono fun w hw => List.mem_cons_of_mem _ hw
  | @transition intentId item _ new approvedBy executedAt hrow _ =>
    apply h.setRow
    rintro i ⟨⟩
    exact h.unforged intentId item hrow
  | tamper hunforged =>
    apply h.setRow
    rintro i ⟨⟩
    exact hunforged
  | delete =>
    apply h.setRow
    rintro i ⟨⟩

theorem genuine_reachable {s : IntentTable F} (h : IntentReachable fmt s) : Genuine fmt s := by
  induction h with
  | refl => exact ⟨by simp,by simp⟩
  | tail _ hstep ih => exact genuine_step ih hstep

theorem sealed_or_quarantined {s : IntentTable F} (h : Genuine fmt s) {intentId : String} {item : IntentItem}
    (hrow : s.rows intentId = some item) :
    (∃ w ∈ s.written, w.id = intentId ∧ Sealed fmt item w) ∨
      ∃ reason, intentFromItem fmt intentId item = .error (.quarantined intentId reason) := by
  cases hdata : item.data with
  | none => exact .inr ⟨_,by simp only [intentFromItem,hdata]; rfl⟩
  | some data =>
    cases hhash : item.intentHash with
    | none => exact .inr ⟨_,by simp only [intentFromItem,hdata,hhash]; rfl⟩
    | some storedHash =>
      by_cases htag : storedHash = fmt.hmac data
      · subst htag
        obtain ⟨w,hw,rfl⟩ := h.unforged intentId item hrow data hdata hhash
        have hsealed : Sealed fmt item w := ⟨hdata,hhash⟩
        by_cases hid : w.id = intentId
        · exact .inl ⟨w,hw,hid,hsealed⟩
        · exact .inr ⟨_,by rw [intentFromItem_sealed (h.admitted w hw) hsealed,if_neg hid]⟩
      · exact .inr ⟨_,by simp only [intentFromItem,hdata,hhash]; exact if_pos htag⟩

def ChangedQuarantined (fmt : IntentFormat F) : Prop :=
  ∀ (s : IntentTable F) (intentId : String) (stored item : IntentItem), IntentReachable fmt s → s.rows intentId = some stored →
    Unforged fmt s.written item → (item.data ≠ stored.data ∨ item.intentHash ≠ stored.intentHash) →
    ∃ reason, intentFromItem fmt intentId item = .error (.quarantined intentId reason)

theorem canonicalIntentPayload_members {a b : Intent F} (ha : a.Admitted fmt) (hb : b.Admitted fmt)
    (h : canonicalIntentPayload fmt a = canonicalIntentPayload fmt b) : payloadMembers fmt a = payloadMembers fmt b := by
  have hread := loads_payload ha
  rw [h,loads_payload hb,Option.some.injEq,Json.obj.injEq] at hread
  exact hread.symm

end Runs

section RoundTrip
variable {F : Type}

open Grants

theorem stored_bytes_round_trip (fmt : IntentFormat F) (isLabelLatency : String → Bool) :
    (∀ g : GrantDocument, g.accepted isLabelLatency = true →
      GrantDocument.modelValidateJson isLabelLatency (canonicalGrantPayload g) = some g) ∧
    (∀ r : PromotionRecord, r.accepted = true → PromotionRecord.modelValidateJson (canonicalRecordPayload r) = some r) ∧
    (∀ p : PromotionProposal F, p.accepted fmt.float = true →
      proposalFromJson fmt.float fmt.lax (proposalToJson fmt.float p) = some p) ∧
    (∀ (intent : Intent F) (item : IntentItem), intent.Admitted fmt → intentItemAttrs fmt intent = .ok item →
      intentFromItem fmt intent.id item = .ok intent) ∧
    (∀ (intent : Intent F) (item : IntentItem) (new : IntentStatus) (approvedBy executedAt : Option String),
      intent.Admitted fmt → Sealed fmt item intent →
      (transitioned item new approvedBy executedAt).data = item.data ∧
        (transitioned item new approvedBy executedAt).intentHash = item.intentHash ∧
        intentFromItem fmt intent.id (transitioned item new approvedBy executedAt) =
          .ok { intent with status := new, approvedBy := approvedBy.or item.approvedBy,
                            executedAt := executedAt.or item.executedAt }) ∧
    ∀ (s : IntentTable F) (intentId : String) (item : IntentItem), IntentReachable fmt s → s.rows intentId = some item →
      ¬ (∃ w ∈ s.written, w.id = intentId ∧ Sealed fmt item w) →
      ∃ reason, intentFromItem fmt intentId item = .error (.quarantined intentId reason) := by
  refine ⟨?_,?_,?_,?_,?_,?_⟩
  · intro g hg
    exact GrantDocument.modelValidateJson_canonical hg
  · intro r hr
    exact PromotionRecord.modelValidateJson_canonical hr
  · intro p hp
    exact PromotionProposal.proposalFromJson_toJson fmt.float fmt.lax hp
  · intro intent item hadmitted hitem
    exact intentFromItem_attrs hadmitted hitem
  · intro intent item new approvedBy executedAt hadmitted hsealed
    exact ⟨rfl,rfl,intentFromItem_transitioned hadmitted hsealed new approvedBy executedAt⟩
  · intro s intentId item hreachable hrow hunsealed
    exact (sealed_or_quarantined (genuine_reachable hreachable) hrow).resolve_left hunsealed

end RoundTrip

namespace Held

def format : IntentFormat Int where
  float := wholeFloats
  lax := noCoercion
  hmac := fun text => "k" ++ text
  repr := fun _ => "None"

def intent : Intent Int where
  id := "intent-1"
  materializedRequest :=
    { principal := { agentId := "mailer", skill := "inbox", user := "sam", tier := .B }
      tool := "email"
      op := "send"
      args := .obj [("cc",.null),("copies",.num "2"),("to",.arr [.str "a@example.org"])]
      manifest := { tool := "email", op := "send", effect := .write, external := true, reversible := some false,
                    destinationArg := some "to" }
      taint := { tainted := true, sources := ["web"] }
      session := { turnId := "t1", ingestedSources := ["web"] }
      ts := "2026-01-01T00:00:00+00:00"
      confidence := some { confidence := 1, errorProb := 0, evidence := .selfConsistency 3 1, computedAt := "2026-01-01" } }
  renderedForHuman := "email.send to a@example.org"
  status := .approved
  expiry := "2026-01-02T00:00:00Z"
  approvedBy := some "local:owner"
  ts := "2026-01-01T00:00:00+00:00"

def item : IntentItem where
  data := some (canonicalIntentPayload format intent)
  intentHash := some (format.hmac (canonicalIntentPayload format intent))
  status := some "approved"
  approvedBy := some "local:owner"

theorem admitted : intent.Admitted format where
  accepted := by decide
  args := by
    have hcopies : isNumeral "2".toList = true := by decide
    apply proper_obj ["cc","copies","to"] rfl (by decide)
    exact ⟨trivial,hcopies,⟨trivial,trivial⟩,trivial⟩

def held : Intent Int := { intent with status := .pending, approvedBy := none }

def reheld : Intent Int := { held with expiry := "2026-01-04T00:00:00Z", ts := "2026-01-03T00:00:00+00:00" }

def heldItem : IntentItem where
  data := item.data
  intentHash := item.intentHash
  status := some "pending"
  pendingPrincipal := some intent.materializedRequest.principal.key
  pendingExpiry := some 1767312000

def reheldItem : IntentItem where
  data := some (canonicalIntentPayload format reheld)
  intentHash := some (format.hmac (canonicalIntentPayload format reheld))
  status := some "pending"
  pendingPrincipal := some intent.materializedRequest.principal.key
  pendingExpiry := some 1767484800

theorem held_admitted : held.Admitted format := ⟨admitted.accepted,admitted.args⟩

theorem held_sealed : Sealed format item held := ⟨rfl,rfl⟩

theorem reheld_admitted : reheld.Admitted format := ⟨admitted.accepted,admitted.args⟩

theorem held_attrs : intentItemAttrs format held = .ok heldItem := by
  have hpending : held.status = .pending := rfl
  have hepoch : expiryEpoch held.expiry = .ok 1767312000 := by decide +kernel
  rw [intentItemAttrs,if_pos hpending,hepoch]
  rfl

theorem reheld_attrs : intentItemAttrs format reheld = .ok reheldItem := by
  have hpending : reheld.status = .pending := rfl
  have hepoch : expiryEpoch reheld.expiry = .ok 1767484800 := by decide +kernel
  rw [intentItemAttrs,if_pos hpending,hepoch]
  rfl

def heldTable : IntentTable Int := { ({} : IntentTable Int).setRow intent.id (some heldItem) with written := [held] }

theorem heldTable_reachable : IntentReachable format heldTable :=
  .single (.put held_admitted held_attrs (by simp))

theorem item_unforged {written : List (Intent Int)} (h : held ∈ written) : Unforged format written item :=
  sealed_unforged held_sealed h

def movedTable : IntentTable Int := heldTable.setRow "intent-2" (some item)

theorem movedTable_reachable : IntentReachable format movedTable :=
  heldTable_reachable.tail (.tamper (item_unforged (List.mem_singleton_self _)))

theorem stored_bytes_round_trip_approved :
    intent.Admitted format ∧ intentItemAttrs format intent = .ok item ∧ intentFromItem format intent.id item = .ok intent ∧
      IntentReachable format movedTable ∧ movedTable.rows "intent-2" = some item ∧
      ∃ reason, intentFromItem format "intent-2" item = .error (.quarantined "intent-2" reason) := by
  obtain ⟨-,-,-,reads,-,quarantines⟩ := stored_bytes_round_trip format fun _ => true
  have hrow : movedTable.rows "intent-2" = some item := setRow_self heldTable "intent-2" (some item)
  refine ⟨admitted,rfl,reads intent item admitted rfl,movedTable_reachable,hrow,?_⟩
  apply quarantines movedTable "intent-2" item movedTable_reachable hrow
  rintro ⟨w,hw,hid,-⟩
  obtain rfl := List.mem_singleton.mp hw
  exact absurd hid (by decide)

def rejectedTable : IntentTable Int := heldTable.setRow intent.id (some (transitioned heldItem .rejected none none))

def reheldTable : IntentTable Int := { rejectedTable.setRow intent.id (some reheldItem) with written := [reheld,held] }

theorem rejectedTable_reachable : IntentReachable format rejectedTable := by
  have hrow : heldTable.rows intent.id = some heldItem := setRow_self ({} : IntentTable Int) intent.id (some heldItem)
  have hpending : heldItem.status = some IntentStatus.pending.text := rfl
  exact heldTable_reachable.tail (.transition hrow hpending)

theorem reheldTable_reachable : IntentReachable format reheldTable := by
  have hrow : rejectedTable.rows intent.id = some (transitioned heldItem .rejected none none) := setRow_self _ _ _
  refine rejectedTable_reachable.tail (.put reheld_admitted reheld_attrs ?_)
  rw [show reheld.id = intent.id from rfl,hrow]
  decide

theorem rolled_back_hold_is_returned :
    IntentReachable format reheldTable ∧ reheldTable.rows intent.id = some reheldItem ∧ Unforged format reheldTable.written item ∧
      item.data ≠ reheldItem.data ∧ intentFromItem format intent.id item = .ok intent ∧ ¬ ChangedQuarantined format := by
  have hrow : reheldTable.rows intent.id = some reheldItem :=
    setRow_self rejectedTable intent.id (some reheldItem)
  have hunforged : Unforged format reheldTable.written item := item_unforged (List.mem_cons_of_mem _ List.mem_cons_self)
  have hchanged : item.data ≠ reheldItem.data := by
    intro hsame
    have hpayload : canonicalIntentPayload format intent = canonicalIntentPayload format reheld := Option.some.inj hsame
    have hmembers := canonicalIntentPayload_members admitted reheld_admitted hpayload
    have hexpiry : intent.expiry = reheld.expiry := by
      simp only [payloadMembers,List.cons.injEq,Prod.mk.injEq,Json.str.injEq] at hmembers
      exact hmembers.1.2
    exact absurd hexpiry (by decide)
  have hread : intentFromItem format intent.id item = .ok intent := intentFromItem_attrs admitted rfl
  refine ⟨reheldTable_reachable,hrow,hunforged,hchanged,hread,fun hquarantined => ?_⟩
  obtain ⟨reason,hrefused⟩ := hquarantined reheldTable intent.id reheldItem item reheldTable_reachable hrow hunforged (.inl hchanged)
  rw [hread] at hrefused
  cases hrefused

end Held

end SafeAgents.Wire
