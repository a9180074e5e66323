import SafeAgents.Channels.EventTrigger

namespace SafeAgents.Channels

open Json

def HopLabel.all : List HopLabel := [.trusted,.untrusted]

def SenderClass.all : List SenderClass := [.owner,.peerAgent,.external]

theorem HopLabel.text_injective {a b : HopLabel} (h : a.text = b.text) : a = b := by
  revert h
  cases a <;> cases b <;> decide

theorem SenderClass.text_injective {a b : SenderClass} (h : a.text = b.text) : a = b := by
  revert h
  cases a <;> cases b <;> decide

def members? : Json → Option (List (String × Json))
  | .obj fields => some fields
  | _ => none

def SenderIdentity.ofJson (j : Json) : Option SenderIdentity := do
  let fields ← fieldsOf ["channel_type","channel_identity","evidence"] j
  let channelType ← Json.required fields "channel_type" str?
  let channelIdentity ← Json.required fields "channel_identity" str?
  let evidence ← defaulted fields "evidence" [] (listOf str?)
  return ⟨channelType,channelIdentity,evidence⟩

def ProvenanceEntry.ofJson (j : Json) : Option ProvenanceEntry := do
  let fields ← fieldsOf ["zone","source","evidence","label","ts"] j
  let zone ← Json.required fields "zone" str?
  let source ← Json.required fields "source" str?
  let evidence ← defaulted fields "evidence" [] (listOf str?)
  let label ← Json.required fields "label" (oneOf HopLabel.text HopLabel.all)
  let ts ← Json.required fields "ts" str?
  (ProvenanceEntry.make zone source evidence label ts).toOption

def ChainSignature.make (keyId zone : String) (covers : Nat) (payloadType sig : String) : Except ChannelError ChainSignature :=
  if h : (nonBlank keyId && nonBlank zone && nonBlank sig && isSignatureText sig && decide (1 ≤ covers)) = true then
    .ok ⟨keyId,zone,covers,payloadType,sig,h⟩
  else .error (.validation ["key_id","zone","sig","covers"])

section Lax
-- What the reader makes of a value that is not an integer where one is expected.
variable (laxInt : Json → Option Int)

def ChainSignature.ofJson (j : Json) : Option ChainSignature := do
  let fields ← fieldsOf ["key_id","zone","covers","payload_type","sig"] j
  let keyId ← Json.required fields "key_id" str?
  let zone ← Json.required fields "zone" str?
  let covers ← Json.required fields "covers" fun j => (int? j).or (laxInt j)
  let payloadType ← Json.required fields "payload_type" str?
  let sig ← Json.required fields "sig" str?
  (ChainSignature.make keyId zone covers.toNat payloadType sig).toOption

def Draft.ofJson (j : Json) : Option Draft := do
  let fields ← fieldsOf ["schema_version","event_id","principal","audience","sender","payload","payload_digest","payload_ref",
    "provenance","chain_signatures","sender_class","ts","expiry"] j
  let schemaVersion ← defaulted fields "schema_version" 1 int?
  let eventId ← Json.required fields "event_id" str?
  let principal ← Json.required fields "principal" str?
  let audience ← Json.required fields "audience" str?
  let sender ← Json.required fields "sender" SenderIdentity.ofJson
  let payload ← Json.required fields "payload" members?
  let payloadDigest ← defaulted fields "payload_digest" none (nullable str?)
  let payloadRef ← defaulted fields "payload_ref" none (nullable str?)
  let provenance ← Json.required fields "provenance" (listOf ProvenanceEntry.ofJson)
  let chainSignatures ← defaulted fields "chain_signatures" [] (listOf (ChainSignature.ofJson laxInt))
  let senderClass ← defaulted fields "sender_class" none (nullable (oneOf SenderClass.text SenderClass.all))
  let ts ← Json.required fields "ts" str?
  let expiry ← Json.required fields "expiry" str?
  if schemaVersion = 1 then
    return { eventId, principal, audience, sender, payload, payloadDigest, payloadRef, provenance, chainSignatures, senderClass, ts,
             expiry }
  else none

def EventTrigger.modelValidateJson (body : String) : Option EventTrigger :=
  ((Json.loads body).bind (Draft.ofJson laxInt)).bind fun d => d.validated.toOption

end Lax

section RoundTrip
variable {laxInt : Json → Option Int}

theorem listOf_strs (texts : List String) : listOf str? (.arr (texts.map .str)) = some texts := listOf_map fun _ _ => rfl

theorem SenderIdentity.ofJson_json (s : SenderIdentity) : SenderIdentity.ofJson s.json = some s := by
  simp [SenderIdentity.ofJson,SenderIdentity.json,fieldsOf,Json.required,defaulted,field,str?,listOf_strs]

theorem ProvenanceEntry.make_self (p : ProvenanceEntry) : ProvenanceEntry.make p.zone p.source p.evidence p.label p.ts = .ok p := by
  rw [ProvenanceEntry.make,dif_pos p.namespaced,dif_pos p.aware]

theorem ProvenanceEntry.ofJson_json (p : ProvenanceEntry) : ProvenanceEntry.ofJson p.json = some p := by
  have hlabel : oneOf HopLabel.text HopLabel.all (.str p.label.text) = some p.label :=
    oneOf_text HopLabel.text_injective (by cases p.label <;> simp [HopLabel.all])
  simp [ProvenanceEntry.ofJson,ProvenanceEntry.json,fieldsOf,Json.required,defaulted,field,str?,listOf_strs,hlabel,p.make_self,
    Except.toOption]

theorem ChainSignature.make_self (s : ChainSignature) : ChainSignature.make s.keyId s.zone s.covers s.payloadType s.sig = .ok s := by
  rw [ChainSignature.make,dif_pos s.named]

theorem ChainSignature.ofJson_json (s : ChainSignature) : ChainSignature.ofJson laxInt s.json = some s := by
  simp [ChainSignature.ofJson,ChainSignature.json,fieldsOf,Json.required,field,str?,int?_ofInt,s.make_self,Except.toOption]

def EventTrigger.members (e : EventTrigger) : List (String × Json) :=
  [("schema_version",.ofInt 1),("event_id",.str e.eventId),("principal",.str e.principal),("audience",.str e.audience),
    ("sender",e.sender.json),("payload",.obj e.payload),("payload_digest",.ofOption e.payloadDigest),
    ("payload_ref",.ofOption e.payloadRef),("provenance",.arr (e.provenance.map ProvenanceEntry.json)),
    ("chain_signatures",.arr (e.chainSignatures.map ChainSignature.json)),
    ("sender_class",.ofOption (e.senderClass.map SenderClass.text)),("ts",.str e.ts),("expiry",.str e.expiry)]

theorem EventTrigger.json_members (e : EventTrigger) : e.json = .obj e.members := rfl

theorem EventTrigger.members_nodup (e : EventTrigger) : (e.members.map Prod.fst).Nodup := by
  rw [show e.members.map Prod.fst = ["schema_version","event_id","principal","audience","sender","payload","payload_digest",
    "payload_ref","provenance","chain_signatures","sender_class","ts","expiry"] from rfl]
  decide

theorem field_of_mem {fields : List (String × Json)} (hnodup : (fields.map Prod.fst).Nodup) {name : String} {value : Json}
    (h : (name,value) ∈ fields) : field fields name = some value := by
  induction fields with
  | nil => cases h
  | cons f fields ih =>
    obtain ⟨first,v⟩ := f
    simp only [List.map_cons,List.nodup_cons] at hnodup
    rcases List.mem_cons.mp h with heq | hmem
    · obtain ⟨rfl,rfl⟩ := Prod.mk.inj heq
      simp [field]
    · have hne : first ≠ name := by
        rintro rfl
        exact hnodup.1 (List.mem_map.mpr ⟨_,hmem,rfl⟩)
      have hrest := ih hnodup.2 hmem
      simpa [field,hne] using hrest

theorem Draft.ofJson_json (e : EventTrigger) : Draft.ofJson laxInt e.json = some e.toDraft := by
  have hclass : nullable (oneOf SenderClass.text SenderClass.all) (.ofOption (e.senderClass.map SenderClass.text)) =
      some e.senderClass := by
    cases e.senderClass with
    | none => rfl
    | some c =>
      have hread : oneOf SenderClass.text SenderClass.all (.str c.text) = some c :=
        oneOf_text SenderClass.text_injective (by cases c <;> simp [SenderClass.all])
      simp [nullable,ofOption,hread]
  have hhops : listOf ProvenanceEntry.ofJson (.arr (e.provenance.map ProvenanceEntry.json)) = some e.provenance :=
    listOf_map fun p _ => p.ofJson_json
  have hsigs : listOf (ChainSignature.ofJson laxInt) (.arr (e.chainSignatures.map ChainSignature.json)) = some e.chainSignatures :=
    listOf_map fun s _ => s.ofJson_json
  have hrequired : ∀ {α : Type} {name : String} {j : Json} {read : Json → Option α} {a : α}, (name,j) ∈ e.members →
      read j = some a → Json.required e.members name read = some a := by
    intro α name j read a hmem hread
    rw [Json.required,field_of_mem e.members_nodup hmem,Option.bind_some,hread]
  have hdefaulted : ∀ {α : Type} {name : String} {j : Json} {read : Json → Option α} {a default : α}, (name,j) ∈ e.members →
      read j = some a → defaulted e.members name default read = some a := by
    intro α name j read a default hmem hread
    rw [defaulted,field_of_mem e.members_nodup hmem]
    exact hread
  have htext : ∀ {name text : String}, (name,Json.str text) ∈ e.members → Json.required e.members name str? = some text :=
    fun hmem => hrequired hmem rfl
  have hpayload : Json.required e.members "payload" members? = some e.payload :=
    hrequired (show ("payload",Json.obj e.payload) ∈ e.members by simp [EventTrigger.members]) rfl
  have hfields : fieldsOf ["schema_version","event_id","principal","audience","sender","payload","payload_digest","payload_ref",
      "provenance","chain_signatures","sender_class","ts","expiry"] (.obj e.members) = some e.members := by
    rw [fieldsOf,if_pos]
    simp [EventTrigger.members]
  rw [EventTrigger.json_members,Draft.ofJson,bind_of_some hfields,
    bind_of_some (hdefaulted (show ("schema_version",_) ∈ e.members by simp [EventTrigger.members]) (int?_ofInt 1)),
    bind_of_some (htext (show ("event_id",Json.str e.eventId) ∈ e.members by simp [EventTrigger.members])),
    bind_of_some (htext (show ("principal",Json.str e.principal) ∈ e.members by simp [EventTrigger.members])),
    bind_of_some (htext (show ("audience",Json.str e.audience) ∈ e.members by simp [EventTrigger.members])),
    bind_of_some (hrequired (show ("sender",_) ∈ e.members by simp [EventTrigger.members]) e.sender.ofJson_json),
    bind_of_some hpayload,
    bind_of_some (hdefaulted (show ("payload_digest",Json.ofOption e.payloadDigest) ∈ e.members by simp [EventTrigger.members])
      (Wire.nullable_ofOption e.payloadDigest)),
    bind_of_some (hdefaulted (show ("payload_ref",Json.ofOption e.payloadRef) ∈ e.members by simp [EventTrigger.members])
      (Wire.nullable_ofOption e.payloadRef)),
    bind_of_some (hrequired (show ("provenance",_) ∈ e.members by simp [EventTrigger.members]) hhops),
    bind_of_some (hdefaulted (show ("chain_signatures",_) ∈ e.members by simp [EventTrigger.members]) hsigs),
    bind_of_some (hdefaulted (show ("sender_class",_) ∈ e.members by simp [EventTrigger.members]) hclass),
    bind_of_some (htext (show ("ts",Json.str e.ts) ∈ e.members by simp [EventTrigger.members])),
    bind_of_some (htext (show ("expiry",Json.str e.expiry) ∈ e.members by simp [EventTrigger.members])),if_pos rfl]
  rfl

theorem itemsKeyed_of_forall {items : List Json} (h : ∀ item ∈ items, item.Keyed) : ItemsKeyed items := by
  induction items with
  | nil => trivial
  | cons item rest ih => exact ⟨h item List.mem_cons_self,ih fun other hmem => h other (List.mem_cons_of_mem item hmem)⟩

theorem keyed_strs (texts : List String) : ItemsKeyed (texts.map .str) := by
  apply itemsKeyed_of_forall
  intro item hitem
  obtain ⟨text,_,rfl⟩ := List.mem_map.mp hitem
  trivial

theorem keyed_ofOption (o : Option String) : (Json.ofOption o).Keyed := by cases o <;> trivial

theorem ProvenanceEntry.json_keyed (p : ProvenanceEntry) : p.json.Keyed := by
  have hnames : ["zone","source","evidence","label","ts"].Nodup := by decide
  exact ⟨hnames,trivial,trivial,keyed_strs _,trivial,trivial,trivial⟩

theorem ChainSignature.json_keyed (s : ChainSignature) : s.json.Keyed := by
  have hnames : ["key_id","zone","covers","payload_type","sig"].Nodup := by decide
  exact ⟨hnames,trivial,trivial,Proper.keyed _ (proper_ofInt _),trivial,trivial,trivial⟩

theorem EventTrigger.json_keyed {e : EventTrigger} (h : (Json.obj e.payload).Keyed) : e.json.Keyed := by
  have hsender : e.sender.json.Keyed := by
    have hnames : ["channel_type","channel_identity","evidence"].Nodup := by decide
    exact ⟨hnames,trivial,trivial,keyed_strs _,trivial⟩
  have hhops : ItemsKeyed (e.provenance.map ProvenanceEntry.json) := by
    apply itemsKeyed_of_forall
    intro item hitem
    obtain ⟨p,_,rfl⟩ := List.mem_map.mp hitem
    exact p.json_keyed
  have hsigs : ItemsKeyed (e.chainSignatures.map ChainSignature.json) := by
    apply itemsKeyed_of_forall
    intro item hitem
    obtain ⟨s,_,rfl⟩ := List.mem_map.mp hitem
    exact s.json_keyed
  exact ⟨e.members_nodup,Proper.keyed _ (proper_ofInt _),trivial,trivial,trivial,hsender,h,keyed_ofOption _,keyed_ofOption _,hhops,
    hsigs,keyed_ofOption _,trivial,trivial,trivial⟩

theorem EventTrigger.modelValidateJson_dumps {e : EventTrigger} (h : (Json.obj e.payload).Keyed) :
    EventTrigger.modelValidateJson laxInt e.json.dumps = some e := by
  rw [EventTrigger.modelValidateJson,loads_dumps_keyed (EventTrigger.json_keyed h),Option.bind_some,Draft.ofJson_json,Option.bind_some,
    Draft.validated,dif_pos e.valid]
  rfl

end RoundTrip

end SafeAgents.Channels
