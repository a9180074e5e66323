import SafeAgents.Channels.Settling
import SafeAgents.Channels.Adapters

namespace SafeAgents.Channels

open Lexical Checked Interleaving
open Calendar (isoformat fromisoformat Representable)

namespace Airlock
variable {Request : Type} {a : Airlock Request} {request : Request} {identity : PyStr} {text : String} {e : EventTrigger}
  {resolution : TrustResolution} {v : Verification} {own : List AirlockSaw} {out : Except ChannelError DispatchOutcome}

def told (a : Airlock Request) (request : Request) : Bool :=
  match a.adapter.extractIdentity request with
  | .error _ => false
  | .ok identity => a.mapped identity

def RecordsOnce (a : Airlock Request) (request : Request) : Prop :=
  ∀ own out, Plays (a.dispatchOutcome request) own out → own.all AirlockSaw.sinkHolds = true →
    own.all AirlockSaw.keysOnly = true → Settled (a.told request) own out

def Recordable (a : Airlock Request) (request : Request) : Prop :=
  a.adapter.verifyToken request = true → ∀ identity, a.adapter.extractIdentity request = .ok identity →
    identity.encode.isSome = true ∧
      (a.adapter.channelType = "" → ∀ wire, a.adapter.normalize request = .ok (.envelope wire) →
        ¬ Admissible a identity (wire.withClass none))

theorem schemaGate_settles (hconfigured : a.Configured) (hidentity : identity.encode = some text)
    {normalized : Except ChannelError Normalized}
    (hname : ∀ wire, normalized = .ok (.envelope wire) → Admissible a identity (wire.withClass none) → a.adapter.channelType ≠ "")
    (h : Plays (a.schemaGate identity normalized) own out) (hsinks : own.all AirlockSaw.sinkHolds = true)
    (hkeys : own.all AirlockSaw.keysOnly = true) : Settled (a.mapped identity) own out := by
  match normalized, h with
  | .error _, h => exact refuse_settled hidentity rfl rfl attributed_unverified h hsinks
  | .ok .unwritable, h => exact refuse_settled hidentity rfl (by decide) attributed_unverified h hsinks
  | .ok (.envelope wire), h => exact formGate_settles hconfigured hidentity (hname wire rfl) h hsinks hkeys

theorem unnamed_settles {reason : DropReason} (hanswer : answerTo (a.told request) reason = none)
    (h : Plays (a.dropped [] reason none {} ⟨none,none⟩) own out) (hsinks : own.all AirlockSaw.sinkHolds = true) :
    Settled (a.told request) own out := by
  have hempty : PyStr.encode [] = some "" := PyStr.encode_ofString ""
  obtain ⟨record,hreason,rfl,rfl⟩ := dropped_settles hempty rfl attributed_unverified h hsinks
  rw [← hanswer,← hreason]
  exact .refused record rfl rfl fun hclaim => by cases hclaim

theorem recordsOnce_of_recordable (hconfigured : a.Configured) (hrecordable : a.Recordable request) : a.RecordsOnce request := by
  intro own out h hsinks hkeys
  unfold dispatchOutcome at h
  split at h
  · rename_i htoken
    split at h
    · rename_i x hextract
      refine unnamed_settles ?_ h hsinks
      simp [answerTo,told,hextract]
    · rename_i identity hextract
      obtain ⟨hencodes,hname⟩ := hrecordable htoken identity hextract
      obtain ⟨text,hidentity⟩ := Option.isSome_iff_exists.mp hencodes
      have htold : a.told request = a.mapped identity := by simp [told,hextract]
      rw [htold]
      exact schemaGate_settles hconfigured hidentity (fun wire hwire hadmissible hempty => hname hempty wire hwire hadmissible) h
        hsinks hkeys
  · refine unnamed_settles ?_ h hsinks
    simp [answerTo,DropReason.refusal]

theorem refuse_unencodable (hidentity : identity.encode = none) (reason : DropReason) (refusal : RefusalClass) (detail : Option String)
    (verified : Verified) : Plays (a.refuse identity reason refusal detail verified) [] (.error .unicodeEncode) := by
  simp only [refuse,dropped,makeDropRecord_unencodable hidentity]
  exact .raise _

theorem dispatch_unencodable (htoken : a.adapter.verifyToken request = true) (hextract : a.adapter.extractIdentity request = .ok identity)
    (hidentity : identity.encode = none) : Plays (a.dispatchOutcome request) [] (.error .unicodeEncode) := by
  simp only [dispatchOutcome,htoken,hextract,if_true]
  cases a.adapter.normalize request with
  | error x => exact refuse_unencodable hidentity _ _ _ _
  | ok normalized =>
    cases normalized with
    | unwritable => exact refuse_unencodable hidentity _ _ _ _
    | envelope wire =>
      have hdiffers : PyStr.ofString (wire.withClass none).sender.channelIdentity ≠ identity := by
        rintro rfl
        simp [PyStr.encode_ofString] at hidentity
      simp only [schemaGate,formGate,hdiffers,ne_eq,not_false_eq_true,if_true]
      cases (wire.withClass none).toWire a.parser (some maxEnvelopeBytes) with
      | error x => exact refuse_unencodable hidentity _ _ _ _
      | ok body => exact refuse_unencodable hidentity _ _ _ _

def Fails (p : Airlocked) (x : ChannelError) : Prop :=
  ∃ own : List AirlockSaw, Plays p own (.error x) ∧ own.all AirlockSaw.sinkHolds = true ∧ own.all AirlockSaw.keysOnly = true

theorem Fails.act {o : AirlockOp} {k : Except ChannelError o.Ret → Airlocked} {x : ChannelError} (r : Except ChannelError o.Ret)
    (hsink : AirlockSaw.sinkHolds ⟨o,r⟩ = true) (hkeys : AirlockSaw.keysOnly ⟨o,r⟩ = true) (h : Fails (k r) x) : Fails (.act o k) x := by
  obtain ⟨own,hplays,hsinks,hall⟩ := h
  refine ⟨⟨o,r⟩ :: own,.act hplays,?_,?_⟩
  · rw [List.all_cons,hsink,hsinks,Bool.and_self]
  · rw [List.all_cons,hkeys,hall,Bool.and_self]

theorem taintStamp_nameless (hname : a.adapter.channelType = "") : Fails (a.taintStamp e resolution v) (.validation ["source"]) := by
  have hsource : ¬ isNamespaced (a.stamp v).source = true := by
    rw [show (a.stamp v).source = "channel:" ++ a.adapter.channelType from rfl,hname]
    decide
  have hstamp : stampInbound e resolution (a.stamp v) = .error (.validation ["source"]) := by
    rw [stampInbound,ProvenanceEntry.make,dif_neg hsource]
    rfl
  refine ⟨[],?_,rfl,rfl⟩
  simp only [taintStamp,hstamp]
  exact .raise _

theorem screenGate_nameless (hname : a.adapter.channelType = "") (hidentity : identity.encode = some text)
    (hv : v.toVerified.Attributed) : Fails (a.screenGate identity e resolution v) (.validation ["source"]) := by
  unfold screenGate
  split
  · refine Fails.act (.ok (.plain true)) rfl rfl ?_
    simp only [screened,recorded]
    split
    · obtain ⟨record,hrecord⟩ := makeScreenRecord_ok a e.eventId (ScreenAnswer.plain true).passed hidentity hv
        (ScreenAnswer.plain true).reason_coded
      simp only [hrecord]
      exact Fails.act (.ok ()) rfl rfl (taintStamp_nameless hname)
    · exact taintStamp_nameless hname
  · exact taintStamp_nameless hname

theorem expiryGate_nameless (hname : a.adapter.channelType = "") (hidentity : identity.encode = some text)
    (hv : v.toVerified.Attributed) (hreaches : Reaches a identity e) : Fails (a.expiryGate identity e v) (.validation ["source"]) := by
  obtain ⟨resolution,hresolved,hprincipal⟩ := hreaches.resolved
  simp only [expiryGate,hreaches.live,mapGate,hresolved,hprincipal,ne_eq,not_true_eq_false,if_false]
  refine Fails.act (.ok false) rfl rfl ?_
  exact Fails.act (.ok ()) rfl rfl (screenGate_nameless hname hidentity hv)

theorem dispatch_nameless (hname : a.adapter.channelType = "") (htoken : a.adapter.verifyToken request = true)
    (hextract : a.adapter.extractIdentity request = .ok identity) {wire : EventTrigger}
    (hnormalize : a.adapter.normalize request = .ok (.envelope wire)) (hadmissible : Admissible a identity (wire.withClass none)) :
    Fails (a.dispatchOutcome request) (.validation ["source"]) := by
  obtain ⟨body,hwire⟩ := hadmissible.forwardable
  have hidentity : identity.encode = some wire.sender.channelIdentity := PyStr.encode_eq_some.mpr hadmissible.bound.symm
  simp only [dispatchOutcome,htoken,hextract,hnormalize,schemaGate,formGate,hwire,hadmissible.bound,hadmissible.addressed,
    ne_eq,not_true_eq_false,if_false,if_true]
  unfold chainGate
  split
  · refine Fails.act (.ok (.passed none none false none)) rfl rfl ?_
    exact expiryGate_nameless hname hidentity (attributed_verified none) hadmissible.toReaches
  · exact expiryGate_nameless hname hidentity attributed_unverified hadmissible.toReaches

theorem not_settled_error {mapped : Bool} {x : ChannelError} : ¬ Settled mapped own (.error x) := by
  rintro ⟨⟩

theorem recordable_of_recordsOnce (h : a.RecordsOnce request) : a.Recordable request := by
  intro htoken identity hextract
  have hencodes : identity.encode.isSome = true := by
    cases hidentity : identity.encode with
    | some text => rfl
    | none => exact absurd (h [] _ (dispatch_unencodable htoken hextract hidentity) rfl rfl) not_settled_error
  refine ⟨hencodes,fun hname wire hnormalize hadmissible => ?_⟩
  obtain ⟨own,hplays,hsinks,hkeys⟩ := dispatch_nameless hname htoken hextract hnormalize hadmissible
  exact not_settled_error (h own _ hplays hsinks hkeys)

theorem webhook_recordsOnce {a : Airlock WebhookRequest} {folding : Folding} {i : Interpreter}
    {modelValidate : PyValue → Except ChannelError Normalized} {config : WebhookAdapterConfig} {tokens : TokenMap}
    (hconfigured : a.Configured) (hadapter : a.adapter = webhookAdapter folding i modelValidate config tokens)
    (hname : config.channelType ≠ "") (request : WebhookRequest) : a.RecordsOnce request := by
  refine recordsOnce_of_recordable hconfigured fun _ identity hextract => ?_
  rw [hadapter] at hextract
  obtain ⟨text,hidentity⟩ := webhookExtract_encodes hextract
  refine ⟨by rw [hidentity]; rfl,fun hempty => ?_⟩
  rw [hadapter] at hempty
  exact absurd hempty hname

theorem one_record_per_refusal (hconfigured : a.Configured) (request : Request) : a.RecordsOnce request ↔ a.Recordable request :=
  ⟨recordable_of_recordsOnce,recordsOnce_of_recordable hconfigured⟩

end Airlock

namespace OwnerDesk

theorem configured : airlock.Configured := ⟨by decide,by decide,noon_dated⟩

theorem lonely_token : airlock.adapter.verifyToken lonely = true := by decide

theorem lone_surrogate_unrecorded :
    airlock.adapter.verifyToken lonely = true ∧ Plays (airlock.dispatchOutcome lonely) [] (.error .unicodeEncode) ∧
      ¬ airlock.RecordsOnce lonely := by
  have hplays := Airlock.dispatch_unencodable lonely_token lonely_identity (show PyStr.encode [55296] = none by decide)
  exact ⟨lonely_token,hplays,fun h => Airlock.not_settled_error (h [] _ hplays rfl rfl)⟩

theorem one_record_per_refusal_command : airlock.Configured ∧ airlock.RecordsOnce command := by
  refine ⟨configured,(Airlock.one_record_per_refusal configured command).mpr fun _ identity hidentity => ⟨?_,fun hname => ?_⟩⟩
  · obtain rfl : PyStr.ofString "alice" = identity := Except.ok.inj (command_identity.symm.trans hidentity)
    rw [PyStr.encode_ofString]
    rfl
  · exact absurd hname (by decide)

end OwnerDesk

end SafeAgents.Channels
