import SafeAgents.Channels.Settling
import SafeAgents.Channels.Adapters

namespace SafeAgents.Channels

open Lexical Checked Interleaving
open Calendar (isoformat fromisoformat Representable)

section Sizes

theorem escape_length_le (c : Char) : (escape c).length ≤ 12 := by
  unfold escape
  repeat' split
  all_goals simp [unicodeEscape,hex4]

theorem size_str_le (s : String) : (Json.str s).size ≤ 12 * s.length + 2 := by
  have hbody : ∀ l : List Char, (l.flatMap escape).length ≤ 12 * l.length := by
    intro l
    induction l with
    | nil => simp
    | cons c l ih =>
      have hc := escape_length_le c
      simp only [List.flatMap_cons,List.length_append,List.length_cons]
      omega
  have h := hbody s.toList
  simp only [Json.size,Json.chars,quoted,quotedBody,List.length_cons,List.length_append,List.length_nil,String.length_toList] at h ⊢
  omega

theorem moreItems_append (items : List Json) (j : Json) :
    (Json.moreItemsChars (items ++ [j])).length = (Json.moreItemsChars items).length + 1 + j.size := by
  induction items with
  | nil =>
    simp only [List.nil_append,Json.moreItemsChars,Json.size,List.length_cons,List.length_append,List.length_nil]
    omega
  | cons item items ih =>
    simp only [List.cons_append,Json.moreItemsChars,List.length_cons,List.length_append,ih]
    omega

theorem size_arr_append {items : List Json} (h : items ≠ []) (j : Json) :
    (Json.arr (items ++ [j])).size = (Json.arr items).size + 1 + j.size := by
  cases items with
  | nil => exact absurd rfl h
  | cons item items =>
    simp only [Json.size,List.cons_append,Json.chars,Json.itemsChars,List.length_cons,List.length_append,moreItems_append]
    omega

theorem isoformat_length_le {t : Int} (h : Representable t) : (isoformat t).length ≤ 32 := by
  have hmicros := Calendar.micros_bounds t
  have hfraction : (Calendar.fractionChars (t % microsPerSecond)).length ≤ 7 := by
    unfold Calendar.fractionChars
    split
    · simp
    · rw [List.length_cons,length_fixedWidth (by decide) (by omega)]
  rw [← String.length_toList,Calendar.isoformat_toList,List.length_append,List.length_append,Calendar.length_secondChars h]
  have hzone : Calendar.zone.length = 6 := rfl
  omega

-- The room a receiver's stamp may take of the gap between the two ceilings.
def nameRoom : Nat := 5400

theorem evidence_cases (v : Verification) :
    Airlock.evidence v = ["token:pass"] ∨ Airlock.evidence v = ["token:pass","sig:pass"] ∨
      Airlock.evidence v = ["token:pass","sig:pass","custody:declared"] ∨
      Airlock.evidence v = ["token:pass","sig:pass","custody:attested"] := by
  obtain ⟨⟨chainVerified,_⟩,custody⟩ := v
  cases chainVerified with
  | false => exact .inl rfl
  | true =>
    cases custody with
    | none => exact .inr (.inl rfl)
    | some custody =>
      cases custody with
      | declared => exact .inr (.inr (.inl rfl))
      | attested => exact .inr (.inr (.inr rfl))

theorem stamped_entry_size {entry : ProvenanceEntry} {channelType : String} {v : Verification} {now : Instant}
    (hnow : Representable now) (hsource : entry.source = "channel:" ++ channelType) (hevidence : entry.evidence = Airlock.evidence v)
    (hts : entry.ts = isoformat now) : entry.json.size ≤ 12 * (entry.zone.length + channelType.length) + 700 := by
  have hzone := size_str_le entry.zone
  have hsrc := size_str_le entry.source
  have hstamp := size_str_le entry.ts
  have hlabel : (Json.str entry.label.text).size ≤ 11 := by
    cases entry.label <;> decide
  have hproofs : (Json.arr ((Airlock.evidence v).map .str)).size ≤ 50 := by
    rcases evidence_cases v with h | h | h | h <;> rw [h] <;> decide
  have hlen := isoformat_length_le hnow
  rw [hsource,String.length_append,show "channel:".length = 8 from rfl] at hsrc
  rw [hts] at hstamp
  rw [ProvenanceEntry.json,hevidence,hts,hsource]
  simp only [Json.size,Json.chars,Json.membersChars,Json.moreMembersChars,List.length_cons,List.length_append,List.length_nil] at *
  have hnames : (quoted "zone").length = 6 ∧ (quoted "source").length = 8 ∧ (quoted "evidence").length = 10 ∧
      (quoted "label").length = 7 ∧ (quoted "ts").length = 4 := by decide
  omega

theorem stamped_size (e : EventTrigger) (hclass : e.senderClass = none) (entry : ProvenanceEntry) (senderClass : SenderClass) :
    (e.stamped entry (some senderClass)).json.size ≤ e.json.size + entry.json.size + 9 := by
  have hchain : (Json.arr ((e.provenance ++ [entry]).map ProvenanceEntry.json)).size =
      (Json.arr (e.provenance.map ProvenanceEntry.json)).size + 1 + entry.json.size := by
    rw [List.map_append,List.map_cons,List.map_nil]
    exact size_arr_append (by simpa using e.provenance_ne_nil) _
  have hnone : (Json.ofOption (e.senderClass.map SenderClass.text)).size = 4 := by
    rw [hclass]
    decide
  have hsome : (Json.ofOption ((some senderClass).map SenderClass.text)).size ≤ 12 := by
    cases senderClass <;> decide
  have horElse : ((some senderClass).orElse fun _ => e.senderClass) = some senderClass := rfl
  simp only [EventTrigger.json,EventTrigger.stamped,EventTrigger.copied,horElse]
  simp only [Json.size,Json.chars,Json.membersChars,Json.moreMembersChars,List.length_cons,List.length_append,List.length_nil] at *
  omega

theorem forwardable {parser : WireParser} {e : EventTrigger} {body : String} (hclass : e.senderClass = none)
    (hwire : e.toWire parser (some maxEnvelopeBytes) = .ok body) {entry : ProvenanceEntry} {senderClass : SenderClass}
    (hroom : entry.json.size ≤ 65527) :
    ∃ text, (e.stamped entry (some senderClass)).toWire parser (some maxForwardBytes) = .ok text := by
  obtain ⟨hfinite,hsize,hreads,_⟩ := (EventTrigger.toWire_ok parser).mp hwire
  have hgrown := stamped_size e hclass entry senderClass
  refine ⟨_,(EventTrigger.toWire_ok parser).mpr ⟨hfinite,?_,hreads,rfl⟩⟩
  simp only [maxEnvelopeBytes,maxForwardBytes] at hsize ⊢
  omega

end Sizes

structure Accepts {Request : Type} (a : Airlock Request) (e : EventTrigger) (identity : PyStr) (v : Verification)
    (accepted : EventTrigger) : Prop where
  live : e.isExpired a.now a.clockSkew = .ok false
  resolved : ∃ resolution, a.trustMap.resolve a.adapter.channelType identity = some resolution ∧
    resolution.principal = e.principal ∧ stampInbound e resolution (a.stamp v) = .ok accepted

namespace Airlock
variable {Request : Type} {a : Airlock Request} {identity : PyStr} {e accepted : EventTrigger} {resolution : TrustResolution}
  {v : Verification} {own : List AirlockSaw} {outcome : DispatchOutcome}

theorem dropped_plays {reason : DropReason} {detail : Option String} {verified : Verified} {result : DispatchOutcome}
    (h : Plays (a.dropped identity reason detail verified result) own (.ok outcome)) :
    outcome = result ∧ ∃ record reply, own = [⟨.drop record,.ok reply⟩] ∧
      makeDropRecord a.hasher a.adapter.channelType identity reason (isoformat a.now) detail verified = .ok record := by
  unfold dropped at h
  split at h
  · simp at h
  · rename_i record hrecord
    obtain ⟨reply,rest,hown,hrest⟩ := plays_act.mp h
    cases reply with
    | error x => simp at hrest
    | ok u =>
      obtain ⟨rfl,hout⟩ := plays_ret.mp hrest
      exact ⟨Except.ok.inj hout,record,u,hown,hrecord⟩

theorem refuse_declines {reason : DropReason} {refusal : RefusalClass} {detail : Option String} {verified : Verified}
    (h : Plays (a.refuse identity reason refusal detail verified) own (.ok outcome)) : outcome.envelope = none := by
  rw [(dropped_plays h).1]

theorem taintStamp_accepts (h : Plays (a.taintStamp e resolution v) own (.ok outcome)) :
    own = [] ∧ ∃ accepted, outcome = ⟨some accepted,none⟩ ∧ stampInbound e resolution (a.stamp v) = .ok accepted := by
  unfold taintStamp at h
  split at h
  · simp at h
  · rename_i accepted haccepted
    obtain ⟨hown,hout⟩ := plays_ret.mp h
    exact ⟨hown,accepted,Except.ok.inj hout,haccepted⟩

theorem judged_accepts {answer : ScreenAnswer} (h : Plays (a.judged identity e resolution v answer) own (.ok outcome))
    (henvelope : outcome.envelope = some accepted) : stampInbound e resolution (a.stamp v) = .ok accepted := by
  unfold judged at h
  split at h
  · obtain ⟨_,stamped,rfl,hstamp⟩ := taintStamp_accepts h
    obtain rfl := Option.some.inj henvelope
    exact hstamp
  · rw [(dropped_plays h).1] at henvelope
    cases henvelope

theorem recorded_accepts {answer : ScreenAnswer} (h : Plays (a.recorded identity e resolution v answer) own (.ok outcome))
    (henvelope : outcome.envelope = some accepted) : stampInbound e resolution (a.stamp v) = .ok accepted := by
  unfold recorded at h
  split at h
  · split at h
    · simp at h
    · obtain ⟨reply,rest,_,hrest⟩ := plays_act.mp h
      cases reply with
      | error x => simp at hrest
      | ok u => exact judged_accepts hrest henvelope
  · exact judged_accepts h henvelope

theorem screenGate_accepts (h : Plays (a.screenGate identity e resolution v) own (.ok outcome))
    (henvelope : outcome.envelope = some accepted) : stampInbound e resolution (a.stamp v) = .ok accepted := by
  unfold screenGate at h
  split at h
  · obtain ⟨reply,rest,_,hrest⟩ := plays_act.mp h
    cases reply with
    | error x => exact recorded_accepts hrest henvelope
    | ok answer => exact recorded_accepts hrest henvelope
  · obtain ⟨_,stamped,rfl,hstamp⟩ := taintStamp_accepts h
    obtain rfl := Option.some.inj henvelope
    exact hstamp

theorem dedupeGate_accepts (h : Plays (a.dedupeGate identity e resolution v) own (.ok outcome))
    (henvelope : outcome.envelope = some accepted) : stampInbound e resolution (a.stamp v) = .ok accepted := by
  obtain ⟨reply,rest,_,hlooked⟩ := plays_act.mp h
  match reply, hlooked with
  | .error _, h => exact absurd (refuse_declines h) (by simp [henvelope])
  | .ok true, h =>
    obtain ⟨_,houtcome⟩ := plays_ret.mp h
    cases houtcome
    cases henvelope
  | .ok false, h =>
    obtain ⟨added,rest,_,hclaimed⟩ := plays_act.mp h
    match added, hclaimed with
    | .error _, h => exact absurd (refuse_declines h) (by simp [henvelope])
    | .ok _, h => exact screenGate_accepts h henvelope

theorem expiryGate_accepts (h : Plays (a.expiryGate identity e v) own (.ok outcome))
    (henvelope : outcome.envelope = some accepted) : Accepts a e identity v accepted := by
  unfold expiryGate at h
  split at h
  · simp at h
  · exact absurd (refuse_declines h) (by simp [henvelope])
  · rename_i hlive
    unfold mapGate at h
    split at h
    · exact absurd (refuse_declines h) (by simp [henvelope])
    · rename_i resolution hresolved
      split at h
      · exact absurd (refuse_declines h) (by simp [henvelope])
      · rename_i hprincipal
        exact ⟨hlive,resolution,hresolved,not_not.mp hprincipal,dedupeGate_accepts h henvelope⟩

theorem chainGate_accepts (h : Plays (a.chainGate identity e) own (.ok outcome)) (henvelope : outcome.envelope = some accepted) :
    (a.verifies = true → a.adapter.originatesEnvelope = false →
        ∃ keyId zone separated custody, ⟨.verifyChain e,.ok (.passed keyId zone separated custody)⟩ ∈ own) ∧
      ∃ v, Accepts a e identity v accepted := by
  unfold chainGate at h
  split at h
  · obtain ⟨reply,rest,rfl,hverified⟩ := plays_act.mp h
    match reply, hverified with
    | .error x, h =>
      cases x with
      | keySourceUnavailable => exact absurd (refuse_declines h) (by simp [henvelope])
      | _ => simp [verified] at h
    | .ok (.failed reason detail), h => exact absurd (refuse_declines h) (by simp [henvelope])
    | .ok (.passed keyId zone separated custody), h =>
      exact ⟨fun _ _ => ⟨keyId,zone,separated,custody,List.mem_cons_self⟩,_,expiryGate_accepts h henvelope⟩
  · rename_i hoff
    refine ⟨fun hverifies horiginates => absurd ?_ hoff,_,expiryGate_accepts h henvelope⟩
    simp [hverifies,horiginates]

theorem formGate_accepts (h : Plays (a.formGate identity e) own (.ok outcome)) (henvelope : outcome.envelope = some accepted) :
    (∃ body, e.toWire a.parser (some maxEnvelopeBytes) = .ok body) ∧ PyStr.ofString e.sender.channelIdentity = identity ∧
      e.audience = a.zone ∧
      (a.verifies = true → a.adapter.originatesEnvelope = false →
        ∃ keyId zone separated custody, ⟨.verifyChain e,.ok (.passed keyId zone separated custody)⟩ ∈ own) ∧
      ∃ v, Accepts a e identity v accepted := by
  unfold formGate at h
  split at h
  · exact absurd (refuse_declines h) (by simp [henvelope])
  · rename_i body hwire
    split at h
    · exact absurd (refuse_declines h) (by simp [henvelope])
    · rename_i hsender
      split at h
      · exact absurd (refuse_declines h) (by simp [henvelope])
      · rename_i haudience
        exact ⟨⟨body,hwire⟩,not_not.mp hsender,not_not.mp haudience,chainGate_accepts h henvelope⟩

theorem dispatch_accepts {request : Request} (h : Plays (a.dispatchOutcome request) own (.ok outcome))
    (henvelope : outcome.envelope = some accepted) :
    ∃ identity wire, a.adapter.verifyToken request = true ∧ a.adapter.extractIdentity request = .ok identity ∧
      a.adapter.normalize request = .ok (.envelope wire) ∧ Plays (a.formGate identity (wire.withClass none)) own (.ok outcome) := by
  unfold dispatchOutcome at h
  split at h
  · rename_i htoken
    split at h
    · rw [(dropped_plays h).1] at henvelope
      cases henvelope
    · rename_i identity hidentity
      cases hnormalized : a.adapter.normalize request with
      | error x =>
        rw [hnormalized] at h
        exact absurd (refuse_declines h) (by simp [henvelope])
      | ok normalized =>
        rw [hnormalized] at h
        cases normalized with
        | unwritable => exact absurd (refuse_declines h) (by simp [henvelope])
        | envelope wire => exact ⟨identity,wire,htoken,hidentity,rfl,h⟩
  · rw [(dropped_plays h).1] at henvelope
    cases henvelope

def Kept (own : List AirlockSaw) (out : Except ChannelError DispatchOutcome) : Prop :=
  own.any AirlockSaw.isClaim = true → own.all AirlockSaw.passes = true → own.all AirlockSaw.sinkHolds = true →
    ∃ envelope, out = .ok ⟨some envelope,none⟩

variable {out : Except ChannelError DispatchOutcome}

theorem Kept.of_settled {mapped : Bool} (h : own.all AirlockSaw.sinkHolds = true → Settled mapped own out) : Kept own out := by
  intro hclaim hpasses hsinks
  cases h hsinks with
  | accepted envelope _ _ => exact ⟨envelope,rfl⟩
  | repeated _ _ hnone => simp [hclaim] at hnone
  | refused record _ _ hlost => simp [hlost hclaim] at hpasses

theorem Kept.unclaimed (h : own.any AirlockSaw.isClaim = false) : Kept own out := by
  intro hclaim
  simp [h] at hclaim

theorem dropped_unclaimed {reason : DropReason} {detail : Option String} {verified : Verified} {result : DispatchOutcome}
    (h : Plays (a.dropped identity reason detail verified result) own out) : own.any AirlockSaw.isClaim = false := by
  unfold dropped at h
  split at h
  · obtain ⟨rfl,_⟩ := plays_raise.mp h
    rfl
  · obtain ⟨reply,rest,rfl,hrest⟩ := plays_act.mp h
    cases reply with
    | error x =>
      obtain ⟨rfl,_⟩ := plays_raise.mp hrest
      rfl
    | ok u =>
      obtain ⟨rfl,_⟩ := plays_ret.mp hrest
      rfl

theorem expiryGate_keeps (hidentity : identity.encode = some text) (hname : a.adapter.channelType ≠ "") (hv : v.toVerified.Attributed)
    (h : Plays (a.expiryGate identity e v) own out) : Kept own out := by
  unfold expiryGate at h
  split at h
  · obtain ⟨rfl,_⟩ := plays_raise.mp h
    exact .unclaimed rfl
  · exact .unclaimed (dropped_unclaimed h)
  · rename_i hlive
    exact .of_settled (mapGate_settles hidentity hlive (fun _ => hname) hv h)

theorem chainGate_keeps (hidentity : identity.encode = some text) (hname : a.adapter.channelType ≠ "")
    (h : Plays (a.chainGate identity e) own out) : Kept own out := by
  unfold chainGate at h
  split at h
  · obtain ⟨reply,rest,rfl,hverified⟩ := plays_act.mp h
    have hrest : Kept rest out → Kept (⟨.verifyChain e,reply⟩ :: rest) out := fun hkept => hkept
    match reply, hverified with
    | .error x, hverified =>
      cases x with
      | keySourceUnavailable => exact hrest (.unclaimed (dropped_unclaimed hverified))
      | _ =>
        obtain ⟨rfl,_⟩ := plays_raise.mp hverified
        exact hrest (.unclaimed rfl)
    | .ok (.failed reason detail), hverified => exact hrest (.unclaimed (dropped_unclaimed hverified))
    | .ok (.passed keyId zone separated custody), hverified =>
      exact hrest (expiryGate_keeps hidentity hname (attributed_verified keyId) hverified)
  · exact expiryGate_keeps hidentity hname attributed_unverified h

theorem formGate_keeps (hname : a.adapter.channelType ≠ "") (h : Plays (a.formGate identity e) own out) : Kept own out := by
  unfold formGate at h
  split at h
  · exact .unclaimed (dropped_unclaimed h)
  · split at h
    · exact .unclaimed (dropped_unclaimed h)
    · rename_i hsender
      have hidentity : identity.encode = some e.sender.channelIdentity := PyStr.encode_eq_some.mpr (not_not.mp hsender).symm
      split at h
      · exact .unclaimed (dropped_unclaimed h)
      · exact chainGate_keeps hidentity hname h

theorem dispatch_keeps (hname : a.adapter.channelType ≠ "") {request : Request} (h : Plays (a.dispatchOutcome request) own out) :
    Kept own out := by
  unfold dispatchOutcome at h
  split at h
  · split at h
    · exact .unclaimed (dropped_unclaimed h)
    · cases hnormalized : a.adapter.normalize request with
      | error x =>
        rw [hnormalized] at h
        exact .unclaimed (dropped_unclaimed h)
      | ok normalized =>
        rw [hnormalized] at h
        cases normalized with
        | unwritable => exact .unclaimed (dropped_unclaimed h)
        | envelope e => exact formGate_keeps hname h
  · exact .unclaimed (dropped_unclaimed h)

end Airlock

structure Admitted {Request : Type} (a : Airlock Request) (request : Request) (own : List AirlockSaw) (wire accepted : EventTrigger)
    (hop : ProvenanceEntry) (senderClass : SenderClass) : Prop where
  authentic : a.adapter.verifyToken request = true
  normalized : a.adapter.normalize request = .ok (.envelope wire)
  identified : a.adapter.extractIdentity request = .ok (PyStr.ofString accepted.sender.channelIdentity)
  addressed : accepted.audience = a.zone
  verified : a.verifies = true → a.adapter.originatesEnvelope = false →
    ∃ keyId zone separated custody, ⟨.verifyChain (wire.withClass none),.ok (.passed keyId zone separated custody)⟩ ∈ own
  live : accepted.isExpired a.now a.clockSkew = .ok false
  resolved : a.trustMap.resolve a.adapter.channelType (PyStr.ofString accepted.sender.channelIdentity) =
    some ⟨accepted.principal,senderClass⟩
  classed : accepted.senderClass = some senderClass
  appended : accepted.provenance = wire.provenance ++ [hop]
  stamped : hop.zone = a.zone ∧ hop.source = "channel:" ++ a.adapter.channelType ∧ hop.label = senderClass.hopLabel
  kept : accepted.toDraft = { wire.toDraft with provenance := wire.provenance ++ [hop], senderClass := some senderClass }

theorem admission_sound {Request : Type} (a : Airlock Request) (request : Request) (own : List AirlockSaw)
    (out : Except ChannelError DispatchOutcome) (h : Plays (a.dispatchOutcome request) own out) :
    (∀ accepted refusal, out = .ok ⟨some accepted,refusal⟩ →
      (∃ wire hop senderClass, Admitted a request own wire accepted hop senderClass) ∧
        (a.zone.length + a.adapter.channelType.length ≤ nameRoom →
          ∃ body, accepted.toWire a.parser (some maxForwardBytes) = .ok body)) ∧
      (a.adapter.channelType ≠ "" → Airlock.Kept own out) := by
  refine ⟨fun accepted refusal hout => ?_,fun hname => Airlock.dispatch_keeps hname h⟩
  subst hout
  obtain ⟨identity,wire,htoken,hextract,hnormalize,hform⟩ := Airlock.dispatch_accepts h rfl
  obtain ⟨⟨body,hwire⟩,hidentity,haudience,hverified,v,haccepts⟩ := Airlock.formGate_accepts hform rfl
  obtain ⟨resolution,hresolved,hprincipal,hstamp⟩ := haccepts.resolved
  obtain ⟨hop,hzone,hsource,hevidence,hlabel,hts,rfl⟩ := stampInbound_ok hstamp
  obtain rfl := hidentity
  have hresolution : resolution = ⟨wire.principal,resolution.senderClass⟩ := by
    obtain ⟨principal,senderClass⟩ := resolution
    exact congrArg (TrustResolution.mk · senderClass) hprincipal
  refine ⟨⟨wire,hop,resolution.senderClass,?_⟩,fun hroom => forwardable rfl hwire ?_⟩
  · exact {
      authentic := htoken
      normalized := hnormalize
      identified := hextract
      addressed := haudience
      verified := hverified
      live := haccepts.live
      resolved := hresolved.trans (congrArg some hresolution)
      classed := rfl
      appended := rfl
      stamped := ⟨hzone,hsource,hlabel⟩
      kept := rfl }
  · have hsize := stamped_entry_size a.dated hsource hevidence hts
    rw [hzone,show (a.stamp v).zone = a.zone from rfl] at hsize
    simp only [nameRoom] at hroom
    omega

namespace OwnerDesk

def answers : (o : AirlockOp) → Except ChannelError o.Ret
  | .verifyChain _ => .ok (.passed none none false none)
  | .contains _ => .ok false
  | .add _ => .ok ()
  | .screen _ => .ok (.plain true)
  | .drop _ => .ok ()
  | .verdict _ => .ok ()

theorem command_admitted : ((airlock.dispatchOutcome command).against answers).toOption.any (fun o => o.envelope.isSome) = true := by
  decide +kernel

theorem admission_sound_command :
    ∃ own accepted refusal wire hop senderClass, Plays (airlock.dispatchOutcome command) own (.ok ⟨some accepted,refusal⟩) ∧
      Admitted airlock command own wire accepted hop senderClass ∧
        ∃ body, accepted.toWire airlock.parser (some maxForwardBytes) = .ok body := by
  obtain ⟨own,hplays⟩ := plays_against answers (airlock.dispatchOutcome command)
  have haccepted := command_admitted
  cases hout : (airlock.dispatchOutcome command).against answers with
  | error x => simp [hout,Except.toOption] at haccepted
  | ok outcome =>
    rw [hout] at hplays haccepted
    obtain ⟨envelope,refusal⟩ := outcome
    cases envelope with
    | none => simp [Except.toOption] at haccepted
    | some accepted =>
      obtain ⟨⟨wire,hop,senderClass,hadmitted⟩,hforward⟩ := (admission_sound airlock command own _ hplays).1 accepted refusal rfl
      exact ⟨own,accepted,refusal,wire,hop,senderClass,hplays,hadmitted,hforward (by decide)⟩

end OwnerDesk

end SafeAgents.Channels
