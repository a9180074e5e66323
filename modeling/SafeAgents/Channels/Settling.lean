import SafeAgents.Channels.Dispatch

namespace SafeAgents.Channels

open Lexical Checked Interleaving
open Calendar (isoformat fromisoformat Representable)

abbrev AirlockSaw := Saw AirlockOp AirlockOp.Ret ChannelError

namespace AirlockSaw

def isHit : AirlockSaw → Bool
  | ⟨.contains _,.ok true⟩ => true
  | _ => false

def isClaim : AirlockSaw → Bool
  | ⟨.add _,.ok _⟩ => true
  | _ => false

def passes : AirlockSaw → Bool
  | ⟨.screen _,.ok answer⟩ => ScreenAnswer.passed answer
  | ⟨.screen _,.error _⟩ => false
  | _ => true

def sinkHolds : AirlockSaw → Bool
  | ⟨.drop _,.error _⟩ => false
  | ⟨.verdict _,.error _⟩ => false
  | _ => true

def keysOnly : AirlockSaw → Bool
  | ⟨.verifyChain _,.error x⟩ => x == .keySourceUnavailable
  | _ => true

def dropOf : AirlockSaw → Option DropRecord
  | ⟨.drop record,_⟩ => some record
  | _ => none

end AirlockSaw

def dropsOf (own : List AirlockSaw) : List DropRecord := own.filterMap AirlockSaw.dropOf

def DropReason.refusal : DropReason → Option RefusalClass
  | .authenticityFailed => none
  | .screenRefused => none
  | .notEvaluated => some .transient
  | _ => some .permanent

def answerTo (mapped : Bool) (reason : DropReason) : Option RefusalClass := if mapped then reason.refusal else none

inductive Settled (mapped : Bool) (own : List AirlockSaw) : Except ChannelError DispatchOutcome → Prop
  | accepted (envelope : EventTrigger) : dropsOf own = [] → own.any AirlockSaw.isHit = false →
      Settled mapped own (.ok ⟨some envelope,none⟩)
  | repeated : dropsOf own = [] → own.any AirlockSaw.isHit = true → own.any AirlockSaw.isClaim = false →
      Settled mapped own (.ok ⟨none,none⟩)
  | refused (record : DropRecord) : dropsOf own = [record] → own.any AirlockSaw.isHit = false →
      (own.any AirlockSaw.isClaim = true → own.all AirlockSaw.passes = false) →
      Settled mapped own (.ok ⟨none,answerTo mapped record.reason⟩)

theorem Settled.after_verify {mapped : Bool} {own : List AirlockSaw} {out : Except ChannelError DispatchOutcome} {e : EventTrigger}
    {reply : Except ChannelError ChainVerifyResult} (h : Settled mapped own out) : Settled mapped (⟨.verifyChain e,reply⟩ :: own) out := by
  cases h with
  | accepted envelope hdrops hhit => exact .accepted envelope hdrops hhit
  | repeated hdrops hhit hclaim => exact .repeated hdrops hhit hclaim
  | refused record hdrops hhit hlost => exact .refused record hdrops hhit hlost

def Verified.Attributed (v : Verified) : Prop := (v.signerKeyId.isNone || v.chainVerified) = true

theorem attributed_unverified : Verified.Attributed {} := rfl

theorem attributed_verified (signerKeyId : Option String) : Verified.Attributed ⟨true,signerKeyId⟩ := Bool.or_true _

theorem ScreenAnswer.reason_coded (answer : ScreenAnswer) : answer.reason.all isMachineCode = true := by
  cases answer with
  | verdict v => exact v.coded
  | plain passed => rfl

theorem SignerDetail.coded (detail : Option SignerDetail) : (detail.map SignerDetail.text).all isMachineCode = true := by
  match detail with
  | none => rfl
  | some .zoneMismatch => decide
  | some .identityOutOfScope => decide

namespace Airlock
variable {Request : Type} {a : Airlock Request} {identity : PyStr} {text : String} {e : EventTrigger} {resolution : TrustResolution}
  {v : Verification} {own : List AirlockSaw} {out : Except ChannelError DispatchOutcome}

theorem now_aware (a : Airlock Request) : isTzAware (isoformat a.now) = true := by
  rw [isTzAware,Calendar.fromisoformat_isoformat a.dated]
  rfl

theorem makeScreenRecord_ok (a : Airlock Request) (eventId : String) (passed : Bool) (hidentity : identity.encode = some text)
    {verified : Verified} (hverified : verified.Attributed) {reason : Option String} (hreason : reason.all isMachineCode = true) :
    ∃ record, makeScreenRecord a.hasher a.adapter.channelType identity eventId passed reason (isoformat a.now) verified = .ok record := by
  have hdigest : digestIdentity a.hasher identity = .ok (a.hasher.digest text) := by simp [digestIdentity,hidentity]
  refine ⟨⟨a.adapter.channelType,a.hasher.digest text,eventId,passed,reason,isoformat a.now,verified.chainVerified,
    verified.signerKeyId⟩,?_⟩
  rw [makeScreenRecord,bind_of_ok hdigest,bind_of_ok (refuseIf_pass (by simp [a.hasher.format text])),
    bind_of_ok (refuseIf_pass (by simp [hreason])),bind_of_ok (refuseIf_pass (by simp [a.now_aware])),
    bind_of_ok (refuseIf_pass (by rw [hverified]; simp))]
  rfl

theorem dropped_settles (hidentity : identity.encode = some text) {reason : DropReason} {detail : Option String}
    (hdetail : detail.all isMachineCode = true) {verified : Verified} (hverified : verified.Attributed) {result : DispatchOutcome}
    (h : Plays (a.dropped identity reason detail verified result) own out) (hsinks : own.all AirlockSaw.sinkHolds = true) :
    ∃ record : DropRecord, record.reason = reason ∧ own = [⟨.drop record,.ok ()⟩] ∧ out = .ok result := by
  obtain ⟨record,hrecord,hreason⟩ := makeDropRecord_ok a.hasher a.adapter.channelType reason hidentity a.now_aware hdetail hverified
  simp only [dropped,hrecord] at h
  obtain ⟨reply,rest,rfl,hrest⟩ := plays_act.mp h
  cases reply with
  | error x => simp [AirlockSaw.sinkHolds] at hsinks
  | ok u =>
    obtain ⟨rfl,hout⟩ := plays_ret.mp hrest
    exact ⟨record,hreason,rfl,hout⟩

theorem refuse_settles (hidentity : identity.encode = some text) {reason : DropReason} {refusal : RefusalClass}
    (hclass : reason.refusal = some refusal) {detail : Option String} (hdetail : detail.all isMachineCode = true)
    {verified : Verified} (hverified : verified.Attributed)
    (h : Plays (a.refuse identity reason refusal detail verified) own out) (hsinks : own.all AirlockSaw.sinkHolds = true) :
    ∃ record : DropRecord, own = [⟨.drop record,.ok ()⟩] ∧ out = .ok ⟨none,answerTo (a.mapped identity) record.reason⟩ := by
  obtain ⟨record,hreason,hown,hout⟩ := dropped_settles hidentity hdetail hverified h hsinks
  refine ⟨record,hown,?_⟩
  rw [hout,answerTo,hreason,hclass]

theorem refuse_settled (hidentity : identity.encode = some text) {reason : DropReason} {refusal : RefusalClass}
    (hclass : reason.refusal = some refusal) {detail : Option String} (hdetail : detail.all isMachineCode = true)
    {verified : Verified} (hverified : verified.Attributed)
    (h : Plays (a.refuse identity reason refusal detail verified) own out) (hsinks : own.all AirlockSaw.sinkHolds = true) :
    Settled (a.mapped identity) own out := by
  obtain ⟨record,rfl,rfl⟩ := refuse_settles hidentity hclass hdetail hverified h hsinks
  exact .refused record rfl rfl fun h => by cases h

theorem namespaced_channel {channelType : String} (h : channelType ≠ "") : isNamespaced ("channel:" ++ channelType) = true := by
  have hchars : ("channel:" ++ channelType).toList = ['c','h','a','n','n','e','l',':'] ++ channelType.toList := by
    rw [String.toList_append]
    rfl
  have hvalue : channelType.toList ≠ [] := fun hnil => h (String.toList_inj.mp hnil)
  rw [isNamespaced,hchars]
  simpa using hvalue

theorem stampInbound_named (hname : a.adapter.channelType ≠ "") (e : EventTrigger) (resolution : TrustResolution) (v : Verification) :
    ∃ accepted, stampInbound e resolution (a.stamp v) = .ok accepted := by
  have hentry : ∃ entry, ProvenanceEntry.make (a.stamp v).zone (a.stamp v).source (a.stamp v).evidence
      resolution.senderClass.hopLabel (a.stamp v).ts = .ok entry := by
    rw [ProvenanceEntry.make,dif_pos (show isNamespaced (a.stamp v).source = true from namespaced_channel hname),
      dif_pos (show isTzAware (a.stamp v).ts = true from a.now_aware)]
    exact ⟨_,rfl⟩
  obtain ⟨entry,hentry⟩ := hentry
  rw [stampInbound,bind_of_ok hentry]
  exact ⟨_,rfl⟩

theorem taintStamp_settles (hname : a.adapter.channelType ≠ "") (h : Plays (a.taintStamp e resolution v) own out) :
    own = [] ∧ ∃ accepted, out = .ok ⟨some accepted,none⟩ := by
  obtain ⟨accepted,haccepted⟩ := stampInbound_named hname e resolution v
  simp only [taintStamp,haccepted] at h
  obtain ⟨hown,hout⟩ := plays_ret.mp h
  exact ⟨hown,accepted,hout⟩

theorem judged_settles (hidentity : identity.encode = some text) (hname : a.adapter.channelType ≠ "")
    (hv : v.toVerified.Attributed) {answer : ScreenAnswer} (h : Plays (a.judged identity e resolution v answer) own out)
    (hsinks : own.all AirlockSaw.sinkHolds = true) :
    (answer.passed = true ∧ own = [] ∧ ∃ accepted, out = .ok ⟨some accepted,none⟩) ∨
      (answer.passed = false ∧ ∃ record : DropRecord, record.reason = .screenRefused ∧ own = [⟨.drop record,.ok ()⟩] ∧
        out = .ok ⟨none,none⟩) := by
  unfold judged at h
  split at h
  · rename_i hpassed
    obtain ⟨hown,hout⟩ := taintStamp_settles hname h
    exact .inl ⟨hpassed,hown,hout⟩
  · rename_i hpassed
    exact .inr ⟨by simpa using hpassed,dropped_settles hidentity answer.reason_coded hv h hsinks⟩

theorem recorded_settles (hidentity : identity.encode = some text) (hname : a.adapter.channelType ≠ "")
    (hv : v.toVerified.Attributed) {answer : ScreenAnswer} (h : Plays (a.recorded identity e resolution v answer) own out)
    (hsinks : own.all AirlockSaw.sinkHolds = true) :
    ∃ notes : List AirlockSaw, (notes = [] ∨ ∃ record, notes = [⟨.verdict record,.ok ()⟩]) ∧
      ((answer.passed = true ∧ own = notes ∧ ∃ accepted, out = .ok ⟨some accepted,none⟩) ∨
        (answer.passed = false ∧ ∃ record : DropRecord, record.reason = .screenRefused ∧ own = notes ++ [⟨.drop record,.ok ()⟩] ∧
          out = .ok ⟨none,none⟩)) := by
  unfold recorded at h
  split at h
  · obtain ⟨record,hrecord⟩ := makeScreenRecord_ok a e.eventId answer.passed hidentity hv answer.reason_coded
    simp only [hrecord] at h
    obtain ⟨reply,rest,rfl,hrest⟩ := plays_act.mp h
    cases reply with
    | error x => simp [AirlockSaw.sinkHolds] at hsinks
    | ok u =>
      refine ⟨[⟨.verdict record,.ok ()⟩],.inr ⟨record,rfl⟩,?_⟩
      rcases judged_settles hidentity hname hv hrest (by simpa [AirlockSaw.sinkHolds] using hsinks) with
        ⟨hpassed,rfl,hout⟩ | ⟨hpassed,refusal,hreason,rfl,hout⟩
      · exact .inl ⟨hpassed,rfl,hout⟩
      · exact .inr ⟨hpassed,refusal,hreason,rfl,hout⟩
  · exact ⟨[],.inl rfl,judged_settles hidentity hname hv h hsinks⟩

theorem screened_settles (hidentity : identity.encode = some text) (hname : a.adapter.channelType ≠ "")
    (hv : v.toVerified.Attributed) {answer : ScreenAnswer} (h : Plays (a.recorded identity e resolution v answer) own out)
    (hsinks : own.all AirlockSaw.sinkHolds = true) {front : List AirlockSaw} (hdrops : dropsOf front = [])
    (hhit : front.any AirlockSaw.isHit = false) (hanswer : answer.passed = false → front.all AirlockSaw.passes = false) :
    Settled (a.mapped identity) (front ++ own) out := by
  obtain ⟨notes,hnotes,hcases⟩ := recorded_settles hidentity hname hv h hsinks
  have hquiet : dropsOf notes = [] ∧ notes.any AirlockSaw.isHit = false := by
    rcases hnotes with rfl | ⟨record,rfl⟩
    · exact ⟨rfl,rfl⟩
    · exact ⟨rfl,rfl⟩
  rcases hcases with ⟨_,rfl,accepted,rfl⟩ | ⟨hpassed,record,hreason,rfl,rfl⟩
  · refine .accepted accepted ?_ ?_
    · rw [dropsOf,List.filterMap_append,← dropsOf,← dropsOf,hdrops,hquiet.1,List.append_nil]
    · rw [List.any_append,hhit,hquiet.2,Bool.or_false]
  · have hanswerTo : answerTo (a.mapped identity) record.reason = none := by
      rw [answerTo,hreason]
      exact ite_self none
    rw [← hanswerTo]
    refine .refused record ?_ ?_ fun _ => ?_
    · rw [dropsOf,List.filterMap_append,List.filterMap_append,← dropsOf,← dropsOf,hdrops,hquiet.1]
      rfl
    · rw [List.any_append,List.any_append,hhit,hquiet.2]
      rfl
    · rw [List.all_append,hanswer hpassed,Bool.false_and]

theorem claimed_settles (front : List AirlockSaw) (hidentity : identity.encode = some text) (hname : a.adapter.channelType ≠ "")
    (hv : v.toVerified.Attributed) (h : Plays (a.screenGate identity e resolution v) own out)
    (hsinks : own.all AirlockSaw.sinkHolds = true) (hdrops : dropsOf front = [])
    (hhit : front.any AirlockSaw.isHit = false) : Settled (a.mapped identity) (front ++ own) out := by
  unfold screenGate at h
  split at h
  · obtain ⟨reply,rest,rfl,hrest⟩ := plays_act.mp h
    have hfront : dropsOf (front ++ [⟨.screen e,reply⟩]) = [] := by
      rw [dropsOf,List.filterMap_append,← dropsOf,hdrops]
      rfl
    have hmiss : List.any (front ++ [⟨.screen e,reply⟩]) AirlockSaw.isHit = false := by
      rw [List.any_append,hhit]
      rfl
    have hheld : rest.all AirlockSaw.sinkHolds = true := by simpa [AirlockSaw.sinkHolds] using hsinks
    rw [List.append_cons]
    cases reply with
    | error x =>
      refine screened_settles hidentity hname hv hrest hheld hfront hmiss fun _ => ?_
      simp [AirlockSaw.passes]
    | ok answer =>
      refine screened_settles hidentity hname hv hrest hheld hfront hmiss fun hpassed => ?_
      simp [AirlockSaw.passes,hpassed]
  · obtain ⟨rfl,accepted,rfl⟩ := taintStamp_settles hname h
    rw [List.append_nil]
    exact .accepted accepted hdrops hhit

theorem dedupeGate_settles (hidentity : identity.encode = some text) (hname : a.adapter.channelType ≠ "")
    (hv : v.toVerified.Attributed) (h : Plays (a.dedupeGate identity e resolution v) own out)
    (hsinks : own.all AirlockSaw.sinkHolds = true) : Settled (a.mapped identity) own out := by
  have hcode : (some "dedupe_store").all isMachineCode = true := by decide
  obtain ⟨reply,rest,rfl,hlooked⟩ := plays_act.mp h
  have hheld : rest.all AirlockSaw.sinkHolds = true := by simpa [AirlockSaw.sinkHolds] using hsinks
  match reply, hlooked with
  | .error x, hlooked =>
    obtain ⟨record,rfl,rfl⟩ := refuse_settles hidentity rfl hcode hv hlooked hheld
    exact .refused record rfl rfl fun hclaim => by cases hclaim
  | .ok true, hlooked =>
    obtain ⟨rfl,rfl⟩ := plays_ret.mp hlooked
    exact .repeated rfl rfl rfl
  | .ok false, hlooked =>
    obtain ⟨added,rest,rfl,hclaimed⟩ := plays_act.mp hlooked
    have hheld' : rest.all AirlockSaw.sinkHolds = true := by simpa [AirlockSaw.sinkHolds] using hheld
    match added, hclaimed with
    | .error x, hclaimed =>
      obtain ⟨record,rfl,rfl⟩ := refuse_settles hidentity rfl hcode hv hclaimed hheld'
      exact .refused record rfl rfl fun hclaim => by cases hclaim
    | .ok u, hclaimed =>
      exact claimed_settles [⟨.contains e.dedupeKey,.ok false⟩,⟨.add e.dedupeKey,.ok u⟩] hidentity hname hv hclaimed hheld' rfl rfl

structure Reaches (a : Airlock Request) (identity : PyStr) (e : EventTrigger) : Prop where
  live : e.isExpired a.now a.clockSkew = .ok false
  resolved : ∃ resolution, a.trustMap.resolve a.adapter.channelType identity = some resolution ∧ resolution.principal = e.principal

structure Admissible (a : Airlock Request) (identity : PyStr) (e : EventTrigger) : Prop extends Reaches a identity e where
  forwardable : ∃ body, e.toWire a.parser (some maxEnvelopeBytes) = .ok body
  bound : PyStr.ofString e.sender.channelIdentity = identity
  addressed : e.audience = a.zone

theorem mapGate_settles (hidentity : identity.encode = some text) (hlive : e.isExpired a.now a.clockSkew = .ok false)
    (hname : Reaches a identity e → a.adapter.channelType ≠ "") (hv : v.toVerified.Attributed) (h : Plays (a.mapGate identity e v) own out) (hsinks : own.all AirlockSaw.sinkHolds = true) :
    Settled (a.mapped identity) own out := by
  unfold mapGate at h
  split at h
  · exact refuse_settled hidentity rfl rfl hv h hsinks
  · split at h
    · exact refuse_settled hidentity rfl rfl hv h hsinks
    · rename_i resolution hresolved hprincipal
      exact dedupeGate_settles hidentity (hname ⟨hlive,resolution,hresolved,not_not.mp hprincipal⟩) hv h hsinks

-- What the manifest promises of the bound, and the clock of the instant.
def Configured (a : Airlock Request) : Prop := 0 ≤ a.clockSkew ∧ a.clockSkew ≤ maxSkew ∧ Representable (a.now + a.clockSkew)

theorem isExpired_ok (hconfigured : a.Configured) (e : EventTrigger) : ∃ expired, e.isExpired a.now a.clockSkew = .ok expired := by
  obtain ⟨hpos,hmax,hjudged⟩ := hconfigured
  obtain ⟨_,_,_,_,_,_,_,_,_,hexpiry,_⟩ := e.checked
  have hbound : endJudgedAt a.now a.clockSkew = .ok (a.now + a.clockSkew) :=
    (endJudgedAt_eq hpos hmax).trans (datetimeSum_ok.mpr ⟨hjudged,rfl⟩)
  unfold isTzAware at hexpiry
  cases hparsed : fromisoformat e.expiry with
  | none => simp [hparsed] at hexpiry
  | some d =>
    obtain ⟨clock,offset⟩ := d
    cases offset with
    | none => simp [hparsed] at hexpiry
    | some offset =>
      refine ⟨decide (clock - offset < a.now + a.clockSkew),?_⟩
      simp [EventTrigger.isExpired,hbound,hparsed]

theorem expiryGate_settles (hconfigured : a.Configured) (hidentity : identity.encode = some text)
    (hname : Reaches a identity e → a.adapter.channelType ≠ "") (hv : v.toVerified.Attributed) (h : Plays (a.expiryGate identity e v) own out) (hsinks : own.all AirlockSaw.sinkHolds = true) :
    Settled (a.mapped identity) own out := by
  obtain ⟨expired,hexpired⟩ := isExpired_ok hconfigured e
  cases expired with
  | true =>
    simp only [expiryGate,hexpired] at h
    exact refuse_settled hidentity rfl rfl hv h hsinks
  | false =>
    simp only [expiryGate,hexpired] at h
    exact mapGate_settles hidentity hexpired hname hv h hsinks

theorem chainGate_settles (hconfigured : a.Configured) (hidentity : identity.encode = some text)
    (hname : Reaches a identity e → a.adapter.channelType ≠ "") (h : Plays (a.chainGate identity e) own out) (hsinks : own.all AirlockSaw.sinkHolds = true)
    (hkeys : own.all AirlockSaw.keysOnly = true) : Settled (a.mapped identity) own out := by
  unfold chainGate at h
  split at h
  · obtain ⟨reply,rest,rfl,hverified⟩ := plays_act.mp h
    have hheld : rest.all AirlockSaw.sinkHolds = true := by simpa [AirlockSaw.sinkHolds] using hsinks
    refine Settled.after_verify ?_
    match reply, hverified with
    | .error x, hverified =>
      have hx : x = .keySourceUnavailable := by
        rw [List.all_cons,Bool.and_eq_true] at hkeys
        simpa [AirlockSaw.keysOnly] using hkeys.1
      subst hx
      exact refuse_settled hidentity rfl (by decide) attributed_unverified hverified hheld
    | .ok (.failed reason detail), hverified =>
      refine refuse_settled hidentity ?_ (SignerDetail.coded detail) attributed_unverified hverified hheld
      cases reason <;> rfl
    | .ok (.passed keyId zone separated custody), hverified =>
      exact expiryGate_settles hconfigured hidentity hname (attributed_verified keyId) hverified hheld
  · exact expiryGate_settles hconfigured hidentity hname attributed_unverified h hsinks

theorem formGate_settles (hconfigured : a.Configured) (hidentity : identity.encode = some text)
    (hname : Admissible a identity e → a.adapter.channelType ≠ "") (h : Plays (a.formGate identity e) own out) (hsinks : own.all AirlockSaw.sinkHolds = true)
    (hkeys : own.all AirlockSaw.keysOnly = true) : Settled (a.mapped identity) own out := by
  unfold formGate at h
  split at h
  · exact refuse_settled hidentity rfl (by decide) attributed_unverified h hsinks
  · rename_i body hwire
    split at h
    · exact refuse_settled hidentity rfl (by decide) attributed_unverified h hsinks
    · rename_i hsender
      split at h
      · exact refuse_settled hidentity rfl rfl attributed_unverified h hsinks
      · rename_i haudience
        refine chainGate_settles hconfigured hidentity (fun hreaches => hname ?_) h hsinks hkeys
        exact ⟨hreaches,⟨body,hwire⟩,not_not.mp hsender,not_not.mp haudience⟩

end Airlock

end SafeAgents.Channels
