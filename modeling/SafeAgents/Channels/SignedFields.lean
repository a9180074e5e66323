import SafeAgents.Channels.Signing

namespace SafeAgents.Channels

open Lexical Checked

structure Agrees (folding : Folding) (e e' : EventTrigger) : Prop where
  eventId : e.eventId = e'.eventId
  principal : e.principal = e'.principal
  audience : e.audience = e'.audience
  channelType : e.sender.channelType = e'.sender.channelType
  channelIdentity : canonicalText folding e.sender.channelIdentity = canonicalText folding e'.sender.channelIdentity
  evidence : e.sender.evidence = e'.sender.evidence
  payload : (Json.obj e.payload).sortKeys = (Json.obj e'.payload).sortKeys
  payloadDigest : e.payloadDigest = e'.payloadDigest
  payloadRef : e.payloadRef = e'.payloadRef
  provenance : e.provenance = e'.provenance
  ts : e.ts = e'.ts
  expiry : e.expiry = e'.expiry

section Injectivity
variable {sha256 : String → String} {folding : Folding} {e e' : EventTrigger} {keyId zone keyId' zone' : String}

theorem inlinePayloadHex_ok {payload : List (String × Json)} {hex : String} (h : inlinePayloadHex sha256 payload = .ok hex) :
    hex = sha256 (Json.obj payload).sortKeys.dumps ∧
      ∃ read, Json.loads (Json.obj payload).sortKeys.dumps = some read ∧ read.sortKeys = (Json.obj payload).sortKeys := by
  obtain ⟨_,h⟩ := then_ok.mp h
  obtain ⟨hread,h⟩ := then_ok.mp h
  refine ⟨(pure_ok.mp h).symm,?_⟩
  rw [refuseIf_ok,Bool.not_eq_false] at hread
  cases hloads : Json.loads (Json.obj payload).sortKeys.dumps with
  | none => simp [hloads] at hread
  | some read => exact ⟨read,rfl,Json.eq_of_same _ _ (by simpa [hloads] using hread)⟩

theorem inlinePayloadHex_injective (hinjective : Function.Injective sha256) {payload payload' : List (String × Json)} {hex : String}
    (h : inlinePayloadHex sha256 payload = .ok hex) (h' : inlinePayloadHex sha256 payload' = .ok hex) :
    (Json.obj payload).sortKeys = (Json.obj payload').sortKeys := by
  obtain ⟨hhex,read,hread,hsorted⟩ := inlinePayloadHex_ok h
  obtain ⟨hhex',read',hread',hsorted'⟩ := inlinePayloadHex_ok h'
  have htext := hinjective (hhex.symm.trans hhex')
  rw [htext,hread'] at hread
  cases hread
  exact hsorted.symm.trans hsorted'

theorem digestHex_injective {digest digest' : String} (h : isSha256Digest digest = true) (h' : isSha256Digest digest' = true)
    (hsame : digestHex digest = digestHex digest') : digest = digest' := by
  have hdrop : digest.toList.drop 7 = digest'.toList.drop 7 := by simpa [digestHex] using congrArg String.toList hsame
  have htake : ∀ {text : String}, isSha256Digest text = true → text.toList.take 7 = "sha256:".toList := by
    intro text htext
    simp only [isSha256Digest,Bool.and_eq_true,beq_iff_eq] at htext
    exact htext.1.1
  apply String.toList_inj.mp
  rw [← List.take_append_drop 7 digest.toList,← List.take_append_drop 7 digest'.toList,htake h,htake h',hdrop]

theorem subjectJson_injective {name hex hex' : String} {uri uri' : Option String}
    (h : subjectJson name hex uri = subjectJson name hex' uri') : hex = hex' ∧ uri = uri' := by
  cases uri with
  | none =>
    cases uri' with
    | none => simpa [subjectJson] using h
    | some ref => simp [subjectJson] at h
  | some ref =>
    cases uri' with
    | none => simp [subjectJson] at h
    | some ref' => simpa [subjectJson] using h

theorem subjects_ok {subject : List Json} (h : subjects sha256 e = .ok subject) :
    ∃ hex, inlinePayloadHex sha256 e.payload = .ok hex ∧
      ((e.payloadDigest = none ∧ e.payloadRef = none ∧ subject = [subjectJson "payload" hex none]) ∨
        ∃ digest, e.payloadDigest = some digest ∧ isSha256Digest digest = true ∧
          subject = [subjectJson "payload" hex none,subjectJson "raw_original" (digestHex digest) e.payloadRef]) := by
  obtain ⟨hex,hhex,h⟩ := bind_ok.mp h
  refine ⟨hex,hhex,?_⟩
  cases hdigest : e.payloadDigest with
  | none =>
    simp only [hdigest] at h
    obtain ⟨href,h⟩ := then_ok.mp h
    have hnone : e.payloadRef = none := by
      rw [refuseIf_ok] at href
      simpa using href
    exact .inl ⟨rfl,hnone,(pure_ok.mp h).symm⟩
  | some digest =>
    simp only [hdigest] at h
    obtain ⟨hformat,h⟩ := then_ok.mp h
    rw [refuseIf_ok,Bool.not_eq_false] at hformat
    exact .inr ⟨digest,rfl,hformat,(pure_ok.mp h).symm⟩

theorem subjects_injective (hinjective : Function.Injective sha256) {subject : List Json} (h : subjects sha256 e = .ok subject)
    (h' : subjects sha256 e' = .ok subject) :
    (Json.obj e.payload).sortKeys = (Json.obj e'.payload).sortKeys ∧ e.payloadDigest = e'.payloadDigest ∧
      e.payloadRef = e'.payloadRef := by
  obtain ⟨hex,hhex,hcases⟩ := subjects_ok h
  obtain ⟨hex',hhex',hcases'⟩ := subjects_ok h'
  rcases hcases with ⟨hdigest,href,rfl⟩ | ⟨digest,hdigest,hformat,rfl⟩
  · rcases hcases' with ⟨hdigest',href',hsame⟩ | ⟨digest',_,_,hsame⟩
    · obtain ⟨rfl,-⟩ := subjectJson_injective (List.cons.inj hsame).1
      exact ⟨inlinePayloadHex_injective hinjective hhex hhex',hdigest.trans hdigest'.symm,href.trans href'.symm⟩
    · cases (List.cons.inj hsame).2
  · rcases hcases' with ⟨_,_,hsame⟩ | ⟨digest',hdigest',hformat',hsame⟩
    · cases (List.cons.inj hsame).2
    · obtain ⟨hpayload,hraw⟩ := List.cons.inj hsame
      obtain ⟨rfl,-⟩ := subjectJson_injective hpayload
      obtain ⟨hsameDigest,href⟩ := subjectJson_injective (List.cons.inj hraw).1
      rw [hdigest,hdigest',digestHex_injective hformat hformat' hsameDigest]
      exact ⟨inlinePayloadHex_injective hinjective hhex hhex',rfl,href⟩

theorem hopJson_injective : Function.Injective hopJson := by
  intro p q h
  have hstr : Function.Injective Json.str := fun _ _ heq => Json.str.inj heq
  simp only [hopJson,Json.obj.injEq,List.cons.injEq,Prod.mk.injEq,Json.arr.injEq,Json.str.injEq,true_and,and_true] at h
  obtain ⟨hevidence,hlabel,hsource,hts,hzone⟩ := h
  have hevidence := hstr.list_map hevidence
  have hlabel := HopLabel.text_injective hlabel
  cases p
  cases q
  simp_all

theorem subjectJson_wellFormed (name hex : String) (uri : Option String) : (subjectJson name hex uri).WellFormed := by
  cases uri <;> simp [subjectJson,Json.WellFormed,Json.MembersWellFormed]

theorem hopJson_wellFormed (p : ProvenanceEntry) : (hopJson p).WellFormed := by
  have hevidence := Json.wellFormed_strs p.evidence
  simp only [Json.WellFormed] at hevidence
  simpa [hopJson,Json.WellFormed,Json.MembersWellFormed] using hevidence

theorem boundEnvelope_wellFormed (folding : Folding) (e : EventTrigger) : (boundEnvelope folding e).WellFormed := by
  have hevidence := Json.wellFormed_strs e.sender.evidence
  have hversion := Json.wellFormed_ofInt 1
  simp only [Json.WellFormed] at hevidence
  simp only [boundEnvelope,Json.WellFormed,Json.MembersWellFormed,true_and,and_true]
  exact ⟨hversion,hevidence⟩

theorem statementJson_wellFormed {subject : List Json} (hsubject : Json.ItemsWellFormed subject) :
    (statementJson folding subject e keyId zone).WellFormed := by
  have henvelope := boundEnvelope_wellFormed folding e
  have hhops : Json.ItemsWellFormed (e.provenance.map hopJson) := by
    apply Json.itemsWellFormed_of_forall
    intro item hitem
    obtain ⟨p,_,rfl⟩ := List.mem_map.mp hitem
    exact hopJson_wellFormed p
  simp only [statementJson,Json.WellFormed,Json.MembersWellFormed,true_and,and_true]
  exact ⟨⟨henvelope,hhops⟩,hsubject⟩

theorem subjects_wellFormed {subject : List Json} (h : subjects sha256 e = .ok subject) : Json.ItemsWellFormed subject := by
  obtain ⟨hex,_,hcases⟩ := subjects_ok h
  rcases hcases with ⟨_,_,rfl⟩ | ⟨digest,_,_,rfl⟩
  · exact ⟨subjectJson_wellFormed _ _ _,trivial⟩
  · exact ⟨subjectJson_wellFormed _ _ _,subjectJson_wellFormed _ _ _,trivial⟩

theorem buildStatement_injective (hinjective : Function.Injective sha256) {statement : String}
    (h : buildStatement sha256 folding e keyId zone = .ok statement)
    (h' : buildStatement sha256 folding e' keyId' zone' = .ok statement) : Agrees folding e e' ∧ keyId = keyId' ∧ zone = zone' := by
  obtain ⟨subject,hsubject,h⟩ := bind_ok.mp h
  obtain ⟨subject',hsubject',h'⟩ := bind_ok.mp h'
  have hdumps := (pure_ok.mp h).trans (pure_ok.mp h').symm
  have hjson := Json.dumps_injective (statementJson_wellFormed (subjects_wellFormed hsubject))
    (statementJson_wellFormed (subjects_wellFormed hsubject')) hdumps
  have hstr : Function.Injective Json.str := fun _ _ heq => Json.str.inj heq
  simp only [statementJson,boundEnvelope,Json.obj.injEq,List.cons.injEq,Prod.mk.injEq,Json.arr.injEq,Json.str.injEq,true_and,and_true]
    at hjson
  obtain ⟨⟨henvelope,hhops,hsigner⟩,rfl⟩ := hjson
  obtain ⟨haudience,hevent,hexpiry,hprincipal,⟨hidentity,htype,hevidence⟩,hts⟩ := henvelope
  obtain ⟨hpayload,hdigest,href⟩ := subjects_injective hinjective hsubject hsubject'
  exact ⟨⟨hevent,hprincipal,haudience,htype,hidentity,hstr.list_map hevidence,hpayload,hdigest,href,
    hopJson_injective.list_map hhops,hts,hexpiry⟩,hsigner⟩

theorem pae_injective {payloadType payload payload' : String} (h : pae payloadType payload = pae payloadType payload') :
    payload = payload' := by
  have hlist := congrArg String.toList h
  simp only [pae,String.toList_append,List.append_assoc,List.append_cancel_left_eq] at hlist
  have hspace : " ".toList = [' '] := rfl
  have hdigits : ∀ n : Nat, ' ' ∉ (toString n).toList := by
    intro n hmem
    rw [show (toString n).toList = Nat.toDigits 10 n from String.toList_ofList] at hmem
    exact absurd (Json.digits_number hmem) (by decide)
  rw [hspace,List.singleton_append,List.singleton_append] at hlist
  exact String.toList_inj.mp (Lexical.cut_unique (hdigits _) (hdigits _) hlist).2

end Injectivity

section Canonical
variable {folding : Folding}

theorem canonicalIdentity_text (folding : Folding) (raw : String) :
    (canonicalIdentity folding (.ofString raw)).encode = some (canonicalText folding raw) := by
  have hall : ((canonicalIdentity folding (.ofString raw)).all fun n => decide n.isValidChar) = true := by
    simp only [List.all_eq_true,decide_eq_true_eq]
    intro m hm
    obtain ⟨n,hn,hmn⟩ := List.mem_flatMap.mp hm
    refine folding.text n ?_ m hmn
    have hraw : n ∈ PyStr.ofString raw := by
      have hsub : List.Sublist (PyStr.strip (.ofString raw)) (PyStr.ofString raw) := by
        have hfront := List.dropWhile_sublist (l := PyStr.ofString raw) isSpacePoint
        have hback := (List.dropWhile_sublist (l := ((PyStr.ofString raw).dropWhile isSpacePoint).reverse) isSpacePoint).reverse
        rw [List.reverse_reverse] at hback
        exact hback.trans hfront
      exact hsub.subset hn
    obtain ⟨c,_,rfl⟩ := List.mem_map.mp hraw
    exact c.valid
  rw [canonicalText,PyStr.encode,if_pos hall]
  rfl

-- What Unicode promises of case folding: folding again changes nothing, and no visible character folds to blank or to nothing.
structure Folding.Stable (folding : Folding) : Prop where
  again : ∀ n, ∀ m ∈ folding.fold n, folding.fold m = [m]
  solid : ∀ n, isSpacePoint n = false → folding.fold n ≠ [] ∧ ∀ m ∈ folding.fold n, isSpacePoint m = false

def Solid (p : PyStr) : Prop := (∀ n, p.head? = some n → isSpacePoint n = false) ∧ ∀ n, p.getLast? = some n → isSpacePoint n = false

theorem dropWhile_solid {p : PyStr} (h : ∀ n, p.head? = some n → isSpacePoint n = false) : p.dropWhile isSpacePoint = p := by
  cases p with
  | nil => rfl
  | cons n rest => rw [List.dropWhile_cons_of_neg (by simp [h n rfl])]

theorem strip_solid {p : PyStr} (h : Solid p) : PyStr.strip p = p := by
  rw [PyStr.strip,dropWhile_solid h.1,dropWhile_solid,List.reverse_reverse]
  intro n hn
  rw [List.head?_reverse] at hn
  exact h.2 n hn

theorem head_dropWhile (p : PyStr) : ∀ n, (p.dropWhile isSpacePoint).head? = some n → isSpacePoint n = false := by
  intro n hn
  have hhead := List.head?_dropWhile_not isSpacePoint p
  rw [hn] at hhead
  simpa using hhead

theorem solid_strip (p : PyStr) : Solid (PyStr.strip p) := by
  have hback : ∀ n, (PyStr.strip p).getLast? = some n → isSpacePoint n = false := by
    intro n hn
    rw [PyStr.strip,List.getLast?_reverse] at hn
    exact head_dropWhile _ n hn
  refine ⟨fun n hn => ?_,hback⟩
  -- The front that is left is the front of the text without its leading blanks.
  have hprefix : List.IsPrefix (PyStr.strip p) (p.dropWhile isSpacePoint) := by
    have hsuffix := List.dropWhile_suffix (l := (p.dropWhile isSpacePoint).reverse) isSpacePoint
    have hreverse := List.reverse_prefix.mpr hsuffix
    rwa [List.reverse_reverse] at hreverse
  obtain ⟨rest,hrest⟩ := hprefix
  refine head_dropWhile p n ?_
  rw [← hrest,List.head?_append,hn]
  rfl

theorem solid_folded (hstable : folding.Stable) {p : PyStr} (h : Solid p) : Solid (p.flatMap folding.fold) := by
  constructor
  · intro n hn
    cases p with
    | nil => cases hn
    | cons first rest =>
      obtain ⟨hnonempty,hvisible⟩ := hstable.solid first (h.1 first rfl)
      cases hfold : folding.fold first with
      | nil => exact absurd hfold hnonempty
      | cons m more =>
        rw [List.flatMap_cons,hfold] at hn
        cases hn
        exact hvisible n (by rw [hfold]; exact List.mem_cons_self)
  · intro n hn
    rcases List.eq_nil_or_concat p with rfl | ⟨front,last,rfl⟩
    · cases hn
    · obtain ⟨hnonempty,hvisible⟩ := hstable.solid last (h.2 last (by simp))
      rw [List.concat_eq_append,List.flatMap_append,List.flatMap_singleton,List.getLast?_append_of_ne_nil _ hnonempty] at hn
      exact hvisible n (List.mem_of_getLast? hn)

theorem canonicalIdentity_idempotent (hstable : folding.Stable) (p : PyStr) :
    canonicalIdentity folding (canonicalIdentity folding p) = canonicalIdentity folding p := by
  have hsolid := solid_folded hstable (solid_strip p)
  have hagain : ∀ q : PyStr, (∀ m ∈ q, folding.fold m = [m]) → q.flatMap folding.fold = q := by
    intro q hq
    induction q with
    | nil => rfl
    | cons m rest ih =>
      rw [List.flatMap_cons,hq m List.mem_cons_self,ih fun k hk => hq k (List.mem_cons_of_mem m hk)]
      rfl
  rw [canonicalIdentity,canonicalIdentity,strip_solid hsolid]
  refine hagain _ fun m hm => ?_
  obtain ⟨n,_,hmn⟩ := List.mem_flatMap.mp hm
  exact hstable.again n m hmn

theorem canonicalText_idempotent (hstable : folding.Stable) (raw : String) :
    canonicalText folding (canonicalText folding raw) = canonicalText folding raw := by
  have htext := PyStr.encode_eq_some.mp (canonicalIdentity_text folding raw)
  have hagain := canonicalIdentity_text folding (canonicalText folding raw)
  rw [← htext,canonicalIdentity_idempotent hstable,canonicalIdentity_text] at hagain
  exact (Option.some.inj hagain).symm

end Canonical

section Verification
variable {sha256 : String → String} {folding : Folding} {PrivateKey PublicKey : Type} {scheme : SigningScheme PrivateKey PublicKey}
  {parser : WireParser} {keyResolver : PeerKeyResolver PublicKey} {e : EventTrigger} {signature : ChainSignature}

structure Vouches (sha256 : String → String) (folding : Folding) (scheme : SigningScheme PrivateKey PublicKey)
    (keyResolver : PeerKeyResolver PublicKey) (e : EventTrigger) (signature : ChainSignature) (key : PeerKey PublicKey) : Prop where
  covers : signature.covers = e.provenance.length
  payloadType : signature.payloadType = dssePayloadType
  top : e.provenance.getLast?.map ProvenanceEntry.zone = some signature.zone
  resolved : keyResolver signature.keyId = .ok (some key)
  zoned : key.zone = signature.zone
  verified : verifyOne sha256 folding scheme signature e key.publicKey = true
  permitted : canonicalText folding e.sender.channelIdentity ∈ key.senderIdentities

theorem judgeSignature_ok {key : PeerKey PublicKey} :
    judgeSignature sha256 folding scheme keyResolver e signature = .ok (.ok key) ↔
      Vouches sha256 folding scheme keyResolver e signature key := by
  constructor
  · intro h
    unfold judgeSignature at h
    split at h
    · cases h
    · rename_i hform
      obtain ⟨hcovers,htype⟩ := not_or.mp hform
      split at h
      · cases h
      · rename_i htop
        obtain ⟨found,hfound,h⟩ := bind_ok.mp h
        cases found with
        | none => cases pure_ok.mp h
        | some held =>
          dsimp only at h
          split at h
          · cases pure_ok.mp h
          · rename_i hzone
            split at h
            · cases pure_ok.mp h
            · rename_i hverified
              split at h
              · cases pure_ok.mp h
              · rename_i hpermitted
                cases pure_ok.mp h
                exact ⟨not_not.mp hcovers,not_not.mp htype,not_not.mp htop,hfound,not_not.mp hzone,eq_true_of_ne_false hverified,
                  not_not.mp hpermitted⟩
  · intro h
    rw [judgeSignature,if_neg (by simp [h.covers,h.payloadType]),if_neg (by simp [h.top]),bind_of_ok h.resolved]
    dsimp only
    rw [if_neg (by simp [h.zoned]),if_neg (by simp [h.verified]),if_neg (by simp [h.permitted])]
    rfl

theorem judgeSignatures_ok {signatures : List ChainSignature} {keys : List (PeerKey PublicKey)}
    (h : judgeSignatures sha256 folding scheme keyResolver e signatures = .ok (.ok keys)) :
    ∀ signature ∈ signatures, ∃ key, Vouches sha256 folding scheme keyResolver e signature key := by
  induction signatures generalizing keys with
  | nil => intro signature hmem; cases hmem
  | cons first rest ih =>
    obtain ⟨judged,hjudged,h⟩ := bind_ok.mp h
    cases judged with
    | error fault => cases pure_ok.mp h
    | ok key =>
      obtain ⟨others,hothers,h⟩ := bind_ok.mp h
      cases others with
      | error fault => cases pure_ok.mp h
      | ok more =>
        intro signature hmem
        rcases List.mem_cons.mp hmem with rfl | hrest
        · exact ⟨key,judgeSignature_ok.mp hjudged⟩
        · exact ih hothers signature hrest

def GatePasses (sha256 : String → String) (folding : Folding) (scheme : SigningScheme PrivateKey PublicKey)
    (keyResolver : PeerKeyResolver PublicKey) (e : EventTrigger) : Prop :=
  ∃ keyId zone separated custody, verifyChain sha256 folding scheme keyResolver e = .ok (.passed keyId zone separated custody)

theorem GatePasses.vouches (h : GatePasses sha256 folding scheme keyResolver e) :
    ∀ signature ∈ e.chainSignatures, ∃ key, Vouches sha256 folding scheme keyResolver e signature key := by
  obtain ⟨keyId,zone,separated,custody,h⟩ := h
  unfold verifyChain at h
  split at h
  · cases h
  · rename_i first rest hsignatures
    obtain ⟨judged,hjudged,h⟩ := bind_ok.mp h
    cases judged with
    | error fault => cases pure_ok.mp h
    | ok keys =>
      rw [hsignatures]
      exact judgeSignatures_ok hjudged

theorem accepts_single {key : PeerKey PublicKey} (hsignatures : e.chainSignatures = [signature])
    (h : Vouches sha256 folding scheme keyResolver e signature key) : GatePasses sha256 folding scheme keyResolver e := by
  have hjudged : judgeSignatures sha256 folding scheme keyResolver e [signature] = .ok (.ok [key]) := by
    rw [judgeSignatures,bind_of_ok (judgeSignature_ok.mpr h)]
    rfl
  refine ⟨some signature.keyId,some signature.zone,[key].all PeerKey.agentSeparatedCustody,
    weakestCustodyEvidence ([key].map PeerKey.custodyEvidence),?_⟩
  unfold verifyChain
  rw [hsignatures]
  dsimp only
  rw [bind_of_ok hjudged]
  rfl

def EventTrigger.canonicalised (folding : Folding) (e : EventTrigger) : EventTrigger :=
  e.withSender { e.sender with channelIdentity := canonicalText folding e.sender.channelIdentity }

-- Of the signature texts anyone has produced, those that verify under the signer's key were made over the message of an
-- envelope the signer put its key to.
def Unforged (sha256 : String → String) (folding : Folding) (scheme : SigningScheme PrivateKey PublicKey) (parser : WireParser)
    (signer : ChainSigner PrivateKey) (history : List EventTrigger) (produced : String → Prop) : Prop :=
  ∀ sig message, produced sig → scheme.verify (scheme.publicKey signer.privateKey) sig message = true →
    ∃ sent ∈ history, signer.message sha256 folding parser sent = .ok message

theorem message_ok {signer : ChainSigner PrivateKey} {message : String} (h : signer.message sha256 folding parser e = .ok message) :
    ∃ statement, buildStatement sha256 folding e signer.keyId signer.zone = .ok statement ∧ message = pae dssePayloadType statement := by
  obtain ⟨_,_,h⟩ := bind_ok.mp h
  obtain ⟨statement,hstatement,h⟩ := bind_ok.mp h
  exact ⟨statement,hstatement,(pure_ok.mp h).symm⟩

theorem signEnvelope_ok {signer : ChainSigner PrivateKey} (h : signer.signEnvelope sha256 folding scheme parser e = .ok signature) :
    ∃ statement, buildStatement sha256 folding e signer.keyId signer.zone = .ok statement ∧ signature.keyId = signer.keyId ∧
      signature.zone = signer.zone ∧ signature.covers = e.provenance.length ∧ signature.payloadType = dssePayloadType ∧
      signature.sig = scheme.sign signer.privateKey (pae dssePayloadType statement) := by
  obtain ⟨message,hmessage,h⟩ := bind_ok.mp h
  obtain ⟨statement,hstatement,rfl⟩ := message_ok hmessage
  refine ⟨statement,hstatement,?_⟩
  unfold ChainSignature.make at h
  split at h
  · cases h
    exact ⟨rfl,rfl,rfl,rfl,rfl⟩
  · cases h

theorem buildStatement_canonicalised (hstable : folding.Stable) (keyId zone : String) :
    buildStatement sha256 folding ((e.withSignature signature).canonicalised folding) keyId zone =
      buildStatement sha256 folding e keyId zone := by
  have hbound : boundEnvelope folding ((e.withSignature signature).canonicalised folding) = boundEnvelope folding e := by
    have hidentity := canonicalText_idempotent hstable e.sender.channelIdentity
    simp only [boundEnvelope,EventTrigger.canonicalised,EventTrigger.withSender,EventTrigger.withSignature,EventTrigger.copied,
      hidentity]
  simp only [buildStatement,statementJson,hbound]
  rfl

theorem Vouches.signed (hinjective : Function.Injective sha256) {signer : ChainSigner PrivateKey} {history : List EventTrigger}
    {produced : String → Prop} (hunforged : Unforged sha256 folding scheme parser signer history produced) {key : PeerKey PublicKey}
    (hproduced : produced signature.sig) (h : Vouches sha256 folding scheme keyResolver e signature key) (hkey : key.publicKey = scheme.publicKey signer.privateKey) :
    ∃ sent ∈ history, Agrees folding e sent := by
  have hverified := h.verified
  unfold verifyOne at hverified
  split at hverified
  · cases hverified
  · rename_i statement hstatement
    rw [hkey,h.payloadType] at hverified
    obtain ⟨sent,hsent,hmessage⟩ := hunforged _ _ hproduced hverified
    obtain ⟨statement',hstatement',hpae⟩ := message_ok hmessage
    obtain rfl := pae_injective hpae
    exact ⟨sent,hsent,(buildStatement_injective hinjective hstatement hstatement').1⟩

theorem vouches_signed (hstable : folding.Stable) {signer : ChainSigner PrivateKey} {key : PeerKey PublicKey}
    (htop : e.provenance.getLast?.map ProvenanceEntry.zone = some signer.zone)
    (hsigned : signer.signEnvelope sha256 folding scheme parser e = .ok signature)
    (hresolved : keyResolver signer.keyId = .ok (some key)) (hkey : key.publicKey = scheme.publicKey signer.privateKey)
    (hzone : key.zone = signer.zone) (hsender : canonicalText folding e.sender.channelIdentity ∈ key.senderIdentities) :
    Vouches sha256 folding scheme keyResolver ((e.withSignature signature).canonicalised folding) signature key := by
  obtain ⟨statement,hstatement,hid,hsigner,hcovers,htype,hsig⟩ := signEnvelope_ok hsigned
  have hverified : verifyOne sha256 folding scheme signature ((e.withSignature signature).canonicalised folding) key.publicKey = true := by
    rw [verifyOne,buildStatement_canonicalised hstable,hid,hsigner,hstatement,hkey,htype,hsig]
    exact scheme.accepts _ _
  refine ⟨hcovers,htype,?_,?_,hzone.trans hsigner.symm,hverified,?_⟩
  · rw [hsigner]
    exact htop
  · rw [hid]
    exact hresolved
  · show canonicalText folding (canonicalText folding e.sender.channelIdentity) ∈ key.senderIdentities
    rw [canonicalText_idempotent hstable]
    exact hsender

end Verification

theorem chain_signatures_cover_the_envelope {PrivateKey PublicKey : Type} (scheme : SigningScheme PrivateKey PublicKey)
    (sha256 : String → String) (hinjective : Function.Injective sha256) (folding : Folding) (hstable : folding.Stable)
    (parser : WireParser) (laxInt : Json → Option Int) (signer : ChainSigner PrivateKey) (history : List EventTrigger)
    (produced : String → Prop) (hunforged : Unforged sha256 folding scheme parser signer history produced) :
    (∀ (keyResolver : PeerKeyResolver PublicKey) (e : EventTrigger), (∀ signature ∈ e.chainSignatures, produced signature.sig) →
      GatePasses sha256 folding scheme keyResolver e → ∀ signature ∈ e.chainSignatures, ∀ key, keyResolver signature.keyId = .ok (some key) →
        key.publicKey = scheme.publicKey signer.privateKey → ∃ sent ∈ history, Agrees folding e sent) ∧
    ∀ (keyResolver : PeerKeyResolver PublicKey) (e : EventTrigger) (signature : ChainSignature) (key : PeerKey PublicKey) (body : String),
      (Json.obj e.payload).Keyed → e.provenance.getLast?.map ProvenanceEntry.zone = some signer.zone →
      signer.signEnvelope sha256 folding scheme parser e = .ok signature → keyResolver signer.keyId = .ok (some key) →
      key.publicKey = scheme.publicKey signer.privateKey → key.zone = signer.zone →
      canonicalText folding e.sender.channelIdentity ∈ key.senderIdentities →
      (e.withSignature signature).toWire parser (some maxEnvelopeBytes) = .ok body →
      ∃ received, EventTrigger.modelValidateJson laxInt body = some received ∧
        GatePasses sha256 folding scheme keyResolver (received.canonicalised folding) := by
  refine ⟨fun keyResolver e hproduced haccepts signature hsignature key hresolved hkey => ?_,
    fun keyResolver e signature key body hpayload htop hsigned hresolved hkey hzone hsender hwire => ?_⟩
  · obtain ⟨found,hvouches⟩ := haccepts.vouches signature hsignature
    obtain rfl : found = key := Option.some.inj (Except.ok.inj (hvouches.resolved.symm.trans hresolved))
    exact hvouches.signed hinjective hunforged (hproduced signature hsignature) hkey
  · obtain ⟨_,_,_,rfl⟩ := (EventTrigger.toWire_ok parser).mp hwire
    exact ⟨e.withSignature signature,EventTrigger.modelValidateJson_dumps hpayload,
      accepts_single rfl (vouches_signed hstable htop hsigned hresolved hkey hzone hsender)⟩

namespace PeerLetter

theorem asciiFolding_stable : OwnerDesk.asciiFolding.Stable where
  again n m hm := by
    simp only [OwnerDesk.asciiFolding] at hm ⊢
    split at hm
    · obtain rfl := List.mem_singleton.mp hm
      rw [if_neg (by omega)]
    · rename_i hother
      obtain rfl := List.mem_singleton.mp hm
      rw [if_neg hother]
  solid n hn := by
    simp only [OwnerDesk.asciiFolding]
    split
    · rename_i hupper
      refine ⟨List.cons_ne_nil _ _,fun m hm => ?_⟩
      obtain rfl := List.mem_singleton.mp hm
      have hletters : ∀ k ≤ 25, isSpacePoint (65 + k + 32) = false := by decide
      have hletter := hletters (n - 65) (by omega)
      rwa [show 65 + (n - 65) + 32 = n + 32 by omega] at hletter
    · refine ⟨List.cons_ne_nil _ _,fun m hm => ?_⟩
      obtain rfl := List.mem_singleton.mp hm
      exact hn

def hop : ProvenanceEntry := ⟨"zone-a","peer:news",[],.trusted,"2026-03-01T00:00:00+00:00",by decide,by decide⟩

def draft : Draft where
  eventId := "ev-1"
  principal := "desk"
  audience := "zone-b"
  sender := { channelType := "webhook", channelIdentity := " News" }
  payload := []
  provenance := [hop]
  ts := "2026-03-01T00:00:00+00:00"
  expiry := "2026-03-02T00:00:00+00:00"

theorem draft_valid : draft.Valid := by decide

def letter : EventTrigger := ⟨draft,draft_valid⟩

def digest (text : String) : String := "sha256:" ++ text

theorem digest_injective : Function.Injective digest := fun _ _ h => (String.append_right_inj _).mp h

def parser : WireParser := ⟨fun _ => true,fun _ => true⟩

def statement : String :=
  (statementJson OwnerDesk.asciiFolding [subjectJson "payload" (digest "\x7b\x7d") none] letter "key-a" "zone-a").dumps

theorem letter_statement : buildStatement digest OwnerDesk.asciiFolding letter "key-a" "zone-a" = .ok statement := by
  have hhex : inlinePayloadHex digest letter.payload = .ok (digest "\x7b\x7d") := by
    rw [show letter.payload = [] from rfl]
    decide
  have hsubjects : subjects digest letter = .ok [subjectJson "payload" (digest "\x7b\x7d") none] := by
    rw [subjects,bind_of_ok hhex]
    rfl
  rw [buildStatement,bind_of_ok hsubjects]
  rfl

def sealed : String := String.ofList (List.replicate 86 'A' ++ ['=','='])

def other : String := String.ofList (List.replicate 85 'A' ++ ['Q','=','='])

theorem texts_spelled : (nonBlank sealed && isSignatureText sealed) = true ∧ (nonBlank other && isSignatureText other) = true := by
  decide

theorem sealed_ne_other : sealed ≠ other := by decide

def signText (message : String) : String := if message = pae dssePayloadType statement then sealed else other

def scheme : SigningScheme Unit Unit where
  publicKey _ := ()
  sign _ := signText
  verify _ sig message := sig == signText message
  accepts _ message := beq_self_eq_true (signText message)
  spelled _ message := by
    unfold signText
    split
    · exact texts_spelled.1
    · exact texts_spelled.2

def signer : ChainSigner Unit := ⟨"key-a","zone-a",()⟩

theorem letter_size : letter.json.size ≤ maxEnvelopeBytes := by decide +kernel

theorem letter_message : signer.message digest OwnerDesk.asciiFolding parser letter = .ok (pae dssePayloadType statement) := by
  have hwire : letter.toWire parser (some maxEnvelopeBytes) = .ok letter.json.dumps :=
    (EventTrigger.toWire_ok parser).mpr ⟨rfl,letter_size,rfl,rfl⟩
  have hstatement : buildStatement digest OwnerDesk.asciiFolding letter signer.keyId signer.zone = .ok statement := letter_statement
  rw [ChainSigner.message,bind_of_ok hwire,bind_of_ok hstatement]
  rfl

theorem letter_unforged : Unforged digest OwnerDesk.asciiFolding scheme parser signer [letter] (· = sealed) := by
  rintro sig message rfl hverified
  have hsame : sealed = signText message := eq_of_beq hverified
  unfold signText at hsame
  split at hsame
  · rename_i hmessage
    exact ⟨letter,List.mem_cons_self,by rw [letter_message,hmessage]⟩
  · exact absurd hsame sealed_ne_other

theorem sealed_named : (nonBlank "key-a" && nonBlank "zone-a" && nonBlank sealed && isSignatureText sealed && decide (1 ≤ 1)) = true := by
  decide

def signature : ChainSignature := ⟨"key-a","zone-a",1,dssePayloadType,sealed,sealed_named⟩

theorem letter_signed : signer.signEnvelope digest OwnerDesk.asciiFolding scheme parser letter = .ok signature := by
  have hsign : signText (pae dssePayloadType statement) = sealed := by
    unfold signText
    exact if_pos rfl
  have hmade : ChainSignature.make "key-a" "zone-a" 1 dssePayloadType sealed = .ok signature := dif_pos sealed_named
  have hscheme : ∀ message, scheme.sign signer.privateKey message = signText message := fun _ => rfl
  rw [ChainSigner.signEnvelope,bind_of_ok letter_message,hscheme,hsign]
  exact hmade

def peerKey : PeerKey Unit := ⟨(),"zone-a",["news"],2,.declared⟩

def resolver : PeerKeyResolver Unit := fun keyId => .ok (if keyId = "key-a" then some peerKey else none)

theorem signed_size : (letter.withSignature signature).json.size ≤ maxEnvelopeBytes := by decide +kernel

theorem signed_wire : (letter.withSignature signature).toWire parser (some maxEnvelopeBytes) =
    .ok (letter.withSignature signature).json.dumps := (EventTrigger.toWire_ok parser).mpr ⟨rfl,signed_size,rfl,rfl⟩

theorem letter_identity : canonicalText OwnerDesk.asciiFolding letter.sender.channelIdentity ∈ peerKey.senderIdentities := by
  decide

theorem letter_keyed : (Json.obj letter.payload).Keyed := ⟨List.nodup_nil,trivial⟩

theorem chain_signatures_cover_letter : ∃ received,
    EventTrigger.modelValidateJson (fun _ => none) (letter.withSignature signature).json.dumps = some received ∧
      GatePasses digest OwnerDesk.asciiFolding scheme resolver (received.canonicalised OwnerDesk.asciiFolding) ∧
      ∃ sent ∈ [letter], Agrees OwnerDesk.asciiFolding (received.canonicalised OwnerDesk.asciiFolding) sent := by
  obtain ⟨hcover,haccept⟩ := chain_signatures_cover_the_envelope scheme digest digest_injective OwnerDesk.asciiFolding
    asciiFolding_stable parser (fun _ => none) signer [letter] (· = sealed) letter_unforged
  have htop : letter.provenance.getLast?.map ProvenanceEntry.zone = some signer.zone := rfl
  have hresolved : resolver "key-a" = .ok (some peerKey) := rfl
  obtain ⟨received,hread,hpasses⟩ := haccept resolver letter signature peerKey _ letter_keyed htop letter_signed hresolved rfl rfl
    letter_identity signed_wire
  have hback : EventTrigger.modelValidateJson (fun _ => none) (letter.withSignature signature).json.dumps =
    some (letter.withSignature signature) := EventTrigger.modelValidateJson_dumps letter_keyed
  obtain rfl : letter.withSignature signature = received := Option.some.inj (hback.symm.trans hread)
  have hsigs : ((letter.withSignature signature).canonicalised OwnerDesk.asciiFolding).chainSignatures = [signature] := rfl
  refine ⟨_,hread,hpasses,hcover resolver _ (fun s hs => ?_) hpasses signature (by rw [hsigs]; exact List.mem_cons_self) peerKey
    hresolved rfl⟩
  rw [hsigs] at hs
  obtain rfl := List.mem_singleton.mp hs
  rfl

end PeerLetter

end SafeAgents.Channels
