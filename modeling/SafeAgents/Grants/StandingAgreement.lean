import Mathlib.Data.List.Chain
import SafeAgents.Grants.StandingCommand
import SafeAgents.Grants.StandingOrder

namespace SafeAgents.Grants

open Calendar Checked

abbrev KeyStates := String → Option KeyState

def StandingChange.leaves : StandingChange → KeyStates → KeyStates
  | .init keyId _,_ => Function.update (fun _ => none) keyId (some .active)
  | .add keyId _,states => Function.update states keyId (some .active)
  | .retire keyId _,states => Function.update states keyId (some .retired)
  | .withdraw keyId _,states => Function.update states keyId (some .withdrawn)
  | .reissue,states => states

def statesLeft (start : KeyStates) (changes : List StandingChange) : KeyStates :=
  changes.foldl (fun states change => change.leaves states) start

theorem statesLeft_cons (start : KeyStates) (change : StandingChange) (changes : List StandingChange) :
    statesLeft start (change :: changes) = statesLeft (change.leaves start) changes := rfl

def statesOf (keys : Dict String KeyStandingEntry) : KeyStates := fun k => (keys.get? k).map KeyStandingEntry.state

def statesIn (current : Option KeyStandingDocument) : KeyStates := current.elim (fun _ => none) fun document => statesOf document.keys

structure KeyStandingDocument.Agrees (a b : KeyStandingDocument) : Prop where
  role : a.role = b.role
  version : a.version = b.version
  issuedAt : a.issuedAt = b.issuedAt
  signer : a.signer = b.signer
  keys : ∀ k, a.keys.get? k = b.keys.get? k

structure KeyStandingDocument.Extends (a b : KeyStandingDocument) : Prop where
  later : a.version < b.version
  kept : ∀ k old, a.keys.get? k = some old → ∃ new, b.keys.get? k = some new ∧ new.publicKey = old.publicKey ∧ movesForward old new = true

theorem KeyStandingDocument.Extends.trans {a b c : KeyStandingDocument} (h : a.Extends b) (h' : b.Extends c) : a.Extends c where
  later := lt_trans h.later h'.later
  kept := by
    intro k old hold
    obtain ⟨mid,hmid,hkey,hmoves⟩ := h.kept k old hold
    obtain ⟨new,hnew,hkey',hmoves'⟩ := h'.kept k mid hmid
    exact ⟨new,hnew,hkey'.trans hkey,movesForward_trans hmoves hmoves'⟩

theorem KeyStandingDocument.Extends.agree {a b c : KeyStandingDocument} (h : a.Extends b) (hc : c.Agrees b) : a.Extends c where
  later := by
    rw [hc.version]
    exact h.later
  kept := by
    intro k old hold
    rw [hc.keys]
    exact h.kept k old hold

theorem statesOf_agree {a b : KeyStandingDocument} (h : a.Agrees b) : statesOf a.keys = statesOf b.keys := by
  funext k
  rw [statesOf,statesOf,h.keys]

theorem statesOf_set (keys : Dict String KeyStandingEntry) (keyId : String) (entry : KeyStandingEntry) :
    statesOf (keys.set keyId entry) = Function.update (statesOf keys) keyId (some entry.state) := by
  funext k
  rw [statesOf,Dict.get?_set,Function.update_apply]
  split <;> rfl

namespace StandingCeremony

variable {Bytes Key : Type} [DecidableEq Key] {wire : StandingWire Bytes Key} {press : StandingPress Bytes}

section Changes
variable {keys keys' : Dict String KeyStandingEntry} {keyId pem : String} {now : { t : Int // Representable t }}

omit [DecidableEq Key] in
@[simp] theorem lift_ok {α : Type} {r : Except StandingError α} {a : α} : lift r = .ok a ↔ r = .ok a := by
  cases r <;> simp [lift,Except.mapError]

omit [DecidableEq Key] in
theorem constructEntry_ok {e e' : KeyStandingEntry} (h : constructEntry wire e = .ok e') : e' = e := by
  obtain ⟨_,hend⟩ := then_ok.mp h
  exact (pure_ok.mp hend).symm

theorem addKey_ok (h : addKey wire keys keyId pem = .ok keys') :
    keys.get? keyId = none ∧ keys' = keys.set keyId { publicKey := pem, state := .active } := by
  rw [addKey] at h
  cases hget : keys.get? keyId with
  | some existing =>
    rw [hget] at h
    cases h
  | none =>
    rw [hget] at h
    obtain ⟨raw,_,h⟩ := bind_ok.mp h
    obtain ⟨_,h⟩ := then_ok.mp h
    obtain ⟨entry,hentry,h⟩ := bind_ok.mp h
    obtain rfl := constructEntry_ok hentry
    exact ⟨rfl,(pure_ok.mp h).symm⟩

theorem requireKey_ok {entry : KeyStandingEntry} (h : requireKey keys keyId = .ok entry) : keys.get? keyId = some entry := by
  rw [requireKey] at h
  cases hget : keys.get? keyId with
  | none => simp [hget] at h
  | some found => simpa [hget] using h

structure Restates (keys keys' : Dict String KeyStandingEntry) (keyId : String) (old new : KeyStandingEntry) : Prop where
  listed : keys.get? keyId = some old
  written : keys' = keys.set keyId new
  publicKey : new.publicKey = old.publicKey
  forward : movesForward old new = true

omit [DecidableEq Key] in
theorem retireKey_ok {reason : RetiredReason} (h : retireKey wire keys keyId reason now = .ok keys') :
    ∃ old new, Restates keys keys' keyId old new ∧ new.state = .retired := by
  obtain ⟨old,hold,h⟩ := bind_ok.mp h
  obtain ⟨hactive,h⟩ := then_ok.mp h
  obtain ⟨new,hnew,h⟩ := bind_ok.mp h
  obtain rfl := constructEntry_ok hnew
  have hstate : old.state = .active := by simpa using hactive
  exact ⟨old,_,⟨requireKey_ok hold,(pure_ok.mp h).symm,rfl,by simp [movesForward,hstate]⟩,rfl⟩

omit [DecidableEq Key] in
theorem withdrawKey_ok {reason : WithdrawnReason} (h : withdrawKey wire keys keyId reason now = .ok keys') :
    ∃ old new, Restates keys keys' keyId old new ∧ new.state = .withdrawn := by
  obtain ⟨old,hold,h⟩ := bind_ok.mp h
  obtain ⟨hstanding,h⟩ := then_ok.mp h
  obtain ⟨new,hnew,h⟩ := bind_ok.mp h
  obtain rfl := constructEntry_ok hnew
  have hstate : old.state ≠ .withdrawn := by simpa using hstanding
  refine ⟨old,_,⟨requireKey_ok hold,(pure_ok.mp h).symm,rfl,?_⟩,rfl⟩
  cases hcase : old.state with
  | active => simp [movesForward,hcase]
  | retired => simp [movesForward,hcase]
  | withdrawn => exact absurd hcase hstate

def Kept (keys keys' : Dict String KeyStandingEntry) : Prop :=
  ∀ k old, keys.get? k = some old → ∃ new, keys'.get? k = some new ∧ new.publicKey = old.publicKey ∧ movesForward old new = true

theorem kept_refl (keys : Dict String KeyStandingEntry) : Kept keys keys := fun _ old hold => ⟨old,hold,rfl,by simp [movesForward]⟩

theorem kept_added (hfresh : keys.get? keyId = none) (entry : KeyStandingEntry) : Kept keys (keys.set keyId entry) := by
  intro k old hold
  have hne : k ≠ keyId := by
    rintro rfl
    rw [hfresh] at hold
    cases hold
  rw [Dict.get?_set,if_neg hne]
  exact kept_refl keys k old hold

theorem Restates.kept {old new : KeyStandingEntry} (h : Restates keys keys' keyId old new) : Kept keys keys' := by
  intro k e he
  rw [h.written,Dict.get?_set]
  split
  next hk =>
    rw [hk,h.listed] at he
    cases he
    exact ⟨new,rfl,h.publicKey,h.forward⟩
  next => exact kept_refl keys k e he

theorem apply_ok {site : StandingSite Key} {i : Invocation Bytes Key} {current : Option KeyStandingDocument}
    (h : apply wire site i current = .ok keys') :
    (∀ document, current = some document → Kept document.keys keys') ∧ statesOf keys' = i.change.leaves (statesIn current) := by
  rw [apply.eq_def] at h
  split at h
  next => cases h
  next keyId pem hchange =>
    obtain ⟨text,_,h⟩ := bind_ok.mp h
    obtain ⟨_,rfl⟩ := addKey_ok h
    refine ⟨nofun,?_⟩
    rw [statesOf_set,hchange]
    rfl
  next => cases h
  next keyId pem document hchange =>
    obtain ⟨text,_,h⟩ := bind_ok.mp h
    obtain ⟨hfresh,rfl⟩ := addKey_ok h
    refine ⟨fun d hd => Option.some.inj hd ▸ kept_added hfresh _,?_⟩
    rw [statesOf_set,hchange]
    rfl
  next keyId reason document hchange =>
    obtain ⟨old,new,hrestates,hstate⟩ := retireKey_ok h
    refine ⟨fun d hd => Option.some.inj hd ▸ hrestates.kept,?_⟩
    rw [hrestates.written,statesOf_set,hstate,hchange]
    rfl
  next keyId reason document hchange =>
    obtain ⟨old,new,hrestates,hstate⟩ := withdrawKey_ok h
    refine ⟨fun d hd => Option.some.inj hd ▸ hrestates.kept,?_⟩
    rw [hrestates.written,statesOf_set,hstate,hchange]
    rfl
  next document hchange =>
    cases h
    refine ⟨fun d hd => Option.some.inj hd ▸ kept_refl _,?_⟩
    rw [hchange]
    rfl

end Changes

section Issuing
variable {site : StandingSite Key} {authority : AuthorityKeys Key} {signer : RecordSigner Bytes Key} {i : Invocation Bytes Key}
  {current : Option KeyStandingDocument} {document : KeyStandingDocument} {text : String}

omit [DecidableEq Key] in
theorem constructDocument_ok {d d' : KeyStandingDocument} (h : constructDocument d = .ok d') : d' = d := by
  rw [constructDocument,lift_ok] at h
  obtain ⟨_,h⟩ := then_ok.mp h
  obtain ⟨_,h⟩ := then_ok.mp h
  obtain ⟨_,_,h⟩ := bind_ok.mp h
  obtain ⟨_,h⟩ := then_ok.mp h
  exact (pure_ok.mp h).symm

structure IssuesFrom (wire : StandingWire Bytes Key) (press : StandingPress Bytes) (site : StandingSite Key)
    (authority : AuthorityKeys Key) (signer : RecordSigner Bytes Key) (i : Invocation Bytes Key)
    (current : Option KeyStandingDocument) (document : KeyStandingDocument) (text : String) : Prop where
  extends_ : ∀ previous, current = some previous → previous.Extends document
  leaves : statesOf document.keys = i.change.leaves (statesIn current)
  issuedAt : document.issuedAt = formatStandingInstant i.now
  unlisted : checkAuthorityNotListed wire authority.keyIds authority.publicKeys document = .ok ()
  signed : text = (envelope press document signer).dumps
  verified : ∃ c digest, verifyStandingEnvelope wire authority.resolver site.role text = .ok (c,digest)

theorem issueFrom_ok (h : issueFrom wire press site authority signer i current = .ok (document,text)) :
    IssuesFrom wire press site authority signer i current document text := by
  obtain ⟨_,h⟩ := then_ok.mp h
  obtain ⟨keys,happly,h⟩ := bind_ok.mp h
  obtain ⟨issued,hnext,h⟩ := bind_ok.mp h
  obtain ⟨hunlisted,h⟩ := then_ok.mp h
  obtain ⟨written,hsign,h⟩ := bind_ok.mp h
  obtain ⟨⟨c,digest⟩,hverify,h⟩ := bind_ok.mp h
  obtain ⟨rfl,rfl⟩ := Prod.mk.inj (pure_ok.mp h)
  obtain ⟨_,hnext⟩ := then_ok.mp hnext
  obtain ⟨built,hbuilt,hnext⟩ := bind_ok.mp hnext
  obtain ⟨_,hnext⟩ := then_ok.mp hnext
  obtain rfl := pure_ok.mp hnext
  obtain rfl := constructDocument_ok hbuilt
  rw [signStandingDocument,lift_ok] at hsign
  obtain ⟨_,hsign⟩ := then_ok.mp hsign
  obtain ⟨hkept,hleaves⟩ := apply_ok happly
  refine ⟨?_,hleaves,rfl,lift_ok.mp hunlisted,(pure_ok.mp hsign).symm,c,digest,lift_ok.mp hverify⟩
  rintro previous rfl
  exact ⟨by simp,hkept previous rfl⟩

-- JSON, base64 and the model validators give back the document that was serialized.
structure ReadsBack (wire : StandingWire Bytes Key) (press : StandingPress Bytes) (document : KeyStandingDocument)
    (signer : RecordSigner Bytes Key) : Prop where
  loads : wire.loads (envelope press document signer).dumps = .ok (envelope press document signer)
  decodes : wire.b64decode (press.b64encode (canonicalStandingBytes press document)) = some (canonicalStandingBytes press document)
  parses : ∃ read, wire.parse (canonicalStandingBytes press document) = .ok read ∧ read.Agrees document

theorem verify_written (hreads : ReadsBack wire press document signer) {c : KeyStandingDocument} {digest : String}
    (h : verifyStandingEnvelope wire authority.resolver site.role (envelope press document signer).dumps = .ok (c,digest)) :
    c.Agrees document ∧ checkDistinctKeyBytes wire c = .ok () ∧ digest = wire.sha256 (canonicalStandingBytes press document) := by
  obtain ⟨read,signature,keyid,payload,sig,publicKey,hcarried,rfl⟩ := verifyStandingEnvelope_ok h
  have hread : read = envelope press document signer := by
    have hloaded := hcarried.read
    rw [envelopeOf,hreads.loads] at hloaded
    exact (Except.ok.inj hloaded).symm
  have hpayload : payload = canonicalStandingBytes press document := by
    have hdecoded := hcarried.decoded
    rw [hread] at hdecoded
    simpa [base64Member,envelope,Json.get?,Json.str?,hreads.decodes] using hdecoded.symm
  obtain ⟨parsed,hparsed,hagrees⟩ := hreads.parses
  have hc : parsed = c := by
    have hparse := parsePayload_ok hcarried.parsed
    rw [hpayload,hparsed] at hparse
    exact Except.ok.inj hparse
  rw [hpayload]
  exact ⟨hc ▸ hagrees,hcarried.distinct,rfl⟩

end Issuing

end StandingCeremony

def verdictFor : Option KeyState → StandingVerdict
  | none => .unknownKey
  | some .withdrawn => .withdrawn
  | some _ => .inStanding

namespace StandingSource

section Verifier
variable {Bytes Key : Type} [DecidableEq Key] {wire : StandingWire Bytes Key} {cfg : StandingConfig Key} {s : StandingSource}
  {held : Accepted} {c : KeyStandingDocument} {digest text : String}

theorem withdrawn_kept {e e' : KeyStandingEntry} (h : movesForward e e' = true) (hstate : e.state = .withdrawn) : e' = e := by
  rw [movesForward] at h
  split at h
  next => exact (of_decide_eq_true h).symm
  next => simp [hstate] at h

theorem follows_extending (hs : Sound wire s) (hheld : s.accepted = some held) (hextends : held.document.Extends c)
    (hdistinct : checkDistinctKeyBytes wire c = .ok ()) :
    Follows wire (s.accepted.map Accepted.document) c s.seenWithdrawn where
  distinct := hdistinct
  carries := by
    intro k e hseen
    obtain ⟨hstate,held',hheld',hget⟩ := hs.carried k e hseen
    rw [hheld] at hheld'
    obtain rfl := Option.some.inj hheld'
    obtain ⟨new,hnew,_,hmoves⟩ := hextends.kept k e hget
    rw [hnew,withdrawn_kept hmoves hstate]
  later := by
    intro d hd
    rw [hheld] at hd
    obtain rfl := Option.some.inj hd
    exact hextends.later
  loads := by
    intro k e he
    rw [known_get? hs hheld] at he
    exact checkDistinctKeyBytes_loads (hs.distinct held hheld) he
  fresh := by
    intro k e j old he hk hj hsame
    rw [known_get? hs hheld] at hk hj
    obtain ⟨new,hnew,hkey,_⟩ := hextends.kept j old hj
    have hname := checkDistinctKeyBytes_names hdistinct he hnew (by rw [hkey,hsame])
    rw [hname,hj] at hk
    cases hk
  steps := by
    intro d k old new hd hold hnew
    rw [hheld] at hd
    obtain rfl := Option.some.inj hd
    obtain ⟨new',hnew',hkey,hmoves⟩ := hextends.kept k old hold
    rw [hnew] at hnew'
    obtain rfl := Option.some.inj hnew'
    exact ⟨hkey,hmoves⟩

theorem refresh_extending (hs : Sound wire s) (hheld : s.accepted = some held) (hextends : held.document.Extends c)
    (hverify : verifyStandingEnvelope wire cfg.authority cfg.role text = .ok (c,digest)) (hdigest : held.digest ≠ digest)
    (hunlisted : checkAuthorityNotListed wire cfg.authorityKeyIds cfg.authorityPublicKeys c = .ok ())
    (hdistinct : checkDistinctKeyBytes wire c = .ok ()) {statedAt : Int} (hissued : c.issued = .ok statedAt)
    {fetch : Fetch} (hfetched : fetch.fetched = .ok text) :
    s.refresh wire cfg fetch = (.ok { verdict := .accepted, version := some c.version },
      s.adopt c digest { fetchedAt := fetch.fetchedAt, statedAt := some statedAt }) ∧
      Sound wire (s.refresh wire cfg fetch).2 := by
  have hsuccessor := checkSuccessor_iff.mpr (follows_extending hs hheld hextends hdistinct)
  have hnew : s.accepted.any (fun held => held.digest = digest) = false := by simp [hheld,hdigest]
  have hexamine : s.examine wire cfg text = .ok (some (c,digest)) := by
    rw [examine,bind_of_ok hverify]
    simp only [hnew,Bool.false_eq_true,if_false]
    rw [bind_of_ok hunlisted,bind_of_ok hsuccessor]
    rfl
  refine ⟨?_,(refresh_keeps cfg hs fetch).1⟩
  simp only [refresh,hfetched,hexamine,hissued]

theorem keyState_held (hs : Sound wire s) (hheld : s.accepted = some held) (k : String) :
    s.keyState k = statesOf held.document.keys k := by
  rw [keyState]
  split
  next hmem =>
    obtain ⟨e,hseen⟩ := Dict.mem_keys.mp hmem
    obtain ⟨hstate,held',hheld',hget⟩ := hs.carried k e hseen
    rw [hheld] at hheld'
    obtain rfl := Option.some.inj hheld'
    rw [statesOf,hget,Option.map_some,hstate]
  next =>
    rw [hheld]
    rfl

theorem standingOf_dated (hs : Sound wire s) (hheld : s.accepted = some held) {instant judged : Instant} {skew : Int}
    (hjudged : endJudgedAt instant skew = .ok judged) (hdate : judged < endOf held.asOf.asOf cfg.maxAge) (k : String) :
    s.standingOf cfg k instant skew =
      .ok (s.answer cfg (verdictFor (statesOf held.document.keys k)) (held.document.keys.get? k)) := by
  rw [standingOf]
  cases hseen : s.seenWithdrawn.get? k with
  | some e =>
    obtain ⟨hstate,held',hheld',hget⟩ := hs.carried k e hseen
    rw [hheld] at hheld'
    obtain rfl := Option.some.inj hheld'
    simp only [statesOf,hget,Option.map_some,hstate,verdictFor]
  | none =>
    simp only [hheld,hjudged]
    have hopen : ¬ judged ≥ endOf held.asOf.asOf cfg.maxAge := not_le.mpr hdate
    cases hget : held.document.keys.get? k with
    | none => simp [statesOf,hget,hopen,verdictFor,bind,Except.bind,pure,Except.pure]
    | some e =>
      have hstanding : e.state ≠ .withdrawn := by
        intro hstate
        rw [hs.seen held k e hheld hget hstate] at hseen
        cases hseen
      have hverdict : verdictFor (some e.state) = .inStanding := by
        cases hcase : e.state with
        | active => rfl
        | retired => rfl
        | withdrawn => exact absurd hcase hstanding
      simp [statesOf,hget,hopen,hverdict,bind,Except.bind,pure,Except.pure]

end Verifier

end StandingSource

namespace StandingCeremony

variable {Bytes Key : Type} [DecidableEq Key]

inductive Ceremony (wire : StandingWire Bytes Key) (press : StandingPress Bytes) (site : StandingSite Key) :
    Sources → List (Invocation Bytes Key × Issued) → Prop
  | nil (sources : Sources) : Ceremony wire press site sources []
  | cons {sources sources' : Sources} {i : Invocation Bytes Key} {issued : Issued} {rest : List (Invocation Bytes Key × Issued)}
      (command : standingCommand wire press site sources i = (.ok issued,sources')) (later : Ceremony wire press site sources' rest) :
      Ceremony wire press site sources ((i,issued) :: rest)

def Linked (site : StandingSite Key) (run : List (Invocation Bytes Key × Issued)) : Prop :=
  run.IsChain fun x y => sourceOf site y.1 = .ok (some x.2.destination)

structure Verifier (site : StandingSite Key) (authority : AuthorityKeys Key) (cfg : StandingConfig Key) : Prop where
  role : cfg.role = site.role
  resolver : cfg.authority = authority.resolver
  keyIds : cfg.authorityKeyIds = authority.keyIds
  publicKeys : cfg.authorityPublicKeys = authority.publicKeys

section Runs
variable {wire : StandingWire Bytes Key} {press : StandingPress Bytes} {site : StandingSite Key} {authority : AuthorityKeys Key}
  {sources sources' : Sources} {i : Invocation Bytes Key} {issued : Issued}

theorem standingCommand_ok (hauthority : site.authority = some authority)
    (h : standingCommand wire press site sources i = (.ok issued,sources')) :
    sources' = Function.update sources issued.destination (.ok issued.text) ∧
      ∃ signer current, i.signer = some signer ∧ readCurrent wire site authority sources i = .ok current ∧
        IssuesFrom wire press site authority signer i current issued.document issued.text := by
  rw [standingCommand] at h
  cases hissue : issue wire press site sources i with
  | error e => simp [hissue] at h
  | ok issued' =>
    rw [hissue] at h
    obtain ⟨hsame,rfl⟩ := Prod.mk.inj h
    obtain rfl := Except.ok.inj hsame
    refine ⟨rfl,?_⟩
    rw [issue] at hissue
    obtain ⟨signer,hsigner,hissue⟩ := bind_ok.mp hissue
    obtain ⟨authority',hauthority',hissue⟩ := bind_ok.mp hissue
    obtain ⟨_,hissue⟩ := then_ok.mp hissue
    obtain ⟨current,hcurrent,hissue⟩ := bind_ok.mp hissue
    obtain ⟨⟨document,text⟩,hfrom,hissue⟩ := bind_ok.mp hissue
    obtain ⟨location,_,hissue⟩ := bind_ok.mp hissue
    obtain rfl := pure_ok.mp hissue
    rw [requireAuthority,hauthority] at hauthority'
    obtain rfl : authority = authority' := Except.ok.inj hauthority'
    refine ⟨signer,current,?_,hcurrent,issueFrom_ok hfrom⟩
    rw [requireSigner] at hsigner
    cases hcase : i.signer with
    | none =>
      rw [hcase] at hsigner
      cases hsigner
    | some given =>
      rw [hcase] at hsigner
      rw [Except.ok.inj hsigner]

theorem readCurrent_written {location : Location} {text : String} {current : Option KeyStandingDocument}
    (hsource : sourceOf site i = .ok (some location)) (htext : sources location = .ok text)
    (h : readCurrent wire site authority sources i = .ok current) :
    ∃ c digest, verifyStandingEnvelope wire authority.resolver site.role text = .ok (c,digest) ∧ current = some c := by
  rw [readCurrent,bind_of_ok hsource] at h
  simp only [htext] at h
  obtain ⟨⟨c,digest⟩,hverify,h⟩ := bind_ok.mp h
  exact ⟨c,digest,lift_ok.mp hverify,(pure_ok.mp h).symm⟩

def AllReadBack (wire : StandingWire Bytes Key) (press : StandingPress Bytes) (run : List (Invocation Bytes Key × Issued)) : Prop :=
  ∀ x ∈ run, ∀ signer, x.1.signer = some signer → ReadsBack wire press x.2.document signer

structure Later (wire : StandingWire Bytes Key) (site : StandingSite Key) (authority : AuthorityKeys Key) (x y : Issued) : Prop where
  reads : ∃ c digest, verifyStandingEnvelope wire authority.resolver site.role x.text = .ok (c,digest)
  follows : ∃ c digest, verifyStandingEnvelope wire authority.resolver site.role y.text = .ok (c,digest)
  extends_ : ∀ c digest c' digest', verifyStandingEnvelope wire authority.resolver site.role x.text = .ok (c,digest) →
    verifyStandingEnvelope wire authority.resolver site.role y.text = .ok (c',digest') → c.Extends c'

theorem Later.trans {x y z : Issued} (h : Later wire site authority x y) (h' : Later wire site authority y z) :
    Later wire site authority x z where
  reads := h.reads
  follows := h'.follows
  extends_ := by
    intro c digest c' digest' hc hc'
    obtain ⟨mid,digestMid,hmid⟩ := h.follows
    exact (h.extends_ c digest mid digestMid hc hmid).trans (h'.extends_ mid digestMid c' digest' hmid hc')

theorem later_of_link {x y : Invocation Bytes Key × Issued} {signer signer' : RecordSigner Bytes Key}
    {current current' : Option KeyStandingDocument} {c : KeyStandingDocument} {digest : String}
    (hx : IssuesFrom wire press site authority signer x.1 current x.2.document x.2.text)
    (hy : IssuesFrom wire press site authority signer' y.1 current' y.2.document y.2.text)
    (hreads : ReadsBack wire press y.2.document signer')
    (hverify : verifyStandingEnvelope wire authority.resolver site.role x.2.text = .ok (c,digest)) (hcurrent : current' = some c) :
    Later wire site authority x.2 y.2 where
  reads := hx.verified
  follows := hy.verified
  extends_ := by
    intro a digestA b digestB ha hb
    rw [hverify] at ha
    obtain ⟨rfl,_⟩ := Prod.mk.inj (Except.ok.inj ha)
    rw [hy.signed] at hb
    exact (hy.extends_ c hcurrent).agree (verify_written hreads hb).1

theorem ceremony_later (hauthority : site.authority = some authority) {run : List (Invocation Bytes Key × Issued)}
    (h : Ceremony wire press site sources run) (hlinked : Linked site run) (hreads : AllReadBack wire press run) :
    run.Pairwise fun x y => Later wire site authority x.2 y.2 := by
  induction h with
  | nil sources => exact List.Pairwise.nil
  | @cons sources sources' i issued rest hcommand hrest ih =>
    have htail := ih hlinked.tail fun x hx => hreads x (List.mem_cons_of_mem _ hx)
    refine List.pairwise_cons.mpr ⟨?_,htail⟩
    obtain ⟨hsources,signer,current,_,_,hissues⟩ := standingCommand_ok hauthority hcommand
    cases hrest with
    | nil => exact fun y hy => absurd hy List.not_mem_nil
    | @cons _ _ j next rest hnext hrest =>
      obtain ⟨_,signer',current',hsigner',hcurrent',hissues'⟩ := standingCommand_ok hauthority hnext
      have hsource := (List.isChain_cons_cons.mp hlinked).1
      have hread : sources' issued.destination = .ok issued.text := by rw [hsources,Function.update_self]
      obtain ⟨c,digest,hverify,hc⟩ := readCurrent_written hsource hread hcurrent'
      have hlink : Later wire site authority issued next :=
        later_of_link (x := (i,issued)) (y := (j,next)) hissues hissues' (hreads (j,next) (by simp) signer' hsigner') hverify hc
      intro y hy
      rcases List.mem_cons.mp hy with rfl | hy
      · exact hlink
      · exact hlink.trans ((List.pairwise_cons.mp htail).1 y hy)

theorem ceremony_states (hauthority : site.authority = some authority) {first : Invocation Bytes Key × Issued}
    {rest : List (Invocation Bytes Key × Issued)} (h : Ceremony wire press site sources (first :: rest))
    (hlinked : Linked site (first :: rest)) (hreads : AllReadBack wire press (first :: rest))
    {current : Option KeyStandingDocument} (hcurrent : readCurrent wire site authority sources first.1 = .ok current)
    {n : Nat} {x : Invocation Bytes Key × Issued} (hx : (first :: rest)[n]? = some x) :
    statesOf x.2.document.keys = statesLeft (statesIn current) (((first :: rest).take (n + 1)).map fun y => y.1.change) := by
  induction rest generalizing first sources current n with
  | nil =>
    cases h with
    | cons hcommand hrest =>
      obtain ⟨_,signer,current',_,hcurrent',hissues⟩ := standingCommand_ok hauthority hcommand
      rw [hcurrent] at hcurrent'
      obtain rfl := Except.ok.inj hcurrent'
      cases n with
      | zero =>
        cases hx
        exact hissues.leaves
      | succ n => simp at hx
  | cons next rest ih =>
    cases h with
    | @cons _ sources' i issued _ hcommand hrest =>
      obtain ⟨hsources,signer,current',hsigner,hcurrent',hissues⟩ := standingCommand_ok hauthority hcommand
      rw [hcurrent] at hcurrent'
      obtain rfl := Except.ok.inj hcurrent'
      cases n with
      | zero =>
        cases hx
        exact hissues.leaves
      | succ n =>
        have hsource := (List.isChain_cons_cons.mp hlinked).1
        have hread : sources' issued.destination = .ok issued.text := by rw [hsources,Function.update_self]
        obtain ⟨next',hnext'⟩ : ∃ found, readCurrent wire site authority sources' next.1 = .ok found := by
          cases hrest with
          | cons hnext _ =>
            obtain ⟨_,_,found,_,hfound,_⟩ := standingCommand_ok hauthority hnext
            exact ⟨found,hfound⟩
        obtain ⟨c,digest,hverify,rfl⟩ := readCurrent_written hsource hread hnext'
        rw [hissues.signed] at hverify
        have hagrees := (verify_written (hreads (i,issued) List.mem_cons_self signer hsigner) hverify).1
        have hstates := ih hrest hlinked.tail (fun y hy => hreads y (List.mem_cons_of_mem _ hy)) hnext' hx
        have hstart : statesIn (some c) = i.change.leaves (statesIn current) := by
          rw [← hissues.leaves]
          exact statesOf_agree hagrees
        rw [hstates,List.take_succ_cons (i := n + 1),List.map_cons,statesLeft_cons,hstart]

theorem ceremony_issues (hauthority : site.authority = some authority) {run : List (Invocation Bytes Key × Issued)}
    (h : Ceremony wire press site sources run) {x : Invocation Bytes Key × Issued} (hx : x ∈ run) :
    ∃ signer current, x.1.signer = some signer ∧ IssuesFrom wire press site authority signer x.1 current x.2.document x.2.text := by
  induction h with
  | nil sources => cases hx
  | cons hcommand _ ih =>
    rcases List.mem_cons.mp hx with rfl | hx
    · obtain ⟨_,signer,current,hsigner,_,hissues⟩ := standingCommand_ok hauthority hcommand
      exact ⟨signer,current,hsigner,hissues⟩
    · exact ih hx

theorem ceremony_starts (hauthority : site.authority = some authority) {first : Invocation Bytes Key × Issued}
    {rest : List (Invocation Bytes Key × Issued)} (h : Ceremony wire press site sources (first :: rest)) :
    readCurrent wire site authority sources first.1 = .ok (readCurrent wire site authority sources first.1).toOption.join := by
  cases h with
  | cons hcommand _ =>
    obtain ⟨_,_,current,_,hcurrent,_⟩ := standingCommand_ok hauthority hcommand
    rw [hcurrent]
    rfl

theorem later_at {run : List (Invocation Bytes Key × Issued)} (h : run.Pairwise fun x y => Later wire site authority x.2 y.2)
    {m n : Nat} {x y : Invocation Bytes Key × Issued} (hmn : m < n) (hx : run[m]? = some x) (hy : run[n]? = some y) :
    Later wire site authority x.2 y.2 := by
  obtain ⟨hm,rfl⟩ := List.getElem?_eq_some_iff.mp hx
  obtain ⟨hn,rfl⟩ := List.getElem?_eq_some_iff.mp hy
  exact List.pairwise_iff_getElem.mp h m n hm hn hmn

omit [DecidableEq Key] in
theorem same_version {a b : KeyStandingDocument} {signer signer' : RecordSigner Bytes Key} (ha : ReadsBack wire press a signer)
    (hb : ReadsBack wire press b signer') (h : canonicalStandingBytes press a = canonicalStandingBytes press b) :
    a.version = b.version := by
  obtain ⟨c,hc,hagrees⟩ := ha.parses
  obtain ⟨c',hc',hagrees'⟩ := hb.parses
  rw [h,hc'] at hc
  obtain rfl := Except.ok.inj hc
  rw [← hagrees.version,hagrees'.version]

theorem unlisted_agree {a b : KeyStandingDocument} (h : a.Agrees b)
    (hb : checkAuthorityNotListed wire authority.keyIds authority.publicKeys b = .ok ()) :
    checkAuthorityNotListed wire authority.keyIds authority.publicKeys a = .ok () := by
  rw [checkAuthorityNotListed_iff] at hb ⊢
  intro k e he
  rw [h.keys] at he
  exact hb k e he

theorem issued_stamped {c : KeyStandingDocument} {now : { t : Int // Representable t }}
    (h : c.issuedAt = formatStandingInstant now) : c.issued = .ok now.1 := by
  rw [KeyStandingDocument.issued,h,formatStandingInstant,parseStandingInstant,fromisoformat_isoformat now.2]
  rfl

end Runs

theorem ceremony_and_verifier_agree (wire : StandingWire Bytes Key) (press : StandingPress Bytes) (site : StandingSite Key)
    (authority : AuthorityKeys Key) (hauthority : site.authority = some authority) (cfg : StandingConfig Key)
    (hcfg : Verifier site authority cfg) (sources : Sources) (first : Invocation Bytes Key × Issued)
    (rest : List (Invocation Bytes Key × Issued)) (hrun : Ceremony wire press site sources (first :: rest))
    (hlinked : Linked site (first :: rest)) (hreads : AllReadBack wire press (first :: rest))
    (hdigest : ∀ x ∈ first :: rest, ∀ y ∈ first :: rest,
      wire.sha256 (canonicalStandingBytes press x.2.document) = wire.sha256 (canonicalStandingBytes press y.2.document) →
      canonicalStandingBytes press x.2.document = canonicalStandingBytes press y.2.document)
    (m n : Nat) (x y : Invocation Bytes Key × Issued) (hmn : m < n) (hx : (first :: rest)[m]? = some x)
    (hy : (first :: rest)[n]? = some y) (fetches : List Fetch) (held : Accepted)
    (hheld : (StandingSource.run wire cfg {} fetches).accepted = some held)
    (hholds : verifyStandingEnvelope wire authority.resolver site.role x.2.text = .ok (held.document,held.digest))
    (fetch : Fetch) (hfetch : fetch.fetched = .ok y.2.text) :
    let s := (StandingSource.run wire cfg {} fetches).refresh wire cfg fetch
    let left := statesLeft (statesIn (readCurrent wire site authority sources first.1).toOption.join)
      (((first :: rest).take (n + 1)).map fun z => z.1.change)
    s.1 = .ok { verdict := .accepted, version := some y.2.document.version } ∧ (∀ k, s.2.keyState k = left k) ∧
      ∀ k instant skew judged, endJudgedAt instant skew = .ok judged →
        judged < endOf (min fetch.fetchedAt y.1.now.1) cfg.maxAge →
        ∃ entry, s.2.standingOf cfg k instant skew = .ok (s.2.answer cfg (verdictFor (left k)) entry) ∧
          entry.map KeyStandingEntry.state = left k := by
  intro s left
  obtain ⟨hs,_⟩ := StandingSource.run_keeps cfg (StandingSource.sound_empty wire) fetches
  obtain ⟨signer,_,hsigner,hissuesX⟩ := ceremony_issues hauthority hrun (List.mem_of_getElem? hx)
  obtain ⟨signer',_,hsigner',hissues⟩ := ceremony_issues hauthority hrun (List.mem_of_getElem? hy)
  have hreadsX := hreads x (List.mem_of_getElem? hx) signer hsigner
  have hreadsY := hreads y (List.mem_of_getElem? hy) signer' hsigner'
  obtain ⟨c,digest,hverify⟩ := hissues.verified
  have hextends : held.document.Extends c :=
    (later_at (ceremony_later hauthority hrun hlinked hreads) hmn hx hy).extends_ _ _ _ _ hholds hverify
  obtain ⟨hagrees,hdistinct,hsha⟩ := verify_written hreadsY (hissues.signed ▸ hverify)
  obtain ⟨hagreesX,_,hshaX⟩ := verify_written hreadsX (hissuesX.signed ▸ hholds)
  -- Different versions have different payloads, and so different digests.
  have hfresh : held.digest ≠ digest := by
    intro hsame
    rw [hsha,hshaX] at hsame
    have hbytes := hdigest x (List.mem_of_getElem? hx) y (List.mem_of_getElem? hy) hsame
    have hversion := same_version hreadsX hreadsY hbytes
    have hlater := hextends.later
    rw [hagreesX.version,hagrees.version,hversion] at hlater
    exact lt_irrefl _ hlater
  have hunlisted := unlisted_agree hagrees hissues.unlisted
  have hissued := issued_stamped (hagrees.issuedAt.trans hissues.issuedAt)
  rw [← hcfg.role,← hcfg.resolver] at hverify
  rw [← hcfg.keyIds,← hcfg.publicKeys] at hunlisted
  obtain ⟨hrefresh,hsound⟩ := StandingSource.refresh_extending hs hheld hextends hverify hfresh hunlisted hdistinct hissued hfetch
  have hstates : statesOf c.keys = left := by
    rw [statesOf_agree hagrees]
    exact ceremony_states hauthority hrun hlinked hreads (ceremony_starts hauthority hrun) hy
  have haccepted : s.2.accepted = some { document := c, digest, asOf := { fetchedAt := fetch.fetchedAt, statedAt := some y.1.now.1 } } := by
    rw [show s = _ from hrefresh]
    rfl
  refine ⟨?_,?_,?_⟩
  · rw [show s = _ from hrefresh,hagrees.version]
  · intro k
    rw [StandingSource.keyState_held hsound haccepted,hstates]
  · intro k instant skew judged hjudged hdate
    refine ⟨c.keys.get? k,?_,congrFun hstates k⟩
    rw [← hstates]
    exact StandingSource.standingOf_dated hsound haccepted hjudged hdate k

end StandingCeremony

namespace Forked

open Staged

def compromised : KeyStandingEntry where
  publicKey := Relisted.pemP
  state := .withdrawn
  withdrawnAt := some "2026-03-03T00:00:00+00:00"
  withdrawnReason := some .keyCompromise

def opened : Issue where
  document := document 1 "2026-03-01T00:00:00+00:00" (Dict.empty.set "issuer-a" (Relisted.active Relisted.pemP))
  payload :=
    "eyJpc3N1ZWRBdCI6IjIwMjYtMDMtMDFUMDA6MDA6MDArMDA6MDAiLCJrZXlzIjp7Imlzc3Vlci1hIjp7InB1YmxpY0tleSI6Ii0tLS0tQkVHSU4g" ++
    "UFVCTElDIEtFWS0tLS0tXG5NQ293QlFZREsyVndBeUVBM2JibnhWQmpvU1B6aFh0QkR5T1BvYXdBZVBacXNIZm5UamN4cVlTOStGQT1cbi0tLS0t" ++
    "RU5EIFBVQkxJQyBLRVktLS0tLVxuIiwicmV0aXJlZEF0IjpudWxsLCJyZXRpcmVkUmVhc29uIjpudWxsLCJzdGF0ZSI6ImFjdGl2ZSIsIndpdGhk" ++
    "cmF3bkF0IjpudWxsLCJ3aXRoZHJhd25SZWFzb24iOm51bGx9fSwicm9sZSI6Imlzc3VlciIsInNpZ25lciI6eyJrZXlJZCI6ImF1dGhvcml0eS0x" ++
    "Iiwiem9uZSI6ImxvY2FsIn0sInZlcnNpb24iOjF9"
  sig := "JtpxzuYeNfvdKoE4g4ONfXMvQZ2U4m2vIwSbQ3JwEhZ235pgGoJSJdPU1maXIdxVpmR6s43nwWuBDqCU+mNcDg=="
  sha := "c77143e05c5fdac46503f0fd572c1a823a6173f50f6f8ea45f26364e9a590d90"

def reopened : Issue where
  document := document 1 "2026-03-02T00:00:00+00:00" (Dict.empty.set "issuer-a" (Relisted.active Relisted.pemP))
  payload :=
    "eyJpc3N1ZWRBdCI6IjIwMjYtMDMtMDJUMDA6MDA6MDArMDA6MDAiLCJrZXlzIjp7Imlzc3Vlci1hIjp7InB1YmxpY0tleSI6Ii0tLS0tQkVHSU4g" ++
    "UFVCTElDIEtFWS0tLS0tXG5NQ293QlFZREsyVndBeUVBM2JibnhWQmpvU1B6aFh0QkR5T1BvYXdBZVBacXNIZm5UamN4cVlTOStGQT1cbi0tLS0t" ++
    "RU5EIFBVQkxJQyBLRVktLS0tLVxuIiwicmV0aXJlZEF0IjpudWxsLCJyZXRpcmVkUmVhc29uIjpudWxsLCJzdGF0ZSI6ImFjdGl2ZSIsIndpdGhk" ++
    "cmF3bkF0IjpudWxsLCJ3aXRoZHJhd25SZWFzb24iOm51bGx9fSwicm9sZSI6Imlzc3VlciIsInNpZ25lciI6eyJrZXlJZCI6ImF1dGhvcml0eS0x" ++
    "Iiwiem9uZSI6ImxvY2FsIn0sInZlcnNpb24iOjF9"
  sig := "CpH34+5Bmbajxjg+JXnrGfxTfJYjDLeTEbipt4X53XUYJ6eQadBjNQo1nVhDpCEsuH/Y1jh85kle3plhR8WLBA=="
  sha := "7b2e63510666f13960d178ec0b3ae816ae81b099662f793af926305e3cd8a9f6"

def withdrawn : Issue where
  document := document 2 "2026-03-03T00:00:00+00:00" (opened.document.keys.set "issuer-a" compromised)
  payload :=
    "eyJpc3N1ZWRBdCI6IjIwMjYtMDMtMDNUMDA6MDA6MDArMDA6MDAiLCJrZXlzIjp7Imlzc3Vlci1hIjp7InB1YmxpY0tleSI6Ii0tLS0tQkVHSU4g" ++
    "UFVCTElDIEtFWS0tLS0tXG5NQ293QlFZREsyVndBeUVBM2JibnhWQmpvU1B6aFh0QkR5T1BvYXdBZVBacXNIZm5UamN4cVlTOStGQT1cbi0tLS0t" ++
    "RU5EIFBVQkxJQyBLRVktLS0tLVxuIiwicmV0aXJlZEF0IjpudWxsLCJyZXRpcmVkUmVhc29uIjpudWxsLCJzdGF0ZSI6IndpdGhkcmF3biIsIndp" ++
    "dGhkcmF3bkF0IjoiMjAyNi0wMy0wM1QwMDowMDowMCswMDowMCIsIndpdGhkcmF3blJlYXNvbiI6ImtleUNvbXByb21pc2UifX0sInJvbGUiOiJp" ++
    "c3N1ZXIiLCJzaWduZXIiOnsia2V5SWQiOiJhdXRob3JpdHktMSIsInpvbmUiOiJsb2NhbCJ9LCJ2ZXJzaW9uIjoyfQ=="
  sig := "usfgFHypA0yfLvhc/9lASWBpfcqLw5Db0OMlrnrAuGIsDr8oWrD50U2uR71JsZE76pV2cZxkWgFXmiS0GSnIAw=="
  sha := "9eb32cf7675ad55c7fcb735c88dda05bf66c4c698f4300ee6e72366e114ed278"

def issues : List Issue := [opened,reopened,withdrawn]

def wire : StandingWire String String := Staged.wire Relisted.rawOf issues

def press : StandingPress String where
  encode text := ((issues.find? fun i => i.document.json.dumps = text).map Issue.payload).getD ""
  b64encode := id

def signer : RecordSigner String String where
  keyId := "authority-1"
  zone := "local"
  publicKey := Staged.authorityKey
  sign _ payload := ((issues.find? fun i => i.payload = payload).map Issue.sig).getD ""

def authority : AuthorityKeys String where
  keyIds := ["authority-1"]
  resolver := cfg.authority
  publicKeys := [Staged.authorityKey]

def site : StandingSite String where
  role := .issuer
  standingParam := none
  standingFile := some "standing.json"
  authority := some authority

def opening (now : { t : Int // Representable t }) (out : Option String) : Invocation String String where
  change := .init "issuer-a" Relisted.pemP
  publicKeyFile := "issuer-a.pem"
  out
  now
  signer := some signer

def withdrawing : Invocation String String where
  change := .withdraw "issuer-a" .keyCompromise
  expectVersion := some 1
  now := ⟨1772496000000000,by decide⟩
  signer := some signer

def openedAt : { t : Int // Representable t } := ⟨1772323200000000,by decide⟩

def reopenedAt : { t : Int // Representable t } := ⟨1772409600000000,by decide⟩

theorem payloads_nodup : (issues.map Issue.payload).Nodup := by decide

theorem dumps_nodup : (issues.map fun i => i.document.json.dumps).Nodup := by
  have hissued : issues.Pairwise fun a b => a.document.issuedAt ≠ b.document.issuedAt := by decide
  exact List.pairwise_map.mpr (hissued.imp fun hne heq => hne (KeyStandingDocument.issuedAt_of_dumps heq))

theorem sound : ∀ i ∈ issues, Sound Relisted.rawOf issues i := by
  have hjudged : ∀ i ∈ issues, i.document.wellFormed wire = .ok () ∧ checkDistinctKeyBytes wire i.document = .ok () ∧
      checkAuthorityNotListed wire cfg.authorityKeyIds cfg.authorityPublicKeys i.document = .ok () ∧
      i.document.signer.keyId = "authority-1" ∧ i.document.role = .issuer := by decide +kernel
  intro i hi
  obtain ⟨hwellFormed,hdistinct,hunlisted,hsigner,hrole⟩ := hjudged i hi
  exact ⟨hwellFormed,hdistinct,hunlisted,hsigner,hrole⟩

theorem zoned : ∀ i ∈ issues, i.document.signer.zone = "local" := by decide

theorem envelope_written {i : Issue} (hi : i ∈ issues) : StandingCeremony.envelope press i.document signer = i.envelope := by
  have hpayload : press.encode i.document.json.dumps = i.payload := by
    simp [press,found (f := fun i => i.document.json.dumps) dumps_nodup hi]
  have hsig : signer.sign standingPayloadType i.payload = i.sig := by simp [signer,found payloads_nodup hi]
  rw [StandingCeremony.envelope,StandingCeremony.canonicalStandingBytes,hpayload,hsig]
  rfl

theorem issues_from {inv : Invocation String String} {current : Option KeyStandingDocument} {i : Issue} (hi : i ∈ issues)
    (hexpected : StandingCeremony.checkExpectedVersion site inv current = .ok ())
    (happly : StandingCeremony.apply wire site inv current = .ok i.document.keys)
    (hnext : StandingCeremony.nextDocument wire current site.role i.document.keys inv.now signer = .ok i.document) :
    StandingCeremony.issueFrom wire press site authority signer inv current = .ok (i.document,i.envelope.dumps) := by
  have hsign : StandingCeremony.signStandingDocument press i.document signer = .ok i.envelope.dumps := by
    rw [StandingCeremony.signStandingDocument,StandingCeremony.lift_ok,envelope_written hi,then_ok,refuseIf_ok,not_not]
    exact ⟨⟨(sound i hi).signer,zoned i hi⟩,rfl⟩
  have hunlisted := StandingCeremony.lift_ok.mpr (sound i hi).unlisted
  have hverify := StandingCeremony.lift_ok.mpr (verifies payloads_nodup hi (sound i hi))
  rw [StandingCeremony.issueFrom,bind_of_ok hexpected,bind_of_ok happly,bind_of_ok hnext]
  exact (bind_of_ok hunlisted _).trans ((bind_of_ok hsign _).trans (bind_of_ok hverify _))

theorem commands {inv : Invocation String String} {sources : Sources} {current : Option KeyStandingDocument} {i : Issue}
    {location : Location} (hsigner : inv.signer = some signer)
    (hcurrent : StandingCeremony.readCurrent wire site authority sources inv = .ok current)
    (hissue : StandingCeremony.issueFrom wire press site authority signer inv current = .ok (i.document,i.envelope.dumps))
    (hdestination : StandingCeremony.destination site inv = .ok location) :
    StandingCeremony.standingCommand wire press site sources inv =
      (.ok { document := i.document, text := i.envelope.dumps, destination := location },
        Function.update sources location (.ok i.envelope.dumps)) := by
  have hissued : StandingCeremony.issue wire press site sources inv =
      .ok { document := i.document, text := i.envelope.dumps, destination := location } := by
    have hgiven : StandingCeremony.requireSigner inv = .ok signer := by rw [StandingCeremony.requireSigner,hsigner]; rfl
    have hauthority : StandingCeremony.requireAuthority site = .ok authority := rfl
    have hpublished : ¬ StandingCeremony.signerIsAnAuthorityKey signer authority = false := by decide
    rw [StandingCeremony.issue,bind_of_ok hgiven,bind_of_ok hauthority,bind_of_ok (refuseIf_pass hpublished),bind_of_ok hcurrent,
      bind_of_ok hissue]
    exact bind_of_ok hdestination _
  rw [StandingCeremony.standingCommand,hissued]

theorem opens : StandingCeremony.apply wire site (opening openedAt none) none = .ok opened.document.keys ∧
    StandingCeremony.nextDocument wire none site.role opened.document.keys openedAt signer = .ok opened.document ∧
    StandingCeremony.nextDocument wire none site.role reopened.document.keys reopenedAt signer = .ok reopened.document ∧
    StandingCeremony.apply wire site withdrawing (some opened.document) = .ok withdrawn.document.keys ∧
    StandingCeremony.nextDocument wire (some opened.document) site.role withdrawn.document.keys withdrawing.now signer =
      .ok withdrawn.document := by decide

def absent : Sources := fun _ => .error .absent

def issuedAs (i : Issue) (location : Location) : Issued where
  document := i.document
  text := i.envelope.dumps
  destination := location

theorem opens_at {i : Issue} (hi : i ∈ issues) {now : { t : Int // Representable t }} (out : Option String)
    (hkeys : i.document.keys = opened.document.keys)
    (hnext : StandingCeremony.nextDocument wire none site.role i.document.keys now signer = .ok i.document) (sources : Sources)
    (habsent : sources (.file "standing.json") = .error .absent) {location : Location}
    (hdestination : StandingCeremony.destination site (opening now out) = .ok location) :
    StandingCeremony.standingCommand wire press site sources (opening now out) =
      (.ok (issuedAs i location),Function.update sources location (.ok i.envelope.dumps)) := by
  have hcurrent : StandingCeremony.readCurrent wire site authority sources (opening now out) = .ok none := by
    have hsource : StandingCeremony.sourceOf site (opening now out) = .ok (some (.file "standing.json")) := rfl
    rw [StandingCeremony.readCurrent,bind_of_ok hsource]
    simp only [habsent]
    rfl
  have happly : StandingCeremony.apply wire site (opening now out) none = .ok i.document.keys := by
    rw [hkeys,← opens.1]
    rfl
  exact commands rfl hcurrent (issues_from hi rfl happly hnext) hdestination

theorem opened_mem : opened ∈ issues := by simp [issues]

theorem reopened_mem : reopened ∈ issues := by simp [issues]

theorem withdrawn_mem : withdrawn ∈ issues := by simp [issues]

theorem withdraws (sources : Sources) (hcurrent : sources (.file "standing.json") = .ok opened.envelope.dumps) :
    StandingCeremony.standingCommand wire press site sources withdrawing =
      (.ok (issuedAs withdrawn (.file "standing.json")),
        Function.update sources (.file "standing.json") (.ok withdrawn.envelope.dumps)) := by
  have hread : StandingCeremony.readCurrent wire site authority sources withdrawing = .ok (some opened.document) := by
    have hsource : StandingCeremony.sourceOf site withdrawing = .ok (some (.file "standing.json")) := rfl
    have hverify := StandingCeremony.lift_ok.mpr (verifies payloads_nodup opened_mem (sound opened opened_mem))
    rw [StandingCeremony.readCurrent,bind_of_ok hsource]
    simp only [hcurrent]
    exact bind_of_ok hverify _
  obtain ⟨_,_,_,happly,hnext⟩ := opens
  exact commands rfl hread (issues_from withdrawn_mem rfl happly hnext) rfl

theorem canonical_written {i : Issue} (hi : i ∈ issues) : StandingCeremony.canonicalStandingBytes press i.document = i.payload := by
  simp [StandingCeremony.canonicalStandingBytes,press,found (f := fun i => i.document.json.dumps) dumps_nodup hi]

theorem decodes_spelled (bytes : String) : wire.b64decode (press.b64encode bytes) = some bytes := rfl

theorem reads_back {i : Issue} (hi : i ∈ issues) : StandingCeremony.ReadsBack wire press i.document signer where
  loads := by
    rw [envelope_written hi]
    simp [wire,Staged.wire,Json.loads_dumps (envelope_proper i)]
  decodes := decodes_spelled _
  parses := by
    refine ⟨i.document,?_,⟨rfl,rfl,rfl,rfl,fun _ => rfl⟩⟩
    rw [canonical_written hi]
    simp [wire,Staged.wire,found payloads_nodup hi]

theorem holds_opened : ∃ held, (StandingSource.run wire cfg {} [fetchOf opened]).accepted = some held ∧
    held.document = opened.document ∧ held.digest = opened.sha ∧
    (StandingSource.run wire cfg {} [fetchOf opened]).seenWithdrawn = .empty := by
  have hfollows : checkSuccessor wire none opened.document .empty = .ok () := by decide
  have hissued : opened.document.issued = .ok 1772323200000000 := by decide
  have hidle : ∀ e ∈ opened.document.keys.entries, e.2.state ≠ .withdrawn := by decide
  rw [StandingSource.run_cons,StandingSource.run_nil,wire,
    adopted payloads_nodup opened_mem (sound opened opened_mem) (s := {}) rfl hfollows hissued]
  exact ⟨_,rfl,rfl,rfl,StandingSource.remember_idle hidle⟩

theorem shas_nodup : (issues.map Issue.sha).Nodup := by decide

theorem digests_apart {i j : Issue} (hi : i ∈ issues) (hj : j ∈ issues)
    (h : wire.sha256 (StandingCeremony.canonicalStandingBytes press i.document) =
      wire.sha256 (StandingCeremony.canonicalStandingBytes press j.document)) :
    StandingCeremony.canonicalStandingBytes press i.document = StandingCeremony.canonicalStandingBytes press j.document := by
  have hsha : ∀ {k : Issue}, k ∈ issues → wire.sha256 k.payload = k.sha := by
    intro k hk
    simp [wire,Staged.wire,found payloads_nodup hk]
  rw [canonical_written hi,canonical_written hj,hsha hi,hsha hj] at h
  rw [List.inj_on_of_nodup_map shas_nodup hi hj h]

theorem forked_ceremony_refused :
    StandingCeremony.Ceremony wire press site absent
        [(opening openedAt (some "a.json"),issuedAs opened (.file "a.json")),
          (opening reopenedAt (some "b.json"),issuedAs reopened (.file "b.json"))] ∧
      StandingCeremony.Verifier site authority cfg ∧
      (StandingSource.run wire cfg {} [fetchOf opened]).version = some 1 ∧
      ((StandingSource.run wire cfg {} [fetchOf opened]).refresh wire cfg (fetchOf reopened)).1.map StandingLoad.verdict = .ok .rollback := by
  obtain ⟨held,hheld,hdocument,hdigest,hseen⟩ := holds_opened
  refine ⟨?_,⟨rfl,rfl,rfl,rfl⟩,?_,?_⟩
  · obtain ⟨_,hopened,hreopened,_⟩ := opens
    have hfirst := opens_at opened_mem (some "a.json") rfl hopened absent rfl rfl
    have hsecond := opens_at reopened_mem (some "b.json") rfl hreopened
      (Function.update absent (.file "a.json") (.ok opened.envelope.dumps)) (by simp [absent]) rfl
    exact .cons hfirst (.cons hsecond (.nil _))
  · rw [StandingSource.version,hheld,Option.map_some,hdocument]
    rfl
  · have hsuccessor : checkSuccessor wire (some opened.document) reopened.document .empty =
        .error (.refused .rollback "version 1 is not greater than accepted version 1") := by decide
    have hnew : (StandingSource.run wire cfg {} [fetchOf opened]).accepted.any (fun held => held.digest = reopened.sha) = false := by
      rw [hheld,Option.any_some,hdigest]
      decide
    have hexamine : (StandingSource.run wire cfg {} [fetchOf opened]).examine wire cfg reopened.envelope.dumps =
        .error (.refused .rollback "version 1 is not greater than accepted version 1") := by
      have hverify := verifies payloads_nodup reopened_mem (sound reopened reopened_mem)
      have hunlisted := (sound reopened reopened_mem).unlisted
      rw [StandingSource.examine,show wire = Staged.wire Relisted.rawOf issues from rfl,bind_of_ok hverify]
      rw [show wire = Staged.wire Relisted.rawOf issues from rfl] at hnew hsuccessor hheld hseen
      simp only [hnew,Bool.false_eq_true,if_false]
      rw [bind_of_ok hunlisted,hheld,Option.map_some,hdocument,hseen,hsuccessor]
      rfl
    rw [StandingSource.refresh_refused rfl hexamine]
    rfl

def opening₁ : Invocation String String × Issued := (opening openedAt none,issuedAs opened (.file "standing.json"))

def withdrawing₂ : Invocation String String × Issued := (withdrawing,issuedAs withdrawn (.file "standing.json"))

theorem run_succeeds : StandingCeremony.Ceremony wire press site absent [opening₁,withdrawing₂] := by
  obtain ⟨_,hopened,_⟩ := opens
  have hfirst := opens_at opened_mem none rfl hopened absent rfl rfl
  have hsecond := withdraws (Function.update absent (.file "standing.json") (.ok opened.envelope.dumps)) (by simp)
  exact .cons hfirst (.cons hsecond (.nil _))

theorem mem_run {x : Invocation String String × Issued} (hx : x ∈ [opening₁,withdrawing₂]) :
    x.1.signer = some signer ∧ ∃ i ∈ issues, x.2.document = i.document := by
  simp only [List.mem_cons,List.not_mem_nil,or_false] at hx
  rcases hx with rfl | rfl
  · exact ⟨rfl,opened,opened_mem,rfl⟩
  · exact ⟨rfl,withdrawn,withdrawn_mem,rfl⟩

theorem ceremony_and_verifier_agree_withdrawn :
    ((StandingSource.run wire cfg {} [fetchOf opened]).refresh wire cfg (fetchOf withdrawn)).1 =
        .ok { verdict := .accepted, version := some withdrawing₂.2.document.version } ∧
      ((StandingSource.run wire cfg {} [fetchOf opened]).refresh wire cfg (fetchOf withdrawn)).2.keyState "issuer-a" =
        some .withdrawn := by
  obtain ⟨held,hheld,hdocument,hdigest,_⟩ := holds_opened
  have hlinked : StandingCeremony.Linked site [opening₁,withdrawing₂] := List.isChain_cons_cons.mpr ⟨rfl,List.isChain_singleton _⟩
  have hreads : StandingCeremony.AllReadBack wire press [opening₁,withdrawing₂] := by
    intro x hx given hgiven
    obtain ⟨hsigner,i,hi,hdocument⟩ := mem_run hx
    rw [hsigner] at hgiven
    obtain rfl := Option.some.inj hgiven
    rw [hdocument]
    exact reads_back hi
  have hapart : ∀ x ∈ [opening₁,withdrawing₂], ∀ y ∈ [opening₁,withdrawing₂],
      wire.sha256 (StandingCeremony.canonicalStandingBytes press x.2.document) =
        wire.sha256 (StandingCeremony.canonicalStandingBytes press y.2.document) →
      StandingCeremony.canonicalStandingBytes press x.2.document = StandingCeremony.canonicalStandingBytes press y.2.document := by
    intro x hx y hy h
    obtain ⟨_,i,hi,hxi⟩ := mem_run hx
    obtain ⟨_,j,hj,hyj⟩ := mem_run hy
    rw [hxi,hyj] at h ⊢
    exact digests_apart hi hj h
  have hholds : verifyStandingEnvelope wire authority.resolver site.role opening₁.2.text = .ok (held.document,held.digest) := by
    rw [hdocument,hdigest]
    exact verifies payloads_nodup opened_mem (sound opened opened_mem)
  have hverifier : StandingCeremony.Verifier site authority cfg := ⟨rfl,rfl,rfl,rfl⟩
  have hagree := StandingCeremony.ceremony_and_verifier_agree wire press site authority rfl cfg hverifier absent opening₁ [withdrawing₂]
    run_succeeds hlinked hreads hapart 0 1 opening₁ withdrawing₂ (by decide) rfl rfl [fetchOf opened] held hheld hholds
    (fetchOf withdrawn) rfl
  have hleft : ∀ start, statesLeft start (([opening₁,withdrawing₂].take (1 + 1)).map fun z => z.1.change) "issuer-a" =
      some .withdrawn := by
    intro start
    have hchanges : (([opening₁,withdrawing₂].take (1 + 1)).map fun z => z.1.change) =
        [.init "issuer-a" Relisted.pemP,.withdraw "issuer-a" .keyCompromise] := rfl
    simp only [hchanges,statesLeft,List.foldl_cons,List.foldl_nil,StandingChange.leaves,Function.update_self]
  refine ⟨hagree.1,?_⟩
  rw [hagree.2.1,hleft]

end Forked

end SafeAgents.Grants
