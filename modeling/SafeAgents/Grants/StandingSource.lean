import SafeAgents.Grants.KeyStanding

namespace SafeAgents.Grants

open Calendar Checked

inductive StandingVerdict where
  | inStanding | withdrawn | notEstablished | unknownKey
  deriving DecidableEq

structure StandingLoad where
  verdict : LoadVerdict
  version : Option Int
  detail : Option String := none

structure KeyStanding where
  verdict : StandingVerdict
  entry : Option KeyStandingEntry
  version : Option Int
  asOf : Option Int
  horizon : Option Int
  deriving DecidableEq

structure InputAsOf where
  fetchedAt : Int
  statedAt : Option Int := none

def InputAsOf.asOf (i : InputAsOf) : Int := (i.statedAt.map fun t => min i.fetchedAt t).getD i.fetchedAt

-- A positive age can only overflow upwards, and the end is then clamped to the last representable instant.
def endOf (asOf maxAge : Int) : Int := min (asOf + maxAge) maxInstant

structure Accepted where
  document : KeyStandingDocument
  digest : String
  asOf : InputAsOf

structure StandingSource where
  accepted : Option Accepted := none
  seenWithdrawn : Dict String KeyStandingEntry := .empty

structure StandingConfig (Key : Type) where
  role : StandingRole
  sourceLabel : String
  authority : String → Option Key
  authorityKeyIds : List String
  authorityPublicKeys : List Key
  maxAge : Int
  positive : 0 < maxAge

-- One call of refresh: the clock reading taken before the fetch, and the text fetched or the type of what it raised.
structure Fetch where
  fetchedAt : Int
  fetched : Except String String

namespace StandingSource

section Source
variable {Bytes Key : Type} [DecidableEq Key] (wire : StandingWire Bytes Key) (cfg : StandingConfig Key)

def version (s : StandingSource) : Option Int := s.accepted.map fun held => held.document.version

def examine (s : StandingSource) (text : String) : Except StandingError (Option (KeyStandingDocument × String)) := do
  let (document,digest) ← verifyStandingEnvelope wire cfg.authority cfg.role text
  if s.accepted.any (fun held => held.digest = digest) then return none
  checkAuthorityNotListed wire cfg.authorityKeyIds cfg.authorityPublicKeys document
  checkSuccessor wire (s.accepted.map Accepted.document) document s.seenWithdrawn
  return some (document,digest)

def remember (seen : Dict String KeyStandingEntry) (entries : List (String × KeyStandingEntry)) : Dict String KeyStandingEntry :=
  entries.foldl (fun d e => if e.2.state = .withdrawn then d.set e.1 e.2 else d) seen

def adopt (s : StandingSource) (document : KeyStandingDocument) (digest : String) (asOf : InputAsOf) : StandingSource where
  accepted := some { document, digest, asOf }
  seenWithdrawn := remember s.seenWithdrawn document.keys.entries

def refresh (s : StandingSource) (fetch : Fetch) : Except StandingError StandingLoad × StandingSource :=
  match fetch.fetched with
  | .error name => (.ok { verdict := .unreadable, version := s.version, detail := some (cfg.sourceLabel ++ ": " ++ name) },s)
  | .ok text =>
    match s.examine wire cfg text with
    | .error (.refused verdict detail) => (.ok { verdict, version := s.version, detail := some detail },s)
    | .error e => (.error e,s)
    | .ok none => (.ok { verdict := .unchanged, version := s.version },s)
    | .ok (some (document,digest)) =>
      match document.issued with
      | .error e => (.error e,s)
      | .ok statedAt =>
        (.ok { verdict := .accepted, version := some document.version },
          s.adopt document digest { fetchedAt := fetch.fetchedAt, statedAt := some statedAt })

def run (s : StandingSource) (fetches : List Fetch) : StandingSource :=
  fetches.foldl (fun s fetch => (s.refresh wire cfg fetch).2) s

def asOf (s : StandingSource) : Option Int := s.accepted.map fun held => held.asOf.asOf

def horizon (s : StandingSource) : Option Int := s.asOf.map fun t => endOf t cfg.maxAge

def answer (s : StandingSource) (verdict : StandingVerdict) (entry : Option KeyStandingEntry) : KeyStanding :=
  { verdict, entry, version := s.version, asOf := s.asOf, horizon := s.horizon cfg }

def standingOf (s : StandingSource) (keyId : String) (instant : Instant) (skew : Int) : Except Exn KeyStanding :=
  match s.seenWithdrawn.get? keyId with
  | some seen => .ok (s.answer cfg .withdrawn (some seen))
  | none =>
    match s.accepted with
    | none => .ok (s.answer cfg .notEstablished none)
    | some held => do
      let judged ← endJudgedAt instant skew
      if judged ≥ endOf held.asOf.asOf cfg.maxAge then return s.answer cfg .notEstablished none
      match held.document.keys.get? keyId with
      | none => return s.answer cfg .unknownKey none
      | some entry => return s.answer cfg .inStanding (some entry)

def keyState (s : StandingSource) (keyId : String) : Option KeyState :=
  if keyId ∈ s.seenWithdrawn.keys then some .withdrawn
  else (s.accepted.bind fun held => held.document.keys.get? keyId).map KeyStandingEntry.state

def keyResolver (s : StandingSource) (keyId : String) : Option Key :=
  (s.accepted.bind fun held => held.document.keys.get? keyId).bind fun e => (wire.loadPublicKey e.publicKey).toOption

end Source

section Lemmas
variable {Bytes Key : Type} [DecidableEq Key] {wire : StandingWire Bytes Key} {cfg : StandingConfig Key} {s t : StandingSource}

@[simp] theorem run_nil (s : StandingSource) : s.run wire cfg [] = s := rfl

@[simp] theorem run_cons (s : StandingSource) (fetch : Fetch) (fetches : List Fetch) :
    s.run wire cfg (fetch :: fetches) = (s.refresh wire cfg fetch).2.run wire cfg fetches := rfl

theorem run_append (s : StandingSource) (earlier later : List Fetch) :
    s.run wire cfg (earlier ++ later) = (s.run wire cfg earlier).run wire cfg later := List.foldl_append

theorem remember_other {seen : Dict String KeyStandingEntry} {entries : List (String × KeyStandingEntry)} {k : String}
    (h : ∀ e, (k,e) ∈ entries → e.state ≠ .withdrawn) : (remember seen entries).get? k = seen.get? k := by
  induction entries generalizing seen with
  | nil => rfl
  | cons f entries ih =>
    have hrest := fun e he => h e (List.mem_cons_of_mem f he)
    rw [remember,List.foldl_cons,← remember,ih hrest]
    split
    next hwithdrawn =>
      rw [Dict.get?_set,if_neg]
      rintro rfl
      exact h f.2 List.mem_cons_self hwithdrawn
    next => rfl

theorem remember_mem {seen : Dict String KeyStandingEntry} {entries : List (String × KeyStandingEntry)}
    (hunique : (entries.map Prod.fst).Nodup) {k : String} {e : KeyStandingEntry} (hmem : (k,e) ∈ entries)
    (hwithdrawn : e.state = .withdrawn) : (remember seen entries).get? k = some e := by
  induction entries generalizing seen with
  | nil => cases hmem
  | cons f entries ih =>
    rw [List.map_cons,List.nodup_cons] at hunique
    rw [remember,List.foldl_cons,← remember]
    rcases List.mem_cons.mp hmem with rfl | hmem
    · have hother : ∀ e', (k,e') ∈ entries → e'.state ≠ .withdrawn := fun e' he' =>
        absurd (List.mem_map.mpr ⟨(k,e'),he',rfl⟩) hunique.1
      rw [remember_other hother,if_pos hwithdrawn,Dict.get?_set_same]
    · exact ih hunique.2 hmem

theorem remember_idle {seen : Dict String KeyStandingEntry} {entries : List (String × KeyStandingEntry)}
    (h : ∀ e ∈ entries, e.2.state ≠ .withdrawn) : remember seen entries = seen := by
  induction entries with
  | nil => rfl
  | cons f entries ih =>
    rw [remember,List.foldl_cons,if_neg (h f List.mem_cons_self)]
    exact ih fun e he => h e (List.mem_cons_of_mem f he)

structure Adopts (wire : StandingWire Bytes Key) (cfg : StandingConfig Key) (s : StandingSource) (fetch : Fetch)
    (document : KeyStandingDocument) (digest : String) : Prop where
  verified : ∃ text, fetch.fetched = .ok text ∧
    verifyStandingEnvelope wire cfg.authority cfg.role text = .ok (document,digest)
  fresh : ∀ held, s.accepted = some held → held.digest ≠ digest
  follows : Follows wire (s.accepted.map Accepted.document) document s.seenWithdrawn

theorem examine_ok {text : String} {document : KeyStandingDocument} {digest : String}
    (h : s.examine wire cfg text = .ok (some (document,digest))) :
    verifyStandingEnvelope wire cfg.authority cfg.role text = .ok (document,digest) ∧
      (∀ held, s.accepted = some held → held.digest ≠ digest) ∧
      Follows wire (s.accepted.map Accepted.document) document s.seenWithdrawn := by
  obtain ⟨⟨document',digest'⟩,hverify,hrest⟩ := bind_ok.mp h
  dsimp only at hrest
  split at hrest
  next => cases hrest
  next hnone =>
    obtain ⟨_,hrest⟩ := then_ok.mp hrest
    obtain ⟨hsuccessor,hend⟩ := then_ok.mp hrest
    cases hend
    refine ⟨hverify,?_,checkSuccessor_iff.mp hsuccessor⟩
    intro held hheld hdigest
    exact hnone (by simp [hheld,hdigest])

theorem refresh_cases (wire : StandingWire Bytes Key) (cfg : StandingConfig Key) (s : StandingSource) (fetch : Fetch) :
    (s.refresh wire cfg fetch).2 = s ∨
      ∃ document digest asOf, Adopts wire cfg s fetch document digest ∧
        (s.refresh wire cfg fetch).2 = s.adopt document digest asOf := by
  cases hfetched : fetch.fetched with
  | error name => exact .inl (by simp [refresh,hfetched])
  | ok text =>
    cases hexamine : s.examine wire cfg text with
    | error e =>
      left
      cases e <;> simp [refresh,hfetched,hexamine]
    | ok out =>
      cases out with
      | none => exact .inl (by simp [refresh,hfetched,hexamine])
      | some pair =>
        obtain ⟨document,digest⟩ := pair
        obtain ⟨hverify,hfresh,hfollows⟩ := examine_ok hexamine
        cases hissued : document.issued with
        | error e => exact .inl (by simp [refresh,hfetched,hexamine,hissued])
        | ok statedAt =>
          right
          exact ⟨document,digest,_,⟨⟨text,hfetched,hverify⟩,hfresh,hfollows⟩,by simp [refresh,hfetched,hexamine,hissued]; rfl⟩

theorem refresh_refused {fetch : Fetch} {text detail : String} {verdict : LoadVerdict} (hfetched : fetch.fetched = .ok text)
    (h : s.examine wire cfg text = .error (.refused verdict detail)) :
    s.refresh wire cfg fetch = (.ok { verdict, version := s.version, detail := some detail },s) := by
  simp only [refresh,hfetched,h]

structure Sound (wire : StandingWire Bytes Key) (s : StandingSource) : Prop where
  carried : ∀ k e, s.seenWithdrawn.get? k = some e →
    e.state = .withdrawn ∧ ∃ held, s.accepted = some held ∧ held.document.keys.get? k = some e
  seen : ∀ held k e, s.accepted = some held → held.document.keys.get? k = some e → e.state = .withdrawn →
    s.seenWithdrawn.get? k = some e
  distinct : ∀ held, s.accepted = some held → checkDistinctKeyBytes wire held.document = .ok ()

theorem sound_empty (wire : StandingWire Bytes Key) : Sound wire {} where
  carried := by simp
  seen := by simp
  distinct := by simp

theorem adopt_seen (hs : Sound wire s) {fetch : Fetch} {document : KeyStandingDocument} {digest : String} {asOf : InputAsOf}
    (h : Adopts wire cfg s fetch document digest) {k : String} {e : KeyStandingEntry} (hseen : s.seenWithdrawn.get? k = some e) :
    (s.adopt document digest asOf).seenWithdrawn.get? k = some e :=
  remember_mem document.keys.unique (Dict.get?_iff.mp (h.follows.carries k e hseen)) (hs.carried k e hseen).1

theorem sound_adopt (hs : Sound wire s) {fetch : Fetch} {document : KeyStandingDocument} {digest : String} {asOf : InputAsOf}
    (h : Adopts wire cfg s fetch document digest) : Sound wire (s.adopt document digest asOf) where
  carried := by
    intro k e hget
    by_cases hlisted : ∃ e', document.keys.get? k = some e' ∧ e'.state = .withdrawn
    · obtain ⟨e',he',hstate⟩ := hlisted
      have hremembered : (s.adopt document digest asOf).seenWithdrawn.get? k = some e' :=
        remember_mem document.keys.unique (Dict.get?_iff.mp he') hstate
      rw [hget] at hremembered
      obtain rfl := Option.some.inj hremembered
      exact ⟨hstate,_,rfl,he'⟩
    · have hkept : (s.adopt document digest asOf).seenWithdrawn.get? k = s.seenWithdrawn.get? k :=
        remember_other fun e' he' hstate => hlisted ⟨e',Dict.get?_iff.mpr he',hstate⟩
      rw [hget] at hkept
      exact ⟨(hs.carried k e hkept.symm).1,_,rfl,h.follows.carries k e hkept.symm⟩
  seen := by
    intro held k e hheld hget hstate
    cases hheld
    exact remember_mem document.keys.unique (Dict.get?_iff.mp hget) hstate
  distinct := by
    intro held hheld
    cases hheld
    exact h.follows.distinct

structure Keeps (s t : StandingSource) : Prop where
  seen : ∀ k e, s.seenWithdrawn.get? k = some e → t.seenWithdrawn.get? k = some e
  version : ∀ held, s.accepted = some held → ∃ later, t.accepted = some later ∧ held.document.version ≤ later.document.version

theorem Keeps.refl (s : StandingSource) : Keeps s s where
  seen := fun _ _ h => h
  version := fun held h => ⟨held,h,le_refl _⟩

theorem Keeps.trans {u : StandingSource} (h : Keeps s t) (h' : Keeps t u) : Keeps s u where
  seen := fun k e hk => h'.seen k e (h.seen k e hk)
  version := by
    intro held hheld
    obtain ⟨mid,hmid,hle⟩ := h.version held hheld
    obtain ⟨last,hlast,hle'⟩ := h'.version mid hmid
    exact ⟨last,hlast,le_trans hle hle'⟩

theorem refresh_keeps (cfg : StandingConfig Key) (hs : Sound wire s) (fetch : Fetch) :
    Sound wire (s.refresh wire cfg fetch).2 ∧ Keeps s (s.refresh wire cfg fetch).2 := by
  rcases refresh_cases wire cfg s fetch with hsame | ⟨document,digest,asOf,hadopts,hstate⟩
  · rw [hsame]
    exact ⟨hs,Keeps.refl s⟩
  · rw [hstate]
    refine ⟨sound_adopt hs hadopts,fun k e => adopt_seen hs hadopts,?_⟩
    intro held hheld
    exact ⟨_,rfl,le_of_lt (hadopts.follows.later held.document (by simp [hheld]))⟩

theorem run_keeps (cfg : StandingConfig Key) (hs : Sound wire s) (fetches : List Fetch) :
    Sound wire (s.run wire cfg fetches) ∧ Keeps s (s.run wire cfg fetches) := by
  induction fetches generalizing s with
  | nil => exact ⟨hs,Keeps.refl s⟩
  | cons fetch fetches ih =>
    obtain ⟨hsound,hkeeps⟩ := refresh_keeps cfg hs fetch
    obtain ⟨hsound',hkeeps'⟩ := ih hsound
    exact ⟨hsound',hkeeps.trans hkeeps'⟩

omit [DecidableEq Key] in
theorem standingOf_seen {k : String} {e : KeyStandingEntry} (h : s.seenWithdrawn.get? k = some e) (instant : Instant) (skew : Int) :
    s.standingOf cfg k instant skew = .ok (s.answer cfg .withdrawn (some e)) := by
  simp [standingOf,h]

theorem keyState_withdrawn (hs : Sound wire s) {k : String} : s.keyState k = some .withdrawn ↔ ∃ e, s.seenWithdrawn.get? k = some e := by
  rw [← Dict.mem_keys,keyState]
  split
  next hmem => simp [hmem]
  next habsent =>
    simp only [habsent,iff_false]
    intro hstate
    obtain ⟨e,he,hwithdrawn⟩ := Option.map_eq_some_iff.mp hstate
    obtain ⟨held,hheld,hget⟩ := Option.bind_eq_some_iff.mp he
    exact habsent (Dict.mem_keys.mpr ⟨e,hs.seen held k e hheld hget hwithdrawn⟩)

omit [DecidableEq Key] in
theorem standingOf_stale {k : String} (hseen : s.seenWithdrawn.get? k = none) {instant skew : Int} (hlow : 0 ≤ skew)
    (hhigh : skew ≤ maxSkew) (hstale : ∀ held, s.accepted = some held → held.asOf.asOf + cfg.maxAge - skew ≤ instant) :
    s.standingOf cfg k instant skew =
      if s.accepted.isNone ∨ Representable (instant + skew) then .ok (s.answer cfg .notEstablished none)
      else .error (.exception "date value out of range") := by
  cases hheld : s.accepted with
  | none => simp [standingOf,hseen,hheld]
  | some held =>
    have hend : endOf held.asOf.asOf cfg.maxAge ≤ instant + skew := by
      have hinstant := hstale held hheld
      simp only [endOf]
      omega
    simp only [standingOf,hseen,hheld,endJudgedAt_eq hlow hhigh,datetimeSum]
    by_cases hrep : Representable (instant + skew)
    · simp only [hrep,if_true,or_true]
      exact if_pos hend
    · simp only [hrep,if_false,Option.isNone_some,Bool.false_eq_true,or_self]
      rfl

theorem refresh_older {held : Accepted} (hheld : s.accepted = some held) {fetch : Fetch} {text : String}
    (hfetched : fetch.fetched = .ok text) {document : KeyStandingDocument} {digest : String}
    (hverify : verifyStandingEnvelope wire cfg.authority cfg.role text = .ok (document,digest))
    (holder : digest = held.digest ∨ document.version ≤ held.document.version) : (s.refresh wire cfg fetch).2 = s := by
  rcases refresh_cases wire cfg s fetch with hsame | ⟨document',digest',asOf,hadopts,_⟩
  · exact hsame
  · obtain ⟨text',hfetched',hverify'⟩ := hadopts.verified
    rw [hfetched] at hfetched'
    obtain rfl := Except.ok.inj hfetched'
    rw [hverify] at hverify'
    obtain ⟨rfl,rfl⟩ := Prod.mk.inj (Except.ok.inj hverify')
    have hlater := hadopts.follows.later held.document (by simp [hheld])
    rcases holder with hdigest | hversion
    · exact absurd hdigest.symm (hadopts.fresh held hheld)
    · omega

theorem keyResolver_withdrawn (hs : Sound wire s) {k : String} {e : KeyStandingEntry} (hseen : s.seenWithdrawn.get? k = some e) :
    ∃ key, wire.loadPublicKey e.publicKey = .ok key ∧ ∀ j, s.keyResolver wire j = some key → j = k := by
  obtain ⟨_,held,hheld,hget⟩ := hs.carried k e hseen
  obtain ⟨key,hkey⟩ := checkDistinctKeyBytes_loads (hs.distinct held hheld) hget
  refine ⟨key,hkey,?_⟩
  intro j hresolved
  obtain ⟨f,hf,hload⟩ := Option.bind_eq_some_iff.mp hresolved
  obtain ⟨held',hheld',hfget⟩ := Option.bind_eq_some_iff.mp hf
  rw [hheld] at hheld'
  obtain rfl := Option.some.inj hheld'
  have hfkey : wire.loadPublicKey f.publicKey = .ok key := by
    cases hcase : wire.loadPublicKey f.publicKey with
    | error err =>
      rw [hcase] at hload
      cases hload
    | ok other =>
      rw [hcase] at hload
      cases hload
      rfl
  exact (checkDistinctKeyBytes_names (hs.distinct held hheld) hget hfget (by rw [hkey,hfkey])).symm

end Lemmas

variable {Bytes Key : Type} [DecidableEq Key]

theorem withdrawal_is_terminal (wire : StandingWire Bytes Key) (cfg : StandingConfig Key) (fetches later : List Fetch) :
    let s := StandingSource.run wire cfg {} fetches
    let t := StandingSource.run wire cfg {} (fetches ++ later)
    (∀ held k e, s.accepted = some held → held.document.keys.get? k = some e → e.state = .withdrawn →
      (∀ instant skew, t.standingOf cfg k instant skew = .ok (t.answer cfg .withdrawn (some e))) ∧
        t.keyState k = some .withdrawn ∧
        ∃ key, wire.loadPublicKey e.publicKey = .ok key ∧ ∀ j, t.keyResolver wire j = some key → j = k) ∧
      (∀ k (instant skew : Int), 0 ≤ skew → skew ≤ maxSkew → t.keyState k ≠ some .withdrawn →
        (∀ held, t.accepted = some held → held.asOf.asOf + cfg.maxAge - skew ≤ instant) →
        t.standingOf cfg k instant skew =
          if t.accepted.isNone ∨ Representable (instant + skew) then .ok (t.answer cfg .notEstablished none)
          else .error (.exception "date value out of range")) ∧
      (∀ held fetch text document digest, t.accepted = some held → fetch.fetched = .ok text →
        verifyStandingEnvelope wire cfg.authority cfg.role text = .ok (document,digest) →
        digest = held.digest ∨ document.version ≤ held.document.version → (t.refresh wire cfg fetch).2 = t) ∧
      ∀ held, s.accepted = some held →
        ∃ latest, t.accepted = some latest ∧ held.document.version ≤ latest.document.version := by
  intro s t
  obtain ⟨hs,_⟩ := run_keeps cfg (sound_empty wire) fetches
  have hrun : t = s.run wire cfg later := run_append _ fetches later
  obtain ⟨ht,hkeeps⟩ := run_keeps cfg hs later
  rw [hrun]
  refine ⟨?_,?_,?_,hkeeps.version⟩
  · intro held k e hheld hget hstate
    have hseen := hkeeps.seen k e (hs.seen held k e hheld hget hstate)
    exact ⟨standingOf_seen hseen,(keyState_withdrawn ht).mpr ⟨e,hseen⟩,keyResolver_withdrawn ht hseen⟩
  · intro k instant skew hlow hhigh hstate hstale
    have hseen : (s.run wire cfg later).seenWithdrawn.get? k = none := by
      rw [Option.eq_none_iff_forall_not_mem]
      intro e he
      exact hstate ((keyState_withdrawn ht).mpr ⟨e,he⟩)
    exact standingOf_stale hseen hlow hhigh hstale
  · intro held fetch text document digest hheld hfetched hverify holder
    exact refresh_older hheld hfetched hverify holder

end StandingSource

namespace Compromised

def pem : String := "-----BEGIN PUBLIC KEY-----\nMCowBQYDK2VwAyEAPAnjLf9Dmh7PhKZncrcU9M2E7B9u7f8rQgZi14OG3A8=\n-----END PUBLIC KEY-----\n"

def issuerKey : String := "PAnjLf9Dmh7PhKZncrcU9M2E7B9u7f8rQgZi14OG3A8="

def authorityKey : String := "f1MbiJBivxL77i/KVp+AAO7xF+MSV/UO0M4en/zs8zw="

def entry : KeyStandingEntry where
  publicKey := pem
  state := .withdrawn
  withdrawnAt := some "2026-02-28T12:00:00+00:00"
  withdrawnReason := some .keyCompromise

def document : KeyStandingDocument where
  role := .issuer
  version := 1
  issuedAt := "2026-03-01T00:00:00+00:00"
  signer := { keyId := "authority-1", zone := "local" }
  keys := Dict.empty.set "issuer-a" entry

def payload : String :=
  (Json.obj
    [("issuedAt",.str "2026-03-01T00:00:00+00:00"),
     ("keys",.obj
       [("issuer-a",.obj
         [("publicKey",.str pem),("retiredAt",.null),("retiredReason",.null),("state",.str "withdrawn"),
          ("withdrawnAt",.str "2026-02-28T12:00:00+00:00"),("withdrawnReason",.str "keyCompromise")])]),
     ("role",.str "issuer"),("signer",.obj [("keyId",.str "authority-1"),("zone",.str "local")]),
     ("version",.num "1")]).dumps

def payload64 : String :=
  "eyJpc3N1ZWRBdCI6IjIwMjYtMDMtMDFUMDA6MDA6MDArMDA6MDAiLCJrZXlzIjp7Imlzc3Vlci1hIjp7InB1YmxpY0tleSI6Ii0tLS0tQkVHSU" ++
  "4gUFVCTElDIEtFWS0tLS0tXG5NQ293QlFZREsyVndBeUVBUEFuakxmOURtaDdQaEtabmNyY1U5TTJFN0I5dTdmOHJRZ1ppMTRPRzNBOD1cbi0t" ++
  "LS0tRU5EIFBVQkxJQyBLRVktLS0tLVxuIiwicmV0aXJlZEF0IjpudWxsLCJyZXRpcmVkUmVhc29uIjpudWxsLCJzdGF0ZSI6IndpdGhkcmF3bi" ++
  "IsIndpdGhkcmF3bkF0IjoiMjAyNi0wMi0yOFQxMjowMDowMCswMDowMCIsIndpdGhkcmF3blJlYXNvbiI6ImtleUNvbXByb21pc2UifX0sInJv" ++
  "bGUiOiJpc3N1ZXIiLCJzaWduZXIiOnsia2V5SWQiOiJhdXRob3JpdHktMSIsInpvbmUiOiJsb2NhbCJ9LCJ2ZXJzaW9uIjoxfQ=="

def sig : String := "5P9GHnIS5b/Znl45/8WH+U4/v8ZijX2Hv9/JY5e1jHvfFxFtrms5hgFuY+/BmgPCIPz/hbCaFiAM6CEr0WAcAQ=="

def sha : String := "634a82803d964e30b31702e00c6fcd6a46c8e569b1b6c366b6d5a4649dcd3f78"

def signature : Json := .obj [("keyid",.str "authority-1"),("sig",.str sig)]

def envelope : Json :=
  .obj [("payload",.str payload64),("payloadType",.str standingPayloadType),("signatures",.arr [signature])]

def wireOf (text payload : String) : StandingWire String String where
  loads t := if t = text then .ok envelope else .error "Expecting value: line 1 column 1 (char 0)"
  b64decode t := if t = sig then some sig else if t = payload64 then some payload else none
  loadPublicKey t := if t = pem then .ok issuerKey else .error (.value "Unable to load PEM file.")
  verify key signed payloadType bytes :=
    key = authorityKey && signed = sig && payloadType = standingPayloadType && bytes = payload
  parse bytes := if bytes = payload then .ok document else .error "Expecting value: line 1 column 1 (char 0)"
  report text := "1 validation error for KeyStandingDocument: " ++ text
  sha256 bytes := if bytes = payload then sha else ""

def wire : StandingWire String String := wireOf envelope.dumps payload

def cfg : StandingConfig String where
  role := .issuer
  sourceLabel := "ISSUER_STANDING_FILE=standing.json"
  authority keyId := if keyId = "authority-1" then some authorityKey else none
  authorityKeyIds := ["authority-1"]
  authorityPublicKeys := [authorityKey]
  maxAge := 3600000000
  positive := by decide

def fetchedAs (text : String) : Fetch where
  fetchedAt := 1772326800000000
  fetched := .ok text

def failed : Fetch where
  fetchedAt := 1772330400000000
  fetched := .error "FileNotFoundError"

section Reading
variable (text payload : String)

theorem pem_loads : (wireOf text payload).loadPublicKey entry.publicKey = .ok issuerKey := by simp [wireOf,entry]

theorem document_entries : document.keys.entries = [("issuer-a",entry)] := by simp [document,Dict.set,Dict.keys,Dict.empty]

theorem entry_accepted : entry.shapeMatchesState (wireOf text payload) = .ok () := by
  rw [KeyStandingEntry.shapeMatchesState,pem_loads]
  decide

theorem payload_parses : parsePayload (wireOf text payload) payload = .ok document := by
  have hparse : (wireOf text payload).parse payload = .ok document := by simp [wireOf]
  have hentries : document.keys.values.forM (KeyStandingEntry.shapeMatchesState (wireOf text payload)) = .ok () := by
    rw [Dict.values,document_entries,forM_ok]
    intro e he
    obtain rfl : e = entry := by simpa using he
    exact entry_accepted text payload
  have hwellFormed : document.wellFormed (wireOf text payload) = .ok () := by
    rw [KeyStandingDocument.wellFormed,hentries]
    decide
  rw [parsePayload,hparse]
  simp only [hwellFormed]

theorem keys_distinct : checkDistinctKeyBytes (wireOf text payload) document = .ok () := by
  rw [checkDistinctKeyBytes,document_entries,distinctFrom,pem_loads]
  rfl

theorem payload_member : base64Member (wireOf text payload) envelope "payload" = .ok payload := by
  have hother : payload64 ≠ sig := by decide
  simp [base64Member,envelope,Json.get?,Json.str?,wireOf,hother]

theorem sig_member : base64Member (wireOf text payload) signature "sig" = .ok sig := by
  simp [base64Member,signature,Json.get?,Json.str?,wireOf]

theorem carried : Carried (wireOf text payload) cfg.authority cfg.role text envelope signature "authority-1" payload sig authorityKey
    document where
  read := by simp [envelopeOf,wireOf]
  typed := by simp [envelope,Json.get?,Json.str?]
  single := by simp [signatureOf,envelope,Json.get?]
  named := by simp [keyidOf,signature,Json.get?,Json.str?]
  decoded := payload_member text payload
  signed := sig_member text payload
  resolved := by simp [Grants.authorityKey,cfg]
  verified := by simp [wireOf]
  parsed := payload_parses text payload
  signer := by simp [document]
  offered := by simp [document,cfg]
  distinct := keys_distinct text payload

theorem verifies : verifyStandingEnvelope (wireOf text payload) cfg.authority cfg.role text = .ok (document,sha) := by
  have hsha : (wireOf text payload).sha256 payload = sha := by simp [wireOf]
  rw [← hsha]
  exact (carried text payload).verifies

theorem follows : checkSuccessor (wireOf text payload) none document .empty = .ok () := by
  have hcarries : (Dict.empty : Dict String KeyStandingEntry).entries.forM (carriesWithdrawal document) = .ok () := rfl
  have hbytes : bytesOf (wireOf text payload) .empty = .ok .empty := rfl
  have hnames : document.keys.entries.forM (namesNoKnownKey (wireOf text payload) .empty .empty) = .ok () := by
    rw [document_entries,forM_ok]
    intro e he
    obtain rfl : e = ("issuer-a",entry) := by simpa using he
    rw [namesNoKnownKey,if_neg (by simp [Dict.keys]),bind_of_ok (pem_loads text payload)]
    rfl
  rw [checkSuccessor,bind_of_ok (keys_distinct text payload),bind_of_ok hcarries]
  exact (bind_of_ok hbytes _).trans (bind_of_ok hnames _)

theorem examined : StandingSource.examine (wireOf text payload) cfg {} text = .ok (some (document,sha)) := by
  have hlisted : checkAuthorityNotListed (wireOf text payload) cfg.authorityKeyIds cfg.authorityPublicKeys document = .ok () := by
    rw [checkAuthorityNotListed,document_entries,forM_ok]
    intro e he
    obtain rfl : e = ("issuer-a",entry) := by simpa using he
    rw [bind_of_ok (refuseIf_pass (by simp [cfg])),bind_of_ok (pem_loads text payload)]
    exact refuseIf_pass (by simp [cfg,authorityKey,issuerKey])
  rw [StandingSource.examine,bind_of_ok (verifies text payload)]
  simp only [Option.any_none,Bool.false_eq_true,if_false]
  rw [bind_of_ok hlisted,Option.map_none,bind_of_ok (follows text payload)]
  rfl

theorem accepts : ((StandingSource.run (wireOf text payload) cfg {} [fetchedAs text]).accepted.map Accepted.document) = some document := by
  have hissued : document.issued = .ok 1772323200000000 := by decide
  simp only [StandingSource.run,List.foldl_cons,List.foldl_nil,StandingSource.refresh,fetchedAs,examined,hissued]
  rfl

end Reading

theorem withdrawal_is_terminal_compromised :
    (StandingSource.run wire cfg {} [fetchedAs envelope.dumps,failed]).keyState "issuer-a" = some .withdrawn ∧
      ∀ instant skew, ((StandingSource.run wire cfg {} [fetchedAs envelope.dumps,failed]).standingOf cfg "issuer-a" instant skew).map
        KeyStanding.verdict = .ok .withdrawn := by
  have hentry : document.keys.get? "issuer-a" = some entry := by simp [document]
  obtain ⟨held,hheld,hdocument⟩ := Option.map_eq_some_iff.mp (accepts envelope.dumps payload)
  obtain ⟨hstanding,hstate,_⟩ := (StandingSource.withdrawal_is_terminal wire cfg [fetchedAs envelope.dumps] [failed]).1 held
    "issuer-a" entry hheld (by rw [hdocument]; exact hentry) rfl
  refine ⟨hstate,?_⟩
  intro instant skew
  rw [show [fetchedAs envelope.dumps,failed] = [fetchedAs envelope.dumps] ++ [failed] from rfl,hstanding instant skew]
  rfl

end Compromised

end SafeAgents.Grants
