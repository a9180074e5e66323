import SafeAgents.Grants.StandingSource
import SafeAgents.Schemas.Decode

namespace SafeAgents.Grants

open Calendar Checked

namespace StandingSource

variable {Bytes Key : Type} [DecidableEq Key]

def ListedUntil (wire : StandingWire Bytes Key) (cfg : StandingConfig Key) (s : StandingSource) (later : List Fetch) (k : String) : Prop :=
  ∀ between fetch rest, later = between ++ fetch :: rest →
    ∃ held e, (s.run wire cfg between).accepted = some held ∧ held.document.keys.get? k = some e

structure Onward (wire : StandingWire Bytes Key) (k : String) (e : KeyStandingEntry) (document : KeyStandingDocument) : Prop where
  forward : ∀ e', document.keys.get? k = some e' → e'.publicKey = e.publicKey ∧ movesForward e e' = true
  names : ∀ j e', document.keys.get? j = some e' → wire.loadPublicKey e'.publicKey = wire.loadPublicKey e.publicKey → j = k

section Lemmas
variable {wire : StandingWire Bytes Key} {cfg : StandingConfig Key} {s : StandingSource} {held : Accepted} {k : String}
  {e : KeyStandingEntry}

theorem known_get? (hs : Sound wire s) (hheld : s.accepted = some held) (j : String) :
    (known (s.accepted.map Accepted.document) s.seenWithdrawn).get? j = held.document.keys.get? j := by
  rw [known,update_get?,hheld]
  cases hseen : s.seenWithdrawn.get? j with
  | none => rfl
  | some f =>
    obtain ⟨_,held',hheld',hget⟩ := hs.carried j f hseen
    rw [hheld] at hheld'
    obtain rfl := Option.some.inj hheld'
    rw [hget]
    rfl

theorem onward_self (hs : Sound wire s) (hheld : s.accepted = some held) (he : held.document.keys.get? k = some e) :
    Onward wire k e held.document where
  forward := by
    intro e' he'
    rw [he] at he'
    obtain rfl := Option.some.inj he'
    simp [movesForward]
  names := fun _ _ he' hsame => checkDistinctKeyBytes_names (hs.distinct held hheld) he' he hsame

theorem onward_adopted (hs : Sound wire s) (hheld : s.accepted = some held) (he : held.document.keys.get? k = some e)
    {fetch : Fetch} {document : KeyStandingDocument} {digest : String} (h : Adopts wire cfg s fetch document digest) :
    Onward wire k e document := by
  have haccepted : s.accepted.map Accepted.document = some held.document := by rw [hheld]; rfl
  constructor
  · intro e' he'
    exact h.follows.steps held.document k e e' haccepted he he'
  · intro j e' he' hsame
    cases hj : held.document.keys.get? j with
    | none =>
      have hnew : (known (s.accepted.map Accepted.document) s.seenWithdrawn).get? j = none := by rw [known_get? hs hheld,hj]
      have hold : (known (s.accepted.map Accepted.document) s.seenWithdrawn).get? k = some e := by rw [known_get? hs hheld,he]
      exact absurd hsame (h.follows.fresh j e' k e he' hnew hold)
    | some f =>
      obtain ⟨hkey,_⟩ := h.follows.steps held.document j f e' haccepted hj he'
      exact checkDistinctKeyBytes_names (hs.distinct held hheld) hj he (by rw [← hkey,hsame])

theorem onward_refresh (hs : Sound wire s) (hheld : s.accepted = some held) (he : held.document.keys.get? k = some e)
    {fetch : Fetch} {latest : Accepted} (hlatest : (s.refresh wire cfg fetch).2.accepted = some latest) :
    Onward wire k e latest.document := by
  rcases refresh_cases wire cfg s fetch with hsame | ⟨document,digest,asOf,hadopts,hstate⟩
  · rw [hsame,hheld] at hlatest
    obtain rfl := Option.some.inj hlatest
    exact onward_self hs hheld he
  · rw [hstate] at hlatest
    obtain rfl := Option.some.inj hlatest
    exact onward_adopted hs hheld he hadopts

omit [DecidableEq Key] in
theorem Onward.trans {e' : KeyStandingEntry} {document later : KeyStandingDocument} (h : Onward wire k e document)
    (he' : document.keys.get? k = some e') (h' : Onward wire k e' later) : Onward wire k e later := by
  obtain ⟨hkey,hmoves⟩ := h.forward e' he'
  constructor
  · intro f hf
    obtain ⟨hkey',hmoves'⟩ := h'.forward f hf
    exact ⟨hkey'.trans hkey,movesForward_trans hmoves hmoves'⟩
  · intro j f hf hsame
    exact h'.names j f hf (by rw [hsame,hkey])

theorem onward_run (hs : Sound wire s) (hheld : s.accepted = some held) (he : held.document.keys.get? k = some e)
    {later : List Fetch} (hlisted : ListedUntil wire cfg s later k) {latest : Accepted}
    (hlatest : (s.run wire cfg later).accepted = some latest) : Onward wire k e latest.document := by
  induction later generalizing s held e with
  | nil =>
    have hsame : s.accepted = some latest := hlatest
    rw [hheld] at hsame
    obtain rfl := Option.some.inj hsame
    exact onward_self hs hheld he
  | cons fetch later ih =>
    cases later with
    | nil => exact onward_refresh hs hheld he hlatest
    | cons next later =>
      -- The id still stands after this fetch, since another one follows.
      obtain ⟨mid,e',hmid,he'⟩ := hlisted [fetch] next later rfl
      have hrest : ListedUntil wire cfg (s.refresh wire cfg fetch).2 (next :: later) k := by
        intro between fetch' rest hsplit
        exact hlisted (fetch :: between) fetch' rest (by rw [hsplit]; rfl)
      have hmoved := ih (refresh_keeps cfg hs fetch).1 hmid he' hrest hlatest
      exact (onward_refresh hs hheld he hmid).trans he' hmoved

theorem not_revived {e' : KeyStandingEntry} (h : movesForward e e' = true) (hretired : e.state = .retired) : e'.state ≠ .active := by
  intro hactive
  simp [movesForward,hretired,hactive] at h

end Lemmas

theorem listed_keys_move_forward (wire : StandingWire Bytes Key) (cfg : StandingConfig Key) (earlier later : List Fetch) :
    let s := StandingSource.run wire cfg {} earlier
    let t := s.run wire cfg later
    ∀ held latest, s.accepted = some held → t.accepted = some latest →
      (∀ k j a b, held.document.keys.get? k = some a → held.document.keys.get? j = some b →
        wire.loadPublicKey a.publicKey = wire.loadPublicKey b.publicKey → k = j) ∧
      (∀ k e, held.document.keys.get? k = some e → ListedUntil wire cfg s later k →
        (∀ e', latest.document.keys.get? k = some e' →
          e'.publicKey = e.publicKey ∧ movesForward e e' = true ∧ (e.state = .retired → e'.state ≠ .active)) ∧
        ∀ j e', latest.document.keys.get? j = some e' →
          wire.loadPublicKey e'.publicKey = wire.loadPublicKey e.publicKey → j = k) ∧
      ∀ k e, held.document.keys.get? k = some e → e.state = .withdrawn →
        latest.document.keys.get? k = some e ∧ ListedUntil wire cfg s later k := by
  intro s t held latest hheld hlatest
  obtain ⟨hs,_⟩ := run_keeps cfg (sound_empty wire) earlier
  have hkept : ∀ k e, held.document.keys.get? k = some e → e.state = .withdrawn → ∀ fetches,
      ∃ after, (s.run wire cfg fetches).accepted = some after ∧ after.document.keys.get? k = some e := by
    intro k e he hstate fetches
    obtain ⟨hsound,hkeeps⟩ := run_keeps cfg hs fetches
    exact (hsound.carried k e (hkeeps.seen k e (hs.seen held k e hheld he hstate))).2
  refine ⟨fun k j a b ha hb => checkDistinctKeyBytes_names (hs.distinct held hheld) ha hb,?_,?_⟩
  · intro k e he hlisted
    have honward := onward_run hs hheld he hlisted hlatest
    refine ⟨?_,honward.names⟩
    intro e' he'
    obtain ⟨hkey,hmoves⟩ := honward.forward e' he'
    exact ⟨hkey,hmoves,not_revived hmoves⟩
  · intro k e he hstate
    constructor
    · obtain ⟨after,hafter,hget⟩ := hkept k e he hstate later
      have hsame : t.accepted = some after := hafter
      rw [hlatest] at hsame
      obtain rfl := Option.some.inj hsame
      exact hget
    · intro between _ _ _
      obtain ⟨after,hafter,hget⟩ := hkept k e he hstate between
      exact ⟨after,e,hafter,hget⟩

end StandingSource

namespace Staged

structure Issue where
  document : KeyStandingDocument
  payload : String
  sig : String
  sha : String

def Issue.signature (i : Issue) : Json := .obj [("keyid",.str "authority-1"),("sig",.str i.sig)]

def Issue.envelope (i : Issue) : Json :=
  .obj [("payload",.str i.payload),("payloadType",.str standingPayloadType),("signatures",.arr [i.signature])]

def authorityKey : String := "4gZmlIuxkwxZ04KBjGwdrqre4NzRKU1qmfKyTpmvk+0="

def wire (rawOf : String → Option String) (issues : List Issue) : StandingWire String String where
  loads text := (Json.loads text).elim (.error "Expecting value: line 1 column 1 (char 0)") .ok
  b64decode := some
  loadPublicKey pem := (rawOf pem).elim (.error (.value "Unable to load PEM file.")) .ok
  verify key signed payloadType bytes :=
    key = authorityKey && payloadType = standingPayloadType && issues.any fun i => i.payload = bytes && i.sig = signed
  parse bytes := ((issues.find? fun i => i.payload = bytes).map Issue.document).elim
    (.error "Expecting value: line 1 column 1 (char 0)") .ok
  report text := "1 validation error for KeyStandingDocument: " ++ text
  sha256 bytes := ((issues.find? fun i => i.payload = bytes).map Issue.sha).getD ""

theorem hour_positive : (0 : Int) < 3600000000 := by decide

def cfg : StandingConfig String where
  role := .issuer
  sourceLabel := "ISSUER_STANDING_FILE=standing.json"
  authority keyId := if keyId = "authority-1" then some authorityKey else none
  authorityKeyIds := ["authority-1"]
  authorityPublicKeys := [authorityKey]
  maxAge := 3600000000
  positive := hour_positive

def fetchOf (i : Issue) : Fetch where
  fetchedAt := 1772582400000000
  fetched := .ok i.envelope.dumps

def document (version : Int) (issuedAt : String) (keys : Dict String KeyStandingEntry) : KeyStandingDocument where
  role := .issuer
  version
  issuedAt
  signer := { keyId := "authority-1", zone := "local" }
  keys

section Reading
variable {rawOf : String → Option String} {issues : List Issue} {i : Issue}

theorem envelope_proper (i : Issue) : i.envelope.Proper := by
  have hsignature : i.signature.Proper := Json.proper_obj ["keyid","sig"] rfl (by decide) ⟨trivial,trivial,trivial⟩
  have hitems : (Json.arr [i.signature]).Proper := by simp [Json.Proper,Json.ItemsProper,hsignature]
  refine Json.proper_obj ["payload","payloadType","signatures"] rfl (by decide) ?_
  exact ⟨trivial,trivial,hitems,trivial⟩

theorem loads_envelope (i : Issue) : envelopeOf (wire rawOf issues) i.envelope.dumps = .ok i.envelope := by
  simp [envelopeOf,wire,Json.loads_dumps (envelope_proper i)]

theorem found {f : Issue → String} (hnodup : (issues.map f).Nodup) (hi : i ∈ issues) :
    issues.find? (fun j => f j = f i) = some i := by
  induction issues with
  | nil => cases hi
  | cons j issues ih =>
    rw [List.map_cons,List.nodup_cons] at hnodup
    rcases List.mem_cons.mp hi with rfl | hi
    · simp
    · have hne : f j ≠ f i := fun h => hnodup.1 (List.mem_map.mpr ⟨i,hi,h.symm⟩)
      rw [List.find?_cons_of_neg (by simpa using hne)]
      exact ih hnodup.2 hi

structure Sound (rawOf : String → Option String) (issues : List Issue) (i : Issue) : Prop where
  wellFormed : i.document.wellFormed (wire rawOf issues) = .ok ()
  distinct : checkDistinctKeyBytes (wire rawOf issues) i.document = .ok ()
  unlisted : checkAuthorityNotListed (wire rawOf issues) cfg.authorityKeyIds cfg.authorityPublicKeys i.document = .ok ()
  signer : i.document.signer.keyId = "authority-1"
  role : i.document.role = .issuer

theorem carried (hi : i ∈ issues) (hnodup : (issues.map Issue.payload).Nodup) (h : Sound rawOf issues i) :
    Carried (wire rawOf issues) cfg.authority cfg.role i.envelope.dumps i.envelope i.signature "authority-1" i.payload i.sig authorityKey
      i.document := by
  have hparse : (wire rawOf issues).parse i.payload = .ok i.document := by simp [wire,found hnodup hi]
  have hany : issues.any (fun j => j.payload = i.payload && j.sig = i.sig) = true := List.any_eq_true.mpr ⟨i,hi,by simp⟩
  constructor
  · exact loads_envelope i
  · simp [Issue.envelope,Json.get?,Json.str?]
  · simp [signatureOf,Issue.envelope,Json.get?]
  · simp [keyidOf,Issue.signature,Json.get?,Json.str?]
  · simp [base64Member,Issue.envelope,Json.get?,Json.str?,wire]
  · simp [base64Member,Issue.signature,Json.get?,Json.str?,wire]
  · simp [Grants.authorityKey,cfg]
  · simp [wire,hany]
  · rw [parsePayload,hparse]
    simp only [h.wellFormed]
  · exact h.signer
  · exact h.role
  · exact h.distinct

theorem verifies (hnodup : (issues.map Issue.payload).Nodup) (hi : i ∈ issues) (h : Sound rawOf issues i) :
    verifyStandingEnvelope (wire rawOf issues) cfg.authority cfg.role i.envelope.dumps = .ok (i.document,i.sha) := by
  have hsha : (wire rawOf issues).sha256 i.payload = i.sha := by simp [wire,found hnodup hi]
  rw [← hsha]
  exact (carried hi hnodup h).verifies

theorem adopted (hnodup : (issues.map Issue.payload).Nodup) (hi : i ∈ issues) (h : Sound rawOf issues i) {s : StandingSource}
    (hdigest : s.accepted.any (fun held => held.digest = i.sha) = false)
    (hfollows : checkSuccessor (wire rawOf issues) (s.accepted.map Accepted.document) i.document s.seenWithdrawn = .ok ())
    {statedAt : Int} (hissued : i.document.issued = .ok statedAt) :
    (s.refresh (wire rawOf issues) cfg (fetchOf i)).2 =
      s.adopt i.document i.sha { fetchedAt := (fetchOf i).fetchedAt, statedAt := some statedAt } := by
  have hexamine : s.examine (wire rawOf issues) cfg i.envelope.dumps = .ok (some (i.document,i.sha)) := by
    rw [StandingSource.examine,bind_of_ok (verifies hnodup hi h)]
    simp only [hdigest,Bool.false_eq_true,if_false]
    rw [bind_of_ok h.unlisted,bind_of_ok hfollows]
    rfl
  simp only [StandingSource.refresh,fetchOf,hexamine,hissued]

end Reading

end Staged

namespace Relisted

open Staged

def pemP : String := "-----BEGIN PUBLIC KEY-----\nMCowBQYDK2VwAyEA3bbnxVBjoSPzhXtBDyOPoawAePZqsHfnTjcxqYS9+FA=\n-----END PUBLIC KEY-----\n"

def pemQ : String := "-----BEGIN PUBLIC KEY-----\nMCowBQYDK2VwAyEAF6h6gA8++W5E3aHghHpjGs8epwrO/ldZLl62gnLpTe0=\n-----END PUBLIC KEY-----\n"

def pemK : String := "-----BEGIN PUBLIC KEY-----\nMCowBQYDK2VwAyEAzRKr8cMp3jn7BD72UcN6ph/dQzde3eIY2rt+Y9Dpj2A=\n-----END PUBLIC KEY-----\n"

def rawOf (pem : String) : Option String :=
  if pem = pemP then some "3bbnxVBjoSPzhXtBDyOPoawAePZqsHfnTjcxqYS9+FA="
  else if pem = pemQ then some "F6h6gA8++W5E3aHghHpjGs8epwrO/ldZLl62gnLpTe0="
  else if pem = pemK then some "zRKr8cMp3jn7BD72UcN6ph/dQzde3eIY2rt+Y9Dpj2A="
  else none

def retired : KeyStandingEntry where
  publicKey := pemP
  state := .retired
  retiredAt := some "2026-02-20T00:00:00+00:00"
  retiredReason := some .superseded

def active (pem : String) : KeyStandingEntry where
  publicKey := pem
  state := .active

def first : Issue where
  document := document 1 "2026-03-01T00:00:00+00:00" ((Dict.empty.set "issuer-a" retired).set "issuer-k" (active pemK))
  payload :=
    "eyJpc3N1ZWRBdCI6IjIwMjYtMDMtMDFUMDA6MDA6MDArMDA6MDAiLCJrZXlzIjp7Imlzc3Vlci1hIjp7InB1YmxpY0tleSI6Ii0tLS0tQkVHSU4g" ++
    "UFVCTElDIEtFWS0tLS0tXG5NQ293QlFZREsyVndBeUVBM2JibnhWQmpvU1B6aFh0QkR5T1BvYXdBZVBacXNIZm5UamN4cVlTOStGQT1cbi0tLS0t" ++
    "RU5EIFBVQkxJQyBLRVktLS0tLVxuIiwicmV0aXJlZEF0IjoiMjAyNi0wMi0yMFQwMDowMDowMCswMDowMCIsInJldGlyZWRSZWFzb24iOiJzdXBl" ++
    "cnNlZGVkIiwic3RhdGUiOiJyZXRpcmVkIiwid2l0aGRyYXduQXQiOm51bGwsIndpdGhkcmF3blJlYXNvbiI6bnVsbH0sImlzc3Vlci1rIjp7InB1" ++
    "YmxpY0tleSI6Ii0tLS0tQkVHSU4gUFVCTElDIEtFWS0tLS0tXG5NQ293QlFZREsyVndBeUVBelJLcjhjTXAzam43QkQ3MlVjTjZwaC9kUXpkZTNl" ++
    "SVkycnQrWTlEcGoyQT1cbi0tLS0tRU5EIFBVQkxJQyBLRVktLS0tLVxuIiwicmV0aXJlZEF0IjpudWxsLCJyZXRpcmVkUmVhc29uIjpudWxsLCJz" ++
    "dGF0ZSI6ImFjdGl2ZSIsIndpdGhkcmF3bkF0IjpudWxsLCJ3aXRoZHJhd25SZWFzb24iOm51bGx9fSwicm9sZSI6Imlzc3VlciIsInNpZ25lciI6" ++
    "eyJrZXlJZCI6ImF1dGhvcml0eS0xIiwiem9uZSI6ImxvY2FsIn0sInZlcnNpb24iOjF9"
  sig := "eWtbuIt8TVxf2PPrdjb/zeuX25hto2YzQ8hoHAI718R1YvEsYYG4+eDK02T3tGm4OvU4WfahRCrZjqjxn/RuCg=="
  sha := "c6095966bd7343c4b10f5b72ac8257d0dc1bfe09f055485470455fd68836f293"

def second : Issue where
  document := document 2 "2026-03-02T00:00:00+00:00" (Dict.empty.set "issuer-k" (active pemK))
  payload :=
    "eyJpc3N1ZWRBdCI6IjIwMjYtMDMtMDJUMDA6MDA6MDArMDA6MDAiLCJrZXlzIjp7Imlzc3Vlci1rIjp7InB1YmxpY0tleSI6Ii0tLS0tQkVHSU4g" ++
    "UFVCTElDIEtFWS0tLS0tXG5NQ293QlFZREsyVndBeUVBelJLcjhjTXAzam43QkQ3MlVjTjZwaC9kUXpkZTNlSVkycnQrWTlEcGoyQT1cbi0tLS0t" ++
    "RU5EIFBVQkxJQyBLRVktLS0tLVxuIiwicmV0aXJlZEF0IjpudWxsLCJyZXRpcmVkUmVhc29uIjpudWxsLCJzdGF0ZSI6ImFjdGl2ZSIsIndpdGhk" ++
    "cmF3bkF0IjpudWxsLCJ3aXRoZHJhd25SZWFzb24iOm51bGx9fSwicm9sZSI6Imlzc3VlciIsInNpZ25lciI6eyJrZXlJZCI6ImF1dGhvcml0eS0x" ++
    "Iiwiem9uZSI6ImxvY2FsIn0sInZlcnNpb24iOjJ9"
  sig := "7pwDOotzkT376RSnc+YGRGSOp54eeapdDMGqKv0Z6ARLxVrNlcb0aoKmaSCCYfl/jSai38Nj4o3CS2TsrFD8Cw=="
  sha := "0cf2aa14820779a8f9c8fedf734df11867fc06c618aa69d295f24909020d154a"

def third : Issue where
  document := document 3 "2026-03-03T00:00:00+00:00"
    (((Dict.empty.set "issuer-a" (active pemQ)).set "issuer-b" (active pemP)).set "issuer-k" (active pemK))
  payload :=
    "eyJpc3N1ZWRBdCI6IjIwMjYtMDMtMDNUMDA6MDA6MDArMDA6MDAiLCJrZXlzIjp7Imlzc3Vlci1hIjp7InB1YmxpY0tleSI6Ii0tLS0tQkVHSU4g" ++
    "UFVCTElDIEtFWS0tLS0tXG5NQ293QlFZREsyVndBeUVBRjZoNmdBOCsrVzVFM2FIZ2hIcGpHczhlcHdyTy9sZFpMbDYyZ25McFRlMD1cbi0tLS0t" ++
    "RU5EIFBVQkxJQyBLRVktLS0tLVxuIiwicmV0aXJlZEF0IjpudWxsLCJyZXRpcmVkUmVhc29uIjpudWxsLCJzdGF0ZSI6ImFjdGl2ZSIsIndpdGhk" ++
    "cmF3bkF0IjpudWxsLCJ3aXRoZHJhd25SZWFzb24iOm51bGx9LCJpc3N1ZXItYiI6eyJwdWJsaWNLZXkiOiItLS0tLUJFR0lOIFBVQkxJQyBLRVkt" ++
    "LS0tLVxuTUNvd0JRWURLMlZ3QXlFQTNiYm54VkJqb1NQemhYdEJEeU9Qb2F3QWVQWnFzSGZuVGpjeHFZUzkrRkE9XG4tLS0tLUVORCBQVUJMSUMg" ++
    "S0VZLS0tLS1cbiIsInJldGlyZWRBdCI6bnVsbCwicmV0aXJlZFJlYXNvbiI6bnVsbCwic3RhdGUiOiJhY3RpdmUiLCJ3aXRoZHJhd25BdCI6bnVs" ++
    "bCwid2l0aGRyYXduUmVhc29uIjpudWxsfSwiaXNzdWVyLWsiOnsicHVibGljS2V5IjoiLS0tLS1CRUdJTiBQVUJMSUMgS0VZLS0tLS1cbk1Db3dC" ++
    "UVlESzJWd0F5RUF6UktyOGNNcDNqbjdCRDcyVWNONnBoL2RRemRlM2VJWTJydCtZOURwajJBPVxuLS0tLS1FTkQgUFVCTElDIEtFWS0tLS0tXG4i" ++
    "LCJyZXRpcmVkQXQiOm51bGwsInJldGlyZWRSZWFzb24iOm51bGwsInN0YXRlIjoiYWN0aXZlIiwid2l0aGRyYXduQXQiOm51bGwsIndpdGhkcmF3" ++
    "blJlYXNvbiI6bnVsbH19LCJyb2xlIjoiaXNzdWVyIiwic2lnbmVyIjp7ImtleUlkIjoiYXV0aG9yaXR5LTEiLCJ6b25lIjoibG9jYWwifSwidmVy" ++
    "c2lvbiI6M30="
  sig := "sMyqCGhBgLmZTZm8/1aOP5FOaPsaOpbE8LbUhIIl0e7zOXZYGRaSVbAO/3t5UturrJoKYJEov3brPkM48usHAg=="
  sha := "0cb9e50d2941c9b21a0b424552c1041cd38b1bbeaac6523249c06f72f1722873"

def issues : List Issue := [first,second,third]

def wire : StandingWire String String := Staged.wire rawOf issues

theorem payloads_nodup : (issues.map Issue.payload).Nodup := by decide

theorem sound : ∀ i ∈ issues, Sound rawOf issues i ∧ ∀ e ∈ i.document.keys.entries, e.2.state ≠ .withdrawn := by
  have hjudged : ∀ i ∈ issues, i.document.wellFormed wire = .ok () ∧ checkDistinctKeyBytes wire i.document = .ok () ∧
      checkAuthorityNotListed wire cfg.authorityKeyIds cfg.authorityPublicKeys i.document = .ok () ∧
      i.document.signer.keyId = "authority-1" ∧ i.document.role = .issuer ∧
      ∀ e ∈ i.document.keys.entries, e.2.state ≠ .withdrawn := by decide +kernel
  intro i hi
  obtain ⟨hwellFormed,hdistinct,hunlisted,hsigner,hrole,hidle⟩ := hjudged i hi
  exact ⟨⟨hwellFormed,hdistinct,hunlisted,hsigner,hrole⟩,hidle⟩

theorem follow_on : checkSuccessor wire none first.document .empty = .ok () ∧
    checkSuccessor wire (some first.document) second.document .empty = .ok () ∧
    checkSuccessor wire (some second.document) third.document .empty = .ok () := by decide

theorem issued : ∀ i ∈ issues, ∃ statedAt, i.document.issued = .ok statedAt := by
  intro i hi
  simp only [issues,List.mem_cons,List.not_mem_nil,or_false] at hi
  rcases hi with rfl | rfl | rfl
  · exact ⟨1772323200000000,by decide⟩
  · exact ⟨1772409600000000,by decide⟩
  · exact ⟨1772496000000000,by decide⟩

theorem adopts {s : StandingSource} (hseen : s.seenWithdrawn = .empty) {i : Issue} (hi : i ∈ issues)
    (hdigest : s.accepted.any (fun held => held.digest = i.sha) = false)
    (hfollows : checkSuccessor wire (s.accepted.map Accepted.document) i.document .empty = .ok ()) :
    (s.refresh wire cfg (fetchOf i)).2.seenWithdrawn = .empty ∧
      ∃ held, (s.refresh wire cfg (fetchOf i)).2.accepted = some held ∧ held.document = i.document ∧ held.digest = i.sha := by
  obtain ⟨statedAt,hissued⟩ := issued i hi
  rw [← hseen] at hfollows
  rw [wire,adopted payloads_nodup hi (sound i hi).1 hdigest hfollows hissued]
  exact ⟨(StandingSource.remember_idle (sound i hi).2).trans hseen,_,rfl,rfl,rfl⟩

theorem shas_differ : decide (first.sha = second.sha) = false ∧ decide (second.sha = third.sha) = false := by decide

theorem runs :
    ∃ held mid latest, (StandingSource.run wire cfg {} [fetchOf first]).accepted = some held ∧
      (StandingSource.run wire cfg {} [fetchOf first,fetchOf second]).accepted = some mid ∧
      (StandingSource.run wire cfg {} [fetchOf first,fetchOf second,fetchOf third]).accepted = some latest ∧
      held.document = first.document ∧ mid.document = second.document ∧ latest.document = third.document := by
  have hfirst : first ∈ issues := by simp [issues]
  have hsecond : second ∈ issues := by simp [issues]
  have hthird : third ∈ issues := by simp [issues]
  obtain ⟨hseen₁,held,hheld,hdocument₁,hsha₁⟩ := adopts (s := {}) rfl hfirst rfl follow_on.1
  obtain ⟨hseen₂,mid,hmid,hdocument₂,hsha₂⟩ := adopts hseen₁ hsecond
    (by rw [hheld,Option.any_some,hsha₁]; exact shas_differ.1) (by rw [hheld,Option.map_some,hdocument₁]; exact follow_on.2.1)
  obtain ⟨_,latest,hlatest,hdocument₃,_⟩ := adopts hseen₂ hthird
    (by rw [hmid,Option.any_some,hsha₂]; exact shas_differ.2) (by rw [hmid,Option.map_some,hdocument₂]; exact follow_on.2.2)
  refine ⟨held,mid,latest,?_,?_,?_,hdocument₁,hdocument₂,hdocument₃⟩
  · rw [StandingSource.run_cons,StandingSource.run_nil]
    exact hheld
  · rw [StandingSource.run_cons,StandingSource.run_cons,StandingSource.run_nil]
    exact hmid
  · rw [StandingSource.run_cons,StandingSource.run_cons,StandingSource.run_cons,StandingSource.run_nil]
    exact hlatest

theorem dropped_key_relisted :
    let s := StandingSource.run wire cfg {} [fetchOf first]
    ∃ held latest e e' f, s.accepted = some held ∧ (s.run wire cfg [fetchOf second,fetchOf third]).accepted = some latest ∧
      held.document.keys.get? "issuer-a" = some e ∧ latest.document.keys.get? "issuer-a" = some e' ∧
      latest.document.keys.get? "issuer-b" = some f ∧
      wire.loadPublicKey e'.publicKey ≠ wire.loadPublicKey e.publicKey ∧ e.state = .retired ∧ e'.state = .active ∧
      wire.loadPublicKey f.publicKey = wire.loadPublicKey e.publicKey := by
  intro s
  obtain ⟨held,_,latest,hheld,_,hlatest,hfirst,_,hthird⟩ := runs
  have hstates : first.document.keys.get? "issuer-a" = some retired ∧ third.document.keys.get? "issuer-a" = some (active pemQ) ∧
      third.document.keys.get? "issuer-b" = some (active pemP) := by decide
  have hbytes : wire.loadPublicKey (active pemQ).publicKey ≠ wire.loadPublicKey retired.publicKey := by decide
  rw [← hfirst,← hthird] at hstates
  have hrun : s.run wire cfg [fetchOf second,fetchOf third] =
      StandingSource.run wire cfg {} ([fetchOf first] ++ [fetchOf second,fetchOf third]) := (StandingSource.run_append _ _ _).symm
  rw [hrun]
  exact ⟨held,latest,retired,active pemQ,active pemP,hheld,hlatest,hstates.1,hstates.2.1,hstates.2.2,hbytes,rfl,rfl,rfl⟩

theorem listed_keys_move_forward_kept :
    let s := StandingSource.run wire cfg {} [fetchOf first]
    StandingSource.ListedUntil wire cfg s [fetchOf second,fetchOf third] "issuer-k" ∧
      ∃ held latest, s.accepted = some held ∧ (s.run wire cfg [fetchOf second,fetchOf third]).accepted = some latest ∧
        ∀ j e', latest.document.keys.get? j = some e' → wire.loadPublicKey e'.publicKey = wire.loadPublicKey pemK → j = "issuer-k" := by
  intro s
  obtain ⟨held,mid,latest,hheld,hmid,hlatest,hfirst,hsecond,_⟩ := runs
  have hentries : first.document.keys.get? "issuer-k" = some (active pemK) ∧
      second.document.keys.get? "issuer-k" = some (active pemK) := by decide
  rw [← hfirst,← hsecond] at hentries
  have hrun : ∀ later, s.run wire cfg later = StandingSource.run wire cfg {} ([fetchOf first] ++ later) := fun later =>
    (StandingSource.run_append _ _ _).symm
  have hlisted : StandingSource.ListedUntil wire cfg s [fetchOf second,fetchOf third] "issuer-k" := by
    intro between fetch rest hsplit
    rw [hrun]
    rcases between with _ | ⟨f,_ | ⟨g,between⟩⟩
    · exact ⟨held,active pemK,hheld,hentries.1⟩
    · have hsecondFetch : f = fetchOf second := (List.cons.inj hsplit).1.symm
      rw [hsecondFetch]
      exact ⟨mid,active pemK,hmid,hentries.2⟩
    · simp at hsplit
  have hend : (s.run wire cfg [fetchOf second,fetchOf third]).accepted = some latest := by
    rw [hrun]
    exact hlatest
  refine ⟨hlisted,held,latest,hheld,hend,?_⟩
  have hforward := StandingSource.listed_keys_move_forward wire cfg [fetchOf first] [fetchOf second,fetchOf third] held latest hheld hend
  exact (hforward.2.1 "issuer-k" (active pemK) hentries.1 hlisted).2

end Relisted

end SafeAgents.Grants
