import SafeAgents.Grants.RecordSigning
import SafeAgents.Grants.StandingCommand

namespace SafeAgents.Grants

open Calendar Checked

inductive LicensingKind where
  | key | beforeEpoch | unverified
  deriving DecidableEq

structure LicensingKey where
  kind : LicensingKind
  keyId : Option String := none
  recordType : Option RecordType := none
  recordTs : Option String := none
  detail : String := ""

def fallKeyWithdrawn : String := "issuer key withdrawn"

def fallNotEstablished : String := "issuer standing not established"

structure StandingAssessment where
  held : Bool
  reason : Option String := none
  asOf : Option InputAsOf := none

def instantOf (ts : String) : Option Int :=
  match fromisoformat ts with
  | none => none
  | some parsed =>
    match parsed.offset with
    | none => some parsed.clock
    | some _ => parsed.instant?

def isEarning (t : RecordType) : Bool := t = .bootstrap || t = .promotion

-- A record of the ledger with the records before it; the place stands for the object's identity.
structure Placed where
  before : List StoredRecord
  entry : StoredRecord

def licensingFrom (grantInstant : Int) (before : List StoredRecord) (found : Option Placed) (earned : Bool) :
    List StoredRecord → Option Placed
  | [] => found
  | entry :: rest =>
    if (instantOf entry.record.ts).all fun instant => instant > grantInstant then
      licensingFrom grantInstant (before ++ [entry]) found earned rest
    else if isEarning entry.record.recordType then
      licensingFrom grantInstant (before ++ [entry]) (some { before, entry }) true rest
    else if entry.record.recordType = .reattestation && earned then
      licensingFrom grantInstant (before ++ [entry]) (some { before, entry }) earned rest
    else licensingFrom grantInstant (before ++ [entry]) found earned rest

def licensingRecord (stored : List StoredRecord) (grantInstant : Int) : Option Placed :=
  licensingFrom grantInstant [] none false stored

-- A bound out of range is refused by value; with the bound in range only the sum can raise.
def endError (skew : Int) : CheckError := if 0 ≤ skew ∧ skew ≤ maxSkew then .overflowError else .valueError

def judgeEnd (instant : Int) (skew : Int) : Except CheckError Int :=
  match endJudgedAt instant skew with
  | .error _ => .error (endError skew)
  | .ok judged => .ok judged

def beforeEpoch (instant : Int) (epoch : Option Int) (skew : Int) : Except CheckError Bool :=
  match epoch with
  | none => .ok true
  | some epoch => (judgeEnd instant skew).map fun judged => judged < epoch

def followsASignedRecord (placed : Placed) : Bool := placed.before.any fun earlier => earlier.signature.isSome

def licensedByNoRecord (grantInstant : Int) (signingEpoch : Option Int) (skew : Int) : Except CheckError LicensingKey := do
  if ← beforeEpoch grantInstant signingEpoch skew then
    return { kind := .beforeEpoch
             detail := "no record licenses the grant, and its ts is before the record-signing epoch" }
  return { kind := .unverified, detail := "no bootstrap, promotion or reattestation record licenses the grant" }

def isHistory (record : PromotionRecord) (signingEpoch : Option Int) (skew : Int) : Except CheckError Bool :=
  match instantOf record.ts with
  | none => .ok false
  | some instant => beforeEpoch instant signingEpoch skew

def licensedUnsigned (placed : Placed) (signingEpoch : Option Int) (skew : Int) : Except CheckError LicensingKey := do
  let record := placed.entry.record
  let name := record.recordType.text
  if followsASignedRecord placed then
    return { kind := .unverified
             recordType := record.recordType
             recordTs := record.ts
             detail := "the " ++ name ++ " record at ts=" ++ record.ts ++ " that licensed the grant is unsigned and comes after a " ++
               "signed record at its coordinate, so it is not history" }
  if ← isHistory record signingEpoch skew then
    return { kind := .beforeEpoch
             recordType := record.recordType
             recordTs := record.ts
             detail := "the licensing " ++ name ++ " record is unsigned history" }
  return { kind := .unverified
           recordType := record.recordType
           recordTs := record.ts
           detail := "the " ++ name ++ " record at ts=" ++ record.ts ++
             " that licensed the grant is unsigned and not before the record-signing epoch" }

def isDict : Json → Bool
  | .obj _ => true
  | _ => false

section Resolve
variable {Bytes Key : Type} [DecidableEq Key] (wire : RecordWire Bytes Key)

def checkStored (entry : StoredRecord) (signature : Json) (resolvers : RoleKeyResolvers Key) : Except CheckError RecordVerifyResult :=
  if isDict signature then verifyRecordByType wire entry.data signature entry.record.recordType resolvers
  else .ok { ok := false, reason := some .signatureMalformed }

def licensedBySignature (entry : StoredRecord) (signature : Json) (resolvers : RoleKeyResolvers Key) :
    Except CheckError LicensingKey := do
  let record := entry.record
  let result ← checkStored wire entry signature resolvers
  match result.keyId with
  | some keyId => return { kind := .key, keyId, recordType := record.recordType, recordTs := record.ts }
  | none =>
    return { kind := .unverified
             recordType := record.recordType
             recordTs := record.ts
             detail := "the " ++ record.recordType.text ++ " record at ts=" ++ record.ts ++
               " that licensed the grant failed signature verification (" ++
               (result.reason.map RecordVerifyReason.text).getD "None" ++ ")" }

def resolveLicensingKey (stored : List StoredRecord) (grantTs : String) (resolvers : RoleKeyResolvers Key)
    (signingEpoch : Option Int) (skew : Int) : Except CheckError LicensingKey :=
  match instantOf grantTs with
  | none => .ok { kind := .unverified, detail := "the grant's ts " ++ pyRepr grantTs ++ " is not an instant" }
  | some grantInstant =>
    match licensingRecord stored grantInstant with
    | none => licensedByNoRecord grantInstant signingEpoch skew
    | some placed =>
      match placed.entry.signature with
      | none => licensedUnsigned placed signingEpoch skew
      | some signature => licensedBySignature wire placed.entry signature resolvers

end Resolve

structure CacheEntry where
  grantTs : String
  version : Option Int
  key : LicensingKey

-- timedelta / 4, rounded to the nearest microsecond with ties to even.
def quarterOf (age : Int) : Int :=
  let quotient := age / 4
  let rest := age % 4
  if rest > 2 ∨ rest = 2 ∧ quotient % 2 = 1 then quotient + 1 else quotient

structure GrantStandingCheck (Bytes Key : Type) where
  wire : RecordWire Bytes Key
  cfg : StandingConfig Key
  issuer : cfg.role = .issuer
  signingEpoch : Option Int := none
  skew : Int := 0
  refreshEveryGiven : Option Int := none

structure CheckState where
  source : StandingSource := {}
  nextRefresh : Option Int := none
  cache : Dict (Principal × String) CacheEntry := .empty

def StandingSource.documentVersion (s : StandingSource) : Int := s.version.getD 0

def StandingError.raises : StandingError → CheckError
  | .refused _ _ => .other "StandingDocumentRefused"
  | .value _ => .valueError
  | .raised name => .other name

def LicensingKind.stable : LicensingKind → Bool
  | .key => true
  | .beforeEpoch => true
  | .unverified => false

namespace GrantStandingCheck
variable {Bytes Key : Type} [DecidableEq Key] (c : GrantStandingCheck Bytes Key)

def refreshEvery : Int :=
  match c.refreshEveryGiven with
  | none => quarterOf c.cfg.maxAge
  | some every => if every = 0 then quarterOf c.cfg.maxAge else every

def refresh (s : CheckState) (now : Instant) (fetch : Fetch) : Except CheckError StandingLoad × CheckState :=
  let loaded := s.source.refresh c.wire.toStandingWire c.cfg fetch
  match loaded.1 with
  | .error e => (.error e.raises,{ s with source := loaded.2 })
  | .ok load =>
    if Representable (now + c.refreshEvery) then
      (.ok load,{ s with source := loaded.2, nextRefresh := some (now + c.refreshEvery) })
    else (.error .overflowError,{ s with source := loaded.2 })

def maybeRefresh (s : CheckState) (now : Instant) (fetch : Fetch) : Except CheckError Unit × CheckState :=
  if s.nextRefresh.any fun due => now < due then (.ok (),s)
  else
    let refreshed := c.refresh s now fetch
    (refreshed.1.map fun _ => (),refreshed.2)

def resolve (s : StandingSource) (stored : List StoredRecord) (grantTs : String) : Except CheckError LicensingKey :=
  resolveLicensingKey c.wire stored grantTs (s.issuerResolvers c.wire.toStandingWire) c.signingEpoch c.skew

def cached (s : CheckState) (coordinate : Principal × String) (grantTs : String) : Option LicensingKey :=
  match s.cache.get? coordinate with
  | none => none
  | some held =>
    if held.grantTs = grantTs ∧ held.version.all (· = s.source.documentVersion) then some held.key else none

def licensingKey (s : CheckState) (ledger : Except GrantError (List StoredRecord)) (g : GrantDocument) :
    Except CheckError LicensingKey × CheckState :=
  match cached s (g.principal,g.actionClass) g.ts with
  | some key => (.ok key,s)
  | none =>
    match ledger with
    | .error _ => (.ok { kind := .unverified, detail := "the ledger could not be read (ValidationError)" },s)
    | .ok stored =>
      match c.resolve s.source stored g.ts with
      | .error e => (.error e,s)
      | .ok key =>
        let entry : CacheEntry :=
          { grantTs := g.ts, version := if key.kind.stable then none else some s.source.documentVersion, key }
        (.ok key,{ s with cache := s.cache.set (g.principal,g.actionClass) entry })

def standingOf (s : StandingSource) (keyId : String) (now : Instant) : Except CheckError KeyStanding :=
  match s.standingOf c.cfg keyId now c.skew with
  | .error _ => .error (endError c.skew)
  | .ok standing => .ok standing

def fallReason (key : LicensingKey) (keyId : String) (now : Instant) (standing : KeyStanding) : String :=
  let signed := "the " ++ (key.recordType.map RecordType.text).getD "None" ++ " record at ts=" ++ key.recordTs.getD "None" ++
    " that licensed this grant"
  match standing.verdict with
  | .withdrawn =>
    fallKeyWithdrawn ++ ": key " ++ pyRepr keyId ++ " (" ++
      ((standing.entry.bind KeyStandingEntry.withdrawnReason).map WithdrawnReason.text).getD "None" ++ ", withdrawn at " ++
      (standing.entry.bind KeyStandingEntry.withdrawnAt).getD "None" ++ ") signed " ++ signed
  | .notEstablished =>
    match standing.version with
    | none => fallNotEstablished ++ ": no issuer standing document has been accepted"
    | some version =>
      fallNotEstablished ++ ": the issuer standing document (version " ++ toString version ++ ") is past its maximum age at " ++
        isoformat now
  | _ =>
    fallNotEstablished ++ ": key " ++ pyRepr keyId ++ ", which signed " ++ signed ++ ", is not in the issuer standing document"

def judge (s : StandingSource) (key : LicensingKey) (now : Instant) : Except CheckError StandingAssessment :=
  let asOf := s.accepted.map Accepted.asOf
  match key.kind, key.keyId with
  | .beforeEpoch, _ => .ok { held := true }
  | .key, some keyId => do
    let standing ← c.standingOf s keyId now
    if standing.verdict = .inStanding then return { held := true, asOf }
    return { held := false, reason := some (fallReason key keyId now standing), asOf }
  | _, _ => .ok { held := false, reason := some (fallNotEstablished ++ ": " ++ key.detail), asOf }

def fallen (e : CheckError) : StandingAssessment where
  held := false
  reason := some (fallNotEstablished ++ ": the standing check failed (" ++ e.typeName ++ ")")

def assess (s : CheckState) (ledger : Except GrantError (List StoredRecord)) (g : GrantDocument) (now : Instant) (fetch : Fetch) :
    StandingAssessment × CheckState :=
  match c.maybeRefresh s now fetch with
  | (.error e,s) => (fallen e,s)
  | (.ok _,s) =>
    match c.licensingKey s ledger g with
    | (.error e,s) => (fallen e,s)
    | (.ok key,s) =>
      match c.judge s.source key now with
      | .error e => (fallen e,s)
      | .ok assessment => (assessment,s)

end GrantStandingCheck

section Lemmas
variable {Bytes Key : Type} [DecidableEq Key] {c : GrantStandingCheck Bytes Key} {s t : StandingSource} {stored : List StoredRecord}
  {grantInstant : Int} {grantTs : String} {key : LicensingKey}

theorem instantOf_recorded {r : PromotionRecord} {t : Int} (h : recordedInstant r = .ok t) : instantOf r.ts = some t := by
  rw [recordedInstant] at h
  rw [instantOf]
  cases hparsed : fromisoformat r.ts with
  | none =>
    rw [hparsed] at h
    cases h
  | some parsed =>
    rw [hparsed] at h
    cases hoffset : parsed.offset with
    | none =>
      simp only [hoffset] at h ⊢
      cases h
      rfl
    | some offset =>
      simp only [hoffset,toUtc] at h ⊢
      cases hinstant : parsed.instant? with
      | none =>
        rw [hinstant] at h
        cases h
      | some instant =>
        rw [hinstant] at h
        cases h
        rfl

theorem licensingFrom_later {before : List StoredRecord} {found : Option Placed} {earned : Bool} {entry : StoredRecord}
    (h : ∃ instant, instantOf entry.record.ts = some instant ∧ grantInstant < instant) :
    licensingFrom grantInstant before found earned (stored ++ [entry]) = licensingFrom grantInstant before found earned stored := by
  induction stored generalizing before found earned with
  | nil =>
    obtain ⟨instant,hinstant,hlater⟩ := h
    simp [licensingFrom,hinstant,hlater]
  | cons first stored ih =>
    simp only [List.cons_append,licensingFrom,ih]

theorem licensingRecord_later {entry : StoredRecord}
    (h : ∃ instant, instantOf entry.record.ts = some instant ∧ grantInstant < instant) :
    licensingRecord (stored ++ [entry]) grantInstant = licensingRecord stored grantInstant := licensingFrom_later h

theorem licensingFrom_issuer {before : List StoredRecord} {found : Option Placed} {earned : Bool} {placed : Placed}
    (h : licensingFrom grantInstant before found earned stored = some placed)
    (hfound : ∀ p, found = some p → signingRoleForRecordType p.entry.record.recordType = .issuer) :
    signingRoleForRecordType placed.entry.record.recordType = .issuer := by
  induction stored generalizing before found earned with
  | nil => exact hfound placed h
  | cons entry stored ih =>
    rw [licensingFrom] at h
    split at h
    · exact ih h hfound
    · split at h
      next hearning =>
        refine ih h ?_
        intro p hp
        obtain rfl := Option.some.inj hp
        show signingRoleForRecordType entry.record.recordType = .issuer
        cases htype : entry.record.recordType <;> simp_all [isEarning,signingRoleForRecordType]
      · split at h
        next hagain =>
          refine ih h ?_
          intro p hp
          obtain rfl := Option.some.inj hp
          have htype : entry.record.recordType = .reattestation := by simp_all
          show signingRoleForRecordType entry.record.recordType = .issuer
          rw [htype]
          rfl
        · exact ih h hfound

theorem licensingRecord_issuer {placed : Placed} (h : licensingRecord stored grantInstant = some placed) :
    signingRoleForRecordType placed.entry.record.recordType = .issuer := licensingFrom_issuer h (by simp)

namespace GrantStandingCheck

theorem resolve_later {entry : StoredRecord} {grantInstant : Int} (hgrant : instantOf grantTs = some grantInstant)
    (h : ∃ instant, instantOf entry.record.ts = some instant ∧ grantInstant < instant) :
    c.resolve s (stored ++ [entry]) grantTs = c.resolve s stored grantTs := by
  simp only [resolve,resolveLicensingKey,hgrant,licensingRecord_later h]

def Signed (stored : List StoredRecord) (grantTs : String) (placed : Placed) (signature : Json) : Prop :=
  ∃ grantInstant, instantOf grantTs = some grantInstant ∧ licensingRecord stored grantInstant = some placed ∧
    placed.entry.signature = some signature

theorem resolve_signed {placed : Placed} {signature : Json} (h : Signed stored grantTs placed signature) (s : StandingSource) :
    c.resolve s stored grantTs =
      licensedBySignature c.wire placed.entry signature (s.issuerResolvers c.wire.toStandingWire) := by
  obtain ⟨grantInstant,hgrant,hplaced,hsignature⟩ := h
  simp only [resolve,resolveLicensingKey,hgrant,hplaced,hsignature]

theorem resolve_cases (c : GrantStandingCheck Bytes Key) (stored : List StoredRecord) (grantTs : String) :
    (∃ placed signature, Signed stored grantTs placed signature) ∨
      (∀ s t, c.resolve s stored grantTs = c.resolve t stored grantTs) ∧
        ∀ s key, c.resolve s stored grantTs = .ok key → key.kind ≠ .key := by
  cases hgrant : instantOf grantTs with
  | none =>
    right
    simp only [resolve,resolveLicensingKey,hgrant]
    refine ⟨fun _ _ => trivial,?_⟩
    rintro _ key hkey
    rw [← Except.ok.inj hkey]
    exact nofun
  | some grantInstant =>
    cases hplaced : licensingRecord stored grantInstant with
    | none =>
      right
      simp only [resolve,resolveLicensingKey,hgrant,hplaced]
      refine ⟨fun _ _ => trivial,?_⟩
      rintro _ key hkey
      obtain ⟨history,_,hend⟩ := bind_ok.mp hkey
      cases history with
      | true => rw [← pure_ok.mp hend]; exact nofun
      | false => rw [← pure_ok.mp hend]; exact nofun
    | some placed =>
      cases hsignature : placed.entry.signature with
      | some signature => exact .inl ⟨placed,signature,grantInstant,hgrant,hplaced,hsignature⟩
      | none =>
        right
        simp only [resolve,resolveLicensingKey,hgrant,hplaced,hsignature]
        refine ⟨fun _ _ => trivial,?_⟩
        rintro _ key hkey
        rw [licensedUnsigned] at hkey
        split at hkey
        · rw [← pure_ok.mp hkey]
          exact nofun
        · obtain ⟨history,_,hend⟩ := bind_ok.mp hkey
          cases history with
          | true => rw [← pure_ok.mp hend]; exact nofun
          | false => rw [← pure_ok.mp hend]; exact nofun

theorem Signed.issuer {placed : Placed} {signature : Json} (h : Signed stored grantTs placed signature) :
    signingRoleForRecordType placed.entry.record.recordType = .issuer := by
  obtain ⟨_,_,hplaced,_⟩ := h
  exact licensingRecord_issuer hplaced

theorem licensedBySignature_ok {wire : RecordWire Bytes Key} {entry : StoredRecord} {signature : Json}
    {resolvers : RoleKeyResolvers Key} (h : licensedBySignature wire entry signature resolvers = .ok key) :
    (key.kind = .unverified ∧ key.keyId = none) ∨
      ∃ keyId result, isDict signature = true ∧
        verifyRecordByType wire entry.data signature entry.record.recordType resolvers = .ok result ∧ result.keyId = some keyId ∧
        key = { kind := .key, keyId := some keyId, recordType := some entry.record.recordType, recordTs := some entry.record.ts } := by
  obtain ⟨result,hresult,hend⟩ := bind_ok.mp h
  cases hkey : result.keyId with
  | none =>
    simp only [hkey] at hend
    rw [← pure_ok.mp hend]
    exact .inl ⟨rfl,rfl⟩
  | some keyId =>
    simp only [hkey] at hend
    rw [checkStored] at hresult
    split at hresult
    next hdict => exact .inr ⟨keyId,result,hdict,hresult,hkey,(pure_ok.mp hend).symm⟩
    · rw [← Except.ok.inj hresult] at hkey
      cases hkey

theorem licensedBySignature_sameDocument {placed : Placed} {signature : Json} (h : Signed stored grantTs placed signature)
    (hsame : t.accepted = s.accepted) :
    licensedBySignature c.wire placed.entry signature (t.issuerResolvers c.wire.toStandingWire) =
      licensedBySignature c.wire placed.entry signature (s.issuerResolvers c.wire.toStandingWire) := by
  have hresolver : t.resolver c.wire.toStandingWire = s.resolver c.wire.toStandingWire := by
    funext j
    cases j <;> simp [StandingSource.resolver,StandingSource.keyResolver,hsame]
  rw [licensedBySignature,licensedBySignature,checkStored,checkStored]
  split
  · rw [StandingSource.verifyRecordByType_issuer t _ _ h.issuer,StandingSource.verifyRecordByType_issuer s _ _ h.issuer,hresolver]
    cases verifyRecord c.wire placed.entry.data signature (s.resolver c.wire.toStandingWire) with
    | error e => rfl
    | ok result =>
      -- A withdrawn signer is named all the same, so the two states give one key.
      cases hok : result.ok with
      | false => simp [bind,Except.bind,hok]
      | true =>
        cases hsigner : envelopeSignerKeyId signature with
        | none => simp [bind,Except.bind,hok]
        | some keyId =>
          by_cases ht : t.keyState keyId = some .withdrawn <;> by_cases hs : s.keyState keyId = some .withdrawn <;>
            simp [bind,Except.bind,pure,Except.pure,hok,ht,hs]
  · rfl

theorem resolve_sameDocument (hsame : t.accepted = s.accepted) : c.resolve t stored grantTs = c.resolve s stored grantTs := by
  rcases resolve_cases c stored grantTs with ⟨placed,signature,hsigned⟩ | ⟨hconstant,_⟩
  · rw [resolve_signed hsigned,resolve_signed hsigned,licensedBySignature_sameDocument hsigned hsame]
  · exact hconstant t s

theorem resolve_key (h : c.resolve s stored grantTs = .ok key) (hkind : key.kind = .key) :
    ∃ keyId publicKey, key.keyId = some keyId ∧ s.keyResolver c.wire.toStandingWire keyId = some publicKey ∧
      (∀ t : StandingSource, t.keyResolver c.wire.toStandingWire keyId = some publicKey → c.resolve t stored grantTs = .ok key) ∧
      ∀ t : StandingSource, t.keyResolver c.wire.toStandingWire keyId = none →
        ∃ other, c.resolve t stored grantTs = .ok other ∧ other.kind = .unverified := by
  rcases resolve_cases c stored grantTs with ⟨placed,signature,hsigned⟩ | ⟨_,hnever⟩
  · rw [resolve_signed hsigned] at h
    rcases licensedBySignature_ok h with ⟨hunverified,_⟩ | ⟨keyId,result,hdict,hresult,hkey,rfl⟩
    · rw [hkind] at hunverified
      cases hunverified
    · obtain ⟨statement,hverified⟩ := StandingSource.verifyRecordByType_key hsigned.issuer hresult hkey
      obtain ⟨publicKey,hknown⟩ := hverified.known
      refine ⟨keyId,publicKey,rfl,hknown,?_,?_⟩
      · intro t ht
        obtain ⟨result',hresult',hkey'⟩ := hverified.again hsigned.issuer (ht.trans hknown.symm)
        rw [resolve_signed hsigned,licensedBySignature,checkStored,if_pos hdict,bind_of_ok hresult']
        simp only [hkey']
        rfl
      · intro t ht
        rw [resolve_signed hsigned,licensedBySignature,checkStored,if_pos hdict,
          bind_of_ok (hverified.unlisted hsigned.issuer ht)]
        exact ⟨_,rfl,rfl⟩
  · exact absurd hkind (hnever s key h)

theorem resolve_history (h : c.resolve s stored grantTs = .ok key) (hkind : key.kind = .beforeEpoch) (t : StandingSource) :
    c.resolve t stored grantTs = .ok key := by
  rcases resolve_cases c stored grantTs with ⟨placed,signature,hsigned⟩ | ⟨hconstant,_⟩
  · rw [resolve_signed hsigned] at h
    rcases licensedBySignature_ok h with ⟨hunverified,_⟩ | ⟨keyId,result,_,_,_,rfl⟩
    · rw [hkind] at hunverified
      cases hunverified
    · cases hkind
  · rw [hconstant t s,h]

end GrantStandingCheck

end Lemmas

end SafeAgents.Grants
