import SafeAgents.Grants.TermDiscipline

namespace SafeAgents.Grants

open Checked

structure GrantReadResult where
  grant : Option GrantDocument
  quarantined : Bool := false
  quarantineReason : Option String := none
  rawData : Option String := none
  storedHash : Option String := none
  deriving DecidableEq

def GrantReadResult.expected (r : GrantReadResult) : ExpectedRead where
  grant := r.grant
  rawData := r.rawData
  storedHash := r.storedHash

def grantRowKey (backend : RecordBackend) (principal : Principal) (actionClass : String) : String × String :=
  match backend with
  | .memory => (principal.key,actionClass)
  | .sqlite => ("GRANT#" ++ principal.key,"CLASS#" ++ actionClass)
  | .dynamo => ("GRANT#" ++ principal.key,"CLASS#" ++ actionClass)

theorem grantKey_eq (backend : RecordBackend) (g : GrantDocument) : grantKey backend g = grantRowKey backend g.principal g.actionClass := by
  cases backend <;> rfl

section Read
variable (hmac : String → String) (validate : String → Option GrantDocument)

-- The stored bytes are tagged again and compared before anything is parsed.
def readResultFromItem (item : GrantItem) : Except GrantError GrantReadResult :=
  if item.grantHash ≠ hmac item.data then
    .ok { grant := none
          quarantined := true
          quarantineReason := some ("hash mismatch: stored=" ++ pyRepr item.grantHash ++ " expected=" ++ pyRepr (hmac item.data))
          rawData := some item.data
          storedHash := some item.grantHash }
  else
    match validate item.data with
    | none => .error (.value "Grant validation error")
    | some g => .ok { grant := some g, rawData := some item.data, storedHash := some item.grantHash }

def getGrant (backend : RecordBackend) (s : GrantState) (principal : Principal) (actionClass : String) :
    Except GrantError GrantReadResult :=
  match s.grants (grantRowKey backend principal actionClass) with
  | none => .ok { grant := none }
  | some item => readResultFromItem hmac validate item

end Read

section Blind
variable (hmac : String → String) (backend : RecordBackend)

-- The blind upsert of the seed path.
def putGrant (s : GrantState) (g : GrantDocument) : GrantState := setGrant hmac backend s g

def createGrant (s : GrantState) (g : GrantDocument) : Except GrantError GrantState := do
  refuseIf (s.grants (grantKey backend g) ≠ none) (.grantAlreadyExists ("grant " ++ g.coordinate ++
    " already exists; create_grant never overwrites — re-read and re-propose from the current state"))
  return putGrant hmac backend s g

end Blind

section Lemmas
variable {hmac : String → String} {validate : String → Option GrantDocument} {backend : RecordBackend} {s : GrantState}
  {principal : Principal} {actionClass : String} {r : GrantReadResult} {g : GrantDocument}

theorem getGrant_grant (h : getGrant hmac validate backend s principal actionClass = .ok r) (hg : r.grant = some g) :
    ∃ item, s.grants (grantRowKey backend principal actionClass) = some item ∧ item.grantHash = hmac item.data ∧
      validate item.data = some g ∧ r = { grant := some g, rawData := some item.data, storedHash := some item.grantHash } := by
  rw [getGrant] at h
  cases hrow : s.grants (grantRowKey backend principal actionClass) with
  | none =>
    rw [hrow] at h
    cases h
    cases hg
  | some item =>
    rw [hrow] at h
    simp only [readResultFromItem] at h
    split at h
    · cases h
      cases hg
    next hhash =>
      cases hread : validate item.data with
      | none =>
        rw [hread] at h
        cases h
      | some read =>
        rw [hread] at h
        cases h
        obtain rfl := Option.some.inj hg
        exact ⟨item,rfl,not_not.mp hhash,hread,rfl⟩

theorem getGrant_stored {item : GrantItem} (hrow : s.grants (grantRowKey backend principal actionClass) = some item)
    (hhash : item.grantHash = hmac item.data) (hread : validate item.data = some g) :
    getGrant hmac validate backend s principal actionClass =
      .ok { grant := some g, rawData := some item.data, storedHash := some item.grantHash } := by
  simp only [getGrant,hrow,readResultFromItem,hhash,hread]
  exact if_neg fun h => h rfl

theorem getGrant_written {isLabelLatency : String → Bool} (haccepted : g.accepted isLabelLatency = true)
    (hrow : s.grants (grantRowKey backend principal actionClass) = some (buildItem hmac g)) :
    getGrant hmac (GrantDocument.modelValidateJson isLabelLatency) backend s principal actionClass =
      .ok { grant := some g, rawData := some (canonicalGrantPayload g), storedHash := some (hmac (canonicalGrantPayload g)) } :=
  getGrant_stored hrow rfl (GrantDocument.modelValidateJson_canonical haccepted)

theorem putGrant_stores (hmac : String → String) (backend : RecordBackend) (s : GrantState) (g : GrantDocument) :
    (putGrant hmac backend s g).grants (grantRowKey backend g.principal g.actionClass) = some (buildItem hmac g) := by
  simp [putGrant,setGrant,grantKey_eq]

end Lemmas

end SafeAgents.Grants
