import SafeAgents.Interleaving.History
import SafeAgents.Schemas.Wire
import Mathlib.Algebra.Order.Ring.Rat

namespace SafeAgents

open Interleaving Wire

namespace Runtime

inductive CredentialError where
  | fileNotFound (name : String)
  | keyError (name : String)
  | valueError
  | urlError (exception : String)
  | attributeError
  | overflowError
  | exchangeFailed (tokenUrl exception : String)
  | noAccessToken (tokenUrl : String)
  | rotationNotWritable (leaf : String)
  | rotationNotPersisted (leaf : String)
  deriving DecidableEq

inductive SecretsProvider where
  | fake | dir | readOnly
  deriving DecidableEq

namespace SecretsProvider

def isLeaf (name : String) : Bool :=
  name ≠ "" && !name.toList.contains '/' && !name.toList.contains '\\' && name ≠ "." && name ≠ ".."

-- A leaf file's text without its one trailing line end; a byte-order mark is refused.
def unwrap (content : String) : Except CredentialError String :=
  let l := content.toList
  if l.head? = some '\uFEFF' then .error .valueError
  else if ['\r','\n'].isSuffixOf l then .ok (String.ofList (l.take (l.length - 2)))
  else if ['\n'].isSuffixOf l then .ok (String.ofList (l.take (l.length - 1)))
  else .ok content

def readText : SecretsProvider → String → Except CredentialError String
  | .dir, content => unwrap content
  | _, content => .ok content

def fetchSecret (p : SecretsProvider) (files : String → Option String) (name : String) : Except CredentialError String :=
  if p = .dir && !isLeaf name then .error .valueError
  else match files name with
    | some content => p.readText content
    | none => .error (if p = .dir then .fileNotFound name else .keyError name)

def storeSecret (p : SecretsProvider) (files : String → Option String) (name value : String) :
    Except CredentialError (String → Option String) :=
  if p = .readOnly then .error .attributeError
  else if p = .dir && !isLeaf name then .error .valueError
  else .ok (Function.update files name (some value))

def isRotatable (p : SecretsProvider) : Bool := p ≠ .readOnly

end SecretsProvider

structure TokenRequest where
  tokenUrl : String
  clientId : String
  refreshToken : String
  clientSecret : Option String
  scope : Option String

structure TokenGrant where
  accessToken : String
  rotatedRefreshToken : Option String := none
  expiresIn : Option Int := none

def expirySkewSeconds : ℚ := 300

-- The operations of one process on the secret store, the token endpoint and its own cache; where an instant matters the reply
-- carries it. `self` is the strategy object whose cache it is.
inductive RefreshOp (π : Type) where
  | cached (self : π) (refreshLeaf : String)
  | fetchSecret (name : String)
  | urlopen (request : TokenRequest)
  | read (body : Json)
  | storeSecret (name value : String)
  | remember (self : π) (refreshLeaf accessToken : String) (lifetime : ℚ)

def RefreshOp.Ret {π : Type} : RefreshOp π → Type
  | .cached _ _ => Option String × ℚ
  | .fetchSecret _ => String
  | .urlopen _ => Json
  | .read _ => Json × ℚ
  | .storeSecret _ _ => Unit
  | .remember _ _ _ _ => ℚ

abbrev Minting (π α : Type) := Prog (RefreshOp π) RefreshOp.Ret CredentialError α

def perform {π : Type} (o : RefreshOp π) : Minting π o.Ret := Prog.call o

def rotatedIn (request : TokenRequest) (payload : Json) : Option String :=
  match payload.get? "refresh_token" with
  | some (.str token) => if token = "" ∨ token = request.refreshToken then none else some token
  | _ => none

def expiresIn (payload : Json) : Option Int := ((payload.get? "expires_in").bind Json.int?).filter (0 < ·)

def grantOf (request : TokenRequest) (payload : Json) : Except CredentialError TokenGrant :=
  match payload with
  | .obj _ =>
    match payload.get? "access_token" with
    | some (.str accessToken) =>
      if accessToken = "" then .error (.noAccessToken request.tokenUrl)
      else .ok { accessToken, rotatedRefreshToken := rotatedIn request payload, expiresIn := expiresIn payload }
    | _ => .error (.noAccessToken request.tokenUrl)
  | _ => .error .attributeError

def exchangeFailure (tokenUrl : String) : CredentialError → CredentialError
  | .urlError exception => .exchangeFailed tokenUrl exception
  | e => e

-- The least whole number that `float` refuses.
def floatLimit : Int := 2 ^ 1024 - 2 ^ 970

section Strategy
variable {π : Type}

def urllibTokenFetcher (request : TokenRequest) : Minting π TokenGrant := do
  let body : Json ← tryCatch (perform (.urlopen request)) fun e => throw (exchangeFailure request.tokenUrl e)
  let response : Json × ℚ ← perform (.read body)
  .finish (grantOf request response.1)

structure OAuthRefresh where
  tokenUrl : String
  clientId : String
  refreshTokenLeaf : Option String := none
  clientSecretLeaf : Option String := none
  scope : Option String := none

namespace OAuthRefresh
variable (O : OAuthRefresh) (secrets : SecretsProvider) (self : π)

def refreshLeaf (secretName : String) : String :=
  match O.refreshTokenLeaf with
  | some leaf => if leaf = "" then secretName else leaf
  | none => secretName

def persistRotation (refreshLeaf rotated : String) : Minting π Unit :=
  if secrets.isRotatable then
    tryCatch (perform (RefreshOp.storeSecret refreshLeaf rotated)) fun _ => throw (.rotationNotPersisted refreshLeaf)
  else throw (.rotationNotWritable refreshLeaf)

def clientSecret : Minting π (Option String) :=
  match O.clientSecretLeaf with
  | some leaf => if leaf = "" then return none else some <$> (perform (RefreshOp.fetchSecret leaf) : Minting π String)
  | none => return none

def persistIfRotated (refreshLeaf refreshToken : String) (rotated : Option String) : Minting π Unit :=
  match rotated with
  | some token => if token = refreshToken then return () else persistRotation secrets refreshLeaf token
  | none => return ()

def cacheToken (refreshLeaf : String) (grant : TokenGrant) : Minting π Unit :=
  match grant.expiresIn with
  | none => return ()
  | some seconds =>
    if floatLimit ≤ seconds then throw .overflowError
    else
      let lifetime := max 0 ((seconds : ℚ) - expirySkewSeconds)
      if 0 < lifetime then do
        let _ ← perform (RefreshOp.remember self refreshLeaf grant.accessToken lifetime)
      else return ()

def mint (refreshLeaf : String) : Minting π String := do
  let refreshToken : String ← perform (RefreshOp.fetchSecret refreshLeaf)
  let clientSecret ← O.clientSecret
  let grant ← urllibTokenFetcher { tokenUrl := O.tokenUrl, clientId := O.clientId, refreshToken, clientSecret, scope := O.scope }
  persistIfRotated secrets refreshLeaf refreshToken grant.rotatedRefreshToken
  cacheToken self refreshLeaf grant
  return grant.accessToken

def resolve (secretName : String) : Minting π String := do
  let found : Option String × ℚ ← perform (RefreshOp.cached self (O.refreshLeaf secretName))
  match found.1 with
  | some token => return token
  | none => O.mint secrets self (O.refreshLeaf secretName)

end OAuthRefresh

end Strategy

-- What the token endpoint may answer to the token it holds valid.
structure TokenAnswer where
  accessToken : String
  named : accessToken ≠ ""
  expiresIn : Option Json := none
  successor : Option String := none
  echoes : Bool := false

namespace TokenAnswer

def payload (a : TokenAnswer) (request : TokenRequest) (rotated : Option String) : Json :=
  .obj ([("access_token",.str a.accessToken)] ++ (a.expiresIn.map fun j => ("expires_in",j)).toList ++
    (match rotated with
      | some token => [("refresh_token",.str token)]
      | none => if a.echoes then [("refresh_token",.str request.refreshToken)] else []))

end TokenAnswer

structure RefreshState (π : Type) where
  files : String → Option String
  valid : String
  issued : List String
  cache : π → String → Option (String × ℚ)
  now : ℚ

abbrev Moment := { elapsed : ℚ // 0 ≤ elapsed }

def RefreshOp.Input {π : Type} : RefreshOp π → Type
  | .urlopen _ => Moment × Option TokenAnswer
  | _ => Moment

section Device
variable {π : Type} (secrets : SecretsProvider)

def RefreshState.later (s : RefreshState π) (x : Moment) : RefreshState π := { s with now := s.now + x.1 }

def RefreshState.keep [DecidableEq π] (s : RefreshState π) (self : π) (leaf : String) (entry : String × ℚ) : RefreshState π :=
  { s with cache := Function.update s.cache self (Function.update (s.cache self) leaf (some entry)) }

-- A successor no one has held before, that a leaf gives back as it was stored.
def RefreshState.fresh (s : RefreshState π) (token : String) : Bool :=
  token ≠ "" && !s.issued.contains token && match secrets.readText token with
    | .ok text => text = token
    | .error _ => false

def exchange (request : TokenRequest) (answer : Option TokenAnswer) (s : RefreshState π) :
    Except CredentialError Json × RefreshState π :=
  match answer with
  | none => (.error (.urlError "URLError"),s)
  | some a =>
    if request.refreshToken = s.valid then
      match a.successor.filter (s.fresh secrets) with
      | some token => (.ok (a.payload request (some token)),{ s with valid := token, issued := token :: s.issued })
      | none => (.ok (a.payload request none),s)
    else (.error (.urlError "HTTPError"),s)

def performRefresh [DecidableEq π] : (o : RefreshOp π) → o.Input → RefreshState π → Except CredentialError o.Ret × RefreshState π
  | .cached self leaf, x, s =>
    let s := s.later x
    (.ok (((s.cache self leaf).filter fun entry => s.now < entry.2).map Prod.fst,s.now),s)
  | .fetchSecret name, x, s => (secrets.fetchSecret s.files name,s.later x)
  | .urlopen request, x, s => exchange secrets request x.2 (s.later x.1)
  | .read body, x, s => (.ok (body,(s.later x).now),s.later x)
  | .storeSecret name value, x, s =>
    match secrets.storeSecret s.files name value with
    | .ok files => (.ok (),{ s.later x with files })
    | .error e => (.error e,s.later x)
  | .remember self leaf accessToken lifetime, x, s =>
    let s := s.later x
    (.ok s.now,s.keep self leaf (accessToken,s.now + lifetime))

def refreshDevice [DecidableEq π] : Device (RefreshOp π) RefreshOp.Ret CredentialError (RefreshState π) where
  Input := RefreshOp.Input
  perform := performRefresh secrets

end Device

section Answers
variable {a : TokenAnswer} {request : TokenRequest} {rotated : Option String}

theorem rotatedIn_payload (h : ∀ token, rotated = some token → token ≠ "" ∧ token ≠ request.refreshToken) :
    rotatedIn request (a.payload request rotated) = rotated := by
  cases hr : rotated with
  | some token =>
    have hfresh := h token hr
    cases he : a.expiresIn <;> simp [rotatedIn,TokenAnswer.payload,Json.get?,he,hfresh]
  | none =>
    cases he : a.expiresIn <;> cases hechoes : a.echoes <;> simp [rotatedIn,TokenAnswer.payload,Json.get?,he,hechoes]

theorem grantOf_payload : grantOf request (a.payload request rotated) = .ok {
    accessToken := a.accessToken
    rotatedRefreshToken := rotatedIn request (a.payload request rotated)
    expiresIn := expiresIn (a.payload request rotated) } := by
  simp [grantOf,TokenAnswer.payload,Json.get?,a.named]

end Answers

end Runtime

end SafeAgents
