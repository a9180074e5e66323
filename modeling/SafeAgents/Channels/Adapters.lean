import SafeAgents.Channels.Body

namespace SafeAgents.Channels

open Lexical Checked

-- Case folding works code point by code point, keeps text text, and leaves a surrogate as it is.
structure Folding where
  fold : Nat → PyStr
  text : ∀ n, n.isValidChar → ∀ m ∈ fold n, m.isValidChar
  surrogate : ∀ n, ¬ n.isValidChar → fold n = [n]

def isSpacePoint (n : Nat) : Bool := decide n.isValidChar && isStripSpace (Char.ofNat n)

def PyStr.strip (p : PyStr) : PyStr := ((p.dropWhile isSpacePoint).reverse.dropWhile isSpacePoint).reverse

-- str.split(): the runs of characters that are not whitespace.
def PyStr.split : PyStr → List PyStr
  | [] => []
  | n :: rest =>
    if isSpacePoint n then PyStr.split rest
    else match rest with
      | [] => [[n]]
      | m :: _ =>
        if isSpacePoint m then [n] :: PyStr.split rest
        else match PyStr.split rest with
          | [] => [[n]]
          | word :: words => (n :: word) :: words

def canonicalIdentity (folding : Folding) (raw : PyStr) : PyStr := (PyStr.strip raw).flatMap folding.fold

-- Text of the same escaped length, a replacement character for each surrogate.
def PyStr.legible (p : PyStr) : String := String.ofList (p.map fun n => if n.isValidChar then Char.ofNat n else Char.ofNat 0xFFFD)

structure WebhookRequest where
  headers : List (String × PyStr)
  body : PyStr

def presentedToken (tokenHeader : String) (request : WebhookRequest) : Option String :=
  (request.headers.lookup tokenHeader).bind PyStr.encode

structure TokenMap where
  entries : List (String × String)
  nonempty : entries ≠ []
  identities : (entries.map Prod.fst).Nodup
  tokens : (entries.map Prod.snd).Nodup

structure WebhookAdapterConfig where
  channelType : String := "webhook"
  tokenHeader : String := "x-airlock-token"

section Webhook
variable (folding : Folding) (i : Interpreter) (modelValidate : PyValue → Except ChannelError Normalized)
  (config : WebhookAdapterConfig) (tokens : TokenMap)

def matchingIdentities (request : WebhookRequest) : List String :=
  match presentedToken config.tokenHeader request with
  | none => []
  | some presented => (tokens.entries.filter fun entry => entry.2 == presented).map Prod.fst

def webhookExtract (request : WebhookRequest) : Except ChannelError PyStr :=
  match matchingIdentities config tokens request with
  | [identity] => .ok (.ofString identity)
  | _ => .error (.refused "the presented token names no single identity")

def webhookNormalize (request : WebhookRequest) : Except ChannelError Normalized :=
  match PyValue.loads i request.body with
  | none => .error (.refused "body is not JSON")
  | some data => do
    match ← modelValidate data with
    | .unwritable => return .unwritable
    | .envelope e =>
      refuseIf (e.sender.channelType ≠ config.channelType) (.refused "sender.channel_type does not match adapter channel_type")
      match (canonicalIdentity folding (.ofString e.sender.channelIdentity)).encode with
      | some canonical => return .envelope (e.withSender { e.sender with channelIdentity := canonical })
      | none => .error .unicodeEncode

-- `modelValidate` stands for pydantic's reading of the parsed body.
def webhookAdapter : InboundAdapter WebhookRequest where
  channelType := config.channelType
  credentialPerSender := true
  verifyToken request := (matchingIdentities config tokens request).length == 1
  extractIdentity := webhookExtract config tokens
  normalize := webhookNormalize folding i modelValidate config

end Webhook

structure OwnerAdapterConfig where
  channelType : String := "owner"
  tokenHeader : String := "x-airlock-token"

section Owner
variable (folding : Folding) (i : Interpreter) (config : OwnerAdapterConfig) (token : String) (routing : List (String × String))
  (zone : String)

def required (value : Option PyValue) (field : String) : Except ChannelError PyStr :=
  match value.bind PyValue.str? with
  | some s => .ok s
  | none => .error (.validation [field])

def encoded (s : PyStr) (field : String) : Except ChannelError String :=
  match s.encode with
  | some text => .ok text
  | none => .error (.validation [field])

def ownerExtract (request : WebhookRequest) : Except ChannelError PyStr := do
  let identity ← required (((PyValue.loads i request.body).bind (PyValue.get? "sender")).bind (PyValue.get? "channel_identity"))
    "channel_identity"
  return canonicalIdentity folding identity

def ownerPayload (addr : PyStr) (tokens : List PyStr) (text : PyStr) : Except ChannelError (List (String × PyStr)) :=
  if addr = .ofString "/approve" then
    match tokens with
    | [_,intentId,decision] =>
      if decision = .ofString "yes" ∨ decision = .ofString "no" then
        .ok [("kind",.ofString "approval"),("intent_id",intentId),("decision",decision)]
      else .error (.refused "malformed approval command")
    | _ => .error (.refused "malformed approval command")
  else if addr = .ofString "/flag" then
    match tokens with
    | [_,intentId] => .ok [("kind",.ofString "flag"),("intent_id",intentId)]
    | _ => .error (.refused "malformed flag command")
  else .ok [("kind",.ofString "command"),("text",text)]

def routed (addr : PyStr) : PyStr :=
  match addr.encode.bind fun name => routing.lookup name with
  | some principal => .ofString principal
  | none => addr

def ownerNormalize (request : WebhookRequest) : Except ChannelError Normalized :=
  match PyValue.loads i request.body with
  | none => .error (.refused "body is not JSON")
  | some data => do
    let sender := data.get? "sender"
    let channelType ← required (sender.bind (PyValue.get? "channel_type")) "channel_type"
    refuseIf (channelType ≠ .ofString config.channelType) (.refused "sender.channel_type does not match adapter channel_type")
    let text ← required (data.get? "text") "text"
    let tokens := PyStr.split text
    match tokens with
    | [] => .error (.refused "owner command carries no address token")
    | addr :: _ => do
      let payload ← ownerPayload addr tokens text
      let raw ← required (sender.bind (PyValue.get? "channel_identity")) "channel_identity"
      let canonical ← encoded (canonicalIdentity folding raw) "channel_identity"
      let ts ← required (data.get? "ts") "ts"
      let ts ← encoded ts "ts"
      let seed ← ProvenanceEntry.make config.channelType ("owner:" ++ canonical) [] .trusted ts
      let eventId ← required (data.get? "event_id") "event_id"
      let eventId ← encoded eventId "event_id"
      let principal ← encoded (routed routing addr) "principal"
      let expiry ← required (data.get? "expiry") "expiry"
      let expiry ← encoded expiry "expiry"
      let e ← Draft.validated {
        eventId, principal, audience := zone
        sender := { channelType := config.channelType, channelIdentity := canonical }
        payload := payload.map fun (name,value) => (name,.str (PyStr.legible value))
        provenance := [seed], ts, expiry }
      if payload.all fun (_,value) => value.encode.isSome then return .envelope e else return .unwritable

def ownerAdapter : InboundAdapter WebhookRequest where
  channelType := config.channelType
  originatesEnvelope := true
  verifyToken request := presentedToken config.tokenHeader request == some token
  extractIdentity := ownerExtract folding i
  normalize := ownerNormalize folding i config routing zone

end Owner

theorem webhookExtract_encodes {config : WebhookAdapterConfig} {tokens : TokenMap} {request : WebhookRequest} {identity : PyStr}
    (h : webhookExtract config tokens request = .ok identity) : ∃ text, identity.encode = some text := by
  unfold webhookExtract at h
  split at h
  · rename_i name _
    cases h
    exact ⟨name,PyStr.encode_ofString name⟩
  · cases h

namespace OwnerDesk

def asciiFolding : Folding where
  fold n := if 65 ≤ n ∧ n ≤ 90 then [n + 32] else [n]
  text n hn m hm := by
    split at hm
    · rename_i hupper
      obtain rfl := List.mem_singleton.mp hm
      exact .inl (by omega)
    · obtain rfl := List.mem_singleton.mp hm
      exact hn
  surrogate n hn := by
    rw [if_neg]
    rintro ⟨_,hupper⟩
    exact hn (.inl (by omega))

def interpreter : Interpreter := ⟨1000,fun _ => true⟩

def zeroDigest : String := "sha256:0000000000000000000000000000000000000000000000000000000000000000"

theorem zeroDigest_format : isSha256Digest zeroDigest = true := by decide

def hasher : Hasher := ⟨fun _ => zeroDigest,fun _ => zeroDigest_format⟩

def trustMap : ChannelTrustMap := ⟨[⟨"owner","alice","desk",.owner⟩],List.nodup_singleton _⟩

def noon : Instant := 1772582400000000

theorem noon_dated : Calendar.Representable noon := by decide

def airlock : Airlock WebhookRequest where
  hasher
  parser := ⟨fun _ => true,fun _ => true⟩
  adapter := ownerAdapter asciiFolding interpreter {} "hunter2" [("/desk","desk")] "zone-a"
  trustMap
  screens := false
  verifies := false
  records := false
  now := noon
  dated := noon_dated
  zone := "zone-a"
  clockSkew := 0

def requestOf (pieces : List String) : WebhookRequest := ⟨[("x-airlock-token",.ofString "hunter2")],pieces.flatMap PyStr.ofString⟩

def lonely : WebhookRequest := requestOf ["\x7b\"sender\":","\x7b\"channel_identity\":","\"\\ud800\"","\x7d\x7d"]

def command : WebhookRequest := requestOf
  ["\x7b\"sender\":\x7b\"channel_type\":","\"owner\",\"channel_identity\":","\" Alice\"\x7d,\"text\":","\"/desk buy\",\"event_id\":",
    "\"ev-1\",\"ts\":","\"2026-03-04T00:00:00+00:00\"",",\"expiry\":","\"2026-03-05T00:00:00+00:00\"","\x7d"]

theorem lonely_identity : airlock.adapter.extractIdentity lonely = .ok [55296] := by decide +kernel

theorem command_identity : airlock.adapter.extractIdentity command = .ok (PyStr.ofString "alice") := by decide +kernel

end OwnerDesk

end SafeAgents.Channels
