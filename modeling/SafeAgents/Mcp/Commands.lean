import SafeAgents.Mcp.AdmissionStore

namespace SafeAgents.Mcp

open Calendar Checked Grants Json Interleaving

inductive AdmissionOp where
  | print (line : String)
  | now
  | newId
  | getProposal (serverId toolName proposalId : String)
  | listPending (serverId toolName : String)
  | getTool (serverId toolName : String)
  | putProposal (p : McpAdmissionProposal)
  | consumeProposal (serverId toolName proposalId : String) (newStatus : ProposalStatus)
  | admitToolWithRecord (record : McpAdmissionRecord) (row : ToolRow) (signature : Json) (expected : ToolReadResult)

namespace AdmissionOp

abbrev Ret : AdmissionOp → Type
  | .print _ => Unit
  | .now => Instant
  | .newId => String
  | .getProposal _ _ _ => Option (McpAdmissionProposal × ProposalStatus)
  | .listPending _ _ => List (McpAdmissionProposal × ProposalStatus)
  | .getTool _ _ => ToolReadResult
  | .putProposal _ => Unit
  | .consumeProposal _ _ _ _ => Unit
  | .admitToolWithRecord _ _ _ _ => Unit

-- The clock's reading and the fresh id come from outside.
abbrev Input : AdmissionOp → Type
  | .now => Instant
  | .newId => String
  | _ => Unit

end AdmissionOp

abbrev Cmd := Prog AdmissionOp AdmissionOp.Ret CeremonyError

def ProposalError.text : ProposalError → String
  | .alreadyExists text => text
  | .consumed text => text
  | .integrity text => text
  | .value text => text
  | .decode => "1 validation error for McpAdmissionProposal"

def CeremonyError.text : CeremonyError → String
  | .proposal e => ProposalError.text e
  | .quarantinedRow text => text
  | .recordExists text => text
  | .rowConflict text => text
  | .validation => "validation error"
  | .render _ => "rendering error"
  | .clock _ => "clock error"

section Device
variable (hmac : String → String) (backend : RecordBackend)

def committed {α : Type} (s : AdmissionStore) (r : Except CeremonyError AdmissionStore) (a : α) :
    Except CeremonyError α × AdmissionStore :=
  match r with
  | .ok s' => (.ok a,s')
  | .error e => (.error e,s)

def performAdmission : (o : AdmissionOp) → o.Input → AdmissionStore → Except CeremonyError o.Ret × AdmissionStore
  | .print _, _, s => (.ok (),s)
  | .now, t, s => (.ok t,s)
  | .newId, id, s => (.ok id,s)
  | .getProposal serverId toolName proposalId, _, s =>
    ((getProposal hmac backend s.proposals.get? serverId toolName proposalId).mapError .proposal,s)
  | .listPending serverId toolName, _, s => (listPending hmac backend s.proposals serverId toolName,s)
  | .getTool serverId toolName, _, s => (getTool hmac backend s serverId toolName,s)
  | .putProposal p, _, s =>
    committed s (((putProposal hmac backend s.proposals.get? p).mapError .proposal).map fun _ =>
      { s with proposals :=
          s.proposals.set (admissionKey backend p.toolDef.serverId p.toolDef.toolName p.proposalId) (admissionItem hmac p) }) ()
  | .consumeProposal serverId toolName proposalId newStatus, _, s =>
    committed s (((consumeProposal backend s.proposals.get? serverId toolName proposalId newStatus).mapError .proposal).map
      fun table =>
        { s with proposals :=
            match table (admissionKey backend serverId toolName proposalId) with
            | some item => s.proposals.set (admissionKey backend serverId toolName proposalId) item
            | none => s.proposals }) ()
  | .admitToolWithRecord record row signature expected, _, s =>
    committed s (admitToolWithRecord hmac backend s record row signature expected) ()

def admissionDevice : Device AdmissionOp AdmissionOp.Ret CeremonyError AdmissionStore where
  Input := AdmissionOp.Input
  perform := performAdmission hmac backend

end Device

def call (o : AdmissionOp) : Cmd o.Ret := Prog.call o

def print (line : String) : Cmd Unit := call (.print line)

def printAll : List String → Cmd Unit
  | [] => pure ()
  | line :: rest => do
    print line
    printAll rest

def attempted {α : Type} (p : Cmd α) : Cmd (Except CeremonyError α) := p.attempt .ret

def refused (line : String) (code : Nat) : Cmd Nat := do
  print ("REFUSED: " ++ line)
  return code

def utcNow (now : Option Instant) : Cmd Instant :=
  match now with
  | some t => pure t
  | none => call .now

def activeRowFromProposal (p : McpAdmissionProposal) (caller ts : String) : ToolRow where
  toolDef := p.toolDef
  defHash := p.defHash
  status := .active
  admittedBy := caller
  admittedAt := ts

def admissionRecord (p : McpAdmissionProposal) (caller ts : String) : McpAdmissionRecord where
  recordType := p.kind
  serverId := p.toolDef.serverId
  toolName := p.toolDef.toolName
  defHash := p.defHash
  proposedBy := p.proposedBy
  ratifiedBy := caller
  ts := ts
  attestation := attestationFor caller

def signerMissing : String :=
  "issuer signing key not configured — an admission record mints callability, so it must be issuer-signed (M8). Configure " ++
    "ISSUER_SIGNING_KEY_SECRET_ARN/ISSUER_SIGNING_KEY_ID and a zone (--zone or ISSUER_SIGNING_ZONE). Nothing was written."

def ceremonyKinds : List String := ["admission","re-vet"]

def soloAttestationNotice : String :=
  "ATTESTATION: solo-local — ONE operator held both ceremony credentials (two local roles, no IAM between them); no second " ++
    "party reviewed this. The signed record says so."

def isWriteRefusal : CeremonyError → Bool
  | .recordExists _ => true
  | .quarantinedRow _ => true
  | .rowConflict _ => true
  | _ => false

section Commands
variable (backend : RecordBackend) (printable : Char → Bool) (sha256 : String → String)

-- DynamoDB's own look at the row is a read of its own before the transaction.
def writeAdmission (record : McpAdmissionRecord) (row : ToolRow) (signature : Json) (expected : ToolReadResult) : Cmd Unit := do
  if backend = .dynamo then
    let current ← call (.getTool row.toolDef.serverId row.toolDef.toolName)
    Prog.finish (refuseQuarantined row current)
  call (.admitToolWithRecord record row signature expected)

structure CapturedTool where
  toolDef : ToolDefinition
  defHash : String

def CapturedTool.entry (t : CapturedTool) : McpSnapshotEntry where
  toolDef := t.toolDef.toMcpToolDef
  defHash := t.defHash

structure McpServerSnapshot where
  serverId : String
  transport : Transport
  source : String
  capturedAt : String
  entries : List CapturedTool

def resolveToolDefFromSnapshot (path serverId toolName : String) (snapshot : McpServerSnapshot) :
    Except (String × Nat) ToolDefinition :=
  if snapshot.serverId ≠ serverId then
    .error ("--from-snapshot " ++ path ++ " was captured for server_id " ++ pyRepr snapshot.serverId ++
      " but the ceremony targets " ++ pyRepr serverId ++
      " — a mismatched snapshot artifact is refused, never silently reinterpreted",2)
  else
    match snapshot.entries.find? fun e => e.toolDef.toolName == toolName with
    | none =>
      .error ("--from-snapshot " ++ path ++ " has no tool " ++ pyRepr toolName ++ " for server " ++ pyRepr serverId ++
        " (captured: [" ++
        ", ".intercalate ((snapshot.entries.map fun e => e.toolDef.toolName).mergeSort.map pyRepr) ++ "])",2)
    | some entry =>
      if computeToolDefHash sha256 entry.toolDef.toMcpToolDef ≠ entry.defHash then
        .error ("--from-snapshot " ++ path ++ " entry for " ++ serverId ++ "/" ++ toolName ++
          " fails its own integrity check (recorded def_hash=" ++ entry.defHash ++ " recomputed=" ++
          computeToolDefHash sha256 entry.toolDef.toMcpToolDef ++ ") — a hand-edited or corrupted snapshot, OR a snapshot captured under an " ++
          "older signed-set basis (#223 widened it); either way, re-snapshot the live server — the whole point of " ++
          "--from-snapshot is that nobody hand-writes definitions",2)
      else .ok entry.toolDef

inductive DefinitionSource where
  | toolDefJson (path : String) (read : Except String ToolDefinition)
  | fromSnapshot (path : String) (read : Except String McpServerSnapshot)

structure ProposeArgs where
  serverId : String
  toolName : String
  kind : String
  ttlMicros : Int
  source : DefinitionSource

def ProposeArgs.definition (args : ProposeArgs) : Except (String × Nat) ToolDefinition :=
  match args.source with
  | .toolDefJson path (.error exc) => .error ("--tool-def-json " ++ path ++ " is unusable: " ++ exc,1)
  | .toolDefJson _ (.ok d) => .ok d
  | .fromSnapshot path (.error exc) => .error ("--from-snapshot " ++ path ++ " is unusable: " ++ exc,2)
  | .fromSnapshot path (.ok snapshot) => resolveToolDefFromSnapshot sha256 path args.serverId args.toolName snapshot

def renderProposePreview (toolName : String) (stored : Option ToolRow) (d : McpToolDef) : Except PyError String := do
  let result ← renderToolDiff printable toolName stored (some { toolDef := d, defHash := computeToolDefHash sha256 d }) .stdio none
  let verbatim := if stored.isSome then [] else
    ["  --- proposed definition (verbatim; no prior admission to compare against) ---",
      "  input_schema: " ++ pyReprJson printable (.obj d.inputSchema),"  description:",d.description]
  return "\n".intercalate (result.rendered printable :: verbatim)

def rendering {α : Type} (r : Except PyError α) : Cmd α := Prog.finish (r.mapError .render)

def judging (r : Except Exn Bool) : Cmd Bool := Prog.finish (r.mapError .clock)

def admitProposeCommand (args : ProposeArgs) (caller : String) (now : Option Instant) : Cmd Nat :=
  if !ceremonyKinds.contains args.kind then refused ("--kind must be one of ['admission', 're-vet'], got " ++ pyRepr args.kind) 1
  else match args.definition sha256 with
  | .error (line,code) => refused line code
  | .ok d =>
    if d.serverId ≠ args.serverId ∨ d.toolName ≠ args.toolName then
      refused ("the tool definition names " ++ d.serverId ++ "/" ++ d.toolName ++ " but the ceremony targets " ++ args.serverId ++
        "/" ++ args.toolName ++ " — admit the definition the server actually advertises for this coordinate") 1
    else do
      let existing ← call (.getTool args.serverId args.toolName)
      print "--- review: admitted (if any) vs. proposed ---"
      print (← rendering (renderProposePreview printable sha256 args.toolName existing.tool d.toMcpToolDef))
      print "--- end review ---"
      let proposalId ← call .newId
      let expiresAt := isoformat ((← utcNow now) + args.ttlMicros)
      let proposal : McpAdmissionProposal :=
        { proposalId, expiresAt, toolDef := d.toMcpToolDef, defHash := computeToolDefHash sha256 d.toMcpToolDef, kind := args.kind
          proposedBy := caller }
      call (.putProposal proposal)
      print ("proposal stored: proposal_id=" ++ proposalId ++ " kind=" ++ args.kind ++ " " ++ args.serverId ++ "/" ++
        args.toolName ++ " def_hash=" ++ proposal.defHash ++ " expires_at=" ++ expiresAt)
      print ("proposedBy=" ++ caller)
      return 0

def ratifyLoaded (signer : RecordSigner) (serverId toolName proposalId caller : String) (p : McpAdmissionProposal)
    (effectiveNow : Instant) : Cmd Nat := do
  let existing ← call (.getTool serverId toolName)
  if existing.quarantined then
    refused ("the existing row for " ++ serverId ++ "/" ++ toolName ++ " is HMAC-quarantined (" ++
      existing.quarantineReason.getD "None" ++
      "); an HMAC-tamper quarantine is never re-admitted — root-cause the tamper first (M6).") 1
  else
    match ← attempted (call (.consumeProposal serverId toolName proposalId .ratified)) with
    | .error (.proposal (.consumed text)) => refused text 1
    | .error e => throw e
    | .ok () =>
      let ts := isoformat effectiveNow
      let record := admissionRecord p caller ts
      match ← attempted (writeAdmission backend record (activeRowFromProposal p caller ts) (signAdmissionRecord signer record)
        existing) with
      | .error e => if isWriteRefusal e then refused e.text 1 else throw e
      | .ok () =>
        print ("ADMITTED: " ++ p.kind ++ " " ++ serverId ++ "/" ++ toolName ++ " -> ACTIVE")
        print ("record: recordType=" ++ record.recordType ++ " def_hash=" ++ record.defHash ++ " ts=" ++ ts ++ " proposedBy=" ++
          record.proposedBy ++ " ratifiedBy=" ++ record.ratifiedBy ++ " signed=yes (issuer DSSE)")
        if isLocalIdentity caller then print soloAttestationNotice
        return 0

def admitRatifyCommand (signer : Option RecordSigner) (serverId toolName proposalId caller : String) (now : Option Instant)
    (skew : Int) : Cmd Nat :=
  match signer with
  | none => refused signerMissing 1
  | some signer => do
    match ← attempted (call (.getProposal serverId toolName proposalId)) with
    | .error (.proposal (.integrity text)) => refused text 1
    | .error e => throw e
    | .ok none => refused ("no admission proposal " ++ proposalId ++ " for " ++ serverId ++ "/" ++ toolName) 1
    | .ok (some (p,status)) =>
      if status ≠ .pending then
        refused ("proposal " ++ proposalId ++ " is " ++ pyRepr status.text ++
          ", not pending — a consumed proposal can never be ratified") 1
      else do
        let effectiveNow ← utcNow now
        if ← judging (proposalExpired p.expiresAt effectiveNow skew) then
          refused ("proposal " ++ proposalId ++ " expired at " ++ p.expiresAt ++
            " — re-propose against the current advertised definition") 1
        else if isSameOperator p.proposedBy caller then
          refused ("maker == checker — the same ceremony identity (" ++ caller ++ ") proposed and is ratifying this admission. " ++
            "Admission requires two distinct identities (M7); self-admission is refused.") 1
        else ratifyLoaded backend signer serverId toolName proposalId caller p effectiveNow

def admitRejectCommand (serverId toolName proposalId caller : String) : Cmd Nat := do
  match ← attempted (call (.getProposal serverId toolName proposalId)) with
  | .error (.proposal (.integrity text)) => refused text 1
  | .error e => throw e
  | .ok none => refused ("no admission proposal " ++ proposalId ++ " for " ++ serverId ++ "/" ++ toolName) 1
  | .ok (some (_,status)) =>
    if status ≠ .pending then
      refused ("proposal " ++ proposalId ++ " is " ++ pyRepr status.text ++ ", not pending — it was already consumed") 1
    else do
      match ← attempted (call (.consumeProposal serverId toolName proposalId .rejected)) with
      | .error (.proposal (.consumed text)) => refused text 1
      | .error e => throw e
      | .ok () =>
        print ("REJECTED: proposal " ++ proposalId ++ " for " ++ serverId ++ "/" ++ toolName ++ " rejectedBy=" ++ caller ++
          " — a rejected proposal can never be ratified")
        return 0

def DriftKind.value : DriftKind → String
  | .new => "NEW"
  | .withdrawn => "WITHDRAWN"
  | .unchanged => "UNCHANGED"
  | .drift => "DRIFT"

def renderDiffSummary (results : List ToolDiffResult) : String :=
  "diff summary: " ++ toString results.length ++ " tool(s) — " ++
    " ".intercalate ([DriftKind.new,.withdrawn,.unchanged,.drift].map fun kind =>
      kind.value ++ "=" ++ toString (results.countP fun r => r.kind == kind))

def reprNames (names : List String) : String := "[" ++ ", ".intercalate (names.map pyRepr) ++ "]"

def sortedNames (names : List String) : List String := names.dedup.mergeSort fun a b => decide (a ≤ b)

structure DeclaredServer extends McpServerDecl where
  transport : Transport := .stdio

def DeclaredServer.names (decl : DeclaredServer) : List String := sortedNames (decl.tools.map McpToolDecl.toolName)

structure BulkProposeArgs where
  loaded : Except String (McpServerSnapshot × DeclaredServer × Int)
  maxSnapshotAgeMinutes : Int
  ttlMicros : Int

structure Actionable where
  name : String
  entry : CapturedTool
  kind : String

structure Classified where
  results : List ToolDiffResult := []
  actionable : List Actionable := []
  withdrawn : List String := []
  undeclared : List String := []
  hashFailures : List String := []

def classifyCoordinate (snapshot : McpServerSnapshot) (decl : DeclaredServer) (found : Classified) (name : String) :
    Cmd Classified := do
  let stored ← call (.getTool snapshot.serverId name)
  let live := snapshot.entries.reverse.find? fun e => e.toolDef.toolName == name
  match stored.tool, live with
  | none, none => return found
  | tool, live =>
    let result ← rendering (renderToolDiff printable name tool (live.map CapturedTool.entry) snapshot.transport (some snapshot.source))
    let found := { found with results := found.results ++ [result] }
    match result.kind, live with
    | .withdrawn, _ => return { found with withdrawn := found.withdrawn ++ [name] }
    | .unchanged, _ => return found
    | _, none => return found
    | kind, some entry =>
      if !decl.names.contains name then return { found with undeclared := found.undeclared ++ [name] }
      else if computeToolDefHash sha256 entry.toolDef.toMcpToolDef ≠ entry.defHash then
        return { found with hashFailures := found.hashFailures ++ ["  " ++ name ++ ": recorded def_hash=" ++ entry.defHash ++
          " recomputed=" ++ computeToolDefHash sha256 entry.toolDef.toMcpToolDef] }
      else
        return { found with
          actionable := found.actionable ++ [{ name, entry, kind := if kind = .drift then "re-vet" else "admission" }] }

def classifyAll (snapshot : McpServerSnapshot) (decl : DeclaredServer) : List String → Classified → Cmd Classified
  | [], found => pure found
  | name :: rest, found => do
    let found ← classifyCoordinate printable sha256 snapshot decl found name
    classifyAll snapshot decl rest found

def proposeAll (serverId caller expiresAt : String) : List Actionable → List String → Cmd Nat
  | [], written => do
    print ("proposedBy=" ++ caller)
    print (toString written.length ++ " proposal(s) are now PENDING in the store. `bulk-ratify` discovers them itself from the " ++
      "image-baked manifest — no hand-off file is written, and none is needed.")
    return 0
  | a :: rest, written => do
    let proposalId ← call .newId
    match ← attempted (call (.putProposal { proposalId, expiresAt, toolDef := a.entry.toolDef.toMcpToolDef, defHash := a.entry.defHash
                                            kind := a.kind, proposedBy := caller })) with
    | .error (.proposal (.integrity text)) =>
      print ("REFUSED: " ++ text)
      print ("  proposed before the refusal (" ++ toString written.length ++ "): " ++ reprNames written)
      return 1
    | .error e =>
      let notWritten := a.name :: rest.map Actionable.name
      print ("ERROR: storing the proposal for " ++ a.name ++ " failed: " ++ e.text)
      print ("  proposed (" ++ toString written.length ++ "): " ++ reprNames written)
      print ("  NOT proposed (" ++ toString notWritten.length ++ "): " ++ reprNames notWritten)
      print ("  No rollback was attempted and none is needed: an unratified proposal is INERT (it admits nothing on its own) " ++
        "and expires at " ++ expiresAt ++ ". Re-run to propose the remainder.")
      return 1
    | .ok () =>
      print ("proposal stored: proposal_id=" ++ proposalId ++ " kind=" ++ a.kind ++ " " ++ serverId ++ "/" ++ a.name ++
        " def_hash=" ++ a.entry.defHash ++ " expires_at=" ++ expiresAt)
      proposeAll serverId caller expiresAt rest (written ++ [a.name])

def hashFailureLine (count : Nat) : String :=
  toString count ++ " snapshot entr(ies) fail their own integrity check — a hand-edited or corrupted snapshot, or one captured " ++
    "under an older signed-set basis (#223 widened it; re-snapshot the live server). Either defeats the entire point of " ++
    "proposing from one. NOTHING was written (the whole run is refused, not just the bad coordinates):"

def withdrawnLine (withdrawn : List String) : String :=
  "NOT PROPOSABLE (" ++ toString withdrawn.length ++ "): " ++ reprNames (withdrawn.mergeSort fun a b => decide (a ≤ b)) ++
    " are WITHDRAWN — admitted but no longer advertised, so there is no live definition to bind a def_hash to. A dead tool is " ++
    "already uncallable; retiring its row is not this ceremony's job."

def undeclaredLine (undeclared : List String) : String :=
  "NOT PROPOSABLE (" ++ toString undeclared.length ++ "): live but outside the image-baked declared namespace — admission " ++
    "requires the Layer-1 manifest declaration first (M4); declare the tool, rebuild the image, then propose. An undeclared tool " ++
    "is already uncallable."

def staleSnapshot (ageMinutes : ℚ → String) (evaluatedAt judgedAt capturedAt skew maxMinutes : Int) : String :=
  "snapshot is " ++ ageMinutes ((evaluatedAt - capturedAt : Int) / 60000000) ++ " minutes old" ++
    (if skew = 0 then "" else " (" ++ ageMinutes ((judgedAt - capturedAt : Int) / 60000000) ++ " with the manifest's " ++
      toString (skew / microsPerSecond) ++ "s clock_skew_seconds bound)") ++
    ", exceeding --max-snapshot-age-minutes " ++ toString maxMinutes ++
    " — re-run `snapshot` and propose against what the server advertises NOW. Nothing was written."

-- `ageMinutes` is the float's `.1f`.
def bulkProposeCommand (ageMinutes : ℚ → String) (args : BulkProposeArgs) (caller : String) (now : Option Instant) : Cmd Nat :=
  match args.loaded with
  | .error refusal => refused refusal 2
  | .ok (snapshot,decl,skew) =>
    match (fromisoformat snapshot.capturedAt).bind fun parsed => parsed.offset.map fun offset => parsed.clock - offset with
    | none =>
      refused ("snapshot captured_at " ++ pyRepr snapshot.capturedAt ++
        " is not a timezone-aware ISO-8601 timestamp — its age cannot be bounded") 2
    | some capturedAt => do
      let evaluatedAt ← utcNow now
      let judgedAt ← Prog.finish ((endJudgedAt evaluatedAt skew).mapError .clock)
      if args.maxSnapshotAgeMinutes * 60000000 < judgedAt - capturedAt then
        refused (staleSnapshot ageMinutes evaluatedAt judgedAt capturedAt skew args.maxSnapshotAgeMinutes) 2
      else do
        let names := sortedNames (decl.names ++ snapshot.entries.map fun e => e.toolDef.toolName)
        let found ← classifyAll printable sha256 snapshot decl names {}
        if found.hashFailures ≠ [] then
          print ("REFUSED: " ++ hashFailureLine found.hashFailures.length)
          printAll found.hashFailures
          return 2
        else
          printAll (found.results.flatMap fun r => [r.rendered printable,""])
          print (renderDiffSummary found.results)
          if found.withdrawn ≠ [] then print (withdrawnLine found.withdrawn)
          if found.undeclared ≠ [] then print (undeclaredLine found.undeclared)
          if found.actionable.isEmpty then print "nothing actionable: no DRIFT or NEW coordinate to propose."
          let expiresAt := isoformat ((← utcNow now) + args.ttlMicros)
          proposeAll snapshot.serverId caller expiresAt found.actionable []

structure RatifyCandidate where
  toolName : String
  proposal : McpAdmissionProposal
  existing : ToolReadResult
  diff : ToolDiffResult

def schemaMoved (c : RatifyCandidate) : Bool :=
  c.existing.tool.any fun row =>
    !pyEq (.obj row.toolDef.inputSchema) (.obj c.proposal.toolDef.inputSchema) ||
      !pyEqOption (row.toolDef.advertised "output_schema") (c.proposal.toolDef.advertised "output_schema")

def metadataMoved (c : RatifyCandidate) : List String :=
  match c.existing.tool with
  | none => []
  | some row =>
    verbatimMetadataFields.filter fun name => !pyEqOption (row.toolDef.advertised name) (c.proposal.toolDef.advertised name)

-- `c in bucket` compares every field; between two candidates of one run the name alone decides.
def inBucket (bucket : List RatifyCandidate) (c : RatifyCandidate) : Bool := bucket.any fun d => d.toolName == c.toolName

structure Buckets where
  steering : List RatifyCandidate
  contract : List RatifyCandidate
  metadata : List RatifyCandidate
  cosmetic : List RatifyCandidate

def bucketsOf (candidates : List RatifyCandidate) : Buckets :=
  let steering := candidates.filter fun c => c.diff.descriptionChanged
  let contract := candidates.filter fun c => !inBucket steering c && schemaMoved c
  let metadata := candidates.filter fun c => !inBucket steering c && !inBucket contract c && !(metadataMoved c).isEmpty
  let cosmetic := candidates.filter fun c => !inBucket steering c && !inBucket contract c && !inBucket metadata c
  { steering, contract, metadata, cosmetic }

def bucketLines (bucket : List RatifyCandidate) : List String :=
  if bucket.isEmpty then ["  (none)"] else bucket.map fun c => c.diff.rendered printable

def gateLines (b : Buckets) : List String :=
  ["=== 1. DESCRIPTION deltas — the model-facing injection vector ==="] ++ bucketLines printable b.steering ++
    ["","=== 2. SCHEMA deltas — contract changes (input_schema / output_schema) ==="] ++ bucketLines printable b.contract ++
    ["","=== 3. SIGNED METADATA deltas (title/icons/annotations/meta/execution) ==="] ++ bucketLines printable b.metadata ++
    ["","=== 4. Other coordinates (first admissions / re-hash churn): " ++ toString b.cosmetic.length ++ " === "]

inductive Examined where
  | nothing
  | wedged (line : String)
  | candidate (c : RatifyCandidate)

def examine (serverId name caller : String) (effectiveNow : Instant) (skew : Int)
    (pending : List (McpAdmissionProposal × ProposalStatus)) : Cmd Examined :=
  match pending with
  | [] => pure .nothing
  | [(p,_)] => do
    if ← judging (proposalExpired p.expiresAt effectiveNow skew) then
      return .wedged (name ++ ": proposal expired at " ++ p.expiresAt)
    else if isSameOperator p.proposedBy caller then
      return .wedged (name ++ ": maker == checker (" ++ caller ++ ") — self-admission is refused (M7)")
    else
      let existing ← call (.getTool serverId name)
      if existing.quarantined then
        return .wedged (name ++ ": the stored row is HMAC-quarantined (" ++ existing.quarantineReason.getD "None" ++
          ") — an HMAC-tamper quarantine is never re-admitted; root-cause the tamper first (M6)")
      else
        let diff ← rendering (renderToolDiff printable name existing.tool (some { toolDef := p.toolDef, defHash := p.defHash })
          .stdio none)
        return .candidate { toolName := name, proposal := p, existing, diff }
  | several =>
    pure (.wedged (name ++ ": " ++ toString several.length ++ " pending proposals (" ++
      reprNames ((several.map fun e => e.1.proposalId).mergeSort fun a b => decide (a ≤ b)) ++
      ") — which one the checker is ratifying is AMBIGUOUS, and guessing would ratify bytes nobody chose. Reject the extras " ++
      "(or let them expire), then re-run"))

-- None when a tampered proposal refuses the whole batch.
def gather (serverId caller : String) (effectiveNow : Instant) (skew : Int) :
    List String → List RatifyCandidate → List String → Cmd (Option (List RatifyCandidate × List String))
  | [], candidates, wedged => pure (some (candidates,wedged))
  | name :: rest, candidates, wedged => do
    match ← attempted (call (.listPending serverId name)) with
    | .error (.proposal (.integrity text)) =>
      print ("REFUSED: " ++ text)
      print ("  The whole batch is refused and NOTHING was written. Root-cause the tamper before ratifying any coordinate on " ++
        "this server.")
      return none
    | .error e => throw e
    | .ok pending =>
      match ← examine printable serverId name caller effectiveNow skew pending with
      | .nothing => gather serverId caller effectiveNow skew rest candidates wedged
      | .wedged line => gather serverId caller effectiveNow skew rest candidates (wedged ++ [line])
      | .candidate c => gather serverId caller effectiveNow skew rest (candidates ++ [c]) wedged

def unacknowledged (name : String) : String :=
  name ++ ": description changed but was not acknowledged — pass --acknowledge-description-change " ++ name ++
    " after reading the verbatim delta above. --yes alone never ratifies a change to the model-facing injection vector."

-- None when the coordinate was ratified, else the line it is refused with.
def ratifyCandidate (signer : RecordSigner) (serverId caller : String) (now : Option Instant) (acknowledged : List String)
    (c : RatifyCandidate) : Cmd (Option String) := do
  if c.diff.descriptionChanged && !acknowledged.contains c.toolName then return some (unacknowledged c.toolName)
  else
    let existing ← call (.getTool serverId c.toolName)
    match ← attempted (call (.consumeProposal serverId c.toolName c.proposal.proposalId .ratified)) with
    | .error (.proposal (.consumed text)) => return some (c.toolName ++ ": " ++ text)
    | .error e => throw e
    | .ok () =>
      let ts := isoformat (← utcNow now)
      let record := admissionRecord c.proposal caller ts
      match ← attempted (writeAdmission backend record (activeRowFromProposal c.proposal caller ts)
        (signAdmissionRecord signer record) existing) with
      | .error e => if isWriteRefusal e then return some (c.toolName ++ ": " ++ e.text) else throw e
      | .ok () =>
        print ("ADMITTED: " ++ c.proposal.kind ++ " " ++ serverId ++ "/" ++ c.toolName ++ " -> ACTIVE (signed)")
        return none

def ratifyAll (signer : RecordSigner) (serverId caller : String) (now : Option Instant) (acknowledged : List String) :
    List RatifyCandidate → List String → List String → Cmd (List String × List String)
  | [], ratified, wedged => pure (ratified,wedged)
  | c :: rest, ratified, wedged => do
    match ← ratifyCandidate backend signer serverId caller now acknowledged c with
    | none => ratifyAll signer serverId caller now acknowledged rest (ratified ++ [c.toolName]) wedged
    | some line => ratifyAll signer serverId caller now acknowledged rest ratified (wedged ++ [line])

structure BulkRatifyArgs where
  serverId : String
  manifestPath : String
  manifest : Except String (List (String × DeclaredServer) × Int)
  yes : Bool
  acknowledgeDescriptionChange : List String

def bulkRatifyCommand (args : BulkRatifyArgs) (signer : Option RecordSigner) (caller : String) (now : Option Instant) : Cmd Nat :=
  match signer with
  | none => refused signerMissing 1
  | some signer =>
    match args.manifest with
    | .error text => refused ("--manifest " ++ args.manifestPath ++ " is unusable: " ++ text) 2
    | .ok (servers,skew) =>
      match servers.lookup args.serverId with
      | none =>
        refused ("manifest " ++ args.manifestPath ++ " declares no mcp server " ++ pyRepr args.serverId ++ " (declared: " ++
          reprNames (sortedNames (servers.map Prod.fst)) ++ ")") 2
      | some decl => do
        let effectiveNow ← utcNow now
        match ← gather printable args.serverId caller effectiveNow skew decl.names [] [] with
        | none => return 1
        | some (candidates,wedged) =>
          printAll (gateLines printable (bucketsOf candidates))
          if !args.yes then
            refused (toString candidates.length ++ " coordinate(s) are ready to ratify but --yes was not passed. Nothing was written.") 1
          else
            let (ratified,wedged) ←
              ratifyAll backend signer args.serverId caller now args.acknowledgeDescriptionChange candidates [] wedged
            print ""
            print ("bulk-ratify summary: ratified=" ++ toString ratified.length ++ " refused=" ++ toString wedged.length)
            printAll (ratified.map fun name => "  RATIFIED " ++ name)
            printAll (wedged.map fun line => "  REFUSED  " ++ line)
            print ("ratifiedBy=" ++ caller)
            return if wedged.isEmpty && !candidates.isEmpty then 0 else 1

end Commands

end SafeAgents.Mcp
