import SafeAgents.Runtime.Types

namespace SafeAgents

open Interleaving

namespace Runtime

def inheritanceUnreadableSource : String := "inheritance:unreadable"

def inheritedWithoutSource : String := "inheritance:unsourced"

def inheritRecord (principal : Principal) (turn : TurnContext) (record : InheritanceRecord) : TurnContext :=
  if record.target ≠ principal then turn
  else
    let sourced := record.taint.sources.foldl (fun turn source => turn.ingestSource source false) turn
    if record.taint.tainted && record.taint.sources.isEmpty then sourced.ingestSource inheritedWithoutSource false
    else sourced

-- An `Exception` is handed to the caller as `none`; a `BaseException` passes through.
def caught {α : Type} (p : Act α) : Act (Option α) :=
  tryCatch
    (do
      let a ← p
      return some a)
    fun e => if e.isException then return none else throw e

def inheritanceTarget (decl : CausesContext) (causing : Principal) : Principal :=
  match decl.target with
  | .self => causing
  | .child principal => principal

def resolveNotAfter (decl : CausesContext) (issuedAt : Instant) (subGrant : Option SubGrant) : Except Exn Instant :=
  let horizonEnd := issuedAt + decl.horizonSeconds * microsPerSecond
  match decl.target, subGrant with
  | .child principal, some subGrant =>
    if subGrant.principal ≠ principal then
      .error (.exception
        ("sub-grant " ++ pyRepr subGrant.id ++ " is held by " ++ subGrant.principal.key ++
          ", not the declared target " ++ principal.key ++ "; its expiry would bound the wrong context"))
    else .ok (max horizonEnd subGrant.expiry)
  | _, _ => .ok horizonEnd

def recordTaint (entry : ToolOp) (taint : TaintFlag) (trustedReadSources : List String) : TaintFlag :=
  let source := connectorSourceId entry.tool entry.op
  if !entry.externalRead || trustedReadSources.contains source then taint
  else
    { tainted := true
      sources := if taint.sources.contains source then taint.sources else taint.sources ++ [source] }

namespace BrokerRuntime
variable (R : BrokerRuntime)

def ingestInherited (turn : TurnContext) : Act TurnContext := do
  let now ← env .now
  match ← caught (env (.liveRecords R.principal (now - R.clockSkew))) with
  | none => return turn.ingestSource inheritanceUnreadableSource false
  | some records => return records.foldl (inheritRecord R.principal) turn

def mintTurn : Act TurnContext := do
  let id ← env .uuid
  let turn : TurnContext := { turnId := "turn:" ++ id }
  if R.inherits then R.ingestInherited turn else return turn

def sessionTurn : Act TurnRef := do
  match ← process (.currentTurn R.instanceId) with
  | some ref => return ref
  | none =>
    let turn ← R.mintTurn
    process (.installTurn R.instanceId turn)
    return ⟨R.instanceId,turn.turnId⟩

def newTurn : Act Unit := process (.newTurn R.instanceId)

def turnFor : Option TurnRef → Act TurnRef
  | some ref => return ref
  | none => R.sessionTurn

def ingestSource (ref : TurnRef) (source : String) : Act Unit := process (.ingest ref source (R.trustMap source))

def ingestSources (ref : TurnRef) : List String → Act Unit
  | [] => return ()
  | source :: sources => do
    R.ingestSource ref source
    ingestSources ref sources

def contextOf (ref : TurnRef) : Act TurnContext := do
  match ← process (.context ref) with
  | some turn => return turn
  | none => throw (.exception "no such turn context")

def targetSubGrant (decl : CausesContext) : Act (Option SubGrant) :=
  match decl.target with
  | .child target => if R.delegates then env (.subGrant target) else return none
  | .self => return none

def writeInheritanceRecord (entry : ToolOp) (decl : CausesContext) (call : BrokeredCall) (now : Instant) :
    Act Unit := do
  if R.inherits then
    let subGrant ← R.targetSubGrant decl
    let notAfter ← Prog.finish (resolveNotAfter decl now subGrant)
    let id ← env .uuid
    if notAfter ≤ now then
      throw (.exception "an inheritance record must be live when it is written")
    else
      env (.putInheritance {
        id
        target := inheritanceTarget decl call.principal
        causingPrincipal := call.principal
        causingTurnId := call.session.turnId
        taint := recordTaint entry call.taint R.trustedReadSources
        tool := call.tool
        op := entry.op
        issuedAt := now
        notAfter })
  else throw (.exception "no inheritance store is configured")

def effectiveOp (call : BrokeredCall) : Decision → String
  | .transform op _ => op
  | _ => call.op

def writeInheritanceIfDeclared (call : BrokeredCall) (effective : Decision) : Act Unit :=
  match R.optable.entry call.tool (effectiveOp call effective) with
  | none => return ()
  | some entry =>
    match entry.causesContext with
    | none => return ()
    | some decl => do
      let now ← env .now
      tryCatch (R.writeInheritanceRecord entry decl call now) fun e =>
        if e.isException then
          throw (.inheritanceWrite
            ("taint inheritance record for " ++ (inheritanceTarget decl call.principal).key ++
              " not written, so " ++ call.tool ++ "." ++ entry.op ++ " did not run: " ++ e.typeName ++ ": " ++ e.str))
        else throw e

end BrokerRuntime

end Runtime

end SafeAgents
