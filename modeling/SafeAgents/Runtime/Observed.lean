import SafeAgents.Enforcement.Types

namespace SafeAgents

namespace Runtime

def harnessTool : String := "harness-tool"

inductive ToolClass where
  | fileRead | fileWrite | fileEdit | shell | webFetch | webSearch | other
  deriving DecidableEq

namespace ToolClass

def text : ToolClass → String
  | .fileRead => "file-read"
  | .fileWrite => "file-write"
  | .fileEdit => "file-edit"
  | .shell => "shell"
  | .webFetch => "web-fetch"
  | .webSearch => "web-search"
  | .other => "other"

def all : List ToolClass := [.fileRead,.fileWrite,.fileEdit,.shell,.webFetch,.webSearch,.other]

def taints : ToolClass → Bool
  | .fileRead | .webFetch | .webSearch => true
  | _ => false

end ToolClass

inductive Locality where
  | project | home | outside | remote | unknown
  deriving DecidableEq

namespace Locality

def text : Locality → String
  | .project => "project"
  | .home => "home"
  | .outside => "outside"
  | .remote => "remote"
  | .unknown => "unknown"

def all : List Locality := [.project,.home,.outside,.remote,.unknown]

end Locality

def member {α : Type} (name : String) (text : α → String) (all : List α) (value : String) : Except Exn α :=
  match all.find? fun a => text a == value with
  | some a => .ok a
  | none =>
    .error (.exception
      (name ++ " must be one of: " ++ ", ".intercalate (all.map text) ++ "; got " ++ pyRepr value))

def coordinateOp (toolClass : ToolClass) (locality : Locality) : String := toolClass.text ++ "/" ++ locality.text

def parseCoordinateOp (op : String) : Except Exn (ToolClass × Locality) :=
  match op.splitOn "/" with
  | [toolClass,locality] => do
    let toolClass ← member "tool_class" ToolClass.text ToolClass.all toolClass
    let locality ← member "locality" Locality.text Locality.all locality
    return (toolClass,locality)
  | _ => .error (.exception ("a harness-tool op must be '<tool_class>/<locality>', got " ++ pyRepr op))

def isShortCode (s : String) : Bool :=
  match s.toList with
  | [] => false
  | c :: cs => c.isLower && cs.length ≤ 39 && cs.all fun d => d.isLower || d.isDigit || d == '_' || d == '-'

def isDigest (s : String) : Bool :=
  s.startsWith "sha256:" && s.length = 71 && (s.toList.drop 7).all fun d => d.isDigit || ('a' ≤ d && d ≤ 'f')

def code (name value : String) : Except Exn String :=
  if isShortCode value then .ok value
  else .error (.exception (name ++ " must be a short lowercase code, got " ++ pyRepr value))

def digest (name value : String) : Except Exn String :=
  if isDigest value then .ok value
  else .error (.exception (name ++ " must be 'sha256:' and 64 lowercase hex digits, got " ++ pyRepr value))

def optionalDigest (name : String) : Option String → Except Exn (Option String)
  | none => .ok none
  | some value => (digest name value).map some

def sourceId (harness : String) (toolClass : ToolClass) (locality : Locality) : String :=
  "harness:" ++ harness ++ "/" ++ coordinateOp toolClass locality

structure ObservedReport where
  mouth : String
  harness : String
  toolClass : String
  locality : String
  subjectDigest : String
  resultDigest : Option String := none
  callDigest : Option String := none

structure ObservedEvent where
  mouth : String
  harness : String
  toolClass : ToolClass
  locality : Locality
  subjectDigest : String
  resultDigest : Option String
  callDigest : Option String

namespace ObservedEvent

def sourceId (event : ObservedEvent) : String := Runtime.sourceId event.harness event.toolClass event.locality

def taints (event : ObservedEvent) : Bool := event.toolClass.taints

end ObservedEvent

def validateObservedEvent (report : ObservedReport) : Except Exn ObservedEvent := do
  let mouth ← code "mouth" report.mouth
  let harness ← code "harness" report.harness
  let toolClass ← member "tool_class" ToolClass.text ToolClass.all report.toolClass
  let locality ← member "locality" Locality.text Locality.all report.locality
  let subjectDigest ← digest "subject_digest" report.subjectDigest
  let resultDigest ← optionalDigest "result_digest" report.resultDigest
  let callDigest ← optionalDigest "call_digest" report.callDigest
  return { mouth, harness, toolClass, locality, subjectDigest, resultDigest, callDigest }

structure DecisionReport where
  mouth : String
  harness : String
  toolClass : String
  locality : String
  subjectDigest : String
  inputDigest : String
  callDigest : String

structure DecisionRequest where
  mouth : String
  harness : String
  toolClass : ToolClass
  locality : Locality
  subjectDigest : String
  inputDigest : String
  callDigest : String

namespace DecisionRequest

def op (request : DecisionRequest) : String := coordinateOp request.toolClass request.locality

def sourceId (request : DecisionRequest) : String :=
  Runtime.sourceId request.harness request.toolClass request.locality

def taints (request : DecisionRequest) : Bool := request.toolClass.taints

def args (request : DecisionRequest) : Json :=
  .obj [
    ("call",.str request.callDigest),
    ("harness",.str request.harness),
    ("input",.str request.inputDigest),
    ("locality",.str request.locality.text),
    ("subject",.str request.subjectDigest)]

end DecisionRequest

def validateDecisionRequest (report : DecisionReport) : Except Exn DecisionRequest := do
  let mouth ← code "mouth" report.mouth
  let harness ← code "harness" report.harness
  let toolClass ← member "tool_class" ToolClass.text ToolClass.all report.toolClass
  let locality ← member "locality" Locality.text Locality.all report.locality
  let subjectDigest ← digest "subject_digest" report.subjectDigest
  let inputDigest ← digest "input_digest" report.inputDigest
  let callDigest ← digest "call_digest" report.callDigest
  return { mouth, harness, toolClass, locality, subjectDigest, inputDigest, callDigest }

end Runtime

end SafeAgents
