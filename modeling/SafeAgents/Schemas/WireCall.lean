import SafeAgents.Schemas.Wire

namespace SafeAgents

open Json Wire

def Effect.text : Effect → String
  | .read => "read"
  | .write => "write"

theorem Effect.text_injective {a b : Effect} (h : a.text = b.text) : a = b := by
  revert h
  cases a <;> cases b <;> decide

-- The code points a regular expression's \s matches; str.strip also takes the four separators from 0x1c.
def isRegexSpace (c : Char) : Bool :=
  let n := c.toNat
  (9 ≤ n && n ≤ 13) || n == 32 || n == 133 || n == 160 || n == 5760 || (8192 ≤ n && n ≤ 8202) || n == 8232 || n == 8233 ||
    n == 8239 || n == 8287 || n == 12288

def isStripSpace (c : Char) : Bool := isRegexSpace c || (28 ≤ c.toNat && c.toNat ≤ 31)

def maxDeclarableAgeSeconds : Nat := 100 * 366 * 24 * 3600

namespace CausesContext

def spelledInFull (part : String) : Bool :=
  part ≠ "" && !part.toList.head?.any isStripSpace && !part.toList.getLast?.any isStripSpace

def accepted (c : CausesContext) : Bool :=
  (match c.target with
    | .self => true
    | .child p => spelledInFull p.agentId && spelledInFull p.skill && spelledInFull p.user) &&
    decide (0 < c.horizonSeconds) && decide (c.horizonSeconds ≤ maxDeclarableAgeSeconds)

def targetJson : ContextTarget → Json
  | .self => .str "self"
  | .child p => p.json

def targetOfJson (j : Json) : Option ContextTarget :=
  match j with
  | .str s => if s = "self" then some .self else none
  | j => (Principal.ofJson j).map .child

def json (c : CausesContext) : Json := .obj [("horizon_seconds",.ofInt c.horizonSeconds),("target",targetJson c.target)]

def ofJson (j : Json) : Option CausesContext := do
  let fields ← fieldsOf ["target","horizon_seconds"] j
  let target ← required fields "target" targetOfJson
  let horizonSeconds ← required fields "horizon_seconds" int?
  if 0 ≤ horizonSeconds then return ⟨target,horizonSeconds.toNat⟩ else none

theorem targetOfJson_json (t : ContextTarget) : targetOfJson (targetJson t) = some t := by
  cases t with
  | self => rfl
  | child p =>
    have hread := p.ofJson_json
    simp only [Principal.json] at hread
    simp [targetOfJson,targetJson,Principal.json,hread]

theorem ofJson_json (c : CausesContext) : ofJson c.json = some c := by
  simp [ofJson,json,fieldsOf,required,field,int?_ofInt,targetOfJson_json]

theorem json_proper (c : CausesContext) : c.json.Proper := by
  have htarget : (targetJson c.target).Proper := by
    cases c.target with
    | self => trivial
    | child p => exact p.json_proper
  apply proper_obj ["horizon_seconds","target"] rfl (by decide)
  exact ⟨proper_ofInt _,htarget,trivial⟩

end CausesContext

namespace ToolOp

-- ^\S(?:.*\S)?$ : no blank at either end, and no line break between them.
def isDestinationArg (name : String) : Bool :=
  name ≠ "" && !name.toList.head?.any isRegexSpace && !name.toList.getLast?.any isRegexSpace && !name.toList.contains '\n'

def accepted (m : ToolOp) : Bool := m.destinationArg.all isDestinationArg && m.causesContext.all CausesContext.accepted

def json (m : ToolOp) : Json :=
  .obj [("causes_context",optionJson CausesContext.json m.causesContext),
    ("destination_arg",.ofOption m.destinationArg),
    ("effect",.str m.effect.text),
    ("egress_arg",.ofOption m.egressArg),
    ("external",.bool m.external),
    ("op",.str m.op),
    ("reversible",optionJson Json.bool m.reversible),
    ("tool",.str m.tool)]

variable {F : Type} (lax : Coercion F)

def ofJson (j : Json) : Option ToolOp := do
  let fields ← fieldsOf
    ["tool","op","effect","external","reversible","egress_arg","destination_arg","causes_context"] j
  let tool ← required fields "tool" str?
  let op ← required fields "op" str?
  let effect ← required fields "effect" (oneOf Effect.text [.read,.write])
  let external ← required fields "external" (readBool lax)
  let reversible ← defaulted fields "reversible" none (nullable (readBool lax))
  let egressArg ← defaulted fields "egress_arg" none (nullable str?)
  let destinationArg ← defaulted fields "destination_arg" none (nullable str?)
  let causesContext ← defaulted fields "causes_context" none (nullable CausesContext.ofJson)
  return { tool, op, effect, external, reversible, egressArg, destinationArg, causesContext }

theorem ofJson_json (m : ToolOp) : ofJson lax m.json = some m := by
  have heffect : oneOf Effect.text [.read,.write] (.str m.effect.text) = some m.effect :=
    oneOf_text Effect.text_injective (by cases m.effect <;> simp)
  have hcauses : nullable CausesContext.ofJson (optionJson CausesContext.json m.causesContext) = some m.causesContext :=
    nullable_optionJson (fun c _ => c.ofJson_json) (by simp [CausesContext.json])
  have hreversible : nullable (readBool lax) (optionJson Json.bool m.reversible) = some m.reversible :=
    nullable_optionJson (fun _ _ => rfl) (by simp)
  simp [ofJson,json,fieldsOf,required,defaulted,field,str?,readBool,heffect,hcauses,hreversible,nullable_ofOption]

theorem json_proper (m : ToolOp) : m.json.Proper := by
  have hreversible : (optionJson Json.bool m.reversible).Proper := optionJson_proper fun b _ => show (Json.bool b).Proper by trivial
  apply proper_obj ["causes_context","destination_arg","effect","egress_arg","external","op","reversible","tool"] rfl
    (by decide)
  exact ⟨optionJson_proper fun c _ => c.json_proper,ofOption_proper _,trivial,ofOption_proper _,trivial,trivial,hreversible,
    trivial,trivial⟩

end ToolOp

namespace TaintFlag
variable {F : Type} (lax : Coercion F)

def json (t : TaintFlag) : Json := .obj [("sources",.arr (t.sources.map .str)),("tainted",.bool t.tainted)]

def ofJson (j : Json) : Option TaintFlag := do
  let fields ← fieldsOf ["tainted","sources"] j
  let tainted ← required fields "tainted" (readBool lax)
  let sources ← required fields "sources" (listOf str?)
  return ⟨tainted,sources⟩

theorem ofJson_json (t : TaintFlag) : ofJson lax t.json = some t := by
  have hsources : listOf str? (.arr (t.sources.map .str)) = some t.sources := listOf_map fun _ _ => rfl
  simp [ofJson,json,fieldsOf,required,field,readBool,hsources]

theorem json_proper (t : TaintFlag) : t.json.Proper := by
  apply proper_obj ["sources","tainted"] rfl (by decide)
  exact ⟨proper_strs _,trivial,trivial⟩

end TaintFlag

namespace Session

def json (s : Session) : Json := .obj [("ingestedSources",.arr (s.ingestedSources.map .str)),("turnId",.str s.turnId)]

def ofJson (j : Json) : Option Session := do
  let fields ← fieldsOf ["turnId","ingestedSources"] j
  let turnId ← required fields "turnId" str?
  let ingestedSources ← required fields "ingestedSources" (listOf str?)
  return ⟨turnId,ingestedSources⟩

theorem ofJson_json (s : Session) : ofJson s.json = some s := by
  have hsources : listOf str? (.arr (s.ingestedSources.map .str)) = some s.ingestedSources := listOf_map fun _ _ => rfl
  simp [ofJson,json,fieldsOf,required,field,str?,hsources]

theorem json_proper (s : Session) : s.json.Proper := by
  apply proper_obj ["ingestedSources","turnId"] rfl (by decide)
  exact ⟨proper_strs _,trivial,trivial⟩

end Session

namespace Wire

-- The schema class with every field; the runtime's own view of a call is a part of it.
structure BrokeredCall (F : Type) where
  principal : Principal
  tool : String
  op : String
  args : Json
  manifest : ToolOp
  taint : TaintFlag
  session : Session
  ts : String
  confidence : Option (ConfidenceArtifact F) := none

namespace BrokeredCall
variable {F : Type} (fmt : FloatFormat F) (lax : Coercion F)

def accepted (c : BrokeredCall F) : Bool := c.manifest.accepted && c.confidence.all (ConfidenceArtifact.accepted fmt)

def json (c : BrokeredCall F) : Json :=
  .obj [("args",c.args),
    ("confidence",optionJson (ConfidenceArtifact.json fmt) c.confidence),
    ("manifest",c.manifest.json),
    ("op",.str c.op),
    ("principal",c.principal.json),
    ("session",c.session.json),
    ("taint",c.taint.json),
    ("tool",.str c.tool),
    ("ts",.str c.ts)]

def ofJson (j : Json) : Option (BrokeredCall F) := do
  let fields ← fieldsOf ["principal","tool","op","args","manifest","taint","session","ts","confidence"] j
  let principal ← required fields "principal" Principal.ofJson
  let tool ← required fields "tool" str?
  let op ← required fields "op" str?
  let args ← required fields "args" some
  let manifest ← required fields "manifest" (ToolOp.ofJson lax)
  let taint ← required fields "taint" (TaintFlag.ofJson lax)
  let session ← required fields "session" Session.ofJson
  let ts ← required fields "ts" str?
  let confidence ← defaulted fields "confidence" none (nullable (ConfidenceArtifact.ofJson fmt lax))
  return { principal, tool, op, args, manifest, taint, session, ts, confidence }

def modelValidate (j : Json) : Option (BrokeredCall F) := (ofJson fmt lax j).filter (accepted fmt)

theorem ofJson_json (c : BrokeredCall F) : ofJson fmt lax (c.json fmt) = some c := by
  have hconfidence : nullable (ConfidenceArtifact.ofJson fmt lax) (optionJson (ConfidenceArtifact.json fmt) c.confidence) =
      some c.confidence :=
    nullable_optionJson (fun a _ => a.ofJson_json fmt lax) (by simp [ConfidenceArtifact.json])
  simp [ofJson,json,fieldsOf,required,defaulted,field,str?,Principal.ofJson_json,ToolOp.ofJson_json,TaintFlag.ofJson_json,
    Session.ofJson_json,hconfidence]

theorem modelValidate_json {c : BrokeredCall F} (h : c.accepted fmt = true) : modelValidate fmt lax (c.json fmt) = some c := by
  rw [modelValidate,ofJson_json,Option.filter_some,if_pos h]

theorem json_proper {c : BrokeredCall F} (h : c.args.Proper) : (c.json fmt).Proper := by
  apply proper_obj ["args","confidence","manifest","op","principal","session","taint","tool","ts"] rfl (by decide)
  exact ⟨h,optionJson_proper fun a _ => a.json_proper fmt,c.manifest.json_proper,trivial,c.principal.json_proper,
    c.session.json_proper,c.taint.json_proper,trivial,trivial,trivial⟩

end BrokeredCall

end Wire

end SafeAgents
