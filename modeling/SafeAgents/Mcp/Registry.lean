import SafeAgents.Mcp.Proposals
import SafeAgents.Dict

namespace SafeAgents.Mcp

open Json Wire

structure McpToolDecl where
  toolName : String
  structuredOutput : Bool := false

structure McpServerDecl where
  tools : List McpToolDecl
  unique : (tools.map McpToolDecl.toolName).Nodup

-- A definition as the wire or the store hands it over: every dict and list in it is a JSON value.
structure ToolDefinition extends McpToolDef where
  admitted : toMcpToolDef.Admitted

namespace McpToolDef

-- Every advertised field in name order; one the server did not advertise stands as none.
def signedSet (d : McpToolDef) : List (String × Option Json) :=
  [("annotations",d.annotations.map .obj),
    ("description",some (.str d.description)),
    ("execution",d.execution.map .obj),
    ("icons",d.icons.map .arr),
    ("input_schema",some (.obj d.inputSchema)),
    ("meta",d.advertisedMeta.map .obj),
    ("output_schema",d.outputSchema.map .obj),
    ("server_id",some (.str d.serverId)),
    ("title",d.title.map .str),
    ("tool_name",some (.str d.toolName))]

def signedNames : List String :=
  ["annotations","description","execution","icons","input_schema","meta","output_schema","server_id","title","tool_name"]

theorem signedSet_names (d : McpToolDef) : d.signedSet.map Prod.fst = signedNames := rfl

theorem signedNames_sorted : signedNames.Pairwise (· < ·) := by decide

def coordinate (d : McpToolDef) : String × String := (d.serverId,d.toolName)

theorem optionProper_map {α : Type} {write : α → Json} {o : Option α} (h : ∀ a, o = some a → (write a).Proper) :
    OptionProper (o.map write) := by
  intro j hj
  obtain ⟨a,ha,rfl⟩ := Option.map_eq_some_iff.mp hj
  exact h a ha

theorem signedSet_proper {d : McpToolDef} (h : d.Admitted) : (Json.obj (dropAbsent d.signedSet)).Proper := by
  refine proper_dropAbsent signedNames_sorted ?_
  intro f hf
  simp only [signedSet,List.mem_cons,List.not_mem_nil,or_false] at hf
  rcases hf with rfl | rfl | rfl | rfl | rfl | rfl | rfl | rfl | rfl | rfl
  · exact optionProper_map h.annotations
  · exact optionProper_some trivial
  · exact optionProper_map h.execution
  · exact optionProper_map h.icons
  · exact optionProper_some h.inputSchema
  · exact optionProper_map h.advertisedMeta
  · exact optionProper_map h.outputSchema
  · exact optionProper_some trivial
  · exact optionProper_text d.title
  · exact optionProper_some trivial

theorem signedSet_injective {d d' : McpToolDef} (h : d.signedSet = d'.signedSet) : d = d' := by
  have hobj : Function.Injective (Json.obj) := fun _ _ heq => Json.obj.inj heq
  have harr : Function.Injective (Json.arr) := fun _ _ heq => Json.arr.inj heq
  have hstr : Function.Injective (Json.str) := fun _ _ heq => Json.str.inj heq
  simp only [signedSet,List.cons.injEq,Prod.mk.injEq,true_and,and_true,Option.some.injEq,Json.str.injEq,Json.obj.injEq] at h
  obtain ⟨hannotations,hdescription,hexecution,hicons,hinput,hmeta,houtput,hserver,htitle,htool⟩ := h
  have hannotations := Option.map_injective hobj hannotations
  have hexecution := Option.map_injective hobj hexecution
  have hicons := Option.map_injective harr hicons
  have hmeta := Option.map_injective hobj hmeta
  have houtput := Option.map_injective hobj houtput
  have htitle := Option.map_injective hstr htitle
  cases d
  cases d'
  simp_all

end McpToolDef

def computeToolDefHash (sha256 : String → String) (d : McpToolDef) : String := sha256 (Json.obj (dropAbsent d.signedSet)).dumps

theorem computeToolDefHash_injective {sha256 : String → String} (hinjective : Function.Injective sha256) {d d' : ToolDefinition}
    (h : computeToolDefHash sha256 d.toMcpToolDef = computeToolDefHash sha256 d'.toMcpToolDef) : d = d' := by
  have hdumps := hinjective h
  have hloads := congrArg Json.loads hdumps
  rw [loads_dumps (McpToolDef.signedSet_proper d.admitted),loads_dumps (McpToolDef.signedSet_proper d'.admitted)] at hloads
  have hmembers : dropAbsent d.signedSet = dropAbsent d'.signedSet := Json.obj.inj (Option.some.inj hloads)
  have hnodup : (d.signedSet.map Prod.fst).Nodup := names_nodup McpToolDef.signedNames_sorted
  have hnames : d.signedSet.map Prod.fst = d'.signedSet.map Prod.fst := d.signedSet_names.trans d'.signedSet_names.symm
  have hdef := McpToolDef.signedSet_injective (dropAbsent_injective hnames hnodup hmembers)
  cases d
  cases d'
  cases hdef
  rfl

inductive RegistryStatus where
  | active
  | quarantined
  deriving DecidableEq

structure RegisteredTool where
  toolDef : ToolDefinition
  defHash : String
  status : RegistryStatus
  admittedBy : String
  admittedAt : String

end SafeAgents.Mcp
