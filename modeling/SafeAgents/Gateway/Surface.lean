import SafeAgents.Runtime.HonestReply
import SafeAgents.Schemas.WireCall
import SafeAgents.Text.Lex
import Mathlib.Data.List.Nodup
import Mathlib.Data.List.Sort

open Lexical SafeAgents.Runtime

namespace SafeAgents

open Interleaving Enforcement

namespace ToolOpTable

def served (table : ToolOpTable) (granted : List String) : List ToolOp :=
  table.entries.filter fun m => m.tool ≠ harnessTool && granted.contains m.key

def Exact (table : ToolOpTable) : Prop := ∀ tool op m, table.entry tool op = some m → m.tool = tool ∧ m.op = op

section Entries
variable {table : ToolOpTable} {m : ToolOp}

theorem entry_of_key (hm : m ∈ table.entries) {tool op : String} (hkey : m.key = tool ++ "." ++ op) :
    table.entry tool op = some m := by
  have hfind : (table.entries.find? fun m => m.key == tool ++ "." ++ op).isSome := by
    rw [List.find?_isSome]
    exact ⟨m,hm,by simp [hkey]⟩
  obtain ⟨found,hfound⟩ := Option.isSome_iff_exists.mp hfind
  have hsame : found.key = m.key := by
    have h := List.find?_some hfound
    rw [hkey]
    simpa using h
  rw [entry,hfound,List.inj_on_of_nodup_map table.unique (List.mem_of_find?_eq_some hfound) hm hsame]

theorem entry_declared (hm : m ∈ table.entries) : table.entry m.tool m.op = some m := entry_of_key hm rfl

theorem mem_of_entry {tool op : String} (h : table.entry tool op = some m) : m ∈ table.entries := List.mem_of_find?_eq_some h

theorem toList_key (m : ToolOp) : m.key.toList = m.tool.toList ++ '.' :: m.op.toList := by
  simp [ToolOp.key,String.toList_append]

theorem dotless_of_exact (h : table.Exact) (hm : m ∈ table.entries) : '.' ∉ m.tool.toList ∧ '.' ∉ m.op.toList := by
  constructor
  · intro hdot
    obtain ⟨a,b,hab⟩ := List.append_of_mem hdot
    have hkey : m.key = String.ofList a ++ "." ++ (String.ofList b ++ "." ++ m.op) := by
      rw [← String.toList_inj]
      simp [toList_key,hab,String.toList_append]
    have htool := (h _ _ _ (entry_of_key hm hkey)).1
    rw [htool] at hab
    simpa using congrArg List.length hab
  · intro hdot
    obtain ⟨a,b,hab⟩ := List.append_of_mem hdot
    have hkey : m.key = m.tool ++ "." ++ String.ofList a ++ "." ++ String.ofList b := by
      rw [← String.toList_inj]
      simp [toList_key,hab,String.toList_append]
    have hop := (h _ _ _ (entry_of_key hm hkey)).2
    rw [hop] at hab
    have hlen := congrArg List.length hab
    simp at hlen
    omega

theorem exact_of_dotless (h : ∀ m ∈ table.entries, '.' ∉ m.tool.toList ∧ '.' ∉ m.op.toList) : table.Exact := by
  intro tool op m hentry
  obtain ⟨htool,hop⟩ := h m (mem_of_entry hentry)
  have hjoined : m.tool.toList ++ '.' :: m.op.toList = tool.toList ++ '.' :: op.toList := by
    have hkey := congrArg String.toList (key_of_entry hentry)
    rw [toList_key] at hkey
    simpa [String.toList_append] using hkey
  have hcount := congrArg (List.count '.') hjoined
  have hfree : '.' ∉ tool.toList := by
    rw [← List.count_eq_zero]
    simp only [List.count_append,List.count_cons_self,List.count_eq_zero.mpr htool,List.count_eq_zero.mpr hop] at hcount
    omega
  obtain ⟨ha,hb⟩ := cut_unique htool hfree hjoined
  exact ⟨String.toList_inj.mp ha,String.toList_inj.mp hb⟩

end Entries

theorem exact_iff {table : ToolOpTable} : table.Exact ↔ ∀ m ∈ table.entries, '.' ∉ m.tool.toList ∧ '.' ∉ m.op.toList :=
  ⟨fun h _ hm => dotless_of_exact h hm,exact_of_dotless⟩

end ToolOpTable

namespace Gateway

def wireSeparator : String := "__"

def wireName (tool op : String) : String := tool ++ wireSeparator ++ op

structure GatewayTool where
  wireName : String
  tool : String
  op : String
  description : String
  inputSchema : Json := .obj [("type",.str "object"),("additionalProperties",.bool true)]

def describe (m : ToolOp) : String :=
  let reversibility := match m.reversible with
    | none => ""
    | some true => ", reversible"
    | some false => ", irreversible"
  m.tool ++ "." ++ m.op ++ " — brokered " ++ m.effect.text ++ ", " ++ (if m.external then "external" else "local") ++
    reversibility ++ ". Every call is decided and recorded by the broker before it executes."

def advertise (m : ToolOp) : GatewayTool where
  wireName := wireName m.tool m.op
  tool := m.tool
  op := m.op
  description := describe m

def nameCollision (existing : GatewayTool) (m : ToolOp) : Exn :=
  .exception ("broker coordinates " ++ existing.tool ++ "." ++ existing.op ++ " and " ++ m.tool ++ "." ++ m.op ++
    " both advertise as MCP tool " ++ pyRepr (wireName m.tool m.op) ++
    "; rename one op in the manifest — the gateway will not serve an ambiguous tool map")

def listed (index : List GatewayTool) (wire : String) : Option GatewayTool := index.find? fun known => known.wireName == wire

def addAll (index : List GatewayTool) : List ToolOp → Except Exn (List GatewayTool)
  | [] => .ok index
  | m :: rest =>
    match listed index (wireName m.tool m.op) with
    | some existing => .error (nameCollision existing m)
    | none => addAll (index ++ [advertise m]) rest

-- `str.partition` at the first separator; `none` where there is none.
def partition : List Char → Option (List Char × List Char)
  | '_' :: '_' :: rest => some ([],rest)
  | c :: rest => (partition rest).map fun cut => (c :: cut.1,cut.2)
  | [] => none

def splitName (wire : String) : Option (String × String) :=
  match partition wire.toList with
  | none => none
  | some (tool,op) => if op = [] then none else some (String.ofList tool,String.ofList op)

def route (index : List GatewayTool) (wire : String) : Option (String × String) :=
  match listed index wire with
  | some known => some (known.tool,known.op)
  | none => splitName wire

inductive AnswerKind where
  | decision (kind : Kind)
  | noDecision
  deriving DecidableEq

structure GatewayResult where
  ok : Bool
  text : String
  decisionKind : AnswerKind
  structured : ConnectorResult := .none
  reason : Option String := none
  intentId : Option String := none
  executionOutcome : Option ExecutionOutcome := none

def unroutable (wire : String) : GatewayResult where
  ok := false
  text := pyRepr wire ++ " is not a brokered tool name"
  decisionKind := .decision .deny
  reason := some "unroutable tool name"

def internalError (tool op : String) (e : Exn) : GatewayResult where
  ok := false
  text := tool ++ "." ++ op ++ " did not complete: the broker hit an internal error (" ++ e.typeName ++
    ") before it could reply; the detail is on the broker's stderr"
  decisionKind := .noDecision
  reason := some "internal broker error"

-- `asText` renders a marshalled result as the text a client displays.
def answer (asText : ConnectorResult → String) (tool op : String) (response : BrokerResponse) : GatewayResult :=
  match response.decisionKind with
  | .allow | .transform =>
    let marshalled := marshalConnectorResult response.result
    { ok := true
      text := asText marshalled
      decisionKind := .decision response.decisionKind
      structured := marshalled }
  | .requireApproval =>
    { ok := false
      text := tool ++ "." ++ op ++ " is held for approval (intent " ++ response.intentId.getD "None" ++ "); it has NOT executed"
      decisionKind := .decision response.decisionKind
      reason := response.reason
      intentId := response.intentId }
  | .deny | .abstain =>
    match response.executionOutcome with
    | some outcome =>
      { ok := false
        text := tool ++ "." ++ op ++ " was allowed by the broker but " ++ (if outcome = .refused then "refused" else "failed") ++
          " at the connector; the detail is on the broker's audit record"
        decisionKind := .decision response.decisionKind
        reason := response.reason
        executionOutcome := some outcome }
    | none =>
      { ok := false
        text := tool ++ "." ++ op ++ " refused by the broker: " ++ response.reason.getD "None"
        decisionKind := .decision response.decisionKind
        reason := response.reason }

def callRequest (tool op : String) (arguments : Json) : AgentRequest where
  tool := tool
  op := op
  args := arguments

structure GatewaySurface where
  runtime : BrokerRuntime
  granted : List String
  asText : ConnectorResult → String

namespace GatewaySurface
variable (S : GatewaySurface)

def servedRegistry : List ToolOp := S.runtime.optable.served S.granted

def index : Except Exn (List GatewayTool) := addAll [] S.servedRegistry

def tools : Except Exn (List GatewayTool) := S.index.map fun index => index.mergeSort fun a b => a.wireName ≤ b.wireName

def carry (tool op : String) (arguments : Json) : Act GatewayResult := do
  let outcome : Except Exn BrokerResponse ← tryCatch
    (do
      let response ← S.runtime.handleRequest (callRequest tool op arguments) none []
      return .ok response)
    fun e => if e.isException then return .error e else throw e
  match outcome with
  | .error e => return internalError tool op e
  | .ok response => return answer S.asText tool op response

def call (wire : String) (arguments : Json) : Act GatewayResult := do
  let index ← Prog.finish S.index
  match route index wire with
  | none => return unroutable wire
  | some (tool,op) => S.carry tool op arguments

end GatewaySurface

section Index
variable {S : GatewaySurface} {index out : List GatewayTool} {wire tool op : String} {m : ToolOp}

theorem addAll_ok {served : List ToolOp} (h : addAll index served = .ok out) :
    out = index ++ served.map advertise ∧ ((index.map GatewayTool.wireName).Nodup → (out.map GatewayTool.wireName).Nodup) := by
  induction served generalizing index with
  | nil =>
    cases h
    exact ⟨by simp,id⟩
  | cons m rest ih =>
    rw [addAll] at h
    split at h
    · cases h
    · next hnew =>
      obtain ⟨rfl,hunique⟩ := ih h
      refine ⟨by simp,fun hbefore => hunique ?_⟩
      rw [List.map_append,List.map_singleton,List.nodup_append]
      refine ⟨hbefore,by simp,fun name hname other hother heq => ?_⟩
      obtain ⟨known,hknown,rfl⟩ := List.mem_map.mp hname
      obtain rfl := List.mem_singleton.mp hother
      have hdiffers := List.find?_eq_none.mp hnew known hknown
      exact hdiffers (by simpa [advertise] using heq)

theorem index_ok (h : S.index = .ok index) :
    index = S.servedRegistry.map advertise ∧ (index.map GatewayTool.wireName).Nodup := by
  obtain ⟨hindex,hunique⟩ := addAll_ok h
  exact ⟨by simpa using hindex,hunique (by simp)⟩

theorem route_listed (h : S.index = .ok index) (hm : m ∈ S.servedRegistry) :
    route index (wireName m.tool m.op) = some (m.tool,m.op) := by
  obtain ⟨rfl,hunique⟩ := index_ok h
  have hmem : advertise m ∈ S.servedRegistry.map advertise := List.mem_map_of_mem hm
  have hfind : (listed (S.servedRegistry.map advertise) (wireName m.tool m.op)).isSome := by
    rw [listed,List.find?_isSome]
    exact ⟨advertise m,hmem,by simp [advertise]⟩
  obtain ⟨found,hfound⟩ := Option.isSome_iff_exists.mp hfind
  have hname : found.wireName = wireName m.tool m.op := by simpa using List.find?_some hfound
  rw [route,hfound,List.inj_on_of_nodup_map hunique (List.mem_of_find?_eq_some hfound) hmem hname]
  rfl

theorem partition_eq {l a b : List Char} (h : partition l = some (a,b)) : l = a ++ '_' :: '_' :: b := by
  fun_induction partition l generalizing a b with
  | case1 rest =>
    cases h
    rfl
  | case2 c rest _ ih =>
    obtain ⟨⟨first,last⟩,hcut,heq⟩ := Option.map_eq_some_iff.mp h
    cases heq
    rw [ih hcut,List.cons_append]
  | case3 => cases h

theorem wireName_splitName (h : splitName wire = some (tool,op)) : wireName tool op = wire := by
  unfold splitName at h
  split at h
  · cases h
  · next cut first last hcut =>
    split at h
    · cases h
    · cases h
      rw [← String.toList_inj,partition_eq hcut]
      simp [wireName,wireSeparator,String.toList_append]

theorem route_unlisted (h : S.index = .ok index) (hroute : route index wire = some (tool,op))
    (hnot : ∀ m ∈ S.servedRegistry, wireName m.tool m.op ≠ wire) : ∀ m ∈ S.servedRegistry, ¬ (m.tool = tool ∧ m.op = op) := by
  obtain ⟨rfl,-⟩ := index_ok h
  have hnone : listed (S.servedRegistry.map advertise) wire = none := by
    rw [listed,List.find?_eq_none]
    intro known hknown
    obtain ⟨m,hm,rfl⟩ := List.mem_map.mp hknown
    simpa [advertise] using hnot m hm
  rw [route,hnone] at hroute
  rintro m hm ⟨rfl,rfl⟩
  exact hnot m hm (wireName_splitName hroute)

end Index

def mouths {ι σ : Type} (S : ι → GatewaySurface) (wires : ι → String) (arguments : ι → Json) (s : σ) :
    Config ι Op Op.Ret Exn σ GatewayResult := ⟨s,fun i => (S i).call (wires i) (arguments i)⟩

def HandsOn (S : GatewaySurface) (wire : String) (arguments : Json) (own : Seen) : Op → Prop
  | .env (.doer path call effective) => ∃ index tool op, S.index = .ok index ∧ route index wire = some (tool,op) ∧
      Mediated S.runtime (.request (callRequest tool op arguments) none []) path call effective own
  | _ => True

section Calls
variable {S : GatewaySurface} {wire : String} {arguments : Json}

theorem minding_carry (tool op : String) :
    Minding S.runtime (.request (callRequest tool op arguments) none []) [] (S.carry tool op arguments) := by
  refine Minding.andThen (Minding.catching ?_ fun e => ?_) fun outcome => ?_
  · exact (minding_handleRequest (callRequest tool op arguments) none []).andThen fun _ => trivial
  · split <;> trivial
  · cases outcome <;> trivial

theorem tells_call : Tells (fun _ _ => True) (HandsOn S wire arguments) (fun _ _ => True) (S.call wire arguments) := by
  unfold GatewaySurface.call
  cases hindex : S.index with
  | error e => trivial
  | ok index =>
    simp only [Prog.finish,Prog.bind_eq,Prog.attempt,Prog.andThen]
    cases hroute : route index wire with
    | none => trivial
    | some coordinate =>
      obtain ⟨tool,op⟩ := coordinate
      refine (minding_carry tool op fun _ h => by cases h).mono (fun own o h => ?_) fun _ _ h => h
      cases o with
      | env o =>
        cases o with
        | doer path call effective => exact ⟨index,tool,op,hindex,hroute,h⟩
        | _ => trivial
      | _ => trivial

theorem mem_served {m : ToolOp} (h : m ∈ S.servedRegistry) : m ∈ S.runtime.optable.entries := List.mem_of_mem_filter h

end Calls

section Replies
variable {S : GatewaySurface} {wire tool op : String} {arguments : Json} {own : Seen} {reply : GatewayResult}
  {asText : ConnectorResult → String} {response : BrokerResponse}

theorem plays_call (h : Plays (S.call wire arguments) own (.ok reply)) : (reply = unroutable wire ∧ NoDoer own) ∨
    ∃ index tool op, S.index = .ok index ∧ route index wire = some (tool,op) ∧ Plays (S.carry tool op arguments) own (.ok reply) := by
  obtain ⟨first,rest,index,rfl,hfirst,hrest⟩ := plays_bind_ok h
  obtain ⟨rfl,hindex⟩ := plays_finish.mp hfirst
  split at hrest
  · obtain ⟨rfl,hreply⟩ := plays_ret.mp hrest
    cases hreply
    exact .inl ⟨rfl,by simp [NoDoer]⟩
  · next tool op hroute => exact .inr ⟨index,tool,op,hindex.symm,hroute,hrest⟩

theorem plays_carry (h : Plays (S.carry tool op arguments) own (.ok reply)) : (∃ e, reply = internalError tool op e) ∨
    ∃ response, reply = answer S.asText tool op response ∧
      Plays (S.runtime.handleRequest (callRequest tool op arguments) none []) own (.ok response) := by
  obtain ⟨handled,rest,outcome,rfl,hhandled,hrest⟩ := plays_bind_ok h
  cases outcome with
  | error e =>
    obtain ⟨-,hreply⟩ := plays_ret.mp hrest
    cases hreply
    exact .inl ⟨e,rfl⟩
  | ok response =>
    obtain ⟨rfl,hreply⟩ := plays_ret.mp hrest
    cases hreply
    refine .inr ⟨response,rfl,?_⟩
    rcases plays_tryCatch hhandled with ⟨a,ha,hran⟩ | ⟨first,last,e,rfl,-,hlast⟩
    · cases ha
      obtain ⟨ran,last,got,rfl,hgot,hlast⟩ := plays_bind_ok hran
      obtain ⟨rfl,hout⟩ := plays_ret.mp hlast
      cases hout
      simpa using hgot
    · exfalso
      split at hlast
      · obtain ⟨-,hout⟩ := plays_ret.mp hlast
        cases hout
      · obtain ⟨-,hout⟩ := plays_raise.mp hlast
        cases hout

theorem answer_ok (h : (answer asText tool op response).ok = true) : GoesThrough response.decisionKind ∧
    (answer asText tool op response).decisionKind = .decision response.decisionKind ∧
      (answer asText tool op response).structured = marshalConnectorResult response.result := by
  unfold answer at h ⊢
  split at h
  · next hkind =>
    rw [hkind]
    exact ⟨.inl rfl,rfl,rfl⟩
  · next hkind =>
    rw [hkind]
    exact ⟨.inr rfl,rfl,rfl⟩
  · cases h
  all_goals
    split at h <;> cases h

theorem answer_not_ok (h : (answer asText tool op response).ok = false) (hnone : (answer asText tool op response).executionOutcome = none) :
    ¬ GoesThrough response.decisionKind ∧ (response.decisionKind = .deny → response.executionOutcome = none) := by
  unfold answer at h hnone
  split at h
  · cases h
  · cases h
  · next hkind =>
    rw [hkind]
    exact ⟨by simp [GoesThrough],fun hdeny => by cases hdeny⟩
  all_goals
    next hkind =>
      rw [hkind] at hnone ⊢
      refine ⟨by simp [GoesThrough],fun _ => ?_⟩
      dsimp only at hnone
      split at hnone
      · cases hnone
      · next houtcome => exact houtcome

end Replies

section Runs
variable {ι σ : Type} [DecidableEq ι] {D : Device Op Op.Ret Exn σ} {G : Guard ι Op Op.Ret Exn σ GatewayResult}
  {S : ι → GatewaySurface} {wires : ι → String} {arguments : ι → Json} {s : σ} {c : Config ι Op Op.Ret Exn σ GatewayResult}
  {tr tr₁ tr₂ : List (Event ι Op Op.Ret Exn)} {i : ι} {path : ExecutionPath} {call : BrokeredCall} {effective : Decision}
  {r : Except Exn DoerResult}

theorem mouth_carries (h : Run D G (mouths S wires arguments s) tr c)
    (htr : tr = tr₁ ++ ⟨i,.env (.doer path call effective),r⟩ :: tr₂) :
    path = .inline ∧ call.args = arguments i ∧ (S i).runtime.optable.entry call.tool call.op = some call.manifest ∧
      (∃ clearance : Clearance (S i).runtime (.request (callRequest call.tool call.op (arguments i)) none []) path call effective,
        own i tr₁ = clearance.history) ∧
      (∀ m ∈ (S i).servedRegistry, wireName m.tool m.op = wires i → call.tool = m.tool ∧ call.op = m.op ∧ call.manifest = m) ∧
      ((∀ m ∈ (S i).servedRegistry, wireName m.tool m.op ≠ wires i) →
        ∀ m ∈ (S i).servedRegistry, ¬ (m.tool = call.tool ∧ m.op = call.op)) := by
  obtain ⟨index,tool,op,hindex,hroute,⟨clearance,hown⟩,-⟩ := h.follows (i := i) tells_call htr
  have hasked := clearance.asked
  cases path with
  | release =>
    obtain ⟨intentId,approvedBy,shown,intent,herrand,-⟩ := hasked
    cases herrand
  | inline =>
    obtain ⟨request,turnContext,ingestedSources,entry,ref,turn,confidence,ts,herrand,-,hentry,-,-,-,hcall⟩ := hasked
    cases herrand
    have htool : call.tool = tool := by rw [hcall]; rfl
    have hop : call.op = op := by rw [hcall]; rfl
    have hmanifest : call.manifest = entry := by rw [hcall]; rfl
    have hargs : call.args = arguments i := by rw [hcall]; rfl
    rw [htool,hop,hmanifest]
    refine ⟨rfl,hargs,hentry,⟨clearance,hown⟩,fun m hm hname => ?_,fun hnot m hm => route_unlisted hindex hroute hnot m hm⟩
    rw [← hname,route_listed hindex hm] at hroute
    cases hroute
    exact ⟨rfl,rfl,Option.some.inj (hentry.symm.trans (ToolOpTable.entry_declared (mem_served hm)))⟩

theorem mouth_honest (h : Run D G (mouths S wires arguments s) tr c) {reply : GatewayResult} (hreturned : c.threads i = .ret reply) :
    (reply.ok = true → ∃ call effective result,
      (∃ index, (S i).index = .ok index ∧ route index (wires i) = some (call.tool,call.op)) ∧ call.args = arguments i ∧
        reply.decisionKind = .decision effective.kind ∧ reply.structured = marshalConnectorResult result ∧
        Performed (S i).runtime call effective result (own i tr)) ∧
      (reply.ok = false → reply.executionOutcome = none → reply.decisionKind ≠ .noDecision → NoDoer (own i tr)) := by
  rcases plays_call (h.played hreturned) with ⟨rfl,hnone⟩ | ⟨index,tool,op,hindex,hroute,hcarry⟩
  · refine ⟨fun hok => ?_,fun _ _ _ => hnone⟩
    cases hok
  · rcases plays_carry hcarry with ⟨e,rfl⟩ | ⟨response,rfl,hplays⟩
    · refine ⟨fun hok => ?_,fun _ _ hkind => absurd rfl hkind⟩
      cases hok
    · have htruthful := truthful_handleRequest hplays
      constructor
      · intro hok
        obtain ⟨hgoes,hkind,hstructured⟩ := answer_ok hok
        obtain ⟨call,effective,hnames,heffective,hperformed⟩ := htruthful.performed (htruthful.fresh rfl) hgoes
        refine ⟨call,effective,response.result,⟨index,hindex,?_⟩,hnames.args,heffective ▸ hkind,hstructured,hperformed⟩
        rw [hroute,hnames.tool,hnames.op]
        rfl
      · intro hok houtcome _
        obtain ⟨hgoes,hdenied⟩ := answer_not_ok hok houtcome
        refine htruthful.untouched ?_ (.inr hgoes)
        by_contra hran
        exact hran (hdenied (htruthful.failed hran))

end Runs

def mailMouth : GatewaySurface := ⟨mailBroker,["mail.send"],fun _ => "null"⟩

def mailCarried : List (Event Unit Op Op.Ret Exn) × Config Unit Op Op.Ret Exn State GatewayResult :=
  play memory.device (turns () 40) (mouths (fun _ => mailMouth) (fun _ => "mail__send") (fun _ => .obj []) emptyState)

theorem mailCarried_run : Run memory.device anyStep (mouths (fun _ => mailMouth) (fun _ => "mail__send") (fun _ => .obj []) emptyState)
    mailCarried.1 mailCarried.2 := play_run _ _

theorem mouth_carries_sent : ∃ tr₁ path call effective r tr₂, mailCarried.1 = tr₁ ++ ⟨(),.env (.doer path call effective),r⟩ :: tr₂ ∧
    path = .inline ∧ call.args = .obj [] ∧ mailBroker.optable.entry call.tool call.op = some call.manifest ∧
      (∃ clearance : Clearance mailBroker (.request (callRequest call.tool call.op (.obj [])) none []) path call effective,
        own () tr₁ = clearance.history) ∧
      (∀ m ∈ mailMouth.servedRegistry, wireName m.tool m.op = "mail__send" → call.tool = m.tool ∧ call.op = m.op ∧ call.manifest = m) ∧
      ((∀ m ∈ mailMouth.servedRegistry, wireName m.tool m.op ≠ "mail__send") →
        ∀ m ∈ mailMouth.servedRegistry, ¬ (m.tool = call.tool ∧ m.op = call.op)) := by
  have hsent : mailCarried.1.any (handsOver fun _ _ => true) = true := by decide +kernel
  obtain ⟨tr₁,i,path,call,effective,r,tr₂,htr,-⟩ := exists_doer hsent
  exact ⟨tr₁,path,call,effective,r,tr₂,htr,mouth_carries mailCarried_run htr⟩

theorem mouth_honest_sent : ∃ reply, mailCarried.2.threads () = .ret reply ∧ reply.ok = true ∧
    (reply.ok = true → ∃ call effective result,
      (∃ index, mailMouth.index = .ok index ∧ route index "mail__send" = some (call.tool,call.op)) ∧ call.args = .obj [] ∧
        reply.decisionKind = .decision effective.kind ∧ reply.structured = marshalConnectorResult result ∧
        Performed mailBroker call effective result (own () mailCarried.1)) ∧
      (reply.ok = false → reply.executionOutcome = none → reply.decisionKind ≠ .noDecision → NoDoer (own () mailCarried.1)) := by
  have hreplied : (mailCarried.2.threads ()).outcome.bind (fun r => r.toOption.map GatewayResult.ok) = some true := by decide +kernel
  obtain ⟨reply,hreturned,hok⟩ := Prog.ret_of_outcome hreplied
  exact ⟨reply,hreturned,hok,mouth_honest mailCarried_run hreturned⟩

end Gateway

end SafeAgents
