import SafeAgents.Mcp.Registry

namespace SafeAgents.Mcp

inductive ToolState where
  | active
  | declared
  | drifted
  | unlisted
  | quarantined
  | withdrawn
  | duplicate
  deriving DecidableEq

def ToolState.value : ToolState → String
  | .active => "active"
  | .declared => "declared"
  | .drifted => "drifted"
  | .unlisted => "unlisted"
  | .quarantined => "quarantined"
  | .withdrawn => "withdrawn"
  | .duplicate => "duplicate"

def surfacedStates : List ToolState := [.drifted,.unlisted,.quarantined,.withdrawn,.duplicate]

structure RegistryRead where
  row : Option RegisteredTool := none
  hmacQuarantined : Bool := false

structure ToolVerdict where
  serverId : String
  toolName : String
  state : ToolState
  isCallable : Bool
  liveHash : Option String := none
  admittedHash : Option String := none
  detail : Option String := none
  deriving DecidableEq

structure DiscoveryFinding where
  serverId : String
  toolName : String
  reason : ToolState
  detail : String
  deriving DecidableEq

structure DiscoveryResult where
  verdicts : List ToolVerdict := []
  findings : List DiscoveryFinding := []
  callableTools : List (String × String) := []

def ToolVerdict.coordinate (v : ToolVerdict) : String × String := (v.serverId,v.toolName)

def RegistryRead.quarantined (read : RegistryRead) : Bool :=
  read.hmacQuarantined || read.row.any fun row => row.status == .quarantined

def McpServerDecl.declares (decl : McpServerDecl) (toolName : String) : Bool := decl.tools.any fun t => t.toolName == toolName

section Gate
variable (sha256 : String → String)

def classifyAdvertised (d : McpToolDef) (decl : Option McpServerDecl) (read : Option RegistryRead) : ToolVerdict :=
  if decl.any (McpServerDecl.declares · d.toolName) = false then
    { serverId := d.serverId, toolName := d.toolName, state := .unlisted, isCallable := false
      detail := some "advertised tool is not declared in AgentManifest.mcp_servers" }
  else if read.any RegistryRead.quarantined then
    { serverId := d.serverId, toolName := d.toolName, state := .quarantined, isCallable := false
      admittedHash := (read.bind RegistryRead.row).map RegisteredTool.defHash
      detail := some "registry row is quarantined (integrity failure or quarantined status)" }
  else
    match read.bind RegistryRead.row with
    | none =>
      { serverId := d.serverId, toolName := d.toolName, state := .declared, isCallable := false
        detail := some "declared but no admitted registry row" }
    | some row =>
      if computeToolDefHash sha256 d ≠ row.defHash then
        { serverId := d.serverId, toolName := d.toolName, state := .drifted, isCallable := false
          liveHash := some (computeToolDefHash sha256 d), admittedHash := some row.defHash
          detail := some "live definition hash differs from the admitted hash (drift)" }
      else
        { serverId := d.serverId, toolName := d.toolName, state := .active, isCallable := true
          liveHash := some (computeToolDefHash sha256 d), admittedHash := some row.defHash }

def seenCounts (advertised : List ToolDefinition) : Dict (String × String) Nat :=
  advertised.foldl (fun counts d => counts.set d.coordinate ((counts.get? d.coordinate).getD 0 + 1)) .empty

def isDuplicate (counts : Dict (String × String) Nat) (key : String × String) : Bool := (counts.get? key).any (1 < ·)

def duplicateDetail : String := "advertised more than once in one discovery response; uncallable regardless of any hash match"

def duplicateVerdict (d : McpToolDef) : ToolVerdict :=
  { serverId := d.serverId, toolName := d.toolName, state := .duplicate, isCallable := false, detail := some duplicateDetail }

-- A Python `or`: an empty detail gives way to the state's value as an absent one does.
def ToolVerdict.shown (v : ToolVerdict) : String :=
  match v.detail with
  | none => v.state.value
  | some detail => if detail = "" then v.state.value else detail

def ToolVerdict.finding (v : ToolVerdict) : DiscoveryFinding := ⟨v.serverId,v.toolName,v.state,v.shown⟩

namespace DiscoveryResult

def classified (r : DiscoveryResult) (v : ToolVerdict) : DiscoveryResult :=
  let r := { r with verdicts := r.verdicts ++ [v] }
  if v.isCallable then { r with callableTools := v.coordinate :: r.callableTools }
  else if v.state ∈ surfacedStates then { r with findings := r.findings ++ [v.finding] }
  else r

def surfaced (r : DiscoveryResult) (v : ToolVerdict) (detail : String) : DiscoveryResult :=
  { r with verdicts := r.verdicts ++ [v], findings := r.findings ++ [⟨v.serverId,v.toolName,v.state,detail⟩] }

end DiscoveryResult

variable (manifestDecl : Dict String McpServerDecl) (registryReads : Dict (String × String) RegistryRead)

-- Pass 1: the result so far, and the duplicated coordinates already surfaced.
def visitAdvertised (counts : Dict (String × String) Nat) (pass : DiscoveryResult × List (String × String)) (d : ToolDefinition) :
    DiscoveryResult × List (String × String) :=
  let (r,emitted) := pass
  if isDuplicate counts d.coordinate then
    if d.coordinate ∈ emitted then (r,emitted)
    else (r.surfaced (duplicateVerdict d.toMcpToolDef) duplicateDetail,d.coordinate :: emitted)
  else
    (r.classified (classifyAdvertised sha256 d.toMcpToolDef (manifestDecl.get? d.serverId) (registryReads.get? d.coordinate)),emitted)

def absentVerdict (key : String × String) (read : RegistryRead) (detail : String) : ToolVerdict where
  serverId := key.1
  toolName := key.2
  state := if read.quarantined then .quarantined else .withdrawn
  isCallable := false
  admittedHash := read.row.map RegisteredTool.defHash
  detail := some detail

def absentDetail (read : RegistryRead) : String :=
  if read.quarantined then "registry row is quarantined and no longer advertised"
  else "admitted tool is no longer advertised by the server"

def visitRead (counts : Dict (String × String) Nat) (r : DiscoveryResult) (entry : (String × String) × RegistryRead) : DiscoveryResult :=
  let (key,read) := entry
  if key ∈ counts.keys then r
  else if read.row.isNone && !read.hmacQuarantined then r
  else r.surfaced (absentVerdict key read (absentDetail read)) (absentDetail read)

def evaluateDiscovery (advertised : List ToolDefinition) : DiscoveryResult :=
  let counts := seenCounts advertised
  let pass := advertised.foldl (visitAdvertised sha256 manifestDecl registryReads counts) ({},[])
  registryReads.entries.foldl (visitRead counts) pass.1

end Gate

def coordinates (advertised : List ToolDefinition) : List (String × String) := advertised.map fun d => d.coordinate

theorem coordinates_cons (d : ToolDefinition) (rest : List ToolDefinition) :
    coordinates (d :: rest) = d.coordinate :: coordinates rest := rfl

section Counting
variable {advertised : List ToolDefinition} {key : String × String}

theorem countInto_get? (advertised : List ToolDefinition) (counts : Dict (String × String) Nat) (key : String × String) :
    ((advertised.foldl (fun counts d => counts.set d.coordinate ((counts.get? d.coordinate).getD 0 + 1)) counts).get? key).getD 0 =
      (counts.get? key).getD 0 + (coordinates advertised).count key := by
  induction advertised generalizing counts with
  | nil => rfl
  | cons d rest ih =>
    rw [List.foldl_cons,ih,Dict.get?_set,coordinates_cons,List.count_cons]
    by_cases hkey : key = d.coordinate
    · subst hkey
      simp only [if_true,Option.getD_some,beq_self_eq_true]
      omega
    · have hne : (d.coordinate == key) = false := beq_false_of_ne (Ne.symm hkey)
      simp only [hkey,if_false,hne,Bool.false_eq_true,Nat.add_zero]

theorem mem_countInto_keys (advertised : List ToolDefinition) (counts : Dict (String × String) Nat) :
    key ∈ (advertised.foldl (fun counts d => counts.set d.coordinate ((counts.get? d.coordinate).getD 0 + 1)) counts).keys ↔
      key ∈ counts.keys ∨ key ∈ coordinates advertised := by
  induction advertised generalizing counts with
  | nil => simp [coordinates]
  | cons d rest ih =>
    have hset : ∀ n, key ∈ (counts.set d.coordinate n).keys ↔ key ∈ counts.keys ∨ key = d.coordinate := by
      intro n
      rw [Dict.mem_keys,Dict.mem_keys]
      simp only [Dict.get?_set]
      by_cases hkey : key = d.coordinate
      · simp [hkey]
      · simp [hkey]
    rw [List.foldl_cons,ih,hset,coordinates_cons,List.mem_cons,or_assoc]

theorem isDuplicate_iff : isDuplicate (seenCounts advertised) key = true ↔ 1 < (coordinates advertised).count key := by
  have hcount := countInto_get? advertised .empty key
  rw [← seenCounts,Dict.get?_empty,Option.getD_none,Nat.zero_add] at hcount
  rw [isDuplicate,← hcount]
  cases (seenCounts advertised).get? key with
  | none => simp
  | some n => simp

theorem mem_seenCounts_keys : key ∈ (seenCounts advertised).keys ↔ key ∈ coordinates advertised := by
  rw [seenCounts,mem_countInto_keys]
  simp [Dict.keys]

end Counting

structure DiscoveryResult.Tallied (r : DiscoveryResult) : Prop where
  unique : (r.verdicts.map ToolVerdict.coordinate).Nodup
  findings : r.findings = (r.verdicts.filter fun v => v.state ∈ surfacedStates).map ToolVerdict.finding
  callable : ∀ key, key ∈ r.callableTools ↔ ∃ v ∈ r.verdicts, v.coordinate = key ∧ v.isCallable = true

namespace DiscoveryResult
variable {r : DiscoveryResult} {v : ToolVerdict}

theorem Tallied.empty : Tallied {} := ⟨List.nodup_nil,rfl,by simp⟩

theorem nodup_verdicts (h : r.Tallied) (hfresh : v.coordinate ∉ r.verdicts.map ToolVerdict.coordinate) :
    ((r.verdicts ++ [v]).map ToolVerdict.coordinate).Nodup := by
  rw [List.map_append,List.nodup_append]
  refine ⟨h.unique,List.nodup_singleton _,?_⟩
  intro a ha b hb hab
  have hb : b = v.coordinate := by simpa using hb
  exact hfresh (hb ▸ hab ▸ ha)

theorem Tallied.surfaced (h : r.Tallied) (hfresh : v.coordinate ∉ r.verdicts.map ToolVerdict.coordinate)
    (hcallable : v.isCallable = false) (hstate : v.state ∈ surfacedStates) : (r.surfaced v v.shown).Tallied where
  unique := nodup_verdicts h hfresh
  findings := by
    simp only [DiscoveryResult.surfaced,List.filter_append,List.map_append,← h.findings]
    simp [hstate,ToolVerdict.finding]
  callable key := by
    simp only [DiscoveryResult.surfaced,h.callable,List.mem_append,List.mem_singleton]
    constructor
    · rintro ⟨w,hw,hkey⟩
      exact ⟨w,.inl hw,hkey⟩
    · rintro ⟨w,hw | rfl,hkey,hcalls⟩
      · exact ⟨w,hw,hkey,hcalls⟩
      · rw [hcallable] at hcalls
        cases hcalls

theorem Tallied.classified (h : r.Tallied) (hfresh : v.coordinate ∉ r.verdicts.map ToolVerdict.coordinate)
    (hquiet : v.isCallable = true → v.state ∉ surfacedStates) : (r.classified v).Tallied := by
  have hmem : ∀ key, (∃ w ∈ r.verdicts ++ [v], w.coordinate = key ∧ w.isCallable = true) ↔
      key ∈ r.callableTools ∨ (v.coordinate = key ∧ v.isCallable = true) := by
    intro key
    rw [h.callable]
    simp only [List.mem_append,List.mem_singleton,or_and_right,exists_or,exists_eq_left]
  unfold DiscoveryResult.classified
  by_cases hcallable : v.isCallable = true
  · rw [if_pos hcallable]
    refine ⟨nodup_verdicts h hfresh,?_,fun key => ?_⟩
    · simp [h.findings,hquiet hcallable]
    · rw [hmem,List.mem_cons,hcallable,and_iff_left rfl,or_comm,eq_comm]
  · have hnot : ∀ key, (∃ w ∈ r.verdicts ++ [v], w.coordinate = key ∧ w.isCallable = true) ↔ key ∈ r.callableTools := by
      intro key
      rw [hmem,or_iff_left]
      exact fun hv => hcallable hv.2
    rw [if_neg hcallable]
    split
    · rename_i hstate
      refine ⟨nodup_verdicts h hfresh,?_,fun key => (hnot key).symm⟩
      simp [h.findings,hstate]
    · rename_i hstate
      refine ⟨nodup_verdicts h hfresh,?_,fun key => (hnot key).symm⟩
      simp [h.findings,hstate]

@[simp] theorem verdicts_surfaced (detail : String) : (r.surfaced v detail).verdicts = r.verdicts ++ [v] := rfl

@[simp] theorem verdicts_classified : (r.classified v).verdicts = r.verdicts ++ [v] := by
  unfold DiscoveryResult.classified
  split
  · rfl
  · split
    · rfl
    · rfl

@[simp] theorem callableTools_surfaced (detail : String) : (r.surfaced v detail).callableTools = r.callableTools := rfl

end DiscoveryResult

section Classifying
variable {sha256 : String → String} {d : McpToolDef} {decl : Option McpServerDecl} {read : Option RegistryRead}

def RegistryRead.Activates (sha256 : String → String) (read : RegistryRead) (d : McpToolDef) : Prop :=
  read.hmacQuarantined = false ∧ ∃ row, read.row = some row ∧ row.status = .active ∧ computeToolDefHash sha256 d = row.defHash

theorem not_quarantined {row : RegisteredTool} {read : RegistryRead} (hrow : read.row = some row) :
    read.quarantined = false ↔ read.hmacQuarantined = false ∧ row.status = .active := by
  rw [RegistryRead.quarantined,hrow,Bool.or_eq_false_iff,Option.any_some]
  cases row.status with
  | active => simp
  | quarantined => simp

theorem classifyAdvertised_coordinate : (classifyAdvertised sha256 d decl read).coordinate = d.coordinate := by
  unfold classifyAdvertised
  split
  · rfl
  · split
    · rfl
    · split
      · rfl
      · split
        · rfl
        · rfl

theorem classifyAdvertised_callable : (classifyAdvertised sha256 d decl read).isCallable = true ↔
    (∃ server, decl = some server ∧ server.declares d.toolName = true) ∧ ∃ found, read = some found ∧ found.Activates sha256 d := by
  have hdeclared : decl.any (McpServerDecl.declares · d.toolName) = true ↔
      ∃ server, decl = some server ∧ server.declares d.toolName = true := by
    cases decl with
    | none => simp
    | some server => simp
  unfold classifyAdvertised
  split
  · rename_i hundeclared
    rw [← hdeclared,hundeclared]
    simp
  · rename_i hknown
    rw [← hdeclared,eq_true_of_ne_false hknown]
    simp only [true_and]
    cases read with
    | none => simp
    | some found =>
      cases hrow : found.row with
      | none =>
        simp only [RegistryRead.Activates,hrow,Option.bind_some]
        split <;> simp [hrow]
      | some row =>
        simp only [RegistryRead.Activates,hrow,Option.bind_some,Option.any_some,Option.some.injEq,exists_eq_left']
        cases hquarantined : found.quarantined with
        | true =>
          have hnot : ¬ (found.hmacQuarantined = false ∧ row.status = .active) := by
            rw [← not_quarantined hrow,hquarantined]
            simp
          simp only [if_true,Bool.false_eq_true,false_iff]
          exact fun h => hnot ⟨h.1,h.2.1⟩
        | false =>
          obtain ⟨hverified,hactive⟩ := (not_quarantined hrow).mp hquarantined
          simp only [Bool.false_eq_true,if_false,hverified,hactive,true_and]
          split
          · rename_i hdrift
            simpa using hdrift
          · rename_i hsame
            simpa using hsame

theorem classifyAdvertised_quiet (h : (classifyAdvertised sha256 d decl read).isCallable = true) :
    (classifyAdvertised sha256 d decl read).state ∉ surfacedStates := by
  revert h
  unfold classifyAdvertised
  split
  · simp
  · split
    · simp
    · split
      · simp
      · split
        · simp
        · intro _
          exact (by decide : ToolState.active ∉ surfacedStates)

end Classifying

section Passes
variable {sha256 : String → String} {manifestDecl : Dict String McpServerDecl} {registryReads : Dict (String × String) RegistryRead}
  {advertised : List ToolDefinition}

def judged (sha256 : String → String) (manifestDecl : Dict String McpServerDecl)
    (registryReads : Dict (String × String) RegistryRead) (advertised : List ToolDefinition) (d : ToolDefinition) : ToolVerdict :=
  if isDuplicate (seenCounts advertised) d.coordinate then duplicateVerdict d.toMcpToolDef
  else classifyAdvertised sha256 d.toMcpToolDef (manifestDecl.get? d.serverId) (registryReads.get? d.coordinate)

theorem judged_coordinate (d : ToolDefinition) : (judged sha256 manifestDecl registryReads advertised d).coordinate = d.coordinate := by
  unfold judged
  split
  · rfl
  · exact classifyAdvertised_coordinate

structure FirstPass (sha256 : String → String) (manifestDecl : Dict String McpServerDecl)
    (registryReads : Dict (String × String) RegistryRead) (advertised done : List ToolDefinition)
    (pass : DiscoveryResult × List (String × String)) : Prop where
  tallied : pass.1.Tallied
  visited : ∀ key, key ∈ pass.1.verdicts.map ToolVerdict.coordinate ↔ key ∈ coordinates done
  judges : ∀ v ∈ pass.1.verdicts, ∃ d ∈ done, v = judged sha256 manifestDecl registryReads advertised d
  emitted : ∀ key, key ∈ pass.2 ↔ key ∈ coordinates done ∧ isDuplicate (seenCounts advertised) key = true

theorem mem_coordinates_snoc {done : List ToolDefinition} {d : ToolDefinition} {key : String × String} :
    key ∈ coordinates (done ++ [d]) ↔ key ∈ coordinates done ∨ key = d.coordinate := by
  simp [coordinates]

theorem FirstPass.appends {done : List ToolDefinition} {pass pass' : DiscoveryResult × List (String × String)} {d : ToolDefinition}
    (h : FirstPass sha256 manifestDecl registryReads advertised done pass) (htallied : pass'.1.Tallied)
    (hverdicts : pass'.1.verdicts = pass.1.verdicts ++ [judged sha256 manifestDecl registryReads advertised d])
    (hemitted : ∀ key, key ∈ pass'.2 ↔ key ∈ coordinates (done ++ [d]) ∧ isDuplicate (seenCounts advertised) key = true) :
    FirstPass sha256 manifestDecl registryReads advertised (done ++ [d]) pass' where
  tallied := htallied
  visited key := by
    rw [hverdicts,List.map_append,List.mem_append,h.visited,mem_coordinates_snoc,List.map_singleton,List.mem_singleton,judged_coordinate]
  judges v hv := by
    rw [hverdicts,List.mem_append,List.mem_singleton] at hv
    rcases hv with hv | rfl
    · obtain ⟨d',hd',hjudged⟩ := h.judges v hv
      exact ⟨d',List.mem_append_left _ hd',hjudged⟩
    · exact ⟨d,List.mem_append_right _ List.mem_cons_self,rfl⟩
  emitted := hemitted

theorem FirstPass.repeats {done : List ToolDefinition} {pass : DiscoveryResult × List (String × String)} {d : ToolDefinition}
    (h : FirstPass sha256 manifestDecl registryReads advertised done pass) (hseen : d.coordinate ∈ coordinates done) :
    FirstPass sha256 manifestDecl registryReads advertised (done ++ [d]) pass := by
  have hsame : ∀ key, key ∈ coordinates (done ++ [d]) ↔ key ∈ coordinates done := by
    intro key
    rw [mem_coordinates_snoc,or_iff_left_iff_imp]
    rintro rfl
    exact hseen
  refine ⟨h.tallied,fun key => by rw [h.visited,hsame],fun v hv => ?_,fun key => by rw [h.emitted,hsame]⟩
  obtain ⟨d',hd',hjudged⟩ := h.judges v hv
  exact ⟨d',List.mem_append_left _ hd',hjudged⟩

theorem duplicateVerdict_shown (d : McpToolDef) : (duplicateVerdict d).shown = duplicateDetail := by
  rw [ToolVerdict.shown,duplicateVerdict]
  simp only [ite_eq_right_iff]
  decide

theorem firstPass_visit {done rest : List ToolDefinition} {d : ToolDefinition} (hall : done ++ d :: rest = advertised)
    {pass : DiscoveryResult × List (String × String)} (h : FirstPass sha256 manifestDecl registryReads advertised done pass) :
    FirstPass sha256 manifestDecl registryReads advertised (done ++ [d])
      (visitAdvertised sha256 manifestDecl registryReads (seenCounts advertised) pass d) := by
  obtain ⟨r,emitted⟩ := pass
  unfold visitAdvertised
  dsimp only
  split
  · rename_i hduplicate
    have hjudged : judged sha256 manifestDecl registryReads advertised d = duplicateVerdict d.toMcpToolDef := if_pos hduplicate
    split
    · rename_i hemitted
      exact h.repeats ((h.emitted d.coordinate).mp hemitted).1
    · rename_i hfirst
      have hfresh : d.coordinate ∉ r.verdicts.map ToolVerdict.coordinate := fun hmem =>
        hfirst ((h.emitted d.coordinate).mpr ⟨(h.visited d.coordinate).mp hmem,hduplicate⟩)
      refine h.appends ?_ (by rw [hjudged]; rfl) fun key => ?_
      · rw [← duplicateVerdict_shown d.toMcpToolDef]
        exact h.tallied.surfaced hfresh rfl (show ToolState.duplicate ∈ surfacedStates by decide)
      · rw [List.mem_cons,h.emitted,mem_coordinates_snoc]
        constructor
        · rintro (rfl | ⟨hdone,hdup⟩)
          · exact ⟨.inr rfl,hduplicate⟩
          · exact ⟨.inl hdone,hdup⟩
        · rintro ⟨hdone | rfl,hdup⟩
          · exact .inr ⟨hdone,hdup⟩
          · exact .inl rfl
  · rename_i honce
    have hjudged : judged sha256 manifestDecl registryReads advertised d =
        classifyAdvertised sha256 d.toMcpToolDef (manifestDecl.get? d.serverId) (registryReads.get? d.coordinate) := if_neg honce
    have hdone : d.coordinate ∉ coordinates done := by
      intro hmem
      apply honce
      rw [isDuplicate_iff,← hall,coordinates,List.map_append,List.count_append,← coordinates,← coordinates,coordinates_cons,
        List.count_cons_self]
      have hpos := List.count_pos_iff.mpr hmem
      omega
    have hfresh : (judged sha256 manifestDecl registryReads advertised d).coordinate ∉ r.verdicts.map ToolVerdict.coordinate := by
      rw [judged_coordinate,h.visited]
      exact hdone
    rw [← hjudged]
    refine h.appends (h.tallied.classified hfresh fun hcallable => ?_) DiscoveryResult.verdicts_classified fun key => ?_
    · rw [hjudged] at hcallable ⊢
      exact classifyAdvertised_quiet hcallable
    · rw [h.emitted,mem_coordinates_snoc]
      constructor
      · rintro ⟨hmem,hdup⟩
        exact ⟨.inl hmem,hdup⟩
      · rintro ⟨hmem | rfl,hdup⟩
        · exact ⟨hmem,hdup⟩
        · exact absurd hdup honce

theorem firstPass_fold (rest done : List ToolDefinition) (hall : done ++ rest = advertised)
    {pass : DiscoveryResult × List (String × String)} (h : FirstPass sha256 manifestDecl registryReads advertised done pass) :
    FirstPass sha256 manifestDecl registryReads advertised advertised
      (rest.foldl (visitAdvertised sha256 manifestDecl registryReads (seenCounts advertised)) pass) := by
  induction rest generalizing done pass with
  | nil =>
    rw [List.append_nil] at hall
    subst hall
    exact h
  | cons d rest ih =>
    refine ih (done ++ [d]) ?_ (firstPass_visit hall h)
    rw [List.append_assoc]
    exact hall

def RegistryRead.Holds (read : RegistryRead) : Prop := read.row.isSome = true ∨ read.hmacQuarantined = true

structure SecondPass (advertised : List ToolDefinition) (first : DiscoveryResult) (done : List ((String × String) × RegistryRead))
    (r : DiscoveryResult) : Prop where
  tallied : r.Tallied
  visited : ∀ key, key ∈ r.verdicts.map ToolVerdict.coordinate ↔
    key ∈ coordinates advertised ∨ ∃ read, (key,read) ∈ done ∧ read.Holds
  callable : r.callableTools = first.callableTools

theorem absentVerdict_shown (key : String × String) (read : RegistryRead) : (absentVerdict key read (absentDetail read)).shown =
    absentDetail read := by
  have hdetail : absentDetail read ≠ "" := by
    unfold absentDetail
    split
    · decide
    · decide
  exact if_neg hdetail

theorem secondPass_visit {first r : DiscoveryResult} {done : List ((String × String) × RegistryRead)}
    {entry : (String × String) × RegistryRead} (hunvisited : entry.1 ∉ done.map Prod.fst)
    (h : SecondPass advertised first done r) : SecondPass advertised first (done ++ [entry]) (visitRead (seenCounts advertised) r entry) := by
  obtain ⟨key,read⟩ := entry
  have hmem : ∀ key', (∃ read', (key',read') ∈ done ++ [(key,read)] ∧ read'.Holds) ↔
      (∃ read', (key',read') ∈ done ∧ read'.Holds) ∨ (key' = key ∧ read.Holds) := by
    intro key'
    simp only [List.mem_append,List.mem_singleton,Prod.mk.injEq,or_and_right,exists_or,and_assoc,exists_and_left,exists_eq_left]
  unfold visitRead
  dsimp only
  split
  · rename_i hadvertised
    rw [mem_seenCounts_keys] at hadvertised
    refine ⟨h.tallied,fun key' => ?_,h.callable⟩
    rw [h.visited,hmem]
    constructor
    · rintro (hadv | hread)
      · exact .inl hadv
      · exact .inr (.inl hread)
    · rintro (hadv | hread | ⟨rfl,_⟩)
      · exact .inl hadv
      · exact .inr hread
      · exact .inl hadvertised
  · rename_i hunadvertised
    rw [mem_seenCounts_keys] at hunadvertised
    split
    · rename_i hempty
      have hnot : ¬ read.Holds := by
        rintro (hrow | hquarantined)
        · simp [Option.isNone_iff_eq_none.mp (Bool.and_eq_true_iff.mp hempty).1] at hrow
        · simp [hquarantined] at hempty
      refine ⟨h.tallied,fun key' => ?_,h.callable⟩
      rw [h.visited,hmem]
      simp only [hnot,and_false,or_false]
    · rename_i hheld
      have hholds : read.Holds := by
        cases hrow : read.row with
        | some row => exact .inl (by rw [hrow]; rfl)
        | none => exact .inr (by simpa [hrow] using hheld)
      have hfresh : key ∉ r.verdicts.map ToolVerdict.coordinate := by
        rw [h.visited]
        rintro (hadv | ⟨read',hread,_⟩)
        · exact hunadvertised hadv
        · exact hunvisited (List.mem_map.mpr ⟨(key,read'),hread,rfl⟩)
      have hstate : (absentVerdict key read (absentDetail read)).state ∈ surfacedStates := by
        unfold absentVerdict
        dsimp only
        split
        · decide
        · decide
      refine ⟨?_,fun key' => ?_,h.callable⟩
      · have hsurfaced := h.tallied.surfaced (v := absentVerdict key read (absentDetail read)) hfresh rfl hstate
        rwa [absentVerdict_shown] at hsurfaced
      · rw [DiscoveryResult.verdicts_surfaced,List.map_append,List.mem_append,h.visited,hmem,List.map_singleton,List.mem_singleton]
        have hkey : (absentVerdict key read (absentDetail read)).coordinate = key := rfl
        rw [hkey,or_assoc]
        simp only [hholds,and_true]

theorem secondPass_fold {first : DiscoveryResult} (rest done : List ((String × String) × RegistryRead))
    (hunique : ((done ++ rest).map Prod.fst).Nodup) {r : DiscoveryResult} (h : SecondPass advertised first done r) :
    SecondPass advertised first (done ++ rest) (rest.foldl (visitRead (seenCounts advertised)) r) := by
  induction rest generalizing done r with
  | nil =>
    rw [List.append_nil]
    exact h
  | cons entry rest ih =>
    have hunvisited : entry.1 ∉ done.map Prod.fst := by
      intro hmem
      rw [List.map_append,List.nodup_append] at hunique
      exact hunique.2.2 entry.1 hmem entry.1 List.mem_cons_self rfl
    have hsnoc : done ++ entry :: rest = (done ++ [entry]) ++ rest := List.append_cons done entry rest
    rw [hsnoc] at hunique ⊢
    exact ih (done ++ [entry]) hunique (secondPass_visit hunvisited h)

theorem firstPass_start : FirstPass sha256 manifestDecl registryReads advertised [] ({},[]) where
  tallied := .empty
  visited key := by simp [coordinates]
  judges v hv := by cases hv
  emitted key := by simp [coordinates]

def Ratified (sha256 : String → String) (manifestDecl : Dict String McpServerDecl)
    (registryReads : Dict (String × String) RegistryRead) (advertised : List ToolDefinition) (key : String × String) : Prop :=
  (∃ decl, manifestDecl.get? key.1 = some decl ∧ decl.declares key.2 = true) ∧
    ∃ live, advertised.filter (fun d => d.coordinate == key) = [live] ∧
      ∃ read, registryReads.get? key = some read ∧ read.Activates sha256 live.toMcpToolDef

theorem count_coordinates (advertised : List ToolDefinition) (key : String × String) :
    (coordinates advertised).count key = (advertised.filter fun d => d.coordinate == key).length := by
  rw [coordinates,List.count,List.countP_map,List.countP_eq_length_filter]
  rfl

theorem single_of_once {d : ToolDefinition} (hd : d ∈ advertised)
    (honce : ¬ isDuplicate (seenCounts advertised) d.coordinate = true) :
    advertised.filter (fun d' => d'.coordinate == d.coordinate) = [d] := by
  have hmem : d ∈ advertised.filter fun d' => d'.coordinate == d.coordinate := List.mem_filter.mpr ⟨hd,beq_self_eq_true _⟩
  have hlength : (advertised.filter fun d' => d'.coordinate == d.coordinate).length ≤ 1 := by
    rw [← count_coordinates]
    exact Nat.not_lt.mp fun hlt => honce (isDuplicate_iff.mpr hlt)
  obtain ⟨d',hsingle⟩ := List.length_eq_one_iff.mp (Nat.le_antisymm hlength (List.length_pos_of_mem hmem))
  rw [hsingle,List.mem_singleton] at hmem
  rw [hsingle,hmem]

theorem judged_callable {d : ToolDefinition} (hd : d ∈ advertised) :
    (judged sha256 manifestDecl registryReads advertised d).isCallable = true ↔
      Ratified sha256 manifestDecl registryReads advertised d.coordinate := by
  unfold judged
  split
  · rename_i hduplicate
    simp only [duplicateVerdict,Bool.false_eq_true,false_iff]
    rintro ⟨_,live,hsingle,_⟩
    have hcount := isDuplicate_iff.mp hduplicate
    rw [count_coordinates,hsingle] at hcount
    exact absurd hcount (Nat.lt_irrefl 1)
  · rename_i honce
    have hsingle := single_of_once hd honce
    rw [classifyAdvertised_callable,Ratified,hsingle]
    constructor
    · rintro ⟨hdeclared,hread⟩
      exact ⟨hdeclared,d,rfl,hread⟩
    · rintro ⟨hdeclared,live,hlive,hread⟩
      cases hlive
      exact ⟨hdeclared,hread⟩

theorem FirstPass.ratified {pass : DiscoveryResult × List (String × String)}
    (h : FirstPass sha256 manifestDecl registryReads advertised advertised pass) (key : String × String) :
    key ∈ pass.1.callableTools ↔ Ratified sha256 manifestDecl registryReads advertised key := by
  rw [h.tallied.callable]
  constructor
  · rintro ⟨v,hv,rfl,hcallable⟩
    obtain ⟨d,hd,rfl⟩ := h.judges v hv
    rw [judged_coordinate]
    exact (judged_callable hd).mp hcallable
  · intro hratified
    have ⟨_,live,hsingle,_⟩ := hratified
    have hlive : live ∈ advertised ∧ live.coordinate = key := by
      have hmem : live ∈ advertised.filter fun d => d.coordinate == key := by
        rw [hsingle]
        exact List.mem_cons_self
      obtain ⟨hmem,hkey⟩ := List.mem_filter.mp hmem
      exact ⟨hmem,eq_of_beq hkey⟩
    have hvisited : key ∈ pass.1.verdicts.map ToolVerdict.coordinate := by
      rw [h.visited]
      exact List.mem_map.mpr ⟨live,hlive⟩
    obtain ⟨v,hv,hkey⟩ := List.mem_map.mp hvisited
    obtain ⟨d,hd,rfl⟩ := h.judges v hv
    rw [judged_coordinate] at hkey
    refine ⟨_,hv,by rw [judged_coordinate,hkey],(judged_callable hd).mpr ?_⟩
    rw [hkey]
    exact hratified

theorem firstPass_done (sha256 : String → String) (manifestDecl : Dict String McpServerDecl)
    (registryReads : Dict (String × String) RegistryRead) (advertised : List ToolDefinition) :
    FirstPass sha256 manifestDecl registryReads advertised advertised
      (advertised.foldl (visitAdvertised sha256 manifestDecl registryReads (seenCounts advertised)) ({},[])) :=
  firstPass_fold advertised [] rfl firstPass_start

theorem secondPass_done (sha256 : String → String) (manifestDecl : Dict String McpServerDecl)
    (registryReads : Dict (String × String) RegistryRead) (advertised : List ToolDefinition) :
    SecondPass advertised (advertised.foldl (visitAdvertised sha256 manifestDecl registryReads (seenCounts advertised)) ({},[])).1
      registryReads.entries (evaluateDiscovery sha256 manifestDecl registryReads advertised) := by
  have hfirst := firstPass_done sha256 manifestDecl registryReads advertised
  refine secondPass_fold registryReads.entries [] registryReads.unique ⟨hfirst.tallied,fun key => ?_,rfl⟩
  rw [hfirst.visited]
  simp

end Passes

theorem discovery_admits_ratified (sha256 : String → String) (hinjective : Function.Injective sha256)
    (manifestDecl : Dict String McpServerDecl) (registryReads : Dict (String × String) RegistryRead) (advertised : List ToolDefinition) :
    let result := evaluateDiscovery sha256 manifestDecl registryReads advertised
    (∀ key, key ∈ result.callableTools ↔ Ratified sha256 manifestDecl registryReads advertised key) ∧
      (∀ (row : RegisteredTool) (admitted live : ToolDefinition), computeToolDefHash sha256 admitted.toMcpToolDef = row.defHash →
        (computeToolDefHash sha256 live.toMcpToolDef = row.defHash ↔ live = admitted)) ∧
      (result.verdicts.map ToolVerdict.coordinate).Nodup ∧
      (∀ key, key ∈ result.verdicts.map ToolVerdict.coordinate ↔
        key ∈ coordinates advertised ∨ ∃ read, registryReads.get? key = some read ∧ read.Holds) ∧
      result.findings = (result.verdicts.filter fun v => v.state ∈ surfacedStates).map ToolVerdict.finding := by
  have hfirst := firstPass_done sha256 manifestDecl registryReads advertised
  have hsecond := secondPass_done sha256 manifestDecl registryReads advertised
  refine ⟨fun key => ?_,fun row admitted live hadmitted => ?_,hsecond.tallied.unique,fun key => ?_,hsecond.tallied.findings⟩
  · rw [hsecond.callable]
    exact hfirst.ratified key
  · rw [← hadmitted]
    constructor
    · exact computeToolDefHash_injective hinjective
    · rintro rfl
      rfl
  · rw [hsecond.visited]
    simp only [Dict.get?_iff]

namespace QuoteDesk

def digest (text : String) : String := "sha256:" ++ text

theorem digest_injective : Function.Injective digest := fun _ _ h => (String.append_right_inj _).mp h

def plain (serverId toolName description : String) : ToolDefinition where
  toMcpToolDef := { serverId, toolName, inputSchema := [], description }
  admitted := ⟨⟨List.Pairwise.nil,trivial⟩,nofun,nofun,nofun,nofun,nofun⟩

def quote : ToolDefinition := plain "desk" "quote" "the last price"

def row : RegisteredTool := ⟨quote,computeToolDefHash digest quote.toMcpToolDef,.active,"arn:owner","2026-03-04T00:00:00+00:00"⟩

def manifest : Dict String McpServerDecl := ⟨[("desk",⟨[⟨"quote",false⟩],List.nodup_singleton _⟩)],List.nodup_singleton _⟩

def reads (read : RegistryRead) : Dict (String × String) RegistryRead := ⟨[(("desk","quote"),read)],List.nodup_singleton _⟩

theorem unadmitted_read_unjudged : ("desk","quote") ∈ (reads ⟨none,false⟩).keys ∧
    ("desk","quote") ∉ (evaluateDiscovery digest manifest (reads ⟨none,false⟩) []).verdicts.map ToolVerdict.coordinate := by
  decide

theorem discovery_admits_ratified_quote :
    ("desk","quote") ∈ (evaluateDiscovery digest manifest (reads ⟨some row,false⟩) [quote]).callableTools ∧
      ("desk","quote") ∉ (evaluateDiscovery digest manifest (reads ⟨some row,false⟩) [quote,quote]).callableTools := by
  have honce := discovery_admits_ratified digest digest_injective manifest (reads ⟨some row,false⟩) [quote]
  have htwice := discovery_admits_ratified digest digest_injective manifest (reads ⟨some row,false⟩) [quote,quote]
  refine ⟨(honce.1 _).mpr ⟨⟨_,rfl,by decide⟩,quote,rfl,_,rfl,rfl,row,rfl,rfl,rfl⟩,fun hcallable => ?_⟩
  obtain ⟨_,live,hsingle,_⟩ := (htwice.1 _).mp hcallable
  have hlength : 2 = 1 := congrArg List.length hsingle
  cases hlength

end QuoteDesk

end SafeAgents.Mcp
