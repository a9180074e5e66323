import SafeAgents.Grants.Read
import SafeAgents.Mcp.Proposals
import SafeAgents.SealedRows
import SafeAgents.Text.Lex

namespace SafeAgents.Grants

open Lexical SealedRows Wire

def HashFree (text : String) : Prop := '#' ∉ text.toList

def Principal.HashFree (p : Principal) : Prop := Grants.HashFree p.agentId ∧ Grants.HashFree p.skill ∧ Grants.HashFree p.user

section Keys

def keyParts (p : Principal) : List (List Char) := [p.agentId.toList,p.skill.toList,p.user.toList,p.tier.text.toList]

theorem key_toList (p : Principal) : p.key.toList = joined '#' (keyParts p) := by
  have hsep : "#".toList = ['#'] := rfl
  simp [Principal.key,keyParts,joined,hsep]

theorem tier_hashFree (t : Tier) : HashFree t.text := by
  unfold HashFree
  cases t <;> decide

theorem keyParts_hashFree {p : Principal} (h : Principal.HashFree p) : ∀ part ∈ keyParts p, '#' ∉ part := by
  intro part hpart
  simp only [keyParts,List.mem_cons,List.not_mem_nil,or_false] at hpart
  rcases hpart with rfl | rfl | rfl | rfl
  · exact h.1
  · exact h.2.1
  · exact h.2.2
  · exact tier_hashFree p.tier

theorem keyParts_injective {p q : Principal} (h : keyParts p = keyParts q) : p = q := by
  simp only [keyParts,List.cons.injEq,String.toList_inj,and_true] at h
  obtain ⟨hagent,hskill,huser,htier⟩ := h
  cases p
  cases q
  simp only [Principal.mk.injEq]
  exact ⟨hagent,hskill,huser,Tier.text_injective htier⟩

theorem principal_key_injective {p q : Principal} (hp : Principal.HashFree p) (h : p.key = q.key) : p = q := by
  have hlists := congrArg String.toList h
  rw [key_toList,key_toList] at hlists
  exact keyParts_injective (joined_injective (show (keyParts p).length = (keyParts q).length from rfl) (keyParts_hashFree hp) hlists)

theorem grantRowKey_injective {backend : RecordBackend} {p q : Principal} {a b : String} (hp : Principal.HashFree p)
    (h : grantRowKey backend p a = grantRowKey backend q b) : p = q ∧ a = b := by
  cases backend with
  | memory =>
    obtain ⟨hkey,hclass⟩ := Prod.mk.inj h
    exact ⟨principal_key_injective hp hkey,hclass⟩
  | sqlite =>
    obtain ⟨hkey,hclass⟩ := Prod.mk.inj h
    exact ⟨principal_key_injective hp ((String.append_right_inj _).mp hkey),(String.append_right_inj _).mp hclass⟩
  | dynamo =>
    obtain ⟨hkey,hclass⟩ := Prod.mk.inj h
    exact ⟨principal_key_injective hp ((String.append_right_inj _).mp hkey),(String.append_right_inj _).mp hclass⟩

def pkParts (p : Principal) (actionClass : String) : List (List Char) := keyParts p ++ [actionClass.toList]

theorem proposalPk_toList (p : Principal) (actionClass : String) :
    (proposalPk p actionClass).toList = "PROPOSAL#".toList ++ joined '#' (pkParts p actionClass) := by
  have hsep : "#".toList = ['#'] := rfl
  simp [proposalPk,Principal.key,pkParts,keyParts,joined,hsep]

theorem proposalKey_injective {p q : Principal} {a b x y : String} (hp : Principal.HashFree p) (ha : HashFree a)
    (h : proposalKey p a x = proposalKey q b y) : p = q ∧ a = b ∧ x = y := by
  obtain ⟨hpk,hid⟩ := Prod.mk.inj h
  have hlists := congrArg String.toList hpk
  rw [proposalPk_toList,proposalPk_toList,List.append_cancel_left_eq] at hlists
  have hfree : ∀ part ∈ pkParts p a, '#' ∉ part := by
    intro part hpart
    rcases List.mem_append.mp hpart with hpart | hpart
    · exact keyParts_hashFree hp part hpart
    · rw [List.mem_singleton.mp hpart]
      exact ha
  have hparts := joined_injective (show (pkParts p a).length = (pkParts q b).length from rfl) hfree hlists
  obtain ⟨hkeys,hclass⟩ := List.append_inj hparts rfl
  exact ⟨keyParts_injective hkeys,String.toList_injective (by simpa using hclass),hid⟩

theorem toolprop_toList (serverId toolName : String) :
    ("TOOLPROP#" ++ serverId ++ "#" ++ toolName).toList = "TOOLPROP#".toList ++ joined '#' [serverId.toList,toolName.toList] := by
  have hsep : "#".toList = ['#'] := rfl
  simp [joined,hsep]

-- The memory store's key is the triple itself; the table stores join the server and the tool.
def AdmissionPlain (backend : RecordBackend) (serverId toolName : String) : Prop :=
  backend = .memory ∨ HashFree serverId ∧ HashFree toolName

theorem toolprop_injective {s t s' t' : String} (hs : HashFree s) (ht : HashFree t)
    (h : "TOOLPROP#" ++ s ++ "#" ++ t = "TOOLPROP#" ++ s' ++ "#" ++ t') : s = s' ∧ t = t' := by
  have hlists := congrArg String.toList h
  rw [toolprop_toList,toolprop_toList,List.append_cancel_left_eq] at hlists
  have hfree : ∀ part ∈ [s.toList,t.toList], '#' ∉ part := by
    intro part hpart
    simp only [List.mem_cons,List.not_mem_nil,or_false] at hpart
    rcases hpart with rfl | rfl
    · exact hs
    · exact ht
  have hparts := joined_injective (show [s.toList,t.toList].length = [s'.toList,t'.toList].length from rfl) hfree hlists
  simpa [String.toList_inj] using hparts

theorem admissionKey_injective {backend : RecordBackend} {s t i s' t' i' : String} (hplain : AdmissionPlain backend s t)
    (h : Mcp.admissionKey backend s t i = Mcp.admissionKey backend s' t' i') : s = s' ∧ t = t' ∧ i = i' := by
  rcases hplain with rfl | ⟨hs,ht⟩
  · simpa [Mcp.admissionKey] using h
  · have hjoined : "TOOLPROP#" ++ s ++ "#" ++ t = "TOOLPROP#" ++ s' ++ "#" ++ t' ∧ i = i' → s = s' ∧ t = t' ∧ i = i' := by
      rintro ⟨hpk,hid⟩
      obtain ⟨hserver,htool⟩ := toolprop_injective hs ht hpk
      exact ⟨hserver,htool,hid⟩
    cases backend with
    | memory => simpa [Mcp.admissionKey] using h
    | sqlite => exact hjoined (by simpa [Mcp.admissionKey] using h)
    | dynamo => exact hjoined (by simpa [Mcp.admissionKey] using h)

end Keys

structure StoredRows (F : Type) where
  state : GrantState := {}
  proposals : ProposalTable := fun _ => none
  admissions : Mcp.AdmissionTable := fun _ => none
  grantsWritten : List GrantDocument := []
  proposalsWritten : List (PromotionProposal F) := []
  admissionsWritten : List Mcp.McpAdmissionProposal := []

inductive RowEvent (F : Type) where
  | write (request : WriteRequest)
  | put (grant : GrantDocument)
  | create (grant : GrantDocument)
  | propose (proposal : PromotionProposal F)
  | consume (principal : Principal) (actionClass proposalId : String) (status : ProposalStatus)
  | proposeAdmission (proposal : Mcp.McpAdmissionProposal)
  | consumeAdmission (serverId toolName proposalId : String) (status : ProposalStatus)
  | moveGrants (move : Move (String × String))
  | moveProposals (move : Move (String × String))
  | moveAdmissions (move : Move (List String))

section Runs
variable {F : Type} (fmt : FloatFormat F) (lax : Coercion F) (hmac : String → String) (isLabelLatency : String → Bool)
  (backend : RecordBackend)

def RowEvent.Constructed : RowEvent F → Prop
  | .write request => request.grant.accepted isLabelLatency = true
  | .put grant => grant.accepted isLabelLatency = true
  | .create grant => grant.accepted isLabelLatency = true
  | .propose proposal => proposal.accepted fmt = true
  | .proposeAdmission proposal => proposal.toolDef.Admitted
  | _ => True

def StoredRows.step (rows : StoredRows F) : RowEvent F → StoredRows F
  | .write request =>
    match writeRecordAndGrant hmac (GrantDocument.modelValidateJson isLabelLatency) backend rows.state request with
    | .error _ => rows
    | .ok state => { rows with state, grantsWritten := request.grant :: rows.grantsWritten }
  | .put grant => { rows with state := putGrant hmac backend rows.state grant, grantsWritten := grant :: rows.grantsWritten }
  | .create grant =>
    match createGrant hmac backend rows.state grant with
    | .error _ => rows
    | .ok state => { rows with state, grantsWritten := grant :: rows.grantsWritten }
  | .propose proposal =>
    match putProposal fmt hmac rows.proposals proposal with
    | .error _ => rows
    | .ok proposals => { rows with proposals, proposalsWritten := proposal :: rows.proposalsWritten }
  | .consume principal actionClass proposalId status =>
    match consumeProposal backend rows.proposals principal actionClass proposalId status with
    | .error _ => rows
    | .ok proposals => { rows with proposals }
  | .proposeAdmission proposal =>
    match Mcp.putProposal hmac backend rows.admissions proposal with
    | .error _ => rows
    | .ok admissions => { rows with admissions, admissionsWritten := proposal :: rows.admissionsWritten }
  | .consumeAdmission serverId toolName proposalId status =>
    match Mcp.consumeProposal backend rows.admissions serverId toolName proposalId status with
    | .error _ => rows
    | .ok admissions => { rows with admissions }
  | .moveGrants move => { rows with state := { rows.state with grants := move.apply rows.state.grants } }
  | .moveProposals move => { rows with proposals := move.apply rows.proposals }
  | .moveAdmissions move => { rows with admissions := move.apply rows.admissions }

inductive StoredRows.Reached (allowed : StoredRows F → RowEvent F → Prop) : StoredRows F → Prop where
  | empty : Reached allowed {}
  | step {rows : StoredRows F} {event : RowEvent F} (hrows : Reached allowed rows)
      (hconstructed : event.Constructed fmt isLabelLatency) (hallowed : allowed rows event) :
      Reached allowed (rows.step fmt hmac isLabelLatency backend event)

end Runs

section Tables
variable {F : Type} (fmt : FloatFormat F) (lax : Coercion F) (hmac : String → String) (isLabelLatency : String → Bool)
  (backend : RecordBackend)

def grantScheme : Scheme (String × String) (Principal × String) GrantDocument where
  keyOf q := grantRowKey backend q.1 q.2
  coordinate g := (g.principal,g.actionClass)
  serialize := canonicalGrantPayload
  parse := GrantDocument.modelValidateJson isLabelLatency
  mac := hmac
  Admitted g := g.accepted isLabelLatency = true ∧ Principal.HashFree g.principal
  parse_serialize _ h := GrantDocument.modelValidateJson_canonical h.1

def proposalScheme : Scheme (String × String) (Principal × String × String) (PromotionProposal F) where
  keyOf q := proposalKey q.1 q.2.1 q.2.2
  coordinate p := (p.principal,p.actionClass,p.proposalId)
  serialize := proposalToJson fmt
  parse := proposalFromJson fmt lax
  mac := hmac
  Admitted p := p.accepted fmt = true ∧ Principal.HashFree p.principal ∧ HashFree p.actionClass
  parse_serialize _ h := PromotionProposal.proposalFromJson_toJson fmt lax h.1

def admissionScheme : Scheme (List String) (String × String × String) Mcp.McpAdmissionProposal where
  keyOf q := Mcp.admissionKey backend q.1 q.2.1 q.2.2
  coordinate p := (p.toolDef.serverId,p.toolDef.toolName,p.proposalId)
  serialize := Mcp.canonicalProposalPayload
  parse := Mcp.McpAdmissionProposal.modelValidateJson
  mac := hmac
  Admitted p := p.toolDef.Admitted ∧ AdmissionPlain backend p.toolDef.serverId p.toolDef.toolName
  parse_serialize _ h := Mcp.modelValidateJson_canonical h.1

def grantSealed (item : GrantItem) : Item Unit := ⟨item.data,item.grantHash,()⟩

def proposalSealed (item : ProposalItem) : Item (ProposalStatus × String) := ⟨item.data,item.proposalHash,item.status,item.expiresAt⟩

def admissionSealed (item : Mcp.AdmissionItem) : Item ProposalStatus := ⟨item.data,item.proposalHash,item.status⟩

namespace StoredRows

def grantTable (rows : StoredRows F) : Table (String × String) GrantDocument Unit :=
  ⟨Option.map grantSealed ∘ rows.state.grants,rows.grantsWritten⟩

def proposalTable (rows : StoredRows F) : Table (String × String) (PromotionProposal F) (ProposalStatus × String) :=
  ⟨Option.map proposalSealed ∘ rows.proposals,rows.proposalsWritten⟩

def admissionTable (rows : StoredRows F) : Table (List String) Mcp.McpAdmissionProposal ProposalStatus :=
  ⟨Option.map admissionSealed ∘ rows.admissions,rows.admissionsWritten⟩

end StoredRows

end Tables

section Binding
variable {F : Type} {fmt : FloatFormat F} {lax : Coercion F} {hmac : String → String} {isLabelLatency : String → Bool}
  {backend : RecordBackend} {rows : StoredRows F}

namespace StoredRows

variable (fmt lax hmac isLabelLatency backend) in
-- No item is put under the row key of a coordinate other than its own content's, and no name that is joined into a row key
-- holds the separator.
def OwnRows (rows : StoredRows F) : RowEvent F → Prop
  | .write request => Principal.HashFree request.grant.principal
  | .put grant => Principal.HashFree grant.principal
  | .create grant => Principal.HashFree grant.principal
  | .propose proposal => Principal.HashFree proposal.principal ∧ HashFree proposal.actionClass
  | .proposeAdmission proposal => AdmissionPlain backend proposal.toolDef.serverId proposal.toolDef.toolName
  | .moveGrants move => move.OwnRows (grantScheme hmac isLabelLatency backend) rows.grantTable.rows
  | .moveProposals move => move.OwnRows (proposalScheme fmt lax hmac) rows.proposalTable.rows
  | .moveAdmissions move => move.OwnRows (admissionScheme hmac backend) rows.admissionTable.rows
  | _ => True

variable (fmt lax hmac isLabelLatency backend) in
structure RowsBound (rows : StoredRows F) : Prop where
  grants : Bound (grantScheme hmac isLabelLatency backend) rows.grantTable
  proposals : Bound (proposalScheme fmt lax hmac) rows.proposalTable
  admissions : Bound (admissionScheme hmac backend) rows.admissionTable

theorem bound_setGrant (h : Bound (grantScheme hmac isLabelLatency backend) rows.grantTable) {g : GrantDocument}
    (haccepted : g.accepted isLabelLatency = true) (hplain : Principal.HashFree g.principal) {state : GrantState}
    (hstate : state.grants = Function.update rows.state.grants (grantKey backend g) (some (buildItem hmac g))) :
    Bound (grantScheme hmac isLabelLatency backend)
      ({ rows with state, grantsWritten := g :: rows.grantsWritten } : StoredRows F).grantTable := by
  have hstep := bound_step h (.write g () ⟨haccepted,hplain⟩)
  rw [grantTable]
  simp only [hstate,Function.comp_update]
  rw [grantKey_eq]
  exact hstep

theorem bound_putProposal (h : Bound (proposalScheme fmt lax hmac) rows.proposalTable) {p : PromotionProposal F}
    (haccepted : p.accepted fmt = true) (hplain : Principal.HashFree p.principal ∧ HashFree p.actionClass)
    {proposals : ProposalTable} (hput : putProposal fmt hmac rows.proposals p = .ok proposals) :
    Bound (proposalScheme fmt lax hmac)
      ({ rows with proposals, proposalsWritten := p :: rows.proposalsWritten } : StoredRows F).proposalTable := by
  have hstep := bound_step h (.write p (.pending,p.expiresAt) ⟨haccepted,hplain⟩)
  rw [proposalTable]
  simp only [(putProposal_ok hput).2,Function.comp_update]
  exact hstep

theorem bound_consumeProposal (h : Bound (proposalScheme fmt lax hmac) rows.proposalTable) {principal : Principal}
    {actionClass proposalId : String} {status : ProposalStatus} {proposals : ProposalTable}
    (hconsume : consumeProposal backend rows.proposals principal actionClass proposalId status = .ok proposals) :
    Bound (proposalScheme fmt lax hmac) ({ rows with proposals } : StoredRows F).proposalTable := by
  obtain ⟨item,hrow,_,_,rfl⟩ := consumeProposal_ok hconsume
  have hstep := bound_step h (.restatus (proposalKey principal actionClass proposalId) (proposalSealed item)
    (status,item.expiresAt) (by simp [proposalTable,hrow]))
  rw [proposalTable]
  simp only [Function.comp_update]
  exact hstep

theorem bound_putAdmission (h : Bound (admissionScheme hmac backend) rows.admissionTable) {p : Mcp.McpAdmissionProposal}
    (hadmitted : p.toolDef.Admitted) (hplain : AdmissionPlain backend p.toolDef.serverId p.toolDef.toolName)
    {admissions : Mcp.AdmissionTable} (hput : Mcp.putProposal hmac backend rows.admissions p = .ok admissions) :
    Bound (admissionScheme hmac backend)
      ({ rows with admissions, admissionsWritten := p :: rows.admissionsWritten } : StoredRows F).admissionTable := by
  have hstep := bound_step h (.write p .pending ⟨hadmitted,hplain⟩)
  rw [admissionTable]
  simp only [Mcp.putProposal_ok hput,Function.comp_update]
  exact hstep

theorem bound_consumeAdmission (h : Bound (admissionScheme hmac backend) rows.admissionTable)
    {serverId toolName proposalId : String} {status : ProposalStatus} {admissions : Mcp.AdmissionTable}
    (hconsume : Mcp.consumeProposal backend rows.admissions serverId toolName proposalId status = .ok admissions) :
    Bound (admissionScheme hmac backend) ({ rows with admissions } : StoredRows F).admissionTable := by
  obtain ⟨item,hrow,rfl⟩ := Mcp.consumeProposal_ok hconsume
  have hstep := bound_step h (.restatus (Mcp.admissionKey backend serverId toolName proposalId) (admissionSealed item) status
    (by simp [admissionTable,hrow]))
  rw [admissionTable]
  simp only [Function.comp_update]
  exact hstep

theorem rowsBound_step (h : rows.RowsBound fmt lax hmac isLabelLatency backend) {event : RowEvent F}
    (hconstructed : event.Constructed fmt isLabelLatency) (hown : rows.OwnRows fmt lax hmac isLabelLatency backend event) :
    (rows.step fmt hmac isLabelLatency backend event).RowsBound fmt lax hmac isLabelLatency backend := by
  cases event with
  | write request =>
    rw [step]
    split
    · exact h
    next state hwrite => exact ⟨bound_setGrant h.grants hconstructed hown (write_ok hwrite).grants,h.proposals,h.admissions⟩
  | put grant => exact ⟨bound_setGrant h.grants hconstructed hown rfl,h.proposals,h.admissions⟩
  | create grant =>
    rw [step]
    split
    · exact h
    next state hcreate =>
      obtain ⟨_,_,hstate⟩ := Checked.bind_ok.mp hcreate
      cases hstate
      exact ⟨bound_setGrant h.grants hconstructed hown rfl,h.proposals,h.admissions⟩
  | propose proposal =>
    rw [step]
    split
    · exact h
    next proposals hput => exact ⟨h.grants,bound_putProposal h.proposals hconstructed hown hput,h.admissions⟩
  | consume principal actionClass proposalId status =>
    rw [step]
    split
    · exact h
    next proposals hconsume => exact ⟨h.grants,bound_consumeProposal h.proposals hconsume,h.admissions⟩
  | proposeAdmission proposal =>
    rw [step]
    split
    · exact h
    next admissions hput => exact ⟨h.grants,h.proposals,bound_putAdmission h.admissions hconstructed hown hput⟩
  | consumeAdmission serverId toolName proposalId status =>
    rw [step]
    split
    · exact h
    next admissions hconsume => exact ⟨h.grants,h.proposals,bound_consumeAdmission h.admissions hconsume⟩
  | moveGrants move =>
    have hstep := bound_step h.grants (.move move hown)
    refine ⟨?_,h.proposals,h.admissions⟩
    rw [step,grantTable]
    simp only [Move.apply_map]
    exact hstep
  | moveProposals move =>
    have hstep := bound_step h.proposals (.move move hown)
    refine ⟨h.grants,?_,h.admissions⟩
    rw [step,proposalTable]
    simp only [Move.apply_map]
    exact hstep
  | moveAdmissions move =>
    have hstep := bound_step h.admissions (.move move hown)
    refine ⟨h.grants,h.proposals,?_⟩
    rw [step,admissionTable]
    simp only [Move.apply_map]
    exact hstep

variable (lax) in
theorem rowsBound_reached (h : Reached fmt hmac isLabelLatency backend (OwnRows fmt lax hmac isLabelLatency backend) rows) :
    rows.RowsBound fmt lax hmac isLabelLatency backend := by
  induction h with
  | empty => exact ⟨bound_empty,bound_empty,bound_empty⟩
  | step _ hconstructed hown ih => exact rowsBound_step ih hconstructed hown

theorem getGrant_bound (h : rows.RowsBound fmt lax hmac isLabelLatency backend) {p : Principal} {a : String} {r : GrantReadResult}
    {g : GrantDocument} (hread : getGrant hmac (GrantDocument.modelValidateJson isLabelLatency) backend rows.state p a = .ok r)
    (hg : r.grant = some g) :
    g.principal = p ∧ g.actionClass = a ∧ g ∈ rows.grantsWritten ∧ r.rawData = some (canonicalGrantPayload g) := by
  obtain ⟨item,hrow,hhash,hparse,rfl⟩ := getGrant_grant hread hg
  have hitem : rows.grantTable.rows (grantRowKey backend p a) = some (grantSealed item) := by simp [grantTable,hrow]
  obtain ⟨c,hc,hdata,_,hhome⟩ := h.grants.written _ _ hitem
  have hkey := hhome (p,a) rfl
  have hadmitted := h.grants.admitted c hc
  have hcanonical : item.data = canonicalGrantPayload c := hdata
  rw [hcanonical,GrantDocument.modelValidateJson_canonical hadmitted.1] at hparse
  obtain rfl := Option.some.inj hparse
  obtain ⟨hprincipal,hclass⟩ := grantRowKey_injective hadmitted.2 hkey
  exact ⟨hprincipal,hclass,hc,by rw [hcanonical]⟩

theorem getProposal_bound (h : rows.RowsBound fmt lax hmac isLabelLatency backend) {p : Principal} {a id : String}
    {q : PromotionProposal F} {status : ProposalStatus}
    (hread : getProposal fmt lax hmac rows.proposals p a id = .ok (some (q,status))) :
    q.principal = p ∧ q.actionClass = a ∧ q.proposalId = id ∧ q ∈ rows.proposalsWritten := by
  obtain ⟨item,hrow,hhash,hparse,_⟩ := getProposal_ok hread
  have hitem : rows.proposalTable.rows (proposalKey p a id) = some (proposalSealed item) := by simp [proposalTable,hrow]
  have htable : rows.proposalTable.read (proposalScheme fmt lax hmac) (p,a,id) = some q := by
    rw [Table.read]
    simp only [proposalScheme,hitem,proposalSealed,hhash,if_true]
    exact hparse
  obtain ⟨hq,hkey⟩ := read_bound h.proposals htable
  have hadmitted := h.proposals.admitted q hq
  obtain ⟨hprincipal,hclass,hid⟩ := proposalKey_injective hadmitted.2.1 hadmitted.2.2 hkey
  exact ⟨hprincipal,hclass,hid,hq⟩

theorem getAdmission_bound (h : rows.RowsBound fmt lax hmac isLabelLatency backend) {serverId toolName id : String}
    {q : Mcp.McpAdmissionProposal} {status : ProposalStatus}
    (hread : Mcp.getProposal hmac backend rows.admissions serverId toolName id = .ok (some (q,status))) :
    q.toolDef.serverId = serverId ∧ q.toolDef.toolName = toolName ∧ q.proposalId = id ∧ q ∈ rows.admissionsWritten := by
  obtain ⟨item,hrow,hhash,hparse⟩ := Mcp.getProposal_ok hread
  have hitem : rows.admissionTable.rows (Mcp.admissionKey backend serverId toolName id) = some (admissionSealed item) := by
    simp [admissionTable,hrow]
  have htable : rows.admissionTable.read (admissionScheme hmac backend) (serverId,toolName,id) = some q := by
    rw [Table.read]
    simp only [admissionScheme,hitem,admissionSealed,hhash,if_true]
    exact hparse
  obtain ⟨hq,hkey⟩ := read_bound h.admissions htable
  have hadmitted := h.admissions.admitted q hq
  obtain ⟨hserver,htool,hid⟩ := admissionKey_injective hadmitted.2 hkey
  exact ⟨hserver,htool,hid,hq⟩

variable (lax) in
theorem row_binding (h : Reached fmt hmac isLabelLatency backend (OwnRows fmt lax hmac isLabelLatency backend) rows) :
    (∀ p a r g, getGrant hmac (GrantDocument.modelValidateJson isLabelLatency) backend rows.state p a = .ok r → r.grant = some g →
      g.principal = p ∧ g.actionClass = a ∧ g ∈ rows.grantsWritten ∧ r.rawData = some (canonicalGrantPayload g)) ∧
    (∀ p a id q status, getProposal fmt lax hmac rows.proposals p a id = .ok (some (q,status)) →
      q.principal = p ∧ q.actionClass = a ∧ q.proposalId = id ∧ q ∈ rows.proposalsWritten) ∧
    (∀ serverId toolName id q status, Mcp.getProposal hmac backend rows.admissions serverId toolName id = .ok (some (q,status)) →
      q.toolDef.serverId = serverId ∧ q.toolDef.toolName = toolName ∧ q.proposalId = id ∧ q ∈ rows.admissionsWritten) := by
  have hbound := rowsBound_reached lax h
  refine ⟨?_,?_,?_⟩
  · intro p a r g hread hg
    exact getGrant_bound hbound hread hg
  · intro p a id q status hread
    exact getProposal_bound hbound hread
  · intro serverId toolName id q status hread
    exact getAdmission_bound hbound hread

end StoredRows

end Binding

namespace Borrowed

def other : Principal := { agentId := "billing", skill := "inbox", user := "sam", tier := .B }

def anyLatency : String → Bool := fun _ => true

def own : StoredRows Int := ({} : StoredRows Int).step wholeFloats id anyLatency .memory (.put termed)

def copying : RowEvent Int := .moveGrants (.copy (grantRowKey .memory termed.principal "email.send") (grantRowKey .memory other "email.send"))

def taken : StoredRows Int := own.step wholeFloats id anyLatency .memory copying

theorem termed_accepted : termed.accepted anyLatency = true := by decide

theorem taken_stores : taken.state.grants (grantRowKey .memory other "email.send") = some (buildItem id termed) := by
  have hown : own.state.grants (grantRowKey .memory termed.principal "email.send") = some (buildItem id termed) :=
    putGrant_stores id .memory {} termed
  rw [← hown]
  exact Function.update_self (grantRowKey .memory other "email.send") _ own.state.grants

theorem copied_grant_serves_another_principal :
    StoredRows.Reached wholeFloats id anyLatency .memory (fun _ _ => True) taken ∧
      getGrant id (GrantDocument.modelValidateJson anyLatency) .memory taken.state other "email.send" =
        .ok { grant := some termed, rawData := some (canonicalGrantPayload termed),
              storedHash := some (canonicalGrantPayload termed) } ∧
      termed.principal ≠ other := by
  refine ⟨.step (.step .empty termed_accepted trivial) trivial trivial,?_,by decide⟩
  exact getGrant_written termed_accepted taken_stores

theorem termed_plain : Principal.HashFree termed.principal := by
  unfold Principal.HashFree HashFree
  decide

def billing : GrantDocument := { termed with principal := other }

theorem billing_plain : Principal.HashFree billing.principal := by
  unfold Principal.HashFree HashFree
  decide

def raise : PromotionProposal Int where
  proposalId := "p-1"
  expiresAt := "2026-02-01T00:00:00+00:00"
  principal := termed.principal
  actionClass := "email.send"
  fromLevel := some .inLoop
  targetLevel := .onLoop
  evidenceBundle := "seed"
  proposerId := "local:maker"
  ownerId := "sam"
  envelopeHash := "e0"
  labelLatency := "PT1H"
  demotionTriggers := [.budgetBreach]
  lastSafeLevel := .inLoop
  metrics := { falseActionCount := 0, humanOverrideCount := 0, observationCount := 40 }
  windowN := 20
  minObservations := 20
  threshold := 1
  artifact := none
  covered := true
  provenanceMaturity := "mature"
  blastClass := "low"
  errorBudget := none

def home : String × String := grantRowKey .memory termed.principal "email.send"

def billingHome : String × String := grantRowKey .memory billing.principal "email.send"

def parking : String × String := ("parked","email.send")

def stocked : StoredRows Int :=
  ((({} : StoredRows Int).step wholeFloats id anyLatency .memory (.propose raise)).step wholeFloats id anyLatency .memory
    (.put termed)).step wholeFloats id anyLatency .memory (.put billing)

def parked : StoredRows Int := stocked.step wholeFloats id anyLatency .memory (.moveGrants (.copy home parking))

def wiped : StoredRows Int := parked.step wholeFloats id anyLatency .memory (.moveGrants (.delete home))

def restored : StoredRows Int := wiped.step wholeFloats id anyLatency .memory (.moveGrants (.copy parking home))

def tampered : StoredRows Int := restored.step wholeFloats id anyLatency .memory (.moveGrants (.delete billingHome))

theorem stocked_home : stocked.state.grants home = some (buildItem id termed) := by
  have hstocked : stocked.state.grants =
      Function.update (Function.update (fun _ => none) home (some (buildItem id termed))) billingHome (some (buildItem id billing)) := rfl
  have hne : home ≠ billingHome := by decide +kernel
  rw [hstocked,Function.update_of_ne hne,Function.update_self]

theorem parked_parking : parked.state.grants parking = some (buildItem id termed) := by
  have hparked : parked.state.grants = Function.update stocked.state.grants parking (stocked.state.grants home) := rfl
  rw [hparked,Function.update_self,stocked_home]

theorem wiped_parking : wiped.state.grants parking = some (buildItem id termed) := by
  have hwiped : wiped.state.grants = Function.update parked.state.grants home none := rfl
  have hne : parking ≠ home := by decide +kernel
  rw [hwiped,Function.update_of_ne hne,parked_parking]

theorem tampered_home : tampered.state.grants home = some (buildItem id termed) := by
  have htampered : tampered.state.grants =
      Function.update (Function.update wiped.state.grants home (wiped.state.grants parking)) billingHome none := rfl
  have hne : home ≠ billingHome := by decide +kernel
  rw [htampered,Function.update_of_ne hne,Function.update_self,wiped_parking]

theorem tampered_proposals : tampered.proposals =
    Function.update (fun _ => none) (proposalKey termed.principal "email.send" "p-1") (some (proposalItem wholeFloats id raise)) := rfl

theorem tampered_grant :
    getGrant id (GrantDocument.modelValidateJson anyLatency) .memory tampered.state termed.principal "email.send" =
      .ok { grant := some termed, rawData := some (canonicalGrantPayload termed),
            storedHash := some (canonicalGrantPayload termed) } := getGrant_written termed_accepted tampered_home

theorem tampered_proposal : getProposal wholeFloats noCoercion id tampered.proposals termed.principal "email.send" "p-1" =
    .ok (some (raise,.pending)) :=
  getProposal_written rfl ((congrFun tampered_proposals _).trans (Function.update_self _ _ _))

theorem parking_nowhere (p : Principal) (a : String) : grantRowKey .memory p a ≠ parking := by
  intro h
  have hkey : p.key = "parked" := congrArg Prod.fst h
  have hhash : '#' ∈ p.key.toList := by
    have hsep : "#".toList = ['#'] := rfl
    simp [Principal.key,hsep]
  rw [hkey] at hhash
  exact absurd hhash (by decide)

theorem parks_own : stocked.OwnRows wholeFloats noCoercion id anyLatency .memory (.moveGrants (.copy home parking)) := by
  intro landed hlanded q _ hq _
  obtain ⟨item,-,rfl⟩ := List.mem_map.mp hlanded
  exact absurd hq (parking_nowhere q.1 q.2)

theorem restores_own : wiped.OwnRows wholeFloats noCoercion id anyLatency .memory (.moveGrants (.copy parking home)) := by
  intro landed hlanded q c _ hread
  have hrow : wiped.grantTable.rows parking = some (grantSealed (buildItem id termed)) := by simp [StoredRows.grantTable,wiped_parking]
  simp only [Move.lands,hrow,Option.toList_some,List.map_cons,List.map_nil,List.mem_singleton] at hlanded
  subst hlanded
  simp only [grantScheme,grantSealed,buildItem] at hread
  rw [GrantDocument.modelValidateJson_canonical termed_accepted] at hread
  obtain rfl := Option.some.inj hread
  rfl

theorem tampered_reached :
    StoredRows.Reached wholeFloats id anyLatency .memory (StoredRows.OwnRows wholeFloats noCoercion id anyLatency .memory) tampered := by
  have hproposed : raise.accepted wholeFloats = true := rfl
  have hclass : HashFree "email.send" := by
    unfold HashFree
    decide
  have hbilling : billing.accepted anyLatency = true := by decide
  have hstocked : StoredRows.Reached wholeFloats id anyLatency .memory
      (StoredRows.OwnRows wholeFloats noCoercion id anyLatency .memory) stocked :=
    .step (.step (.step .empty hproposed ⟨termed_plain,hclass⟩) termed_accepted termed_plain) hbilling billing_plain
  have hdelete (rows : StoredRows Int) (key : String × String) :
      rows.OwnRows wholeFloats noCoercion id anyLatency .memory (.moveGrants (.delete key)) := by
    intro _ hlanded
    cases hlanded
  exact .step (.step (.step (.step hstocked trivial parks_own) trivial (hdelete parked home)) trivial restores_own) trivial
    (hdelete restored billingHome)

theorem row_binding_own :
    StoredRows.Reached wholeFloats id anyLatency .memory (StoredRows.OwnRows wholeFloats noCoercion id anyLatency .memory) tampered ∧
      (∃ r, getGrant id (GrantDocument.modelValidateJson anyLatency) .memory tampered.state termed.principal "email.send" = .ok r ∧
        r.grant = some termed) ∧ termed ∈ tampered.grantsWritten ∧
      getProposal wholeFloats noCoercion id tampered.proposals termed.principal "email.send" "p-1" = .ok (some (raise,.pending)) ∧
      raise ∈ tampered.proposalsWritten := by
  obtain ⟨hgrants,hproposals,-⟩ := StoredRows.row_binding noCoercion tampered_reached
  obtain ⟨-,-,hgrant,-⟩ := hgrants termed.principal "email.send" _ termed tampered_grant rfl
  obtain ⟨-,-,-,hproposal⟩ := hproposals termed.principal "email.send" "p-1" raise .pending tampered_proposal
  exact ⟨tampered_reached,⟨_,tampered_grant,rfl⟩,hgrant,tampered_proposal,hproposal⟩

end Borrowed

end SafeAgents.Grants
