import SafeAgents.Mcp.AdmissionOffers

namespace SafeAgents.Mcp

open Calendar Checked Grants Json Wire Interleaving

namespace QuoteRegistry

def quotes (description : String) : ToolDefinition where
  serverId := "quotes"
  toolName := "get"
  inputSchema := []
  description
  admitted := ⟨⟨.nil,trivial⟩,by simp,by simp,by simp,by simp,by simp⟩

def proposal (proposalId description : String) : McpAdmissionProposal where
  proposalId
  expiresAt := isoformat 2000000000000000
  toolDef := (quotes description).toMcpToolDef
  defHash := computeToolDefHash id (quotes description).toMcpToolDef
  kind := "admission"
  proposedBy := "maker"

theorem binds (proposalId description : String) :
    Binds id (proposal proposalId description).toolDef (proposal proposalId description).defHash := ⟨(quotes description).admitted,rfl⟩

def signer : RecordSigner where
  keyId := "issuer"
  zone := "eu"
  sha256Hex := id
  b64encode := id
  signPae := id

def key (proposalId : String) : List String := ["quotes","get",proposalId]

def rowAt : List String := ["quotes","get"]

def decl : DeclaredServer where
  tools := [{ toolName := "get" }]
  unique := by simp

def batchWith (acknowledged : List String) : BulkRatifyArgs where
  serverId := "quotes"
  manifestPath := "agent.yaml"
  manifest := .ok ([("quotes",decl)],0)
  yes := true
  acknowledgeDescriptionChange := acknowledged

def batch : BulkRatifyArgs := batchWith []

def written (row : ToolRow) : ToolReadResult where
  tool := some row
  rawData := some (canonicalRowPayload row)
  storedHash := some (canonicalRowPayload row)

section Stored
variable {backend : RecordBackend} {s : AdmissionStore} {proposalId description : String}

theorem getTool_written {row : ToolRow} (hrow : s.rows (rowKey backend "quotes" "get") = some (buildItem id row))
    (h : row.toolDef.Admitted) : performAdmission id backend (.getTool "quotes" "get") () s = (.ok (written row),s) := by
  have hread : getTool id backend s "quotes" "get" = .ok (written row) := by
    rw [getTool,hrow]
    simp only [readResultFromItem,buildItem,id,ne_eq,not_true_eq_false,if_false,ToolRow.modelValidateJson_canonical h,written]
  rw [performAdmission,hread]

theorem getTool_absent (hrow : s.rows (rowKey backend "quotes" "get") = none) :
    performAdmission id backend (.getTool "quotes" "get") () s = (.ok {},s) := by
  have hread : getTool id backend s "quotes" "get" = .ok {} := by
    rw [getTool,hrow]
  rw [performAdmission,hread]

theorem getProposal_stored (hitem : s.proposals.get? (admissionKey backend "quotes" "get" proposalId) =
    some (admissionItem id (proposal proposalId description))) :
    performAdmission id backend (.getProposal "quotes" "get" proposalId) () s =
      (.ok (some (proposal proposalId description,.pending)),s) := by
  have hread : getProposal id backend s.proposals.get? "quotes" "get" proposalId =
      .ok (some (proposal proposalId description,.pending)) := by
    rw [getProposal,hitem]
    simp only [admissionItem,id,ne_eq,not_true_eq_false,if_false,modelValidateJson_canonical (binds proposalId description).admitted]
  rw [performAdmission,hread]
  rfl

theorem consumeProposal_stored (hitem : s.proposals.get? (admissionKey backend "quotes" "get" proposalId) =
    some (admissionItem id (proposal proposalId description))) :
    performAdmission id backend (.consumeProposal "quotes" "get" proposalId .ratified) () s =
      (.ok (),{ s with
        proposals := s.proposals.set (admissionKey backend "quotes" "get" proposalId)
          { admissionItem id (proposal proposalId description) with status := .ratified } }) := by
  have hconsume : consumeProposal backend s.proposals.get? "quotes" "get" proposalId .ratified =
      .ok (Function.update s.proposals.get? (admissionKey backend "quotes" "get" proposalId)
        (some { admissionItem id (proposal proposalId description) with status := .ratified })) := by
    simp only [consumeProposal,hitem]
    rfl
  rw [performAdmission,hconsume]
  simp [committed,Except.mapError,Except.map]

end Stored

def Current (now : Int) : Prop := 0 ≤ now ∧ now ≤ 1000000000000000

instance (now : Int) : Decidable (Current now) := inferInstanceAs (Decidable (_ ∧ _))

theorem unexpired (proposalId description : String) {now : Int} (hnow : Current now) :
    proposalExpired (proposal proposalId description).expiresAt now 0 = .ok false := by
  have hrepresentable : Representable 2000000000000000 := by decide
  rw [proposalExpired,show (proposal proposalId description).expiresAt = isoformat 2000000000000000 from rfl,
    fromisoformat_isoformat hrepresentable]
  obtain ⟨hlow,hhigh⟩ := hnow
  have hjudged : endJudgedAt now 0 = .ok now :=
    (endJudgedAt_eq (by decide) (by decide)).trans (datetimeSum_ok.mpr ⟨⟨by simp only [minInstant]; omega,by simp only [maxInstant]; omega⟩,
      (Int.add_zero now).symm⟩)
  simp [hjudged,Except.map]
  omega

theorem decl_names : decl.names = ["get"] := by simp [DeclaredServer.names,sortedNames,decl]

def candidate (p : McpAdmissionProposal) (existing : ToolReadResult) (diff : ToolDiffResult) : RatifyCandidate where
  toolName := "get"
  proposal := p
  existing
  diff

def printed (line : String) : Seen := ⟨.print line,.ok ()⟩

def shown (c : RatifyCandidate) : List Seen := (gateLines (fun _ => true) (bucketsOf [c])).map printed

theorem plays_called {α : Type} {o : AdmissionOp} {a : o.Ret} {f : o.Ret → Cmd α} {seen : List Seen} {out : Except CeremonyError α}
    (h : Plays (f a) seen out) : Plays (call o >>= f) (⟨o,.ok a⟩ :: seen) out := .act h

theorem plays_attempted {α : Type} {o : AdmissionOp} {a : o.Ret} {f : Except CeremonyError o.Ret → Cmd α} {seen : List Seen}
    {out : Except CeremonyError α} (h : Plays (f (.ok a)) seen out) : Plays (attempted (call o) >>= f) (⟨o,.ok a⟩ :: seen) out :=
  .act h

theorem plays_printAll (lines : List String) : Plays (printAll lines) (lines.map printed) (.ok ()) := by
  induction lines with
  | nil => exact .ret ()
  | cons line rest ih => exact plays_called ih

def batchReads (p : McpAdmissionProposal) (existing : ToolReadResult) : List Seen :=
  [⟨.listPending "quotes" "get",.ok [(p,.pending)]⟩,⟨.getTool "quotes" "get",.ok existing⟩]

def ratification (caller : String) (now : Int) (p : McpAdmissionProposal) (expected : ToolReadResult) : Ratification where
  signer := signer
  caller := caller
  now := some now
  skew := 0
  serverId := "quotes"
  toolName := "get"
  proposalId := p.proposalId
  proposal := p
  ts := isoformat now
  expected := expected

def batchWrites (now : Int) (p : McpAdmissionProposal) (expected : ToolReadResult) : List Seen :=
  [(ratification "checker" now p expected).baseline,(ratification "checker" now p expected).burn,
    ⟨(ratification "checker" now p expected).write,.ok ()⟩]

def summary (p : McpAdmissionProposal) : List Seen :=
  ["ADMITTED: " ++ p.kind ++ " " ++ "quotes" ++ "/" ++ "get" ++ " -> ACTIVE (signed)","",
    "bulk-ratify summary: ratified=" ++ toString 1 ++ " refused=" ++ toString 0,"  RATIFIED get","ratifiedBy=" ++ "checker"].map
    printed

theorem batch_plays {proposalId description : String} {now : Int} {existing expected : ToolReadResult} {diff : ToolDiffResult}
    {acknowledged : List String} (hnow : Current now) (hintact : existing.quarantined = false)
    (hdescription : diff.descriptionChanged = true → "get" ∈ acknowledged)
    (hdiff : renderToolDiff (fun _ => true) "get" existing.tool (some { toolDef := (proposal proposalId description).toolDef
                                                                        defHash := (proposal proposalId description).defHash })
      .stdio none = .ok diff) :
    Plays (bulkRatifyCommand .memory (fun _ => true) (batchWith acknowledged) (some signer) "checker" (some now))
      (batchReads (proposal proposalId description) existing ++ (shown (candidate (proposal proposalId description) existing diff) ++
        (batchWrites now (proposal proposalId description) expected ++ summary (proposal proposalId description)))) (.ok 0) := by
  have hgather : Plays (gather (fun _ => true) "quotes" "checker" now 0 decl.names [] [])
      (batchReads (proposal proposalId description) existing)
      (.ok (some ([candidate (proposal proposalId description) existing diff],[]))) := by
    rw [decl_names]
    have hexamine : Plays (examine (fun _ => true) "quotes" "get" "checker" now 0 [(proposal proposalId description,.pending)])
        [⟨.getTool "quotes" "get",.ok existing⟩]
        (.ok (.candidate (candidate (proposal proposalId description) existing diff))) := by
      have hother : isSameOperator (proposal proposalId description).proposedBy "checker" = false :=
        show isSameOperator "maker" "checker" = false by decide
      rw [examine,unexpired proposalId description hnow]
      refine (Plays.ret false).bind ?_
      rw [if_neg (by decide),hother,if_neg (by decide)]
      refine plays_called ?_
      rw [hintact,if_neg (by decide),hdiff]
      exact .ret _
    exact plays_attempted (hexamine.bind (.ret _))
  refine hgather.bind ((plays_printAll _).bind ?_)
  have hratify : Plays (ratifyCandidate .memory signer "quotes" "checker" (some now) acknowledged
      (candidate (proposal proposalId description) existing diff))
      (batchWrites now (proposal proposalId description) expected ++
        [printed ("ADMITTED: " ++ (proposal proposalId description).kind ++ " " ++ "quotes" ++ "/" ++ "get" ++ " -> ACTIVE (signed)")])
      (.ok none) := by
    have hcovered : ¬ ((candidate (proposal proposalId description) existing diff).diff.descriptionChanged &&
        !acknowledged.contains (candidate (proposal proposalId description) existing diff).toolName) = true := by
      simp only [candidate]
      cases hchanged : diff.descriptionChanged with
      | false => simp
      | true => simpa using hdescription hchanged
    rw [ratifyCandidate,if_neg hcovered]
    refine plays_called (plays_attempted ?_)
    exact .act (plays_called (.ret none))
  have hall : Plays (ratifyAll .memory signer "quotes" "checker" (some now) acknowledged
      [candidate (proposal proposalId description) existing diff] [] [])
      ((batchWrites now (proposal proposalId description) expected ++
        [printed ("ADMITTED: " ++ (proposal proposalId description).kind ++ " " ++ "quotes" ++ "/" ++ "get" ++ " -> ACTIVE (signed)")]) ++
        []) (.ok (["get"],[])) := hratify.bind (.ret (["get"],[]))
  have hlist : batchWrites now (proposal proposalId description) expected ++ summary (proposal proposalId description) =
      ((batchWrites now (proposal proposalId description) expected ++
        [printed ("ADMITTED: " ++ (proposal proposalId description).kind ++ " " ++ "quotes" ++ "/" ++ "get" ++ " -> ACTIVE (signed)")]) ++
        []) ++ (summary (proposal proposalId description)).tail := rfl
  rw [hlist]
  refine hall.bind ?_
  refine plays_called (plays_called ?_)
  exact (plays_printAll ["  RATIFIED get"]).bind ((plays_printAll []).bind (plays_called (.ret 0)))

def offered (p : McpAdmissionProposal) : List Seen := [⟨.getProposal "quotes" "get" p.proposalId,.ok (some (p,.pending))⟩]

def report (now : Int) (p : McpAdmissionProposal) : List Seen :=
  ["ADMITTED: " ++ p.kind ++ " " ++ "quotes" ++ "/" ++ "get" ++ " -> ACTIVE",
    "record: recordType=" ++ p.kind ++ " def_hash=" ++ p.defHash ++ " ts=" ++ isoformat now ++ " proposedBy=" ++ p.proposedBy ++
      " ratifiedBy=" ++ "checker" ++ " signed=yes (issuer DSSE)"].map printed

theorem writeAdmission_once {backend : RecordBackend} (hbackend : backend ≠ .dynamo) (record : McpAdmissionRecord) (row : ToolRow)
    (signature : Json) (expected : ToolReadResult) :
    writeAdmission backend record row signature expected = call (.admitToolWithRecord record row signature expected) := by
  unfold writeAdmission
  rw [if_neg hbackend]

theorem single_plays {backend : RecordBackend} {proposalId description : String} {now : Int} {existing : ToolReadResult} (hbackend : backend ≠ .dynamo)
    (hnow : Current now) (hintact : existing.quarantined = false) :
    Plays (admitRatifyCommand backend (some signer) "quotes" "get" proposalId "checker" (some now) 0)
      (offered (proposal proposalId description) ++ (batchWrites now (proposal proposalId description) existing ++
        report now (proposal proposalId description))) (.ok 0) := by
  have hother : isSameOperator (proposal proposalId description).proposedBy "checker" = false :=
    show isSameOperator "maker" "checker" = false by decide
  have hlocal : isLocalIdentity "checker" = false := by decide
  refine plays_attempted ?_
  dsimp only
  rw [if_neg (by decide)]
  refine (Plays.ret now).bind ?_
  rw [unexpired proposalId description hnow]
  refine (Plays.ret false).bind ?_
  rw [if_neg (by decide),hother,if_neg (by decide),ratifyLoaded]
  refine plays_called ?_
  rw [show (ratification "checker" now (proposal proposalId description) existing).expected.quarantined = false from hintact,
    if_neg (by decide)]
  refine plays_attempted ?_
  dsimp only
  rw [writeAdmission_once hbackend]
  refine plays_attempted (plays_called (plays_called ?_))
  rw [hlocal,if_neg (by decide)]
  exact .ret 0

def pending (proposalId description : String) : AdmissionItem := admissionItem id (proposal proposalId description)

def burnt (proposalId description : String) : AdmissionItem := { pending proposalId description with status := .ratified }

theorem printed_answers {ι : Type} [DecidableEq ι] {backend : RecordBackend} (i : ι) (s : AdmissionStore) (lines : List String) :
    Answers (admissionDevice id backend) s (events i (lines.map printed)) s := by
  induction lines with
  | nil => exact .nil s
  | cons line rest ih => exact .act i () rfl ih

theorem pendingOf_pending (proposalId description : String) :
    pendingOf id .memory (key proposalId,pending proposalId description) "quotes" "get" =
      .ok (some (proposal proposalId description,.pending)) := by
  rw [pendingOf,if_neg (by simp [pending,admissionItem]),if_neg (by simp [pending,admissionItem])]
  simp only [pending,admissionItem,modelValidateJson_canonical (binds proposalId description).admitted]

theorem listPending_two {s : AdmissionStore} {description description' : String}
    (h : s.proposals.entries = [(key "1",burnt "1" description),(key "2",pending "2" description')]) :
    performAdmission id .memory (.listPending "quotes" "get") () s = (.ok [(proposal "2" description',.pending)],s) := by
  have hpartition : partitionOf .memory s.proposals "quotes" "get" =
      [(key "1",burnt "1" description),(key "2",pending "2" description')] := by
    rw [partitionOf,h,List.filter_eq_self.mpr (by simp [key,partitionKey,admissionKey])]
    refine List.mergeSort_of_pairwise (.cons (fun f hf => ?_) (List.pairwise_singleton _ _))
    obtain rfl := List.mem_singleton.mp hf
    exact show decide ("1" ≤ "2") = true by decide
  have hburnt : pendingOf id .memory (key "1",burnt "1" description) "quotes" "get" = .ok none := by
    rw [pendingOf,if_neg (by simp [burnt,pending,admissionItem]),if_pos (by simp [burnt])]
  have hlisted : listPending id .memory s.proposals "quotes" "get" = .ok [(proposal "2" description',.pending)] := by
    rw [listPending,hpartition]
    simp only [List.mapM_cons,List.mapM_nil,hburnt,pendingOf_pending]
    rfl
  rw [performAdmission,hlisted]

def wroteRow (s : AdmissionStore) (now : Int) (p : McpAdmissionProposal) : AdmissionStore :=
  { s with
    records := Function.update s.records ["quotes","get",isoformat now]
      (some (recordItem (admissionRecord p "checker" (isoformat now))
        (signAdmissionRecord signer (admissionRecord p "checker" (isoformat now)))))
    rows := Function.update s.rows rowAt (some (buildItem id (activeRowFromProposal p "checker" (isoformat now)))) }

def wroteIn (backend : RecordBackend) (s : AdmissionStore) (now : Int) (p : McpAdmissionProposal) : AdmissionStore :=
  { s with
    records := Function.update s.records (recordKey backend (admissionRecord p "checker" (isoformat now)))
      (some (recordItem (admissionRecord p "checker" (isoformat now))
        (signAdmissionRecord signer (admissionRecord p "checker" (isoformat now)))))
    rows := Function.update s.rows (rowKey backend p.toolDef.serverId p.toolDef.toolName)
      (some (buildItem id (activeRowFromProposal p "checker" (isoformat now)))) }

theorem write_commits {backend : RecordBackend} {s : AdmissionStore} {now : Int} {proposalId description : String}
    {expected : ToolReadResult} (hbackend : backend ≠ .dynamo)
    (hread : performAdmission id backend (.getTool "quotes" "get") () s = (.ok expected,s)) (hintact : expected.quarantined = false)
    (hfresh : s.records (recordKey backend (admissionRecord (proposal proposalId description) "checker" (isoformat now))) = none) :
    performAdmission id backend (ratification "checker" now (proposal proposalId description) expected).write () s =
      (.ok (),wroteIn backend s now (proposal proposalId description)) := by
  have hcurrent : getTool id backend s (activeRowFromProposal (proposal proposalId description) "checker" (isoformat now)).toolDef.serverId
      (activeRowFromProposal (proposal proposalId description) "checker" (isoformat now)).toolDef.toolName = .ok expected :=
    congrArg Prod.fst hread
  have hrow : checkRowWrite id backend s (activeRowFromProposal (proposal proposalId description) "checker" (isoformat now)) expected =
      .ok () := by
    rw [checkRowWrite,Checked.bind_of_ok hcurrent,refuseQuarantined,
      Checked.bind_of_ok (Checked.refuseIf_pass (by simp [hintact]))]
    · cases expected.tool with
      | none => exact Checked.refuseIf_pass (by simp)
      | some tool => exact Checked.refuseIf_pass (by simp)
    · exact hbackend
  have hrecord : checkRecordWrite backend s (admissionRecord (proposal proposalId description) "checker" (isoformat now)) = .ok () := by
    refine Checked.refuseIf_pass ?_
    rw [hfresh]
    decide
  have hcommit : admitToolWithRecord id backend s (admissionRecord (proposal proposalId description) "checker" (isoformat now))
      (activeRowFromProposal (proposal proposalId description) "checker" (isoformat now))
      (signAdmissionRecord signer (admissionRecord (proposal proposalId description) "checker" (isoformat now))) expected =
      .ok (wroteIn backend s now (proposal proposalId description)) := by
    rw [admitToolWithRecord,Checked.bind_of_ok hrow,Checked.bind_of_ok hrecord]
    rfl
  have hwrite : performAdmission id backend (ratification "checker" now (proposal proposalId description) expected).write () s =
      committed s (admitToolWithRecord id backend s (admissionRecord (proposal proposalId description) "checker" (isoformat now))
      (activeRowFromProposal (proposal proposalId description) "checker" (isoformat now))
      (signAdmissionRecord signer (admissionRecord (proposal proposalId description) "checker" (isoformat now))) expected) () := rfl
  rw [hwrite,hcommit]
  rfl

def first : McpAdmissionProposal := proposal "1" "Latest quotes."

def storedRow : ToolRow := activeRowFromProposal first "checker" (isoformat 0)

def admitted : ToolReadResult := written storedRow

section Reproposed
variable (description : String)

def reproposed : AdmissionStore where
  rows := Function.update (fun _ => none) rowAt (some (buildItem id storedRow))
  proposals := ⟨[(key "2",pending "2" description)],by simp [key]⟩

theorem reproposed_genuine : Genuine id id .memory (reproposed description) where
  proposals := by
    intro key item hitem _
    have hmem := Dict.get?_iff.mp hitem
    simp only [reproposed,List.mem_cons,List.not_mem_nil,or_false,Prod.mk.injEq] at hmem
    obtain ⟨rfl,rfl⟩ := hmem
    exact ⟨proposal "2" description,binds _ _,rfl,rfl⟩
  rows := by
    intro key item data hitem hdata _
    by_cases hkey : key = rowAt
    · subst hkey
      have hstored : (reproposed description).rows rowAt = some (buildItem id storedRow) := by simp [reproposed]
      cases hstored.symm.trans hitem
      exact ⟨storedRow,binds "1" "Latest quotes.",(Option.some.inj hdata).symm⟩
    · have hnone : (reproposed description).rows key = none := by simp [reproposed,hkey]
      cases hnone.symm.trans hitem

theorem reproposed_stored :
    (reproposed description).proposals.get? (key "2") = some (admissionItem id (proposal "2" description)) :=
  Dict.get?_iff.mpr (by simp [reproposed,pending])

theorem listPending_one : performAdmission id .memory (.listPending "quotes" "get") () (reproposed description) =
    (.ok [(proposal "2" description,.pending)],reproposed description) := by
  have hpartition : partitionOf .memory (reproposed description).proposals "quotes" "get" = [(key "2",pending "2" description)] := by
    rw [partitionOf,List.filter_eq_self.mpr (by simp [reproposed,key,partitionKey,admissionKey])]
    exact List.mergeSort_singleton _
  have hlisted : listPending id .memory (reproposed description).proposals "quotes" "get" =
      .ok [(proposal "2" description,.pending)] := by
    rw [listPending,hpartition]
    simp only [List.mapM_cons,List.mapM_nil,pendingOf_pending]
    rfl
  rw [performAdmission,hlisted]

theorem redescribed_diff {description : String} (h : description ≠ "Latest quotes.") : ∃ diff,
    renderToolDiff (fun _ => true) "get" admitted.tool
      (some { toolDef := (proposal "2" description).toolDef, defHash := (proposal "2" description).defHash }) .stdio none = .ok diff ∧
      diff.descriptionChanged = true := by
  have hhash : ¬ storedRow.defHash = (proposal "2" description).defHash := by
    intro hsame
    have hdef := computeToolDefHash_injective Function.injective_id hsame
    exact h (congrArg (fun d => d.toMcpToolDef.description) hdef).symm
  have hchanged : decide (storedRow.toolDef.description ≠ (proposal "2" description).toolDef.description) = true :=
    decide_eq_true fun hsame => h hsame.symm
  have hdiff : renderToolDiff (fun _ => true) "get" admitted.tool
      (some { toolDef := (proposal "2" description).toolDef, defHash := (proposal "2" description).defHash }) .stdio none =
      .ok { toolName := "get", kind := .drift
            lines := [.header "get",.drift storedRow.defHash (proposal "2" description).defHash] ++ [.sameSchema] ++
              descriptionLines storedRow.toolDef (proposal "2" description).toolDef ++ [] ++
              metadataLines storedRow.toolDef (proposal "2" description).toolDef
            descriptionChanged := decide (storedRow.toolDef.description ≠ (proposal "2" description).toolDef.description) } := by
    show renderToolDiff (fun _ => true) "get" (some storedRow) (some { toolDef := (proposal "2" description).toolDef, defHash := _ })
      .stdio none = _
    rw [renderToolDiff,if_neg hhash]
    rfl
  exact ⟨_,hdiff,hchanged⟩

variable (diff : ToolDiffResult)

def rebatching : List (Event Unit AdmissionOp AdmissionOp.Ret CeremonyError) :=
  events () (batchReads (proposal "2" description) admitted) ++
    (events () (shown (candidate (proposal "2" description) admitted diff)) ++
      events () [(ratification "checker" 1 (proposal "2" description) admitted).baseline,
        (ratification "checker" 1 (proposal "2" description) admitted).burn])

def rebatched : AdmissionStore :=
  { reproposed description with proposals := (reproposed description).proposals.set (key "2") (burnt "2" description) }

variable {description diff}

theorem rebatching_own : own () (rebatching description diff) =
    (ratification "checker" 1 (proposal "2" description) admitted).history
      (batchReads (proposal "2" description) admitted ++ shown (candidate (proposal "2" description) admitted diff)) [] := by
  rw [rebatching,own_append,own_append,own_events,own_events,own_events]
  exact (List.append_assoc ..).symm

theorem rebatching_reads {serverId toolName : String} {r : ToolReadResult}
    (h : ⟨.getTool serverId toolName,.ok r⟩ ∈ own () (rebatching description diff)) : r = admitted := by
  rw [rebatching_own,Ratification.history] at h
  rcases List.mem_append.mp h with h | h
  · rcases List.mem_append.mp h with h | h
    · simp only [batchReads,List.mem_cons,List.not_mem_nil,or_false] at h
      rcases h with h | h <;> cases h
      rfl
    · obtain ⟨line,-,hline⟩ := List.mem_map.mp h
      cases hline
  · simp only [List.mem_cons,List.not_mem_nil,or_false] at h
    rcases h with h | h <;> cases h
    rfl

theorem rebatching_steady : Steady .memory (rebatching description diff) := by
  intro before between after i serverId toolName r r' htr _ e hmem
  have hlisted : e ∈ rebatching description diff := by
    rw [htr]
    simp [hmem]
  simp only [rebatching,events,List.mem_append,List.mem_map,batchReads,shown,List.mem_cons,List.not_mem_nil,or_false] at hlisted
  rcases hlisted with ⟨saw,rfl | rfl,rfl⟩ | ⟨saw,⟨line,-,rfl⟩,rfl⟩ | ⟨saw,rfl | rfl,rfl⟩ <;> exact id

theorem rebatching_run {acknowledged : List String} (hdescription : diff.descriptionChanged = true → "get" ∈ acknowledged)
    (hdiff : renderToolDiff (fun _ => true) "get" admitted.tool
      (some { toolDef := (proposal "2" description).toolDef, defHash := (proposal "2" description).defHash }) .stdio none = .ok diff) :
    ∃ c c', Run (admissionDevice id .memory) anyStep
        (opened id .memory (fun _ => true) (fun _ => "")
          (fun _ : Unit => .bulkRatify (batchWith acknowledged) (some signer) "checker" (some 1)) (reproposed description))
        (rebatching description diff) c ∧
      Step (admissionDevice id .memory) c ⟨(),(ratification "checker" 1 (proposal "2" description) admitted).write,.ok ()⟩ c' ∧
      c.state = rebatched description ∧ c'.state = wroteRow (rebatched description) 1 (proposal "2" description) := by
  have hread : ∀ s : AdmissionStore, s.rows = (reproposed description).rows →
      performAdmission id .memory (.getTool "quotes" "get") () s = (.ok admitted,s) := fun s hrows =>
    getTool_written (by rw [hrows]; simp [reproposed,storedRow,rowKey,rowAt]) (quotes "Latest quotes.").admitted
  have hburn : performAdmission id .memory (ratification "checker" 1 (proposal "2" description) admitted).burn.op ()
      (reproposed description) = (.ok (),rebatched description) := consumeProposal_stored (reproposed_stored description)
  have hanswers : Answers (admissionDevice id .memory) (reproposed description) (rebatching description diff) (rebatched description) :=
    .append (.act () () (listPending_one description) (.act () () (hread (reproposed description) rfl) (.nil _)))
      ((printed_answers () (reproposed description) _).append
        (.act () () (hread (reproposed description) rfl) (.act () () hburn (.nil _))))
  have hbatch : Plays (bulkRatifyCommand .memory (fun _ => true) (batchWith acknowledged) (some signer) "checker" (some 1))
      (batchReads (proposal "2" description) admitted ++ (shown (candidate (proposal "2" description) admitted diff) ++
        (batchWrites 1 (proposal "2" description) admitted ++ summary (proposal "2" description)))) (.ok 0) :=
    batch_plays (by decide) rfl hdescription hdiff
  have hplays : ∀ i : Unit, Plays ((opened id .memory (fun _ => true) (fun _ => "")
      (fun _ : Unit => .bulkRatify (batchWith acknowledged) (some signer) "checker" (some 1)) (reproposed description)).threads i)
      (own i (rebatching description diff) ++
        ⟨(ratification "checker" 1 (proposal "2" description) admitted).write,.ok ()⟩ :: summary (proposal "2" description)) (.ok 0) := by
    intro i
    rw [rebatching,own_append,own_append,own_events,own_events,own_events,List.append_assoc,List.append_assoc]
    exact hbatch
  obtain ⟨c,hrun,hstate,hafter⟩ := hanswers.run hplays
  obtain ⟨k,hthread,-⟩ := plays_head (hafter ())
  have hstep := Step.act (D := admissionDevice id .memory) c () _ k () hthread
  have hwrite : performAdmission id .memory (ratification "checker" 1 (proposal "2" description) admitted).write ()
      (rebatched description) = (.ok (),wroteRow (rebatched description) 1 (proposal "2" description)) :=
    write_commits (by decide) (hread (rebatched description) rfl) rfl rfl
  have hreply : (performAdmission id .memory (ratification "checker" 1 (proposal "2" description) admitted).write () c.state).1 =
      .ok () := by
    rw [hstate,hwrite]
  have hwrote : (performAdmission id .memory (ratification "checker" 1 (proposal "2" description) admitted).write () c.state).2 =
      wroteRow (rebatched description) 1 (proposal "2" description) := by
    rw [hstate,hwrite]
  exact ⟨c,_,hrun,hreply ▸ hstep,hstate,hwrote⟩

end Reproposed

end QuoteRegistry

end SafeAgents.Mcp
