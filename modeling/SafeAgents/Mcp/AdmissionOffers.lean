import SafeAgents.Mcp.AdmissionDuty

namespace SafeAgents.Mcp

open Calendar Checked Grants Json Wire Interleaving

section Offers
variable {sha256 hmac : String → String} {backend : RecordBackend} {s : AdmissionStore}

def Ratification.key (backend : RecordBackend) (a : Ratification) : List String :=
  admissionKey backend a.serverId a.toolName a.proposalId

def Stored (hmac : String → String) (backend : RecordBackend) (s : AdmissionStore) (p : McpAdmissionProposal) : Prop :=
  ∃ item, s.proposals.get? (p.key backend) = some item ∧ item.data = canonicalProposalPayload p ∧ item.proposalHash = hmac item.data

structure Known (sha256 hmac : String → String) (backend : RecordBackend) (s : AdmissionStore) (a : Ratification) : Prop where
  binds : Binds sha256 a.proposal.toolDef a.proposal.defHash
  key : a.key backend = a.proposal.key backend
  stored : Stored hmac backend s a.proposal

theorem stored_of_item (hs : Genuine sha256 hmac backend s) {key : List String} {item : AdmissionItem} {p : McpAdmissionProposal}
    (hitem : s.proposals.get? key = some item) (hhash : item.proposalHash = hmac item.data)
    (hread : McpAdmissionProposal.modelValidateJson item.data = some p) :
    Binds sha256 p.toolDef p.defHash ∧ key = p.key backend ∧ Stored hmac backend s p := by
  obtain ⟨p',hbinds,rfl,hdata⟩ := hs.proposals key item hitem hhash
  rw [hdata,modelValidateJson_canonical hbinds.admitted] at hread
  cases hread
  exact ⟨hbinds,rfl,item,hitem,hdata,hhash⟩

theorem getProposal_known (hs : Genuine sha256 hmac backend s) {a : Ratification} {status : ProposalStatus} {x : Unit}
    (h : (performAdmission hmac backend (.getProposal a.serverId a.toolName a.proposalId) x s).1 = .ok (some (a.proposal,status))) :
    Known sha256 hmac backend s a := by
  obtain ⟨item,hitem,hhash,hread⟩ := getProposal_ok (mapError_ok h)
  obtain ⟨hbinds,hkey,hstored⟩ := stored_of_item hs hitem hhash hread
  exact ⟨hbinds,hkey,hstored⟩

theorem pendingOf_ok {e : List String × AdmissionItem} {serverId toolName : String} {p : McpAdmissionProposal} {status : ProposalStatus}
    (h : pendingOf hmac backend e serverId toolName = .ok (some (p,status))) :
    e.2.proposalHash = hmac e.2.data ∧ McpAdmissionProposal.modelValidateJson e.2.data = some p := by
  rw [pendingOf] at h
  split at h
  · cases h
  next hhash =>
    split at h
    · cases h
    cases hread : McpAdmissionProposal.modelValidateJson e.2.data with
    | none =>
      rw [hread] at h
      cases h
    | some read =>
      rw [hread] at h
      cases h
      exact ⟨not_not.mp hhash,rfl⟩

theorem listPending_known (hs : Genuine sha256 hmac backend s) {a : Ratification} {status : ProposalStatus} {x : Unit}
    (hid : a.proposalId = a.proposal.proposalId)
    (h : (performAdmission hmac backend (.listPending a.serverId a.toolName) x s).1 = .ok [(a.proposal,status)]) :
    Known sha256 hmac backend s a := by
  have h : listPending hmac backend s.proposals a.serverId a.toolName = .ok [(a.proposal,status)] := h
  rw [listPending] at h
  cases hread : (partitionOf backend s.proposals a.serverId a.toolName).mapM fun e => pendingOf hmac backend e a.serverId a.toolName with
  | error e =>
    rw [hread] at h
    cases h
  | ok found =>
    rw [hread] at h
    have hfound : found.filterMap id = [(a.proposal,status)] := Except.ok.inj h
    have hmem : some (a.proposal,status) ∈ found := by
      have hlisted : (a.proposal,status) ∈ found.filterMap id := hfound ▸ List.mem_singleton_self _
      obtain ⟨entry,hentry,rfl⟩ := List.mem_filterMap.mp hlisted
      exact hentry
    obtain ⟨e,he,hpending⟩ := (Checked.mem_of_mapM (Checked.map_of_mapM_ok hread)).mp hmem
    obtain ⟨hhash,hdecode⟩ := pendingOf_ok hpending
    rw [partitionOf,List.mem_mergeSort,List.mem_filter] at he
    obtain ⟨hentry,hpartition⟩ := he
    obtain ⟨hbinds,hkey,hstored⟩ := stored_of_item hs (Dict.get?_iff.mpr hentry) hhash hdecode
    refine ⟨hbinds,?_,hstored⟩
    rw [hkey] at hpartition
    rw [Ratification.key,hid]
    cases backend <;> simp_all [McpAdmissionProposal.key,admissionKey,partitionKey]

theorem known_now (hs : Genuine sha256 hmac backend s) {a : Ratification} {o : AdmissionOp} {x : o.Input}
    (h : Offered a [⟨o,(performAdmission hmac backend o x s).1⟩]) : Known sha256 hmac backend s a := by
  generalize hreply : (performAdmission hmac backend o x s).1 = r at h
  rcases h with h | ⟨hid,status,h⟩
  · cases List.mem_singleton.mp h
    exact getProposal_known hs hreply
  · cases List.mem_singleton.mp h
    exact listPending_known hs hid hreply

theorem Offered.split {a : Ratification} {seen seen' : List Seen} (h : Offered a (seen ++ seen')) : Offered a seen ∨ Offered a seen' := by
  rcases h with h | ⟨hid,status,h⟩
  · exact (List.mem_append.mp h).imp .inl .inl
  · exact (List.mem_append.mp h).imp (fun h => .inr ⟨hid,status,h⟩) fun h => .inr ⟨hid,status,h⟩

theorem Known.change {o : AdmissionOp} {s' : AdmissionStore} {a : Ratification} (h : Known sha256 hmac backend s a)
    (hc : Change hmac backend s o s') : Known sha256 hmac backend s' a := by
  obtain ⟨item,hitem,hdata,hhash⟩ := h.stored
  obtain ⟨item',hitem',hkept⟩ := hc.kept hitem
  exact ⟨h.binds,h.key,item',hitem',hkept.data.trans hdata,by rw [hkept.proposalHash,hkept.data,hhash]⟩

end Offers

section Pool
variable {ι : Type} [DecidableEq ι] {sha256 hmac : String → String} {backend : RecordBackend} {printable : Char → Bool}
  {ageMinutes : ℚ → String} {cmds : ι → Command} {s : AdmissionStore}
  {c c' : Config ι AdmissionOp AdmissionOp.Ret CeremonyError AdmissionStore Nat}
  {tr tr₁ tr₂ : List (Event ι AdmissionOp AdmissionOp.Ret CeremonyError)}

variable (sha256 backend printable ageMinutes) in
def opened (cmds : ι → Command) (s : AdmissionStore) : Config ι AdmissionOp AdmissionOp.Ret CeremonyError AdmissionStore Nat :=
  ⟨s,fun i => (cmds i).prog backend printable sha256 ageMinutes⟩

theorem opened_follows (h : Run (admissionDevice hmac backend) anyStep (opened sha256 backend printable ageMinutes cmds s) tr c) {i : ι}
    {o : AdmissionOp} {r : Except CeremonyError o.Ret} (htr : tr = tr₁ ++ ⟨i,o,r⟩ :: tr₂) : owed printable sha256 (cmds i) (own i tr₁) o :=
  h.follows (command_owed backend ageMinutes (cmds i)) htr

theorem Ratifies.licence {a : Ratification} {earlier later : List Seen} {cmd : Command} (h : Ratifies printable a earlier later cmd) :
    Licence a earlier later := by
  cases cmd with
  | admitRatify signer serverId toolName proposalId caller now skew => exact h.2.2.2.2.2.2.2
  | bulkRatify args signer caller now => exact h.2.2.2.2.2.1
  | _ => exact absurd h id

theorem offers_known (hs : Genuine sha256 hmac backend s)
    (h : Run (admissionDevice hmac backend) anyStep (opened sha256 backend printable ageMinutes cmds s) tr c) :
    Genuine sha256 hmac backend c.state ∧ ∀ i a, Offered a (own i tr) → Known sha256 hmac backend c.state a := by
  generalize hstart : opened sha256 backend printable ageMinutes cmds s = start at h
  induction h with
  | refl =>
    subst hstart
    refine ⟨hs,fun i a hoffered => ?_⟩
    rcases hoffered with hoffered | ⟨-,status,hoffered⟩ <;> cases hoffered
  | @step c' c'' tr e hrun hstep hg ih =>
    subst hstart
    obtain ⟨hgenuine,hknown⟩ := ih
    have hlast : tr ++ [e] = tr ++ ⟨e.thread,e.op,e.reply⟩ :: [] := rfl
    have howed := opened_follows (hrun.step hstep hg) hlast
    obtain ⟨x,hreply,hstate⟩ := hstep.effect
    have hchange : Change hmac backend c'.state e.op (performAdmission hmac backend e.op x c'.state).2 :=
      performAdmission_change e.op x
    refine ⟨?_,?_⟩
    · rw [hstate]
      refine hchange.genuine hgenuine (fun p hp => ?_) fun record row signature expected hw => ?_
      · rw [hp] at howed
        exact howed
      · rw [hw] at howed
        obtain ⟨a,earlier,later,hown,hwrite,hratifies⟩ := howed
        have hoffered : Offered a (own e.thread tr) := hratifies.licence.offered.mono (by rw [hown]; simp [Ratification.history])
        cases hwrite
        exact (hknown e.thread a hoffered).binds
    · intro i a hoffered
      rw [hstate]
      by_cases hthread : e.thread = i
      · subst hthread
        rw [own_concat,if_pos rfl,hreply] at hoffered
        rcases hoffered.split with hbefore | hnow
        · exact (hknown e.thread a hbefore).change hchange
        · exact (known_now hgenuine hnow).change hchange
      · rw [own_concat,if_neg hthread] at hoffered
        exact (hknown i a hoffered).change hchange

def Steady (backend : RecordBackend) (tr : List (Event ι AdmissionOp AdmissionOp.Ret CeremonyError)) : Prop :=
  ∀ before between after i serverId toolName r r',
    tr = before ++ ⟨i,.getTool serverId toolName,.ok r⟩ :: (between ++ ⟨i,.getTool serverId toolName,.ok r'⟩ :: after) →
    (∀ proposalId status reply, ⟨i,.consumeProposal serverId toolName proposalId status,reply⟩ ∉ between) →
    ∀ e ∈ between, ¬ Lands backend (rowKey backend serverId toolName) e.op e.reply

structure Lawful (sha256 hmac : String → String) (backend : RecordBackend) (printable : Char → Bool) (ageMinutes : ℚ → String)
    (cmds : ι → Command) (s : AdmissionStore) (tr : List (Event ι AdmissionOp AdmissionOp.Ret CeremonyError))
    (before after : AdmissionStore) (i : ι) (a : Ratification) : Prop where
  wrote : Wrote hmac backend before after a.record a.row a.signature
  recorded : a.record.serverId = a.row.toolDef.serverId ∧ a.record.toolName = a.row.toolDef.toolName ∧ a.record.defHash = a.row.defHash
  bound : a.row.toolDef = a.proposal.toolDef ∧ a.row.defHash = a.proposal.defHash ∧ a.key backend = a.proposal.key backend
  licensed : ∃ earlier later, own i tr = a.history earlier later ∧ Ratifies printable a earlier later (cmds i)
  pending : ∃ tr₁ tr₂ c₁, tr = tr₁ ++ ⟨i,a.burn.op,a.burn.reply⟩ :: tr₂ ∧
    Run (admissionDevice hmac backend) anyStep (opened sha256 backend printable ageMinutes cmds s) tr₁ c₁ ∧
    c₁.state.proposals.get? (a.proposal.key backend) = some (admissionItem hmac a.proposal)
  once : ∀ tr₁ tr₂ j (b : Ratification) earlier later, tr = tr₁ ++ ⟨j,b.write,.ok ()⟩ :: tr₂ → own j tr₁ = b.history earlier later →
    Ratifies printable b earlier later (cmds j) → b.key backend ≠ a.key backend
  unrejected : ∀ j serverId toolName proposalId, ⟨j,.consumeProposal serverId toolName proposalId .rejected,.ok ()⟩ ∈ tr →
    admissionKey backend serverId toolName proposalId ≠ a.key backend
  intact : ∀ item, before.rows (rowKey backend a.row.toolDef.serverId a.row.toolDef.toolName) = some item →
    ∃ data, item.data = some data ∧ item.rowHash = some (hmac data)
  replaced : Replaces hmac before (rowKey backend a.row.toolDef.serverId a.row.toolDef.toolName) a.expected
  reviewed : Steady backend tr → ∀ args candidates c earlier later, own i tr = a.history earlier later →
    Reviewed printable args a candidates c earlier →
    Replaces hmac before (rowKey backend a.row.toolDef.serverId a.row.toolDef.toolName) c.existing

def Writes : (o : AdmissionOp) → Except CeremonyError o.Ret → Prop
  | .admitToolWithRecord _ _ _ _, .ok _ => True
  | _, _ => False

theorem unwritten {o : AdmissionOp} {x : o.Input} {s : AdmissionStore} (h : ¬ Writes o (performAdmission hmac backend o x s).1) :
    (performAdmission hmac backend o x s).2.rows = s.rows ∧ (performAdmission hmac backend o x s).2.records = s.records := by
  cases o with
  | admitToolWithRecord record row signature expected =>
    rw [performAdmission] at h ⊢
    cases hw : admitToolWithRecord hmac backend s record row signature expected with
    | error e => exact ⟨rfl,rfl⟩
    | ok s' =>
      rw [hw] at h
      exact absurd trivial h
  | putProposal p =>
    rw [performAdmission]
    cases putProposal hmac backend s.proposals.get? p <;> exact ⟨rfl,rfl⟩
  | consumeProposal serverId toolName proposalId status =>
    rw [performAdmission]
    cases consumeProposal backend s.proposals.get? serverId toolName proposalId status <;> exact ⟨rfl,rfl⟩
  | _ => exact ⟨rfl,rfl⟩

theorem burn_burns (a : Ratification) : Burns backend (a.key backend) a.burn.op a.burn.reply := rfl

theorem reading_at {β : Type} {c₀ c : Config ι AdmissionOp AdmissionOp.Ret CeremonyError AdmissionStore β} {i : ι}
    {serverId toolName : String} {r : ToolReadResult} (h : Run (admissionDevice hmac backend) anyStep c₀ tr c)
    (htr : tr = tr₁ ++ ⟨i,.getTool serverId toolName,.ok r⟩ :: tr₂) :
    ∃ c₁, Run (admissionDevice hmac backend) anyStep c₀ tr₁ c₁ ∧ getTool hmac backend c₁.state serverId toolName = .ok r ∧
      ∃ c₂, c₂.state = c₁.state ∧ Run (admissionDevice hmac backend) anyStep c₂ tr₂ c := by
  obtain ⟨c₁,c₂,h₁,hs,-,h₂⟩ := h.split htr
  obtain ⟨x,hreply,hstate⟩ := hs.effect
  exact ⟨c₁,h₁,hreply.symm,c₂,hstate,h₂⟩

theorem getTool_congr {s s' : AdmissionStore} {serverId toolName : String}
    (h : s'.rows (rowKey backend serverId toolName) = s.rows (rowKey backend serverId toolName)) :
    getTool hmac backend s' serverId toolName = getTool hmac backend s serverId toolName := by
  rw [getTool,getTool,h]

theorem steady_reading (h : Run (admissionDevice hmac backend) anyStep (opened sha256 backend printable ageMinutes cmds s) tr c)
    (hsteady : Steady backend tr) {i : ι} {a : Ratification} {earlier later : List Seen} (hown : own i tr = a.history earlier later)
    {r : ToolReadResult} (hread : ⟨.getTool a.serverId a.toolName,.ok r⟩ ∈ earlier)
    (hunburnt : ∀ proposalId status reply, (⟨.consumeProposal a.serverId a.toolName proposalId status,reply⟩ : Seen) ∉ earlier) :
    r = a.expected := by
  obtain ⟨tr₁,tr₂,htr,hearlier⟩ := own_split hown
  obtain ⟨before,between,rfl⟩ := List.append_of_mem (mem_own.mp (hearlier ▸ hread))
  have hnone : ∀ proposalId status reply, ⟨i,.consumeProposal a.serverId a.toolName proposalId status,reply⟩ ∉ between := by
    intro proposalId status reply hmem
    refine hunburnt proposalId status reply ?_
    rw [← hearlier]
    exact mem_own.mpr (by simp [hmem])
  have hquiet := hsteady before between tr₂ i a.serverId a.toolName r a.expected (by simpa using htr) hnone
  obtain ⟨c₁,-,hfirst,c₂,hsame,hrest⟩ := reading_at h (by simpa using htr : tr = before ++ _ :: (between ++ _ :: tr₂))
  obtain ⟨c₃,hbetween,hsecond,-⟩ := reading_at hrest rfl
  have hrows := rows_still_run hbetween hquiet
  rw [getTool_congr (hrows.trans (by rw [hsame])),hfirst] at hsecond
  exact Except.ok.inj hsecond

theorem history_split {before after : List Seen} {saw : Seen} {a : Ratification} {earlier later : List Seen}
    (h : before ++ saw :: after = a.history earlier later) (hbaseline : saw ≠ a.baseline) (hburn : saw ≠ a.burn) (hlater : saw ∉ later) :
    ∃ rest, earlier = before ++ saw :: rest := by
  rw [Ratification.history] at h
  rcases List.append_eq_append_iff.mp h with ⟨l,rfl,hl⟩ | ⟨l,rfl,hl⟩
  · cases l with
    | nil =>
      rw [List.nil_append] at hl
      exact absurd (List.cons.inj hl).1 hbaseline
    | cons head l =>
      obtain ⟨rfl,-⟩ := List.cons.inj hl
      exact ⟨l,rfl⟩
  · exfalso
    have hmem : saw ∈ a.baseline :: a.burn :: later := hl ▸ by simp
    rcases List.mem_cons.mp hmem with hm | hm
    · exact hbaseline hm
    rcases List.mem_cons.mp hm with hm | hm
    · exact hburn hm
    · exact hlater hm

theorem Licence.offered_own {a : Ratification} {earlier later : List Seen} (h : Licence a earlier later) {i : ι}
    (hown : own i tr = a.history earlier later) : Offered a (own i tr) :=
  h.offered.mono (by rw [hown]; simp [Ratification.history])

theorem pending_when_burnt (hs : Genuine sha256 hmac backend s)
    (h : Run (admissionDevice hmac backend) anyStep (opened sha256 backend printable ageMinutes cmds s) tr c) {i : ι} {a : Ratification}
    {seen : List Seen} (hoffered : Offered a seen) (htr : tr = tr₁ ++ ⟨i,a.burn.op,a.burn.reply⟩ :: tr₂) (hown : own i tr₁ = seen) :
    ∃ c₁, Run (admissionDevice hmac backend) anyStep (opened sha256 backend printable ageMinutes cmds s) tr₁ c₁ ∧
      c₁.state.proposals.get? (a.proposal.key backend) = some (admissionItem hmac a.proposal) := by
  obtain ⟨c₁,c₂,h₁,hburn,-,-⟩ := h.split htr
  obtain ⟨x,hreply,-⟩ := hburn.effect
  have hburnt : (performAdmission hmac backend (.consumeProposal a.serverId a.toolName a.proposalId .ratified) () c₁.state).1 = .ok () :=
    hreply.symm
  obtain ⟨-,⟨data,proposalHash,status⟩,hitem,hpending,-⟩ := performAdmission_burn hburnt
  have hknown := (offers_known hs h₁).2 i a (hown ▸ hoffered)
  obtain ⟨item,hstored,hdata,hhash⟩ := hknown.stored
  rw [show admissionKey backend a.serverId a.toolName a.proposalId = a.proposal.key backend from hknown.key,hstored] at hitem
  cases hitem
  refine ⟨c₁,h₁,?_⟩
  rw [hstored]
  obtain rfl : data = canonicalProposalPayload a.proposal := hdata
  obtain rfl : proposalHash = hmac (canonicalProposalPayload a.proposal) := hhash
  obtain rfl : status = .pending := hpending
  rfl

theorem burn_split {a : Ratification} {earlier later : List Seen} {i : ι} (hown : own i tr = a.history earlier later) :
    ∃ tr₁ tr₂, tr = tr₁ ++ ⟨i,a.burn.op,a.burn.reply⟩ :: tr₂ ∧ own i tr₁ = earlier ++ [a.baseline] := by
  have hsplit : own i tr = (earlier ++ [a.baseline]) ++ ⟨a.burn.op,a.burn.reply⟩ :: later := by
    rw [hown]
    simp [Ratification.history]
  exact own_split hsplit

theorem burnt_apart (h : Run (admissionDevice hmac backend) anyStep (opened sha256 backend printable ageMinutes cmds s) tr c)
    {i j : ι} {a b : Ratification} {earlier later earlier' later' : List Seen} (hown : own i tr = a.history earlier later)
    (ha : Licence a earlier later) (htr : tr = tr₁ ++ ⟨j,b.write,.ok ()⟩ :: tr₂) (hown' : own j tr₁ = b.history earlier' later') :
    b.key backend ≠ a.key backend := by
  intro hsame
  obtain ⟨tr₃,tr₄,hburn,hbefore⟩ := burn_split hown
  have hbmem : (⟨j,b.burn.op,b.burn.reply⟩ : Event ι AdmissionOp AdmissionOp.Ret CeremonyError) ∈ tr₁ := by
    refine mem_own.mp ?_
    rw [hown']
    simp [Ratification.history]
  have helsewhere : (⟨j,b.burn.op,b.burn.reply⟩ : Event ι AdmissionOp AdmissionOp.Ret CeremonyError) ∈ tr₃ ∨
      (⟨j,b.burn.op,b.burn.reply⟩ : Event ι AdmissionOp AdmissionOp.Ret CeremonyError) ∈ tr₄ := by
    by_cases hthread : j = i
    · subst hthread
      have hwhole : own j tr₁ ++ ⟨b.write,.ok ()⟩ :: own j tr₂ = a.history earlier later := by
        rw [← hown,htr]
        simp [own]
      have hlooks : (⟨b.write,.ok ()⟩ : Seen) ∉ later := by
        intro hmem
        have hlook := ha.quiet _ hmem
        simp [Ratification.write,AdmissionOp.looks] at hlook
      obtain ⟨rest,hrest⟩ := history_split hwhole (by simp [Ratification.baseline,Ratification.write])
        (by simp [Ratification.burn,Ratification.write]) hlooks
      refine .inl (mem_own.mp ?_)
      rw [hbefore,hrest]
      exact List.mem_append_left _ (List.mem_append_left _ (mem_own.mpr hbmem))
    · have hmem : (⟨j,b.burn.op,b.burn.reply⟩ : Event ι AdmissionOp AdmissionOp.Ret CeremonyError) ∈ tr := by
        rw [htr]
        exact List.mem_append_left _ hbmem
      rw [hburn] at hmem
      rcases List.mem_append.mp hmem with hmem | hmem
      · exact .inl hmem
      rcases List.mem_cons.mp hmem with hmem | hmem
      · exact absurd (congrArg Event.thread hmem) hthread
      · exact .inr hmem
  refine burnt_elsewhere h hburn (burn_burns a) helsewhere ?_
  rw [← hsame]
  exact burn_burns b

theorem unrejected_burn (h : Run (admissionDevice hmac backend) anyStep (opened sha256 backend printable ageMinutes cmds s) tr c)
    {i j : ι} {a : Ratification} (htr : tr = tr₁ ++ ⟨i,a.burn.op,a.burn.reply⟩ :: tr₂) {serverId toolName proposalId : String}
    (hmem : ⟨j,.consumeProposal serverId toolName proposalId .rejected,.ok ()⟩ ∈ tr) :
    admissionKey backend serverId toolName proposalId ≠ a.key backend := by
  intro hsame
  rw [htr] at hmem
  have helsewhere : (⟨j,.consumeProposal serverId toolName proposalId .rejected,.ok ()⟩ :
      Event ι AdmissionOp AdmissionOp.Ret CeremonyError) ∈ tr₁ ∨
      (⟨j,.consumeProposal serverId toolName proposalId .rejected,.ok ()⟩ : Event ι AdmissionOp AdmissionOp.Ret CeremonyError) ∈ tr₂ := by
    rcases List.mem_append.mp hmem with hmem | hmem
    · exact .inl hmem
    rcases List.mem_cons.mp hmem with hmem | hmem
    · cases hmem
    · exact .inr hmem
  exact burnt_elsewhere h htr (burn_burns a) helsewhere hsame

end Pool

end SafeAgents.Mcp
