import SafeAgents.Grants.Proposals

namespace SafeAgents.Grants

open Wire

inductive ProposalStatus where
  | pending | ratified | rejected
  deriving DecidableEq

def ProposalStatus.text : ProposalStatus → String
  | .pending => "pending"
  | .ratified => "ratified"
  | .rejected => "rejected"

inductive ProposalError where
  | alreadyExists (text : String)
  | consumed (text : String)
  | integrity (text : String)
  | value (text : String)
  | decode
  deriving DecidableEq

structure ProposalItem where
  data : String
  proposalHash : String
  status : ProposalStatus
  expiresAt : String
  deriving DecidableEq

abbrev ProposalTable := String × String → Option ProposalItem

def proposalPk (principal : Principal) (actionClass : String) : String := "PROPOSAL#" ++ principal.key ++ "#" ++ actionClass

def proposalKey (principal : Principal) (actionClass proposalId : String) : String × String :=
  (proposalPk principal actionClass,proposalId)

def checkNewStatus (status : ProposalStatus) : Except ProposalError Unit :=
  if status = .pending then
    .error (.value ("consume_proposal only flips pending -> ratified|rejected, got " ++ pyRepr status.text))
  else .ok ()

def notPending (backend : RecordBackend) (item : Option ProposalItem) : String :=
  match backend with
  | .dynamo => " is not pending; it was already consumed or never existed"
  | _ =>
    " is not pending (" ++ (item.elim "absent" fun i => "status=" ++ pyRepr i.status.text) ++
      "); it was already consumed or never existed"

section Store
variable {F : Type} (fmt : FloatFormat F) (lax : Coercion F) (hmac : String → String)

def proposalItem (p : PromotionProposal F) : ProposalItem where
  data := proposalToJson fmt p
  proposalHash := hmac (proposalToJson fmt p)
  status := .pending
  expiresAt := p.expiresAt

def putProposal (table : ProposalTable) (p : PromotionProposal F) : Except ProposalError ProposalTable :=
  let key := proposalKey p.principal p.actionClass p.proposalId
  if (table key).isSome then
    .error (.alreadyExists ("proposal " ++ key.1 ++ "/" ++ key.2 ++
      " already exists; proposals are never overwritten — mint a fresh proposal_id"))
  else .ok (Function.update table key (some (proposalItem fmt hmac p)))

def getProposal (table : ProposalTable) (principal : Principal) (actionClass proposalId : String) :
    Except ProposalError (Option (PromotionProposal F × ProposalStatus)) :=
  match table (proposalKey principal actionClass proposalId) with
  | none => .ok none
  | some item =>
    if item.proposalHash ≠ hmac item.data then
      .error (.integrity ("proposal " ++ proposalId ++ " for " ++ principal.agentId ++ "/" ++ actionClass ++
        " failed integrity verification (hash mismatch: stored=" ++ pyRepr item.proposalHash ++ " expected=" ++
        pyRepr (hmac item.data) ++ "); it must not be used until the tamper is resolved"))
    else
      match proposalFromJson fmt lax item.data with
      | none => .error .decode
      | some p => .ok (some (p,item.status))

end Store

def consumeProposal (backend : RecordBackend) (table : ProposalTable) (principal : Principal) (actionClass proposalId : String)
    (newStatus : ProposalStatus) : Except ProposalError ProposalTable := do
  checkNewStatus newStatus
  let key := proposalKey principal actionClass proposalId
  match table key with
  | some item =>
    if item.status = .pending then return Function.update table key (some { item with status := newStatus })
    else .error (.consumed ("proposal " ++ proposalId ++ " for " ++ principal.agentId ++ "/" ++ actionClass ++
      notPending backend (some item)))
  | none =>
    .error (.consumed ("proposal " ++ proposalId ++ " for " ++ principal.agentId ++ "/" ++ actionClass ++
      notPending backend none))

theorem putProposal_ok {F : Type} {fmt : FloatFormat F} {hmac : String → String} {table t : ProposalTable}
    {p : PromotionProposal F} (h : putProposal fmt hmac table p = .ok t) :
    table (proposalKey p.principal p.actionClass p.proposalId) = none ∧
      t = Function.update table (proposalKey p.principal p.actionClass p.proposalId) (some (proposalItem fmt hmac p)) := by
  rw [putProposal] at h
  split at h
  · cases h
  next hfree => exact ⟨Option.not_isSome_iff_eq_none.mp hfree,(Except.ok.inj h).symm⟩

theorem consumeProposal_ok {backend : RecordBackend} {table t : ProposalTable} {principal : Principal}
    {actionClass proposalId : String} {status : ProposalStatus}
    (h : consumeProposal backend table principal actionClass proposalId status = .ok t) :
    ∃ item, table (proposalKey principal actionClass proposalId) = some item ∧ item.status = .pending ∧ status ≠ .pending ∧
      t = Function.update table (proposalKey principal actionClass proposalId) (some { item with status }) := by
  obtain ⟨_,hstatus,hrest⟩ := Checked.bind_ok.mp h
  have hnew : status ≠ .pending := by
    rintro rfl
    cases hstatus
  cases hrow : table (proposalKey principal actionClass proposalId) with
  | none =>
    simp only [hrow] at hrest
    cases hrest
  | some item =>
    simp only [hrow] at hrest
    split at hrest
    next hpending => exact ⟨item,rfl,hpending,hnew,(Except.ok.inj hrest).symm⟩
    · cases hrest

theorem getProposal_ok {F : Type} {fmt : FloatFormat F} {lax : Coercion F} {hmac : String → String} {table : ProposalTable}
    {principal : Principal} {actionClass proposalId : String} {p : PromotionProposal F} {status : ProposalStatus}
    (h : getProposal fmt lax hmac table principal actionClass proposalId = .ok (some (p,status))) :
    ∃ item, table (proposalKey principal actionClass proposalId) = some item ∧ item.proposalHash = hmac item.data ∧
      proposalFromJson fmt lax item.data = some p ∧ item.status = status := by
  rw [getProposal] at h
  cases hrow : table (proposalKey principal actionClass proposalId) with
  | none =>
    rw [hrow] at h
    cases h
  | some item =>
    simp only [hrow] at h
    split at h
    · cases h
    next hhash =>
      cases hread : proposalFromJson fmt lax item.data with
      | none =>
        rw [hread] at h
        cases h
      | some read =>
        rw [hread] at h
        cases h
        exact ⟨item,rfl,not_not.mp hhash,hread,rfl⟩

theorem getProposal_written {F : Type} {fmt : FloatFormat F} {lax : Coercion F} {hmac : String → String} {table : ProposalTable}
    {principal : Principal} {actionClass proposalId : String} {p : PromotionProposal F} (hp : p.accepted fmt = true)
    (hrow : table (proposalKey principal actionClass proposalId) = some (proposalItem fmt hmac p)) :
    getProposal fmt lax hmac table principal actionClass proposalId = .ok (some (p,.pending)) := by
  have hread := PromotionProposal.proposalFromJson_toJson fmt lax hp
  simp [getProposal,hrow,proposalItem,hread]

end SafeAgents.Grants
