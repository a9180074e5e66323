import SafeAgents.Mcp.AdmissionChange

namespace SafeAgents.Mcp

open Calendar Checked Grants Json Wire Interleaving

inductive Command where
  | admitPropose (args : ProposeArgs) (caller : String) (now : Option Instant)
  | bulkPropose (args : BulkProposeArgs) (caller : String) (now : Option Instant)
  | admitRatify (signer : Option RecordSigner) (serverId toolName proposalId caller : String) (now : Option Instant) (skew : Int)
  | bulkRatify (args : BulkRatifyArgs) (signer : Option RecordSigner) (caller : String) (now : Option Instant)
  | admitReject (serverId toolName proposalId caller : String)

def Command.prog (backend : RecordBackend) (printable : Char → Bool) (sha256 : String → String) (ageMinutes : ℚ → String) :
    Command → Cmd Nat
  | .admitPropose args caller now => admitProposeCommand printable sha256 args caller now
  | .bulkPropose args caller now => bulkProposeCommand printable sha256 ageMinutes args caller now
  | .admitRatify signer serverId toolName proposalId caller now skew =>
    admitRatifyCommand backend signer serverId toolName proposalId caller now skew
  | .bulkRatify args signer caller now => bulkRatifyCommand backend printable args signer caller now
  | .admitReject serverId toolName proposalId caller => admitRejectCommand serverId toolName proposalId caller

abbrev Seen := Saw AdmissionOp AdmissionOp.Ret CeremonyError

structure Ratification where
  signer : RecordSigner
  caller : String
  now : Option Instant
  skew : Int
  serverId : String
  toolName : String
  proposalId : String
  proposal : McpAdmissionProposal
  ts : String
  expected : ToolReadResult

namespace Ratification

def record (a : Ratification) : McpAdmissionRecord := admissionRecord a.proposal a.caller a.ts

def row (a : Ratification) : ToolRow := activeRowFromProposal a.proposal a.caller a.ts

def signature (a : Ratification) : Json := signAdmissionRecord a.signer a.record

def write (a : Ratification) : AdmissionOp := .admitToolWithRecord a.record a.row a.signature a.expected

def burn (a : Ratification) : Seen := ⟨.consumeProposal a.serverId a.toolName a.proposalId .ratified,.ok ()⟩

def baseline (a : Ratification) : Seen := ⟨.getTool a.serverId a.toolName,.ok a.expected⟩

def history (a : Ratification) (earlier later : List Seen) : List Seen := earlier ++ a.baseline :: a.burn :: later

end Ratification

def AdmissionOp.looks : AdmissionOp → Bool
  | .now => true
  | .getTool _ _ => true
  | _ => false

def Clocked (now : Option Instant) (seen : List Seen) (t : Instant) : Prop :=
  match now with
  | some fixed => t = fixed
  | none => ⟨.now,.ok t⟩ ∈ seen

def Offered (a : Ratification) (seen : List Seen) : Prop :=
  ⟨.getProposal a.serverId a.toolName a.proposalId,.ok (some (a.proposal,.pending))⟩ ∈ seen ∨
    a.proposalId = a.proposal.proposalId ∧ ∃ status, ⟨.listPending a.serverId a.toolName,.ok [(a.proposal,status)]⟩ ∈ seen

structure Licence (a : Ratification) (earlier later : List Seen) : Prop where
  offered : Offered a earlier
  unexpired : ∃ t, Clocked a.now earlier t ∧ proposalExpired a.proposal.expiresAt t a.skew = .ok false
  operators : isSameOperator a.proposal.proposedBy a.caller = false
  quiet : ∀ saw ∈ later, saw.op.looks = true

structure Reviewed (printable : Char → Bool) (args : BulkRatifyArgs) (a : Ratification) (candidates : List RatifyCandidate)
    (c : RatifyCandidate) (earlier : List Seen) : Prop where
  member : c ∈ candidates
  names : (candidates.map RatifyCandidate.toolName).Nodup
  coordinate : c.toolName = a.toolName
  proposal : c.proposal = a.proposal
  read : ⟨.getTool a.serverId a.toolName,.ok c.existing⟩ ∈ earlier
  unburnt : ∀ proposalId status r, (⟨.consumeProposal a.serverId a.toolName proposalId status,r⟩ : Seen) ∉ earlier
  intact : c.existing.quarantined = false
  diff : renderToolDiff printable c.toolName c.existing.tool (some { toolDef := c.proposal.toolDef, defHash := c.proposal.defHash })
    .stdio none = .ok c.diff
  acknowledged : c.diff.descriptionChanged = true → c.toolName ∈ args.acknowledgeDescriptionChange
  printed : ∀ line ∈ gateLines printable (bucketsOf candidates), ⟨.print line,.ok ()⟩ ∈ earlier

def Ratifies (printable : Char → Bool) (a : Ratification) (earlier later : List Seen) : Command → Prop
  | .admitRatify signer serverId toolName proposalId caller now skew =>
    signer = some a.signer ∧ serverId = a.serverId ∧ toolName = a.toolName ∧ proposalId = a.proposalId ∧ caller = a.caller ∧
      now = a.now ∧ skew = a.skew ∧ Licence a earlier later
  | .bulkRatify args signer caller now =>
    signer = some a.signer ∧ args.serverId = a.serverId ∧ caller = a.caller ∧ now = a.now ∧
      (∃ servers, args.manifest = .ok (servers,a.skew)) ∧ Licence a earlier later ∧
      ∃ candidates c, Reviewed printable args a candidates c earlier
  | _ => False

def owed (printable : Char → Bool) (sha256 : String → String) (cmd : Command) (seen : List Seen) : AdmissionOp → Prop
  | .putProposal p => Binds sha256 p.toolDef p.defHash
  | .admitToolWithRecord record row signature expected => ∃ a earlier later, seen = Ratification.history a earlier later ∧
      .admitToolWithRecord record row signature expected = a.write ∧ Ratifies printable a earlier later cmd
  | _ => True

section Duty
variable {backend : RecordBackend} {printable : Char → Bool} {sha256 : String → String}

theorem Clocked.mono {now : Option Instant} {seen seen' : List Seen} {t : Instant} (h : Clocked now seen t) (hsub : seen ⊆ seen') :
    Clocked now seen' t := by
  cases now with
  | some fixed => exact h
  | none => exact hsub h

theorem Offered.mono {a : Ratification} {seen seen' : List Seen} (h : Offered a seen) (hsub : seen ⊆ seen') : Offered a seen' := by
  rcases h with h | ⟨hid,status,h⟩
  · exact .inl (hsub h)
  · exact .inr ⟨hid,status,hsub h⟩

def Tame (sha256 : String → String) : AdmissionOp → Prop
  | .putProposal p => Binds sha256 p.toolDef p.defHash
  | .admitToolWithRecord _ _ _ _ => False
  | _ => True

theorem owed_tame {cmd : Command} {seen : List Seen} {o : AdmissionOp} (h : Tame sha256 o) : owed printable sha256 cmd seen o := by
  cases o with
  | admitToolWithRecord record row signature expected => exact absurd h id
  | putProposal p => exact h
  | _ => trivial

theorem tells_tame {α : Type} {p : Cmd α} {cmd : Command} {seen : List Seen → List Seen} (hp : Uses (Tame sha256) p) :
    Tells (fun _ _ => True) (fun own => owed printable sha256 cmd (seen own)) (fun _ _ => True) p :=
  hp.tells (fun _ _ ho => owed_tame ho) fun _ _ => trivial

theorem uses_print {P : AdmissionOp → Prop} (hP : ∀ line, P (.print line)) (line : String) : Uses P (print line) :=
  uses_call.mpr (hP line)

theorem uses_printAll {P : AdmissionOp → Prop} (hP : ∀ line, P (.print line)) (lines : List String) : Uses P (printAll lines) := by
  induction lines with
  | nil => trivial
  | cons line rest ih => exact (uses_print hP line).bind fun _ => ih

theorem uses_refused {P : AdmissionOp → Prop} (hP : ∀ line, P (.print line)) (line : String) (code : Nat) : Uses P (refused line code) :=
  (uses_print hP _).bind fun _ => trivial

theorem uses_utcNow {P : AdmissionOp → Prop} (hP : P .now) (now : Option Instant) : Uses P (utcNow now) := by
  cases now with
  | some t => trivial
  | none => exact uses_call.mpr hP

theorem uses_printedIf {α : Type} {P : AdmissionOp → Prop} (hP : ∀ line, P (.print line)) {c : Prop} [Decidable c] {line : String}
    {f : Unit → Cmd α} (hf : ∀ u, Uses P (f u)) : Uses P (if c then print line >>= f else f ()) := by
  split
  · exact (uses_print hP line).bind hf
  · exact hf ()

theorem tame_print (line : String) : Tame sha256 (.print line) := trivial

theorem admitProposeCommand_tame (args : ProposeArgs) (caller : String) (now : Option Instant) :
    Uses (Tame sha256) (admitProposeCommand printable sha256 args caller now) := by
  rw [admitProposeCommand]
  split
  · exact uses_refused tame_print _ _
  cases args.definition sha256 with
  | error refusal => exact uses_refused tame_print _ _
  | ok d =>
    dsimp only
    split
    · exact uses_refused tame_print _ _
    refine (uses_call.mpr trivial).bind fun existing => ?_
    refine (uses_print tame_print _).bind fun _ => ?_
    refine uses_finish.bind fun preview => ?_
    refine (uses_print tame_print _).bind fun _ => ?_
    refine (uses_print tame_print _).bind fun _ => ?_
    refine (uses_call.mpr trivial).bind fun proposalId => ?_
    refine (uses_utcNow trivial now).bind fun t => ?_
    refine (uses_call.mpr ⟨d.admitted,rfl⟩).bind fun _ => ?_
    refine (uses_print tame_print _).bind fun _ => ?_
    exact (uses_print tame_print _).bind fun _ => uses_pure

theorem uses_attempted {P : AdmissionOp → Prop} {o : AdmissionOp} (h : P o) : Uses P (attempted (call o)) :=
  uses_attempt (uses_call.mpr h) fun _ => trivial

theorem admitRejectCommand_tame (serverId toolName proposalId caller : String) :
    Uses (Tame sha256) (admitRejectCommand serverId toolName proposalId caller) := by
  refine (uses_attempted trivial).bind fun loaded => ?_
  split
  · exact uses_refused tame_print _ _
  · exact uses_throw
  · exact uses_refused tame_print _ _
  · split
    · exact uses_refused tame_print _ _
    refine (uses_attempted trivial).bind fun consumed => ?_
    split
    · exact uses_refused tame_print _ _
    · exact uses_throw
    · exact (uses_print tame_print _).bind fun _ => uses_pure

def Sound (sha256 : String → String) (found : Classified) : Prop :=
  ∀ a ∈ found.actionable, Binds sha256 a.entry.toolDef.toMcpToolDef a.entry.defHash

def SoundResult (sha256 : String → String) (r : Except CeremonyError Classified) : Prop := ∀ found, r = .ok found → Sound sha256 found

theorem classifyCoordinate_sound (snapshot : McpServerSnapshot) (decl : DeclaredServer) {found : Classified} (name : String)
    (h : Sound sha256 found) :
    Yields (Tame sha256) (SoundResult sha256) (classifyCoordinate printable sha256 snapshot decl found name) := by
  have hkeep : ∀ found', found'.actionable = found.actionable → SoundResult sha256 (.ok found') := by
    rintro found' hsame _ ⟨⟩
    rwa [Sound,hsame]
  refine Yields.then (uses_call.mpr trivial) (fun stored => ?_) fun _ _ he => by cases he
  dsimp only
  split
  · exact hkeep _ rfl
  · refine Yields.then uses_finish (fun result => ?_) fun _ _ he => by cases he
    split
    · exact hkeep _ rfl
    · exact hkeep _ rfl
    · exact hkeep _ rfl
    · split
      · exact hkeep _ rfl
      · split
        · exact hkeep _ rfl
        · rename_i entry _ _ _ _ hhash
          rintro _ ⟨⟩ a ha
          rcases List.mem_append.mp ha with ha | ha
          · exact h a ha
          · rw [List.mem_singleton] at ha
            subst ha
            exact ⟨entry.toolDef.admitted,(not_not.mp hhash).symm⟩

theorem classifyAll_sound (snapshot : McpServerSnapshot) (decl : DeclaredServer) (names : List String) {found : Classified}
    (h : Sound sha256 found) :
    Yields (Tame sha256) (SoundResult sha256) (classifyAll printable sha256 snapshot decl names found) := by
  induction names generalizing found with
  | nil =>
    rintro _ ⟨⟩
    exact h
  | cons name rest ih =>
    exact (classifyCoordinate_sound snapshot decl name h).bind (fun found' hfound => ih (hfound found' rfl))
      fun _ _ _ he => by cases he

theorem proposeAll_tame (serverId caller expiresAt : String) (actionable : List Actionable) (written : List String)
    (h : ∀ a ∈ actionable, Binds sha256 a.entry.toolDef.toMcpToolDef a.entry.defHash) :
    Uses (Tame sha256) (proposeAll serverId caller expiresAt actionable written) := by
  induction actionable generalizing written with
  | nil => exact (uses_print tame_print _).bind fun _ => (uses_print tame_print _).bind fun _ => uses_pure
  | cons a rest ih =>
    refine (uses_call.mpr trivial).bind fun proposalId => ?_
    refine (uses_attempted (h a List.mem_cons_self)).bind fun stored => ?_
    split
    · exact (uses_print tame_print _).bind fun _ => (uses_print tame_print _).bind fun _ => uses_pure
    · refine (uses_print tame_print _).bind fun _ => (uses_print tame_print _).bind fun _ => ?_
      exact (uses_print tame_print _).bind fun _ => (uses_print tame_print _).bind fun _ => uses_pure
    · exact (uses_print tame_print _).bind fun _ => ih _ fun b hb => h b (List.mem_cons_of_mem _ hb)

theorem bulkProposeCommand_tame (ageMinutes : ℚ → String) (args : BulkProposeArgs) (caller : String) (now : Option Instant) :
    Uses (Tame sha256) (bulkProposeCommand printable sha256 ageMinutes args caller now) := by
  rw [bulkProposeCommand]
  split
  · exact uses_refused tame_print _ _
  · next snapshot decl skew _ =>
    split
    · exact uses_refused tame_print _ _
    · refine (uses_utcNow trivial now).bind fun evaluatedAt => ?_
      refine uses_finish.bind fun judgedAt => ?_
      split
      · exact uses_refused tame_print _ _
      · have hfound : Sound sha256 {} := fun a ha => (nomatch ha)
        refine ((classifyAll_sound snapshot decl _ hfound).bind (W := fun _ => True) (fun found hsound => ?_) fun _ _ => trivial).uses
        refine Uses.yields ?_ fun _ => trivial
        split
        · refine (uses_print tame_print _).bind fun _ => ?_
          exact (uses_printAll tame_print _).bind fun _ => uses_pure
        · refine (uses_printAll tame_print _).bind fun _ => ?_
          refine (uses_print tame_print _).bind fun _ => ?_
          refine uses_printedIf tame_print fun _ => uses_printedIf tame_print fun _ => uses_printedIf tame_print fun _ => ?_
          exact (uses_utcNow trivial now).bind fun t => proposeAll_tame _ _ _ _ _ (hsound found rfl)

theorem tells_utcNow_bind {α : Type} {M : List Seen → AdmissionOp → Prop} {V : List Seen → Except CeremonyError α → Prop}
    {now : Option Instant} {f : Instant → Cmd α} (hM : M [] .now) (hV : ∀ e, V [⟨.now,.error e⟩] (.error e))
    (hf : ∀ t own, Clocked now own t → (∀ saw ∈ own, saw.op.looks = true) →
      Tells (fun _ _ => True) (fun own' => M (own ++ own')) (fun own' => V (own ++ own')) (f t)) :
    Tells (fun _ _ => True) M V (utcNow now >>= f) := by
  cases now with
  | some t => exact hf t [] rfl (by simp)
  | none =>
    refine tells_call_bind.mpr ⟨hM,fun t _ => ?_,fun e _ => hV e⟩
    exact hf t [⟨.now,.ok t⟩] (by simp [Clocked]) (by simp [AdmissionOp.looks])

theorem tells_finish_bind {α γ : Type} {M : List Seen → AdmissionOp → Prop} {V : List Seen → Except CeremonyError γ → Prop}
    {r : Except CeremonyError α} {f : α → Cmd γ} (hV : ∀ e, V [] (.error e))
    (hf : ∀ a, r = .ok a → Tells (fun _ _ => True) M V (f a)) : Tells (fun _ _ => True) M V (Prog.finish r >>= f) := by
  cases r with
  | ok a => exact hf a rfl
  | error e => exact hV e

theorem mapError_ok {ε ε' α : Type} {f : ε → ε'} {r : Except ε α} {a : α} (h : r.mapError f = .ok a) : r = .ok a := by
  cases r with
  | ok b =>
    cases h
    rfl
  | error e => cases h

theorem tells_writeAdmission {M : List Seen → AdmissionOp → Prop} {record : McpAdmissionRecord} {row : ToolRow} {signature : Json}
    {expected : ToolReadResult} (hlook : M [] (.getTool row.toolDef.serverId row.toolDef.toolName))
    (hwrite : ∀ looks : List Seen, (∀ saw ∈ looks, saw.op.looks = true) → M looks (.admitToolWithRecord record row signature expected)) :
    Tells (fun _ _ => True) M (fun _ _ => True) (writeAdmission backend record row signature expected) := by
  have hlast : ∀ looks : List Seen, (∀ saw ∈ looks, saw.op.looks = true) →
      Tells (fun _ _ => True) (fun own => M (looks ++ own)) (fun _ _ => True) (call (.admitToolWithRecord record row signature expected)) :=
    fun looks hlooks => tells_call.mpr ⟨by simpa using hwrite looks hlooks,fun _ _ => trivial⟩
  rw [writeAdmission]
  split
  · refine tells_call_bind.mpr ⟨hlook,fun current _ => ?_,fun _ _ => trivial⟩
    refine tells_finish_bind (fun _ => trivial) fun _ _ => ?_
    exact hlast [⟨.getTool row.toolDef.serverId row.toolDef.toolName,.ok current⟩] (by simp [AdmissionOp.looks])
  · exact hlast [] (by simp)

theorem tells_attempted_bind {α γ : Type} {M : List Seen → AdmissionOp → Prop} {p : Cmd α} {f : Except CeremonyError α → Cmd γ}
    (hp : Tells (fun _ _ => True) M (fun _ _ => True) p)
    (hf : ∀ own r, Tells (fun _ _ => True) (fun own' => M (own ++ own')) (fun _ _ => True) (f r)) :
    Tells (fun _ _ => True) M (fun _ _ => True) (attempted p >>= f) := by
  have hattempted : Tells (fun _ _ => True) M (fun _ _ => True) (attempted p) := tells_attempt hp fun _ _ _ => trivial
  exact hattempted.bind (fun own r _ => hf own r) fun _ _ _ => trivial

theorem admitRatifyCommand_owed (signer : Option RecordSigner) (serverId toolName proposalId caller : String) (now : Option Instant)
    (skew : Int) : Tells (fun _ _ => True)
      (owed printable sha256 (.admitRatify signer serverId toolName proposalId caller now skew)) (fun _ _ => True)
      (admitRatifyCommand backend signer serverId toolName proposalId caller now skew) := by
  cases signer with
  | none => exact tells_tame (uses_refused tame_print _ _)
  | some signer =>
    refine tells_call_attempt_bind.mpr ⟨trivial,fun loaded _ => ?_⟩
    split
    · exact tells_tame (uses_refused tame_print _ _)
    · exact tells_tame uses_throw
    · exact tells_tame (uses_refused tame_print _ _)
    next p status =>
      split
      · exact tells_tame (uses_refused tame_print _ _)
      next hpending =>
        obtain rfl : status = .pending := not_not.mp hpending
        refine tells_utcNow_bind trivial (fun _ => trivial) fun t clocks hclock _ => ?_
        refine tells_finish_bind (fun _ => trivial) fun expired hexpired => ?_
        have hexpired := mapError_ok hexpired
        split
        · exact tells_tame (uses_refused tame_print _ _)
        next hunexpired =>
          split
          · exact tells_tame (uses_refused tame_print _ _)
          next hoperators =>
            rw [ratifyLoaded]
            refine tells_call_bind.mpr ⟨trivial,fun existing _ => ?_,fun _ _ => trivial⟩
            split
            · exact tells_tame (uses_refused tame_print _ _)
            refine tells_call_attempt_bind.mpr ⟨trivial,fun consumed _ => ?_⟩
            split
            · exact tells_tame (uses_refused tame_print _ _)
            · exact tells_tame uses_throw
            · refine tells_attempted_bind (tells_writeAdmission trivial fun looks hlooks => ?_) fun own written => ?_
              · refine ⟨⟨signer,caller,now,skew,serverId,toolName,proposalId,p,isoformat t,existing⟩,_ :: clocks,looks,rfl,rfl,
                  rfl,rfl,rfl,rfl,rfl,rfl,rfl,?_⟩
                exact ⟨.inl (by simp),⟨t,hclock.mono (List.subset_cons_self _ _),by simpa [hunexpired] using hexpired⟩,
                  by simpa using hoperators,hlooks⟩
              · split
                · split
                  · exact tells_tame (uses_refused tame_print _ _)
                  · exact tells_tame uses_throw
                · refine tells_tame ((uses_print tame_print _).bind fun _ => (uses_print tame_print _).bind fun _ => ?_)
                  exact uses_printedIf tame_print fun _ => uses_pure

structure Vetted (printable : Char → Bool) (serverId caller : String) (effectiveNow : Instant) (skew : Int) (seen : List Seen)
    (c : RatifyCandidate) : Prop where
  listed : ∃ status, ⟨.listPending serverId c.toolName,.ok [(c.proposal,status)]⟩ ∈ seen
  unexpired : proposalExpired c.proposal.expiresAt effectiveNow skew = .ok false
  operators : isSameOperator c.proposal.proposedBy caller = false
  read : ⟨.getTool serverId c.toolName,.ok c.existing⟩ ∈ seen
  intact : c.existing.quarantined = false
  diff : renderToolDiff printable c.toolName c.existing.tool (some { toolDef := c.proposal.toolDef, defHash := c.proposal.defHash })
    .stdio none = .ok c.diff

theorem Vetted.mono {serverId caller : String} {effectiveNow : Instant} {skew : Int} {seen seen' : List Seen} {c : RatifyCandidate}
    (h : Vetted printable serverId caller effectiveNow skew seen c) (hsub : seen ⊆ seen') :
    Vetted printable serverId caller effectiveNow skew seen' c :=
  { h with
    listed := h.listed.imp fun _ hl => hsub hl
    read := hsub h.read }

section Batch
variable {serverId caller : String} {effectiveNow : Instant} {skew : Int}

theorem examine_vetted (name : String) (pending : List (McpAdmissionProposal × ProposalStatus)) :
    Tells (fun _ _ => True) (fun _ _ => True) (fun own r => ∀ c, r = .ok (.candidate c) → c.toolName = name ∧
      Vetted printable serverId caller effectiveNow skew (⟨.listPending serverId name,.ok pending⟩ :: own) c)
      (examine printable serverId name caller effectiveNow skew pending) := by
  rcases pending with _ | ⟨⟨p,status⟩,_ | ⟨second,rest⟩⟩
  · exact fun _ hc => by cases hc
  · refine tells_finish_bind (fun _ _ hc => by cases hc) fun expired hexpired => ?_
    have hexpired := mapError_ok hexpired
    split
    · exact fun _ hc => by cases hc
    next hunexpired =>
      split
      · exact fun _ hc => by cases hc
      next hoperators =>
        refine tells_call_bind.mpr ⟨trivial,fun existing _ => ?_,fun _ _ _ hc => by cases hc⟩
        split
        · exact fun _ hc => by cases hc
        next hintact =>
          refine tells_finish_bind (fun _ _ hc => by cases hc) fun diff hdiff => ?_
          rintro c ⟨⟩
          exact ⟨rfl,⟨status,by simp⟩,by simpa [hunexpired] using hexpired,by simpa using hoperators,by simp,by simpa using hintact,
            mapError_ok hdiff⟩
  · exact fun _ hc => by cases hc

def Inert : AdmissionOp → Prop
  | .putProposal _ => False
  | .consumeProposal _ _ _ _ => False
  | .admitToolWithRecord _ _ _ _ => False
  | _ => True

theorem inert_print (line : String) : Inert (.print line) := trivial

theorem Inert.tame {o : AdmissionOp} (h : Inert o) : Tame sha256 o := by
  cases o with
  | putProposal p => exact absurd h id
  | admitToolWithRecord record row signature expected => exact h
  | _ => trivial

theorem examine_inert (name : String) (pending : List (McpAdmissionProposal × ProposalStatus)) :
    Uses Inert (examine printable serverId name caller effectiveNow skew pending) := by
  rcases pending with _ | ⟨⟨p,status⟩,_ | ⟨second,rest⟩⟩
  · exact uses_pure
  · refine uses_finish.bind fun expired => ?_
    split
    · exact uses_pure
    split
    · exact uses_pure
    refine (uses_call.mpr trivial).bind fun existing => ?_
    split
    · exact uses_pure
    exact uses_finish.bind fun diff => uses_pure
  · exact uses_pure

theorem gather_inert (names : List String) (candidates : List RatifyCandidate) (wedged : List String) :
    Uses Inert (gather printable serverId caller effectiveNow skew names candidates wedged) := by
  induction names generalizing candidates wedged with
  | nil => exact uses_pure
  | cons name rest ih =>
    refine (uses_attempted trivial).bind fun listed => ?_
    split
    · exact (uses_print inert_print _).bind fun _ => (uses_print inert_print _).bind fun _ => uses_pure
    · exact uses_throw
    · refine (examine_inert name _).bind fun examined => ?_
      split
      · exact ih _ _
      · exact ih _ _
      · exact ih _ _

variable (printable serverId caller effectiveNow skew) in
theorem gather_vetted (names : List String) (candidates : List RatifyCandidate) (wedged : List String) :
    Tells (fun _ _ => True) (fun _ _ => True) (fun own r => ∀ found lines, r = .ok (some (found,lines)) → ∃ more,
      found = candidates ++ more ∧ (more.map RatifyCandidate.toolName).Sublist names ∧
      ∀ c ∈ more, Vetted printable serverId caller effectiveNow skew own c)
      (gather printable serverId caller effectiveNow skew names candidates wedged) := by
  induction names generalizing candidates wedged with
  | nil =>
    rintro found lines ⟨⟩
    exact ⟨[],by simp⟩
  | cons name rest ih =>
    refine tells_call_attempt_bind.mpr ⟨trivial,fun listed _ => ?_⟩
    split
    · refine tells_call_bind.mpr ⟨trivial,fun _ _ => ?_,fun _ _ _ _ hr => by cases hr⟩
      exact tells_call_bind.mpr ⟨trivial,fun _ _ _ _ hr => (by cases hr),fun _ _ _ _ hr => (by cases hr)⟩
    · exact fun _ _ hr => by cases hr
    next pending =>
      refine (examine_vetted name pending).bind (fun own examined hexamined => ?_) fun _ _ _ _ _ hr => by cases hr
      split
      · refine (ih candidates wedged).mono (fun _ _ h => h) fun own' r hr found lines hfound => ?_
        obtain ⟨more,rfl,hnames,hmore⟩ := hr found lines hfound
        exact ⟨more,rfl,hnames.cons _,fun c hc => (hmore c hc).mono (by simp)⟩
      · refine (ih candidates _).mono (fun _ _ h => h) fun own' r hr found lines hfound => ?_
        obtain ⟨more,rfl,hnames,hmore⟩ := hr found lines hfound
        exact ⟨more,rfl,hnames.cons _,fun c hc => (hmore c hc).mono (by simp)⟩
      next c =>
        obtain ⟨rfl,hc⟩ := hexamined c rfl
        refine (ih (candidates ++ [c]) wedged).mono (fun _ _ h => h) fun own' r hr found lines hfound => ?_
        obtain ⟨more,rfl,hnames,hmore⟩ := hr found lines hfound
        refine ⟨c :: more,by simp,by simpa using hnames,?_⟩
        intro d hd
        rcases List.mem_cons.mp hd with rfl | hd
        · exact hc.mono (by simp)
        · exact (hmore d hd).mono (by simp)

variable {signer : RecordSigner} {now : Option Instant} {args : BulkRatifyArgs} {servers : List (String × DeclaredServer)}

structure Ready (printable : Char → Bool) (args : BulkRatifyArgs) (caller : String) (now : Option Instant) (effectiveNow : Instant)
    (skew : Int) (candidates : List RatifyCandidate) (past : List Seen) (c : RatifyCandidate) : Prop where
  vetted : Vetted printable args.serverId caller effectiveNow skew past c
  clocked : Clocked now past effectiveNow
  member : c ∈ candidates
  names : (candidates.map RatifyCandidate.toolName).Nodup
  unburnt : ∀ proposalId status r, (⟨.consumeProposal args.serverId c.toolName proposalId status,r⟩ : Seen) ∉ past
  printed : ∀ line ∈ gateLines printable (bucketsOf candidates), ⟨.print line,.ok ()⟩ ∈ past

theorem ratifyCandidate_owed {candidates : List RatifyCandidate} {past : List Seen} {c : RatifyCandidate}
    (hmanifest : args.manifest = .ok (servers,skew))
    (h : Ready printable args caller now effectiveNow skew candidates past c) :
    Tells (fun _ _ => True) (fun own => owed printable sha256 (.bulkRatify args (some signer) caller now) (past ++ own))
      (fun _ _ => True) (ratifyCandidate backend signer args.serverId caller now args.acknowledgeDescriptionChange c) := by
  rw [ratifyCandidate]
  split
  · exact tells_tame uses_pure
  next hacknowledged =>
    have hnamed : c.diff.descriptionChanged = true → c.toolName ∈ args.acknowledgeDescriptionChange := by
      intro hchanged
      simpa [hchanged] using hacknowledged
    refine tells_call_bind.mpr ⟨trivial,fun existing _ => ?_,fun _ _ => trivial⟩
    refine tells_call_attempt_bind.mpr ⟨trivial,fun consumed _ => ?_⟩
    split
    · exact tells_tame uses_pure
    · exact tells_tame uses_throw
    · refine tells_utcNow_bind trivial (fun _ => trivial) fun t clocks _ hclocks => ?_
      refine tells_attempted_bind (tells_writeAdmission trivial fun looks hlooks => ?_) fun own written => ?_
      · refine ⟨⟨signer,caller,now,skew,args.serverId,c.toolName,c.proposal.proposalId,c.proposal,isoformat t,existing⟩,past,
          clocks ++ looks,rfl,rfl,rfl,rfl,rfl,rfl,⟨servers,hmanifest⟩,?_,candidates,c,?_⟩
        · refine ⟨.inr ⟨rfl,h.vetted.listed⟩,⟨effectiveNow,h.clocked,h.vetted.unexpired⟩,h.vetted.operators,?_⟩
          intro saw hsaw
          rcases List.mem_append.mp hsaw with hsaw | hsaw
          · exact hclocks saw hsaw
          · exact hlooks saw hsaw
        · exact ⟨h.member,h.names,rfl,rfl,h.vetted.read,h.unburnt,h.vetted.intact,h.vetted.diff,hnamed,h.printed⟩
      · split
        · split
          · exact tells_tame uses_pure
          · exact tells_tame uses_throw
        · exact tells_tame ((uses_print tame_print _).bind fun _ => uses_pure)

def BurnsOnly (name : String) : AdmissionOp → Prop
  | .consumeProposal _ toolName _ _ => toolName = name
  | _ => True

theorem ratifyCandidate_burnsOnly (serverId : String) (acknowledged : List String) (c : RatifyCandidate) :
    Uses (BurnsOnly c.toolName) (ratifyCandidate backend signer serverId caller now acknowledged c) := by
  rw [ratifyCandidate]
  split
  · exact uses_pure
  refine (uses_call.mpr trivial).bind fun existing => ?_
  have hburn : BurnsOnly c.toolName (.consumeProposal serverId c.toolName c.proposal.proposalId .ratified) := rfl
  refine (uses_attempted hburn).bind fun consumed => ?_
  split
  · exact uses_pure
  · exact uses_throw
  refine (uses_utcNow trivial now).bind fun t => ?_
  have hwrite : Uses (BurnsOnly c.toolName) (writeAdmission backend (admissionRecord c.proposal caller (isoformat t))
      (activeRowFromProposal c.proposal caller (isoformat t)) (signAdmissionRecord signer (admissionRecord c.proposal caller (isoformat t)))
      existing) := by
    rw [writeAdmission]
    split
    · exact (uses_call.mpr trivial).bind fun _ => uses_finish.bind fun _ => uses_call.mpr trivial
    · exact uses_call.mpr trivial
  refine (uses_attempt hwrite fun _ => uses_ret).bind fun written => ?_
  split
  · split
    · exact uses_pure
    · exact uses_throw
  · exact (uses_print (fun _ => trivial) _).bind fun _ => uses_pure

theorem ratifyAll_owed {candidates rest : List RatifyCandidate} {past : List Seen} (hmanifest : args.manifest = .ok (servers,skew))
    (hnames : (rest.map RatifyCandidate.toolName).Nodup)
    (h : ∀ c ∈ rest, Ready printable args caller now effectiveNow skew candidates past c) (ratified wedged : List String) :
    Tells (fun _ _ => True) (fun own => owed printable sha256 (.bulkRatify args (some signer) caller now) (past ++ own))
      (fun _ _ => True) (ratifyAll backend signer args.serverId caller now args.acknowledgeDescriptionChange rest ratified wedged) := by
  induction rest generalizing past ratified wedged with
  | nil => trivial
  | cons c rest ih =>
    obtain ⟨hc,hrest⟩ := List.nodup_cons.mp hnames
    have howed : Tells (fun _ _ => True) (fun own => owed printable sha256 (.bulkRatify args (some signer) caller now) (past ++ own))
        (fun _ _ => True) (ratifyCandidate backend signer args.serverId caller now args.acknowledgeDescriptionChange c) :=
      ratifyCandidate_owed hmanifest (h c List.mem_cons_self)
    have hnow := howed.only (ratifyCandidate_burnsOnly args.serverId args.acknowledgeDescriptionChange c)
      fun _ _ howed _ => howed
    refine hnow.bind (fun own outcome hown => ?_) fun _ _ _ => trivial
    have hready : ∀ d ∈ rest, Ready printable args caller now effectiveNow skew candidates (past ++ own) d := by
      intro d hd
      have hready := h d (List.mem_cons_of_mem _ hd)
      have hsub : past ⊆ past ++ own := List.subset_append_left _ _
      refine ⟨hready.vetted.mono hsub,hready.clocked.mono hsub,hready.member,hready.names,?_,fun line hl => hsub (hready.printed line hl)⟩
      intro proposalId status r hmem
      rcases List.mem_append.mp hmem with hmem | hmem
      · exact hready.unburnt proposalId status r hmem
      · have hsame : d.toolName = c.toolName := hown.2 _ hmem
        exact hc (hsame ▸ List.mem_map_of_mem hd)
    simp only [← List.append_assoc]
    cases outcome with
    | none => exact ih hrest hready _ _
    | some line => exact ih hrest hready _ _

theorem printAll_printed (lines : List String) : Tells (fun _ _ => True) (fun _ _ => True)
    (fun own r => r = .ok () → ∀ line ∈ lines, (⟨.print line,.ok ()⟩ : Seen) ∈ own) (printAll lines) := by
  induction lines with
  | nil => exact fun _ line hl => (nomatch hl)
  | cons line rest ih =>
    refine tells_call_bind.mpr ⟨trivial,fun _ _ => ?_,fun _ _ hr => by cases hr⟩
    refine ih.mono (fun _ _ h => h) fun own r hr hok other hother => ?_
    rcases List.mem_cons.mp hother with rfl | hother
    · exact List.mem_cons_self
    · exact List.mem_cons_of_mem _ (hr hok other hother)

theorem names_nodup (decl : DeclaredServer) : decl.names.Nodup := by
  rw [DeclaredServer.names,sortedNames]
  exact (List.mergeSort_perm _ _).nodup_iff.mpr (List.nodup_dedup _)

theorem bulkRatifyCommand_owed (signer : Option RecordSigner) : Tells (fun _ _ => True)
    (owed printable sha256 (.bulkRatify args signer caller now)) (fun _ _ => True)
    (bulkRatifyCommand backend printable args signer caller now) := by
  cases signer with
  | none => exact tells_tame (uses_refused tame_print _ _)
  | some signer =>
    unfold bulkRatifyCommand
    dsimp only
    cases hmanifest : args.manifest with
    | error text => exact tells_tame (uses_refused tame_print _ _)
    | ok loaded =>
      obtain ⟨servers,skew⟩ := loaded
      dsimp only
      split
      · exact tells_tame (uses_refused tame_print _ _)
      next decl _ =>
        have owed_within : ∀ (seen : List Seen) {o : AdmissionOp}, Inert o →
            owed printable sha256 (.bulkRatify args (some signer) caller now) seen o := fun _ _ hinert => owed_tame hinert.tame
        refine tells_utcNow_bind trivial (fun _ => trivial) fun effectiveNow clocks hclock hclocks => ?_
        have hgathered := (gather_vetted printable args.serverId caller effectiveNow skew decl.names [] []).only
          (gather_inert decl.names [] []) fun own _ _ hinert => owed_within (clocks ++ own) hinert
        refine hgathered.bind (fun own gathered hown => ?_) fun _ _ _ => trivial
        cases gathered with
        | none => exact tells_tame uses_pure
        | some found =>
          obtain ⟨candidates,wedged⟩ := found
          obtain ⟨more,rfl,hnames,hmore⟩ := hown.1 candidates wedged rfl
          have hprinted := (printAll_printed (gateLines printable (bucketsOf candidates))).only (uses_printAll inert_print _)
            fun own' _ _ hinert => owed_within (clocks ++ (own ++ own')) hinert
          refine hprinted.bind (fun shown u hshown => ?_) fun _ _ _ => trivial
          split
          · exact tells_tame (uses_refused tame_print _ _)
          have hready : ∀ c ∈ candidates, Ready printable args caller now effectiveNow skew candidates (clocks ++ (own ++ shown)) c := by
            intro c hc
            refine ⟨(hmore c hc).mono (by simp),hclock.mono (by simp),hc,hnames.nodup (names_nodup decl),?_,?_⟩
            · intro proposalId status r hmem
              rcases List.mem_append.mp hmem with hmem | hmem
              · exact absurd (hclocks _ hmem) (by simp [AdmissionOp.looks])
              rcases List.mem_append.mp hmem with hmem | hmem
              · exact hown.2 _ hmem
              · exact hshown.2 _ hmem
            · intro line hline
              have hmem := hshown.1 rfl line hline
              simp [hmem]
          have hwritten : Tells (fun _ _ => True)
              (fun own' => owed printable sha256 (.bulkRatify args (some signer) caller now) (clocks ++ (own ++ shown) ++ own'))
              (fun _ _ => True)
              (ratifyAll backend signer args.serverId caller now args.acknowledgeDescriptionChange candidates [] wedged) :=
            ratifyAll_owed hmanifest (hnames.nodup (names_nodup decl)) hready [] wedged
          simp only [List.append_assoc] at hwritten
          refine hwritten.bind (fun _ outcome _ => tells_tame ?_) fun _ _ _ => trivial
          obtain ⟨ratified,wedged⟩ := outcome
          refine (uses_print tame_print _).bind fun _ => (uses_print tame_print _).bind fun _ => ?_
          refine (uses_printAll tame_print _).bind fun _ => (uses_printAll tame_print _).bind fun _ => ?_
          exact (uses_print tame_print _).bind fun _ => uses_pure

end Batch

theorem command_owed (backend : RecordBackend) (ageMinutes : ℚ → String) (cmd : Command) :
    Tells (fun _ _ => True) (owed printable sha256 cmd) (fun _ _ => True) (cmd.prog backend printable sha256 ageMinutes) := by
  cases cmd with
  | admitPropose args caller now => exact tells_tame (admitProposeCommand_tame args caller now)
  | bulkPropose args caller now => exact tells_tame (bulkProposeCommand_tame ageMinutes args caller now)
  | admitRatify signer serverId toolName proposalId caller now skew =>
    exact admitRatifyCommand_owed signer serverId toolName proposalId caller now skew
  | bulkRatify args signer caller now => exact bulkRatifyCommand_owed signer
  | admitReject serverId toolName proposalId caller => exact tells_tame (admitRejectCommand_tame serverId toolName proposalId caller)

end Duty

end SafeAgents.Mcp
