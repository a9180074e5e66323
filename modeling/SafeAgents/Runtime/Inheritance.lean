import SafeAgents.Runtime.Duties
import SafeAgents.Runtime.Raising
import Mathlib.Data.List.Basic

namespace SafeAgents

open Interleaving

namespace Runtime

section Taint
variable {principal : Principal} {turn : TurnContext} {s : String}

def received (principal : Principal) (turn : TurnContext) : Option (List InheritanceRecord) → TurnContext
  | none => turn.ingestSource inheritanceUnreadableSource false
  | some records => records.foldl (inheritRecord principal) turn

def ingestAll (turn : TurnContext) (sources : List String) : TurnContext :=
  sources.foldl (fun turn source => turn.ingestSource source false) turn

theorem mem_ingestSource {source : String} :
    s ∈ (turn.ingestSource source false).sources ↔ s ∈ turn.sources ∨ s = source := by
  simp only [TurnContext.ingestSource,Bool.false_eq_true,if_false,TurnContext.markTainted]
  split
  · next hmem =>
    refine ⟨.inl,fun h => h.elim id fun heq => ?_⟩
    subst heq
    simpa using hmem
  · simp

theorem mem_ingestAll {sources : List String} :
    s ∈ (ingestAll turn sources).sources ↔ s ∈ turn.sources ∨ s ∈ sources := by
  induction sources generalizing turn with
  | nil => simp [ingestAll]
  | cons source sources ih =>
    have hstep : ingestAll turn (source :: sources) = ingestAll (turn.ingestSource source false) sources := rfl
    rw [hstep,ih,mem_ingestSource,List.mem_cons,or_assoc]

theorem tainted_ingestAll {sources : List String} (h : turn.tainted = true ∨ sources ≠ []) :
    (ingestAll turn sources).tainted = true := by
  induction sources generalizing turn with
  | nil => simpa [ingestAll] using h
  | cons source sources ih => exact ih (.inl rfl)

theorem mem_inheritRecord {record : InheritanceRecord} :
    s ∈ (inheritRecord principal turn record).sources ↔
      s ∈ turn.sources ∨ record.target = principal ∧ (s ∈ record.taint.sources ∨
        s = inheritedWithoutSource ∧ record.taint.tainted = true ∧ record.taint.sources = []) := by
  unfold inheritRecord
  by_cases htarget : record.target = principal
  · have hall : record.taint.sources.foldl (fun turn source => turn.ingestSource source false) turn =
        ingestAll turn record.taint.sources := rfl
    rw [if_neg (not_not_intro htarget),hall]
    simp only [Bool.and_eq_true,List.isEmpty_iff,htarget,true_and]
    split
    · next hunsourced => rw [mem_ingestSource,mem_ingestAll,or_assoc,and_iff_left hunsourced]
    · next hsourced => rw [mem_ingestAll,iff_false_intro hsourced,and_false,or_false]
  · rw [if_pos htarget]
    simp [htarget]

theorem tainted_inheritRecord {record : InheritanceRecord}
    (h : turn.tainted = true ∨ record.target = principal ∧ record.taint.tainted = true) :
    (inheritRecord principal turn record).tainted = true := by
  unfold inheritRecord
  split
  · next hother => exact h.resolve_right fun hmine => hother hmine.1
  · split
    · rfl
    · next hsourced =>
      apply tainted_ingestAll
      refine h.imp_right fun hmine hempty => hsourced ?_
      simp [hmine.2,hempty]

theorem mem_inheritAll {records : List InheritanceRecord} :
    s ∈ (records.foldl (inheritRecord principal) turn).sources ↔
      s ∈ turn.sources ∨ ∃ record ∈ records, record.target = principal ∧ (s ∈ record.taint.sources ∨
        s = inheritedWithoutSource ∧ record.taint.tainted = true ∧ record.taint.sources = []) := by
  induction records generalizing turn with
  | nil => simp
  | cons record records ih => rw [List.foldl_cons,ih,mem_inheritRecord,List.exists_mem_cons_iff,or_assoc]

theorem tainted_inheritAll {records : List InheritanceRecord}
    (h : turn.tainted = true ∨ ∃ record ∈ records, record.target = principal ∧ record.taint.tainted = true) :
    (records.foldl (inheritRecord principal) turn).tainted = true := by
  induction records generalizing turn with
  | nil => simpa using h
  | cons record records ih =>
    rw [List.exists_mem_cons_iff,← or_assoc] at h
    exact ih (h.imp_left tainted_inheritRecord)

end Taint

structure Causes (R : BrokerRuntime) (entry : ToolOp) (decl : CausesContext) (call : BrokeredCall) (record : InheritanceRecord) :
    Prop where
  target : record.target = inheritanceTarget decl call.principal
  sources : ∀ s ∈ call.taint.sources, s ∈ record.taint.sources
  tainted : call.taint.tainted = true → record.taint.tainted = true
  ownSource : entry.externalRead = true → connectorSourceId entry.tool entry.op ∉ R.trustedReadSources →
    connectorSourceId entry.tool entry.op ∈ record.taint.sources
  lasts : record.issuedAt + decl.horizonSeconds * microsPerSecond ≤ record.notAfter
  live : record.issuedAt < record.notAfter

section Recording
variable {entry : ToolOp} {taint : TaintFlag} {trusted : List String} {s : String}

theorem mem_recordTaint :
    s ∈ (recordTaint entry taint trusted).sources ↔ s ∈ taint.sources ∨
      entry.externalRead = true ∧ connectorSourceId entry.tool entry.op ∉ trusted ∧ s = connectorSourceId entry.tool entry.op := by
  simp only [recordTaint,Bool.or_eq_true,Bool.not_eq_true',List.contains_iff_mem]
  split
  · next hskips =>
    rcases hskips with hinternal | htrusted
    · simp [hinternal]
    · simp [htrusted]
  · next hadds =>
    rw [not_or,Bool.not_eq_false] at hadds
    split
    · next hmem =>
      simp only [hadds.1,hadds.2,not_false_eq_true,true_and]
      refine ⟨.inl,fun h => h.elim id fun heq => ?_⟩
      rwa [heq]
    · simp [hadds.1,hadds.2]

theorem tainted_recordTaint (h : taint.tainted = true) : (recordTaint entry taint trusted).tainted = true := by
  simp only [recordTaint]
  split
  · exact h
  · rfl

theorem le_resolveNotAfter {decl : CausesContext} {issuedAt notAfter : Int} {subGrant : Option SubGrant}
    (h : resolveNotAfter decl issuedAt subGrant = .ok notAfter) :
    issuedAt + decl.horizonSeconds * microsPerSecond ≤ notAfter := by
  unfold resolveNotAfter at h
  simp only [] at h
  split at h
  · split at h
    · cases h
    · cases h
      exact Int.le_max_left _ _
  · cases h
    exact Int.le_refl _

end Recording

def Recorded (R : BrokerRuntime) (call : BrokeredCall) (effective : Decision) (own : Seen) : Prop :=
  ∀ entry decl, R.optable.entry call.tool (BrokerRuntime.effectiveOp call effective) = some entry →
    entry.causesContext = some decl →
    ∃ record, (⟨.env (.putInheritance record),.ok ()⟩ : Saw Op Op.Ret Exn) ∈ own ∧ Causes R entry decl call record

def Minted (R : BrokerRuntime) (turn : TurnContext) (own : Seen) : Prop :=
  ∃ before later id now reply,
    own = before ++ (⟨.env (.liveRecords R.principal (now - R.clockSkew)),reply⟩ : Saw Op Op.Ret Exn) :: later ∧
      (⟨.env .now,.ok now⟩ : Saw Op Op.Ret Exn) ∈ before ∧
      turn = received R.principal { turnId := "turn:" ++ id } reply.toOption

theorem Recorded.before {R : BrokerRuntime} {call : BrokeredCall} {effective : Decision} {own : Seen}
    (h : Recorded R call effective own) (earlier : Seen) : Recorded R call effective (earlier ++ own) := by
  intro entry decl hentry hdecl
  obtain ⟨record,hmem,hcauses⟩ := h entry decl hentry hdecl
  exact ⟨record,List.mem_append_right _ hmem,hcauses⟩

theorem Minted.before {R : BrokerRuntime} {turn : TurnContext} {own : Seen} (h : Minted R turn own) (earlier : Seen) :
    Minted R turn (earlier ++ own) := by
  obtain ⟨before,later,id,now,reply,rfl,hclock,hturn⟩ := h
  exact ⟨earlier ++ before,later,id,now,reply,by simp,List.mem_append_right _ hclock,hturn⟩

def mindful (R : BrokerRuntime) : Duty Op Op.Ret Exn where
  owes own
    | .env (.doer _ call effective) => Recorded R call effective own
    | .process (.installTurn _ turn) => R.inherits = true → Minted R turn own
    | _ => True
  stays earlier own o h := by
    cases o with
    | env o =>
      cases o with
      | doer path call effective => exact h.before earlier
      | _ => trivial
    | process o =>
      cases o with
      | installTurn runtime turn => exact fun hinherits => (h hinherits).before earlier
      | _ => trivial
    | _ => trivial

theorem mindful_idle {R : BrokerRuntime} {o : Op} (ho : Idle o) : (mindful R).owes [] o := by
  cases o with
  | env o =>
    cases o with
    | doer path call effective => exact ho.elim
    | _ => trivial
  | process o =>
    cases o with
    | installTurn runtime turn => exact ho.elim
    | _ => trivial
  | _ => trivial

theorem tells_caught_env {M : Seen → Op → Prop} {o : EnvOp} (hM : ∀ own, M own (.env o)) :
    Tells (fun _ _ => True) M (fun own r => ∀ found, r = .ok found →
      ∃ reply, own = [(⟨.env o,reply⟩ : Saw Op Op.Ret Exn)] ∧ found = reply.toOption) (caught (env o)) := by
  have hread : Tells (fun _ _ => True) M (fun own r => ∃ reply, own = [(⟨.env o,reply⟩ : Saw Op Op.Ret Exn)] ∧
      r = reply.map some) (do
        let a ← env o
        return some a) := by
    refine Tells.bind (V := fun own r => own = [(⟨.env o,r⟩ : Saw Op Op.Ret Exn)]) ?_ (fun own a h => ?_) fun own e h => ?_
    · exact (tells_call (o := Op.env o)).mpr ⟨hM [],fun r _ => rfl⟩
    · exact ⟨.ok a,by simpa using h,rfl⟩
    · exact ⟨.error e,h,rfl⟩
  refine hread.tryCatch (fun own a h => ?_) fun own e h => ?_
  · obtain ⟨reply,rfl,hreply⟩ := h
    rintro _ ⟨⟩
    refine ⟨reply,rfl,?_⟩
    cases reply with
    | ok b => cases hreply; rfl
    | error e => cases hreply
  · obtain ⟨reply,rfl,hreply⟩ := h
    split
    · rintro _ ⟨⟩
      refine ⟨reply,rfl,?_⟩
      cases reply with
      | ok b => cases hreply
      | error e => rfl
    · exact error_ne_ok e

namespace BrokerRuntime
variable (R : BrokerRuntime)

theorem tells_ingestInherited (id : String) :
    Tells (fun _ _ => True) (mindful R).owes (fun own r => ∀ turn, r = .ok turn → Minted R turn own)
      (R.ingestInherited { turnId := "turn:" ++ id }) := by
  unfold ingestInherited
  refine Tells.bind (V := fun own r => ∀ now, r = .ok now → (⟨.env .now,.ok now⟩ : Saw Op Op.Ret Exn) ∈ own) ?_
    (fun own now hclock => ?_) fun own e _ => error_ne_ok e
  · exact (tells_call (o := Op.env .now)).mpr ⟨trivial,fun r _ now hr => by simp [hr]⟩
  · refine Tells.bind (tells_caught_env (o := .liveRecords R.principal (now - R.clockSkew)) fun _ => trivial) (fun own' found hread => ?_) fun own' e _ => error_ne_ok e
    obtain ⟨reply,rfl,rfl⟩ := hread found rfl
    have hminted : Minted R (received R.principal { turnId := "turn:" ++ id } reply.toOption)
        (own ++ [⟨.env (.liveRecords R.principal (now - R.clockSkew)),reply⟩]) :=
      ⟨own,[],id,now,reply,rfl,hclock now rfl,rfl⟩
    cases reply with
    | ok records =>
      rintro _ ⟨⟩
      rw [List.append_nil]
      exact hminted
    | error e =>
      rintro _ ⟨⟩
      rw [List.append_nil]
      exact hminted

theorem tells_mintTurn :
    Tells (fun _ _ => True) (mindful R).owes
      (fun own r => ∀ turn, r = .ok turn → R.inherits = true → Minted R turn own) R.mintTurn := by
  unfold mintTurn
  refine Tells.bind (V := fun _ _ => True) ?_ (fun own id _ => ?_) fun own e _ => error_ne_ok e
  · exact minds_call trivial
  · split
    · refine (R.tells_ingestInherited id).mono (fun own' o => (mindful R).stays own own' o) fun own' r h turn hr _ => ?_
      exact (h turn hr).before own
    · next hplain => exact fun _ _ hinherits => absurd hinherits hplain

theorem minds_sessionTurn : Minds (mindful R) R.sessionTurn := by
  unfold sessionTurn
  refine .bind (minds_call trivial) fun current => ?_
  cases current with
  | some ref => exact minds_pure
  | none =>
    refine Tells.bind R.tells_mintTurn (fun own turn h => ?_) fun _ _ _ => trivial
    refine Tells.bind (V := fun _ _ => True) ?_ (fun _ _ _ => trivial) fun _ _ _ => trivial
    refine (tells_call (o := Op.process (.installTurn R.instanceId turn))).mpr ⟨?_,fun _ _ => trivial⟩
    rw [List.append_nil]
    exact h turn rfl

theorem tells_writeInheritanceRecord {entry : ToolOp} {decl : CausesContext} (call : BrokeredCall) (now : Instant) :
    Tells (fun _ _ => True) (mindful R).owes (fun own r => r = .ok () →
      ∃ record, (⟨.env (.putInheritance record),.ok ()⟩ : Saw Op Op.Ret Exn) ∈ own ∧ Causes R entry decl call record)
      (R.writeInheritanceRecord entry decl call now) := by
  unfold writeInheritanceRecord
  split
  · refine Tells.bind (V := fun _ _ => True) (Uses.minds (P := Idle) ?_ fun _ => mindful_idle) (fun own subGrant _ => ?_) fun _ _ _ h => by cases h
    · unfold targetSubGrant
      split
      · split
        · exact uses_env.mpr trivial
        · trivial
      · trivial
    · refine Tells.bind (V := fun _ r => r = resolveNotAfter decl now subGrant) (by simp)
        (fun own' notAfter hlasts => ?_) fun _ _ _ h => by cases h
      refine Tells.bind (V := fun _ _ => True) ?_ (fun own'' id _ => ?_) fun _ _ _ h => by cases h
      · exact (tells_call (o := Op.env .uuid)).mpr ⟨trivial,fun _ _ => trivial⟩
      · split
        · exact fun h => by cases h
        · next hlive =>
          refine (tells_call (o := Op.env (.putInheritance _))).mpr ⟨trivial,fun r _ hr => ?_⟩
          subst hr
          refine ⟨_,by simp only [List.mem_append,List.mem_singleton]; exact .inr (.inr (.inr rfl)),rfl,?_,?_,?_,?_,?_⟩
          · exact fun s hs => mem_recordTaint.mpr (.inl hs)
          · exact tainted_recordTaint
          · exact fun hexternal htrusted => mem_recordTaint.mpr (.inr ⟨hexternal,htrusted,rfl⟩)
          · exact le_resolveNotAfter hlasts.symm
          · exact Int.not_le.mp hlive
  · exact fun h => by cases h

theorem tells_writeInheritanceIfDeclared (call : BrokeredCall) (effective : Decision) :
    Tells (fun _ _ => True) (mindful R).owes (fun own r => r = .ok () → Recorded R call effective own)
      (R.writeInheritanceIfDeclared call effective) := by
  unfold writeInheritanceIfDeclared
  split
  · next hentry =>
    intro _ entry decl hentry'
    rw [hentry] at hentry'
    cases hentry'
  · next entry hentry =>
    split
    · next hnone =>
      intro _ entry' decl hentry' hdecl
      rw [hentry] at hentry'
      cases hentry'
      rw [hnone] at hdecl
      cases hdecl
    · next decl hdecl =>
      refine Tells.bind (V := fun _ _ => True) (minds_call trivial) (fun own now _ => ?_) fun _ _ _ h => by cases h
      have hwrites := (R.tells_writeInheritanceRecord call now : Tells _ _ (fun own r => r = .ok () → ∃ record,
        (⟨.env (.putInheritance record),.ok ()⟩ : Saw Op Op.Ret Exn) ∈ own ∧ Causes R entry decl call record) _)
      refine Tells.tryCatch (hwrites.mono (fun own' o => (mindful R).stays own own' o) fun _ _ h => h)
        (fun own' _ h hr => ?_) fun own' e _ => ?_
      · obtain ⟨record,hmem,hcauses⟩ := h hr
        intro entry' decl' hentry' hdecl'
        rw [hentry] at hentry'
        cases hentry'
        rw [hdecl] at hdecl'
        cases hdecl'
        exact ⟨record,List.mem_append_right _ hmem,hcauses⟩
      · split
        · exact fun h => by cases h
        · exact fun h => by cases h

theorem minds_runDoer (path : ExecutionPath) (call : BrokeredCall) (effective : Decision) :
    Minds (mindful R) (R.runDoer path call effective) := by
  refine Tells.bind (R.tells_writeInheritanceIfDeclared call effective) (fun own _ h => ?_) fun _ _ _ => trivial
  refine (tells_call (o := Op.env (.doer path call effective))).mpr ⟨?_,fun _ _ => trivial⟩
  rw [List.append_nil]
  exact h rfl

theorem heeds_mindful : Heeds (mindful R) R := ⟨fun _ => mindful_idle,R.minds_runDoer,R.minds_sessionTurn⟩

end BrokerRuntime

end Runtime

end SafeAgents
