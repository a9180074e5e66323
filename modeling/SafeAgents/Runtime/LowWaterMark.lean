import SafeAgents.Runtime.Inheritance
import SafeAgents.Taint.Inheritance

namespace SafeAgents

open Interleaving

namespace Runtime

open Inheritance

structure Site where
  base : State
  ledger : Ledger

namespace Site

def perform (B : Substrate) : (o : Op) → Delivery × Substrate.Input o → Site → Except Exn o.Ret × Site
  | .env (.putInheritance record), (d,_), s =>
    let out := d.receive (s.ledger.putRecord record) s.ledger
    (out.1,{ s with ledger := out.2 })
  | .env (.liveRecords target at_), (d,_), s => ((d.receive (s.ledger.liveRecords target at_,s.ledger) s.ledger).1,s)
  | o, (_,x), s =>
    let out := B.perform o x s.base
    (out.1,{ s with base := out.2 })

def device (B : Substrate) : Device Op Op.Ret Exn Site := ⟨fun o => Delivery × Substrate.Input o,perform B⟩

end Site

section Steps
variable {ι : Type} [DecidableEq ι] {B : Substrate} {a b : Config ι Op Op.Ret Exn Site Unit} {i : ι}

theorem perform_frame {o : Op} (ho : ∀ record, o ≠ .env (.putInheritance record)) (x : Delivery × Substrate.Input o) (s : Site) :
    (Site.perform B o x s).2.ledger = s.ledger := by
  cases o with
  | env o =>
    cases o with
    | putInheritance record => exact absurd rfl (ho record)
    | _ => rfl
  | _ => rfl

theorem perform_put (record : InheritanceRecord) (x : Delivery × Substrate.Input (.env (.putInheritance record))) (s : Site) :
    (Site.perform B (.env (.putInheritance record)) x s).2.ledger = s.ledger ∨
      (Site.perform B (.env (.putInheritance record)) x s).2.ledger = (s.ledger.putRecord record).2 := by
  obtain ⟨d,-⟩ := x
  cases d with
  | answered => exact .inr rfl
  | fault e => exact .inl rfl
  | lost e => exact .inr rfl

theorem step_ledger {e : Event ι Op Op.Ret Exn} (hs : Step (Site.device B) a e b) :
    b.state.ledger = a.state.ledger ∨
      ∃ record, e.op = .env (.putInheritance record) ∧ b.state.ledger = (a.state.ledger.putRecord record).2 := by
  obtain ⟨i,o,r⟩ := e
  obtain ⟨x,-,hstate⟩ := hs.effect
  rw [hstate]
  by_cases ho : ∃ record, o = .env (.putInheritance record)
  · obtain ⟨record,rfl⟩ := ho
    exact (perform_put (B := B) record x a.state).imp_right fun hput => ⟨record,rfl,hput⟩
  · exact .inl (perform_frame (fun record h => ho ⟨record,h⟩) x a.state)

theorem step_put {record : InheritanceRecord} (hs : Step (Site.device B) a ⟨i,.env (.putInheritance record),.ok ()⟩ b) :
    record ∈ b.state.ledger.partition record.target := by
  obtain ⟨⟨d,x⟩,hreply,hstate⟩ := hs.effect
  rw [hstate]
  cases d with
  | answered => exact Ledger.putRecord_stores hreply.symm
  | fault e => cases hreply
  | lost e => cases hreply

theorem step_read {target : Principal} {at_ : Instant} {records : List InheritanceRecord}
    (hs : Step (Site.device B) a ⟨i,.env (.liveRecords target at_),.ok records⟩ b) :
    a.state.ledger.liveRecords target at_ = .ok records := by
  obtain ⟨⟨d,x⟩,hreply,-⟩ := hs.effect
  cases d with
  | answered => exact hreply.symm
  | fault e => cases hreply
  | lost e => cases hreply

theorem step_keeps {record : InheritanceRecord} {target : Principal} {e : Event ι Op Op.Ret Exn}
    (hs : Step (Site.device B) a e b) (h : record ∈ a.state.ledger.partition target) :
    record ∈ b.state.ledger.partition target := by
  rcases step_ledger hs with hsame | ⟨other,-,hput⟩
  · rwa [hsame]
  · rw [hput]
    exact Ledger.partition_mono h

end Steps

section Runs
variable {ι : Type} [DecidableEq ι] {B : Substrate} {c c' : Config ι Op Op.Ret Exn Site Unit}
  {G : Guard ι Op Op.Ret Exn Site Unit} {tr : List (Event ι Op Op.Ret Exn)}

theorem run_stores (h : Run (Site.device B) G c tr c') {i : ι} {record : InheritanceRecord}
    (hput : ⟨i,.env (.putInheritance record),.ok ()⟩ ∈ tr) : record ∈ c'.state.ledger.partition record.target := by
  induction h with
  | refl => cases hput
  | step hrun hs hg ih =>
    rcases List.mem_append.mp hput with hearlier | hnow
    · exact step_keeps hs (ih hearlier)
    · rw [List.mem_singleton] at hnow
      rw [← hnow] at hs
      exact step_put hs

theorem run_stored (h : Run (Site.device B) G c tr c') {record : InheritanceRecord} {target : Principal}
    (hmem : record ∈ c'.state.ledger.partition target) :
    record ∈ c.state.ledger.partition target ∨ ∃ i r, ⟨i,.env (.putInheritance record),r⟩ ∈ tr := by
  induction h with
  | refl => exact .inl hmem
  | @step c' c'' tr e hrun hs hg ih =>
    have hold (h : record ∈ c'.state.ledger.partition target) :
        record ∈ c.state.ledger.partition target ∨ ∃ i r, ⟨i,.env (.putInheritance record),r⟩ ∈ tr ++ [e] := by
      refine (ih h).imp_right ?_
      rintro ⟨i,r,hput⟩
      exact ⟨i,r,List.mem_append_left _ hput⟩
    rcases step_ledger hs with hsame | ⟨other,hop,hput⟩
    · rw [hsame] at hmem
      exact hold hmem
    · rw [hput] at hmem
      rcases Ledger.mem_partition hmem with hbefore | rfl
      · exact hold hbefore
      · obtain ⟨i,o,r⟩ := e
        cases hop
        exact .inr ⟨i,r,by simp⟩

end Runs

def Session {ι : Type} (runtime : String) (tr : List (Event ι Op Op.Ret Exn)) (s : ProcessState) : Prop :=
  ∀ ref, s.currentTurn runtime = some ref → ∃ j turn r context,
    (⟨j,.process (.installTurn runtime turn),r⟩ : Event ι Op Op.Ret Exn) ∈ tr ∧ ref = ⟨runtime,turn.turnId⟩ ∧
      s.contexts ref = some context ∧ ∀ source ∈ turn.sources, source ∈ context.sources

section Sessions
variable {ι : Type} {runtime : String} {tr : List (Event ι Op Op.Ret Exn)} {s s' : ProcessState}

theorem Session.later (h : Session runtime tr s) (e : Event ι Op Op.Ret Exn) (hcurrent : s'.currentTurn runtime = s.currentTurn runtime)
    (hcontexts : ∀ ref, ref.runtime = runtime → ∀ context, s.contexts ref = some context →
      ∃ context', s'.contexts ref = some context' ∧ ∀ source ∈ context.sources, source ∈ context'.sources) :
    Session runtime (tr ++ [e]) s' := by
  intro ref href
  rw [hcurrent] at href
  obtain ⟨j,turn,r,context,hmem,rfl,hcontext,hsources⟩ := h ref href
  obtain ⟨context',hcontext',hmono⟩ := hcontexts _ rfl context hcontext
  exact ⟨j,turn,r,context',List.mem_append_left _ hmem,rfl,hcontext',fun source h => hmono source (hsources source h)⟩

theorem Session.apply (h : Session runtime tr s) (i : ι) (clock : Instant) (o : ProcessOp) (r : Except Exn (Op.process o).Ret) :
    Session runtime (tr ++ [⟨i,.process o,r⟩]) (o.apply clock s).2 := by
  have same {s' : ProcessState} (hcurrent : s'.currentTurn runtime = s.currentTurn runtime) (hcontexts : s'.contexts = s.contexts) :
      Session runtime (tr ++ [⟨i,.process o,r⟩]) s' :=
    h.later _ hcurrent fun ref _ context hcontext => ⟨context,by rw [hcontexts,hcontext],fun _ h => h⟩
  cases o with
  | currentTurn other => exact same rfl rfl
  | context ref => exact same rfl rfl
  | stampCallTs other =>
    simp only [ProcessOp.apply]
    split
    · exact same rfl rfl
    · exact same rfl rfl
  | firstQuarantine other intentId =>
    simp only [ProcessOp.apply]
    split
    · exact same rfl rfl
    · exact same rfl rfl
  | newTurn other =>
    by_cases hother : runtime = other
    · subst hother
      intro ref href
      simp [ProcessOp.apply] at href
    · exact same (by simp [ProcessOp.apply,Function.update_of_ne hother]) rfl
  | ingest at_ source trusted =>
    refine h.later _ rfl fun ref _ context hcontext => ?_
    by_cases hat : ref = at_
    · subst hat
      exact ⟨context.ingestSource source trusted,by simp [ProcessOp.apply,hcontext],
        fun _ => context.sources_ingestSource_mono source trusted⟩
    · exact ⟨context,by simp [ProcessOp.apply,Function.update_of_ne hat,hcontext],fun _ h => h⟩
  | installTurn other turn =>
    by_cases hother : runtime = other
    · subst hother
      intro ref href
      have hat : ref = ⟨runtime,turn.turnId⟩ := by simpa [ProcessOp.apply,eq_comm] using href
      subst hat
      exact ⟨i,turn,r,turn,by simp,rfl,by simp [ProcessOp.apply],fun _ h => h⟩
    · refine h.later _ (by simp [ProcessOp.apply,Function.update_of_ne hother]) fun ref href context hcontext => ?_
      have hne : ref ≠ ⟨other,turn.turnId⟩ := by
        rintro rfl
        exact hother href.symm
      exact ⟨context,by simp [ProcessOp.apply,Function.update_of_ne hne,hcontext],fun _ h => h⟩

variable [DecidableEq ι] {B : Substrate} {G : Guard ι Op Op.Ret Exn Site Unit} {c c' : Config ι Op Op.Ret Exn Site Unit}

theorem Session.step {a b : Config ι Op Op.Ret Exn Site Unit} {e : Event ι Op Op.Ret Exn}
    (h : Session runtime tr a.state.base.process) (hs : Step (Site.device B) a e b) :
    Session runtime (tr ++ [e]) b.state.base.process := by
  obtain ⟨i,o,r⟩ := e
  obtain ⟨x,-,hstate⟩ := hs.effect
  have same (hprocess : b.state.base.process = a.state.base.process) :
      Session runtime (tr ++ [⟨i,o,r⟩]) b.state.base.process := by
    rw [hprocess]
    exact h.later _ rfl fun ref _ context hcontext => ⟨context,hcontext,fun _ h => h⟩
  cases o with
  | process o =>
    rw [hstate]
    exact h.apply i x.2 o r
  | env o =>
    apply same
    rw [hstate]
    cases o <;> rfl
  | store o => exact same (by rw [hstate]; rfl)
  | intents o => exact same (by rw [hstate]; rfl)
  | audit record => exact same (by rw [hstate]; rfl)

theorem Session.run {tr' : List (Event ι Op Op.Ret Exn)} (h : Session runtime tr c.state.base.process)
    (hrun : Run (Site.device B) G c tr' c') : Session runtime (tr ++ tr') c'.state.base.process := by
  induction hrun with
  | refl => simpa using h
  | step _ hs _ ih =>
    rw [← List.append_assoc]
    exact ih.step hs

end Sessions

section Claims
variable {ι : Type}

structure Inherits (crew : ι → BrokerRuntime) (R : BrokerRuntime) (now : Instant) (before : List (Event ι Op Op.Ret Exn))
    (turn : TurnContext) : Prop where
  records : ∀ i record, ⟨i,.env (.putInheritance record),.ok ()⟩ ∈ before → record.target = R.principal →
    now - R.clockSkew < record.notAfter →
    (∀ s ∈ record.taint.sources, s ∈ turn.sources) ∧ (record.taint.tainted = true → turn.tainted = true)
  causes : ∀ i path call effective r, ⟨i,.env (.doer path call effective),r⟩ ∈ before →
    ∀ entry decl, (crew i).optable.entry call.tool (BrokerRuntime.effectiveOp call effective) = some entry →
    entry.causesContext = some decl → inheritanceTarget decl call.principal = R.principal →
    ∃ record, ⟨i,.env (.putInheritance record),.ok ()⟩ ∈ before ∧ record.target = R.principal ∧
      record.issuedAt + decl.horizonSeconds * microsPerSecond ≤ record.notAfter ∧
      (now - R.clockSkew < record.notAfter → (∀ s ∈ call.taint.sources, s ∈ turn.sources) ∧
        (call.taint.tainted = true → turn.tainted = true) ∧
        (entry.externalRead = true → connectorSourceId entry.tool entry.op ∉ (crew i).trustedReadSources →
          connectorSourceId entry.tool entry.op ∈ turn.sources))
  own : ∀ s ∈ turn.sources, ∃ i record r, ⟨i,.env (.putInheritance record),r⟩ ∈ before ∧ record.target = R.principal ∧
    now - R.clockSkew < record.notAfter ∧
    (s ∈ record.taint.sources ∨ s = inheritedWithoutSource ∧ record.taint.tainted = true ∧ record.taint.sources = [])

structure LowWaterMark (crew : ι → BrokerRuntime) (tr : List (Event ι Op Op.Ret Exn)) (s : Site) : Prop where
  recorded : ∀ i path call effective r tr₁ tr₂, tr = tr₁ ++ ⟨i,.env (.doer path call effective),r⟩ :: tr₂ →
    ∀ entry decl, (crew i).optable.entry call.tool (BrokerRuntime.effectiveOp call effective) = some entry →
    entry.causesContext = some decl →
    ∃ record, ⟨i,.env (.putInheritance record),.ok ()⟩ ∈ tr₁ ∧ Causes (crew i) entry decl call record
  inherited : ∀ j runtime turn r tr₁ tr₂, tr = tr₁ ++ ⟨j,.process (.installTurn runtime turn),r⟩ :: tr₂ →
    (crew j).inherits = true →
    ∃ before later now reply,
      tr₁ = before ++ ⟨j,.env (.liveRecords (crew j).principal (now - (crew j).clockSkew)),reply⟩ :: later ∧
        ⟨j,.env .now,.ok now⟩ ∈ before ∧
        (Inherits crew (crew j) now before turn ∨
          (∃ e, reply = .error e) ∧ turn.tainted = true ∧ turn.sources = [inheritanceUnreadableSource])
  rolled : ∀ i runtime r tr₁ tr₂, tr = tr₁ ++ ⟨i,.process (.newTurn runtime),r⟩ :: tr₂ → Session runtime tr₂ s.base.process
  scanned : ∀ target now records, s.ledger.liveRecords target now = .ok records →
    (∀ record, record ∈ records ↔ record ∈ s.ledger.partition target ∧ now < record.notAfter) ∧
      (records.Pairwise fun a b => a.notAfter ≤ b.notAfter) ∧ ∀ record ∈ records, recordPk record.target = recordPk target
  keys : ∀ t u, Calendar.Representable t → Calendar.Representable u → (instantKey t < instantKey u ↔ t < u)
  kept : ∀ i record, ⟨i,.env (.putInheritance record),.ok ()⟩ ∈ tr → record ∈ s.ledger.partition record.target

end Claims

section Assembly
variable {ι : Type} [DecidableEq ι] {B : Substrate} {crew : ι → BrokerRuntime} {errands : ι → Errand} {base : State}
  {tr tr₁ tr₂ : List (Event ι Op Op.Ret Exn)} {c' : Config ι Op Op.Ret Exn Site Unit}

def opened (crew : ι → BrokerRuntime) (errands : ι → Errand) (base : State) : Config ι Op Op.Ret Exn Site Unit :=
  ⟨⟨base,.empty⟩,fun i => (errands i).program (crew i)⟩

omit [DecidableEq ι] in
theorem minds_opened (i : ι) : Minds (mindful (crew i)) ((opened crew errands base).threads i) :=
  (errands i).minds_program (crew i).heeds_mindful

theorem recorded_before_doer (h : Run (Site.device B) anyStep (opened crew errands base) tr c') {i : ι} {path : ExecutionPath}
    {call : BrokeredCall} {effective : Decision} {r : Except Exn DoerResult}
    (htr : tr = tr₁ ++ ⟨i,.env (.doer path call effective),r⟩ :: tr₂) {entry : ToolOp} {decl : CausesContext}
    (hentry : (crew i).optable.entry call.tool (BrokerRuntime.effectiveOp call effective) = some entry)
    (hdecl : entry.causesContext = some decl) :
    ∃ record, ⟨i,.env (.putInheritance record),.ok ()⟩ ∈ tr₁ ∧ Causes (crew i) entry decl call record := by
  obtain ⟨record,hput,hcauses⟩ := h.minded (minds_opened i) htr entry decl hentry hdecl
  exact ⟨record,mem_own.mp hput,hcauses⟩

theorem inherits_of_read {before : List (Event ι Op Op.Ret Exn)} {R : BrokerRuntime} {now : Int} {id : String}
    {records : List InheritanceRecord} {c : Config ι Op Op.Ret Exn Site Unit}
    (h : Run (Site.device B) anyStep (opened crew errands base) before c)
    (hread : c.state.ledger.liveRecords R.principal (now - R.clockSkew) = .ok records) :
    Inherits crew R now before (received R.principal { turnId := "turn:" ++ id } (some records)) := by
  have hrecords (i : ι) (record : InheritanceRecord) (hput : ⟨i,.env (.putInheritance record),.ok ()⟩ ∈ before)
      (htarget : record.target = R.principal) (hlive : now - R.clockSkew < record.notAfter) : record ∈ records := by
    have hstored := run_stores h hput
    rw [htarget] at hstored
    exact (Ledger.mem_liveRecords hread).mpr ⟨hstored,hlive⟩
  have hsources {record : InheritanceRecord} (hmem : record ∈ records) (htarget : record.target = R.principal) {s : String}
      (hs : s ∈ record.taint.sources) : s ∈ (received R.principal { turnId := "turn:" ++ id } (some records)).sources :=
    mem_inheritAll.mpr (.inr ⟨record,hmem,htarget,.inl hs⟩)
  refine ⟨fun i record hput htarget hlive => ?_,fun i path call effective r hdoer entry decl hentry hdecl htarget => ?_,fun s hs => ?_⟩
  · have hmem := hrecords i record hput htarget hlive
    exact ⟨fun s => hsources hmem htarget,fun htainted => tainted_inheritAll (.inr ⟨record,hmem,htarget,htainted⟩)⟩
  · obtain ⟨tr₁,tr₂,hsplit⟩ := List.append_of_mem hdoer
    obtain ⟨record,hput,hcauses⟩ := recorded_before_doer h hsplit hentry hdecl
    have hput' : ⟨i,.env (.putInheritance record),.ok ()⟩ ∈ before := by
      rw [hsplit]
      exact List.mem_append_left _ hput
    have hmine := hcauses.target.trans htarget
    refine ⟨record,hput',hmine,hcauses.lasts,fun hlive => ?_⟩
    have hmem := hrecords i record hput' hmine hlive
    refine ⟨fun s hs => hsources hmem hmine (hcauses.sources s hs),fun htainted => ?_,fun hexternal huntrusted => ?_⟩
    · exact tainted_inheritAll (.inr ⟨record,hmem,hmine,hcauses.tainted htainted⟩)
    · exact hsources hmem hmine (hcauses.ownSource hexternal huntrusted)
  · rcases mem_inheritAll.mp hs with hnone | ⟨record,hmem,htarget,hwhy⟩
    · cases hnone
    · obtain ⟨hstored,hlive⟩ := (Ledger.mem_liveRecords hread).mp hmem
      rcases run_stored h hstored with hempty | ⟨i,r,hput⟩
      · cases hempty
      · exact ⟨i,record,r,hput,htarget,hlive,hwhy⟩

theorem low_water_mark (h : Run (Site.device B) anyStep (opened crew errands base) tr c') : LowWaterMark crew tr c'.state where
  recorded _ _ _ _ _ _ _ htr _ _ hentry hdecl := recorded_before_doer h htr hentry hdecl
  inherited j runtime turn r tr₁ tr₂ htr hinherits := by
    obtain ⟨before,later,id,now,reply,hown,hclock,rfl⟩ := h.minded (minds_opened j) htr hinherits
    obtain ⟨earlier,later',rfl,rfl⟩ := own_split hown
    refine ⟨earlier,later',now,reply,rfl,mem_own.mp hclock,?_⟩
    cases reply with
    | error e => exact .inr ⟨⟨e,rfl⟩,rfl,rfl⟩
    | ok records =>
      rw [List.append_assoc,List.cons_append] at htr
      obtain ⟨c₁,c₂,h₁,hs,-,-⟩ := h.split htr
      exact .inl (inherits_of_read h₁ (step_read hs))
  rolled i runtime r tr₁ tr₂ htr := by
    obtain ⟨c₁,c₂,-,hs,-,hrest⟩ := h.split htr
    obtain ⟨x,-,hstate⟩ := hs.effect
    have hcleared : Session runtime ([] : List (Event ι Op Op.Ret Exn)) c₂.state.base.process := by
      have hnone : c₂.state.base.process.currentTurn runtime = none := by
        rw [hstate]
        exact Function.update_self ..
      intro ref href
      rw [hnone] at href
      cases href
    simpa using hcleared.run hrest
  scanned target now records hread := by
    refine ⟨fun record => Ledger.mem_liveRecords hread,Ledger.liveRecords_ordered hread,fun record hmem => ?_⟩
    exact c'.state.ledger.keyed _ record ((Ledger.mem_liveRecords hread).mp hmem).1
  keys _ _ := instantKey_lt_iff
  kept _ _ hput := run_stores h hput

end Assembly

def planner : Principal := ⟨"planner","plan","sam",.B⟩

def worker : Principal := ⟨"worker","work","sam",.B⟩

def fetchOp : ToolOp where
  tool := "mail"
  op := "fetch"
  effect := .read
  external := true
  causesContext := some ⟨.child worker,3600⟩

def ledgerBroker (instanceId : String) (principal : Principal) : BrokerRuntime where
  instanceId
  principal
  optable := ⟨[fetchOp],List.pairwise_singleton _ _⟩
  pip call := env (.freshFacts call)
  pipReads := reads_freshFacts
  trustMap _ := false
  envelopeHash := "envelope"
  inherits := true
  inheritanceRequired h := by cases h
  digests := ⟨fun _ => "",fun _ => "",fun _ => "",fun _ => ""⟩
  pyFloat _ := ""

def plannerAndWorker : Bool → BrokerRuntime
  | false => ledgerBroker "planner" planner
  | true => ledgerBroker "worker" worker

def fetchThenWork : Bool → Errand
  | false => .request { tool := "mail", op := "fetch", args := .obj [] } none []
  | true => .sessionTurn

def calmSite : Oracle (Site.device memory) := fun o => (.answered,memory.calm o)

def fetchedAndWorked : List (Event Bool Op Op.Ret Exn) × Config Bool Op Op.Ret Exn Site Unit :=
  play (Site.device memory) (List.replicate 40 (false,calmSite) ++ List.replicate 6 (true,calmSite))
    (opened plannerAndWorker fetchThenWork emptyState)

def installedSources (tr : List (Event Bool Op Op.Ret Exn)) : List (List String) :=
  tr.filterMap fun e =>
    match e.op with
    | .process (.installTurn _ turn) => some turn.sources
    | _ => none

theorem low_water_mark_worker :
    installedSources fetchedAndWorked.1 = [[],["connector:mail.fetch"]] ∧
      LowWaterMark plannerAndWorker fetchedAndWorked.1 fetchedAndWorked.2.state :=
  ⟨by decide +kernel,low_water_mark (play_run _ _)⟩

def twin : Principal := ⟨"a#b","c","sam",.B⟩

def otherTwin : Principal := ⟨"a","b#c","sam",.B⟩

def twinRecord : InheritanceRecord where
  id := "1"
  target := twin
  causingPrincipal := planner
  causingTurnId := "turn:1"
  taint := { tainted := true, sources := ["web"] }
  tool := "mail"
  op := "fetch"
  issuedAt := 0
  notAfter := 3600000000

theorem scan_returns_another_principals_record :
    twin ≠ otherTwin ∧ twinRecord.target = twin ∧
      (((Ledger.empty.putRecord twinRecord).2.liveRecords otherTwin 0).toOption.map fun records =>
        records.map InheritanceRecord.target) = some [twin] := by
  decide

end Runtime

end SafeAgents
