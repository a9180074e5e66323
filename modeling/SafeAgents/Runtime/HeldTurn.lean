import SafeAgents.Runtime.Releases
import SafeAgents.Runtime.TaintCut

namespace SafeAgents

open Interleaving Enforcement

namespace Runtime

def Turns (runtime : String) : Op → Prop
  | .process (.installTurn runtime' _) => runtime' = runtime
  | .process (.newTurn runtime') => runtime' = runtime
  | _ => False

def Steady (o : Op) : Prop := ∀ runtime, ¬ Turns runtime o

theorem steady_of_routine {o : Op} (h : Routine o) : Steady o := by
  cases o with
  | process o => exact h.elim
  | _ => exact fun _ h => h

theorem steady_of_plain {o : Op} (h : Plain o) : Steady o := steady_of_routine (routine_of_plain h)

def Careful (own : Seen) : Op → Prop
  | .process (.newTurn _) => False
  | .process (.installTurn runtime _) => ∃ before rest : Seen,
      own = before ++ ⟨.process (.currentTurn runtime),.ok none⟩ :: rest ∧ ∀ saw ∈ rest, Steady saw.op
  | _ => True

def turnKeeper : Duty Op Op.Ret Exn where
  owes := Careful
  stays earlier own o h := by
    cases o with
    | process o =>
      cases o with
      | installTurn runtime turn =>
        obtain ⟨before,rest,rfl,hrest⟩ := h
        exact ⟨earlier ++ before,rest,by simp,hrest⟩
      | _ => exact h
    | _ => trivial

theorem careful_of_steady {own : Seen} {o : Op} (h : Steady o) : Careful own o := by
  cases o with
  | process o =>
    cases o with
    | installTurn runtime turn => exact absurd rfl (h runtime)
    | newTurn runtime => exact absurd rfl (h runtime)
    | _ => trivial
  | _ => trivial

theorem minds_steady {α : Type} {p : Act α} (hp : Uses Steady p) : Minds turnKeeper p := hp.minds fun _ => careful_of_steady

def Obtains (runtime : String) (ref : TurnRef) (saw : Saw Op Op.Ret Exn) : Prop :=
  saw = ⟨.process (.currentTurn runtime),.ok (some ref)⟩ ∨
    ∃ turn, saw = ⟨.process (.installTurn runtime turn),.ok ()⟩ ∧ ref = ⟨runtime,turn.turnId⟩

section Programs
variable (R : BrokerRuntime)

theorem careful_sessionTurn : Minds turnKeeper R.sessionTurn := by
  have minted : Uses Steady R.mintTurn := by
    refine .bind (uses_env.mpr fun _ h => h) fun id => ?_
    split
    · refine .bind (uses_env.mpr fun _ h => h) fun now => ?_
      refine .bind (uses_caught (uses_env.mpr fun _ h => h)) fun records => ?_
      cases records <;> trivial
    · trivial
  refine (tells_call_bind (o := Op.process (.currentTurn R.instanceId))).mpr ⟨trivial,fun current _ => ?_,fun _ _ => trivial⟩
  cases current with
  | some ref => trivial
  | none =>
    have minting := ((minds_steady minted).after [⟨.process (.currentTurn R.instanceId),.ok none⟩]).only minted fun _ _ h _ => h
    refine Tells.bind minting (fun own turn h => ?_) fun _ _ _ => trivial
    refine (tells_call_bind (o := Op.process (.installTurn R.instanceId turn))).mpr ⟨⟨[],own,by simp,h.2⟩,fun _ _ => trivial,fun _ _ => trivial⟩

theorem plays_sessionTurn {own : Seen} {ref : TurnRef} (h : Plays R.sessionTurn own (.ok ref)) :
    ∃ before saw, own = before ++ [saw] ∧ Obtains R.instanceId ref saw := by
  obtain ⟨first,rest,current,rfl,hfirst,hrest⟩ := plays_bind_ok h
  obtain rfl := plays_called hfirst
  cases current with
  | some found =>
    obtain ⟨rfl,href⟩ := plays_ret.mp hrest
    cases href
    exact ⟨[],_,rfl,.inl rfl⟩
  | none =>
    obtain ⟨minted,more,turn,rfl,-,hmore⟩ := plays_bind_ok hrest
    obtain ⟨installed,last,_,rfl,hinstalled,hlast⟩ := plays_bind_ok hmore
    obtain rfl := plays_called hinstalled
    obtain ⟨rfl,href⟩ := plays_ret.mp hlast
    cases href
    exact ⟨⟨.process (.currentTurn R.instanceId),.ok none⟩ :: minted,⟨.process (.installTurn R.instanceId turn),.ok ()⟩,by simp,
      .inr ⟨turn,rfl,rfl⟩⟩

theorem careful_handleRequest (request : AgentRequest) (ingestedSources : List String) :
    Minds turnKeeper (R.handleRequest request none ingestedSources) := by
  have ingested (ref : TurnRef) : Uses Steady (R.ingestSources ref ingestedSources) := by
    induction ingestedSources with
    | nil => trivial
    | cons source sources ih => exact .bind (uses_process.mpr fun _ h => h) fun _ => ih
  have decided (ref : TurnRef) (entry : ToolOp) (turn : TurnContext) (confidence : Option ConfidenceArtifact) :
      Uses Steady (R.stampAndDecide request none ref entry turn confidence) :=
    .bind (uses_process.mpr fun _ h => h) fun _ => R.uses_decideCall (fun _ => steady_of_routine) request none ref _
      (fun call facts => (R.plain_decide call facts).mono fun _ => steady_of_plain)
      (R.uses_executor (fun _ => steady_of_routine) (fun _ _ _ _ h => h) (fun _ _ _ _ h => h) ref)
  unfold BrokerRuntime.handleRequest
  split
  · refine .bind (careful_sessionTurn R) fun ref => minds_steady (.bind (ingested ref) fun _ => ?_)
    exact .bind (uses_emit.mpr fun _ h => h) fun _ => trivial
  · refine .bind (careful_sessionTurn R) fun ref => minds_steady (.bind (ingested ref) fun _ => .bind ?_ fun turn => ?_)
    · refine .bind (uses_process.mpr fun _ h => h) fun found => ?_
      cases found <;> trivial
    · unfold BrokerRuntime.dispatch
      split
      · exact (R.plain_refuseUnlisted request none).mono fun _ => steady_of_plain
      · split
        · trivial
        · exact decided ref _ turn none
        · exact decided ref _ turn _

theorem steady_approveIntent (intentId approvedBy : String) (shownInputDigest : Option String) :
    Uses Steady (R.approveIntent intentId approvedBy shownInputDigest) :=
  R.uses_approveIntent (fun _ => steady_of_routine) (fun _ _ _ _ h => h) (fun _ _ _ _ _ _ _ h => h) intentId approvedBy shownInputDigest

theorem steady_rejectIntent (intentId rejectedBy : String) : Uses Steady (R.rejectIntent intentId rejectedBy) :=
  R.uses_rejectIntent (fun _ => steady_of_routine) (fun _ _ _ _ _ _ _ h => h) intentId rejectedBy

end Programs

def WellKept (s : ProcessState) : Prop :=
  ∀ runtime ref, s.currentTurn runtime = some ref → ref.runtime = runtime ∧ (s.contexts ref).isSome

def feeds (ref : TurnRef) : Op → List String
  | .process (.ingest at_ source false) => if at_ = ref then [source] else []
  | _ => []

def fedBy (ref : TurnRef) (own : Seen) : List String := own.flatMap fun saw => feeds ref saw.op

structure TurnKept (ref : TurnRef) (fed : List String) (s : ProcessState) : Prop where
  current : s.currentTurn ref.runtime = some ref
  carries : ∃ turn, s.contexts ref = some turn ∧ ∀ source ∈ fed, source ∈ turn.sources ∧ turn.tainted = true

section Memory
variable {s : ProcessState} {ref : TurnRef} {fed : List String}

theorem WellKept.apply (h : WellKept s) (clock : Instant) (o : ProcessOp) : WellKept (o.apply clock s).2 := by
  cases o with
  | currentTurn runtime => exact h
  | context at_ => exact h
  | stampCallTs runtime =>
    simp only [ProcessOp.apply]
    split <;> exact h
  | firstQuarantine runtime intentId =>
    simp only [ProcessOp.apply]
    split <;> exact h
  | installTurn runtime turn =>
    intro runtime' ref hcurrent
    by_cases hsame : runtime' = runtime
    · subst hsame
      simp only [ProcessOp.apply,Function.update_self,Option.some.injEq] at hcurrent
      subst hcurrent
      exact ⟨rfl,by simp [ProcessOp.apply]⟩
    · simp only [ProcessOp.apply,Function.update_of_ne hsame] at hcurrent
      obtain ⟨hruntime,hkept⟩ := h runtime' ref hcurrent
      refine ⟨hruntime,?_⟩
      by_cases href : ref = ⟨runtime,turn.turnId⟩
      · simp [ProcessOp.apply,href]
      · simpa [ProcessOp.apply,Function.update_of_ne href] using hkept
  | newTurn runtime =>
    intro runtime' ref hcurrent
    by_cases hsame : runtime' = runtime
    · subst hsame
      simp [ProcessOp.apply] at hcurrent
    · simp only [ProcessOp.apply,Function.update_of_ne hsame] at hcurrent
      exact h runtime' ref hcurrent
  | ingest at_ source trusted =>
    intro runtime' ref hcurrent
    obtain ⟨hruntime,hkept⟩ := h runtime' ref hcurrent
    refine ⟨hruntime,?_⟩
    by_cases href : ref = at_
    · subst href
      simpa [ProcessOp.apply] using hkept
    · simpa [ProcessOp.apply,Function.update_of_ne href] using hkept

theorem TurnKept.mono {fed' : List String} (h : TurnKept ref fed s) (hsub : fed' ⊆ fed) : TurnKept ref fed' s := by
  obtain ⟨turn,hturn,hfed⟩ := h.carries
  exact ⟨h.current,turn,hturn,fun source hsource => hfed source (hsub hsource)⟩

theorem TurnKept.ingest (h : TurnKept ref fed s) (clock : Instant) (at_ : TurnRef) (source : String) (trusted : Bool) :
    TurnKept ref (fed ++ feeds ref (.process (.ingest at_ source trusted))) (ProcessOp.apply clock (.ingest at_ source trusted) s).2 := by
  obtain ⟨turn,hturn,hfed⟩ := h.carries
  refine ⟨h.current,?_⟩
  by_cases href : ref = at_
  · subst href
    refine ⟨turn.ingestSource source trusted,by simp [ProcessOp.apply,hturn],fun found hfound => ?_⟩
    rcases List.mem_append.mp hfound with hbefore | hnow
    · obtain ⟨hmem,htainted⟩ := hfed found hbefore
      exact ⟨turn.sources_ingestSource_mono source trusted hmem,turn.tainted_ingestSource_mono source trusted htainted⟩
    · cases trusted with
      | true => cases hnow
      | false =>
        obtain rfl : found = source := by simpa [feeds] using hnow
        exact ⟨turn.mem_sources_markTainted found,rfl⟩
  · refine ⟨turn,by simpa [ProcessOp.apply,Function.update_of_ne href] using hturn,fun found hfound => hfed found ?_⟩
    have hne : ¬ at_ = ref := fun h => href h.symm
    cases trusted <;> simpa [feeds,hne] using hfound

theorem TurnKept.apply (h : TurnKept ref fed s) (clock : Instant) (o : ProcessOp) (hnot : ¬ Turns ref.runtime (.process o)) :
    TurnKept ref (fed ++ feeds ref (.process o)) (o.apply clock s).2 := by
  have hsame (hfeeds : feeds ref (.process o) = []) (h' : TurnKept ref fed (o.apply clock s).2) :
      TurnKept ref (fed ++ feeds ref (.process o)) (o.apply clock s).2 := by rwa [hfeeds,List.append_nil]
  cases o with
  | ingest at_ source trusted => exact h.ingest clock at_ source trusted
  | currentTurn runtime => exact hsame rfl h
  | context at_ => exact hsame rfl h
  | stampCallTs runtime =>
    refine hsame rfl ?_
    simp only [ProcessOp.apply]
    split
    · exact ⟨h.current,h.carries⟩
    · exact h
  | firstQuarantine runtime intentId =>
    refine hsame rfl ?_
    simp only [ProcessOp.apply]
    split
    · exact h
    · exact ⟨h.current,h.carries⟩
  | installTurn runtime turn =>
    have hne : ¬ ref.runtime = runtime := fun h => hnot h.symm
    refine hsame rfl ⟨by simpa [ProcessOp.apply,Function.update_of_ne hne] using h.current,?_⟩
    have href : ref ≠ ⟨runtime,turn.turnId⟩ := fun h => hne (congrArg TurnRef.runtime h)
    simpa [ProcessOp.apply,Function.update_of_ne href] using h.carries
  | newTurn runtime =>
    have hne : ¬ ref.runtime = runtime := fun h => hnot h.symm
    exact hsame rfl ⟨by simpa [ProcessOp.apply,Function.update_of_ne hne] using h.current,h.carries⟩

end Memory

section Runs
variable {ι β : Type} [DecidableEq ι] {B : Substrate} {G : Guard ι Op Op.Ret Exn State β} {c c' : Config ι Op Op.Ret Exn State β}
  {e : Event ι Op Op.Ret Exn} {tr past : List (Event ι Op Op.Ret Exn)} {i : ι} {ref : TurnRef} {fed : List String}

theorem WellKept.run (h : WellKept c.state.process) (hrun : Run B.device G c tr c') : WellKept c'.state.process := by
  refine hrun.state_invariant (P := fun s => WellKept s.process) (fun a e b hs _ hkept => ?_) h
  obtain ⟨j,o,r⟩ := e
  obtain ⟨x,-,hstate⟩ := hs.effect
  rw [hstate]
  cases o with
  | process o => exact hkept.apply x o
  | _ => exact hkept

theorem currentTurn_step (hs : Step B.device c e c') {runtime : String} (hnot : ¬ Turns runtime e.op) :
    c'.state.process.currentTurn runtime = c.state.process.currentTurn runtime := by
  obtain ⟨j,o,r⟩ := e
  obtain ⟨x,-,hstate⟩ := hs.effect
  rw [hstate]
  cases o with
  | process o =>
    cases o with
    | installTurn runtime' turn =>
      have hne : runtime ≠ runtime' := fun h => hnot h.symm
      simp [Substrate.device,Substrate.perform,ProcessOp.apply,Function.update_of_ne hne]
    | newTurn runtime' =>
      have hne : runtime ≠ runtime' := fun h => hnot h.symm
      simp [Substrate.device,Substrate.perform,ProcessOp.apply,Function.update_of_ne hne]
    | stampCallTs runtime' =>
      simp only [Substrate.device,Substrate.perform,ProcessOp.apply]
      split <;> rfl
    | firstQuarantine runtime' intentId =>
      simp only [Substrate.device,Substrate.perform,ProcessOp.apply]
      split <;> rfl
    | _ => rfl
  | _ => rfl

theorem currentTurn_run (h : Run B.device G c tr c') {runtime : String} (hnot : ∀ e ∈ tr, ¬ Turns runtime e.op) :
    c'.state.process.currentTurn runtime = c.state.process.currentTurn runtime := by
  induction h with
  | refl => rfl
  | step _ hs _ ih =>
    rw [currentTurn_step hs (hnot _ (List.mem_append_right _ (List.mem_singleton.mpr rfl)))]
    exact ih fun e he => hnot e (List.mem_append_left _ he)

def Alone (i : ι) (runtime : String) (tr : List (Event ι Op Op.Ret Exn)) : Prop :=
  ∀ e ∈ tr, e.thread ≠ i → ¬ Turns runtime e.op

theorem none_at_begin (h : Run B.device G c tr c') {runtime : String} (halone : Alone i runtime tr) {turn : TurnContext}
    (hcareful : Careful (own i tr) (.process (.installTurn runtime turn))) : c'.state.process.currentTurn runtime = none := by
  obtain ⟨before,rest,hown,hrest⟩ := hcareful
  obtain ⟨tr₁,tr₂,rfl,hbefore⟩ := own_split hown
  obtain ⟨c₁,c₂,-,hs,-,hafter⟩ := h.split rfl
  obtain ⟨x,hreply,-⟩ := hs.effect
  have hnone : c₁.state.process.currentTurn runtime = none := (Except.ok.inj hreply).symm
  have hlater : own i tr₂ = rest := by
    rw [own_append,own_cons,if_pos rfl,hbefore] at hown
    exact (List.cons.inj (List.append_cancel_left hown)).2
  rw [currentTurn_run hafter fun e he => ?_,currentTurn_step hs id,hnone]
  by_cases hthread : e.thread = i
  · exact hrest ⟨e.op,e.reply⟩ (hlater ▸ mem_own.mpr (hthread ▸ he)) runtime
  · exact halone e (List.mem_append_right _ (List.mem_cons_of_mem _ he)) hthread

theorem TurnKept.step (hs : Step B.device c e c') (h : TurnKept ref fed c.state.process) (hnot : ¬ Turns ref.runtime e.op) :
    TurnKept ref (fed ++ feeds ref e.op) c'.state.process := by
  obtain ⟨j,o,r⟩ := e
  obtain ⟨x,-,hstate⟩ := hs.effect
  rw [hstate]
  have hidle : TurnKept ref (fed ++ []) c.state.process := by rwa [List.append_nil]
  cases o with
  | process o => exact h.apply x o hnot
  | _ => exact hidle

def CarefulAfter (i : ι) (past tr : List (Event ι Op Op.Ret Exn)) : Prop :=
  ∀ tr₁ e tr₂, tr = tr₁ ++ e :: tr₂ → e.thread = i → Careful (own i (past ++ tr₁)) e.op

theorem TurnKept.run {c₀ : Config ι Op Op.Ret Exn State β} (hpast : Run B.device G c₀ past c) (h : Run B.device G c tr c')
    (halone : Alone i ref.runtime (past ++ tr)) (hcareful : CarefulAfter i past tr) (hheld : TurnKept ref fed c.state.process) :
    TurnKept ref (fed ++ fedBy ref (own i tr)) c'.state.process := by
  induction h with
  | refl => simpa [fedBy] using hheld
  | @step c' c'' tr e hrun hs hg ih =>
    have hbefore := ih (fun e' he' => halone e' (by
      rcases List.mem_append.mp he' with h | h <;> simp [h])) fun tr₁ e' tr₂ htr => hcareful tr₁ e' (tr₂ ++ [e]) (by simp [htr])
    have hnot : ¬ Turns ref.runtime e.op := by
      intro hturns
      by_cases hthread : e.thread = i
      · have hnow := hcareful tr e [] rfl hthread
        obtain ⟨j,o,r⟩ := e
        cases o with
        | process o =>
          cases o with
          | installTurn runtime turn =>
            obtain rfl : runtime = ref.runtime := hturns
            have hnone := none_at_begin (hpast.trans hrun) (fun e' he' => halone e' (by
              rcases List.mem_append.mp he' with h | h <;> simp [h])) hnow
            rw [hbefore.current] at hnone
            cases hnone
          | newTurn runtime => exact hnow
          | _ => exact hturns
        | _ => exact hturns
      · exact halone e (by simp) hthread hturns
    have hafter := hbefore.step hs hnot
    refine hafter.mono ?_
    rw [own_concat]
    split
    · simp [fedBy,List.append_assoc]
    · exact List.subset_append_left _ _

theorem held_obtained {runtime : String} {saw : Saw Op Op.Ret Exn} (hs : Step B.device c ⟨i,saw.op,saw.reply⟩ c')
    (hkept : WellKept c.state.process) (hobtains : Obtains runtime ref saw) : ref.runtime = runtime ∧ TurnKept ref [] c'.state.process := by
  obtain ⟨x,hreply,hstate⟩ := hs.effect
  rw [hstate]
  rcases hobtains with rfl | ⟨turn,rfl,rfl⟩
  · have hcurrent : c.state.process.currentTurn runtime = some ref := (Except.ok.inj hreply).symm
    obtain ⟨rfl,hcontext⟩ := hkept _ _ hcurrent
    obtain ⟨turn,hturn⟩ := Option.isSome_iff_exists.mp hcontext
    exact ⟨rfl,hcurrent,turn,hturn,by simp⟩
  · exact ⟨rfl,by simp [Substrate.device,Substrate.perform,ProcessOp.apply],turn,
      by simp [Substrate.device,Substrate.perform,ProcessOp.apply],by simp⟩

section Since
variable {runtime : String} {saw : Saw Op Op.Ret Exn} {before window : Seen} (h : Run B.device G c tr c')
  (hkept : WellKept c.state.process) (halone : Alone i runtime tr) (hcareful : CarefulAfter i [] tr)
  (hobtains : Obtains runtime ref saw)
include h hkept halone hcareful hobtains

theorem held_since (hown : own i tr = before ++ saw :: window) : ref.runtime = runtime ∧ TurnKept ref (fedBy ref window) c'.state.process := by
  obtain ⟨tr₁,tr₂,rfl,hbefore⟩ := own_split hown
  obtain ⟨c₁,c₂,hfirst,hs,hg,hafter⟩ := h.split rfl
  have hwindow : own i tr₂ = window := by
    rw [own_append,own_cons,if_pos rfl,hbefore] at hown
    exact (List.cons.inj (List.append_cancel_left hown)).2
  obtain ⟨rfl,hbegun⟩ := held_obtained hs (hkept.run hfirst) hobtains
  rw [List.append_cons] at halone
  have hheld := TurnKept.run (hfirst.step hs hg) hafter halone (fun first e last htr hthread => ?_) hbegun
  · exact ⟨rfl,by simpa [hwindow] using hheld⟩
  · have hnow := hcareful (tr₁ ++ ⟨i,saw.op,saw.reply⟩ :: first) e last (by simp [htr]) hthread
    simpa using hnow

theorem held_when {first last : Seen} {seen : Saw Op Op.Ret Exn} (hown : own i tr = before ++ saw :: (first ++ seen :: last)) :
    ∃ tr₁ tr₂ c₁ c₂, tr = tr₁ ++ ⟨i,seen.op,seen.reply⟩ :: tr₂ ∧ Run B.device G c tr₁ c₁ ∧
      Step B.device c₁ ⟨i,seen.op,seen.reply⟩ c₂ ∧ ref.runtime = runtime ∧ TurnKept ref (fedBy ref first) c₁.state.process := by
  rw [← List.cons_append,← List.append_assoc] at hown
  obtain ⟨tr₁,tr₂,rfl,hfirst⟩ := own_split hown
  obtain ⟨c₁,c₂,hrun,hs,-,-⟩ := h.split rfl
  refine ⟨tr₁,tr₂,c₁,c₂,rfl,hrun,hs,held_since hrun hkept (fun e he => halone e (List.mem_append_left _ he)) ?_ hobtains hfirst⟩
  intro begun e rest htr hthread
  exact hcareful begun e (rest ++ ⟨i,seen.op,seen.reply⟩ :: tr₂) (by simp [htr]) hthread

theorem context_since {first last : Seen} {turn : TurnContext}
    (hown : own i tr = before ++ saw :: (first ++ ⟨.process (.context ref),.ok (some turn)⟩ :: last)) :
    ∀ source ∈ fedBy ref first, source ∈ turn.sources ∧ turn.tainted = true := by
  obtain ⟨tr₁,tr₂,c₁,c₂,-,-,hs,-,hheld⟩ := held_when h hkept halone hcareful hobtains hown
  obtain ⟨x,hreply,-⟩ := hs.effect
  have hread : c₁.state.process.contexts ref = some turn := (Except.ok.inj hreply).symm
  obtain ⟨kept,hturn,hfed⟩ := hheld.carries
  obtain rfl : kept = turn := Option.some.inj (hturn.symm.trans hread)
  exact hfed

theorem current_since {first last : Seen} {found : Option TurnRef}
    (hown : own i tr = before ++ saw :: (first ++ ⟨.process (.currentTurn runtime),.ok found⟩ :: last)) : found = some ref := by
  obtain ⟨tr₁,tr₂,c₁,c₂,-,-,hs,rfl,hheld⟩ := held_when h hkept halone hcareful hobtains hown
  obtain ⟨x,hreply,-⟩ := hs.effect
  exact (Except.ok.inj hreply).trans hheld.current

theorem not_begun_since {first last : Seen} {turn : TurnContext} {r : Except Exn Unit}
    (hown : own i tr = before ++ saw :: (first ++ ⟨.process (.installTurn runtime turn),r⟩ :: last)) : False := by
  obtain ⟨tr₁,tr₂,c₁,c₂,rfl,hrun,-,rfl,hheld⟩ := held_when h hkept halone hcareful hobtains hown
  have hnone := none_at_begin hrun (fun e he => halone e (List.mem_append_left _ he)) (hcareful tr₁ _ tr₂ rfl rfl)
  rw [hheld.current] at hnone
  cases hnone

end Since

end Runs

end Runtime

end SafeAgents
