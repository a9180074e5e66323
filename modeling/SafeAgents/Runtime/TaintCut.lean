import SafeAgents.Runtime.Mediation

namespace SafeAgents

open Interleaving Enforcement

namespace Runtime

def Renews (ref : TurnRef) : Op → Prop
  | .process (.installTurn runtime turn) => ref = ⟨runtime,turn.turnId⟩
  | _ => False

def Tainted (ref : TurnRef) (s : ProcessState) : Prop := ∀ turn, s.contexts ref = some turn → turn.tainted = true

section Steps
variable {ref : TurnRef} {s : ProcessState}

theorem tainted_ingest (clock : Instant) (source : String) : Tainted ref (ProcessOp.apply clock (.ingest ref source false) s).2 := by
  intro turn hturn
  simp only [ProcessOp.apply,Function.update_self,Option.map_eq_some_iff] at hturn
  obtain ⟨before,-,rfl⟩ := hturn
  rfl

theorem Tainted.apply (h : Tainted ref s) (clock : Instant) (o : ProcessOp) (hnot : ¬ Renews ref (.process o)) :
    Tainted ref (o.apply clock s).2 := by
  cases o with
  | currentTurn runtime => exact h
  | newTurn runtime => exact h
  | context at_ => exact h
  | stampCallTs runtime =>
    simp only [ProcessOp.apply]
    split <;> exact h
  | firstQuarantine runtime intentId =>
    simp only [ProcessOp.apply]
    split <;> exact h
  | installTurn runtime turn =>
    intro found hfound
    have hne : ref ≠ ⟨runtime,turn.turnId⟩ := hnot
    simp only [ProcessOp.apply,Function.update_of_ne hne] at hfound
    exact h found hfound
  | ingest at_ source trusted =>
    by_cases hat : ref = at_
    · subst hat
      intro turn hturn
      simp only [ProcessOp.apply,Function.update_self,Option.map_eq_some_iff] at hturn
      obtain ⟨before,hbefore,rfl⟩ := hturn
      exact before.tainted_ingestSource_mono source trusted (h before hbefore)
    · intro turn hturn
      simp only [ProcessOp.apply,Function.update_of_ne hat] at hturn
      exact h turn hturn

variable {ι : Type} [DecidableEq ι] {B : Substrate} {G : Guard ι Op Op.Ret Exn State Unit} {c c' : Config ι Op Op.Ret Exn State Unit}

theorem Tainted.step {e : Event ι Op Op.Ret Exn} (h : Tainted ref c.state.process) (hs : Step B.device c e c')
    (hnot : ¬ Renews ref e.op) : Tainted ref c'.state.process := by
  obtain ⟨i,o,r⟩ := e
  obtain ⟨x,-,hstate⟩ := hs.effect
  rw [hstate]
  cases o with
  | process o => exact h.apply x o hnot
  | store o => exact h
  | intents o => exact h
  | env o => exact h
  | audit record => exact h

theorem Tainted.run {tr : List (Event ι Op Op.Ret Exn)} (h : Tainted ref c.state.process) (hrun : Run B.device G c tr c')
    (hnot : ∀ e ∈ tr, ¬ Renews ref e.op) : Tainted ref c'.state.process := by
  induction hrun with
  | refl => exact h
  | step _ hs _ ih =>
    refine (ih fun e he => hnot e (List.mem_append_left _ he)).step hs (hnot _ ?_)
    exact List.mem_append_right _ (List.mem_singleton.mpr rfl)

end Steps

section Runs
variable {ι : Type} [DecidableEq ι] {B : Substrate} {G : Guard ι Op Op.Ret Exn State Unit}
  {crew : ι → BrokerRuntime} {errands : ι → Errand} {s : State} {c c' : Config ι Op Op.Ret Exn State Unit}
  {tr earlier later : List (Event ι Op Op.Ret Exn)} {i : ι} {ref : TurnRef} {turn : TurnContext}

theorem context_seen (h : Run B.device G c tr c') {r : Except Exn (Option TurnContext)}
    (htr : tr = earlier ++ ⟨i,.process (.context ref),r⟩ :: later) (hr : r = .ok (some turn)) :
    ∃ c₁, Run B.device G c earlier c₁ ∧ c₁.state.process.contexts ref = some turn := by
  obtain ⟨c₁,c₂,h₁,hs,-,-⟩ := h.split htr
  obtain ⟨x,hreply,-⟩ := hs.effect
  refine ⟨c₁,h₁,?_⟩
  have hread : r = .ok (c₁.state.process.contexts ref) := hreply
  exact (Except.ok.inj (hr.symm.trans hread)).symm

theorem renewed_of_clean (h : Run B.device G c tr c') (htr : tr = earlier ++ ⟨i,.process (.context ref),.ok (some turn)⟩ :: later)
    (hclean : turn.tainted = false) {before after : List (Event ι Op Op.Ret Exn)} {j : ι} {source : String} {reply : Except Exn Unit}
    (hingest : earlier = before ++ ⟨j,.process (.ingest ref source false),reply⟩ :: after) : ∃ e ∈ after, Renews ref e.op := by
  obtain ⟨c₁,h₁,hread⟩ := context_seen h htr rfl
  obtain ⟨c₂,c₃,-,hs,-,hafter⟩ := h₁.split hingest
  by_contra hnone
  have htainted : Tainted ref c₃.state.process := by
    obtain ⟨x,-,hstate⟩ := hs.effect
    rw [hstate]
    exact tainted_ingest x source
  have hkept := htainted.run hafter fun e he hrenews => hnone ⟨e,he,hrenews⟩
  rw [hkept turn hread] at hclean
  cases hclean

theorem taint_cut (h : Run B.device G (staffed crew errands s) tr c) {tr₁ tr₂ : List (Event ι Op Op.Ret Exn)} {call : BrokeredCall}
    {effective : Decision} {r : Except Exn DoerResult} (htr : tr = tr₁ ++ ⟨i,.env (.doer .inline call effective),r⟩ :: tr₂)
    (hwrite : call.manifest.externalWrite = true) :
    ∃ ref turn earlier later, tr₁ = earlier ++ ⟨i,.process (.context ref),.ok (some turn)⟩ :: later ∧
      call.session.turnId = turn.turnId ∧ call.taint = turn.toTaint ∧ turn.tainted = false ∧
      ∀ before after j source reply, earlier = before ++ ⟨j,.process (.ingest ref source false),reply⟩ :: after →
        ∃ e ∈ after, Renews ref e.op := by
  obtain ⟨⟨clearance,hown⟩,-⟩ := run_mediated h htr
  obtain ⟨request,turnContext,ingestedSources,entry,ref,turn,confidence,ts,-,-,-,-,hturn,-,hcall⟩ := clearance.asked
  have htaint : call.taint = turn.toTaint := by rw [hcall]; rfl
  have hclean : turn.tainted = false := by
    by_contra hne
    have htainted : call.taint.tainted = true := by
      rw [htaint]
      exact (Bool.not_eq_false _).mp hne
    have hexecutes := clearance.authorised.1
    rw [Pdp.executes_decide_of_tainted htainted hwrite] at hexecutes
    cases hexecutes
  have hseen : (⟨.process (.context ref),.ok (some turn)⟩ : Saw Op Op.Ret Exn) ∈ own i tr₁ := by
    rw [hown]
    exact List.mem_append_left _ hturn
  obtain ⟨pre,post,hpre⟩ := List.append_of_mem hseen
  obtain ⟨earlier,later,rfl,-⟩ := own_split hpre
  refine ⟨ref,turn,earlier,later,rfl,by rw [hcall]; rfl,htaint,hclean,fun before after j source reply hingest => ?_⟩
  rw [List.append_assoc,List.cons_append] at htr
  exact renewed_of_clean h htr hclean hingest

end Runs

theorem taint_cut_sent : ∃ tr₁ call effective r tr₂,
    mailSent.1 = tr₁ ++ ⟨(),.env (.doer .inline call effective),r⟩ :: tr₂ ∧ call.manifest.externalWrite = true ∧
      ∃ ref turn earlier later, tr₁ = earlier ++ ⟨(),.process (.context ref),.ok (some turn)⟩ :: later ∧
        call.session.turnId = turn.turnId ∧ call.taint = turn.toTaint ∧ turn.tainted = false ∧
        ∀ before after j source reply, earlier = before ++ ⟨j,.process (.ingest ref source false),reply⟩ :: after →
          ∃ e ∈ after, Renews ref e.op := by
  have hsent : mailSent.1.any (handsOver fun path call => path = .inline ∧ call.manifest.externalWrite = true) = true := by decide +kernel
  obtain ⟨tr₁,i,path,call,effective,r,tr₂,htr,hpath⟩ := exists_doer hsent
  obtain ⟨rfl,hwrite⟩ := of_decide_eq_true hpath
  have hrun : Run memory.device anyStep (staffed (fun _ => mailBroker) (fun _ => sendMail) emptyState) mailSent.1 mailSent.2 :=
    play_run _ _
  exact ⟨tr₁,call,effective,r,tr₂,htr,hwrite,taint_cut hrun htr hwrite⟩

end Runtime

end SafeAgents
