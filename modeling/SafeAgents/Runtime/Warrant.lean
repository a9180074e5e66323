import SafeAgents.Runtime.Pip
import SafeAgents.Pdp.Strictness

namespace SafeAgents

open Interleaving Enforcement

namespace Runtime

structure Warrant (K : PipKnobs) (path : ExecutionPath) (call : BrokeredCall) (reads : Seen) : Prop where
  grant : ∃ level, K.Granted call level reads ∧ (path = .inline → level = .inLoop →
    call.manifest.effect = .read ∧ (call.manifest.external = true → K.trustedReadSources.contains (connectorSourceId call.tool call.op)))
  writes : call.manifest.effect = .write → meetsBar call.confidence K.confidenceKnob = true ∧
    ∀ tolerance, K.confidenceKnob.bind Confidence.errorBudgetTolerance = some tolerance →
      ∃ spent, K.Reads call errorBudgetSuffix spent reads ∧ spent < tolerance
  queries : call.manifest.effect = .read → K.queryBytesExceeded call = false ∧
    ∀ text budget, BrokerRuntime.egressText call = some text → K.queryEgressBudget = some budget →
      ∃ spent, K.Reads call queryBytesSuffix spent reads ∧ spent < budget
  capped : path = .inline → ∃ spent, K.Reads call actionCapSuffix spent reads ∧ spent < K.counterCap
  reversible : path = .inline → call.manifest.externalWrite = true → call.manifest.reversible ≠ some false
  tainted : path = .inline → call.taint.tainted = true → call.manifest.externalWrite = false ∧
    holdsHarnessClass call K.taintedHarnessHold = false ∧ (K.escalateComposedDestinations && suppliesDestination call) = false

section Warranted
variable {K : PipKnobs} {path : ExecutionPath} {call : BrokeredCall} {reads : Seen} {facts : Facts}

theorem kind_of_executes {d : Decision} (h : d.executes = true) : d.kind = .allow ∨ d.kind = .transform := by
  simpa [Decision.executes] using h

theorem passes_of_authorised {R : BrokerRuntime} {effective : Decision} (hreachable : facts.humanReachable = true)
    (h : Authorised R path call facts effective) : Pdp.refused call facts = false ∧ Pdp.escalated call facts = false := by
  have hdecided : (Pdp.decide R.digests.sha256 call facts).kind = Pdp.verdict call facts := Pdp.kind_decide hreachable
  have hkind : Pdp.verdict call facts = .allow ∨ Pdp.verdict call facts = .transform ∨ Pdp.verdict call facts = .requireApproval := by
    rw [← hdecided]
    cases path with
    | inline => exact (kind_of_executes h.1).imp id .inl
    | release => exact h.1.imp id .inr
  unfold Pdp.verdict at hkind
  grind

theorem passes_inline {R : BrokerRuntime} {effective : Decision} (hreachable : facts.humanReachable = true)
    (htransform : facts.transformOp = none) (h : Authorised R .inline call facts effective) :
    Pdp.gated call facts = false ∧ facts.capBudgetBreached = false ∧ Pdp.held call facts = false := by
  have hdecided : (Pdp.decide R.digests.sha256 call facts).kind = Pdp.verdict call facts := Pdp.kind_decide hreachable
  have hkind : Pdp.verdict call facts = .allow ∨ Pdp.verdict call facts = .transform := by
    rw [← hdecided]
    exact kind_of_executes h.1
  have hfixed : Pdp.transformable call facts = false := by simp [Pdp.transformable,htransform]
  unfold Pdp.verdict at hkind
  grind

theorem unrefused (h : Pdp.refused call facts = false) : facts.grantPresent = true ∧
    (call.manifest.effect = .read → facts.queryBytesExceeded = false ∧ facts.queryEgressBreached = false) := by
  simp only [Pdp.refused] at h
  grind

theorem unescalated (h : Pdp.escalated call facts = false) (hescalation : facts.escalationBudgetAvailable = true)
    (hwrite : call.manifest.effect = .write) : facts.errorBudgetBreached = false ∧ facts.confidenceBelowBar = false := by
  simp only [Pdp.escalated,hescalation,hwrite] at h
  grind

theorem ungated (hgated : Pdp.gated call facts = false) (hheld : Pdp.held call facts = false) (htransform : facts.transformOp = none)
    (hlevel : facts.grantLevel = .inLoop) :
    call.manifest.effect = .read ∧ (call.manifest.external = true → facts.readSourceTrusted = true) := by
  simp only [Pdp.gated,hlevel] at hgated
  simp only [Pdp.held,Pdp.transformable,hlevel,htransform] at hheld
  cases heffect : call.manifest.effect <;> simp_all

theorem unheld (hheld : Pdp.held call facts = false) :
    (call.manifest.externalWrite = true → call.manifest.reversible ≠ some false) ∧
      (call.taint.tainted = true → call.manifest.externalWrite = false ∧ facts.harnessClassHeld = false ∧
        facts.destinationComposed = false) := by
  simp only [Pdp.held] at hheld
  simp only [ToolOp.externalWrite]
  grind

theorem warrant_of_tells {R : BrokerRuntime} {effective : Decision} (htells : K.Tells call reads facts)
    (h : Authorised R path call facts effective) : Warrant K path call reads := by
  have hwired := htells.wired
  have hreachable : facts.humanReachable = true := by rw [hwired]
  have hescalation : facts.escalationBudgetAvailable = true := by rw [hwired]
  have htransform : facts.transformOp = none := by rw [hwired]
  have hbar : facts.confidenceBelowBar = !meetsBar call.confidence K.confidenceKnob := by rw [hwired]
  have hbytes : facts.queryBytesExceeded = K.queryBytesExceeded call := by rw [hwired]
  have hcomposed : facts.destinationComposed = (K.escalateComposedDestinations && suppliesDestination call) := by rw [hwired]
  have hclass : facts.harnessClassHeld = holdsHarnessClass call K.taintedHarnessHold := by rw [hwired]
  have htrusted : facts.readSourceTrusted = K.trustedReadSources.contains (connectorSourceId call.tool call.op) := by rw [hwired]
  obtain ⟨hrefused,hescalated⟩ := passes_of_authorised hreachable h
  obtain ⟨hpresent,hqueries⟩ := unrefused hrefused
  have inline (hpath : path = .inline) := passes_inline hreachable htransform (hpath ▸ h)
  constructor
  · refine ⟨facts.grantLevel,htells.granted hpresent,fun hpath hlevel => ?_⟩
    rw [← htrusted]
    exact ungated (inline hpath).1 (inline hpath).2.2 htransform hlevel
  · intro hwrite
    obtain ⟨hunder,hbelow⟩ := unescalated hescalated hescalation hwrite
    rw [hbar] at hbelow
    exact ⟨by simpa using hbelow,htells.errors hunder⟩
  · intro hread
    obtain ⟨hfits,hunder⟩ := hqueries hread
    exact ⟨hbytes ▸ hfits,htells.egress hunder⟩
  · exact fun hpath => htells.capped (inline hpath).2.1
  · exact fun hpath => (unheld (inline hpath).2.2).1
  · intro hpath htainted
    rw [← hclass,← hcomposed]
    exact (unheld (inline hpath).2.2).2 htainted

end Warranted

section Runs
variable {ι σ : Type} [DecidableEq ι] {D : Device Op Op.Ret Exn σ} {G : Guard ι Op Op.Ret Exn σ Unit}
  {crew : ι → BrokerRuntime} {errands : ι → Errand} {s : σ} {c : Config ι Op Op.Ret Exn σ Unit}
  {tr tr₁ tr₂ : List (Event ι Op Op.Ret Exn)} {i : ι} {path : ExecutionPath} {call : BrokeredCall} {effective : Decision}
  {r : Except Exn DoerResult} {K : PipKnobs}

theorem warranted (h : Run D G (staffed crew errands s) tr c) (hpip : (crew i).pip = K.pip)
    (htr : tr = tr₁ ++ ⟨i,.env (.doer path call effective),r⟩ :: tr₂) :
    ∃ clearance : Clearance (crew i) (errands i) path call effective,
      own i tr₁ = clearance.history ∧ Warrant K path call clearance.reads := by
  obtain ⟨⟨clearance,hown⟩,-⟩ := run_mediated h htr
  have hread := clearance.read
  rw [hpip] at hread
  exact ⟨clearance,hown,warrant_of_tells (PipKnobs.plays_pip hread) clearance.authorised⟩

end Runs

def mailKnobs : PipKnobs where
  counterCap := 100
  inForceHash := "envelope"

def warrantedBroker : BrokerRuntime := { mailBroker with pip := mailKnobs.pip, pipReads := PipKnobs.reads_pip }

def mailGrant : Grant where
  level := .onLoop
  lastSafeLevel := .inLoop
  envelopeHash := "envelope"

def granting : Oracle memory.device
  | .env (.grant _ _) => .ok { grant := some mailGrant }
  | o => memory.calm o

def mailWarranted : List (Event Unit Op Op.Ret Exn) × Config Unit Op Op.Ret Exn State Unit :=
  play memory.device (List.replicate 50 ((),granting)) (staffed (fun _ => warrantedBroker) (fun _ => sendMail) emptyState)

theorem warranted_sent : ∃ tr₁ path call effective r tr₂, ∃ clearance : Clearance warrantedBroker sendMail path call effective,
    mailWarranted.1 = tr₁ ++ ⟨(),.env (.doer path call effective),r⟩ :: tr₂ ∧ own () tr₁ = clearance.history ∧
      Warrant mailKnobs path call clearance.reads := by
  have hsent : mailWarranted.1.any (handsOver fun _ _ => true) = true := by decide +kernel
  obtain ⟨tr₁,i,path,call,effective,r,tr₂,htr,-⟩ := exists_doer hsent
  have hrun : Run memory.device anyStep (staffed (fun _ => warrantedBroker) (fun _ => sendMail) emptyState) mailWarranted.1
      mailWarranted.2 := play_run _ _
  obtain ⟨clearance,hown,hwarrant⟩ := warranted hrun rfl htr
  exact ⟨tr₁,path,call,effective,r,tr₂,clearance,htr,hown,hwarrant⟩

end Runtime

end SafeAgents
