import SafeAgents.Pdp.Facts

namespace SafeAgents

namespace Pdp

def pyBool (b : Bool) : String := if b then "True" else "False"

def pyOptBool : Option Bool → String
  | none => "None"
  | some b => pyBool b

structure Rule where
  name : String
  predicate : BrokeredCall → Facts → Bool
  action : BrokeredCall → Facts → Decision

section Table
variable (sha256 : String → String)

def intentId (call : BrokeredCall) : String :=
  let raw := call.principal.key ++ ":" ++ call.session.turnId ++ ":" ++ call.tool ++ ":" ++ call.op ++ ":" ++ call.ts
  "intent-" ++ String.ofList ((sha256 raw).toList.take 16)

def approval (call : BrokeredCall) (reason : String) : Decision :=
  .requireApproval {
    id := intentId sha256 call
    renderedForHuman :=
      reason ++ ": " ++ call.principal.agentId ++ " requests " ++ call.tool ++ "." ++ call.op ++ " (external=" ++
        pyBool call.manifest.external ++ ", reversible=" ++ pyOptBool call.manifest.reversible ++ ")" } (some reason)

def approvalOrDeny (call : BrokeredCall) (facts : Facts) (reason : String) : Decision :=
  if facts.humanReachable then approval sha256 call reason
  else .deny (reason ++ "; no human reachable for approval")

def noGrant : Rule where
  name := "no_grant"
  predicate _ f := !f.grantPresent
  action _ _ := .deny "tool not granted to this principal"

def errorBudgetEscalate : Rule where
  name := "error_budget_escalate"
  predicate c f := c.manifest.effect = .write && f.errorBudgetBreached && f.escalationBudgetAvailable
  action _ _ := .abstain true "error budget breached; escalating for human review"

def errorBudgetDeny : Rule where
  name := "error_budget_deny"
  predicate c f := c.manifest.effect = .write && f.errorBudgetBreached && !f.escalationBudgetAvailable
  action _ _ := .deny "error budget breached; escalation budget exhausted"

def confidenceBelowBarEscalate : Rule where
  name := "confidence_below_bar_escalate"
  predicate c f := c.manifest.effect = .write && f.confidenceBelowBar && f.escalationBudgetAvailable
  action _ _ := .abstain true "constructed confidence below bar; escalating for human review"

def confidenceBelowBarDeny : Rule where
  name := "confidence_below_bar_deny"
  predicate c f := c.manifest.effect = .write && f.confidenceBelowBar && !f.escalationBudgetAvailable
  action _ _ := .deny "constructed confidence below bar; escalation budget exhausted"

def readQueryExfilDeny : Rule where
  name := "read_query_exfil_deny"
  predicate c f := c.manifest.effect = .read && (f.queryBytesExceeded || f.queryEgressBreached)
  action _ _ := .deny "query egress bound exceeded"

def taintedHarnessHold : Rule where
  name := "tainted_harness_hold"
  predicate c f := c.taint.tainted && f.harnessClassHeld && !f.capBudgetBreached
  action c f :=
    approvalOrDeny sha256 c f "tainted harness hold: the envelope holds this tool class on a tainted turn"

def taintedComposedDestination : Rule where
  name := "tainted_composed_destination"
  predicate c f :=
    c.taint.tainted && f.destinationComposed && !f.capBudgetBreached &&
      !(c.manifest.external && c.manifest.effect = .write)
  action c f := approvalOrDeny sha256 c f "tainted composed destination: decided as an external write"

def readRungGate : Rule where
  name := "read_rung_gate"
  predicate c f :=
    c.manifest.effect = .read && c.manifest.external && f.grantLevel = .inLoop && !f.readSourceTrusted
  action c f := approvalOrDeny sha256 c f "in-loop external read requires approval"

def capBudgetBreached : Rule where
  name := "cap_budget_breached"
  predicate _ f := f.capBudgetBreached
  action _ _ := .deny "capacity budget breached"

def readAllow : Rule where
  name := "read_allow"
  predicate c _ := c.manifest.effect = .read
  action _ _ := .allow

def transformToSaferOp : Rule where
  name := "transform_to_safer_op"
  predicate c f :=
    f.transformOp.isSome && c.manifest.effect = .write && c.manifest.external &&
      c.manifest.reversible ≠ some false && !c.taint.tainted
  action c f := .transform (f.transformOp.getD "") c.args

def taintedExternalWrite : Rule where
  name := "tainted_external_write"
  predicate c _ := c.taint.tainted && c.manifest.external && c.manifest.effect = .write
  action c f := approvalOrDeny sha256 c f "tainted external write"

def externalIrreversible : Rule where
  name := "external_irreversible"
  predicate c _ := c.manifest.external && c.manifest.reversible = some false && c.manifest.effect = .write
  action c f := approvalOrDeny sha256 c f "irreversible external write"

def inLoopWrite : Rule where
  name := "in_loop_write"
  predicate c f := c.manifest.effect = .write && f.grantLevel = .inLoop
  action c f := approvalOrDeny sha256 c f "in-loop write requires approval"

def supervisedWriteAllow : Rule where
  name := "supervised_write_allow"
  predicate c f := c.manifest.effect = .write && (f.grantLevel = .onLoop || f.grantLevel = .outOfLoop)
  action _ _ := .allow

def rules : List Rule := [
  noGrant, errorBudgetEscalate, errorBudgetDeny, confidenceBelowBarEscalate, confidenceBelowBarDeny,
  readQueryExfilDeny, taintedHarnessHold sha256, taintedComposedDestination sha256, readRungGate sha256,
  capBudgetBreached, readAllow, transformToSaferOp, taintedExternalWrite sha256, externalIrreversible sha256,
  inLoopWrite sha256, supervisedWriteAllow]

def defaultDeny : Decision := .deny "write: default-deny; no permitting rule matched"

def decide (call : BrokeredCall) (facts : Facts) : Decision :=
  match (rules sha256).find? fun rule => rule.predicate call facts with
  | some rule => rule.action call facts
  | none => defaultDeny

end Table

variable {sha256 : String → String} {call : BrokeredCall} {facts : Facts}

theorem executes_approvalOrDeny (reason : String) : (approvalOrDeny sha256 call facts reason).executes = false := by
  unfold approvalOrDeny
  split <;> rfl

theorem decide_mem_before {before after : List Rule} {rule : Rule} (hrules : rules sha256 = before ++ rule :: after)
    (hrule : rule.predicate call facts = true) :
    ∃ r ∈ before ++ [rule], r.predicate call facts = true ∧ decide sha256 call facts = r.action call facts := by
  let p : Rule → Bool := fun r => r.predicate call facts
  have hfound : ∃ r ∈ before ++ [rule], (rules sha256).find? p = some r := by
    have hhead : (rule :: after).find? p = some rule := List.find?_cons_of_pos hrule
    rw [hrules,List.find?_append,hhead]
    cases hbefore : before.find? p with
    | none => exact ⟨rule,by simp,rfl⟩
    | some r => exact ⟨r,List.mem_append_left _ (List.mem_of_find?_eq_some hbefore),rfl⟩
  obtain ⟨r,hmem,hfind⟩ := hfound
  have hr : p r = true := List.find?_some hfind
  refine ⟨r,hmem,hr,?_⟩
  simp only [decide]
  rw [show (rules sha256).find? (fun rule => rule.predicate call facts) = some r from hfind]

theorem executes_decide_of_tainted (htaint : call.taint.tainted = true) (hwrite : call.manifest.externalWrite = true) :
    (decide sha256 call facts).executes = false := by
  have hext : call.manifest.external = true := by simp_all [ToolOp.externalWrite]
  have heff : call.manifest.effect = .write := by simp_all [ToolOp.externalWrite]
  have hsplit : rules sha256 = (rules sha256).take 12 ++ taintedExternalWrite sha256 :: (rules sha256).drop 13 := rfl
  have hcut : (taintedExternalWrite sha256).predicate call facts = true := by
    simp [taintedExternalWrite,htaint,hext,heff]
  obtain ⟨r,hmem,hr,hdecide⟩ := decide_mem_before hsplit hcut
  rw [hdecide]
  simp only [rules,List.take_succ_cons,List.take_zero,List.cons_append,List.nil_append,List.mem_cons,
    List.not_mem_nil,or_false] at hmem
  -- Only `readAllow` and `transformToSaferOp` could execute ahead of the cut, and neither applies.
  rcases hmem with rfl | rfl | rfl | rfl | rfl | rfl | rfl | rfl | rfl | rfl | rfl | rfl | rfl <;>
    first
      | rfl
      | exact executes_approvalOrDeny _
      | simp [readAllow,heff] at hr
      | simp [transformToSaferOp,htaint] at hr

end Pdp

end SafeAgents
