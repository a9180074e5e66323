import SafeAgents.Pdp.Engine
import SafeAgents.Schemas.Grant
import Mathlib.Data.Bool.Basic

namespace SafeAgents

namespace Pdp

section Verdict
variable (call : BrokeredCall) (f : Facts)

def refused : Bool :=
  !f.grantPresent ||
    call.manifest.effect = .write && (f.errorBudgetBreached || f.confidenceBelowBar) && !f.escalationBudgetAvailable ||
    call.manifest.effect = .read && (f.queryBytesExceeded || f.queryEgressBreached)

def escalated : Bool :=
  call.manifest.effect = .write && (f.errorBudgetBreached || f.confidenceBelowBar) && f.escalationBudgetAvailable

def gated : Bool :=
  call.manifest.effect = .read && call.manifest.external && f.grantLevel = .inLoop && !f.readSourceTrusted

def transformable : Bool :=
  f.transformOp.isSome && call.manifest.effect = .write && call.manifest.external &&
    call.manifest.reversible ≠ some false && !call.taint.tainted

def held : Bool :=
  call.taint.tainted && f.harnessClassHeld ||
    call.taint.tainted && f.destinationComposed && !(call.manifest.external && call.manifest.effect = .write) ||
    call.manifest.effect = .write && (call.manifest.external && (call.taint.tainted || call.manifest.reversible = some false) ||
      f.grantLevel = .inLoop && !transformable call f)

def verdict : Kind :=
  if refused call f then .deny
  else if escalated call f then .abstain
  else if gated call f then .requireApproval
  else if f.capBudgetBreached then .deny
  else if held call f then .requireApproval
  else if transformable call f then .transform
  else .allow

end Verdict

variable {sha256 : String → String} {call : BrokeredCall} {f f' : Facts}

theorem kind_find? (table : List Rule) :
    ((table.find? fun rule => rule.predicate call f).elim defaultDeny fun rule => rule.action call f).kind =
      table.foldr (fun rule rest => if rule.predicate call f then (rule.action call f).kind else rest) .deny := by
  induction table with
  | nil => rfl
  | cons rule rest ih =>
    cases h : rule.predicate call f with
    | true => simp [h]
    | false => simpa [h] using ih

theorem kind_table : (decide sha256 call f).kind =
    (rules sha256).foldr (fun rule rest => if rule.predicate call f then (rule.action call f).kind else rest) .deny := by
  rw [← kind_find?,decide]
  cases (rules sha256).find? fun rule => rule.predicate call f <;> rfl

theorem kind_decide (hreachable : f.humanReachable = true) : (decide sha256 call f).kind = verdict call f := by
  have hseam : ∀ reason, (approvalOrDeny sha256 call f reason).kind = .requireApproval := by
    intro reason
    rw [approvalOrDeny,if_pos hreachable]
    rfl
  rw [kind_table]
  simp only [rules,List.foldr_cons,List.foldr_nil,noGrant,errorBudgetEscalate,errorBudgetDeny,confidenceBelowBarEscalate,
    confidenceBelowBarDeny,readQueryExfilDeny,taintedHarnessHold,taintedComposedDestination,readRungGate,capBudgetBreached,
    readAllow,transformToSaferOp,taintedExternalWrite,externalIrreversible,inLoopWrite,supervisedWriteAllow,hseam]
  simp only [Decision.kind,verdict,refused,escalated,gated,held,transformable]
  have hlevel : f.grantLevel = .inLoop ∨ f.grantLevel = .onLoop ∨ f.grantLevel = .outOfLoop := by
    cases f.grantLevel <;> simp
  rcases (show call.manifest.effect = .read ∨ call.manifest.effect = .write by cases call.manifest.effect <;> simp) with
    heffect | heffect
  · simp only [heffect]
    grind
  · simp only [heffect]
    by_cases hgrant : f.grantPresent = true
    · by_cases hbreached : f.errorBudgetBreached = true
      · grind
      · by_cases hbelow : f.confidenceBelowBar = true
        · grind
        · by_cases htaint : call.taint.tainted = true <;> by_cases hcap : f.capBudgetBreached = true <;> grind
    · grind

structure LessFavourable (f f' : Facts) : Prop where
  grant : f'.grantPresent = true → f.grantPresent = true
  level : autonomyRank f'.grantLevel ≤ autonomyRank f.grantLevel
  errorBudget : f.errorBudgetBreached = true → f'.errorBudgetBreached = true
  capBudget : f.capBudgetBreached = true → f'.capBudgetBreached = true
  queryBytes : f.queryBytesExceeded = true → f'.queryBytesExceeded = true
  queryEgress : f.queryEgressBreached = true → f'.queryEgressBreached = true
  confidence : f.confidenceBelowBar = true → f'.confidenceBelowBar = true
  composed : f.destinationComposed = true → f'.destinationComposed = true
  harnessClass : f.harnessClassHeld = true → f'.harnessClassHeld = true
  trusted : f'.readSourceTrusted = true → f.readSourceTrusted = true
  reachable : f.humanReachable = true
  reachable' : f'.humanReachable = true
  escalation : f'.escalationBudgetAvailable = f.escalationBudgetAvailable
  transformOp : f'.transformOp = f.transformOp

def Overtaken (call : BrokeredCall) (f f' : Facts) : Prop :=
  f.capBudgetBreached = true ∧ refused call f' = false ∧
    (escalated call f = false ∧ escalated call f' = true ∨ gated call f = false ∧ gated call f' = true)

section Monotone
variable {taint : TaintFlag} (h : LessFavourable f f')
include h

theorem level_inLoop (hlevel : f.grantLevel = .inLoop) : f'.grantLevel = .inLoop := by
  have hrank := h.level
  rw [hlevel] at hrank
  cases hlevel' : f'.grantLevel with
  | inLoop => rfl
  | onLoop => simp [hlevel',autonomyRank] at hrank
  | outOfLoop => simp [hlevel',autonomyRank] at hrank

theorem refused_mono (hrefused : refused call f = true) : refused call f' = true := by
  have hgrant := h.grant
  have herror := h.errorBudget
  have hconfidence := h.confidence
  have hbytes := h.queryBytes
  have hegress := h.queryEgress
  simp only [refused,h.escalation] at hrefused ⊢
  grind

theorem escalated_mono (hescalated : escalated call f = true) : escalated call f' = true := by
  have herror := h.errorBudget
  have hconfidence := h.confidence
  simp only [escalated,h.escalation] at hescalated ⊢
  grind

theorem gated_mono (hgated : gated call f = true) : gated call f' = true := by
  have hlevel := level_inLoop h
  have htrusted := h.trusted
  simp only [gated] at hgated ⊢
  grind

section Taint
variable (htaint : call.taint.tainted = true → taint.tainted = true)
include htaint

theorem held_mono (hheld : held call f = true) : held { call with taint } f' = true := by
  have hlevel := level_inLoop h
  have hcomposed := h.composed
  have hclass := h.harnessClass
  simp only [held,transformable,h.transformOp] at hheld ⊢
  grind

omit htaint in
theorem transformable_mono (htransform : transformable call f = true) :
    held { call with taint } f' = true ∨ transformable { call with taint } f' = true := by
  simp only [held,transformable,h.transformOp] at htransform ⊢
  grind

end Taint

end Monotone

theorem gated_escalated (hgated : gated call f = true) : escalated call f' = false := by
  simp only [gated,escalated] at hgated ⊢
  grind

theorem overtaken_deny (ho : Overtaken call f f') (h : LessFavourable f f') : verdict call f = .deny := by
  obtain ⟨hcap,hrefused,hraised⟩ := ho
  have hfirst : refused call f = false := by
    by_contra hne
    rw [refused_mono h (by simpa using hne)] at hrefused
    cases hrefused
  have hneither : escalated call f = false ∧ gated call f = false := by
    rcases hraised with ⟨hfirst,hsecond⟩ | ⟨hfirst,hsecond⟩
    · refine ⟨hfirst,?_⟩
      by_contra hne
      rw [gated_escalated (by simpa using hne)] at hsecond
      cases hsecond
    · exact ⟨gated_escalated hsecond,hfirst⟩
  simp [verdict,hfirst,hneither,hcap]

theorem overtaken_milder {taint : TaintFlag} (ho : Overtaken call f f') :
    verdict { call with taint } f' = .abstain ∨ verdict { call with taint } f' = .requireApproval := by
  obtain ⟨-,hrefused,hraised⟩ := ho
  have hrefused' : refused { call with taint } f' = false := hrefused
  rcases hraised with ⟨-,hsecond⟩ | ⟨-,hsecond⟩
  · have hsecond' : escalated { call with taint } f' = true := hsecond
    exact .inl (by simp [verdict,hrefused',hsecond'])
  · have hsecond' : gated { call with taint } f' = true := hsecond
    exact .inr (by simp [verdict,hrefused',gated_escalated hsecond',hsecond'])

theorem verdict_mono {taint : TaintFlag} (h : LessFavourable f f') (htaint : call.taint.tainted = true → taint.tainted = true)
    (hnot : ¬ Overtaken call f f') :
    Decision.strictness (verdict call f) ≤ Decision.strictness (verdict { call with taint } f') := by
  have hrefused : refused { call with taint } f' = refused call f' := rfl
  have hescalated : escalated { call with taint } f' = escalated call f' := rfl
  have hgated : gated { call with taint } f' = gated call f' := rfl
  have h₁ : refused call f = true → refused call f' = true := refused_mono h
  have h₂ : escalated call f = true → escalated call f' = true := escalated_mono h
  have h₃ : gated call f = true → gated call f' = true := gated_mono h
  have h₄ := h.capBudget
  have h₅ := held_mono h htaint
  have h₆ : transformable call f = true →
      held { call with taint } f' = true ∨ transformable { call with taint } f' = true := transformable_mono h
  simp only [verdict,hrefused,hescalated,hgated]
  by_cases hr : refused call f = true
  · simp [hr,h₁ hr]
  · by_cases he : escalated call f = true
    · rw [if_neg hr,if_pos he,if_pos (h₂ he)]
      split_ifs <;> decide
    · by_cases hg : gated call f = true
      · rw [if_neg hr,if_neg he,if_pos hg,if_pos (h₃ hg)]
        split_ifs <;> decide
      · by_cases hc : f.capBudgetBreached = true
        · rw [if_neg hr,if_neg he,if_neg hg,if_pos hc,if_pos (h₄ hc)]
          by_cases hr' : refused call f' = true
          · simp [hr']
          · have he' : escalated call f' ≠ true := fun he' => hnot ⟨hc,by simpa using hr',.inl ⟨by simpa using he,he'⟩⟩
            have hg' : gated call f' ≠ true := fun hg' => hnot ⟨hc,by simpa using hr',.inr ⟨by simpa using hg,hg'⟩⟩
            simp [he',hg']
        · rw [if_neg hr,if_neg he,if_neg hg,if_neg hc]
          by_cases hh : held call f = true
          · rw [if_pos hh,if_pos (h₅ hh)]
            split_ifs <;> decide
          · by_cases ht : transformable call f = true
            · rw [if_neg hh,if_pos ht]
              rcases h₆ ht with hheld | htransform
              · rw [if_pos hheld]
                split_ifs <;> decide
              · rw [if_pos htransform]
                split_ifs <;> decide
            · rw [if_neg hh,if_neg ht]
              exact Nat.zero_le _

theorem decide_monotone {taint : TaintFlag} (h : LessFavourable f f') (htaint : call.taint.tainted = true → taint.tainted = true) :
    (Decision.strictness (decide sha256 call f).kind ≤ Decision.strictness (decide sha256 { call with taint } f').kind ↔
      ¬ Overtaken call f f') ∧
      (Overtaken call f f' → (decide sha256 call f).kind = .deny ∧
        ((decide sha256 { call with taint } f').kind = .abstain ∨ (decide sha256 { call with taint } f').kind = .requireApproval)) := by
  rw [kind_decide h.reachable,kind_decide h.reachable']
  refine ⟨⟨fun hle ho => ?_,verdict_mono h htaint⟩,fun ho => ⟨overtaken_deny ho h,overtaken_milder ho⟩⟩
  rw [overtaken_deny ho h] at hle
  rcases overtaken_milder ho with hmilder | hmilder
  · rw [hmilder] at hle
    exact absurd hle (by decide)
  · rw [hmilder] at hle
    exact absurd hle (by decide)

namespace WebSearch

def query : BrokeredCall where
  principal := { agentId := "agent-1", skill := "research", user := "alice", tier := .B }
  tool := "search"
  op := "query"
  args := .obj []
  manifest := { tool := "search", op := "query", effect := .read, external := true }
  taint := { tainted := false, sources := [] }
  session := { turnId := "turn-1", ingestedSources := [] }
  ts := "2026-06-28T00:00:00Z"

def facts (grantLevel : AutonomyLevel) (capBudgetBreached : Bool) : Facts where
  grantPresent := true
  grantLevel := grantLevel
  errorBudgetBreached := false
  capBudgetBreached := capBudgetBreached
  escalationBudgetAvailable := true
  humanReachable := true

theorem demoted (capBudgetBreached : Bool) : LessFavourable (facts .onLoop capBudgetBreached) (facts .inLoop capBudgetBreached) := by
  constructor <;> simp [facts,autonomyRank]

theorem demotion_milder : LessFavourable (facts .onLoop true) (facts .inLoop true) ∧
    Decision.strictness (decide id { query with taint := query.taint } (facts .inLoop true)).kind <
      Decision.strictness (decide id query (facts .onLoop true)).kind :=
  ⟨demoted true,by decide⟩

theorem decide_monotone_query : Decision.strictness (decide id query (facts .onLoop false)).kind ≤
    Decision.strictness (decide id { query with taint := { tainted := true, sources := ["search.query"] } } (facts .inLoop false)).kind := by
  have hfree : ¬ Overtaken query (facts .onLoop false) (facts .inLoop false) := fun ho => nomatch ho.1
  exact (decide_monotone (demoted false) (by simp)).1.mpr hfree

end WebSearch

end Pdp

end SafeAgents
