import SafeAgents.Delegation.Compute

namespace SafeAgents.Delegation

open Calendar Checked

variable {hashFields : SubGrantRecord → String} {parent : ParentAuthority} {i : Issuance} {child : SubGrantRecord}

structure Attenuates (parent : ParentAuthority) (child : SubGrantRecord) (expiry : Int) : Prop where
  level : autonomyRank child.level ≤ autonomyRank parent.level
  classes : ∀ c ∈ child.actionClasses, c ∈ parent.actionClasses
  spend : child.spendCap ≤ parent.remainingSpend
  parsed : parseIso child.expiry = .ok expiry
  expiry : expiry ≤ parent.expiry
  further : child.allowFurtherDelegation = true → parent.allowFurtherDelegation = true

theorem outside_nil {texts allowed : List String} (h : outside texts allowed = []) : ∀ c ∈ texts, c ∈ allowed := by
  intro c hc
  by_contra hnot
  have hmem : c ∈ outside texts allowed := List.mem_filter.mpr ⟨hc,by simpa using hnot⟩
  rw [h] at hmem
  cases hmem

theorem outside_eq_nil {texts allowed : List String} (h : ∀ c ∈ texts, c ∈ allowed) : outside texts allowed = [] := by
  apply List.filter_eq_nil_iff.mpr
  intro c hc
  simpa using h c hc

theorem mem_sortedTexts {texts : List String} {c : String} : c ∈ sortedTexts texts ↔ c ∈ texts :=
  (List.mergeSort_perm texts _).mem_iff

theorem parseIso_isoformat {t : Int} (h : Representable t) : parseIso (isoformat t) = .ok t := by
  simp [parseIso,fromisoformat_isoformat h]

theorem fromtimestamp_representable {seconds : ℚ} {t : Int} (h : fromtimestamp seconds = .ok t) : Representable t := by
  simp only [fromtimestamp] at h
  split at h
  next hrep =>
    cases h
    exact hrep
  · cases h

theorem le_judgedEnd {t skew judged : Int} (h : judgedEnd t skew = .ok judged) : t ≤ judged := by
  cases hend : endJudgedAt t skew with
  | error cause => simp [judgedEnd,hend,Except.mapError] at h
  | ok ended =>
    have hsum : @Eq Int ended (t + skew) := endJudgedAt_ok hend
    have hskew : 0 ≤ skew := by
      by_contra hneg
      have hnegative : skew < 0 := by omega
      simp [endJudgedAt,hnegative] at hend
    have hjudged : @Eq Int ended judged := by simpa [judgedEnd,hend,Except.mapError] using h
    omega

theorem not_forbidden {a b : Bool} (h : ¬ (a = true ∧ b = false)) : a = true → b = true := by
  cases a <;> cases b <;> simp_all

theorem computeSubGrant_ok (h : computeSubGrant hashFields parent i = .ok child) :
    ∃ expiry, child = sealed hashFields (buildSubGrant parent i expiry) ∧ Attenuates parent child expiry := by
  obtain ⟨_,hrest⟩ := then_ok.mp h
  obtain ⟨_,hrest⟩ := then_ok.mp hrest
  obtain ⟨hclasses,hrest⟩ := then_ok.mp hrest
  obtain ⟨hlevel,hrest⟩ := then_ok.mp hrest
  obtain ⟨hspend,hrest⟩ := then_ok.mp hrest
  obtain ⟨expiry,hexpiry,hrest⟩ := bind_ok.mp hrest
  obtain ⟨judged,hjudged,hrest⟩ := bind_ok.mp hrest
  obtain ⟨hend,hrest⟩ := then_ok.mp hrest
  obtain ⟨hfurther,hreturn⟩ := then_ok.mp hrest
  have hchild := (pure_ok.mp hreturn).symm
  simp only [refuseIf_ok,ne_eq,not_not,not_lt] at hclasses hlevel hspend hend
  refine ⟨expiry,hchild,?_⟩
  subst hchild
  have hle := le_judgedEnd hjudged
  constructor
  · exact hlevel
  · intro c hc
    exact outside_nil hclasses c (mem_sortedTexts.mp hc)
  · exact hspend
  · exact parseIso_isoformat (fromtimestamp_representable hexpiry)
  · omega
  · exact not_forbidden (refuseIf_ok.mp hfurther)

theorem assertAttenuates_of_attenuates {expiry : Int} (h : Attenuates parent child expiry) :
    assertAttenuates parent child = .ok () := by
  have hlevel := h.level
  have hspend := h.spend
  have hexpiry := h.expiry
  have hextra := outside_eq_nil h.classes
  have hfurther : ¬ (child.allowFurtherDelegation = true ∧ parent.allowFurtherDelegation = false) := by
    rintro ⟨hchild,hparent⟩
    have hallowed := h.further hchild
    rw [hparent] at hallowed
    cases hallowed
  refine then_ok.mpr ⟨refuseIf_pass (by omega),?_⟩
  refine then_ok.mpr ⟨refuseIf_pass (by simp [hextra]),?_⟩
  refine then_ok.mpr ⟨refuseIf_pass (not_lt.mpr hspend),?_⟩
  refine bind_ok.mpr ⟨expiry,h.parsed,?_⟩
  refine then_ok.mpr ⟨refuseIf_pass (not_lt.mpr hexpiry),?_⟩
  exact refuseIf_pass hfurther

section Chains
variable {root : RootGrant} {ancestors : List SubGrantRecord}

inductive Derived (hashFields : SubGrantRecord → String) (root : RootGrant) : List SubGrantRecord → SubGrantRecord → Prop
  | fromRoot {remaining : ℚ} {parent : ParentAuthority} {i : Issuance} {child : SubGrantRecord}
      (hremaining : remaining ≤ root.spendCap) (hparent : parentFromGrant root remaining = .ok parent)
      (hchild : computeSubGrant hashFields parent i = .ok child) : Derived hashFields root [] child
  | fromSubGrant {ancestors : List SubGrantRecord} {above : SubGrantRecord} {remaining : ℚ} {parent : ParentAuthority}
      {i : Issuance} {child : SubGrantRecord} (habove : Derived hashFields root ancestors above)
      (hremaining : remaining ≤ above.spendCap) (hparent : parentFromSubGrant above remaining = .ok parent)
      (hchild : computeSubGrant hashFields parent i = .ok child) : Derived hashFields root (ancestors ++ [above]) child

structure AtMost (child above : SubGrantRecord) : Prop where
  level : autonomyRank child.level ≤ autonomyRank above.level
  classes : ∀ c ∈ child.actionClasses, c ∈ above.actionClasses
  spend : child.spendCap ≤ above.spendCap
  expiry : ∃ t u, parseIso child.expiry = .ok t ∧ parseIso above.expiry = .ok u ∧ t ≤ u
  further : child.allowFurtherDelegation = true → above.allowFurtherDelegation = true
  treePoolCap : child.treePoolCap = above.treePoolCap

structure AtMostRoot (child : SubGrantRecord) (root : RootGrant) : Prop where
  level : autonomyRank child.level ≤ autonomyRank root.level
  classes : ∀ c ∈ child.actionClasses, c ∈ root.actionClasses
  spend : child.spendCap ≤ root.spendCap
  expiry : ∃ t, parseIso child.expiry = .ok t ∧ t ≤ root.expiry
  further : child.allowFurtherDelegation = true → root.allowFurtherDelegation = true
  treePoolCap : child.treePoolCap = root.treePoolCap

theorem AtMost.trans {a b c : SubGrantRecord} (hab : AtMost a b) (hbc : AtMost b c) : AtMost a c := by
  obtain ⟨t,u,ht,hu,htu⟩ := hab.expiry
  obtain ⟨u',v,hu',hv,huv⟩ := hbc.expiry
  have hsame : u = u' := Except.ok.inj (hu.symm.trans hu')
  subst hsame
  constructor
  · exact Nat.le_trans hab.level hbc.level
  · exact fun x hx => hbc.classes x (hab.classes x hx)
  · exact le_trans hab.spend hbc.spend
  · exact ⟨t,v,ht,hv,Int.le_trans htu huv⟩
  · exact fun hx => hbc.further (hab.further hx)
  · rw [hab.treePoolCap,hbc.treePoolCap]

theorem AtMost.belowRoot {a b : SubGrantRecord} (hab : AtMost a b) (hb : AtMostRoot b root) : AtMostRoot a root := by
  obtain ⟨t,u,ht,hu,htu⟩ := hab.expiry
  obtain ⟨u',hu',hle⟩ := hb.expiry
  have hsame : u = u' := Except.ok.inj (hu.symm.trans hu')
  subst hsame
  constructor
  · exact Nat.le_trans hab.level hb.level
  · exact fun x hx => hb.classes x (hab.classes x hx)
  · exact le_trans hab.spend hb.spend
  · exact ⟨t,ht,Int.le_trans htu hle⟩
  · exact fun hx => hb.further (hab.further hx)
  · rw [hab.treePoolCap,hb.treePoolCap]

theorem parentFromGrant_ok {remaining : ℚ} (h : parentFromGrant root remaining = .ok parent) :
    parent = { id := root.grantId, actionClasses := root.actionClasses, level := root.level, remainingSpend := remaining,
               expiry := root.expiry, treePoolCap := root.treePoolCap,
               allowFurtherDelegation := root.allowFurtherDelegation, delegationChain := [] } := by
  obtain ⟨_,hreturn⟩ := then_ok.mp h
  exact (pure_ok.mp hreturn).symm

theorem parentFromSubGrant_ok {above : SubGrantRecord} {remaining : ℚ} (h : parentFromSubGrant above remaining = .ok parent) :
    ∃ expiry, parseIso above.expiry = .ok expiry ∧
      parent = { id := above.id, actionClasses := above.actionClasses, level := above.level, remainingSpend := remaining, expiry,
                 treePoolCap := above.treePoolCap, allowFurtherDelegation := above.allowFurtherDelegation,
                 delegationChain := above.delegationChain } := by
  obtain ⟨_,hrest⟩ := then_ok.mp h
  obtain ⟨expiry,hexpiry,hreturn⟩ := bind_ok.mp hrest
  exact ⟨expiry,hexpiry,(pure_ok.mp hreturn).symm⟩

theorem child_of_root {remaining : ℚ} (hremaining : remaining ≤ root.spendCap)
    (hparent : parentFromGrant root remaining = .ok parent) (hchild : computeSubGrant hashFields parent i = .ok child) :
    AtMostRoot child root ∧ child.delegationChain = [root.grantId] := by
  obtain ⟨expiry,hbuilt,hatt⟩ := computeSubGrant_ok hchild
  have hp := parentFromGrant_ok hparent
  subst hp
  have hspend : child.spendCap ≤ remaining := hatt.spend
  have hpool : child.treePoolCap = root.treePoolCap := by
    rw [hbuilt]
    rfl
  have hchain : child.delegationChain = [root.grantId] := by
    rw [hbuilt]
    rfl
  exact ⟨⟨hatt.level,hatt.classes,le_trans hspend hremaining,⟨expiry,hatt.parsed,hatt.expiry⟩,hatt.further,hpool⟩,hchain⟩

theorem child_of_subGrant {above : SubGrantRecord} {remaining : ℚ} (hremaining : remaining ≤ above.spendCap)
    (hparent : parentFromSubGrant above remaining = .ok parent) (hchild : computeSubGrant hashFields parent i = .ok child) :
    AtMost child above ∧ child.delegationChain = above.delegationChain ++ [above.id] := by
  obtain ⟨expiry,hbuilt,hatt⟩ := computeSubGrant_ok hchild
  obtain ⟨ends,hends,hp⟩ := parentFromSubGrant_ok hparent
  subst hp
  have hspend : child.spendCap ≤ remaining := hatt.spend
  have hpool : child.treePoolCap = above.treePoolCap := by
    rw [hbuilt]
    rfl
  have hchain : child.delegationChain = above.delegationChain ++ [above.id] := by
    rw [hbuilt]
    rfl
  exact ⟨⟨hatt.level,hatt.classes,le_trans hspend hremaining,⟨expiry,ends,hatt.parsed,hends,hatt.expiry⟩,hatt.further,hpool⟩,
    hchain⟩

theorem derived_bounds (h : Derived hashFields root ancestors child) :
    (∀ above ∈ ancestors, AtMost child above) ∧ AtMostRoot child root ∧
      child.delegationChain = root.grantId :: ancestors.map SubGrantRecord.id := by
  induction h with
  | fromRoot hremaining hparent hchild =>
    obtain ⟨hroot,hchain⟩ := child_of_root hremaining hparent hchild
    exact ⟨by simp,hroot,by simpa using hchain⟩
  | fromSubGrant habove hremaining hparent hchild ih =>
    obtain ⟨hancestors,hroot,hlineage⟩ := ih
    obtain ⟨hlink,hchain⟩ := child_of_subGrant hremaining hparent hchild
    refine ⟨?_,hlink.belowRoot hroot,?_⟩
    · intro a ha
      rcases List.mem_append.mp ha with ha | ha
      · exact hlink.trans (hancestors a ha)
      · rw [List.mem_singleton.mp ha]
        exact hlink
    · rw [hchain,hlineage]
      simp

theorem delegation_only_attenuates :
    (∀ (root : RootGrant) (ancestors : List SubGrantRecord) (child : SubGrantRecord),
      Derived hashFields root ancestors child →
        (∀ above ∈ ancestors, AtMost child above) ∧ AtMostRoot child root ∧
          child.delegationChain = root.grantId :: ancestors.map SubGrantRecord.id) ∧
      ∀ (parent : ParentAuthority) (i : Issuance) (child : SubGrantRecord),
        computeSubGrant hashFields parent i = .ok child → assertAttenuates parent child = .ok () := by
  constructor
  · intro root ancestors child h
    exact derived_bounds h
  · intro parent i child h
    obtain ⟨expiry,_,hatt⟩ := computeSubGrant_ok h
    exact assertAttenuates_of_attenuates hatt

end Chains

def mailRoot : RootGrant where
  grantId := "GRANT#mailer#inbox#sam#B#email.send"
  actionClasses := ["email.send","email.read"]
  level := .onLoop
  spendCap := 10
  expiry := 1772323200000000
  treePoolCap := 5

def triageOp : ToolOp where
  tool := "agents"
  op := "spawn"
  effect := .write
  external := false
  causesContext := some { target := .child { agentId := "triage", skill := "inbox", user := "sam", tier := .B }, horizonSeconds := 3600 }

def triageIssuance : Issuance where
  scope :=
    { subAgentPrincipal := { agentId := "triage", skill := "inbox", user := "sam", tier := .B }
      actionClasses := ["email.send"]
      requestedLevel := .inLoop
      requestedSpendCap := 4
      ttlSeconds := 7 / 2
      allowFurtherDelegation := true }
  causingOp := triageOp
  now := 1767225600000000
  uuid := "sub-1"

def triageRecord : SubGrantRecord where
  id := "sub-1"
  parentGrantId := "GRANT#mailer#inbox#sam#B#email.send"
  delegationChain := ["GRANT#mailer#inbox#sam#B#email.send"]
  principal := { agentId := "triage", skill := "inbox", user := "sam", tier := .B }
  actionClasses := ["email.send"]
  level := .inLoop
  spendCap := 4
  expiry := "2026-01-01T00:00:03.500000+00:00"
  allowFurtherDelegation := true
  treePoolCap := 5
  issuedAt := "2026-01-01T00:00:00+00:00"
  issuedBy := "broker"
  hash := "sub-1"

theorem triage_derived : Derived SubGrantRecord.id mailRoot [] triageRecord := by
  have hremaining : (9 : ℚ) ≤ mailRoot.spendCap := by decide
  have hchild : ∀ parent, parentFromGrant mailRoot 9 = .ok parent →
      computeSubGrant SubGrantRecord.id parent triageIssuance = .ok triageRecord := by
    intro parent hparent
    rw [parentFromGrant_ok hparent]
    decide +kernel
  obtain ⟨parent,hparent⟩ : ∃ parent, parentFromGrant mailRoot 9 = .ok parent := ⟨_,rfl⟩
  exact .fromRoot hremaining hparent (hchild parent hparent)

def triageEnd : Int := 1767225603500000

def triageAuthority : ParentAuthority where
  id := "sub-1"
  actionClasses := ["email.send"]
  level := .inLoop
  remainingSpend := 3
  expiry := triageEnd
  allowFurtherDelegation := true
  treePoolCap := 5
  delegationChain := ["GRANT#mailer#inbox#sam#B#email.send"]

def sorterIssuance : Issuance where
  scope :=
    { subAgentPrincipal := { agentId := "sorter", skill := "inbox", user := "sam", tier := .B }
      actionClasses := ["email.send"]
      requestedLevel := .inLoop
      requestedSpendCap := 1
      ttlSeconds := 1 }
  causingOp := { triageOp with
    causesContext := some { target := .child { agentId := "sorter", skill := "inbox", user := "sam", tier := .B }, horizonSeconds := 60 } }
  now := 1767225601000000
  skew := 1000000
  uuid := "sub-2"

def sorterRecord : SubGrantRecord where
  id := "sub-2"
  parentGrantId := "sub-1"
  delegationChain := ["GRANT#mailer#inbox#sam#B#email.send","sub-1"]
  principal := { agentId := "sorter", skill := "inbox", user := "sam", tier := .B }
  actionClasses := ["email.send"]
  level := .inLoop
  spendCap := 1
  expiry := "2026-01-01T00:00:02+00:00"
  allowFurtherDelegation := false
  treePoolCap := 5
  issuedAt := "2026-01-01T00:00:01+00:00"
  issuedBy := "broker"
  hash := "sub-2"

theorem triage_ends : parseIso triageRecord.expiry = .ok triageEnd := by
  have hexpiry : triageRecord.expiry = isoformat triageEnd := by decide +kernel
  rw [hexpiry]
  exact parseIso_isoformat (by decide)

theorem sorter_issued : computeSubGrant SubGrantRecord.id triageAuthority sorterIssuance = .ok sorterRecord := by
  decide +kernel

theorem sorter_derived : Derived SubGrantRecord.id mailRoot [triageRecord] sorterRecord := by
  have hremaining : (3 : ℚ) ≤ triageRecord.spendCap := by decide
  have hparent : parentFromSubGrant triageRecord 3 = .ok triageAuthority := by
    simp only [parentFromSubGrant,triage_ends]
    rfl
  exact .fromSubGrant triage_derived hremaining hparent sorter_issued

theorem delegation_only_attenuates_triage :
    Derived SubGrantRecord.id mailRoot [triageRecord] sorterRecord ∧ AtMost sorterRecord triageRecord ∧
      AtMostRoot sorterRecord mailRoot ∧ sorterRecord.delegationChain = [mailRoot.grantId,triageRecord.id] ∧
      assertAttenuates triageAuthority sorterRecord = .ok () := by
  have hattenuates := @delegation_only_attenuates SubGrantRecord.id
  obtain ⟨hancestors,hroot,hchain⟩ := hattenuates.1 mailRoot [triageRecord] sorterRecord sorter_derived
  exact ⟨sorter_derived,hancestors triageRecord (List.mem_singleton_self _),hroot,hchain,
    hattenuates.2 triageAuthority sorterIssuance sorterRecord sorter_issued⟩

end SafeAgents.Delegation
