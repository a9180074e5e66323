import SafeAgents.Mcp.AdmissionRatchet
import Mathlib.Data.Fin.VecNotation

namespace SafeAgents.Mcp

open Calendar Checked Grants Json Wire Interleaving

section Buckets

def Buckets.bucket (b : Buckets) : Fin 4 → List RatifyCandidate := ![b.steering,b.contract,b.metadata,b.cosmetic]

variable {candidates l : List RatifyCandidate} {c : RatifyCandidate}

theorem inBucket_iff (hnames : (candidates.map RatifyCandidate.toolName).Nodup) (hc : c ∈ candidates) (hsub : l ⊆ candidates) :
    inBucket l c = true ↔ c ∈ l := by
  rw [inBucket,List.any_eq_true]
  constructor
  · rintro ⟨d,hd,hname⟩
    have hsame : d = c := List.inj_on_of_nodup_map hnames (hsub hd) hc (eq_of_beq hname)
    exact hsame ▸ hd
  · intro hmem
    exact ⟨c,hmem,beq_self_eq_true _⟩

theorem mem_steering : c ∈ (bucketsOf candidates).steering ↔ c ∈ candidates ∧ c.diff.descriptionChanged = true := List.mem_filter

theorem mem_contract : c ∈ (bucketsOf candidates).contract ↔ c ∈ candidates ∧
    (!inBucket (bucketsOf candidates).steering c && schemaMoved c) = true := List.mem_filter

theorem mem_metadata : c ∈ (bucketsOf candidates).metadata ↔ c ∈ candidates ∧
    (!inBucket (bucketsOf candidates).steering c && !inBucket (bucketsOf candidates).contract c && !(metadataMoved c).isEmpty) = true :=
  List.mem_filter

theorem mem_cosmetic : c ∈ (bucketsOf candidates).cosmetic ↔ c ∈ candidates ∧
    (!inBucket (bucketsOf candidates).steering c && !inBucket (bucketsOf candidates).contract c &&
      !inBucket (bucketsOf candidates).metadata c) = true := List.mem_filter

section Distinct
variable (hnames : (candidates.map RatifyCandidate.toolName).Nodup) (hc : c ∈ candidates)
include hnames hc

theorem inSteering : inBucket (bucketsOf candidates).steering c = c.diff.descriptionChanged := by
  rw [Bool.eq_iff_iff,inBucket_iff hnames hc (fun d hd => (mem_steering.mp hd).1),mem_steering]
  exact and_iff_right hc

theorem contract_iff : c ∈ (bucketsOf candidates).contract ↔ c.diff.descriptionChanged = false ∧ schemaMoved c = true := by
  rw [mem_contract,inSteering hnames hc]
  simp [hc]

theorem inContract : inBucket (bucketsOf candidates).contract c = (!c.diff.descriptionChanged && schemaMoved c) := by
  rw [Bool.eq_iff_iff,inBucket_iff hnames hc (fun d hd => (mem_contract.mp hd).1),contract_iff hnames hc]
  simp

theorem metadata_iff : c ∈ (bucketsOf candidates).metadata ↔
    c.diff.descriptionChanged = false ∧ schemaMoved c = false ∧ (metadataMoved c).isEmpty = false := by
  rw [mem_metadata,inSteering hnames hc,inContract hnames hc]
  cases c.diff.descriptionChanged <;> simp [hc]

theorem inMetadata : inBucket (bucketsOf candidates).metadata c =
    (!c.diff.descriptionChanged && !schemaMoved c && !(metadataMoved c).isEmpty) := by
  rw [Bool.eq_iff_iff,inBucket_iff hnames hc (fun d hd => (mem_metadata.mp hd).1),metadata_iff hnames hc]
  simp [and_assoc]

theorem cosmetic_iff : c ∈ (bucketsOf candidates).cosmetic ↔
    c.diff.descriptionChanged = false ∧ schemaMoved c = false ∧ (metadataMoved c).isEmpty = true := by
  rw [mem_cosmetic,inSteering hnames hc,inContract hnames hc,inMetadata hnames hc]
  cases c.diff.descriptionChanged <;> cases schemaMoved c <;> simp [hc]

theorem one_bucket : ∃! k, c ∈ (bucketsOf candidates).bucket k := by
  have hsteering : c ∈ (bucketsOf candidates).bucket 0 ↔ c.diff.descriptionChanged = true := by
    exact mem_steering.trans (and_iff_right hc)
  have hcontract : c ∈ (bucketsOf candidates).bucket 1 ↔ _ := contract_iff hnames hc
  have hmetadata : c ∈ (bucketsOf candidates).bucket 2 ↔ _ := metadata_iff hnames hc
  have hcosmetic : c ∈ (bucketsOf candidates).bucket 3 ↔ _ := cosmetic_iff hnames hc
  have hall : ∀ k : Fin 4, k = 0 ∨ k = 1 ∨ k = 2 ∨ k = 3 := by decide
  cases hd : c.diff.descriptionChanged with
  | true =>
    refine ⟨0,hsteering.mpr hd,fun k hk => ?_⟩
    rcases hall k with rfl | rfl | rfl | rfl <;> simp_all
  | false =>
    cases hs : schemaMoved c with
    | true =>
      refine ⟨1,hcontract.mpr ⟨hd,hs⟩,fun k hk => ?_⟩
      rcases hall k with rfl | rfl | rfl | rfl <;> simp_all
    | false =>
      cases hm : (metadataMoved c).isEmpty with
      | false =>
        refine ⟨2,hmetadata.mpr ⟨hd,hs,hm⟩,fun k hk => ?_⟩
        rcases hall k with rfl | rfl | rfl | rfl <;> simp_all
      | true =>
        refine ⟨3,hcosmetic.mpr ⟨hd,hs,hm⟩,fun k hk => ?_⟩
        rcases hall k with rfl | rfl | rfl | rfl <;> simp_all

end Distinct

theorem bucketLines_mem (printable : Char → Bool) (h : c ∈ l) : c.diff.rendered printable ∈ bucketLines printable l := by
  rw [bucketLines,if_neg (by simpa using List.ne_nil_of_mem h)]
  exact List.mem_map_of_mem h

theorem gateLines_mem (printable : Char → Bool) (b : Buckets) (h : c ∈ b.steering ∨ c ∈ b.contract ∨ c ∈ b.metadata) :
    c.diff.rendered printable ∈ gateLines printable b := by
  simp only [gateLines,List.mem_append]
  rcases h with h | h | h
  · have hmem := bucketLines_mem printable h
    tauto
  · have hmem := bucketLines_mem printable h
    tauto
  · have hmem := bucketLines_mem printable h
    tauto

end Buckets

section Review
variable {sha256 hmac : String → String} {backend : RecordBackend} {printable : Char → Bool}

theorem descriptionChanged_iff (hinjective : Function.Injective sha256) {row : ToolRow} {p : McpAdmissionProposal}
    {toolName : String} {diff : ToolDiffResult} (hrow : Binds sha256 row.toolDef row.defHash) (hp : Binds sha256 p.toolDef p.defHash)
    (hdiff : renderToolDiff printable toolName (some row) (some { toolDef := p.toolDef, defHash := p.defHash }) .stdio none = .ok diff) :
    diff.descriptionChanged = true ↔ row.toolDef.description ≠ p.toolDef.description := by
  rw [renderToolDiff] at hdiff
  by_cases hhash : row.defHash = p.defHash
  · rw [if_pos hhash] at hdiff
    cases hdiff
    have hsame : (⟨row.toolDef,hrow.admitted⟩ : ToolDefinition) = ⟨p.toolDef,hp.admitted⟩ :=
      computeToolDefHash_injective hinjective (hrow.hash.symm.trans (hhash.trans hp.hash))
    have hdef : row.toolDef = p.toolDef := congrArg ToolDefinition.toMcpToolDef hsame
    simp [hdef]
  · rw [if_neg hhash] at hdiff
    obtain ⟨⟨input,disclosureEscalation⟩,-,hdiff⟩ := Checked.bind_ok.mp hdiff
    obtain ⟨output,-,hdiff⟩ := Checked.bind_ok.mp hdiff
    cases hdiff
    exact decide_eq_true_iff

structure Covered (printable : Char → Bool) (args : BulkRatifyArgs) (candidates : List RatifyCandidate) (c : RatifyCandidate)
    (earlier : List Seen) : Prop where
  unacknowledged : c.toolName ∉ args.acknowledgeDescriptionChange → ∀ stored, c.existing.tool = some stored →
    stored.toolDef.description = c.proposal.toolDef.description
  rendered : ∀ stored, c.existing.tool = some stored →
    (stored.toolDef.description ≠ c.proposal.toolDef.description ∨ schemaMoved c = true ∨ metadataMoved c ≠ []) →
    ⟨.print (c.diff.rendered printable),.ok ()⟩ ∈ earlier
  counted : ⟨.print ("=== 4. Other coordinates (first admissions / re-hash churn): " ++
    toString (bucketsOf candidates).cosmetic.length ++ " === "),.ok ()⟩ ∈ earlier
  placed : ∀ d ∈ candidates, ∃! k, d ∈ (bucketsOf candidates).bucket k

theorem Reviewed.covered (hinjective : Function.Injective sha256) {args : BulkRatifyArgs} {a : Ratification}
    {candidates : List RatifyCandidate} {c : RatifyCandidate} {earlier : List Seen} (h : Reviewed printable args a candidates c earlier)
    (hp : Binds sha256 c.proposal.toolDef c.proposal.defHash)
    (hrow : ∀ row, c.existing.tool = some row → Binds sha256 row.toolDef row.defHash) :
    Covered printable args candidates c earlier := by
  have hchanged : ∀ stored, c.existing.tool = some stored →
      (c.diff.descriptionChanged = true ↔ stored.toolDef.description ≠ c.proposal.toolDef.description) := by
    intro stored hstored
    have hdiff := h.diff
    rw [hstored] at hdiff
    exact descriptionChanged_iff hinjective (hrow stored hstored) hp hdiff
  have hshown : c ∈ (bucketsOf candidates).steering ∨ c ∈ (bucketsOf candidates).contract ∨ c ∈ (bucketsOf candidates).metadata →
      ⟨.print (c.diff.rendered printable),.ok ()⟩ ∈ earlier := fun hplace => h.printed _ (gateLines_mem printable _ hplace)
  refine ⟨?_,?_,h.printed _ (by simp [gateLines]),fun d hd => one_bucket h.names hd⟩
  · intro hnot stored hstored
    by_contra hne
    exact hnot (h.acknowledged ((hchanged stored hstored).mpr hne))
  · intro stored hstored hmoved
    refine hshown ?_
    rw [mem_steering,contract_iff h.names h.member,metadata_iff h.names h.member]
    cases hd : c.diff.descriptionChanged with
    | true => exact .inl ⟨h.member,rfl⟩
    | false =>
      cases hs : schemaMoved c with
      | true => exact .inr (.inl ⟨rfl,rfl⟩)
      | false =>
        have hmeta : metadataMoved c ≠ [] := by
          rcases hmoved with hmoved | hmoved | hmoved
          · rw [(hchanged stored hstored).mpr hmoved] at hd
            cases hd
          · rw [hs] at hmoved
            cases hmoved
          · exact hmoved
        exact .inr (.inr ⟨rfl,rfl,by simpa using hmeta⟩)

variable {ι : Type} [DecidableEq ι] {ageMinutes : ℚ → String} {cmds : ι → Command} {s : AdmissionStore}
  {c c' : Config ι AdmissionOp AdmissionOp.Ret CeremonyError AdmissionStore Nat}
  {tr : List (Event ι AdmissionOp AdmissionOp.Ret CeremonyError)}

end Review

namespace QuoteRegistry

def repeated : McpAdmissionProposal := proposal "2" "Latest quotes."

def unchanged : RatifyCandidate where
  toolName := "get"
  proposal := repeated
  existing := admitted
  diff := { toolName := "get", kind := .unchanged, lines := [.header "get",.unchanged repeated.defHash] }

end QuoteRegistry

end SafeAgents.Mcp
