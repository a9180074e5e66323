import SafeAgents.Delegation.Attenuation
import SafeAgents.Delegation.Pool
import SafeAgents.Enforcement.Budget
import SafeAgents.Enforcement.CounterKeys

namespace SafeAgents.Delegation

open Interleaving Enforcement Enforcement.CounterKeys

-- The row as the runtime holds it; the pool never reads the expiry, so a text that does not parse raises nothing here.
def SubGrantRecord.read (r : SubGrantRecord) : SubGrant where
  id := r.id
  delegationChain := r.delegationChain
  principal := r.principal
  treePoolCap := r.treePoolCap
  expiry := (parseIso r.expiry).toOption.getD 0

def matching (rows : List SubGrantRecord) (principal : Principal) : List SubGrantRecord :=
  rows.filter fun r => decide (r.principal = principal)

def getByPrincipal (rows : List SubGrantRecord) (principal : Principal) : Except Exn (Option SubGrant) :=
  match matching rows principal with
  | [] => .ok none
  | [r] => .ok (some r.read)
  | several =>
    .error (.exception ("principal " ++ principal.key ++ " holds " ++ toString several.length ++ " sub-grants (" ++
      ", ".intercalate (sortedTexts (several.map SubGrantRecord.id)) ++
      "); a zone has one derived authority, so which ancestor pool to charge is undefined"))

structure Tree where
  principal : Principal
  grant : RootGrant
  rows : List SubGrantRecord
  caps : Principal → ℚ
  poolPositive : 0 < grant.treePoolCap

namespace Tree
variable (hashFields : SubGrantRecord → String) (T : Tree) (period : CounterPeriod) (now : Instant)

structure Descendant (d : SubGrantRecord) : Prop where
  derived : ∃ ancestors, Derived hashFields T.grant ancestors d
  stored : d ∈ T.rows

def Member (p : Principal) : Prop := p = T.principal ∨ ∃ d, Descendant hashFields T d ∧ d.principal = p

def answers : (o : Op) → Except Exn o.Ret
  | .env (.subGrant principal) => getByPrincipal T.rows principal
  | .env .now => .ok now
  | _ => .error (.exception "")

def draw (principal : Principal) (tool op : String) : Except Exn (Option CounterDraw) :=
  (resolveTreePool true period (T.caps principal) principal tool op).against (T.answers now)

def poolKey (anchor tool op bucket : String) : String :=
  "tree:" ++ anchor ++ ":" ++ (tool ++ "." ++ op) ++ ":" ++ bucket ++ ":" ++ actionCapSuffix

def anchored (anchor : String) (cap : ℚ) (tool op : String) : Except Exn (Option CounterDraw) :=
  (treeCounterKey period anchor tool op actionCapSuffix).against (T.answers now) >>= fun key => .ok (some ⟨key,1,cap⟩)

theorem anchored_ok {anchor : String} {cap : ℚ} {tool op : String} {d : Option CounterDraw} :
    T.anchored period now anchor cap tool op = .ok d ↔
      (':' ∉ anchor.toList ∧ anchor ≠ "") ∧ d = some ⟨poolKey anchor tool op (periodBucketOf now period),1,cap⟩ := by
  have hnow : (env .now).against (T.answers now) = .ok now := Prog.against_call _ _
  simp only [anchored,treeCounterKey,String.contains_char_eq]
  by_cases hcolon : ':' ∈ anchor.toList
  · simp [hcolon,Checked.bind_ok]
  · by_cases hempty : anchor = ""
    · simp [hempty,Checked.bind_ok]
    · simp only [hcolon,hempty,decide_false,Bool.false_eq_true,if_false,Prog.against_bind,currentPeriodBucket,hnow,
        Prog.against_pure,Checked.bind_ok,Except.ok.injEq,exists_eq_left',not_false_eq_true,and_self,true_and,poolKey,ne_eq]
      exact eq_comm

inductive Resolves (actionClass : String) (p : Principal) : String → ℚ → Prop
  | root {id : String} (hrow : matching T.rows p = []) (hid : rootGrantId p actionClass = .ok id) :
      Resolves actionClass p id (T.caps p)
  | row {r : SubGrantRecord} {id : String} {rest : List String} (hrow : matching T.rows p = [r])
      (hchain : r.delegationChain = id :: rest) : Resolves actionClass p id r.treePoolCap

variable {T}

theorem anchorOf_read {p : Principal} {tool op anchor : String} {cap : ℚ} :
    (∃ found, getByPrincipal T.rows p = .ok found ∧ anchorOf p tool op (T.caps p) found = .ok (anchor,cap)) ↔
      T.Resolves (tool ++ "." ++ op) p anchor cap := by
  unfold getByPrincipal
  constructor
  · rintro ⟨found,hfound,hanchor⟩
    split at hfound
    · next hrow =>
      cases hfound
      cases hid : rootGrantId p (tool ++ "." ++ op) with
      | error e => simp [anchorOf,hid,Except.map] at hanchor
      | ok id =>
        simp only [anchorOf,hid,Except.map,Except.ok.injEq,Prod.mk.injEq] at hanchor
        obtain ⟨rfl,rfl⟩ := hanchor
        exact .root hrow hid
    · next r hrow =>
      cases hfound
      simp only [anchorOf,SubGrantRecord.read] at hanchor
      cases hchain : r.delegationChain with
      | nil => simp [hchain] at hanchor
      | cons id rest =>
        simp only [hchain,Except.ok.injEq,Prod.mk.injEq] at hanchor
        obtain ⟨rfl,rfl⟩ := hanchor
        exact .row hrow hchain
    · cases hfound
  · rintro (⟨hrow,hid⟩ | ⟨hrow,hchain⟩)
    · exact ⟨none,by rw [hrow],by simp [anchorOf,hid,Except.map]⟩
    · exact ⟨some _,by rw [hrow],by simp [anchorOf,SubGrantRecord.read,hchain]⟩

theorem draw_ok {p : Principal} {tool op : String} {d : Option CounterDraw} :
    T.draw period now p tool op = .ok d ↔ ∃ anchor cap, T.Resolves (tool ++ "." ++ op) p anchor cap ∧
      (':' ∉ anchor.toList ∧ anchor ≠ "") ∧ d = some ⟨poolKey anchor tool op (periodBucketOf now period),1,cap⟩ := by
  have hread : (env (.subGrant p)).against (T.answers now) = getByPrincipal T.rows p := Prog.against_call _ _
  have hdraw : T.draw period now p tool op = getByPrincipal T.rows p >>= fun found =>
      anchorOf p tool op (T.caps p) found >>= fun pair => T.anchored period now pair.1 pair.2 tool op := by
    simp only [draw,resolveTreePool,if_true,Prog.against_bind,Prog.against_finish,Prog.against_pure,hread]
    rfl
  simp only [hdraw,Checked.bind_ok,anchored_ok]
  constructor
  · rintro ⟨found,hfound,⟨anchor,cap⟩,hanchor,hkey⟩
    exact ⟨anchor,cap,anchorOf_read.mp ⟨found,hfound,hanchor⟩,hkey⟩
  · rintro ⟨anchor,cap,hresolves,hkey⟩
    obtain ⟨found,hfound,hanchor⟩ := anchorOf_read.mpr hresolves
    exact ⟨found,hfound,(anchor,cap),hanchor,hkey⟩

variable {hashFields}

theorem Descendant.chain {d : SubGrantRecord} (h : Descendant hashFields T d) :
    ∃ rest, d.delegationChain = T.grant.grantId :: rest ∧ d.treePoolCap = T.grant.treePoolCap := by
  obtain ⟨ancestors,hderived⟩ := h.derived
  obtain ⟨-,hroot,hchain⟩ := derived_bounds hderived
  exact ⟨_,hchain,hroot.treePoolCap⟩

theorem Descendant.mem_matching {d : SubGrantRecord} (h : Descendant hashFields T d) : d ∈ matching T.rows d.principal :=
  List.mem_filter.mpr ⟨h.stored,by simp⟩

theorem Descendant.resolves_iff {d : SubGrantRecord} (h : Descendant hashFields T d) {actionClass anchor : String} {cap : ℚ} :
    T.Resolves actionClass d.principal anchor cap ↔
      matching T.rows d.principal = [d] ∧ anchor = T.grant.grantId ∧ cap = T.grant.treePoolCap := by
  obtain ⟨rest,hchain,hcap⟩ := h.chain
  have hmem := h.mem_matching
  constructor
  · rintro (⟨hrow,hid⟩ | ⟨hrow,hrchain⟩)
    · rw [hrow] at hmem
      cases hmem
    · rw [hrow,List.mem_singleton] at hmem
      subst hmem
      rw [hchain] at hrchain
      exact ⟨hrow,(List.cons.inj hrchain).1.symm,hcap⟩
  · rintro ⟨hrow,rfl,rfl⟩
    exact hcap ▸ .row hrow hchain

theorem poolKey_toList (anchor tool op bucket : String) :
    (poolKey anchor tool op bucket).toList = "tree:".toList ++ (anchor.toList ++
      ':' :: ((tool ++ "." ++ op).toList ++ ':' :: (bucket.toList ++ ':' :: actionCapSuffix.toList))) := by
  have hcolon : ":".toList = [':'] := rfl
  simp only [poolKey,String.toList_append,hcolon,List.append_assoc,List.cons_append,List.nil_append]

theorem poolKey_injective {anchor anchor' tool op bucket : String}
    (h : poolKey anchor tool op bucket = poolKey anchor' tool op bucket) : anchor = anchor' := by
  apply String.toList_injective
  have hlists := congrArg String.toList h
  rw [poolKey_toList,poolKey_toList] at hlists
  exact List.append_cancel_right (List.append_cancel_left hlists)

theorem rootGrantId_ok {principal : Principal} {actionClass id : String} (h : rootGrantId principal actionClass = .ok id) :
    '#' ∉ actionClass.toList ∧ id = "GRANT#" ++ principal.key ++ "#" ++ actionClass := by
  simp only [rootGrantId] at h
  split at h
  · cases h
  · split at h
    · cases h
    next hhash =>
      cases h
      exact ⟨by simpa [String.contains_char_eq] using hhash,rfl⟩

variable (hashFields T)

structure AnchoredAt (tool op id : String) : Prop where
  root : ∃ cap, T.Resolves (tool ++ "." ++ op) T.principal id cap
  plain : ':' ∉ id.toList ∧ id ≠ ""
  below : ∀ d, Descendant hashFields T d → matching T.rows d.principal = [d] ∧ T.grant.grantId = id

def Anchored (tool op : String) : Prop := ∃ id, AnchoredAt hashFields T tool op id

def Apart (tool op id : String) : Prop :=
  ('#' ∉ (tool ++ "." ++ op).toList ∧ ∃ p actionClass, rootGrantId p actionClass = .ok id ∧ '.' ∈ actionClass.toList) ∨
    ∀ p, Member hashFields T p → ¬ "tree:".toList <+: p.agentId.toList

structure BoundedAt (tool op id : String) : Prop where
  anchored : AnchoredAt hashFields T tool op id
  rootCap : ∀ cap, T.Resolves (tool ++ "." ++ op) T.principal id cap → (⌊cap⌋ : ℚ) ≤ T.grant.treePoolCap
  apart : Apart hashFields T tool op id

def SharesPool (tool op : String) : Prop :=
  ∀ period now, ∃ key, ∀ p, Member hashFields T p → ∃ cap, T.draw period now p tool op = .ok (some ⟨key,1,cap⟩)

variable {hashFields T}

theorem AnchoredAt.resolves {tool op id : String} (h : AnchoredAt hashFields T tool op id) {p : Principal}
    (hp : Member hashFields T p) : ∃ cap, T.Resolves (tool ++ "." ++ op) p id cap := by
  rcases hp with rfl | ⟨d,hd,rfl⟩
  · exact h.root
  · obtain ⟨hrow,hid⟩ := h.below d hd
    exact ⟨_,hd.resolves_iff.mpr ⟨hrow,hid.symm,rfl⟩⟩

theorem AnchoredAt.draw {tool op id : String} (h : AnchoredAt hashFields T tool op id) {p : Principal}
    (hp : Member hashFields T p) :
    ∃ cap, T.draw period now p tool op = .ok (some ⟨poolKey id tool op (periodBucketOf now period),1,cap⟩) := by
  obtain ⟨cap,hcap⟩ := h.resolves hp
  exact ⟨cap,(draw_ok period now).mpr ⟨id,cap,hcap,h.plain,rfl⟩⟩

theorem sharesPool_iff (tool op : String) : SharesPool hashFields T tool op ↔ Anchored hashFields T tool op := by
  constructor
  · intro h
    obtain ⟨key,hkey⟩ := h .utcDay 0
    have anchor {p : Principal} (hp : Member hashFields T p) : ∃ id cap, T.Resolves (tool ++ "." ++ op) p id cap ∧
        (':' ∉ id.toList ∧ id ≠ "") ∧ key = poolKey id tool op (periodBucketOf 0 .utcDay) := by
      obtain ⟨cap,hdraw⟩ := hkey p hp
      obtain ⟨id,cap',hresolves,hplain,hd⟩ := (draw_ok .utcDay 0).mp hdraw
      cases hd
      exact ⟨id,cap,hresolves,hplain,rfl⟩
    obtain ⟨id,cap,hroot,hplain,hid⟩ := anchor (.inl rfl)
    refine ⟨id,⟨cap,hroot⟩,hplain,fun d hd => ?_⟩
    obtain ⟨id',cap',hresolves,-,hid'⟩ := anchor (.inr ⟨d,hd,rfl⟩)
    obtain ⟨hrow,rfl,-⟩ := hd.resolves_iff.mp hresolves
    exact ⟨hrow,poolKey_injective (hid'.symm.trans hid)⟩
  · rintro ⟨id,hid⟩ period now
    exact ⟨poolKey id tool op (periodBucketOf now period),fun p hp => hid.draw period now hp⟩

theorem bucket_no_hash : '#' ∉ (periodBucketOf now period).toList := by
  have hdigits : ∀ w n, '#' ∉ (Calendar.padded w n).toList := by
    intro w n hmem
    rw [Calendar.padded_toList] at hmem
    exact absurd (Lexical.allDigits_fixedWidth w n.toNat _ hmem) (by decide)
  have htee : '#' ∉ "T".toList := by decide
  cases period with
  | utcDay => simp only [periodBucketOf,String.toList_append,List.mem_append,hdigits,or_self,not_false_eq_true]
  | utcHour => simp only [periodBucketOf,String.toList_append,List.mem_append,hdigits,htee,or_self,not_false_eq_true]

theorem no_tier_mark {front text after : List Char} {t : Tier} (hcolon : ':' ∉ front ++ '#' :: text) (hhash : '#' ∉ text)
    (hdot : '.' ∈ text) (hafter : '#' ∉ after) (before tail : List Char) :
    (front ++ '#' :: text) ++ ':' :: after ≠ before ++ '#' :: tierChar t :: ':' :: tail := by
  intro heq
  rcases List.append_eq_append_iff.mp heq with ⟨more,hbefore,hmore⟩ | ⟨more,hid,hmore⟩
  · cases more with
    | nil => simp at hmore
    | cons c more =>
      simp only [List.cons_append,List.cons.injEq] at hmore
      exact hafter (by rw [hmore.2]; simp)
  · match more with
    | [] => simp at hmore
    | [c] =>
      simp only [List.cons_append,List.nil_append,List.cons.injEq] at hmore
      exact (tierChar_ne t).2 hmore.2.1
    | [c,d] =>
      simp only [List.cons_append,List.nil_append,List.cons.injEq] at hmore
      obtain ⟨rfl,rfl,-⟩ := hmore
      have hsingle : '#' ∉ [tierChar t] := by simpa using (tierChar_ne t).1.symm
      obtain ⟨-,htext⟩ := Lexical.lastCut_unique hhash hsingle hid
      rw [htext] at hdot
      cases t <;> simp [tierChar] at hdot
    | c :: d :: e :: more =>
      simp only [List.cons_append,List.cons.injEq] at hmore
      apply hcolon
      rw [hid,← hmore.2.2.1]
      simp

theorem own_ne_grantPoolKey {tool op id actionClass : String} {root : Principal} (hid : rootGrantId root actionClass = .ok id)
    (hdot : '.' ∈ actionClass.toList) (hclass : '#' ∉ (tool ++ "." ++ op).toList) (hcolon : ':' ∉ id.toList)
    (p : Principal) (tool' op' bucket' suffix : String) :
    scopedCounterKey p tool' op' bucket' suffix ≠ poolKey id tool op (periodBucketOf now period) := by
  intro heq
  obtain ⟨hhash,rfl⟩ := rootGrantId_ok hid
  have hmark : "#".toList = ['#'] := rfl
  have hafter : '#' ∉ (tool ++ "." ++ op).toList ++ ':' :: ((periodBucketOf now period).toList ++ ':' :: actionCapSuffix.toList) := by
    have hsuffix : '#' ∉ actionCapSuffix.toList := by decide
    simp only [List.mem_append,List.mem_cons,hclass,bucket_no_hash period now,hsuffix]
    decide
  have hanchor : ("GRANT#" ++ root.key ++ "#" ++ actionClass).toList =
      ("GRANT#" ++ root.key).toList ++ '#' :: actionClass.toList := by
    rw [String.toList_append,String.toList_append (s := "GRANT#" ++ root.key),hmark,List.append_assoc,List.singleton_append]
  have hkeys := congrArg String.toList heq
  rw [key_scopedCounterKey,key_toList,poolKey_toList,scope,List.append_assoc] at hkeys
  rcases List.append_eq_append_iff.mp hkeys with ⟨more,htree,-⟩ | ⟨more,hnames,hrest⟩
  · have hmem : '#' ∈ "tree:".toList := by
      rw [htree]
      simp [names]
    exact absurd hmem (by decide)
  · rw [hanchor] at hcolon hrest
    exact no_tier_mark hcolon hhash hdot hafter more _ hrest

theorem own_ne_treeKey {tool op id : String} {p : Principal} (hagent : ¬ "tree:".toList <+: p.agentId.toList)
    (tool' op' bucket' suffix bucket : String) :
    scopedCounterKey p tool' op' bucket' suffix ≠ poolKey id tool op bucket := by
  intro heq
  have hkeys := congrArg String.toList heq
  rw [key_scopedCounterKey,key_toList,poolKey_toList,scope,names] at hkeys
  simp only [List.append_assoc,List.cons_append] at hkeys
  rcases List.append_eq_append_iff.mp hkeys with ⟨more,htree,hrest⟩ | ⟨more,hname,-⟩
  · cases more with
    | nil => exact hagent ⟨[],by rw [htree,List.append_nil,List.append_nil]⟩
    | cons c more =>
      rw [List.cons_append,List.cons.injEq] at hrest
      have hmem : '#' ∈ "tree:".toList := by
        rw [htree,← hrest.1]
        simp
      exact absurd hmem (by decide)
  · exact hagent ⟨more,hname.symm⟩

theorem own_ne_poolKey {tool op id : String} (hid : AnchoredAt hashFields T tool op id) (hapart : Apart hashFields T tool op id)
    {p : Principal} (hp : Member hashFields T p) (tool' op' bucket' suffix : String) :
    scopedCounterKey p tool' op' bucket' suffix ≠ poolKey id tool op (periodBucketOf now period) := by
  rcases hapart with ⟨hclass,root,actionClass,hroot,hdot⟩ | hagents
  · exact own_ne_grantPoolKey period now hroot hdot hclass hid.plain.1 p tool' op' bucket' suffix
  · exact own_ne_treeKey (hagents p hp) tool' op' bucket' suffix _

section Runs
variable {ι : Type}

structure PoolCall (hashFields : SubGrantRecord → String) (T : Tree) (period : CounterPeriod) (drawnAt : Instant) (q : Request) :
    Prop where
  member : Member hashFields T q.call.principal
  own : ∃ bucket, q.counterKey = scopedCounterKey q.call.principal q.call.tool q.call.op bucket actionCapSuffix
  drawn : ∃ draw, T.draw period drawnAt q.call.principal q.call.tool q.call.op = .ok draw ∧ q.ancestorDraws = draw.toList

def Executes (callers : ι → Caller) (drawnAt : ι → Instant) (period : CounterPeriod) (tool op bucket : String)
    (e : Event ι Op Op.Ret Exn) : Bool :=
  decide ((callers e.thread).request.call.tool = tool ∧ (callers e.thread).request.call.op = op ∧
    periodBucketOf (drawnAt e.thread) period = bucket) && isExecutor e.op

def executions (callers : ι → Caller) (drawnAt : ι → Instant) (period : CounterPeriod) (tool op bucket : String)
    (tr : Trace ι) : Nat := tr.countP (Executes callers drawnAt period tool op bucket)

variable {callers : ι → Caller} {drawnAt : ι → Instant} {tool op id : String}

theorem Resolves.cap_unique {actionClass actionClass' : String} {p : Principal} {anchor anchor' : String} {cap cap' : ℚ}
    (h : T.Resolves actionClass p anchor cap) (h' : T.Resolves actionClass' p anchor' cap') : cap = cap' := by
  cases h with
  | root hrow hid =>
    cases h' with
    | root => rfl
    | row hrow' hchain => simp [hrow] at hrow'
  | row hrow hchain =>
    cases h' with
    | root hrow' hid => simp [hrow] at hrow'
    | row hrow' hchain' =>
      rw [hrow] at hrow'
      rw [(List.cons.inj hrow').1]

theorem draw_bounds {rootCap : ℚ} {actionClass anchor : String} (hroot : T.Resolves actionClass T.principal anchor rootCap)
    {tool op : String} {at_ : Instant} {p : Principal} (hp : Member hashFields T p) {draw : CounterDraw}
    (h : T.draw period at_ p tool op = .ok (some draw)) :
    draw.delta = 1 ∧ draw.cap ≤ max rootCap T.grant.treePoolCap := by
  obtain ⟨id,cap,hresolves,-,hdraw⟩ := (draw_ok period at_).mp h
  cases hdraw
  refine ⟨rfl,?_⟩
  rcases hp with rfl | ⟨d,hd,rfl⟩
  · exact le_max_of_le_left (hresolves.cap_unique hroot).le
  · exact le_max_of_le_right (hd.resolves_iff.mp hresolves).2.2.le

theorem unitDraws_member {rootCap : ℚ} (hid : AnchoredAt hashFields T tool op id) (hapart : Apart hashFields T tool op id)
    (hroot : T.Resolves (tool ++ "." ++ op) T.principal id rootCap) {at_ : Instant} {q : Request}
    (h : PoolCall hashFields T period at_ q) :
    Budget.UnitDraws (some (poolKey id tool op (periodBucketOf now period))) (max rootCap T.grant.treePoolCap) q := by
  obtain ⟨bucket,hown⟩ := h.own
  obtain ⟨draw,hdraw,hancestors⟩ := h.drawn
  constructor
  · intro hkey
    rw [hown] at hkey
    exact absurd (Option.some.inj hkey) (own_ne_poolKey period now hid hapart h.member _ _ _ _)
  · intro d hd _
    rw [hancestors,Option.mem_toList] at hd
    subst hd
    exact draw_bounds period hroot h.member hdraw

theorem charges_member (hid : AnchoredAt hashFields T tool op id) {at_ : Instant} {q : Request}
    (h : PoolCall hashFields T period at_ q) (htool : q.call.tool = tool) (hop : q.call.op = op) :
    Budget.Charges (some (poolKey id tool op (periodBucketOf at_ period))) q := by
  obtain ⟨draw,hdraw,hancestors⟩ := h.drawn
  obtain ⟨cap,hmember⟩ := hid.draw period at_ h.member
  rw [htool,hop,hmember] at hdraw
  cases hdraw
  right
  rw [hancestors]
  simp

theorem executions_bounded [DecidableEq ι] {B : Substrate} {s : State} {tr : Trace ι} {pool : Pool ι}
    (hbound : BoundedAt hashFields T tool op id) (hcalls : ∀ i, PoolCall hashFields T period (drawnAt i) (callers i).request)
    (hstart : ∀ draw, T.draw period now T.principal tool op = .ok (some draw) → Budget.value s draw.key = 0)
    (hrun : Run B.device anyStep (startPool callers s) tr pool) :
    (executions callers drawnAt period tool op (periodBucketOf now period) tr : ℚ) ≤ T.grant.treePoolCap := by
  have hid := hbound.anchored
  obtain ⟨rootCap,hroot⟩ := hid.root
  have hunit := fun i => unitDraws_member period now hid hbound.apart hroot (hcalls i)
  have hfresh : Budget.value s (poolKey id tool op (periodBucketOf now period)) = 0 := by
    obtain ⟨cap,hdraw⟩ := hid.draw period now (.inl rfl)
    exact hstart _ hdraw
  have hroom : Budget.value s (poolKey id tool op (periodBucketOf now period)) ≤ max rootCap T.grant.treePoolCap := by
    rw [hfresh]
    exact le_max_of_le_right T.poolPositive.le
  have hcharged := (Budget.capped_counter hunit hroom hrun).2
  have hcounted : executions callers drawnAt period tool op (periodBucketOf now period) tr ≤
      Budget.chargedRuns callers (poolKey id tool op (periodBucketOf now period)) tr := by
    apply List.countP_mono_left
    intro e _ he
    simp only [Executes,Bool.and_eq_true,decide_eq_true_eq] at he
    obtain ⟨⟨htool,hop,hbucket⟩,hexec⟩ := he
    have hcharges := charges_member period hid (hcalls e.thread) htool hop
    rw [hbucket] at hcharges
    simp [hcharges,hexec]
  have hmax : (executions callers drawnAt period tool op (periodBucketOf now period) tr : ℚ) ≤ max rootCap T.grant.treePoolCap := by
    have hcast : (executions callers drawnAt period tool op (periodBucketOf now period) tr : ℚ) ≤
        Budget.chargedRuns callers (poolKey id tool op (periodBucketOf now period)) tr := by exact_mod_cast hcounted
    rw [hfresh,sub_zero] at hcharged
    exact le_trans hcast hcharged
  rcases le_max_iff.mp hmax with hown | htree
  · -- a count is whole, so the root's own cap only matters up to its floor
    have hfloor : ((executions callers drawnAt period tool op (periodBucketOf now period) tr : Int)) ≤ ⌊rootCap⌋ :=
      Int.le_floor.mpr (by exact_mod_cast hown)
    have hcastFloor : (executions callers drawnAt period tool op (periodBucketOf now period) tr : ℚ) ≤ ⌊rootCap⌋ := by
      exact_mod_cast hfloor
    exact le_trans hcastFloor (hbound.rootCap rootCap hroot)
  · exact htree

end Runs

theorem tree_shares_one_pool (hashFields : SubGrantRecord → String) (T : Tree) (tool op : String) :
    (SharesPool hashFields T tool op ↔ Anchored hashFields T tool op) ∧
      ∀ id, BoundedAt hashFields T tool op id →
        ∀ {ι : Type} [DecidableEq ι] (B : Substrate) (callers : ι → Caller) (drawnAt : ι → Instant) (period : CounterPeriod)
          (now : Instant) (s : State) (tr : Trace ι) (pool : Pool ι),
          (∀ i, PoolCall hashFields T period (drawnAt i) (callers i).request) →
          (∀ draw, T.draw period now T.principal tool op = .ok (some draw) → Budget.value s draw.key = 0) →
          Run B.device anyStep (startPool callers s) tr pool →
          (executions callers drawnAt period tool op (periodBucketOf now period) tr : ℚ) ≤ T.grant.treePoolCap := by
  refine ⟨sharesPool_iff tool op,?_⟩
  intro id hbound ι _ B callers drawnAt period now s tr pool hcalls hstart hrun
  exact executions_bounded period now hbound hcalls hstart hrun

end Tree

def mailerPrincipal : Principal := { agentId := "mailer", skill := "inbox", user := "sam", tier := .B }

def pairRoot : RootGrant := { mailRoot with treePoolCap := 1 }

def pairIssuance : Issuance :=
  { triageIssuance with scope := { triageIssuance.scope with actionClasses := ["email.read","email.send"] } }

def pairRecord : SubGrantRecord := { triageRecord with actionClasses := ["email.read","email.send"], treePoolCap := 1 }

def pairTree : Tree where
  principal := mailerPrincipal
  grant := pairRoot
  rows := [pairRecord]
  caps _ := 1
  poolPositive := by decide

theorem pairRecord_issued {parent : ParentAuthority} (h : parentFromGrant pairRoot 9 = .ok parent) :
    computeSubGrant SubGrantRecord.id parent pairIssuance = .ok pairRecord := by
  have hsorted : sortedTexts pairIssuance.scope.actionClasses = ["email.read","email.send"] := by
    apply List.mergeSort_of_pairwise
    decide
  have hbuilt : sealed SubGrantRecord.id (buildSubGrant parent pairIssuance 1767225603500000) = pairRecord := by
    rw [parentFromGrant_ok h]
    simp only [sealed,buildSubGrant,hsorted]
    decide
  simp only [computeSubGrant,Checked.bind_ok,Checked.pure_ok,Checked.refuseIf_ok,exists_const]
  rw [parentFromGrant_ok h] at hbuilt ⊢
  refine ⟨(),by decide +kernel,by decide,by decide +kernel,by decide,by decide +kernel,1767225603500000,by decide +kernel,
    1767225603500000,by decide,by decide,by decide,hbuilt⟩

theorem pairRecord_descendant : Tree.Descendant SubGrantRecord.id pairTree pairRecord := by
  have hremaining : (9 : ℚ) ≤ pairRoot.spendCap := by decide
  obtain ⟨parent,hparent⟩ : ∃ parent, parentFromGrant pairRoot 9 = .ok parent := ⟨_,rfl⟩
  exact ⟨⟨[],.fromRoot hremaining hparent (pairRecord_issued hparent)⟩,by decide⟩

def memberCall (principal : Principal) (op anchor : String) : Caller where
  request := {
    call := { ledgerCall with principal, tool := "email", op }
    initialDecision := .allow
    idempotencyKey := none
    counterKey := scopedCounterKey principal "email" op "19700101" actionCapSuffix
    counterDelta := 1
    counterCap := 1
    ancestorDraws := [⟨Tree.poolKey anchor "email" op (periodBucketOf 0 .utcDay),1,1⟩] }

def pairCallers (op : String) : Bool → Caller
  | true => memberCall mailerPrincipal op ("GRANT#mailer#inbox#sam#B#email." ++ op)
  | false => memberCall pairRecord.principal op "GRANT#mailer#inbox#sam#B#email.send"

theorem rootGrantId_mailer {op : String} (h : '#' ∉ ("email" ++ "." ++ op).toList) :
    rootGrantId mailerPrincipal ("email" ++ "." ++ op) = .ok ("GRANT#mailer#inbox#sam#B#email." ++ op) := by
  have hne : "email" ++ "." ++ op ≠ "" := by
    intro hempty
    have hlen := congrArg (fun s : String => s.toList.length) hempty
    simp at hlen
  have hkey : "GRANT#" ++ mailerPrincipal.key ++ "#" ++ ("email" ++ "." ++ op) = "GRANT#mailer#inbox#sam#B#email." ++ op := by
    rw [← String.append_assoc]
    congr 1
  simp only [rootGrantId,hne,if_false,String.contains_char_eq,h,decide_false,Bool.false_eq_true,hkey]

theorem mailer_resolves {op : String} (h : '#' ∉ ("email" ++ "." ++ op).toList) :
    pairTree.Resolves ("email" ++ "." ++ op) mailerPrincipal ("GRANT#mailer#inbox#sam#B#email." ++ op) 1 :=
  .root (by decide) (rootGrantId_mailer h)

theorem pairCallers_poolCall {op : String} (hhash : '#' ∉ ("email" ++ "." ++ op).toList)
    (hcolon : ':' ∉ ("GRANT#mailer#inbox#sam#B#email." ++ op).toList) (i : Bool) :
    Tree.PoolCall SubGrantRecord.id pairTree .utcDay 0 (pairCallers op i).request := by
  have hne : "GRANT#mailer#inbox#sam#B#email." ++ op ≠ "" := by
    intro hempty
    have hlen := congrArg (fun s : String => s.toList.length) hempty
    simp at hlen
  cases i with
  | true =>
    refine ⟨.inl rfl,⟨"19700101",rfl⟩,some _,?_,rfl⟩
    exact (Tree.draw_ok .utcDay 0).mpr ⟨_,_,mailer_resolves hhash,⟨hcolon,hne⟩,rfl⟩
  | false =>
    refine ⟨.inr ⟨pairRecord,pairRecord_descendant,rfl⟩,⟨"19700101",rfl⟩,some _,?_,rfl⟩
    have hrow : pairTree.Resolves ("email" ++ "." ++ op) pairRecord.principal pairRoot.grantId 1 :=
      pairRecord_descendant.resolves_iff.mpr ⟨by decide,rfl,rfl⟩
    exact (Tree.draw_ok .utcDay 0).mpr ⟨_,_,hrow,by decide,rfl⟩

def pairRun (op : String) : Trace Bool × Pool Bool :=
  play memory.device (turns true 8 ++ turns false 8) (startPool (pairCallers op) emptyState)

theorem split_pool_runs_twice :
    ¬ Tree.SharesPool SubGrantRecord.id pairTree "email" "read" ∧
      (∀ i, Tree.PoolCall SubGrantRecord.id pairTree .utcDay 0 (pairCallers "read" i).request) ∧
      Run memory.device anyStep (startPool (pairCallers "read") emptyState) (pairRun "read").1 (pairRun "read").2 ∧
      Tree.executions (pairCallers "read") (fun _ => 0) .utcDay "email" "read" "19700101" (pairRun "read").1 = 2 ∧
      pairTree.grant.treePoolCap = 1 := by
  have hid := rootGrantId_mailer (by decide : '#' ∉ ("email" ++ "." ++ "read").toList)
  refine ⟨?_,pairCallers_poolCall (by decide) (by decide),play_run _ _,by decide +kernel,rfl⟩
  intro hshared
  obtain ⟨id,hanchored⟩ := (Tree.sharesPool_iff "email" "read").mp hshared
  have hsame : pairTree.grant.grantId = id := (hanchored.below pairRecord pairRecord_descendant).2
  obtain ⟨cap,hroot⟩ := hanchored.root
  cases hroot with
  | root hrow hroot =>
    have hother : id = "GRANT#mailer#inbox#sam#B#email." ++ "read" := Except.ok.inj (hroot.symm.trans hid)
    rw [hother] at hsame
    exact absurd hsame (by decide)
  | row hrow hchain =>
    have hnone : matching pairTree.rows pairTree.principal = [] := by decide
    rw [hnone] at hrow
    cases hrow

theorem tree_shares_one_pool_send :
    Tree.SharesPool SubGrantRecord.id pairTree "email" "send" ∧
      Tree.executions (pairCallers "send") (fun _ => 0) .utcDay "email" "send" "19700101" (pairRun "send").1 = 1 ∧
      (Tree.executions (pairCallers "send") (fun _ => 0) .utcDay "email" "send" (periodBucketOf 0 .utcDay) (pairRun "send").1 : ℚ) ≤ 1 := by
  have hhash : '#' ∉ ("email" ++ "." ++ "send").toList := by decide
  have hid := rootGrantId_mailer hhash
  have hresolves := mailer_resolves hhash
  have hanchored : Tree.AnchoredAt SubGrantRecord.id pairTree "email" "send" "GRANT#mailer#inbox#sam#B#email.send" := by
    refine ⟨⟨1,hresolves⟩,by decide,fun d hd => ?_⟩
    have hd' : d = pairRecord := List.mem_singleton.mp hd.stored
    subst hd'
    exact ⟨by decide,rfl⟩
  have hbound : Tree.BoundedAt SubGrantRecord.id pairTree "email" "send" "GRANT#mailer#inbox#sam#B#email.send" := by
    refine ⟨hanchored,fun cap hcap => ?_,.inl ⟨hhash,_,_,hid,by decide⟩⟩
    rw [hcap.cap_unique hresolves]
    decide
  have main := Tree.tree_shares_one_pool SubGrantRecord.id pairTree "email" "send"
  refine ⟨main.1.mpr ⟨_,hanchored⟩,by decide +kernel,?_⟩
  apply main.2 _ hbound memory (pairCallers "send") (fun _ => 0) .utcDay 0 emptyState _ _
    (pairCallers_poolCall hhash (by decide)) ?_ (play_run _ _)
  intro draw _
  rfl

end SafeAgents.Delegation
