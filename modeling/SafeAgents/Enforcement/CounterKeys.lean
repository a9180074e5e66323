import SafeAgents.Delegation.Pool
import SafeAgents.Enforcement.Budget
import SafeAgents.Runtime.Observed
import SafeAgents.Text.Lex

namespace SafeAgents

open Interleaving

namespace Enforcement.CounterKeys

def falseActionSuffix : String := "false_action"

def counterSuffixes : List String :=
  [observationsSuffix,falseActionSuffix,humanOverrideSuffix,errorBudgetSuffix,queryBytesSuffix,actionCapSuffix,approvalSuffix]

structure Coordinate where
  principal : Principal
  toolOp : String
  bucket : String
  suffix : String
  deriving DecidableEq

def Coordinate.key (c : Coordinate) : String :=
  c.principal.key ++ ":" ++ c.toolOp ++ ":" ++ c.bucket ++ ":" ++ c.suffix

theorem key_scopedCounterKey (principal : Principal) (tool op bucket suffix : String) :
    scopedCounterKey principal tool op bucket suffix = Coordinate.key ⟨principal,tool ++ "." ++ op,bucket,suffix⟩ := rfl

def manifestAdmits (tool op : String) : Prop := tool = "harness-tool" → (Runtime.parseCoordinateOp op).isOk = true

def AdmitsToolOp (text : String) : Prop := ∃ tool op, text = tool ++ "." ++ op ∧ manifestAdmits tool op

section Keys
variable (unicodeDigit : Char → Bool)

-- str.isdigit also accepts digits outside ASCII.
def isdigit (c : Char) : Bool := c.isDigit || decide (127 < c.toNat) && unicodeDigit c

def validateBucket (bucket : String) : CounterPeriod → Bool
  | .utcDay => bucket.toList.length = 8 && bucket.toList.all (isdigit unicodeDigit)
  | .utcHour =>
    bucket.toList.length = 11 && bucket.toList[8]? = some 'T' &&
      (bucket.toList.take 8 ++ bucket.toList.drop 9).all (isdigit unicodeDigit)

structure Admissible (c : Coordinate) : Prop where
  toolOp : AdmitsToolOp c.toolOp
  bucket : ∃ period, validateBucket unicodeDigit c.bucket period = true
  suffix : c.suffix ∈ counterSuffixes

structure TreeKey (key : String) (root toolOp bucket suffix : String) : Prop where
  key : key = "tree:" ++ root ++ ":" ++ toolOp ++ ":" ++ bucket ++ ":" ++ suffix
  root : root ≠ "" ∧ ':' ∉ root.toList
  toolOp : AdmitsToolOp toolOp
  bucket : ∃ period, validateBucket unicodeDigit bucket period = true
  suffix : suffix ∈ counterSuffixes

def IsTreeKey (key : String) : Prop := ∃ root toolOp bucket suffix, TreeKey unicodeDigit key root toolOp bucket suffix

end Keys

theorem suffix_no_colon {suffix : String} (h : suffix ∈ counterSuffixes) : ':' ∉ suffix.toList := by
  revert suffix
  decide

theorem isdigit_colon (unicodeDigit : Char → Bool) : isdigit unicodeDigit ':' = false := by
  simp [isdigit]

theorem bucket_no_colon {unicodeDigit : Char → Bool} {bucket : String} {period : CounterPeriod}
    (h : validateBucket unicodeDigit bucket period = true) : ':' ∉ bucket.toList := by
  intro hmem
  cases period with
  | utcDay =>
    simp only [validateBucket,Bool.and_eq_true] at h
    have hdigit := List.all_eq_true.mp h.2 ':' hmem
    rw [isdigit_colon] at hdigit
    cases hdigit
  | utcHour =>
    simp only [validateBucket,Bool.and_eq_true,decide_eq_true_eq] at h
    obtain ⟨⟨hlen,htee⟩,hall⟩ := h
    have hsplit : bucket.toList = bucket.toList.take 8 ++ 'T' :: bucket.toList.drop 9 := by
      have hnine := List.take_append_drop 8 bucket.toList
      have hhead : bucket.toList.drop 8 = 'T' :: bucket.toList.drop 9 := by
        rw [List.drop_eq_getElem_cons (by omega)]
        have hget : bucket.toList[8] = 'T' := by
          rw [List.getElem?_eq_getElem (by omega)] at htee
          simpa using htee
        rw [hget]
      rw [← hhead,hnine]
    rw [hsplit] at hmem
    have hother : ':' ∈ bucket.toList.take 8 ++ bucket.toList.drop 9 := by simpa using hmem
    have hdigit := List.all_eq_true.mp hall ':' hother
    rw [isdigit_colon] at hdigit
    cases hdigit

def tierChar : Tier → Char
  | .A => 'A'
  | .B => 'B'
  | .C => 'C'
  | .D => 'D'

theorem tier_toList (t : Tier) : t.text.toList = [tierChar t] := by cases t <;> rfl

theorem tierChar_ne (t : Tier) : tierChar t ≠ '#' ∧ tierChar t ≠ ':' := by cases t <;> decide

theorem tierChar_injective {t u : Tier} (h : tierChar t = tierChar u) : t = u := by
  revert h
  cases t <;> cases u <;> decide

def names (p : Principal) : List Char := p.agentId.toList ++ '#' :: (p.skill.toList ++ '#' :: p.user.toList)

def scope (p : Principal) (toolOp : String) : List Char := names p ++ '#' :: tierChar p.tier :: ':' :: toolOp.toList

theorem key_toList (c : Coordinate) :
    c.key.toList = scope c.principal c.toolOp ++ ':' :: (c.bucket.toList ++ ':' :: c.suffix.toList) := by
  have hhash : "#".toList = ['#'] := rfl
  have hcolon : ":".toList = [':'] := rfl
  simp only [Coordinate.key,Principal.key,String.toList_append,tier_toList,hhash,hcolon,scope,names,List.append_assoc,
    List.cons_append,List.nil_append]

section Split
variable {unicodeDigit : Char → Bool}

theorem tail_unique {x y : List Char} {b b' f f' : String} (hb : ∃ period, validateBucket unicodeDigit b period = true)
    (hb' : ∃ period, validateBucket unicodeDigit b' period = true) (hf : ':' ∉ f.toList) (hf' : ':' ∉ f'.toList)
    (h : x ++ ':' :: (b.toList ++ ':' :: f.toList) = y ++ ':' :: (b'.toList ++ ':' :: f'.toList)) :
    x = y ∧ b = b' ∧ f = f' := by
  obtain ⟨_,hbucket⟩ := hb
  obtain ⟨_,hbucket'⟩ := hb'
  have houter : (x ++ ':' :: b.toList) ++ ':' :: f.toList = (y ++ ':' :: b'.toList) ++ ':' :: f'.toList := by
    simpa using h
  obtain ⟨hinner,hsuffix⟩ := Lexical.lastCut_unique hf hf' houter
  obtain ⟨hxy,hbb⟩ := Lexical.lastCut_unique (bucket_no_colon hbucket) (bucket_no_colon hbucket') hinner
  exact ⟨hxy,String.toList_injective hbb,String.toList_injective hsuffix⟩

end Split

def Marked (toolOp : String) : Prop :=
  ∃ y tier rest, toolOp.toList = y ++ '#' :: tierChar tier :: ':' :: String.toList rest ∧ AdmitsToolOp rest

def Plain (p : Principal) : Prop := '#' ∉ p.agentId.toList ∧ '#' ∉ p.skill.toList ∧ '#' ∉ p.user.toList

def TreeLike (p : Principal) : Prop := ∃ rest, p.agentId.toList = "tree:".toList ++ rest ∧ rest.head? ≠ some ':'

structure Separated (c : Coordinate) : Prop where
  plain : Plain c.principal
  unmarked : ¬ Marked c.toolOp
  outsideTree : ¬ TreeLike c.principal

theorem count_names (p : Principal) :
    (names p).count '#' = p.agentId.toList.count '#' + p.skill.toList.count '#' + p.user.toList.count '#' + 2 := by
  simp only [names,List.count_append,List.count_cons_self]
  omega

theorem count_names_plain {p : Principal} (h : Plain p) : (names p).count '#' = 2 := by
  rw [count_names,List.count_eq_zero.mpr h.1,List.count_eq_zero.mpr h.2.1,List.count_eq_zero.mpr h.2.2]

theorem plain_of_count {p : Principal} (h : (names p).count '#' = 2) : Plain p := by
  rw [count_names] at h
  exact ⟨List.count_eq_zero.mp (by omega),List.count_eq_zero.mp (by omega),List.count_eq_zero.mp (by omega)⟩

theorem marked_of_later {p q : Principal} {x y : String} (hy : AdmitsToolOp y)
    (hcount : (names p).count '#' < (names q).count '#') (h : scope p x = scope q y) : Marked x := by
  obtain ⟨c,hne,_,htail⟩ := Lexical.cut_later hcount h
  obtain ⟨htier,_⟩ := tierChar_ne p.tier
  cases c with
  | nil => exact absurd rfl hne
  | cons d c =>
    simp only [List.cons_append,List.cons.injEq] at htail
    obtain ⟨_,htail⟩ := htail
    cases c with
    | nil =>
      simp only [List.nil_append,List.cons.injEq] at htail
      exact absurd htail.1 htier
    | cons e c =>
      simp only [List.cons_append,List.cons.injEq] at htail
      obtain ⟨_,htail⟩ := htail
      cases c with
      | nil =>
        simp only [List.nil_append,List.cons.injEq] at htail
        exact absurd htail.1 (by decide)
      | cons f c =>
        simp only [List.cons_append,List.cons.injEq] at htail
        exact ⟨c,q.tier,y,htail.2,hy⟩

theorem scope_unique {p q : Principal} {x y : String} (hp : Plain p) (hq : Plain q) (h : scope p x = scope q y) :
    p = q ∧ x = y := by
  simp only [scope,names,List.append_assoc,List.cons_append] at h
  obtain ⟨hagent,h⟩ := Lexical.cut_unique hp.1 hq.1 h
  obtain ⟨hskill,h⟩ := Lexical.cut_unique hp.2.1 hq.2.1 h
  obtain ⟨huser,h⟩ := Lexical.cut_unique hp.2.2 hq.2.2 h
  simp only [List.cons.injEq,true_and] at h
  have htier := tierChar_injective h.1
  have hagent' := String.toList_injective hagent
  have hskill' := String.toList_injective hskill
  have huser' := String.toList_injective huser
  refine ⟨?_,String.toList_injective h.2⟩
  cases p
  cases q
  simp_all

section Isolation
variable {unicodeDigit : Char → Bool} {c : Coordinate}

theorem key_injective_at (hc : Admissible unicodeDigit c) (hsep : Separated c) {d : Coordinate}
    (hd : Admissible unicodeDigit d) (h : d.key = c.key) : d = c := by
  have hlists := congrArg String.toList h
  rw [key_toList,key_toList] at hlists
  obtain ⟨hscope,hbucket,hsuffix⟩ := tail_unique hd.bucket hc.bucket (suffix_no_colon hd.suffix) (suffix_no_colon hc.suffix) hlists
  have hplain : Plain d.principal := by
    apply plain_of_count
    have hlow : 2 ≤ (names d.principal).count '#' := by
      rw [count_names]
      omega
    have hcount := count_names_plain hsep.plain
    by_contra hne
    exact hsep.unmarked (marked_of_later hd.toolOp (by omega) hscope.symm)
  obtain ⟨hprincipal,htoolOp⟩ := scope_unique hplain hsep.plain hscope
  cases c
  cases d
  simp_all

theorem treeLike_of_tree {root toolOp : String} {p : Principal} {x : String} (hroot : root ≠ "" ∧ ':' ∉ root.toList)
    (h : "tree:".toList ++ (root.toList ++ ':' :: toolOp.toList) = scope p x) : TreeLike p := by
  have hhash : '#' ∉ "tree:".toList := by decide
  rw [scope,names,List.append_assoc] at h
  rcases List.append_eq_append_iff.mp h with ⟨rest,hagent,hrest⟩ | ⟨rest,htree,hrest⟩
  · refine ⟨rest,hagent,?_⟩
    intro hhead
    cases hr : root.toList with
    | nil => exact hroot.1 (String.toList_injective (by rw [hr]; rfl))
    | cons d l =>
      have hd : d ∈ root.toList := by simp [hr]
      cases rest with
      | nil => simp at hhead
      | cons e rest =>
        rw [hr] at hrest
        simp only [List.cons_append,List.cons.injEq] at hrest
        have hcolon : e = ':' := by simpa using hhead
        rw [hrest.1,hcolon] at hd
        exact hroot.2 hd
  · cases rest with
    | nil => exact ⟨[],by simpa using htree.symm,by simp⟩
    | cons e rest =>
      simp only [List.cons_append,List.cons.injEq] at hrest
      exact absurd (by rw [htree,← hrest.1]; simp) hhash

theorem not_treeKey (hc : Admissible unicodeDigit c) (hsep : Separated c) : ¬ IsTreeKey unicodeDigit c.key := by
  rintro ⟨root,toolOp,bucket,suffix,htree⟩
  have hlists := congrArg String.toList htree.key
  have hprefix : "tree:".toList = ['t','r','e','e',':'] := rfl
  have hcolon : ":".toList = [':'] := rfl
  rw [key_toList] at hlists
  simp only [String.toList_append,hcolon,List.append_assoc,List.cons_append,List.nil_append] at hlists
  have hgrouped : scope c.principal c.toolOp ++ ':' :: (c.bucket.toList ++ ':' :: c.suffix.toList) =
      ("tree:".toList ++ (root.toList ++ ':' :: toolOp.toList)) ++ ':' :: (bucket.toList ++ ':' :: suffix.toList) := by
    simpa using hlists
  obtain ⟨hscope,_,_⟩ := tail_unique hc.bucket htree.bucket (suffix_no_colon hc.suffix) (suffix_no_colon htree.suffix) hgrouped
  exact hsep.outsideTree (treeLike_of_tree htree.root hscope.symm)

def Unique (unicodeDigit : Char → Bool) (c : Coordinate) : Prop :=
  ∀ d, Admissible unicodeDigit d → d.key = c.key → d = c

theorem key_eq_of_scope {d : Coordinate} (h : scope d.principal d.toolOp = scope c.principal c.toolOp)
    (hbucket : d.bucket = c.bucket) (hsuffix : d.suffix = c.suffix) : d.key = c.key := by
  apply String.toList_injective
  rw [key_toList,key_toList,h,hbucket,hsuffix]

theorem split_at_hash {s : String} (h : '#' ∈ s.toList) : ∃ x y : String, s.toList = x.toList ++ '#' :: y.toList := by
  obtain ⟨x,y,hxy⟩ := List.append_of_mem h
  exact ⟨String.ofList x,String.ofList y,by simpa using hxy⟩

theorem toList_join (x y : String) : (x ++ "#" ++ y).toList = x.toList ++ '#' :: y.toList := by
  have hhash : "#".toList = ['#'] := rfl
  simp only [String.toList_append,hhash,List.append_assoc,List.cons_append,List.nil_append]

theorem plain_of_unique (hc : Admissible unicodeDigit c) (h : Unique unicodeDigit c) : Plain c.principal := by
  have hmoved : ∀ p : Principal, names p = names c.principal → p.tier = c.principal.tier → p = c.principal := by
    intro p hnames htier
    have hscope : scope p c.toolOp = scope c.principal c.toolOp := by rw [scope,scope,hnames,htier]
    have hd := h { c with principal := p } ⟨hc.toolOp,hc.bucket,hc.suffix⟩ (key_eq_of_scope hscope rfl rfl)
    exact congrArg Coordinate.principal hd
  refine ⟨?_,?_,?_⟩
  · intro hmem
    obtain ⟨x,y,hxy⟩ := split_at_hash hmem
    have hsame := hmoved { c.principal with agentId := x, skill := y ++ "#" ++ c.principal.skill }
      (by simp only [names,toList_join,hxy,List.append_assoc,List.cons_append]) rfl
    have hagent : x.toList = c.principal.agentId.toList := by rw [← hsame]
    have hlen := congrArg List.length hagent
    rw [hxy] at hlen
    simp at hlen
  · intro hmem
    obtain ⟨x,y,hxy⟩ := split_at_hash hmem
    have hsame := hmoved { c.principal with agentId := c.principal.agentId ++ "#" ++ x, skill := y }
      (by simp only [names,toList_join,hxy,List.append_assoc,List.cons_append]) rfl
    have hskill : y.toList = c.principal.skill.toList := by rw [← hsame]
    have hlen := congrArg List.length hskill
    rw [hxy] at hlen
    simp at hlen
    omega
  · intro hmem
    obtain ⟨x,y,hxy⟩ := split_at_hash hmem
    have hsame := hmoved { c.principal with skill := c.principal.skill ++ "#" ++ x, user := y }
      (by simp only [names,toList_join,hxy,List.append_assoc,List.cons_append]) rfl
    have huser : y.toList = c.principal.user.toList := by rw [← hsame]
    have hlen := congrArg List.length huser
    rw [hxy] at hlen
    simp at hlen
    omega

theorem unmarked_of_unique (hc : Admissible unicodeDigit c) (h : Unique unicodeDigit c) : ¬ Marked c.toolOp := by
  rintro ⟨y,tier,rest,hmark,hrest⟩
  let user := String.ofList (c.principal.user.toList ++ '#' :: tierChar c.principal.tier :: ':' :: y)
  have huser : user.toList = c.principal.user.toList ++ '#' :: tierChar c.principal.tier :: ':' :: y := by simp [user]
  have hscope : scope { c.principal with user, tier } rest = scope c.principal c.toolOp := by
    simp only [scope,names,huser,hmark,List.append_assoc,List.cons_append]
  have hsame := h { c with principal := { c.principal with user, tier }, toolOp := rest } ⟨hrest,hc.bucket,hc.suffix⟩
    (key_eq_of_scope hscope rfl rfl)
  have hlen := congrArg (fun d : Coordinate => d.principal.user.toList.length) hsame
  simp [huser] at hlen

theorem toolOp_extended {x : String} (h : AdmitsToolOp x) (before : List Char) :
    AdmitsToolOp (String.ofList (before ++ ':' :: x.toList)) := by
  obtain ⟨tool,op,rfl,_⟩ := h
  have hdot : ".".toList = ['.'] := rfl
  refine ⟨String.ofList (before ++ ':' :: tool.toList),op,?_,?_⟩
  · apply String.toList_injective
    simp only [String.toList_append,String.toList_ofList,hdot,List.append_assoc,List.cons_append,List.nil_append]
  · intro hharness
    have hcolon : ':' ∈ "harness-tool".toList := by
      rw [← hharness,String.toList_ofList]
      simp
    exact absurd hcolon (by decide)

theorem isTreeKey_of_split (hc : Admissible unicodeDigit c) {root toolOp : String} (hroot : root ≠ "" ∧ ':' ∉ root.toList)
    (htoolOp : AdmitsToolOp toolOp)
    (h : scope c.principal c.toolOp = "tree:".toList ++ (root.toList ++ ':' :: toolOp.toList)) :
    IsTreeKey unicodeDigit c.key := by
  refine ⟨root,toolOp,c.bucket,c.suffix,?_,hroot,htoolOp,hc.bucket,hc.suffix⟩
  have hcolon : ":".toList = [':'] := rfl
  apply String.toList_injective
  rw [key_toList,h]
  simp only [String.toList_append,hcolon,List.append_assoc,List.cons_append,List.nil_append]

theorem outsideTree_of_disjoint (hc : Admissible unicodeDigit c) (h : ¬ IsTreeKey unicodeDigit c.key) :
    ¬ TreeLike c.principal := by
  rintro ⟨rest,hagent,hhead⟩
  let segment := rest ++ '#' :: (c.principal.skill.toList ++ '#' :: (c.principal.user.toList ++ '#' :: [tierChar c.principal.tier]))
  have hscope : scope c.principal c.toolOp = "tree:".toList ++ (segment ++ ':' :: c.toolOp.toList) := by
    simp only [scope,names,hagent,segment,List.append_assoc,List.cons_append,List.nil_append]
  by_cases hcolon : ':' ∈ segment
  · obtain ⟨before,after,hsplit,hfirst⟩ := List.eq_append_cons_of_mem hcolon
    have hbefore : before ≠ [] := by
      rintro rfl
      have hfront : segment.head? = some ':' := by rw [hsplit]; rfl
      cases rest with
      | nil => simp [segment] at hfront
      | cons e rest => exact hhead (by simpa [segment] using hfront)
    apply h
    refine isTreeKey_of_split hc (?_ : String.ofList before ≠ "" ∧ ':' ∉ (String.ofList before).toList)
      (toolOp_extended hc.toolOp after) ?_
    · constructor
      · intro hempty
        exact hbefore (by simpa using congrArg String.toList hempty)
      · simpa using hfirst
    · rw [hscope,hsplit]
      simp
  · apply h
    refine isTreeKey_of_split hc (?_ : String.ofList segment ≠ "" ∧ ':' ∉ (String.ofList segment).toList) hc.toolOp ?_
    · constructor
      · intro hempty
        have hnil : segment = [] := by simpa using congrArg String.toList hempty
        simp [segment] at hnil
      · simpa using hcolon
    · rw [hscope]
      simp

structure Isolated (unicodeDigit : Char → Bool) (c : Coordinate) : Prop where
  unique : Unique unicodeDigit c
  outsideTree : ¬ IsTreeKey unicodeDigit c.key
  untouched : ∀ {ι : Type} [DecidableEq ι] (B : Substrate) (callers : ι → Caller) (s : State) (tr : Trace ι) (pool : Pool ι),
    (∀ i key, Budget.Charges (some key) (callers i).request →
      IsTreeKey unicodeDigit key ∨ ∃ d, Admissible unicodeDigit d ∧ d ≠ c ∧ key = d.key) →
    Run B.device anyStep (startPool callers s) tr pool → Budget.value pool.state c.key = Budget.value s c.key
  contained : ∀ {ι : Type} [DecidableEq ι] (B : Substrate) (callers : ι → Caller) (s : State) (tr : Trace ι) (pool : Pool ι) (key : String),
    (∀ i drawn, Budget.Charges (some drawn) (callers i).request → drawn = c.key) →
    (IsTreeKey unicodeDigit key ∨ ∃ d, Admissible unicodeDigit d ∧ d ≠ c ∧ key = d.key) →
    Run B.device anyStep (startPool callers s) tr pool → Budget.value pool.state key = Budget.value s key

theorem ne_key_of_other (hunique : Unique unicodeDigit c) (hoff : ¬ IsTreeKey unicodeDigit c.key) {key : String}
    (h : IsTreeKey unicodeDigit key ∨ ∃ d, Admissible unicodeDigit d ∧ d ≠ c ∧ key = d.key) : key ≠ c.key := by
  rintro rfl
  rcases h with htree | ⟨d,hd,hne,hkey⟩
  · exact hoff htree
  · exact hne (hunique d hd hkey.symm)

theorem counter_key_isolated_iff (hc : Admissible unicodeDigit c) : Isolated unicodeDigit c ↔ Separated c := by
  constructor
  · intro h
    exact ⟨plain_of_unique hc h.unique,unmarked_of_unique hc h.unique,outsideTree_of_disjoint hc h.outsideTree⟩
  · intro hsep
    have hunique : Unique unicodeDigit c := fun d hd hkey => key_injective_at hc hsep hd hkey
    have hoff := not_treeKey hc hsep
    refine ⟨hunique,hoff,?_,?_⟩
    · intro ι _ B callers s tr pool hdraws hrun
      apply Budget.counter_untouched _ hrun
      intro i hcharged
      exact ne_key_of_other hunique hoff (hdraws i _ hcharged) rfl
    · intro ι _ B callers s tr pool key hdraws hother hrun
      apply Budget.counter_untouched _ hrun
      intro i hcharged
      exact ne_key_of_other hunique hoff hother (hdraws i _ hcharged)

end Isolation

def sendAt (agentId skill : String) : Coordinate where
  principal := { agentId, skill, user := "sam", tier := .B }
  toolOp := "email.send"
  bucket := "20260101"
  suffix := "counter"

theorem sendAt_admissible (agentId skill : String) : Admissible (fun _ => false) (sendAt agentId skill) := by
  have hbucket : validateBucket (fun _ => false) "20260101" .utcDay = true := by decide
  have hsuffix : "counter" ∈ counterSuffixes := by decide
  refine ⟨⟨"email","send",rfl,?_⟩,⟨.utcDay,hbucket⟩,hsuffix⟩
  intro hharness
  exact absurd hharness (by decide)

theorem sendAt_treeKey : IsTreeKey (fun _ => false) (sendAt "tree:x" "mail").key := by
  refine ⟨"x#mail#sam#B","email.send","20260101","counter",by decide,⟨by decide,by decide⟩,⟨"email","send",rfl,?_⟩,
    ⟨.utcDay,by decide⟩,by decide⟩
  intro hharness
  exact absurd hharness (by decide)

theorem counter_keys_collide :
    Admissible (fun _ => false) (sendAt "a#b" "c") ∧ Admissible (fun _ => false) (sendAt "a" "b#c") ∧
      sendAt "a#b" "c" ≠ sendAt "a" "b#c" ∧ (sendAt "a#b" "c").key = (sendAt "a" "b#c").key ∧
      ¬ Isolated (fun _ => false) (sendAt "a#b" "c") ∧ IsTreeKey (fun _ => false) (sendAt "tree:x" "mail").key := by
  have hne : sendAt "a" "b#c" ≠ sendAt "a#b" "c" := by decide
  have hkey : (sendAt "a" "b#c").key = (sendAt "a#b" "c").key := by decide
  refine ⟨sendAt_admissible _ _,sendAt_admissible _ _,hne.symm,hkey.symm,?_,sendAt_treeKey⟩
  intro h
  exact hne (h.unique _ (sendAt_admissible _ _) hkey)

theorem counter_key_isolated_iff_plain :
    Admissible (fun _ => false) (sendAt "mailer" "inbox") ∧
      (Isolated (fun _ => false) (sendAt "mailer" "inbox") ↔ Separated (sendAt "mailer" "inbox")) :=
  ⟨sendAt_admissible _ _,counter_key_isolated_iff (sendAt_admissible _ _)⟩

end Enforcement.CounterKeys

end SafeAgents
