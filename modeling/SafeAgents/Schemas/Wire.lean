import SafeAgents.Schemas.Decode

namespace SafeAgents.Json

def intOfChars (l : List Char) : Option Int :=
  if l.head? = some '-' then
    if isDigits l.tail then some (-(Nat.ofDigitChars 10 l.tail 0 : Int)) else none
  else if isDigits l then some (Nat.ofDigitChars 10 l 0 : Int)
  else none

def int? : Json → Option Int
  | .num text => intOfChars text.toList
  | _ => none

theorem isDigits_toDigits (n : Nat) : isDigits (Nat.toDigits 10 n) = true := by
  have hall : (Nat.toDigits 10 n).all Char.isDigit = true :=
    List.all_eq_true.mpr fun c hc => Nat.isDigit_of_mem_toDigits (by decide) (by decide) hc
  simp [isDigits,hall,Nat.toDigits_ne_nil]

theorem head_toDigits_ne_minus (n : Nat) : (Nat.toDigits 10 n).head? ≠ some '-' := by
  intro h
  obtain ⟨l,hl⟩ := List.head?_eq_some_iff.mp h
  exact minus_not_digit n l hl

theorem head_toDigits (n : Nat) (h : 0 < n) : (Nat.toDigits 10 n).head? ≠ some '0' := by
  induction n using Nat.strongRecOn with
  | ind n ih =>
    by_cases hlt : n < 10
    · rw [Nat.toDigits_of_lt_base hlt]
      have hdigits : ∀ d < 10, 0 < d → Nat.digitChar d ≠ '0' := by decide
      simpa using hdigits n hlt h
    · rw [Nat.toDigits_of_base_le (by decide) (by omega)]
      have hrest := ih (n / 10) (by omega) (by omega)
      cases hl : Nat.toDigits 10 (n / 10) with
      | nil => exact absurd hl Nat.toDigits_ne_nil
      | cons c l =>
        rw [hl] at hrest
        simpa using hrest

theorem isMagnitude_toDigits (n : Nat) : isMagnitude (Nat.toDigits 10 n) = true := by
  have hdigit : ∀ c ∈ Nat.toDigits 10 n, c.isDigit = true := fun c hc => Nat.isDigit_of_mem_toDigits (by decide) (by decide) hc
  have htake : (Nat.toDigits 10 n).takeWhile Char.isDigit = Nat.toDigits 10 n := by
    have happend : (Nat.toDigits 10 n ++ []).takeWhile Char.isDigit = _ := List.takeWhile_append_of_pos hdigit
    simpa using happend
  have hdrop : (Nat.toDigits 10 n).dropWhile Char.isDigit = [] := by
    have happend : (Nat.toDigits 10 n ++ []).dropWhile Char.isDigit = _ := List.dropWhile_append_of_pos hdigit
    simpa using happend
  have hlead : (Nat.toDigits 10 n == ['0'] || (Nat.toDigits 10 n).head? != some '0') = true := by
    rcases Nat.eq_zero_or_pos n with rfl | hpos
    · rfl
    · simp [head_toDigits n hpos]
  simp only [isMagnitude,htake,hdrop,isDigits_toDigits,hlead,Bool.true_and]
  rfl

theorem isNumeral_ofInt (n : Int) : isNumeral (toString n).toList = true := by
  have hwell := wellFormed_ofInt n
  simp only [ofInt,WellFormed] at hwell
  have hall : (toString n).toList.all isNumberChar = true := List.all_eq_true.mpr hwell.2
  have hnumber : isNumber (toString n).toList = true := by
    cases n with
    | ofNat n => rw [Int.ofNat_eq_natCast,ofInt_digits,isNumber,if_neg (head_toDigits_ne_minus n),isMagnitude_toDigits]
    | negSucc n => rw [ofInt_negative,isNumber,List.head?_cons,if_pos rfl,List.tail_cons,isMagnitude_toDigits]
  rw [isNumeral,hnumber,hall,Bool.and_true,Bool.or_true]

theorem proper_ofInt (n : Int) : Proper (ofInt n) := by
  simp only [ofInt,Proper]
  exact isNumeral_ofInt n

theorem int?_ofInt (n : Int) : int? (ofInt n) = some n := by
  cases n with
  | ofNat n =>
    simp only [ofInt,int?]
    rw [Int.ofNat_eq_natCast,ofInt_digits,intOfChars,if_neg (head_toDigits_ne_minus n),if_pos (isDigits_toDigits n)]
    simp
  | negSucc n =>
    simp only [ofInt,int?]
    rw [ofInt_negative,intOfChars,List.head?_cons,if_pos rfl,List.tail_cons,if_pos (isDigits_toDigits (n + 1))]
    simp [Int.negSucc_eq]

end SafeAgents.Json

namespace SafeAgents.Wire

open Json

-- A float by what json does with it: the text its repr prints, and the float that text reads back as.
structure FloatFormat (F : Type) where
  repr : F → String
  read : String → Option F
  numeral : ∀ x, isNumeral (repr x).toList = true
  read_repr : ∀ x, read (repr x) = some x
  le : F → F → Bool
  zero : F
  one : F
  ratio : Int → Int → F
  fixed4 : F → String

-- What the validator makes of a value that is not of the field's own type.
structure Coercion (F : Type) where
  bool : Json → Option Bool
  int : Json → Option Int
  float : Json → Option F

namespace FloatFormat
variable {F : Type} (fmt : FloatFormat F)

def json (x : F) : Json := .num (fmt.repr x)

def lt (x y : F) : Bool := fmt.le x y && !fmt.le y x

def isUnit (x : F) : Bool := fmt.le fmt.zero x && fmt.le x fmt.one

theorem json_proper (x : F) : (fmt.json x).Proper := by
  simp only [json,Proper]
  exact fmt.numeral x

end FloatFormat

def wholeFloats : FloatFormat Int where
  repr := fun n => toString n
  read := fun text => intOfChars text.toList
  numeral := isNumeral_ofInt
  read_repr := int?_ofInt
  le := fun a b => decide (a ≤ b)
  zero := 0
  one := 1
  ratio := fun a b => a / b
  fixed4 := fun n => toString n

def noCoercion {F : Type} : Coercion F := { bool := fun _ => none, int := fun _ => none, float := fun _ => none }

section Readers
variable {F : Type} (fmt : FloatFormat F) (lax : Coercion F)

def readBool : Json → Option Bool
  | .bool b => some b
  | j => lax.bool j

def readInt (j : Json) : Option Int := (int? j).or (lax.int j)

def readFloat : Json → Option F
  | .num text => fmt.read text
  | j => lax.float j

theorem readInt_ofInt (n : Int) : readInt lax (ofInt n) = some n := by simp [readInt,int?_ofInt]

theorem readFloat_json (x : F) : readFloat fmt lax (fmt.json x) = some x := fmt.read_repr x

end Readers

inductive ConfidenceEvidence (F : Type) where
  | selfConsistency (samples : Int) (agreement : F)
  | ensemble (members : Int) (agreement : F)
  | conformal (coverage threshold : F) (calibrationSize : Int)
  deriving DecidableEq

structure ConfidenceArtifact (F : Type) where
  confidence : F
  errorProb : F
  evidence : ConfidenceEvidence F
  stale : Bool := false
  computedAt : String
  annotations : List String := []
  deriving DecidableEq

structure ErrorBudget (F : Type) where
  tolerance : F
  spent : F
  deriving DecidableEq

section Schemas
variable {F : Type} (fmt : FloatFormat F) (lax : Coercion F)

namespace ConfidenceEvidence

def accepted : ConfidenceEvidence F → Bool
  | .selfConsistency samples agreement => decide (1 < samples) && fmt.isUnit agreement
  | .ensemble members agreement => decide (1 < members) && fmt.isUnit agreement
  | .conformal coverage _ calibrationSize =>
    fmt.lt fmt.zero coverage && fmt.lt coverage fmt.one && decide (0 < calibrationSize)

def json : ConfidenceEvidence F → Json
  | .selfConsistency samples agreement =>
    .obj [("agreement",fmt.json agreement),("method",.str "self-consistency"),("samples",.ofInt samples)]
  | .ensemble members agreement =>
    .obj [("agreement",fmt.json agreement),("members",.ofInt members),("method",.str "ensemble")]
  | .conformal coverage threshold calibrationSize =>
    .obj [("calibration_size",.ofInt calibrationSize),("coverage",fmt.json coverage),("method",.str "conformal"),
      ("threshold",fmt.json threshold)]

-- The method names the class that reads the rest.
def ofJson (j : Json) : Option (ConfidenceEvidence F) := do
  let method ← (j.get? "method").bind str?
  if method = "self-consistency" then
    let fields ← fieldsOf ["method","samples","agreement"] j
    let samples ← required fields "samples" (readInt lax)
    let agreement ← required fields "agreement" (readFloat fmt lax)
    return .selfConsistency samples agreement
  else if method = "ensemble" then
    let fields ← fieldsOf ["method","members","agreement"] j
    let members ← required fields "members" (readInt lax)
    let agreement ← required fields "agreement" (readFloat fmt lax)
    return .ensemble members agreement
  else if method = "conformal" then
    let fields ← fieldsOf ["method","coverage","threshold","calibration_size"] j
    let coverage ← required fields "coverage" (readFloat fmt lax)
    let threshold ← required fields "threshold" (readFloat fmt lax)
    let calibrationSize ← required fields "calibration_size" (readInt lax)
    return .conformal coverage threshold calibrationSize
  else none

theorem ofJson_json (e : ConfidenceEvidence F) : ofJson fmt lax (e.json fmt) = some e := by
  cases e with
  | selfConsistency samples agreement =>
    simp [ofJson,json,get?,fieldsOf,required,field,str?,readInt_ofInt,readFloat_json]
  | ensemble members agreement =>
    simp [ofJson,json,get?,fieldsOf,required,field,str?,readInt_ofInt,readFloat_json]
  | conformal coverage threshold calibrationSize =>
    simp [ofJson,json,get?,fieldsOf,required,field,str?,readInt_ofInt,readFloat_json]

theorem json_proper (e : ConfidenceEvidence F) : (e.json fmt).Proper := by
  cases e with
  | selfConsistency samples agreement =>
    apply proper_obj ["agreement","method","samples"] rfl (by decide)
    exact ⟨fmt.json_proper _,trivial,proper_ofInt _,trivial⟩
  | ensemble members agreement =>
    apply proper_obj ["agreement","members","method"] rfl (by decide)
    exact ⟨fmt.json_proper _,proper_ofInt _,trivial,trivial⟩
  | conformal coverage threshold calibrationSize =>
    apply proper_obj ["calibration_size","coverage","method","threshold"] rfl (by decide)
    exact ⟨proper_ofInt _,fmt.json_proper _,trivial,fmt.json_proper _,trivial⟩

end ConfidenceEvidence

namespace ConfidenceArtifact

def accepted (a : ConfidenceArtifact F) : Bool := fmt.isUnit a.confidence && fmt.isUnit a.errorProb && a.evidence.accepted fmt

def json (a : ConfidenceArtifact F) : Json :=
  .obj [("annotations",.arr (a.annotations.map .str)),
    ("computed_at",.str a.computedAt),
    ("confidence",fmt.json a.confidence),
    ("error_prob",fmt.json a.errorProb),
    ("evidence",a.evidence.json fmt),
    ("stale",.bool a.stale)]

def ofJson (j : Json) : Option (ConfidenceArtifact F) := do
  let fields ← fieldsOf ["confidence","error_prob","evidence","stale","computed_at","annotations"] j
  let confidence ← required fields "confidence" (readFloat fmt lax)
  let errorProb ← required fields "error_prob" (readFloat fmt lax)
  let evidence ← required fields "evidence" (ConfidenceEvidence.ofJson fmt lax)
  let stale ← defaulted fields "stale" false (readBool lax)
  let computedAt ← required fields "computed_at" str?
  let annotations ← defaulted fields "annotations" [] (listOf str?)
  return { confidence, errorProb, evidence, stale, computedAt, annotations }

def modelValidate (j : Json) : Option (ConfidenceArtifact F) := (ofJson fmt lax j).filter (accepted fmt)

theorem ofJson_json (a : ConfidenceArtifact F) : ofJson fmt lax (a.json fmt) = some a := by
  have hannotations : listOf str? (.arr (a.annotations.map .str)) = some a.annotations := listOf_map fun _ _ => rfl
  simp [ofJson,json,fieldsOf,required,defaulted,field,str?,readBool,readFloat_json,hannotations,ConfidenceEvidence.ofJson_json]

theorem modelValidate_json {a : ConfidenceArtifact F} (h : a.accepted fmt = true) : modelValidate fmt lax (a.json fmt) = some a := by
  rw [modelValidate,ofJson_json,Option.filter_some,if_pos h]

theorem json_proper (a : ConfidenceArtifact F) : (a.json fmt).Proper := by
  apply proper_obj ["annotations","computed_at","confidence","error_prob","evidence","stale"] rfl (by decide)
  exact ⟨proper_strs _,trivial,fmt.json_proper _,fmt.json_proper _,a.evidence.json_proper fmt,trivial,trivial⟩

end ConfidenceArtifact

namespace ErrorBudget

def json (b : ErrorBudget F) : Json := .obj [("spent",fmt.json b.spent),("tolerance",fmt.json b.tolerance)]

def modelValidate (j : Json) : Option (ErrorBudget F) := do
  let fields ← fieldsOf ["tolerance","spent"] j
  let tolerance ← required fields "tolerance" (readFloat fmt lax)
  let spent ← required fields "spent" (readFloat fmt lax)
  return ⟨tolerance,spent⟩

theorem modelValidate_json (b : ErrorBudget F) : modelValidate fmt lax (b.json fmt) = some b := by
  simp [modelValidate,json,fieldsOf,required,field,readFloat_json]

theorem json_proper (b : ErrorBudget F) : (b.json fmt).Proper := by
  apply proper_obj ["spent","tolerance"] rfl (by decide)
  exact ⟨fmt.json_proper _,fmt.json_proper _,trivial⟩

end ErrorBudget

def optionJson {α : Type} (write : α → Json) (o : Option α) : Json := (o.map write).getD .null

theorem nullable_optionJson {α : Type} {write : α → Json} {read : Json → Option α} {o : Option α}
    (h : ∀ a, o = some a → read (write a) = some a) (hnull : ∀ a, write a ≠ .null) : nullable read (optionJson write o) = some o := by
  cases o with
  | none => rfl
  | some a =>
    have hread := h a rfl
    cases hj : write a with
    | null => exact absurd hj (hnull a)
    | _ => simp_all [optionJson,nullable]

theorem optionJson_proper {α : Type} {write : α → Json} {o : Option α} (h : ∀ a, o = some a → (write a).Proper) :
    (optionJson write o).Proper := by
  cases o with
  | none => trivial
  | some a => exact h a rfl

theorem nullable_ofOption (o : Option String) : nullable str? (.ofOption o) = some o := by cases o <;> rfl

theorem ofOption_proper (o : Option String) : (Json.ofOption o).Proper := by cases o <;> trivial

end Schemas

end SafeAgents.Wire
