import SafeAgents.Text.Escape

namespace Lexical

def hexDigit (c : Char) : Option Nat :=
  if c.isDigit then some (c.toNat - 48)
  else if 97 ≤ c.toNat ∧ c.toNat ≤ 102 then some (c.toNat - 87)
  else if 65 ≤ c.toNat ∧ c.toNat ≤ 70 then some (c.toNat - 55)
  else none

def hexWord : List Char → Option (Nat × List Char)
  | a :: b :: c :: d :: rest => do
    let a ← hexDigit a
    let b ← hexDigit b
    let c ← hexDigit c
    let d ← hexDigit d
    return (a * 4096 + b * 256 + c * 16 + d,rest)
  | _ => none

def isHighSurrogate (n : Nat) : Bool := 55296 ≤ n && n < 56320

def isLowSurrogate (n : Nat) : Bool := 56320 ≤ n && n < 57344

-- A surrogate on its own names no character of a String.
def scanUnicode (l : List Char) : Option (Char × List Char) := do
  let (n,rest) ← hexWord l
  if isHighSurrogate n then
    match rest with
    | '\\' :: 'u' :: rest => do
      let (m,rest) ← hexWord rest
      if isLowSurrogate m then some (Char.ofNat (65536 + (n - 55296) * 1024 + (m - 56320)),rest) else none
    | _ => none
  else if isLowSurrogate n then none
  else some (Char.ofNat n,rest)

def marks : List (Char × Char) :=
  [('"','"'),('\\','\\'),('/','/'),('b',Char.ofNat 8),('f',Char.ofNat 12),('n','\n'),('r','\r'),('t','\t')]

def scanChar : List Char → Option (Char × List Char)
  | [] => none
  | c :: rest =>
    if c = '\\' then
      match rest with
      | [] => none
      | mark :: rest => if mark = 'u' then scanUnicode rest else (marks.lookup mark).map (·,rest)
    else if c = '"' ∨ c.toNat < 32 then none
    else some (c,rest)

def scanString : Nat → List Char → Option (List Char × List Char)
  | 0, _ => none
  | _ + 1, [] => none
  | fuel + 1, c :: rest =>
    if c = '"' then some ([],rest)
    else do
      let (d,rest) ← scanChar (c :: rest)
      let (body,rest) ← scanString fuel rest
      return (d :: body,rest)

theorem hexDigit_digitChar : ∀ d < 16, hexDigit (Nat.digitChar d) = some d := by decide

theorem hexWord_hex4 {n : Nat} (h : n < 65536) (x : List Char) : hexWord (hex4 n ++ x) = some (n,x) := by
  have hd := fun k => hexDigit_digitChar (k % 16) (Nat.mod_lt _ (by decide))
  have hvalue : n / 4096 % 16 * 4096 + n / 256 % 16 * 256 + n / 16 % 16 * 16 + n % 16 = n := by omega
  simp [hex4,hexWord,hd,hvalue]

theorem scanChar_unicodeEscape (n : Nat) (x : List Char) : scanChar (unicodeEscape n ++ x) = scanUnicode (hex4 n ++ x) := by
  simp [unicodeEscape,scanChar]

theorem scanUnicode_pair {n m : Nat} (hhigh : isHighSurrogate n = true) (hlow : isLowSurrogate m = true) (x : List Char) :
    scanUnicode (hex4 n ++ (unicodeEscape m ++ x)) = some (Char.ofNat (65536 + (n - 55296) * 1024 + (m - 56320)),x) := by
  have hn : n < 65536 := by
    simp only [isHighSurrogate,Bool.and_eq_true,decide_eq_true_eq] at hhigh
    omega
  have hm : m < 65536 := by
    simp only [isLowSurrogate,Bool.and_eq_true,decide_eq_true_eq] at hlow
    omega
  rw [scanUnicode,hexWord_hex4 hn]
  simp only [Option.bind_eq_bind,Option.bind_some,hhigh,if_true,unicodeEscape,List.cons_append]
  rw [hexWord_hex4 hm]
  simp only [Option.bind_some,hlow,if_true]

theorem scanUnicode_surrogates {c : Char} (h : 65536 ≤ c.toNat) (x : List Char) :
    scanUnicode (hex4 (55296 + (c.toNat - 65536) / 1024) ++ (unicodeEscape (56320 + (c.toNat - 65536) % 1024) ++ x)) =
      some (c,x) := by
  have hmax : c.toNat < 1114112 := by
    rcases c.valid with hlt | ⟨_,hlt⟩
    · exact Nat.lt_trans (show c.toNat < 55296 from hlt) (by decide)
    · exact hlt
  have hhigh : isHighSurrogate (55296 + (c.toNat - 65536) / 1024) = true := by
    simp only [isHighSurrogate,Bool.and_eq_true,decide_eq_true_eq]
    omega
  have hlow : isLowSurrogate (56320 + (c.toNat - 65536) % 1024) = true := by
    simp only [isLowSurrogate,Bool.and_eq_true,decide_eq_true_eq]
    omega
  have hvalue : 65536 + (55296 + (c.toNat - 65536) / 1024 - 55296) * 1024 + (56320 + (c.toNat - 65536) % 1024 - 56320) = c.toNat := by
    omega
  rw [scanUnicode_pair hhigh hlow,hvalue,Char.ofNat_toNat]

theorem scanUnicode_plain {c : Char} (h : c.toNat < 65536) (x : List Char) : scanUnicode (hex4 c.toNat ++ x) = some (c,x) := by
  have hhigh : isHighSurrogate c.toNat = false := by
    have := not_surrogate c
    simp only [isHighSurrogate,Bool.and_eq_false_iff,decide_eq_false_iff_not]
    omega
  have hlow : isLowSurrogate c.toNat = false := by
    simp only [isLowSurrogate,Bool.and_eq_false_iff,decide_eq_false_iff_not]
    rcases c.valid with hlt | ⟨hgt,_⟩
    · have : c.toNat < 55296 := hlt
      omega
    · have : 57343 < c.toNat := hgt
      omega
  rw [scanUnicode,hexWord_hex4 h]
  simp [hhigh,hlow]

theorem scanChar_escape (c : Char) (x : List Char) : scanChar (escape c ++ x) = some (c,x) := by
  have hofNat := Char.ofNat_toNat c
  rw [escape]
  split
  next h =>
    subst h
    rfl
  split
  next h =>
    subst h
    rfl
  split
  next h =>
    subst h
    rfl
  split
  next h =>
    subst h
    rfl
  split
  next h =>
    subst h
    rfl
  split
  next h =>
    rw [← hofNat,h]
    rfl
  split
  next h =>
    rw [← hofNat,h]
    rfl
  split
  next hquote hslash _ _ _ _ _ hprintable =>
    have hcontrol : ¬ c.toNat < 32 := by omega
    simp [scanChar,hslash,hquote,hcontrol]
  split
  next h => rw [scanChar_unicodeEscape,scanUnicode_plain h]
  next h => rw [List.append_assoc,scanChar_unicodeEscape,scanUnicode_surrogates (by omega)]

theorem scanString_quotedBody (l : List Char) {fuel : Nat} (h : l.length < fuel) (x : List Char) :
    scanString fuel (quotedBody l ++ x) = some (l,x) := by
  induction l generalizing fuel with
  | nil =>
    obtain ⟨n,rfl⟩ := Nat.exists_eq_succ_of_ne_zero (Nat.ne_of_gt h)
    simp [quotedBody,scanString]
  | cons c l ih =>
    obtain ⟨n,rfl⟩ := Nat.exists_eq_succ_of_ne_zero (Nat.ne_of_gt (Nat.lt_of_le_of_lt (Nat.zero_le _) h))
    have hsplit : quotedBody (c :: l) ++ x = escape c ++ (quotedBody l ++ x) := by simp [quotedBody]
    have hrest := ih (show l.length < n by simpa using Nat.lt_of_succ_lt_succ h)
    rw [hsplit]
    cases hhead : escape c ++ (quotedBody l ++ x) with
    | nil => simp [quotedBody] at hhead
    | cons d rest =>
      have hquote : d ≠ '"' := by
        rintro rfl
        exact escape_append_ne_quote c _ _ hhead
      rw [scanString,if_neg hquote,← hhead,scanChar_escape]
      simp [hrest]

theorem length_le_quotedBody (l : List Char) : l.length < (quotedBody l).length := by
  induction l with
  | nil => simp [quotedBody]
  | cons c l ih =>
    have hescape : 0 < (escape c).length := by
      rcases List.eq_nil_or_concat (escape c) with hnil | ⟨front,last,hlast⟩
      · have hscan := scanChar_escape c []
        rw [hnil] at hscan
        cases hscan
      · simp [hlast]
    simp only [quotedBody,List.flatMap_cons,List.length_append,List.length_cons] at ih ⊢
    omega

end Lexical
