import Mathlib.Data.List.Basic
import Mathlib.Data.Nat.Basic

namespace Lexical

def SelfDelimiting {α : Type} (f : α → List Char) : Prop := ∀ ⦃a b : α⦄ ⦃x y : List Char⦄, f a ++ x = f b ++ y → a = b ∧ x = y

theorem selfDelimiting_of_decoder {α : Type} {f : α → List Char} {decode : List Char → Option (α × List Char)}
    (h : ∀ a x, decode (f a ++ x) = some (a,x)) : SelfDelimiting f := by
  intro a b x y heq
  have hb : decode (f a ++ x) = some (b,y) := by rw [heq,h]
  rw [h] at hb
  simpa using hb

def hex4 (n : Nat) : List Char :=
  [Nat.digitChar (n / 4096 % 16),Nat.digitChar (n / 256 % 16),Nat.digitChar (n / 16 % 16),Nat.digitChar (n % 16)]

def hexValue (c : Char) : Nat := if c.isDigit then c.toNat - 48 else c.toNat - 87

theorem hexValue_digitChar : ∀ d < 16, hexValue (Nat.digitChar d) = d := by decide

def hex4Value (a b c d : Char) : Nat := hexValue a * 4096 + hexValue b * 256 + hexValue c * 16 + hexValue d

theorem hex4Value_hex4 {n : Nat} (h : n < 65536) :
    hex4Value (Nat.digitChar (n / 4096 % 16)) (Nat.digitChar (n / 256 % 16)) (Nat.digitChar (n / 16 % 16))
      (Nat.digitChar (n % 16)) = n := by
  have hd := fun k => hexValue_digitChar (k % 16) (Nat.mod_lt _ (by decide))
  simp only [hex4Value,hd]
  omega

def unicodeEscape (n : Nat) : List Char := '\\' :: 'u' :: hex4 n

-- One character inside a JSON string, as an ASCII-only writer prints it.
def escape (c : Char) : List Char :=
  if c = '"' then ['\\','"']
  else if c = '\\' then ['\\','\\']
  else if c = '\n' then ['\\','n']
  else if c = '\r' then ['\\','r']
  else if c = '\t' then ['\\','t']
  else if c.toNat = 8 then ['\\','b']
  else if c.toNat = 12 then ['\\','f']
  else if 32 ≤ c.toNat ∧ c.toNat ≤ 126 then [c]
  else if c.toNat < 65536 then unicodeEscape c.toNat
  else unicodeEscape (55296 + (c.toNat - 65536) / 1024) ++ unicodeEscape (56320 + (c.toNat - 65536) % 1024)

def unescapeUnicode (n : Nat) (rest : List Char) : Option (Char × List Char) :=
  if 55296 ≤ n ∧ n < 56320 then
    match rest with
    | '\\' :: 'u' :: a :: b :: c :: d :: rest =>
      some (Char.ofNat (65536 + (n - 55296) * 1024 + (hex4Value a b c d - 56320)),rest)
    | _ => none
  else some (Char.ofNat n,rest)

def unescapeMark (mark : Char) (rest : List Char) : Option (Char × List Char) :=
  if mark = 'u' then
    match rest with
    | a :: b :: c :: d :: rest => unescapeUnicode (hex4Value a b c d) rest
    | _ => none
  else if mark = 'n' then some ('\n',rest)
  else if mark = 'r' then some ('\r',rest)
  else if mark = 't' then some ('\t',rest)
  else if mark = 'b' then some (Char.ofNat 8,rest)
  else if mark = 'f' then some (Char.ofNat 12,rest)
  else some (mark,rest)

def unescape : List Char → Option (Char × List Char)
  | [] => none
  | c :: rest =>
    if c = '\\' then
      match rest with
      | [] => none
      | mark :: rest => unescapeMark mark rest
    else some (c,rest)

theorem unescape_unicodeEscape {n : Nat} (h : n < 65536) (x : List Char) :
    unescape (unicodeEscape n ++ x) = unescapeUnicode n x := by
  simp only [unicodeEscape,hex4,List.cons_append,List.nil_append,unescape,unescapeMark,if_true,hex4Value_hex4 h]

theorem unescape_surrogates {c : Char} (h : 65536 ≤ c.toNat) (x : List Char) :
    unescape (unicodeEscape (55296 + (c.toNat - 65536) / 1024) ++ unicodeEscape (56320 + (c.toNat - 65536) % 1024) ++ x) =
      some (c,x) := by
  have hmax : c.toNat < 1114112 := by
    rcases c.valid with hlt | ⟨_,hlt⟩
    · exact Nat.lt_trans (show c.toNat < 55296 from hlt) (by decide)
    · exact hlt
  have hlow : 56320 + (c.toNat - 65536) % 1024 < 65536 := by omega
  rw [List.append_assoc,unescape_unicodeEscape (by omega)]
  simp only [unescapeUnicode,unicodeEscape,hex4,List.cons_append,List.nil_append,hex4Value_hex4 hlow]
  rw [if_pos (by omega)]
  have hvalue : 65536 + (55296 + (c.toNat - 65536) / 1024 - 55296) * 1024 + (56320 + (c.toNat - 65536) % 1024 - 56320) = c.toNat := by
    omega
  rw [hvalue,Char.ofNat_toNat]

theorem not_surrogate (c : Char) : ¬ (55296 ≤ c.toNat ∧ c.toNat < 56320) := by
  intro h
  have hvalid := c.valid
  rcases hvalid with hlt | ⟨hlow,_⟩
  · exact absurd (show c.toNat < 55296 from hlt) (by omega)
  · exact absurd (show 57343 < c.toNat from hlow) (by omega)

theorem unescape_escape (c : Char) (x : List Char) : unescape (escape c ++ x) = some (c,x) := by
  have hofNat := Char.ofNat_toNat c
  rw [escape]
  split
  next h =>
    subst h
    rfl
  split
  next h =>
    subst h
    rfl
  split
  next h =>
    subst h
    rfl
  split
  next h =>
    subst h
    rfl
  split
  next h =>
    subst h
    rfl
  split
  next h =>
    rw [← hofNat,h]
    rfl
  split
  next h =>
    rw [← hofNat,h]
    rfl
  split
  next hslash _ _ _ _ _ _ => simp [unescape,hslash]
  split
  next h =>
    rw [unescape_unicodeEscape h]
    simp only [unescapeUnicode,not_surrogate c,if_false,hofNat]
  next h => exact unescape_surrogates (by omega) x

theorem selfDelimiting_escape : SelfDelimiting escape := selfDelimiting_of_decoder unescape_escape

theorem escape_append_ne_quote (c : Char) (x y : List Char) : escape c ++ x ≠ '"' :: y := by
  intro h
  have hdecoded := unescape_escape c x
  rw [h] at hdecoded
  have hc : '"' = c := by
    have hpair : '"' = c ∧ y = x := by simpa [unescape] using hdecoded
    exact hpair.1
  subst hc
  simp [escape] at h

def Printable (c : Char) : Prop := 32 ≤ c.toNat ∧ c.toNat ≤ 126

instance (c : Char) : Decidable (Printable c) := inferInstanceAs (Decidable (_ ∧ _))

theorem printable_digitChar : ∀ d < 16, Printable (Nat.digitChar d) := by decide

theorem printable_unicodeEscape (n : Nat) : ∀ c ∈ unicodeEscape n, Printable c := by
  have hd := fun k => printable_digitChar (k % 16) (Nat.mod_lt _ (by decide))
  simp only [unicodeEscape,hex4,List.forall_mem_cons]
  exact ⟨by decide,by decide,hd _,hd _,hd _,hd _,by simp⟩

theorem printable_escape (c : Char) : ∀ d ∈ escape c, Printable d := by
  have hpair : ∀ a b : Char, Printable a → Printable b → ∀ d ∈ [a,b], Printable d := by
    intro a b ha hb d hd
    rcases List.mem_pair.mp hd with rfl | rfl
    · exact ha
    · exact hb
  rw [escape]
  iterate 7
    split
    · apply hpair <;> decide
  split
  next h =>
    intro d hd
    rwa [List.mem_singleton.mp hd]
  split
  · exact printable_unicodeEscape _
  · intro d hd
    rcases List.mem_append.mp hd with hd | hd
    · exact printable_unicodeEscape _ d hd
    · exact printable_unicodeEscape _ d hd

def quotedBody (l : List Char) : List Char := l.flatMap escape ++ ['"']

theorem selfDelimiting_quotedBody : SelfDelimiting quotedBody := by
  intro l
  induction l with
  | nil =>
    intro l' x y h
    cases l' with
    | nil => simpa [quotedBody] using h
    | cons c l' =>
      have hquote : escape c ++ (l'.flatMap escape ++ ('"' :: y)) = '"' :: x := by
        simpa [quotedBody] using h.symm
      exact absurd hquote (escape_append_ne_quote c _ _)
  | cons c l ih =>
    intro l' x y h
    cases l' with
    | nil =>
      have hquote : escape c ++ (l.flatMap escape ++ ('"' :: x)) = '"' :: y := by
        simpa [quotedBody] using h
      exact absurd hquote (escape_append_ne_quote c _ _)
    | cons d l' =>
      have hsplit : escape c ++ (quotedBody l ++ x) = escape d ++ (quotedBody l' ++ y) := by
        simpa [quotedBody] using h
      obtain ⟨rfl,hrest⟩ := selfDelimiting_escape hsplit
      obtain ⟨rfl,hend⟩ := ih hrest
      exact ⟨rfl,hend⟩

def quoted (s : String) : List Char := '"' :: quotedBody s.toList

theorem printable_quoted (s : String) : ∀ c ∈ quoted s, Printable c := by
  intro c hc
  simp only [quoted,quotedBody,List.mem_cons,List.mem_append,List.mem_flatMap,List.not_mem_nil,or_false] at hc
  rcases hc with rfl | ⟨a,-,hc⟩ | rfl
  · decide
  · exact printable_escape a c hc
  · decide

theorem selfDelimiting_quoted : SelfDelimiting quoted := by
  intro s t x y h
  have hbody : quotedBody s.toList ++ x = quotedBody t.toList ++ y := by simpa [quoted] using h
  obtain ⟨hl,hx⟩ := selfDelimiting_quotedBody hbody
  exact ⟨String.toList_injective hl,hx⟩

end Lexical
