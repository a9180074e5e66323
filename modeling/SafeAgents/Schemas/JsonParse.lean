import SafeAgents.Schemas.JsonText
import SafeAgents.Text.Scan

namespace SafeAgents.Json

open Lexical

def isSpace (c : Char) : Bool := c == ' ' || c == '\t' || c == '\n' || c == '\r'

def skipSpace (l : List Char) : List Char := l.dropWhile isSpace

def isDigits (l : List Char) : Bool := !l.isEmpty && l.all Char.isDigit

def isExponent : List Char → Bool
  | [] => true
  | e :: l =>
    (e == 'e' || e == 'E') &&
      match l with
      | [] => false
      | sign :: digits => if sign == '+' || sign == '-' then isDigits digits else isDigits l

def isFraction : List Char → Bool
  | [] => true
  | point :: l =>
    if point == '.' then isDigits (l.takeWhile Char.isDigit) && isExponent (l.dropWhile Char.isDigit)
    else isExponent (point :: l)

def isMagnitude (l : List Char) : Bool :=
  let whole := l.takeWhile Char.isDigit
  isDigits whole && (whole == ['0'] || whole.head? != some '0') && isFraction (l.dropWhile Char.isDigit)

def isNumber (l : List Char) : Bool := isMagnitude (if l.head? = some '-' then l.tail else l)

-- The words json writes for a float that has no decimal form.
def nonFinite : List (List Char) := ["NaN".toList,"Infinity".toList,"-Infinity".toList]

def isNumeral (l : List Char) : Bool := nonFinite.contains l || (isNumber l && l.all isNumberChar)

def scanWord (word : String) (j : Json) (l : List Char) : Option (Json × List Char) :=
  if word.toList.isPrefixOf l then some (j,l.drop word.length) else none

def scanNumber (l : List Char) : Option (Json × List Char) :=
  match nonFinite.find? fun word => word.isPrefixOf l with
  | some word => some (.num (String.ofList word),l.drop word.length)
  | none =>
    if isNumber (l.takeWhile isNumberChar) then some (.num (String.ofList (l.takeWhile isNumberChar)),l.dropWhile isNumberChar)
    else none

-- A name that occurs again replaces the value it had.
def setMember (fields : List (String × Json)) (f : String × Json) : List (String × Json) :=
  if fields.any fun g => g.1 == f.1 then fields.map fun g => if g.1 == f.1 then f else g else fields ++ [f]

def asDict (fields : List (String × Json)) : List (String × Json) := fields.foldl setMember []

mutual

def scanValue : Nat → List Char → Option (Json × List Char)
  | 0, _ => none
  | fuel + 1, l =>
    match skipSpace l with
    | [] => none
    | c :: rest =>
      match kindOfChar c with
      | .null => scanWord "null" .null (c :: rest)
      | .yes => scanWord "true" (.bool true) (c :: rest)
      | .no => scanWord "false" (.bool false) (c :: rest)
      | .num => scanNumber (c :: rest)
      | .str => (scanString fuel rest).map fun r => (.str (String.ofList r.1),r.2)
      | .arr => (scanItems fuel rest).map fun r => (.arr r.1,r.2)
      | .obj => (scanMembers fuel rest).map fun r => (.obj (asDict r.1),r.2)

def scanItems : Nat → List Char → Option (List Json × List Char)
  | 0, _ => none
  | fuel + 1, l =>
    if (skipSpace l).head? = some ']' then some ([],(skipSpace l).tail)
    else do
      let (item,rest) ← scanValue fuel l
      let (items,rest) ← scanMoreItems fuel rest
      return (item :: items,rest)

def scanMoreItems : Nat → List Char → Option (List Json × List Char)
  | 0, _ => none
  | fuel + 1, l =>
    match skipSpace l with
    | [] => none
    | c :: rest =>
      if c = ']' then some ([],rest)
      else if c = ',' then do
        let (item,rest) ← scanValue fuel rest
        let (items,rest) ← scanMoreItems fuel rest
        return (item :: items,rest)
      else none

def scanMembers : Nat → List Char → Option (List (String × Json) × List Char)
  | 0, _ => none
  | fuel + 1, l =>
    if (skipSpace l).head? = some '\x7d' then some ([],(skipSpace l).tail)
    else do
      let (member,rest) ← scanMember fuel l
      let (members,rest) ← scanMoreMembers fuel rest
      return (member :: members,rest)

def scanMoreMembers : Nat → List Char → Option (List (String × Json) × List Char)
  | 0, _ => none
  | fuel + 1, l =>
    match skipSpace l with
    | [] => none
    | c :: rest =>
      if c = '\x7d' then some ([],rest)
      else if c = ',' then do
        let (member,rest) ← scanMember fuel rest
        let (members,rest) ← scanMoreMembers fuel rest
        return (member :: members,rest)
      else none

def scanMember : Nat → List Char → Option ((String × Json) × List Char)
  | 0, _ => none
  | fuel + 1, l =>
    if (skipSpace l).head? = some '"' then do
      let (name,rest) ← scanString fuel (skipSpace l).tail
      if (skipSpace rest).head? = some ':' then do
        let (value,rest) ← scanValue fuel (skipSpace rest).tail
        return ((String.ofList name,value),rest)
      else none
    else none

end

def loads (text : String) : Option Json :=
  match scanValue (text.toList.length + 1) text.toList with
  | none => none
  | some (j,rest) => if skipSpace rest = [] then some j else none

-- json.dumps with a gap after each comma and colon: none in the compact form, one blank in the default form.
section Printed
variable (gap : List Char)

mutual

def printed : Json → List Char
  | .arr items => '[' :: printedItems items
  | .obj fields => '\x7b' :: printedMembers fields
  | j => j.chars

def printedItems : List Json → List Char
  | [] => [']']
  | item :: rest => printed item ++ printedMoreItems rest

def printedMoreItems : List Json → List Char
  | [] => [']']
  | item :: rest => ',' :: (gap ++ (printed item ++ printedMoreItems rest))

def printedMembers : List (String × Json) → List Char
  | [] => ['\x7d']
  | (name,value) :: rest => quoted name ++ ':' :: (gap ++ (printed value ++ printedMoreMembers rest))

def printedMoreMembers : List (String × Json) → List Char
  | [] => ['\x7d']
  | (name,value) :: rest => ',' :: (gap ++ (quoted name ++ ':' :: (gap ++ (printed value ++ printedMoreMembers rest))))

end

end Printed

mutual

theorem printed_compact : ∀ j : Json, printed [] j = j.chars := by
  intro j
  match j with
  | .null | .bool _ | .num _ | .str _ => rfl
  | .arr items => simp only [printed,chars,printedItems_compact items]
  | .obj fields => simp only [printed,chars,printedMembers_compact fields]

theorem printedItems_compact : ∀ items : List Json, printedItems [] items = itemsChars items := by
  intro items
  match items with
  | [] => rfl
  | item :: rest => simp only [printedItems,itemsChars,printed_compact item,printedMoreItems_compact rest]

theorem printedMoreItems_compact : ∀ items : List Json, printedMoreItems [] items = moreItemsChars items := by
  intro items
  match items with
  | [] => rfl
  | item :: rest =>
    simp only [printedMoreItems,moreItemsChars,printed_compact item,printedMoreItems_compact rest,List.nil_append]

theorem printedMembers_compact : ∀ fields : List (String × Json), printedMembers [] fields = membersChars fields := by
  intro fields
  match fields with
  | [] => rfl
  | (name,value) :: rest =>
    simp only [printedMembers,membersChars,printed_compact value,printedMoreMembers_compact rest,List.nil_append]

theorem printedMoreMembers_compact : ∀ fields : List (String × Json), printedMoreMembers [] fields = moreMembersChars fields := by
  intro fields
  match fields with
  | [] => rfl
  | (name,value) :: rest =>
    simp only [printedMoreMembers,moreMembersChars,printed_compact value,printedMoreMembers_compact rest,List.nil_append]

end

-- A value as json.loads returns one: numbers are numerals, and a dict stands by its sorted names.
mutual

def Proper : Json → Prop
  | .num text => isNumeral text.toList = true
  | .arr items => ItemsProper items
  | .obj fields => (fields.map Prod.fst).Pairwise (· < ·) ∧ MembersProper fields
  | _ => True

def ItemsProper : List Json → Prop
  | [] => True
  | item :: rest => Proper item ∧ ItemsProper rest

def MembersProper : List (String × Json) → Prop
  | [] => True
  | (_,value) :: rest => Proper value ∧ MembersProper rest

end

mutual

def Keyed : Json → Prop
  | .num text => isNumeral text.toList = true
  | .arr items => ItemsKeyed items
  | .obj fields => (fields.map Prod.fst).Nodup ∧ MembersKeyed fields
  | _ => True

def ItemsKeyed : List Json → Prop
  | [] => True
  | item :: rest => Keyed item ∧ ItemsKeyed rest

def MembersKeyed : List (String × Json) → Prop
  | [] => True
  | (_,value) :: rest => Keyed value ∧ MembersKeyed rest

end

def Blank (l : List Char) : Prop := ∀ c ∈ l, isSpace c = true

theorem blank_nil : Blank [] := by simp [Blank]

theorem skipSpace_cons {gap : List Char} (hgap : Blank gap) {c : Char} (hc : isSpace c = false) (l : List Char) :
    skipSpace (gap ++ c :: l) = c :: l := by
  induction gap with
  | nil => simp [skipSpace,hc]
  | cons d gap ih =>
    have hd := hgap d (by simp)
    have hrest := ih fun e he => hgap e (by simp [he])
    simpa [skipSpace,hd] using hrest

theorem setMember_fresh {fields : List (String × Json)} {f : String × Json} (h : f.1 ∉ fields.map Prod.fst) :
    setMember fields f = fields ++ [f] := by
  have hnone : (fields.any fun g => g.1 == f.1) = false := by
    rw [List.any_eq_false]
    intro g hg heq
    exact h (List.mem_map.mpr ⟨g,hg,by simpa using heq⟩)
  simp [setMember,hnone]

theorem names_nodup {names : List String} (h : names.Pairwise (· < ·)) : names.Nodup := by
  apply h.imp
  rintro a _ hlt rfl
  exact String.lt_irrefl a hlt

theorem asDict_of_nodup {fields : List (String × Json)} (h : (fields.map Prod.fst).Nodup) : asDict fields = fields := by
  have hfold : ∀ (done rest : List (String × Json)), ((done ++ rest).map Prod.fst).Nodup →
      rest.foldl setMember done = done ++ rest := by
    intro done rest
    induction rest generalizing done with
    | nil => simp
    | cons f rest ih =>
      intro hnodup
      have hfresh : f.1 ∉ done.map Prod.fst := by
        intro hmem
        simp only [List.map_append,List.map_cons,List.nodup_append,List.mem_cons] at hnodup
        exact hnodup.2.2 f.1 hmem f.1 (.inl rfl) rfl
      rw [List.foldl_cons,setMember_fresh hfresh,ih]
      · simp
      · simpa using hnodup
  simpa [asDict] using hfold [] fields (by simpa using h)

theorem isSpace_number {c : Char} (h : isNumberChar c = true) : isSpace c = false ∧ c ≠ ']' := by
  have hne : ∀ d : Char, isNumberChar d = false → c ≠ d := by
    rintro d hd rfl
    rw [h] at hd
    cases hd
  constructor
  · simp [isSpace,hne ' ' (by decide),hne '\t' (by decide),hne '\n' (by decide),hne '\r' (by decide)]
  · exact hne ']' (by decide)

theorem isMagnitude_cons {l : List Char} (h : isMagnitude l = true) : ∃ c rest, l = c :: rest ∧ c.isDigit = true := by
  cases l with
  | nil => simp [isMagnitude,isDigits] at h
  | cons c rest =>
    refine ⟨c,rest,rfl,?_⟩
    by_contra hdigit
    simp [isMagnitude,isDigits,hdigit] at h

theorem isNumber_cons {l : List Char} (h : isNumber l = true) :
    ∃ c rest, l = c :: rest ∧ (c.isDigit = true ∨ c = '-' ∧ ∃ d more, rest = d :: more ∧ d.isDigit = true) := by
  cases l with
  | nil => simp [isNumber,isMagnitude,isDigits] at h
  | cons c rest =>
    refine ⟨c,rest,rfl,?_⟩
    by_cases hminus : c = '-'
    · exact .inr ⟨hminus,isMagnitude_cons (by simpa [isNumber,hminus] using h)⟩
    · obtain ⟨d,more,heq,hd⟩ := isMagnitude_cons (show isMagnitude (c :: rest) = true by simpa [isNumber,hminus] using h)
      obtain ⟨rfl,rfl⟩ := List.cons.inj heq
      exact .inl hd

theorem mem_nonFinite {l : List Char} (h : nonFinite.contains l = true) :
    l = "NaN".toList ∨ l = "Infinity".toList ∨ l = "-Infinity".toList := by
  simpa [nonFinite] using h

theorem numeral_head {l : List Char} (h : isNumeral l = true) :
    ∃ c rest, l = c :: rest ∧ kindOfChar c = .num ∧ isSpace c = false ∧ c ≠ ']' := by
  rcases Bool.or_eq_true_iff.mp h with hword | hnumber
  · rcases mem_nonFinite hword with rfl | rfl | rfl
    all_goals exact ⟨_,_,rfl,by decide,by decide,by decide⟩
  · obtain ⟨hshape,hall⟩ := Bool.and_eq_true_iff.mp hnumber
    obtain ⟨c,rest,rfl,_⟩ := isNumber_cons hshape
    have hc : isNumberChar c = true := List.all_eq_true.mp hall c (by simp)
    obtain ⟨hspace,hbracket⟩ := isSpace_number hc
    exact ⟨c,rest,rfl,kindOfChar_number hc,hspace,hbracket⟩

theorem nonFinite_not_number {l : List Char} (h : isNumber l = true) (x : List Char) :
    (nonFinite.find? fun word => word.isPrefixOf (l ++ x)) = none := by
  have hdigit : ∀ {c : Char}, c.isDigit = true → ∀ d : Char, d.isDigit = false → d ≠ c := by
    rintro c hc d hd rfl
    rw [hc] at hd
    cases hd
  obtain ⟨c,rest,rfl,hc | ⟨rfl,d,more,rfl,hd⟩⟩ := isNumber_cons h
  · simp [nonFinite,hdigit hc 'N' (by decide),hdigit hc 'I' (by decide),hdigit hc '-' (by decide)]
  · simp [nonFinite,hdigit hd 'I' (by decide)]

theorem scanNumber_word {word x : List Char} (h : (nonFinite.find? fun w => w.isPrefixOf (word ++ x)) = some word) :
    scanNumber (word ++ x) = some (.num (String.ofList word),x) := by
  rw [scanNumber,h]
  simp only [List.drop_left]

theorem scanNumber_numeral {l x : List Char} (h : isNumeral l = true) (hx : Ends x) :
    scanNumber (l ++ x) = some (.num (String.ofList l),x) := by
  rcases Bool.or_eq_true_iff.mp h with hword | hnumber
  · apply scanNumber_word
    rcases mem_nonFinite hword with rfl | rfl | rfl
    all_goals rfl
  · obtain ⟨hshape,hall⟩ := Bool.and_eq_true_iff.mp hnumber
    have htake : (l ++ x).takeWhile isNumberChar = l := by
      rw [List.takeWhile_append_of_pos (List.all_eq_true.mp hall)]
      cases x with
      | nil => simp
      | cons c x => simp [hx c rfl]
    have hdrop : (l ++ x).dropWhile isNumberChar = x := by
      rw [List.dropWhile_append_of_pos (List.all_eq_true.mp hall)]
      cases x with
      | nil => simp
      | cons c x => simp [hx c rfl]
    rw [scanNumber,nonFinite_not_number hshape]
    simp only [htake,hdrop,hshape,if_true]

theorem printed_head (gap : List Char) {j : Json} (h : j.Keyed) :
    ∃ c rest, printed gap j = c :: rest ∧ kindOfChar c = j.kind ∧ isSpace c = false ∧ c ≠ ']' := by
  cases j with
  | null => exact ⟨_,_,rfl,by decide,by decide,by decide⟩
  | bool b => cases b <;> exact ⟨_,_,rfl,by decide,by decide,by decide⟩
  | num text =>
    simp only [Keyed] at h
    exact numeral_head h
  | str s => exact ⟨_,_,rfl,rfl,by decide,by decide⟩
  | arr items => exact ⟨_,_,rfl,rfl,by decide,by decide⟩
  | obj fields => exact ⟨_,_,rfl,rfl,by decide,by decide⟩

theorem scanWord_append (word : String) (j : Json) (x : List Char) : scanWord word j (word.toList ++ x) = some (j,x) := by
  have hprefix : word.toList.isPrefixOf (word.toList ++ x) = true := by simp
  rw [scanWord,if_pos hprefix,← String.length_toList,List.drop_left]

theorem ends_printedMoreItems (gap : List Char) (items : List Json) (x : List Char) : Ends (printedMoreItems gap items ++ x) := by
  cases items with
  | nil => exact ends_cons (by decide) _
  | cons item rest => exact ends_cons (by decide) _

theorem ends_printedMoreMembers (gap : List Char) (fields : List (String × Json)) (x : List Char) :
    Ends (printedMoreMembers gap fields ++ x) := by
  cases fields with
  | nil => exact ends_cons (by decide) _
  | cons f rest => exact ends_cons (by decide) _

theorem printedMoreItems_pos (gap : List Char) (items : List Json) : 0 < (printedMoreItems gap items).length := by
  cases items <;> simp [printedMoreItems]

theorem printedMoreMembers_pos (gap : List Char) (fields : List (String × Json)) : 0 < (printedMoreMembers gap fields).length := by
  cases fields <;> simp [printedMoreMembers]

theorem printed_pos (gap : List Char) {j : Json} (h : j.Keyed) : 0 < (printed gap j).length := by
  obtain ⟨c,rest,heq,_⟩ := printed_head gap h
  simp [heq]

mutual

theorem scanValue_printed {gap : List Char} (hgap : Blank gap) : ∀ (j : Json) (fuel : Nat) (x : List Char), j.Keyed → (printed gap j).length ≤ fuel → Ends x →
    ∀ blanks : List Char, Blank blanks → scanValue fuel (blanks ++ (printed gap j ++ x)) = some (j,x) := by
  intro j fuel x hj hfuel hx blanks hblanks
  obtain ⟨c,rest,hhead,hkind,hspace,_⟩ := printed_head gap hj
  obtain ⟨n,rfl⟩ : ∃ n, fuel = n + 1 := ⟨fuel - 1,by have := printed_pos gap hj; omega⟩
  have hskip : skipSpace (blanks ++ (printed gap j ++ x)) = c :: (rest ++ x) := by
    rw [hhead,List.cons_append,skipSpace_cons hblanks hspace]
  have hall : c :: (rest ++ x) = printed gap j ++ x := by rw [hhead,List.cons_append]
  rw [scanValue,hskip]
  simp only [hkind]
  match j with
  | .null =>
    simp only [kind,hall]
    exact scanWord_append "null" .null x
  | .bool true =>
    simp only [kind,hall]
    exact scanWord_append "true" (.bool true) x
  | .bool false =>
    simp only [kind,hall]
    exact scanWord_append "false" (.bool false) x
  | .num text =>
    simp only [Keyed] at hj
    simp only [kind,hall]
    have hscan := scanNumber_numeral hj hx
    rwa [String.ofList_toList] at hscan
  | .str s =>
    obtain ⟨rfl,rfl⟩ := List.cons.inj (show quoted s = c :: rest from hhead)
    have hlength := length_le_quotedBody s.toList
    have hscan := scanString_quotedBody s.toList (show s.toList.length < n by
      simp only [printed,chars,quoted,List.length_cons] at hfuel
      omega) x
    simp only [kind,hscan,Option.map_some,String.ofList_toList]
  | .arr items =>
    obtain ⟨rfl,rfl⟩ := List.cons.inj (show '[' :: printedItems gap items = c :: rest from hhead)
    simp only [Keyed] at hj
    have hscan := scanItems_printed hgap items n x hj (by simpa [printed] using hfuel)
    simp only [kind,hscan,Option.map_some]
  | .obj fields =>
    obtain ⟨rfl,rfl⟩ := List.cons.inj (show '\x7b' :: printedMembers gap fields = c :: rest from hhead)
    simp only [Keyed] at hj
    have hscan := scanMembers_printed hgap fields n x hj.2 (by simpa [printed] using hfuel)
    simp only [kind,hscan,Option.map_some,asDict_of_nodup hj.1]
termination_by _ fuel => fuel

theorem scanItems_printed {gap : List Char} (hgap : Blank gap) : ∀ (items : List Json) (fuel : Nat) (x : List Char), ItemsKeyed items →
    (printedItems gap items).length ≤ fuel → scanItems fuel (printedItems gap items ++ x) = some (items,x) := by
  intro items fuel x hitems hfuel
  match items with
  | [] =>
    obtain ⟨n,rfl⟩ : ∃ n, fuel = n + 1 := ⟨fuel - 1,by simp [printedItems] at hfuel; omega⟩
    simp [scanItems,printedItems,skipSpace,isSpace]
  | item :: rest =>
    simp only [ItemsKeyed] at hitems
    simp only [printedItems,List.length_append] at hfuel
    have hmore := printedMoreItems_pos gap rest
    have hpos := printed_pos gap hitems.1
    obtain ⟨n,rfl⟩ : ∃ n, fuel = n + 1 := ⟨fuel - 1,by omega⟩
    obtain ⟨c,front,hhead,_,hspace,hbracket⟩ := printed_head gap hitems.1
    have hopen : (skipSpace (printedItems gap (item :: rest) ++ x)).head? ≠ some ']' := by
      have hskip := skipSpace_cons blank_nil hspace (front ++ (printedMoreItems gap rest ++ x))
      simp only [List.nil_append] at hskip
      simp only [printedItems,hhead,List.cons_append,List.append_assoc,hskip,List.head?_cons]
      simpa using hbracket
    have hitem := scanValue_printed hgap item n (printedMoreItems gap rest ++ x) hitems.1 (by omega) (ends_printedMoreItems gap rest x) [] blank_nil
    have hrest := scanMoreItems_printed hgap rest n x hitems.2 (by omega)
    rw [scanItems,if_neg hopen]
    simp only [printedItems,List.append_assoc,List.nil_append] at hitem ⊢
    simp [hitem,hrest]
termination_by _ fuel => fuel

theorem scanMoreItems_printed {gap : List Char} (hgap : Blank gap) : ∀ (items : List Json) (fuel : Nat) (x : List Char), ItemsKeyed items →
    (printedMoreItems gap items).length ≤ fuel → scanMoreItems fuel (printedMoreItems gap items ++ x) = some (items,x) := by
  intro items fuel x hitems hfuel
  match items with
  | [] =>
    obtain ⟨n,rfl⟩ : ∃ n, fuel = n + 1 := ⟨fuel - 1,by simp [printedMoreItems] at hfuel; omega⟩
    simp [scanMoreItems,printedMoreItems,skipSpace,isSpace]
  | item :: rest =>
    simp only [ItemsKeyed] at hitems
    simp only [printedMoreItems,List.length_append,List.length_cons] at hfuel
    have hpos := printed_pos gap hitems.1
    obtain ⟨n,rfl⟩ : ∃ n, fuel = n + 1 := ⟨fuel - 1,by omega⟩
    have hitem := scanValue_printed hgap item n (printedMoreItems gap rest ++ x) hitems.1 (by omega) (ends_printedMoreItems gap rest x) gap
      hgap
    have hrest := scanMoreItems_printed hgap rest n x hitems.2 (by omega)
    have hskip := skipSpace_cons blank_nil (c := ',') (by decide)
      (gap ++ (printed gap item ++ (printedMoreItems gap rest ++ x)))
    simp only [List.nil_append] at hskip
    simp [scanMoreItems,printedMoreItems,hskip,hitem,hrest]
termination_by _ fuel => fuel

theorem scanMembers_printed {gap : List Char} (hgap : Blank gap) : ∀ (fields : List (String × Json)) (fuel : Nat) (x : List Char), MembersKeyed fields →
    (printedMembers gap fields).length ≤ fuel → scanMembers fuel (printedMembers gap fields ++ x) = some (fields,x) := by
  intro fields fuel x hfields hfuel
  match fields with
  | [] =>
    obtain ⟨n,rfl⟩ : ∃ n, fuel = n + 1 := ⟨fuel - 1,by simp [printedMembers] at hfuel; omega⟩
    simp [scanMembers,printedMembers,skipSpace,isSpace]
  | (name,value) :: rest =>
    simp only [MembersKeyed] at hfields
    simp only [printedMembers,List.length_append,List.length_cons] at hfuel
    have hmore := printedMoreMembers_pos gap rest
    obtain ⟨n,rfl⟩ : ∃ n, fuel = n + 1 := ⟨fuel - 1,by omega⟩
    have hmember := scanMember_printed hgap name value n (printedMoreMembers gap rest ++ x) hfields.1 (by omega)
      (ends_printedMoreMembers gap rest x) [] blank_nil
    have hrest := scanMoreMembers_printed hgap rest n x hfields.2 (by omega)
    have hopen : (skipSpace (printedMembers gap ((name,value) :: rest) ++ x)).head? ≠ some '\x7d' := by
      simp [printedMembers,quoted,skipSpace,isSpace]
    rw [scanMembers,if_neg hopen]
    simp only [List.nil_append] at hmember
    simp [printedMembers,hmember,hrest]
termination_by _ fuel => fuel

theorem scanMoreMembers_printed {gap : List Char} (hgap : Blank gap) : ∀ (fields : List (String × Json)) (fuel : Nat) (x : List Char), MembersKeyed fields →
    (printedMoreMembers gap fields).length ≤ fuel → scanMoreMembers fuel (printedMoreMembers gap fields ++ x) = some (fields,x) := by
  intro fields fuel x hfields hfuel
  match fields with
  | [] =>
    obtain ⟨n,rfl⟩ : ∃ n, fuel = n + 1 := ⟨fuel - 1,by simp [printedMoreMembers] at hfuel; omega⟩
    simp [scanMoreMembers,printedMoreMembers,skipSpace,isSpace]
  | (name,value) :: rest =>
    simp only [MembersKeyed] at hfields
    simp only [printedMoreMembers,List.length_append,List.length_cons] at hfuel
    obtain ⟨n,rfl⟩ : ∃ n, fuel = n + 1 := ⟨fuel - 1,by omega⟩
    have hmember := scanMember_printed hgap name value n (printedMoreMembers gap rest ++ x) hfields.1 (by omega)
      (ends_printedMoreMembers gap rest x) gap hgap
    have hrest := scanMoreMembers_printed hgap rest n x hfields.2 (by omega)
    have hskip := skipSpace_cons blank_nil (c := ',') (by decide)
      (gap ++ (quoted name ++ ':' :: (gap ++ (printed gap value ++ (printedMoreMembers gap rest ++ x)))))
    simp only [List.nil_append] at hskip
    simp [scanMoreMembers,printedMoreMembers,hskip,hmember,hrest]
termination_by _ fuel => fuel

theorem scanMember_printed {gap : List Char} (hgap : Blank gap) : ∀ (name : String) (value : Json) (fuel : Nat) (x : List Char), value.Keyed →
    (quoted name).length + (gap.length + (printed gap value).length + 1) ≤ fuel + 1 → Ends x →
    ∀ blanks : List Char, Blank blanks →
      scanMember fuel (blanks ++ (quoted name ++ ':' :: (gap ++ (printed gap value ++ x)))) = some ((name,value),x) := by
  intro name value fuel x hvalue hfuel hx blanks hblanks
  have hlength := length_le_quotedBody name.toList
  simp only [quoted,List.length_cons] at hfuel
  obtain ⟨n,rfl⟩ : ∃ n, fuel = n + 1 := ⟨fuel - 1,by omega⟩
  have hskip := skipSpace_cons hblanks (c := '"') (by decide) (quotedBody name.toList ++ ':' :: (gap ++ (printed gap value ++ x)))
  have hname := scanString_quotedBody name.toList (show name.toList.length < n by omega) (':' :: (gap ++ (printed gap value ++ x)))
  have hcolon := skipSpace_cons blank_nil (c := ':') (by decide) (gap ++ (printed gap value ++ x))
  simp only [List.nil_append] at hcolon
  have hscan := scanValue_printed hgap value n x hvalue (by omega) hx gap hgap
  simp [scanMember,quoted,hskip,hname,hcolon,hscan]
termination_by _ _ fuel => fuel

end

mutual

theorem Proper.keyed : ∀ j : Json, j.Proper → j.Keyed := by
  intro j h
  match j with
  | .null => trivial
  | .bool b => trivial
  | .num text => exact h
  | .str s => trivial
  | .arr items => exact itemsKeyed_of_proper items h
  | .obj fields => exact ⟨names_nodup h.1,membersKeyed_of_proper fields h.2⟩

theorem itemsKeyed_of_proper : ∀ items : List Json, ItemsProper items → ItemsKeyed items := by
  intro items h
  match items with
  | [] => trivial
  | item :: rest => exact ⟨Proper.keyed item h.1,itemsKeyed_of_proper rest h.2⟩

theorem membersKeyed_of_proper : ∀ fields : List (String × Json), MembersProper fields → MembersKeyed fields := by
  intro fields h
  match fields with
  | [] => trivial
  | (name,value) :: rest => exact ⟨Proper.keyed value h.1,membersKeyed_of_proper rest h.2⟩

end

theorem loads_printed_keyed {gap : List Char} (hgap : Blank gap) {j : Json} (h : j.Keyed) :
    loads (String.ofList (printed gap j)) = some j := by
  have hscan := scanValue_printed hgap j ((printed gap j).length + 1) [] h (by omega) ends_nil [] blank_nil
  simp only [List.nil_append,List.append_nil] at hscan
  rw [loads,String.toList_ofList,hscan]
  simp [skipSpace]

theorem loads_printed {gap : List Char} (hgap : Blank gap) {j : Json} (h : j.Proper) :
    loads (String.ofList (printed gap j)) = some j := loads_printed_keyed hgap (Proper.keyed j h)

theorem loads_dumps_keyed {j : Json} (h : j.Keyed) : loads j.dumps = some j := by
  have hcompact := loads_printed_keyed blank_nil h
  rwa [printed_compact] at hcompact

theorem loads_dumps {j : Json} (h : j.Proper) : loads j.dumps = some j := loads_dumps_keyed (Proper.keyed j h)

end SafeAgents.Json
