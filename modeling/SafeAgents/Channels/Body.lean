import SafeAgents.Channels.Dispatch

namespace SafeAgents.Channels

open Lexical

-- What json.loads makes of a request's body: its strings may hold unpaired surrogates.
inductive PyValue where
  | null
  | bool (b : Bool)
  | num (text : PyStr)
  | str (s : PyStr)
  | arr (items : List PyValue)
  | obj (fields : List (PyStr × PyValue))

-- The limits of the interpreter that reads the body: how deep its scanner nests, and which numerals it converts.
structure Interpreter where
  maxDepth : Nat
  converts : PyStr → Bool

namespace PyValue

def isBlank (n : Nat) : Bool := n == 32 || n == 9 || n == 10 || n == 13

def skipBlanks (l : PyStr) : PyStr := l.dropWhile isBlank

def isDigit (n : Nat) : Bool := 48 ≤ n && n ≤ 57

def scanHex : PyStr → Option (Nat × PyStr)
  | a :: b :: c :: d :: rest => do
    let digit n := hexDigit (Char.ofNat n)
    let a ← digit a
    let b ← digit b
    let c ← digit c
    let d ← digit d
    return (a * 4096 + b * 256 + c * 16 + d,rest)
  | _ => none

def scanPair (high : Nat) (rest : PyStr) : Nat × PyStr :=
  match rest with
  | 92 :: 117 :: tail =>
    match scanHex tail with
    | some (low,after) =>
      if isHighSurrogate high && isLowSurrogate low then (65536 + (high - 55296) * 1024 + (low - 56320),after) else (high,rest)
    | none => (high,rest)
  | _ => (high,rest)

def escapes : List (Nat × Nat) := [(34,34),(92,92),(47,47),(98,8),(102,12),(110,10),(114,13),(116,9)]

def scanString : Nat → PyStr → Option (PyStr × PyStr)
  | 0, _ => none
  | _ + 1, [] => none
  | fuel + 1, 34 :: rest => some ([],rest)
  | fuel + 1, 92 :: 117 :: rest => do
    let (n,rest) ← scanHex rest
    let (c,rest) := scanPair n rest
    let (body,rest) ← scanString fuel rest
    return (c :: body,rest)
  | fuel + 1, 92 :: mark :: rest => do
    let c ← escapes.lookup mark
    let (body,rest) ← scanString fuel rest
    return (c :: body,rest)
  | fuel + 1, c :: rest =>
    if c < 32 || c == 92 then none
    else do
      let (body,rest) ← scanString fuel rest
      return (c :: body,rest)

def scanDigits (l : PyStr) : PyStr × PyStr := (l.takeWhile isDigit,l.dropWhile isDigit)

def scanInteger : PyStr → Option (PyStr × PyStr)
  | 48 :: rest => some ([48],rest)
  | l => if (scanDigits l).1 = [] then none else some (scanDigits l)

def scanFraction (l : PyStr) : PyStr × PyStr :=
  match l with
  | 46 :: rest => if (scanDigits rest).1 = [] then ([],l) else (46 :: (scanDigits rest).1,(scanDigits rest).2)
  | _ => ([],l)

def scanSign (l : PyStr) : PyStr × PyStr :=
  match l with
  | 43 :: rest => ([43],rest)
  | 45 :: rest => ([45],rest)
  | _ => ([],l)

def scanExponent (l : PyStr) : PyStr × PyStr :=
  match l with
  | e :: rest =>
    let (sign,digits) := scanSign rest
    if (e == 101 || e == 69) && !(scanDigits digits).1.isEmpty then (e :: sign ++ (scanDigits digits).1,(scanDigits digits).2) else ([],l)
  | [] => ([],l)

def scanMagnitude (l : PyStr) : Option (PyStr × PyStr) := do
  let (integer,rest) ← scanInteger l
  let (fraction,rest) := scanFraction rest
  let (exponent,rest) := scanExponent rest
  return (integer ++ fraction ++ exponent,rest)

def words : List (PyStr × PyValue) :=
  [(.ofString "null",.null),(.ofString "true",.bool true),(.ofString "false",.bool false),(.ofString "NaN",.num (.ofString "NaN")),
    (.ofString "Infinity",.num (.ofString "Infinity")),(.ofString "-Infinity",.num (.ofString "-Infinity"))]

def scanNumber (i : Interpreter) (l : PyStr) : Option (PyValue × PyStr) := do
  let (sign,digits) := if l.head? = some 45 then ([45],l.tail) else ([],l)
  let (text,rest) ← scanMagnitude digits
  if i.converts (sign ++ text) then some (.num (sign ++ text),rest) else none

def scanScalar (i : Interpreter) (l : PyStr) : Option (PyValue × PyStr) :=
  match words.find? fun w => w.1.isPrefixOf l with
  | some (word,value) => some (value,l.drop word.length)
  | none => scanNumber i l

variable (i : Interpreter)

mutual

def scanValue : Nat → Nat → PyStr → Option (PyValue × PyStr)
  | 0, _, _ => none
  | fuel + 1, depth, l =>
    match l, depth with
    | 34 :: rest, _ => (scanString (rest.length + 1) rest).map fun (s,rest) => (.str s,rest)
    | 91 :: rest, depth + 1 => (scanItems fuel depth (skipBlanks rest)).map fun (items,rest) => (.arr items,rest)
    | 123 :: rest, depth + 1 => (scanMembers fuel depth (skipBlanks rest)).map fun (fields,rest) => (.obj fields,rest)
    | l, _ => scanScalar i l

def scanItems : Nat → Nat → PyStr → Option (List PyValue × PyStr)
  | 0, _, _ => none
  | _ + 1, _, 93 :: rest => some ([],rest)
  | fuel + 1, depth, l => do
    let (item,rest) ← scanValue fuel depth l
    let (items,rest) ← scanMoreItems fuel depth (skipBlanks rest)
    return (item :: items,rest)

def scanMoreItems : Nat → Nat → PyStr → Option (List PyValue × PyStr)
  | 0, _, _ => none
  | _ + 1, _, 93 :: rest => some ([],rest)
  | fuel + 1, depth, 44 :: rest => do
    let (item,rest) ← scanValue fuel depth (skipBlanks rest)
    let (items,rest) ← scanMoreItems fuel depth (skipBlanks rest)
    return (item :: items,rest)
  | _ + 1, _, _ => none

def scanMembers : Nat → Nat → PyStr → Option (List (PyStr × PyValue) × PyStr)
  | 0, _, _ => none
  | _ + 1, _, 125 :: rest => some ([],rest)
  | fuel + 1, depth, l => do
    let (member,rest) ← scanMember fuel depth l
    let (members,rest) ← scanMoreMembers fuel depth (skipBlanks rest)
    return (member :: members,rest)

def scanMoreMembers : Nat → Nat → PyStr → Option (List (PyStr × PyValue) × PyStr)
  | 0, _, _ => none
  | _ + 1, _, 125 :: rest => some ([],rest)
  | fuel + 1, depth, 44 :: rest => do
    let (member,rest) ← scanMember fuel depth (skipBlanks rest)
    let (members,rest) ← scanMoreMembers fuel depth (skipBlanks rest)
    return (member :: members,rest)
  | _ + 1, _, _ => none

def scanMember : Nat → Nat → PyStr → Option ((PyStr × PyValue) × PyStr)
  | 0, _, _ => none
  | fuel + 1, depth, 34 :: rest => do
    let (name,rest) ← scanString (rest.length + 1) rest
    match skipBlanks rest with
    | 58 :: rest => do
      let (value,rest) ← scanValue fuel depth (skipBlanks rest)
      return ((name,value),rest)
    | _ => none
  | _ + 1, _, _ => none

end

def loads (body : PyStr) : Option PyValue :=
  match scanValue i (2 * body.length + 2) i.maxDepth (skipBlanks body) with
  | some (value,rest) => if skipBlanks rest = [] then some value else none
  | none => none

-- A dict keeps the last value given to a name.
def get? (name : String) : PyValue → Option PyValue
  | .obj fields => fields.reverse.lookup (.ofString name)
  | _ => none

def str? : PyValue → Option PyStr
  | .str s => some s
  | _ => none

end PyValue

end SafeAgents.Channels
