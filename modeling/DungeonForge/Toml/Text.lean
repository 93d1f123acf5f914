import DungeonForge.Decimal.Basic

/-!
Strings, keys, blanks and comments of TOML. Every function reads from the front of a text and gives
what is left of it.
-/

namespace DungeonForge.Toml

/-- Reads from the front of a text; fails or gives a result and the rest. -/
abbrev Reader (α : Type) := List Char → Option (α × List Char)

def isBlank (c : Char) : Bool :=
  c = ' ' || c = '\t'

def skipBlanks (cs : List Char) : List Char :=
  cs.dropWhile isBlank

def isPlain (c : Char) : Bool :=
  c = '\t' || (0x20 ≤ c.toNat && c.toNat ≠ 0x7f)

def skipComment : List Char → Option (List Char)
  | [] => some []
  | '\n' :: cs => some ('\n' :: cs)
  | '\r' :: '\n' :: cs => some ('\n' :: cs)
  | c :: cs => if isPlain c then skipComment cs else none

def skipLines (inComment : Bool) : List Char → Option (List Char)
  | [] => some []
  | '\n' :: cs => skipLines false cs
  | '\r' :: '\n' :: cs => skipLines false cs
  | c :: cs =>
    if inComment then (if isPlain c then skipLines true cs else none)
    else if isBlank c then skipLines false cs
    else if c = '#' then skipLines true cs
    else some (c :: cs)

def lineEnd (cs : List Char) : Option (List Char) := do
  let cs := skipBlanks cs
  let cs ← match cs with
    | '#' :: cs => skipComment cs
    | cs => some cs
  match cs with
  | [] => some []
  | '\n' :: cs => some cs
  | '\r' :: '\n' :: cs => some cs
  | _ => none

def scalar? (n : Nat) : Option Char :=
  if h : n.isValidChar then some (Char.ofNatAux n h) else none

def hexExactly : Nat → Nat → Reader Nat
  | 0, acc, cs => some (acc, cs)
  | n + 1, acc, c :: cs => do hexExactly n (16 * acc + (← Decimal.hexValue? c)) cs
  | _ + 1, _, [] => none

def escapeWidth? : Char → Option Nat
  | 'x' => some 2
  | 'u' => some 4
  | 'U' => some 8
  | _ => none

def letterEscape? : Char → Option Char
  | 'b' => some '\x08'
  | 't' => some '\t'
  | 'n' => some '\n'
  | 'f' => some '\x0c'
  | 'r' => some '\r'
  | 'e' => some '\x1b'
  | '"' => some '"'
  | '\\' => some '\\'
  | _ => none

def readEscape (cs : List Char) : Option (Char × List Char) :=
  match cs with
  | [] => none
  | c :: cs =>
    match letterEscape? c with
    | some e => some (e, cs)
    | none => do
      let (n, rest) ← hexExactly (← escapeWidth? c) 0 cs
      return (← scalar? n, rest)

def readBasic : Nat → List Char → Reader (List Char)
  | 0, _, _ => none
  | fuel + 1, reversed, cs =>
    match cs with
    | '"' :: rest => some (reversed.reverse, rest)
    | '\\' :: rest => do
      let (c, rest) ← readEscape rest
      readBasic fuel (c :: reversed) rest
    | c :: rest => if isPlain c then readBasic fuel (c :: reversed) rest else none
    | [] => none

def readVerbatim (reversed : List Char) : Reader (List Char)
  | '\'' :: rest => some (reversed.reverse, rest)
  | c :: rest => if isPlain c then readVerbatim (c :: reversed) rest else none
  | [] => none

/-- Three to five quotes at the front of a text end a long string; those before the last three
belong to it. -/
def closingQuotes (q : Char) (cs : List Char) : Option (List Char × List Char) :=
  let n := (cs.takeWhile (· = q)).length
  if n < 3 then none
  else
    let kept := min n 5 - 3
    some (List.replicate kept q, cs.drop (kept + 3))

def skipSwallowed : List Char → List Char
  | '\n' :: cs => skipSwallowed cs
  | '\r' :: '\n' :: cs => skipSwallowed cs
  | c :: cs => if isBlank c then skipSwallowed cs else c :: cs
  | [] => []

/-- The text after an escaped line break, if the backslash before the text escapes one. -/
def escapedBreak? (cs : List Char) : Option (List Char) :=
  match skipBlanks cs with
  | '\n' :: rest => some (skipSwallowed rest)
  | '\r' :: '\n' :: rest => some (skipSwallowed rest)
  | _ => none

def readLongBasic : Nat → List Char → Reader (List Char)
  | 0, _, _ => none
  | fuel + 1, reversed, cs =>
    match closingQuotes '"' cs with
    | some (kept, rest) => some (reversed.reverse ++ kept, rest)
    | none =>
      match cs with
      | '\\' :: rest =>
        match escapedBreak? rest with
        | some rest => readLongBasic fuel reversed rest
        | none => do
          let (c, rest) ← readEscape rest
          readLongBasic fuel (c :: reversed) rest
      | '\r' :: '\n' :: rest => readLongBasic fuel ('\n' :: '\r' :: reversed) rest
      | c :: rest =>
        if isPlain c || c = '\n' then readLongBasic fuel (c :: reversed) rest else none
      | [] => none

def readLongVerbatim : Nat → List Char → Reader (List Char)
  | 0, _, _ => none
  | fuel + 1, reversed, cs =>
    match closingQuotes '\'' cs with
    | some (kept, rest) => some (reversed.reverse ++ kept, rest)
    | none =>
      match cs with
      | '\r' :: '\n' :: rest => readLongVerbatim fuel ('\n' :: '\r' :: reversed) rest
      | c :: rest =>
        if isPlain c || c = '\n' then readLongVerbatim fuel (c :: reversed) rest else none
      | [] => none

/-- The line break right after the opening quotes of a long string does not belong to it. -/
def skipFirstBreak : List Char → List Char
  | '\n' :: cs => cs
  | '\r' :: '\n' :: cs => cs
  | cs => cs

def readString (cs : List Char) : Option (String × List Char) :=
  let finish (r : Option (List Char × List Char)) := r.map fun (text, rest) =>
    (String.ofList text, rest)
  match cs with
  | '"' :: '"' :: '"' :: rest =>
    let rest := skipFirstBreak rest
    finish (readLongBasic (rest.length + 1) [] rest)
  | '\'' :: '\'' :: '\'' :: rest =>
    let rest := skipFirstBreak rest
    finish (readLongVerbatim (rest.length + 1) [] rest)
  | '"' :: rest => finish (readBasic (rest.length + 1) [] rest)
  | '\'' :: rest => finish (readVerbatim [] rest)
  | _ => none

def isBareKey (c : Char) : Bool :=
  c.isAlphanum || c = '_' || c = '-'

def readSimpleKey (cs : List Char) : Option (String × List Char) :=
  match cs with
  | '"' :: rest => (readBasic (rest.length + 1) [] rest).map fun (t, r) => (String.ofList t, r)
  | '\'' :: rest => (readVerbatim [] rest).map fun (t, r) => (String.ofList t, r)
  | cs =>
    let bare := cs.takeWhile isBareKey
    if bare.isEmpty then none else some (String.ofList bare, cs.dropWhile isBareKey)

def maxKeyParts : Nat := 80

/-- A key with points between its parts, of which there may be as many as the first argument says. -/
def readKey : Nat → Reader (List String)
  | 0, _ => none
  | parts + 1, cs => do
    let (k, cs) ← readSimpleKey (skipBlanks cs)
    match skipBlanks cs with
    | '.' :: rest =>
      let (ks, rest) ← readKey parts rest
      return (k :: ks, rest)
    | rest => return ([k], rest)

end DungeonForge.Toml
