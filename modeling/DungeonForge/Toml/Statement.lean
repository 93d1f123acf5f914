import DungeonForge.Toml.Moment
import DungeonForge.Toml.Number
import DungeonForge.Toml.Text
import DungeonForge.Toml.Value

/-!
The lines of a TOML document: headers of tables, headers of list elements, and keys with values.
Arrays and braced tables may be nested eighty deep.
-/

namespace DungeonForge.Toml

inductive Statement
  | table (path : List String)
  | element (path : List String)
  | assign (path : List String) (v : Value)
deriving Repr

def isScalarChar (c : Char) : Bool :=
  c.isAlphanum || c = '_' || c = '-' || c = '+' || c = '.' || c = ':'

def word? (cs : List Char) : Option Value :=
  if cs = ['t', 'r', 'u', 'e'] then some (.boolean true)
  else if cs = ['f', 'a', 'l', 's', 'e'] then some (.boolean false)
  else
    match moment? cs with
    | some m => some (.moment (String.ofList m))
    | none =>
      match number? cs with
      | some (.integer n) => some (.integer n)
      | some (.real x) => some (.real x)
      | none => none

/-- The word at the front of a text. A date goes on over one blank if a time follows it. -/
def splitWord (cs : List Char) : List Char × List Char :=
  let w := cs.takeWhile isScalarChar
  let rest := cs.dropWhile isScalarChar
  match readDate w, rest with
  | some (_, []), ' ' :: more =>
    let time := more.takeWhile isScalarChar
    if (readTime time).isSome then (w ++ ' ' :: time, more.dropWhile isScalarChar) else (w, rest)
  | _, _ => (w, rest)

def readWord (cs : List Char) : Option (Value × List Char) :=
  let (w, rest) := splitWord cs
  (word? w).map fun v => (v, rest)

def readItems (value : Reader Value) : Nat → Reader (List Value)
  | 0, _ => none
  | fuel + 1, cs => do
    match ← skipLines false cs with
    | ']' :: rest => return ([], rest)
    | cs =>
      let (v, cs) ← value cs
      match ← skipLines false cs with
      | ',' :: rest =>
        let (vs, rest) ← readItems value fuel rest
        return (v :: vs, rest)
      | ']' :: rest => return ([v], rest)
      | _ => none

def readAssignment (value : Reader Value) (cs : List Char) :
    Option ((List String × Value) × List Char) := do
  let (path, cs) ← readKey maxKeyParts cs
  match skipBlanks cs with
  | '=' :: rest =>
    let (v, rest) ← value (skipBlanks rest)
    return ((path, v), rest)
  | _ => none

def readBraced (value : Reader Value) : Nat → Entries → Reader Entries
  | 0, _, _ => none
  | fuel + 1, es, cs => do
    match ← skipLines false cs with
    | '\x7d' :: rest => return (es, rest)
    | cs =>
      let ((path, v), cs) ← readAssignment value cs
      let es ← es.assign true v path
      match ← skipLines false cs with
      | ',' :: rest => readBraced value fuel es rest
      | '\x7d' :: rest => return (es, rest)
      | _ => none

/-- A value; containers may be nested as deep as the first argument says. -/
def readValue : Nat → Reader Value
  | depth, cs =>
    match depth, cs with
    | _, '"' :: _ => (readString cs).map fun (s, rest) => (.text s, rest)
    | _, '\'' :: _ => (readString cs).map fun (s, rest) => (.text s, rest)
    | 0, '[' :: _ => none
    | 0, '\x7b' :: _ => none
    | depth + 1, '[' :: rest =>
      (readItems (readValue depth) (rest.length + 1) rest).map fun (vs, rest) => (.array vs, rest)
    | depth + 1, '\x7b' :: rest =>
      (readBraced (readValue depth) (rest.length + 1) [] rest).map fun (es, rest) =>
        (.table .closed es, rest)
    | _, cs => readWord cs

def maxDepth : Nat := 80

def readStatement (cs : List Char) : Option (Statement × List Char) :=
  match cs with
  | '[' :: '[' :: rest => do
    let (path, rest) ← readKey maxKeyParts rest
    match rest with
    | ']' :: ']' :: rest => return (.element path, ← lineEnd rest)
    | _ => none
  | '[' :: rest => do
    let (path, rest) ← readKey maxKeyParts rest
    match rest with
    | ']' :: rest => return (.table path, ← lineEnd rest)
    | _ => none
  | cs => do
    let ((path, v), rest) ← readAssignment (readValue maxDepth) cs
    return (.assign path v, ← lineEnd rest)

def readStatements : Nat → List Char → Option (List Statement)
  | 0, _ => none
  | fuel + 1, cs => do
    match ← skipLines false cs with
    | [] => return []
    | cs =>
      let (s, rest) ← readStatement cs
      return s :: (← readStatements fuel rest)

end DungeonForge.Toml
