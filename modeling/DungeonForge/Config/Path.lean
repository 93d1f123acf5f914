import DungeonForge.Config.Node
import DungeonForge.Toml.Number
import DungeonForge.Toml.Text

/-!
Paths into a configuration tree: a name, then names behind points and numbers in brackets. Following
a path makes what is missing on the way: a table where a name is asked for, a list long enough where
a number is. A negative number counts from the end of a list and lengthens it at the front.
-/

namespace DungeonForge.Config

inductive PathStep
  | key (name : String)
  | index (i : Int)
deriving DecidableEq, Repr

structure Path where
  root : String
  steps : List PathStep
deriving DecidableEq, Repr

namespace Path

def isNameChar (c : Char) : Bool :=
  c.isAlphanum || c = '_' || c = '-'

def readName (cs : List Char) : Option (String × List Char) :=
  let name := cs.takeWhile isNameChar
  if name.isEmpty then none else some (String.ofList name, cs.dropWhile isNameChar)

def readIndex (cs : List Char) : Option (Int × List Char) :=
  let cs := Toml.skipBlanks cs
  let (negative, cs) := match cs with
    | '-' :: cs => (true, cs)
    | cs => (false, cs)
  let ds := cs.takeWhile Char.isDigit
  let n : Int := Decimal.ofDigits ds
  let n := if negative then -n else n
  match Toml.skipBlanks (cs.dropWhile Char.isDigit) with
  | ']' :: rest => if ds.isEmpty || !Toml.fitsWord n then none else some (n, rest)
  | _ => none

def readSteps : Nat → List Char → Option (List PathStep)
  | _, [] => some []
  | 0, _ => none
  | fuel + 1, '.' :: cs => do
    let (name, cs) ← readName cs
    return .key name :: (← readSteps fuel cs)
  | fuel + 1, '[' :: cs => do
    let (i, cs) ← readIndex cs
    return .index i :: (← readSteps fuel cs)
  | _ + 1, _ => none

def ofText? (text : String) : Option Path := do
  let cs := text.toList
  let (root, cs) ← readName cs
  return ⟨root, ← readSteps cs.length cs⟩

/-- A text that spells no path is a single name. -/
def ofText (text : String) : Path :=
  (ofText? text).getD ⟨text, []⟩

end Path

namespace Node

/-- Changes the entry with a key. A node that is no table becomes one first. -/
def changeKey (key : String) (change : Node → Node) (n : Node) : Node :=
  let (origin, entries) := match n with
    | .table o es => (o, es)
    | _ => (none, [])
  if entries.any fun e => e.1 == key then
    .table origin (entries.map fun e => if e.1 == key then (e.1, change e.2) else e)
  else
    .table origin (entries ++ [(key, change nothing)])

def changeIndex (i : Int) (change : Node → Node) (n : Node) : Node :=
  let (origin, items) := match n with
    | .list o xs => (o, xs)
    | _ => (none, [])
  match i with
  | .ofNat k =>
    .list origin ((items ++ List.replicate (k + 1 - items.length) nothing).modify k change)
  | .negSucc k =>
    let filled := List.replicate (k + 1 - items.length) nothing ++ items
    .list origin (filled.modify (filled.length - (k + 1)) change)

def changeAlong (change : Node → Node) : List PathStep → Node → Node
  | [], n => change n
  | .key name :: steps, n => n.changeKey name (changeAlong change steps)
  | .index i :: steps, n => n.changeIndex i (changeAlong change steps)

def changeAt (path : Path) (change : Node → Node) (n : Node) : Node :=
  n.changeKey path.root (changeAlong change path.steps)

end Node

end DungeonForge.Config
