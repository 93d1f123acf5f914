import DungeonForge.Config.Error
import DungeonForge.Config.Node
import DungeonForge.Record.Basic
import DungeonForge.Text.Lowercase
import DungeonForge.Toml.Number

/-!
Scalars of a configuration tree are converted to what a field asks for, as far as they mean
something there: a text may spell a flag or a number, a number may stand for a flag, and everything
but a container has a text.
-/

namespace DungeonForge.Config

namespace Scalar

def found : Scalar → Found
  | .nothing => .nothing
  | .boolean b => .boolean b
  | .integer n => .integer n
  | .real x => .real x
  | .text s => .text s

end Scalar

namespace Node

def shape : Node → Shape Node
  | .scalar _ s => .other s.found
  | .list _ items => .list items
  | .table _ entries => .table entries

def found (n : Node) : Found :=
  n.shape.found

def refuse (n : Node) (f : Found) (expected : String) : Error :=
  .unconverted (.found f) expected n.origin []

def asText (n : Node) : Except Error String :=
  match n with
  | .scalar _ (.text s) => .ok s
  | .scalar _ (.boolean b) => .ok (toString b)
  | .scalar _ (.integer i) => .ok (String.ofList (integerText i))
  | .scalar _ (.real x) => .ok (x.text .plain)
  | n => .error (n.refuse n.found "a string")

end Node

def flagWord? (s : String) : Option Bool :=
  if ["1", "true", "on", "yes"].contains s then some true
  else if ["0", "false", "off", "no"].contains s then some false
  else none

def numberWord? (s : String) : Option Int :=
  if ["true", "on", "yes"].contains s then some 1
  else if ["false", "off", "no"].contains s then some 0
  else none

def digitsNumber? (cs : List Char) : Option Nat :=
  if cs.isEmpty || !cs.all Char.isDigit then none else some (Decimal.ofDigits cs)

def integerOfText? (s : String) : Option Int := do
  let n ← match s.toList with
    | '+' :: cs => (digitsNumber? cs).map Int.ofNat
    | '-' :: cs => (digitsNumber? cs).map fun n => -(n : Int)
    | cs => (digitsNumber? cs).map Int.ofNat
  if Toml.fitsWord n then some n else none

def maxUnsigned : Nat := 18446744073709551615

def naturalOfText? (s : String) : Option Nat := do
  let n ← match s.toList with
    | '+' :: cs => digitsNumber? cs
    | cs => digitsNumber? cs
  if n ≤ maxUnsigned then some n else none

namespace Node

def asFlag (n : Node) : Except Error Bool :=
  match n with
  | .scalar _ (.boolean b) => .ok b
  | .scalar _ (.integer i) => .ok (i ≠ 0)
  | .scalar _ (.real x) => .ok (!x.isZero)
  | .scalar _ (.text s) =>
    match flagWord? (Text.lowercase s) with
    | some b => .ok b
    | none => .error (n.refuse (.text (Text.lowercase s)) "a boolean")
  | n => .error (n.refuse n.found "a boolean")

def asInteger (n : Node) : Except Error Int :=
  match n with
  | .scalar _ (.boolean b) => .ok (if b then 1 else 0)
  | .scalar _ (.integer i) => .ok i
  | .scalar _ (.real x) => .ok (x.roundClamped (-9223372036854775808) 9223372036854775807)
  | .scalar _ (.text s) =>
    match (numberWord? (Text.lowercase s)).or (integerOfText? s) with
    | some i => .ok i
    | none => .error (n.refuse (.text s) "an integer")
  | n => .error (n.refuse n.found "an integer")

def asNatural (n : Node) : Except Error Nat :=
  match n with
  | .scalar _ (.boolean b) => .ok (if b then 1 else 0)
  | .scalar origin (.integer i) =>
    if 0 ≤ i then .ok i.toNat
    else .error (.unconverted (.word i) "an unsigned 64 bit or less integer" origin [])
  | .scalar _ (.real x) => .ok (x.roundClamped 0 maxUnsigned).toNat
  | .scalar _ (.text s) =>
    match ((numberWord? (Text.lowercase s)).map Int.toNat).or (naturalOfText? s) with
    | some k => .ok k
    | none => .error (n.refuse (.text s) "an integer")
  | n => .error (n.refuse n.found "an integer")

def asUnsigned32 (n : Node) : Except Error UInt32 := do
  let k ← n.asNatural
  if k < UInt32.size then return UInt32.ofNat k
  else throw (.unconverted (.unsignedWord k) "an unsigned 32 bit integer" none [])

def asUnsigned8 (n : Node) : Except Error UInt8 := do
  let k ← n.asNatural
  if k < UInt8.size then return UInt8.ofNat k
  else throw (.unconverted (.unsignedWord k) "an unsigned 8 bit integer" none [])

def asSigned32 (n : Node) : Except Error Int32 := do
  let i ← n.asInteger
  if Int32.minValue.toInt ≤ i ∧ i ≤ Int32.maxValue.toInt then return Int32.ofInt i
  else throw (.unconverted (.word i) "an signed 32 bit integer" none [])

end Node

/-- Configuration trees as a format to read records from. -/
def lenient : Format Node Error where
  shape := Node.shape
  text := Node.asText
  flag := Node.asFlag
  unsigned32 := Node.asUnsigned32
  signed32 := Node.asSigned32
  mismatch m := .misshapen m []
  missing field := .missing [.field field]
  inField key e := e.behind (.field key)
  inItem i e := e.behind (.item i)
  allowsSurplus := true

end DungeonForge.Config
