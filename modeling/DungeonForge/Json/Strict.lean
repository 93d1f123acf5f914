import DungeonForge.Decimal.Stepwise
import DungeonForge.Json.Value
import DungeonForge.Record.Basic

/-!
JSON as a format to read records from. Nothing is converted: a text must be a string, a flag a
boolean, and a whole number an integer in the range of its field. Integers that no word of 64 bits
holds count as reals.
-/

namespace DungeonForge.Json

inductive StrictError
  | mismatch (m : Mismatch)
  | missing (field : String)
deriving DecidableEq, Repr

def wording : Wording := ⟨"null", .exponential⟩

def StrictError.message : StrictError → String
  | .mismatch m => m.message wording
  | .missing field => "missing field \x60" ++ field ++ "\x60"

namespace Value

def ofReal (d : Decimal) : Found :=
  .real (Binary64.ofDecimalInSteps d)

def shape : Value → Shape Value
  | .object members => .table members
  | .array items => .list items
  | .null => .other .nothing
  | .boolean b => .other (.boolean b)
  | .integer n =>
    if -9223372036854775808 ≤ n ∧ n ≤ 18446744073709551615 then .other (.integer n)
    else .other (ofReal ⟨n < 0, n.natAbs, 0⟩)
  | .decimal d => .other (ofReal d)
  | .string s => .other (.text s)

def found (v : Value) : Found :=
  v.shape.found

def asText (v : Value) : Except StrictError String :=
  match v with
  | .string s => .ok s
  | v => .error (.mismatch (.wrongType v.found "a string"))

def asFlag (v : Value) : Except StrictError Bool :=
  match v with
  | .boolean b => .ok b
  | v => .error (.mismatch (.wrongType v.found "a boolean"))

def asUnsigned32 (v : Value) : Except StrictError UInt32 :=
  match v.found with
  | .integer n =>
    if 0 ≤ n ∧ n < UInt32.size then .ok (UInt32.ofNat n.toNat)
    else .error (.mismatch (.wrongInteger n "u32"))
  | f => .error (.mismatch (.wrongType f "u32"))

def asSigned32 (v : Value) : Except StrictError Int32 :=
  match v.found with
  | .integer n =>
    if Int32.minValue.toInt ≤ n ∧ n ≤ Int32.maxValue.toInt then .ok (Int32.ofInt n)
    else .error (.mismatch (.wrongInteger n "i32"))
  | f => .error (.mismatch (.wrongType f "i32"))

end Value

def strict : Format Value StrictError where
  shape := Value.shape
  text := Value.asText
  flag := Value.asFlag
  unsigned32 := Value.asUnsigned32
  signed32 := Value.asSigned32
  mismatch := .mismatch
  missing := .missing
  inField _ e := e
  inItem _ e := e
  allowsSurplus := false

end DungeonForge.Json
