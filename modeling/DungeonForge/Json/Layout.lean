import DungeonForge.Json.Literal
import DungeonForge.Json.Value

/-!
Writing JSON values. Both layouts are one recursion that differs in two texts only: what stands
before an element of a filled container or its closing bracket, and what separates a key from its
value. The compact layout writes nothing and a colon there; the pretty layout writes a line break
followed by the indentation of the depth, and a colon and a space. Empty containers have no inside.
-/

namespace DungeonForge.Json

inductive Layout
  | compact
  | pretty (indent : UInt8)
deriving DecidableEq, Repr

namespace Layout

def defaultIndent : UInt8 := 2

/-- What stands before an element at the given depth, and before a closing bracket. -/
def lineBreak : Layout → Nat → List Char
  | .compact, _ => []
  | .pretty indent, depth => '\n' :: List.replicate (indent.toNat * depth) ' '

def colon : Layout → List Char
  | .compact => [':']
  | .pretty _ => [':', ' ']

end Layout

def decimalText (d : Decimal) : List Char :=
  (if d.negative then ['-'] else []) ++ Decimal.digits d.coefficient ++ 'e' :: integerText d.exponent

mutual

/-- The text of a value that stands at the given depth. -/
def Value.write (l : Layout) (depth : Nat) : Value → List Char
  | .null => ['n', 'u', 'l', 'l']
  | .boolean true => ['t', 'r', 'u', 'e']
  | .boolean false => ['f', 'a', 'l', 's', 'e']
  | .integer n => integerText n
  | .decimal d => decimalText d
  | .string s => Literal.write s.toList
  | .array [] => ['[', ']']
  | .array (v :: vs) =>
    '[' :: (l.lineBreak (depth + 1) ++ (v.write l (depth + 1) ++
      (Value.writeItems l (depth + 1) vs ++ (l.lineBreak depth ++ [']']))))
  | .object [] => ['{', '}']
  | .object ((k, v) :: ms) =>
    '{' :: (l.lineBreak (depth + 1) ++ (Literal.write k.toList ++ (l.colon ++ (v.write l (depth + 1) ++
      (Value.writeMembers l (depth + 1) ms ++ (l.lineBreak depth ++ ['}']))))))

def Value.writeItems (l : Layout) (depth : Nat) : List Value → List Char
  | [] => []
  | v :: vs => ',' :: (l.lineBreak depth ++ (v.write l depth ++ Value.writeItems l depth vs))

def Value.writeMembers (l : Layout) (depth : Nat) : List (String × Value) → List Char
  | [] => []
  | (k, v) :: ms =>
    ',' :: (l.lineBreak depth ++ (Literal.write k.toList ++ (l.colon ++ (v.write l depth ++
      Value.writeMembers l depth ms))))

end

end DungeonForge.Json
