import DungeonForge.Decimal.Basic

/-!
Values of the JSON data format. An object keeps its members in the order in which they are
written; a number is an integer exactly when it is written without fraction and exponent.
-/

namespace DungeonForge.Json

inductive Value
  | null
  | boolean (b : Bool)
  | integer (n : Int)
  | decimal (d : Decimal)
  | string (s : String)
  | array (items : List Value)
  | object (members : List (String × Value))
deriving Inhabited, Repr

namespace Value

/-- The last member with the given key. -/
def member? (v : Value) (key : String) : Option Value :=
  match v with
  | .object members => (members.reverse.find? fun m => m.1 == key).map Prod.snd
  | _ => none

end Value

end DungeonForge.Json
