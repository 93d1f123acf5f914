import DungeonForge.Decimal.Shortest
import DungeonForge.Text.Quoted

/-!
What stands in a data tree where something else was expected, and how messages call it.
-/

namespace DungeonForge

inductive Found
  | nothing
  | boolean (b : Bool)
  | integer (n : Int)
  | real (x : Binary64)
  | text (s : String)
  | list
  | table
deriving DecidableEq, Repr

/-- The words that differ between data formats: that for nothing, and the spelling of reals. -/
structure Wording where
  nothing : String
  reals : Decimal.Style

def Found.words (w : Wording) : Found → String
  | .nothing => w.nothing
  | .boolean b => "boolean \x60" ++ toString b ++ "\x60"
  | .integer n => "integer \x60" ++ toString n ++ "\x60"
  | .real x => "floating point \x60" ++ x.text w.reals ++ "\x60"
  | .text s => "string " ++ Text.quoted s
  | .list => "sequence"
  | .table => "map"

inductive Mismatch
  | wrongType (found : Found) (expected : String)
  | wrongInteger (n : Int) (expected : String)
  | wrongLength (n : Nat) (expected : String)
deriving DecidableEq, Repr

def Mismatch.message (w : Wording) : Mismatch → String
  | .wrongType found expected => "invalid type: " ++ found.words w ++ ", expected " ++ expected
  | .wrongInteger n expected =>
    "invalid value: integer \x60" ++ toString n ++ "\x60, expected " ++ expected
  | .wrongLength n expected => "invalid length " ++ toString n ++ ", expected " ++ expected

end DungeonForge
