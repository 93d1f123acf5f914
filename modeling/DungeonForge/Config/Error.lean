import DungeonForge.Record.Mismatch

/-!
Errors of reading a configuration tree, with the way to the place that is wrong.
-/

namespace DungeonForge.Config

inductive KeyStep
  | field (name : String)
  | item (index : Nat)
deriving DecidableEq, Repr

/-- The way in one text: a point before a field unless it is the first or follows an item. -/
def keyText : List KeyStep → String
  | [] => ""
  | .field name :: rest =>
    match rest with
    | .field _ :: _ => name ++ "." ++ keyText rest
    | _ => name ++ keyText rest
  | .item i :: rest => "[" ++ toString i ++ "]" ++ keyText rest

inductive Unconverted
  | found (f : Found)
  | word (n : Int)
  | unsignedWord (n : Nat)
deriving DecidableEq, Repr

def wording : Wording := ⟨"unit value", .withPoint⟩

def Unconverted.words : Unconverted → String
  | .found f => f.words wording
  | .word n => "64-bit integer \x60" ++ toString n ++ "\x60"
  | .unsignedWord n => "64-bit unsigned integer \x60" ++ toString n ++ "\x60"

inductive Error
  | unconverted (found : Unconverted) (expected : String) (origin : Option String)
      (key : List KeyStep)
  | missing (key : List KeyStep)
  | misshapen (m : Mismatch) (key : List KeyStep)
deriving DecidableEq, Repr

namespace Error

def behind (s : KeyStep) : Error → Error
  | .unconverted f e o key => .unconverted f e o (s :: key)
  | .missing key => .missing (s :: key)
  | .misshapen m key => .misshapen m (s :: key)

def key : Error → String
  | .unconverted _ _ _ key => keyText key
  | .missing key => keyText key
  | .misshapen _ key => keyText key

def place (key : List KeyStep) : String :=
  if key.isEmpty then "" else " for key \x60" ++ keyText key ++ "\x60"

def message : Error → String
  | .unconverted found expected origin key =>
    "invalid type: " ++ found.words ++ ", expected " ++ expected ++ place key ++
      origin.elim "" fun o => " in " ++ o
  | .missing key => "missing configuration field \"" ++ keyText key ++ "\""
  | .misshapen m key => m.message wording ++ place key

end Error

end DungeonForge.Config
