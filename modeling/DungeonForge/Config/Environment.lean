import DungeonForge.Config.Convert

/-!
The environment as a configuration source: the variables whose names begin with a marker in any
case. The rest of a name, in lower case, is the key. A value is read as a flag, an integer or a real
if it is spelled like one, and is a text otherwise.
-/

namespace DungeonForge

abbrev Environment := List (String × String)

namespace Config

def marker : String := "dungeon_gen_"

def environmentName : String := "the environment"

def exponentOfText? (cs : List Char) : Option Int :=
  match cs with
  | [] => some 0
  | c :: cs =>
    if c = 'e' ∨ c = 'E' then
      match cs with
      | '+' :: cs => (digitsNumber? cs).map Int.ofNat
      | '-' :: cs => (digitsNumber? cs).map fun n => -(n : Int)
      | cs => (digitsNumber? cs).map Int.ofNat
    else none

/-- A real without its sign: digits, a point and more digits, of which some may be missing but not
all, and an exponent; or one of three words in any case. -/
def magnitudeOfText? (negative : Bool) (cs : List Char) : Option Binary64 :=
  let word := String.ofList (cs.map Char.toLower)
  if word = "inf" ∨ word = "infinity" then some (.infinite negative)
  else if word = "nan" then some .nan
  else
    let whole := cs.takeWhile Char.isDigit
    let (fraction, rest) := match cs.dropWhile Char.isDigit with
      | '.' :: cs => (cs.takeWhile Char.isDigit, cs.dropWhile Char.isDigit)
      | cs => ([], cs)
    if whole.isEmpty && fraction.isEmpty then none
    else (exponentOfText? rest).map fun e =>
      .ofDecimal ⟨negative, Decimal.ofDigits (whole ++ fraction), e - fraction.length⟩

def realOfText? (s : String) : Option Binary64 :=
  match s.toList with
  | '+' :: cs => magnitudeOfText? false cs
  | '-' :: cs => magnitudeOfText? true cs
  | cs => magnitudeOfText? false cs

def scalarOfText (s : String) : Scalar :=
  if Text.lowercase s = "true" then .boolean true
  else if Text.lowercase s = "false" then .boolean false
  else
    match integerOfText? s with
    | some n => .integer n
    | none =>
      match realOfText? s with
      | some x => .real x
      | none => .text s

def keyOfVariable? (name : String) : Option String :=
  let cs := (Text.lowercase name).toList
  if marker.toList.isPrefixOf cs then some (String.ofList (cs.drop marker.length)) else none

def ofEnvironment (environment : Environment) : List (String × Node) :=
  environment.filterMap fun v => (keyOfVariable? v.1).map fun key =>
    (key, .scalar (some environmentName) (scalarOfText v.2))

end Config

end DungeonForge
