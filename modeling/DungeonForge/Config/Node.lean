import DungeonForge.Record.Mismatch
import DungeonForge.Toml.Value

/-!
Configuration trees: scalars, lists and tables, each with the name of the source it came from, if it
came from one as it is.
-/

namespace DungeonForge.Config

inductive Scalar
  | nothing
  | boolean (b : Bool)
  | integer (n : Int)
  | real (x : Binary64)
  | text (s : String)
deriving DecidableEq, Repr

inductive Node
  | scalar (origin : Option String) (s : Scalar)
  | list (origin : Option String) (items : List Node)
  | table (origin : Option String) (entries : List (String × Node))
deriving Inhabited, Repr

namespace Node

def nothing : Node := .scalar none .nothing

def emptyTable : Node := .table none []

def origin : Node → Option String
  | .scalar o _ => o
  | .list o _ => o
  | .table o _ => o

mutual

/-- A TOML value from a named source. Dates and times are texts here. -/
def ofToml (origin : String) : Toml.Value → Node
  | .text s => .scalar (some origin) (.text s)
  | .integer n => .scalar (some origin) (.integer n)
  | .real x => .scalar (some origin) (.real x)
  | .boolean b => .scalar (some origin) (.boolean b)
  | .moment s => .scalar (some origin) (.text s)
  | .array items => .list (some origin) (ofItems origin items)
  | .tables reversed => .list (some origin) (ofTables origin reversed).reverse
  | .table _ entries => .table (some origin) (ofEntries origin entries)

def ofItems (origin : String) : List Toml.Value → List Node
  | [] => []
  | v :: vs => ofToml origin v :: ofItems origin vs

def ofTables (origin : String) : List (List (String × Toml.Value)) → List Node
  | [] => []
  | es :: rest => .table (some origin) (ofEntries origin es) :: ofTables origin rest

def ofEntries (origin : String) : List (String × Toml.Value) → List (String × Node)
  | [] => []
  | (k, v) :: es => (k, ofToml origin v) :: ofEntries origin es

end

end Node

end DungeonForge.Config
