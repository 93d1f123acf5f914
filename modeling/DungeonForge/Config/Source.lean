import DungeonForge.Config.Error
import DungeonForge.Config.Merge
import DungeonForge.Toml.Document

/-!
Configuration files: TOML texts with the name that messages give them.
-/

namespace DungeonForge.Config

structure SourceFile where
  name : String
  text : String
deriving DecidableEq, Repr

inductive LoadError
  | notFound (path : String)
  | notToml
  | tree (e : Error)
deriving DecidableEq, Repr

namespace LoadError

def message : LoadError → String
  | .notFound path => "configuration file \"" ++ path ++ "\" not found"
  | .notToml => "TOML parse error"
  | .tree e => e.message

end LoadError

/-- The entries of a configuration file. A byte order mark belongs to the file and not to its text,
which may begin with a mark of its own. -/
def SourceFile.entries (f : SourceFile) : Except LoadError (List (String × Node)) :=
  match Toml.document? (String.ofList (Text.withoutMark f.text.toList)) with
  | none => .error .notToml
  | some es => .ok (Node.ofEntries f.name es)

end DungeonForge.Config
