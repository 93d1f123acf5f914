import DungeonForge.Config.Convert
import DungeonForge.Config.Source
import DungeonForge.Json.Strict
import DungeonForge.Manifest.Read

/-!
The two formats in which a manifest comes: a TOML file, read as a configuration tree, and strict
JSON.
-/

namespace DungeonForge.Manifest

def ofFile (f : Config.SourceFile) : Except Config.LoadError Manifest := do
  let entries ← f.entries
  (read Config.lenient (Config.Node.ofSources [entries])).mapError .tree

def ofJson (v : Json.Value) : Except Json.StrictError Manifest :=
  read Json.strict v

end DungeonForge.Manifest
