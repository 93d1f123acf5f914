import DungeonForge.Config.Path

/-!
Merging sources into one configuration tree. A later value takes the place of an earlier one, except
that tables are merged entry by entry. The keys of a source are paths into the tree, the keys inside
its values are not.
-/

namespace DungeonForge.Config

namespace Node

mutual

/-- What a node becomes when a value is laid over it. -/
def overlay : Node → Node → Node
  | .table _ entries, n =>
    overlayEntries entries (match n with
      | .scalar _ .nothing => emptyTable
      | n => n)
  | v, _ => v

def overlayEntries : List (String × Node) → Node → Node
  | [], n => n
  | (k, v) :: es, n => overlayEntries es (n.changeKey k (overlay v))

end

def merge (n : Node) (source : List (String × Node)) : Node :=
  source.foldl (fun n e => n.changeAt (Path.ofText e.1) (overlay e.2)) n

def ofSources (sources : List (List (String × Node))) : Node :=
  sources.foldl merge emptyTable

end Node

end DungeonForge.Config
