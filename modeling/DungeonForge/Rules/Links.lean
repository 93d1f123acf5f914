import DungeonForge.Dungeon.Basic
import DungeonForge.Rules.Finding

/-!
Rules on names and connections. A name stands for its first bearer, so a connection is one to the
room itself only if the room is the first that bears its name; a connection to any other room must
be returned.
-/

namespace DungeonForge

/-- The names that occur again, once for each occurrence after the first. -/
def repeatedNames (seen : List String) : List String → List String
  | [] => []
  | n :: ns => if seen.contains n then n :: repeatedNames seen ns else repeatedNames (n :: seen) ns

namespace Dungeon

def duplicateFindings (d : Dungeon) : List Finding :=
  (repeatedNames [] d.roomNames).map .duplicateRoomName

def linkFinding? (d : Dungeon) (here : Place) (r : Room) (target : String) : Option Finding :=
  match d.bearer? target with
  | none => some (.invalidConnection r.name target)
  | some (place, other) =>
    if place = here then some (.selfConnection r.name)
    else if other.connectsTo r.name then none
    else some (.asymmetricConnection r.name other.name)

def linkFindings (d : Dungeon) (here : Place) (r : Room) : List Finding :=
  r.connections.filterMap (d.linkFinding? here r)

end Dungeon

end DungeonForge
