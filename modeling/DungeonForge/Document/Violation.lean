import DungeonForge.Dungeon.Basic

/-!
What a dungeon must satisfy before a document of it is written: every connection names a room of
the dungeon, every trap's chance is a percentage and no health is negative. `firstViolation?` stops
at the first fault on a walk through floors and rooms in order; a room's connections come before
its traps and these before its inhabitants.
-/

namespace DungeonForge

inductive Violation
  | danglingConnection (floor room target : String)
  | triggerChanceOutOfRange (room trap : String) (value : Int32)
  | negativeHealth (room npc : String) (value : Int32)
deriving DecidableEq, Repr

namespace Violation

def message : Violation → String
  | .danglingConnection floor room target =>
    "room '" ++ room ++ "' on floor '" ++ floor ++ "' connects to unknown room '" ++ target ++ "'"
  | .triggerChanceOutOfRange room trap value =>
    "trap '" ++ trap ++ "' in room '" ++ room ++ "': triggerChance must be 0-100 (found "
      ++ toString value.toInt ++ ")"
  | .negativeHealth room npc value =>
    "npc '" ++ npc ++ "' in room '" ++ room ++ "': health must not be negative (found "
      ++ toString value.toInt ++ ")"

end Violation

namespace Trap

def chanceIsPercentage (t : Trap) : Bool :=
  0 ≤ t.triggerChance.toInt && t.triggerChance.toInt ≤ 100

end Trap

namespace Room

/-- The first fault of a room that stands on the named floor; `known` tells room names. -/
def firstViolation? (r : Room) (known : String → Bool) (floor : String) : Option Violation :=
  match r.connections.find? fun target => !known target with
  | some target => some (.danglingConnection floor r.name target)
  | none =>
    match r.traps.find? fun t => !t.chanceIsPercentage with
    | some t => some (.triggerChanceOutOfRange r.name t.name t.triggerChance)
    | none =>
      (r.npcs.find? fun n => n.health.toInt < 0).map fun n =>
        .negativeHealth r.name n.name n.health

end Room

namespace Dungeon

def firstViolation? (d : Dungeon) : Option Violation :=
  d.floors.findSome? fun f =>
    f.rooms.findSome? fun r => r.firstViolation? d.roomNames.contains f.name

end Dungeon

end DungeonForge
