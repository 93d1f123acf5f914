import DungeonForge.Document.Violation
import DungeonForge.Json.Layout

/-!
The document of a dungeon: one JSON object with the single member `dungeon`, every node an object
with its fields in a fixed order. A pretty document ends with a line break. `Dungeon.document?` is
all or nothing: a dungeon with a violation has no document.
-/

namespace DungeonForge

open Json (Value Layout)

def Trap.toJson (t : Trap) : Value :=
  .object [("name", .string t.name), ("trigger", .string t.trigger.tag),
    ("disarmable", .boolean t.disarmable), ("triggerChance", .integer t.triggerChance.toInt)]

def Npc.toJson (n : Npc) : Value :=
  .object [("name", .string n.name), ("behaviour", .string n.behaviour.tag),
    ("type", .string n.kind.tag), ("health", .integer n.health.toInt)]

def Room.toJson (r : Room) : Value :=
  .object [("name", .string r.name), ("size", .string r.size.tag), ("type", .string r.kind.tag),
    ("floorId", .string r.floorId), ("connections", .array (r.connections.map Value.string)),
    ("traps", .array (r.traps.map Trap.toJson)), ("npcs", .array (r.npcs.map Npc.toJson))]

def Floor.toJson (f : Floor) : Value :=
  .object [("name", .string f.name), ("rooms", .array (f.rooms.map Room.toJson))]

def Dungeon.toJson (d : Dungeon) : Value :=
  .object [("name", .string d.name), ("theme", .string d.theme), ("level", .integer d.level.toNat),
    ("floors", .array (d.floors.map Floor.toJson))]

namespace Dungeon

def documentValue (d : Dungeon) : Value :=
  .object [("dungeon", d.toJson)]

def render (d : Dungeon) (layout : Layout) : List Char :=
  match layout with
  | .compact => d.documentValue.write .compact 0
  | .pretty indent => d.documentValue.write (.pretty indent) 0 ++ ['\n']

/-- The document, or the first violation. -/
def document? (d : Dungeon) (layout : Layout) : Except Violation String :=
  match d.firstViolation? with
  | some v => .error v
  | none => .ok (String.ofList (d.render layout))

end Dungeon

end DungeonForge
