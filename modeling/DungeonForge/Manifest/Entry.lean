/-!
What a manifest says: the tree of a dungeon as text and numbers, its enumerations still as the
texts that were written. Nothing is checked here.
-/

namespace DungeonForge

structure TrapEntry where
  name : String
  trigger : String
  disarmable : Bool
  triggerChance : Int32
deriving DecidableEq, Repr

structure NpcEntry where
  name : String
  behaviour : String
  kind : String
  health : Int32
deriving DecidableEq, Repr

structure RoomEntry where
  name : String
  size : String
  kind : String
  /-- Left out where it is the name of the floor around the room. -/
  floorId : Option String
  connections : List String
  traps : List TrapEntry
  npcs : List NpcEntry
deriving DecidableEq, Repr

structure FloorEntry where
  name : String
  rooms : List RoomEntry
deriving DecidableEq, Repr

structure DungeonEntry where
  name : String
  theme : String
  level : UInt32
  floors : List FloorEntry
deriving DecidableEq, Repr

structure Manifest where
  dungeon : DungeonEntry
deriving DecidableEq, Repr

end DungeonForge
