import DungeonForge.Dungeon.Basic
import DungeonForge.Manifest.Entry

/-!
Building the dungeon that a manifest describes. Entries are visited in order and the first fault
ends the building; within a room the tags of size and kind come before the name, and these before
traps and inhabitants.
-/

namespace DungeonForge

inductive TagKind
  | size | roomKind | trigger | behaviour | npcKind
deriving DecidableEq, Repr

def TagKind.words : TagKind → String
  | .size => "size"
  | .roomKind => "room type"
  | .trigger => "trigger"
  | .behaviour => "behaviour"
  | .npcKind => "npc type"

inductive BuildError
  | unknownTag (room : String) (kind : TagKind) (text : String)
  | refused (e : ModelError)
  | refusedOnFloor (floor : String) (e : ModelError)
deriving DecidableEq, Repr

namespace BuildError

def chain : BuildError → List String
  | .unknownTag room kind text =>
    ["room '" ++ room ++ "': unknown " ++ kind.words ++ " '" ++ text ++ "'"]
  | .refused e => [e.message]
  | .refusedOnFloor floor e => ["on floor '" ++ floor ++ "'", e.message]

end BuildError

def readTag {α : Type} [Tagged α] (room : String) (kind : TagKind) (text : String) :
    Except BuildError α :=
  match Tagged.ofText? text with
  | some a => .ok a
  | none => .error (.unknownTag room kind text)

def TrapEntry.build (room : String) (e : TrapEntry) : Except BuildError Trap := do
  let trigger ← readTag room .trigger e.trigger
  return ⟨e.name, trigger, e.disarmable, e.triggerChance⟩

def NpcEntry.build (room : String) (e : NpcEntry) : Except BuildError Npc := do
  let behaviour ← readTag room .behaviour e.behaviour
  let kind ← readTag room .npcKind e.kind
  return ⟨e.name, behaviour, kind, e.health⟩

def RoomEntry.build (floor : String) (e : RoomEntry) : Except BuildError Room := do
  let size ← readTag e.name .size e.size
  let kind ← readTag e.name .roomKind e.kind
  let room ← (Room.fresh e.name size kind (e.floorId.getD floor) e.connections).mapError
    (.refusedOnFloor floor)
  let traps ← e.traps.mapM (TrapEntry.build e.name)
  let npcs ← e.npcs.mapM (NpcEntry.build e.name)
  return { room with traps, npcs }

def FloorEntry.build (e : FloorEntry) : Except BuildError Floor := do
  let floor ← (Floor.fresh e.name).mapError .refused
  let rooms ← e.rooms.mapM (RoomEntry.build e.name)
  return { floor with rooms }

def DungeonEntry.build (e : DungeonEntry) : Except BuildError Dungeon := do
  let dungeon ← (Dungeon.fresh e.name e.theme e.level).mapError .refused
  let floors ← e.floors.mapM FloorEntry.build
  return { dungeon with floors }

def Manifest.build (m : Manifest) : Except BuildError Dungeon :=
  m.dungeon.build

end DungeonForge
