import DungeonForge.Dungeon.Tag
import DungeonForge.Text.Blank

/-!
The dungeon tree: floors of rooms, rooms with traps and inhabitants. Rooms refer to each other by
name; a name stands for the first room that bears it, floors and rooms in order. Fresh nodes are
made by `Dungeon.fresh`, `Floor.fresh` and `Room.fresh`, which refuse blank names and level zero;
ranges of trap chances and health are the concern of a document, not of the tree.
-/

namespace DungeonForge

structure Trap where
  name : String
  trigger : Trigger
  disarmable : Bool
  triggerChance : Int32
deriving DecidableEq, Repr

structure Npc where
  name : String
  behaviour : Behaviour
  kind : NpcKind
  health : Int32
deriving DecidableEq, Repr

structure Room where
  name : String
  size : Size
  kind : RoomKind
  floorId : String
  connections : List String
  traps : List Trap
  npcs : List Npc
deriving DecidableEq, Repr

structure Floor where
  name : String
  rooms : List Room
deriving DecidableEq, Repr

structure Dungeon where
  name : String
  theme : String
  level : UInt32
  floors : List Floor
deriving DecidableEq, Repr

/-- Where a room stands: its floor and its number on that floor, both from zero. -/
structure Place where
  floor : Nat
  room : Nat
deriving DecidableEq, Repr

inductive Named
  | dungeon | floor | room
deriving DecidableEq, Repr

inductive ModelError
  | blankName (of : Named)
  | levelZero
deriving DecidableEq, Repr

namespace ModelError

def what : ModelError → String
  | .blankName .dungeon => "dungeon name"
  | .blankName .floor => "floor name"
  | .blankName .room => "room name"
  | .levelZero => "dungeon level"

def reason : ModelError → String
  | .blankName _ => "name must not be empty"
  | .levelZero => "must be at least 1, got 0"

def message (e : ModelError) : String :=
  "invalid " ++ e.what ++ ": " ++ e.reason

end ModelError

def requireName (of : Named) (name : String) : Except ModelError String :=
  if Text.isBlank name then .error (.blankName of) else .ok name

namespace Floor

def placedRooms (f : Floor) (i : Nat) : List (Place × Room) :=
  f.rooms.zipIdx.map fun p => (⟨i, p.2⟩, p.1)

theorem map_snd_placedRooms (f : Floor) (i : Nat) :
    (f.placedRooms i).map Prod.snd = f.rooms := by
  unfold placedRooms
  rw [List.map_map]
  exact List.zipIdx_map_fst 0 f.rooms

end Floor

namespace Dungeon

def fresh (name theme : String) (level : UInt32) : Except ModelError Dungeon := do
  let name ← requireName .dungeon name
  if level = 0 then
    throw .levelZero
  return ⟨name, theme, level, []⟩

def addFloor (d : Dungeon) (f : Floor) : Dungeon :=
  { d with floors := d.floors ++ [f] }

def allRooms (d : Dungeon) : List Room :=
  d.floors.flatMap Floor.rooms

def roomNames (d : Dungeon) : List String :=
  d.allRooms.map Room.name

/-- The first room with the given name. -/
def room? (d : Dungeon) (name : String) : Option Room :=
  d.allRooms.find? fun r => r.name == name

def placedRooms (d : Dungeon) : List (Place × Room) :=
  d.floors.zipIdx.flatMap fun p => p.1.placedRooms p.2

/-- The first room with the given name, with its place. -/
def bearer? (d : Dungeon) (name : String) : Option (Place × Room) :=
  d.placedRooms.find? fun p => p.2.name == name

theorem map_snd_placedRooms (d : Dungeon) : d.placedRooms.map Prod.snd = d.allRooms := by
  unfold placedRooms allRooms
  conv => rhs; rw [← List.zipIdx_map_fst 0 d.floors]
  simp only [List.map_flatMap, Floor.map_snd_placedRooms, List.flatMap_map]

theorem mem_allRooms_of_placed {d : Dungeon} {a : Place × Room} (mem : a ∈ d.placedRooms) :
    a.2 ∈ d.allRooms := by
  rw [← map_snd_placedRooms]
  exact List.mem_map_of_mem mem

theorem exists_placed_of_mem_allRooms {d : Dungeon} {r : Room} (mem : r ∈ d.allRooms) :
    ∃ place, (place, r) ∈ d.placedRooms := by
  rw [← map_snd_placedRooms] at mem
  obtain ⟨⟨place, r⟩, placed, rfl⟩ := List.mem_map.1 mem
  exact ⟨place, placed⟩

theorem map_snd_bearer? (d : Dungeon) (name : String) :
    (d.bearer? name).map Prod.snd = d.room? name := by
  simp only [bearer?, room?, ← map_snd_placedRooms, List.find?_map]
  rfl

end Dungeon

namespace Floor

def fresh (name : String) : Except ModelError Floor := do
  return ⟨← requireName .floor name, []⟩

def addRoom (f : Floor) (r : Room) : Floor :=
  { f with rooms := f.rooms ++ [r] }

end Floor

namespace Room

def fresh (name : String) (size : Size) (kind : RoomKind) (floorId : String)
    (connections : List String) : Except ModelError Room := do
  return ⟨← requireName .room name, size, kind, floorId, connections, [], []⟩

def addTrap (r : Room) (t : Trap) : Room :=
  { r with traps := r.traps ++ [t] }

def addNpc (r : Room) (n : Npc) : Room :=
  { r with npcs := r.npcs ++ [n] }

def connectsTo (r : Room) (name : String) : Bool :=
  r.connections.contains name

end Room

theorem requireName_eq_ok_iff {of : Named} {name out : String} :
    requireName of name = .ok out ↔ Text.isBlank name = false ∧ out = name := by
  unfold requireName
  by_cases h : Text.isBlank name = true
  · simp [h]
  · simp [h, eq_comm]

end DungeonForge
