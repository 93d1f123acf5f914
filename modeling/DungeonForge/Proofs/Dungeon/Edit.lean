import DungeonForge.Proofs.Rules.Playable
import DungeonForge.Proofs.Session
import Mathlib.Data.List.Perm.Basic

/-!
Edits of a dungeon at a place: a room that is added to a floor, one that is taken out, and a
connection that is added to a room. What an edit leaves alone is said by the rooms before and after
the one that it is about.
-/

namespace DungeonForge

def Room.connect (r : Room) (target : String) : Room :=
  { r with connections := r.connections ++ [target] }

theorem ReplacedAt.modify {α : Type} {i : Nat} {x : α} {xs : List α} (there : xs[i]? = some x)
    (change : α → α) : ReplacedAt i x (change x) xs (xs.modify i change) := by
  refine replacedAt_iff.2 ⟨there, ?_⟩
  obtain ⟨bound, rfl⟩ := List.getElem?_eq_some_iff.1 there
  rw [List.modify_eq_take_cons_drop bound, List.set_eq_take_append_cons_drop, if_pos bound]

namespace Dungeon

def roomAt? (d : Dungeon) (p : Place) : Option Room :=
  d.floors[p.floor]?.bind fun f => f.rooms[p.room]?

def addRoom (d : Dungeon) (i : Nat) (r : Room) : Dungeon :=
  { d with floors := d.floors.modify i fun f => f.addRoom r }

def removeRoom (d : Dungeon) (p : Place) : Dungeon :=
  { d with
    floors := d.floors.modify p.floor fun f => { f with rooms := f.rooms.eraseIdx p.room } }

def connect (d : Dungeon) (p : Place) (target : String) : Dungeon :=
  { d with
    floors := d.floors.modify p.floor fun f =>
      { f with rooms := f.rooms.modify p.room fun r => r.connect target } }

variable {d e : Dungeon}

theorem roomAt?_eq_some_iff {p : Place} {r : Room} :
    d.roomAt? p = some r ↔ ∃ f, d.floors[p.floor]? = some f ∧ f.rooms[p.room]? = some r :=
  Option.bind_eq_some_iff

theorem mem_placedRooms_iff_roomAt? {a : Place × Room} :
    a ∈ d.placedRooms ↔ d.roomAt? a.1 = some a.2 :=
  mem_placedRooms_iff.trans roomAt?_eq_some_iff.symm

theorem floorReplaced_addRoom {i : Nat} {f : Floor} (there : d.floors[i]? = some f) (r : Room) :
    d.FloorReplaced i f (f.addRoom r) (d.addRoom i r) :=
  ⟨_, .modify there _, rfl⟩

theorem floorReplaced_removeRoom {p : Place} {f : Floor} (there : d.floors[p.floor]? = some f) :
    d.FloorReplaced p.floor f { f with rooms := f.rooms.eraseIdx p.room } (d.removeRoom p) :=
  ⟨_, .modify there _, rfl⟩

theorem roomReplaced_connect {p : Place} {r : Room} (there : d.roomAt? p = some r)
    (target : String) :
    d.RoomReplaced p.floor p.room r (r.connect target) (d.connect p target) := by
  obtain ⟨f, floor, room⟩ := roomAt?_eq_some_iff.1 there
  exact ⟨f, _, .modify room _, _, .modify floor _, rfl⟩

def roomsBefore (d : Dungeon) (i : Nat) : List Room :=
  (d.floors.take i).flatMap Floor.rooms

def roomsAfter (d : Dungeon) (i : Nat) : List Room :=
  (d.floors.drop (i + 1)).flatMap Floor.rooms

theorem FloorReplaced.allRooms {i : Nat} {f g : Floor} (replaced : d.FloorReplaced i f g e) :
    d.allRooms = d.roomsBefore i ++ (f.rooms ++ d.roomsAfter i) ∧
      e.allRooms = d.roomsBefore i ++ (g.rooms ++ d.roomsAfter i) := by
  obtain ⟨floors, ⟨before, after, rfl, around, rfl⟩, rfl⟩ := replaced
  simp [Dungeon.allRooms, roomsBefore, roomsAfter, around]

theorem allRooms_addRoom {i : Nat} {f : Floor} (there : d.floors[i]? = some f) (r : Room) :
    d.allRooms = d.roomsBefore i ++ f.rooms ++ d.roomsAfter i ∧
      (d.addRoom i r).allRooms = d.roomsBefore i ++ f.rooms ++ r :: d.roomsAfter i := by
  obtain ⟨before, after⟩ := (floorReplaced_addRoom there r).allRooms
  rw [before, after]
  simp [Floor.addRoom]

theorem roomNames_addRoom {i : Nat} {f : Floor} (there : d.floors[i]? = some f) (r : Room)
    (n : String) : n ∈ (d.addRoom i r).roomNames ↔ n = r.name ∨ n ∈ d.roomNames := by
  obtain ⟨before, after⟩ := allRooms_addRoom there r
  simp only [roomNames, before, after, List.map_append, List.map_cons, List.mem_append,
    List.mem_cons, or_left_comm]

/-- Up to order, the rooms are the one that is taken out and those that remain. -/
theorem allRooms_removeRoom {p : Place} {r : Room} (there : d.roomAt? p = some r) :
    d.allRooms.Perm (r :: (d.removeRoom p).allRooms) := by
  obtain ⟨f, floor, room⟩ := roomAt?_eq_some_iff.1 there
  obtain ⟨before, after⟩ := (floorReplaced_removeRoom floor).allRooms
  obtain ⟨bound, rfl⟩ := List.getElem?_eq_some_iff.1 room
  rw [before, after]
  have erased := (List.getElem_cons_eraseIdx_perm bound).symm
  exact ((erased.append_right _).append_left _).trans List.perm_middle

theorem RoomReplaced.allRooms {i j : Nat} {r s : Room} (replaced : d.RoomReplaced i j r s e) :
    ∃ before after, d.allRooms = before ++ r :: after ∧ e.allRooms = before ++ s :: after := by
  obtain ⟨f, rooms, ⟨front, back, -, around, rfl⟩, floor⟩ := replaced
  obtain ⟨before, after⟩ := floor.allRooms
  refine ⟨d.roomsBefore i ++ front, back ++ d.roomsAfter i, ?_, ?_⟩
  · rw [before, around]
    simp
  · rw [after]
    simp

end Dungeon

end DungeonForge
