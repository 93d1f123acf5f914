import DungeonForge.Proofs.Dungeon.Edit
import DungeonForge.Proofs.Rules.Links
import DungeonForge.Proofs.Rules.Reorder

/-!
Isolated rooms by their places, and what edits make of them. Where every place keeps its room, at
least with the connections that it had, and every name leads at least where it led before, no room
is cut off. A connection that is added is such an edit. So is a room that is added, unless it takes
its name away from a room on a later floor.
-/

namespace DungeonForge

namespace Dungeon

variable {d e : Dungeon}

/-- The rooms that are found isolated, with their places, floors and rooms in order. -/
def isolatedRooms (d : Dungeon) : List (Place × Room) :=
  d.floors.zipIdx.flatMap fun p =>
    (p.1.placedRooms p.2).filter fun a => .isolatedRoom a.2.name ∈ d.isolatedFindings p.1

def isolatedPlaces (d : Dungeon) : List Place :=
  d.isolatedRooms.map Prod.fst

theorem mem_isolatedFindings_iff {f : Floor} {n : String} :
    .isolatedRoom n ∈ d.isolatedFindings f ↔
      ∃ start, f.rooms.head? = some start ∧ n ∈ f.rooms.map Room.name ∧ ¬ d.Reached start n := by
  cases first : f.rooms.head? with
  | none => simp [isolatedFindings_of_empty (List.head?_eq_none_iff.1 first)]
  | some start => simp [isolatedFindings_of_head? first]

theorem isolatedFindings_eq_map (d : Dungeon) (f : Floor) (i : Nat) :
    d.isolatedFindings f =
      ((f.placedRooms i).filter fun a => .isolatedRoom a.2.name ∈ d.isolatedFindings f).map
        fun a => .isolatedRoom a.2.name := by
  cases first : f.rooms.head? with
  | none =>
    have empty := List.head?_eq_none_iff.1 first
    rw [isolatedFindings_of_empty empty, Floor.placedRooms, empty]
    rfl
  | some start =>
    have names : f.rooms.map Room.name = (f.placedRooms i).map fun a => a.2.name := by
      rw [← f.map_snd_placedRooms i, List.map_map]
      rfl
    have reported : ∀ a ∈ f.placedRooms i,
        .isolatedRoom a.2.name ∈ d.isolatedFindings f ↔ ¬ d.Reached start a.2.name := by
      intro a mem
      have named : a.2.name ∈ f.rooms.map Room.name := names ▸ List.mem_map_of_mem mem
      simp [mem_isolatedFindings_iff, first, named]
    rw [List.filter_congr fun a mem => decide_eq_decide.2 (reported a mem),
      isolatedFindings_of_head? first, names, List.filter_map, List.map_map]
    rfl

theorem filter_eq_nil_of_rule {xs : List Finding} (other : ∀ x ∈ xs, x.rule ≠ .isolatedRoom) :
    (xs.filter fun x => x.rule = .isolatedRoom) = [] :=
  List.filter_eq_nil_iff.2 fun x mem => by simpa using other x mem

theorem filter_floorFindings_isolated (d : Dungeon) (f : Floor) (i : Nat) :
    ((d.floorFindings f i).filter fun x => x.rule = .isolatedRoom) = d.isolatedFindings f := by
  have combat : ∀ x ∈ f.combatFindings, x.rule ≠ .isolatedRoom := fun x mem => by
    simp [Floor.rule_of_mem_combatFindings mem]
  have treasure : ∀ x ∈ f.treasureFindings, x.rule ≠ .isolatedRoom := fun x mem => by
    simp [Floor.rule_of_mem_treasureFindings mem]
  have rooms : ∀ x ∈ (f.placedRooms i).flatMap fun a => d.roomFindings a.1 a.2,
      x.rule ≠ .isolatedRoom := by
    intro x mem
    obtain ⟨a, -, found⟩ := List.mem_flatMap.1 mem
    intro isolated
    exact rule_of_mem_roomFindings found (by simp [isolated])
  have isolated : ((d.isolatedFindings f).filter fun x => x.rule = .isolatedRoom) =
      d.isolatedFindings f :=
    List.filter_eq_self.2 fun x mem => by simp [rule_of_mem_isolatedFindings mem]
  rw [floorFindings, List.filter_append, List.filter_append, List.filter_append,
    filter_eq_nil_of_rule combat, filter_eq_nil_of_rule treasure, filter_eq_nil_of_rule rooms,
    isolated, List.append_nil, List.nil_append, List.nil_append]

theorem filter_inspect_isolated (d : Dungeon) :
    (d.inspect.findings.filter fun x => x.rule = .isolatedRoom) =
      d.isolatedRooms.map fun a => .isolatedRoom a.2.name := by
  have duplicates : ∀ x ∈ d.duplicateFindings, x.rule ≠ .isolatedRoom :=
    List.forall_mem_map.2 fun _ _ => Rule.noConfusion
  rw [inspect, List.filter_append, filter_eq_nil_of_rule duplicates, List.nil_append,
    List.filter_flatMap, isolatedRooms, List.map_flatMap]
  refine List.flatMap_congr fun p _ => ?_
  rw [filter_floorFindings_isolated, ← isolatedFindings_eq_map]

/-- A room that the walk from the first room on its floor does not reach. -/
def Isolated (d : Dungeon) (q : Place) : Prop :=
  ∃ start r, d.roomAt? ⟨q.floor, 0⟩ = some start ∧ d.roomAt? q = some r ∧
    ¬ d.Reached start r.name

theorem Isolated.exists_room {q : Place} (isolated : d.Isolated q) : ∃ r, d.roomAt? q = some r := by
  obtain ⟨-, r, -, there, -⟩ := isolated
  exact ⟨r, there⟩

theorem mem_isolatedPlaces_iff {q : Place} : q ∈ d.isolatedPlaces ↔ d.Isolated q := by
  obtain ⟨i, j⟩ := q
  simp only [isolatedPlaces, isolatedRooms, Floor.placedRooms, Isolated, roomAt?_eq_some_iff,
    List.mem_map, List.mem_flatMap, List.mem_filter, decide_eq_true_eq, Prod.exists,
    List.mem_zipIdx_iff_getElem?, mem_isolatedFindings_iff, List.head?_eq_getElem?]
  constructor
  · rintro ⟨p, r, ⟨f, _, floor, ⟨s, _, room, same⟩, start, first, -, cut⟩, here⟩
    cases same
    cases here
    exact ⟨start, r, ⟨f, floor, first⟩, ⟨f, floor, room⟩, cut⟩
  · rintro ⟨start, r, ⟨f, floor, first⟩, ⟨g, floor', room⟩, cut⟩
    obtain rfl : f = g := Option.some.inj (floor.symm.trans floor')
    exact ⟨_, r, ⟨f, i, floor, ⟨r, j, room, rfl⟩, start, first,
      ⟨r, List.mem_of_getElem? room, rfl⟩, cut⟩, rfl⟩

end Dungeon

structure Room.Grows (r s : Room) : Prop where
  name : s.name = r.name
  connections : r.connections ⊆ s.connections

theorem Room.Grows.refl (r : Room) : r.Grows r :=
  ⟨rfl, List.Subset.refl _⟩

theorem Room.grows_connect (r : Room) (target : String) : r.Grows (r.connect target) :=
  ⟨rfl, List.subset_append_left _ _⟩

/-- Every place keeps its room and every name leads at least where it led before. -/
structure Dungeon.Grows (d e : Dungeon) : Prop where
  rooms : ∀ q r, d.roomAt? q = some r → ∃ s, e.roomAt? q = some s ∧ r.Grows s
  bearers : ∀ n r, d.room? n = some r → ∃ s, e.room? n = some s ∧ r.Grows s

namespace Dungeon

variable {d e : Dungeon} {i : Nat} {f : Floor} {p q : Place} {r : Room}

theorem Grows.reached (grows : d.Grows e) {start start' : Room} (same : start.Grows start')
    {n : String} (reached : d.Reached start n) : e.Reached start' n := by
  refine reached.mono same.name same.connections (fun n borne => ?_) fun n r first => ?_
  · obtain ⟨r, first⟩ := Option.isSome_iff_exists.1 (room?_isSome_iff.2 borne)
    obtain ⟨s, first', -⟩ := grows.bearers n r first
    exact room?_isSome_iff.1 (Option.isSome_iff_exists.2 ⟨s, first'⟩)
  · obtain ⟨s, first', grown⟩ := grows.bearers n r first
    exact ⟨s, first', grown.connections⟩

theorem exists_first_of_roomAt? (there : d.roomAt? q = some r) :
    ∃ start, d.roomAt? ⟨q.floor, 0⟩ = some start := by
  obtain ⟨f, floor, room⟩ := roomAt?_eq_some_iff.1 there
  obtain ⟨bound, -⟩ := List.getElem?_eq_some_iff.1 room
  exact ⟨_, roomAt?_eq_some_iff.2 ⟨f, floor, List.getElem?_eq_getElem (Nat.zero_lt_of_lt bound)⟩⟩

theorem Grows.isolated (grows : d.Grows e) (there : d.roomAt? q = some r)
    (isolated : e.Isolated q) : d.Isolated q := by
  obtain ⟨start', s, first', there', cut⟩ := isolated
  obtain ⟨start, first⟩ := exists_first_of_roomAt? there
  obtain ⟨_, again, started⟩ := grows.rooms _ _ first
  obtain rfl := Option.some.inj (again.symm.trans first')
  obtain ⟨_, again, grown⟩ := grows.rooms _ _ there
  obtain rfl := Option.some.inj (again.symm.trans there')
  refine ⟨start, r, first, there, fun reached => cut ?_⟩
  rw [grown.name]
  exact grows.reached started reached

theorem roomAt?_connect (d : Dungeon) (p q : Place) (target : String) :
    (d.connect p target).roomAt? q =
      (d.roomAt? q).map fun r => if q = p then r.connect target else r := by
  obtain ⟨i, j⟩ := p
  obtain ⟨k, l⟩ := q
  simp only [roomAt?, connect, List.getElem?_modify, Place.mk.injEq]
  cases d.floors[k]? with
  | none => rfl
  | some f =>
    by_cases floor : i = k
    · subst floor
      cases there : f.rooms[l]? <;> simp [List.getElem?_modify, there, eq_comm]
    · simp [floor, Ne.symm floor]

theorem grows_connect (there : d.roomAt? p = some r) (target : String) :
    d.Grows (d.connect p target) where
  rooms q s found := by
    rw [roomAt?_connect, found]
    refine ⟨_, rfl, ?_⟩
    split
    · exact s.grows_connect target
    · exact .refl s
  bearers n s first := by
    obtain ⟨before, after, rooms, rooms'⟩ := (roomReplaced_connect there target).allRooms
    have alike (l : List Room) : List.Forall₂ Room.Grows l l :=
      List.forall₂_same.2 fun s _ => .refl s
    have related : List.Forall₂ Room.Grows d.allRooms (d.connect p target).allRooms := by
      rw [rooms, rooms']
      exact List.rel_append (alike before) (.cons (r.grows_connect target) (alike after))
    have there : Option.Rel Room.Grows (d.room? n) ((d.connect p target).room? n) :=
      rel_find? related fun _ _ grown => by rw [grown.name]
    rw [first] at there
    generalize (d.connect p target).room? n = other at there
    cases there with
    | some grown => exact ⟨_, rfl, grown⟩

theorem roomAt?_addRoom (floor : d.floors[i]? = some f) (r : Room) (q : Place) :
    (d.addRoom i r).roomAt? q =
      if q = ⟨i, f.rooms.length⟩ then some r else d.roomAt? q := by
  obtain ⟨k, l⟩ := q
  simp only [roomAt?, addRoom, List.getElem?_modify, Place.mk.injEq]
  by_cases here : i = k
  · subst here
    simp only [floor, Option.map_eq_map, Option.map_some, if_true, Option.bind_some,
      Floor.addRoom, true_and]
    by_cases last : l = f.rooms.length
    · rw [if_pos last, last, List.getElem?_concat_length]
    · rw [if_neg last]
      grind
  · rw [if_neg fun both => here both.1.symm]
    cases d.floors[k]? with
    | none => rfl
    | some g => simp [here]

theorem room?_addRoom (floor : d.floors[i]? = some f)
    (unborne : ∀ s ∈ d.roomsAfter i, s.name ≠ r.name) {n : String} {s : Room}
    (first : d.room? n = some s) : (d.addRoom i r).room? n = some s := by
  obtain ⟨before, after⟩ := allRooms_addRoom floor r
  rw [room?, before, List.find?_append] at first
  rw [room?, after, List.find?_append, List.find?_cons]
  cases earlier : (d.roomsBefore i ++ f.rooms).find? fun r => r.name == n with
  | some t =>
    rw [earlier] at first
    exact first
  | none =>
    rw [earlier, Option.none_or] at first
    have other : (r.name == n) = false := by
      have named : s.name = n := by simpa using List.find?_some first
      rw [← named]
      exact beq_eq_false_iff_ne.2 (unborne s (List.mem_of_find?_eq_some first)).symm
    rw [other, Option.none_or]
    exact first

theorem grows_addRoom (floor : d.floors[i]? = some f)
    (unborne : ∀ s ∈ d.roomsAfter i, s.name ≠ r.name) : d.Grows (d.addRoom i r) where
  rooms q s found := by
    refine ⟨s, ?_, .refl s⟩
    rw [roomAt?_addRoom floor, if_neg ?_, found]
    rintro rfl
    obtain ⟨g, floor', room⟩ := roomAt?_eq_some_iff.1 found
    obtain rfl : f = g := Option.some.inj (floor.symm.trans floor')
    rw [List.getElem?_length] at room
    cases room
  bearers n s first := ⟨s, room?_addRoom floor unborne first, .refl s⟩

theorem not_isolated_of_short (floor : d.floors[q.floor]? = some f) (short : f.rooms.length < 2) :
    ¬ d.Isolated q := by
  rintro ⟨start, r, first, there, cut⟩
  obtain ⟨i, j⟩ := q
  obtain ⟨g, floor', room⟩ := roomAt?_eq_some_iff.1 there
  obtain rfl : f = g := Option.some.inj (floor.symm.trans floor')
  obtain ⟨bound, -⟩ := List.getElem?_eq_some_iff.1 room
  obtain rfl : j = 0 := by
    simp only at bound
    omega
  obtain rfl : start = r := Option.some.inj (first.symm.trans there)
  exact cut .own

/-- The isolated rooms that an inspection finds are those at the isolated places, in their order. A
connection that is added to a room cuts no room off. A room that is added to a floor cuts none off
either, if no room on a later floor bears its name: only the new room may be found isolated besides,
and none that was there before on a floor of fewer than two rooms. -/
theorem isolatedPlaces_edited (d : Dungeon) :
    (d.inspect.findings.filter fun x => x.rule = .isolatedRoom) =
      d.isolatedRooms.map (fun a => .isolatedRoom a.2.name) ∧
    (∀ p r target, (p, r) ∈ d.placedRooms →
      (d.connect p target).isolatedPlaces ⊆ d.isolatedPlaces) ∧
    ∀ i f r, d.floors[i]? = some f → (∀ s ∈ d.roomsAfter i, s.name ≠ r.name) →
      (∀ q ∈ (d.addRoom i r).isolatedPlaces,
        q ∈ d.isolatedPlaces ∨ q = ⟨i, f.rooms.length⟩) ∧
      ∀ q s g, (q, s) ∈ d.placedRooms → d.floors[q.floor]? = some g → g.rooms.length < 2 →
        q ∉ (d.addRoom i r).isolatedPlaces := by
  refine ⟨d.filter_inspect_isolated, ?_, ?_⟩
  · intro p r target placed q isolated
    rw [mem_isolatedPlaces_iff] at isolated ⊢
    have grows := grows_connect (mem_placedRooms_iff_roomAt?.1 placed) target
    obtain ⟨s, there⟩ := isolated.exists_room
    rw [roomAt?_connect] at there
    obtain ⟨r, before, -⟩ := Option.map_eq_some_iff.1 there
    exact grows.isolated before isolated
  · intro i f r floor unborne
    have grows := grows_addRoom floor unborne
    constructor
    · intro q isolated
      rw [mem_isolatedPlaces_iff] at isolated ⊢
      obtain ⟨s, there⟩ := isolated.exists_room
      rw [roomAt?_addRoom floor] at there
      by_cases last : q = ⟨i, f.rooms.length⟩
      · exact .inr last
      · rw [if_neg last] at there
        exact .inl (grows.isolated there isolated)
    · intro q s g placed floor short isolated
      rw [mem_isolatedPlaces_iff] at isolated
      exact not_isolated_of_short floor short
        (grows.isolated (mem_placedRooms_iff_roomAt?.1 placed) isolated)

def gatedKeep : Dungeon where
  name := "Keep"
  theme := ""
  level := 1
  floors := [⟨"Cell", [upperGate]⟩, upperFloor]

def nowhere : Room :=
  ⟨"Nowhere", .small, .combat, "Cell", ["Attic"], [], []⟩

theorem isolatedPlaces_edited_gatedKeep :
    (gatedKeep.inspect.findings.filter fun x => x.rule = .isolatedRoom) =
      gatedKeep.isolatedRooms.map (fun a => .isolatedRoom a.2.name) ∧
    (gatedKeep.connect ⟨1, 0⟩ "Attic").isolatedPlaces ⊆ gatedKeep.isolatedPlaces ∧
    (∀ s ∈ gatedKeep.roomsAfter 0, s.name ≠ nowhere.name) ∧
    (∀ q ∈ (gatedKeep.addRoom 0 nowhere).isolatedPlaces,
      q ∈ gatedKeep.isolatedPlaces ∨ q = ⟨0, 1⟩) ∧
    ⟨0, 0⟩ ∉ (gatedKeep.addRoom 0 nowhere).isolatedPlaces := by
  have unborne : ∀ s ∈ gatedKeep.roomsAfter 0, s.name ≠ nowhere.name := by decide
  obtain ⟨found, linked, added⟩ := isolatedPlaces_edited gatedKeep
  obtain ⟨others, short⟩ := added 0 _ nowhere rfl unborne
  exact ⟨found, linked ⟨1, 0⟩ upperGate "Attic" (by decide), unborne, others,
    short ⟨0, 0⟩ upperGate _ (by decide) rfl (by decide)⟩

end Dungeon

end DungeonForge
