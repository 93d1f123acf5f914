import DungeonForge.Proofs.Document.Violation
import DungeonForge.Proofs.Dungeon.Edit

/-!
Validation after an edit. A room that is added must find its targets and be in range; to all others
it is one more name to know. A room that is taken out matters only if no other bears its name, and
then what is found is the first connection that it leaves dangling.
-/

namespace DungeonForge

theorem Room.Sound.firstViolation?_forgotten {r : Room} {known known' : List String} {n : String}
    (sound : r.Sound known) (others : ∀ t ∈ known, t = n ∨ t ∈ known') (forgotten : n ∉ known')
    (floor : String) :
    r.firstViolation? known'.contains floor =
      if n ∈ r.connections then some (.danglingConnection floor r.name n) else none := by
  by_cases linked : n ∈ r.connections
  · rw [if_pos linked]
    obtain ⟨target, found⟩ : ∃ target, (r.connections.find? fun t => !known'.contains t) =
        some target := by
      refine Option.isSome_iff_exists.1 (List.find?_isSome.2 ⟨n, linked, ?_⟩)
      simpa using forgotten
    have unknown : target ∉ known' := by simpa using List.find?_some found
    obtain rfl : target = n :=
      (others target (sound.connections target (List.mem_of_find?_eq_some found))).resolve_right
        unknown
    rw [firstViolation?, found]
  · rw [if_neg linked, firstViolation?_eq_none_iff]
    refine ⟨fun target mem => ?_, sound.chances, sound.health⟩
    refine (others target (sound.connections target mem)).resolve_left ?_
    rintro rfl
    exact linked mem

namespace Dungeon

variable {d : Dungeon}

/-- Every room with the name of its floor, floors and rooms in order. -/
def housedRooms (d : Dungeon) : List (String × Room) :=
  d.floors.flatMap fun f => f.rooms.map fun r => (f.name, r)

theorem map_snd_housedRooms (d : Dungeon) : d.housedRooms.map Prod.snd = d.allRooms := by
  simp only [housedRooms, allRooms, List.map_flatMap, List.map_map, Function.comp_def, List.map_id']

theorem firstViolation?_eq_findSome? (d : Dungeon) :
    d.firstViolation? =
      d.housedRooms.findSome? fun a => a.2.firstViolation? d.roomNames.contains a.1 := by
  have housed : d.violations =
      d.housedRooms.flatMap fun a => a.2.violations d.roomNames a.1 := by
    simp only [violations, violationsAmong, housedRooms, List.flatMap_assoc, List.flatMap_map]
  simp only [firstViolation?_eq_head?, housed, List.head?_flatMap, ← Room.firstViolation?_eq_head?]

theorem firstViolation?_addRoom_iff (valid : d.firstViolation? = none) {i : Nat} {f : Floor}
    (floor : d.floors[i]? = some f) (r : Room) :
    (d.addRoom i r).firstViolation? = none ↔ r.Sound (r.name :: d.roomNames) := by
  have names := roomNames_addRoom floor r
  have rooms : ∀ s, s ∈ (d.addRoom i r).allRooms ↔ s = r ∨ s ∈ d.allRooms := by
    obtain ⟨before, after⟩ := allRooms_addRoom floor r
    intro s
    simp only [before, after, List.mem_append, List.mem_cons, or_left_comm]
  have sounds := firstViolation?_eq_none_iff.1 valid
  rw [firstViolation?_eq_none_iff]
  constructor
  · intro all
    exact (all r ((rooms r).2 (.inl rfl))).mono (.refl _) (.refl _) (.refl _) fun n mem =>
      List.mem_cons.2 ((names n).1 mem)
  · intro sound s mem
    rcases (rooms s).1 mem with rfl | old
    · exact sound.mono (.refl _) (.refl _) (.refl _) fun n mem => (names n).2 (List.mem_cons.1 mem)
    · exact (sounds s old).mono (.refl _) (.refl _) (.refl _) fun n mem => (names n).2 (.inr mem)

theorem firstViolation?_removeRoom (valid : d.firstViolation? = none) {p : Place} {r : Room}
    (there : d.roomAt? p = some r) :
    (d.removeRoom p).firstViolation? =
      if r.name ∈ (d.removeRoom p).roomNames then none
      else ((d.removeRoom p).housedRooms.find? fun a => r.name ∈ a.2.connections).map
        fun a => .danglingConnection a.1 a.2.name r.name := by
  have rooms := allRooms_removeRoom there
  generalize d.removeRoom p = e at rooms ⊢
  have names : ∀ n ∈ d.roomNames, n = r.name ∨ n ∈ e.roomNames := fun n mem =>
    List.mem_cons.1 ((rooms.map Room.name).subset mem)
  have sounds : ∀ s ∈ e.allRooms, s.Sound d.roomNames := fun s mem =>
    firstViolation?_eq_none_iff.1 valid s (rooms.symm.subset (List.mem_cons_of_mem r mem))
  by_cases borne : r.name ∈ e.roomNames
  · rw [if_pos borne, firstViolation?_eq_none_iff]
    refine fun s mem => (sounds s mem).mono (.refl _) (.refl _) (.refl _) fun n known => ?_
    rcases names n known with rfl | other
    · exact borne
    · exact other
  · rw [if_neg borne, firstViolation?_eq_findSome?]
    have faults : ∀ a ∈ e.housedRooms, a.2.firstViolation? e.roomNames.contains a.1 =
        if r.name ∈ a.2.connections then some (.danglingConnection a.1 a.2.name r.name)
        else none := by
      intro a mem
      have room : a.2 ∈ e.allRooms := e.map_snd_housedRooms ▸ List.mem_map_of_mem mem
      exact (sounds a.2 room).firstViolation?_forgotten names borne a.1
    cases found : e.housedRooms.find? fun a => decide (r.name ∈ a.2.connections) with
    | none =>
      refine List.findSome?_eq_none_iff.2 fun a mem => ?_
      rw [faults a mem, if_neg (by simpa using List.find?_eq_none.1 found a mem)]
    | some a =>
      obtain ⟨linked, before, after, housed, others⟩ := List.find?_eq_some_iff_append.1 found
      refine List.findSome?_eq_some_iff.2 ⟨before, a, after, housed, ?_, fun b mem => ?_⟩
      · rw [faults a (List.mem_of_find?_eq_some found), if_pos (by simpa using linked)]
      · rw [faults b (housed ▸ List.mem_append_left _ mem), if_neg (by simpa using others b mem)]

/-- A dungeon without a violation has none after a room has been added exactly if that room's
targets are known, its own name among them, and what is in it is in range. After a room has been
taken out it has none exactly if another room bears the name or no remaining one lists it, and else
the connection of the first remaining room that lists the name is found dangling. -/
theorem firstViolation?_edited (d : Dungeon) (valid : d.firstViolation? = none) :
    (∀ i f r, d.floors[i]? = some f →
      ((d.addRoom i r).firstViolation? = none ↔
        (∀ t ∈ r.connections, t ∈ d.roomNames ∨ t = r.name) ∧
        (∀ t ∈ r.traps, 0 ≤ t.triggerChance.toInt ∧ t.triggerChance.toInt ≤ 100) ∧
        ∀ n ∈ r.npcs, 0 ≤ n.health.toInt)) ∧
    ∀ p r, (p, r) ∈ d.placedRooms →
      ((d.removeRoom p).firstViolation? = none ↔
        r.name ∈ (d.removeRoom p).roomNames ∨
          ∀ s ∈ (d.removeRoom p).allRooms, r.name ∉ s.connections) ∧
      ((d.removeRoom p).firstViolation? ≠ none →
        ∃ before floor s after, (d.removeRoom p).housedRooms = before ++ (floor, s) :: after ∧
          r.name ∈ s.connections ∧ (∀ a ∈ before, r.name ∉ a.2.connections) ∧
          (d.removeRoom p).firstViolation? = some (.danglingConnection floor s.name r.name)) := by
  constructor
  · intro i f r floor
    rw [firstViolation?_addRoom_iff valid floor]
    constructor
    · intro sound
      refine ⟨fun t mem => ?_, sound.chances, sound.health⟩
      exact (List.mem_cons.1 (sound.connections t mem)).symm
    · rintro ⟨connections, chances, health⟩
      exact ⟨fun t mem => List.mem_cons.2 (connections t mem).symm, chances, health⟩
  · intro p r placed
    have found := firstViolation?_removeRoom valid (mem_placedRooms_iff_roomAt?.1 placed)
    generalize d.removeRoom p = e at found ⊢
    by_cases borne : r.name ∈ e.roomNames
    · rw [if_pos borne] at found
      exact ⟨iff_of_true found (.inl borne), fun fault => absurd found fault⟩
    rw [if_neg borne] at found
    cases first : e.housedRooms.find? fun a => decide (r.name ∈ a.2.connections) with
    | none =>
      rw [first] at found
      refine ⟨iff_of_true found (.inr fun s mem => ?_), fun fault => absurd found fault⟩
      obtain ⟨a, housed, rfl⟩ := List.mem_map.1 (e.map_snd_housedRooms ▸ mem)
      simpa using List.find?_eq_none.1 first a housed
    | some a =>
      obtain ⟨linked, before, after, housed, others⟩ := List.find?_eq_some_iff_append.1 first
      simp only [decide_eq_true_eq, Bool.not_eq_true', decide_eq_false_iff_not] at linked others
      rw [first] at found
      have listed : a.2 ∈ e.allRooms := by
        rw [← map_snd_housedRooms]
        exact List.mem_map_of_mem (List.mem_of_find?_eq_some first)
      constructor
      · refine iff_of_false (by simp [found]) ?_
        rintro (other | unlisted)
        · exact borne other
        · exact unlisted a.2 listed linked
      · exact fun _ => ⟨before, a.1, a.2, after, housed, linked, others, found⟩

def cryptKeep : Dungeon where
  name := "Keep"
  theme := ""
  level := 1
  floors := [⟨"Top", [⟨"Hall", .small, .combat, "Top", ["Hall", "Crypt"], [], []⟩, twin]⟩,
    ⟨"Bottom", [crypt, twin]⟩]
where
  twin := ⟨"Twin", .small, .combat, "Top", ["Crypt", "Twin"], [], []⟩
  crypt := ⟨"Crypt", .small, .treasure, "Bottom", ["Twin"], [], []⟩

def cryptShed (target : String) : Room :=
  ⟨"Shed", .small, .combat, "Bottom", ["Shed", target], [⟨"Pit", .stepOn, true, 100⟩], []⟩

theorem firstViolation?_edited_cryptKeep :
    cryptKeep.firstViolation? = none ∧
    (cryptKeep.addRoom 1 (cryptShed "Hall")).firstViolation? = none ∧
    (cryptKeep.addRoom 1 (cryptShed "Loft")).firstViolation? ≠ none ∧
    (cryptKeep.removeRoom ⟨0, 1⟩).firstViolation? = none ∧
    ∃ before floor s after,
      (cryptKeep.removeRoom ⟨1, 0⟩).housedRooms = before ++ (floor, s) :: after ∧
      "Crypt" ∈ s.connections ∧ (∀ a ∈ before, "Crypt" ∉ a.2.connections) ∧
      (cryptKeep.removeRoom ⟨1, 0⟩).firstViolation? =
        some (.danglingConnection floor s.name "Crypt") := by
  have valid : cryptKeep.firstViolation? = none := by decide
  obtain ⟨added, removed⟩ := firstViolation?_edited cryptKeep valid
  refine ⟨valid, (added 1 _ _ rfl).2 (by decide), fun quiet => ?_, ?_, ?_⟩
  · exact absurd ((added 1 _ (cryptShed "Loft") rfl).1 quiet).1 (by decide)
  · exact (removed ⟨0, 1⟩ cryptKeep.twin (by decide)).1.2 (.inl (by decide))
  · exact (removed ⟨1, 0⟩ cryptKeep.crypt (by decide)).2 (by decide)

end Dungeon

end DungeonForge
