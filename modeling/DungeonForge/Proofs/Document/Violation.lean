import DungeonForge.Document.Violation

/-!
What it means that a dungeon has no violation: every connection leads to some room of the dungeon,
and what is in the rooms is in range. Where it has violations, the one for which validation stops is
the first in the list of all of them.
-/

namespace DungeonForge

/-- A room without a violation, among rooms with the known names. -/
structure Room.Sound (r : Room) (known : List String) : Prop where
  connections : ∀ target ∈ r.connections, target ∈ known
  chances : ∀ t ∈ r.traps, 0 ≤ t.triggerChance.toInt ∧ t.triggerChance.toInt ≤ 100
  health : ∀ n ∈ r.npcs, 0 ≤ n.health.toInt

theorem Room.Sound.mono {r s : Room} {known known' : List String} (sound : r.Sound known)
    (connections : s.connections ⊆ r.connections) (traps : s.traps ⊆ r.traps)
    (npcs : s.npcs ⊆ r.npcs) (names : known ⊆ known') : s.Sound known' where
  connections t mem := names (sound.connections t (connections mem))
  chances t mem := sound.chances t (traps mem)
  health n mem := sound.health n (npcs mem)

theorem Room.firstViolation?_eq_none_iff {r : Room} {known : List String} {floor : String} :
    r.firstViolation? known.contains floor = none ↔ r.Sound known := by
  have connections : (r.connections.find? fun target => !known.contains target) = none ↔
      ∀ target ∈ r.connections, target ∈ known := by
    simp
  have chances : (r.traps.find? fun t => !t.chanceIsPercentage) = none ↔
      ∀ t ∈ r.traps, 0 ≤ t.triggerChance.toInt ∧ t.triggerChance.toInt ≤ 100 := by
    simp [Trap.chanceIsPercentage]
  have health : (r.npcs.find? fun n => n.health.toInt < 0) = none ↔
      ∀ n ∈ r.npcs, 0 ≤ n.health.toInt := by
    simp
  unfold firstViolation?
  constructor
  · intro quiet
    split at quiet
    · cases quiet
    · next linked =>
      split at quiet
      · cases quiet
      · next inRange =>
        exact ⟨connections.1 linked, chances.1 inRange, health.1 (Option.map_eq_none_iff.1 quiet)⟩
  · intro sound
    rw [connections.2 sound.connections, chances.2 sound.chances, health.2 sound.health]
    rfl

theorem Dungeon.firstViolation?_eq_none_iff {d : Dungeon} :
    d.firstViolation? = none ↔ ∀ r ∈ d.allRooms, r.Sound d.roomNames := by
  simp only [firstViolation?, List.findSome?_eq_none_iff, Room.firstViolation?_eq_none_iff,
    allRooms, List.mem_flatMap]
  constructor
  · rintro sound r ⟨f, floor, room⟩
    exact sound f floor r room
  · intro sound f floor r room
    exact sound r ⟨f, floor, room⟩

def Room.violations (r : Room) (known : List String) (floor : String) : List Violation :=
  (r.connections.filter fun target => target ∉ known).map (.danglingConnection floor r.name) ++
    (r.traps.filter fun t => t.triggerChance.toInt < 0 ∨ 100 < t.triggerChance.toInt).map
      (fun t => .triggerChanceOutOfRange r.name t.name t.triggerChance) ++
    (r.npcs.filter fun n => n.health.toInt < 0).map
      (fun n => .negativeHealth r.name n.name n.health)

theorem Room.firstViolation?_eq_head? (r : Room) (known : List String) (floor : String) :
    r.firstViolation? known.contains floor = (r.violations known floor).head? := by
  have unknown : (fun target => !known.contains target) = fun target => decide (target ∉ known) := by
    funext target
    simp
  have outside : (fun t : Trap => !t.chanceIsPercentage) = fun t =>
      decide (t.triggerChance.toInt < 0 ∨ 100 < t.triggerChance.toInt) := by
    funext t
    simp only [Trap.chanceIsPercentage, Bool.not_and, ← decide_not, Int.not_le, Bool.decide_or]
  rw [firstViolation?, violations, List.head?_append, List.head?_append, List.head?_map,
    List.head?_map, List.head?_map, List.head?_filter, List.head?_filter, List.head?_filter,
    unknown, outside]
  cases r.connections.find? fun target => decide (target ∉ known) with
  | some target => rfl
  | none =>
    cases r.traps.find? fun t =>
      decide (t.triggerChance.toInt < 0 ∨ 100 < t.triggerChance.toInt) <;> rfl

namespace Dungeon

def violationsAmong (d : Dungeon) (names : List String) : List Violation :=
  d.floors.flatMap fun f => f.rooms.flatMap fun r => r.violations names f.name

def violations (d : Dungeon) : List Violation :=
  d.violationsAmong d.roomNames

theorem firstViolation?_eq_head? (d : Dungeon) : d.firstViolation? = d.violations.head? := by
  simp only [violations, violationsAmong, List.head?_flatMap, ← Room.firstViolation?_eq_head?]
  rfl

theorem violationsAmong_congr (d : Dungeon) {names names' : List String}
    (same : ∀ n, n ∈ names ↔ n ∈ names') : d.violationsAmong names = d.violationsAmong names' := by
  simp only [violationsAmong, Room.violations, same]

/-- What breaks a demand on the rooms of a dungeon, wherever it stands. -/
inductive Violates (d : Dungeon) : Violation → Prop
  | dangling {f : Floor} {r : Room} {target : String} (floor : f ∈ d.floors) (room : r ∈ f.rooms)
      (linked : target ∈ r.connections) (unknown : ∀ g ∈ d.floors, ∀ s ∈ g.rooms, s.name ≠ target) :
      Violates d (.danglingConnection f.name r.name target)
  | chance {f : Floor} {r : Room} {t : Trap} (floor : f ∈ d.floors) (room : r ∈ f.rooms)
      (trap : t ∈ r.traps) (outside : t.triggerChance.toInt < 0 ∨ 100 < t.triggerChance.toInt) :
      Violates d (.triggerChanceOutOfRange r.name t.name t.triggerChance)
  | health {f : Floor} {r : Room} {n : Npc} (floor : f ∈ d.floors) (room : r ∈ f.rooms)
      (npc : n ∈ r.npcs) (negative : n.health.toInt < 0) :
      Violates d (.negativeHealth r.name n.name n.health)

theorem not_mem_roomNames_iff {d : Dungeon} {target : String} :
    target ∉ d.roomNames ↔ ∀ g ∈ d.floors, ∀ s ∈ g.rooms, s.name ≠ target := by
  simp only [roomNames, allRooms, List.mem_map, List.mem_flatMap]
  constructor
  · rintro unknown g floor s room rfl
    exact unknown ⟨s, ⟨g, floor, room⟩, rfl⟩
  · rintro unknown ⟨s, ⟨g, floor, room⟩, rfl⟩
    exact unknown g floor s room rfl

theorem mem_violations_iff {d : Dungeon} {v : Violation} : v ∈ d.violations ↔ d.Violates v := by
  simp only [violations, violationsAmong, Room.violations, List.mem_flatMap, List.mem_append,
    List.mem_map, List.mem_filter, decide_eq_true_eq, not_mem_roomNames_iff]
  constructor
  · rintro ⟨f, floor, r, room, (⟨target, ⟨linked, unknown⟩, rfl⟩ | ⟨t, ⟨trap, outside⟩, rfl⟩) |
      ⟨n, ⟨npc, negative⟩, rfl⟩⟩
    · exact .dangling floor room linked unknown
    · exact .chance floor room trap outside
    · exact .health floor room npc negative
  · rintro (⟨floor, room, linked, unknown⟩ | ⟨floor, room, trap, outside⟩ |
      ⟨floor, room, npc, negative⟩)
    · exact ⟨_, floor, _, room, .inl (.inl ⟨_, ⟨linked, unknown⟩, rfl⟩)⟩
    · exact ⟨_, floor, _, room, .inl (.inr ⟨_, ⟨trap, outside⟩, rfl⟩)⟩
    · exact ⟨_, floor, _, room, .inr ⟨_, ⟨npc, negative⟩, rfl⟩⟩

/-- Validation succeeds exactly if nothing breaks a demand, and else stops for the first breach in
the order of floors and rooms. Names that several rooms bear make no difference. -/
theorem firstViolation?_eq_first (d : Dungeon) :
    (∀ v, v ∈ d.violations ↔ d.Violates v) ∧
    (d.firstViolation? = none ↔ d.violations = []) ∧
    (∀ v later, d.violations = v :: later → d.firstViolation? = some v) ∧
    ∀ names, (∀ n, n ∈ names ↔ n ∈ d.roomNames) →
      d.firstViolation? = (d.violationsAmong names).head? := by
  refine ⟨fun v => mem_violations_iff, ?_, ?_, ?_⟩
  · rw [firstViolation?_eq_head?, List.head?_eq_none_iff]
  · intro v later listed
    rw [firstViolation?_eq_head?, listed, List.head?_cons]
  · intro names same
    rw [firstViolation?_eq_head?, violationsAmong_congr d same]
    rfl

def twinKeep : Dungeon where
  name := "Keep"
  theme := ""
  level := 1
  floors := [⟨"Top", [⟨"Twin", .small, .combat, "Top", ["Twin", "Crypt"], [], []⟩,
      ⟨"Twin", .small, .puzzle, "Attic", ["Twin", "Crypt", "Nowhere"],
        [⟨"Pit", .stepOn, true, 101⟩], []⟩]⟩,
    ⟨"Bottom", [⟨"Crypt", .small, .combat, "Bottom", [], [], [⟨"Rat", .neutral, .enemy, -1⟩]⟩]⟩]

theorem firstViolation?_eq_first_twinKeep :
    twinKeep.firstViolation? = some (.danglingConnection "Top" "Twin" "Nowhere") ∧
    (∀ n, n ∈ ["Crypt", "Twin"] ↔ n ∈ twinKeep.roomNames) ∧
    twinKeep.firstViolation? = (twinKeep.violationsAmong ["Crypt", "Twin"]).head? := by
  have same : ∀ n, n ∈ ["Crypt", "Twin"] ↔ n ∈ twinKeep.roomNames := by
    intro n
    have borne : n ∈ twinKeep.roomNames ↔ n ∈ ["Twin", "Twin", "Crypt"] := Iff.rfl
    grind
  have listed : twinKeep.violations = [.danglingConnection "Top" "Twin" "Nowhere",
      .triggerChanceOutOfRange "Twin" "Pit" 101, .negativeHealth "Crypt" "Rat" (-1)] := by
    decide
  obtain ⟨-, -, first, among⟩ := firstViolation?_eq_first twinKeep
  exact ⟨first _ _ listed, same, among _ same⟩

end Dungeon

end DungeonForge
