import DungeonForge.Proofs.Rules.Links
import Mathlib.Data.Finset.Card

/-!
Repeated room names. The loop over the rooms keeps the names that it has seen, so it reports a room
exactly if an earlier one, on the same floor or on one before it, bears the same name. A name without
a repeat stands for the room that bears it, and with this the other rules tell rooms by name.
-/

namespace DungeonForge

namespace Place

/-- The order in which rooms are visited: floors in order, and the rooms of a floor in order. -/
def Before (p q : Place) : Prop :=
  p.floor < q.floor ∨ p.floor = q.floor ∧ p.room < q.room

instance : DecidableRel Before := fun p q =>
  inferInstanceAs (Decidable (p.floor < q.floor ∨ p.floor = q.floor ∧ p.room < q.room))

theorem Before.asymm {p q : Place} (before : p.Before q) : ¬ q.Before p := by
  unfold Before at before ⊢
  omega

theorem not_before_self (p : Place) : ¬ p.Before p := fun before => before.asymm before

end Place

theorem repeatedNames_eq_map_filter {α : Type} {R : α → α → Prop} [DecidableRel R]
    (asymm : ∀ a b, R a b → ¬ R b a) (name : α → String) {as : List α} (ordered : as.Pairwise R)
    (seen : List String) :
    repeatedNames seen (as.map name) =
      (as.filter fun a => name a ∈ seen ∨ ∃ b ∈ as, R b a ∧ name b = name a).map name := by
  induction as generalizing seen with
  | nil => rfl
  | cons a as ih =>
    obtain ⟨first, rest⟩ := List.pairwise_cons.1 ordered
    have nothing_before : ¬ ∃ b ∈ a :: as, R b a ∧ name b = name a := by
      rintro ⟨b, mem, before, -⟩
      rcases List.mem_cons.1 mem with rfl | later
      · exact asymm b b before before
      · exact asymm a b (first b later) before
    have step : ∀ c ∈ as, (∃ b ∈ a :: as, R b c ∧ name b = name c) ↔
        name c = name a ∨ ∃ b ∈ as, R b c ∧ name b = name c := by
      intro c mem
      simp only [List.exists_mem_cons_iff, first c mem, true_and, eq_comm (a := name a)]
    rw [List.map_cons, repeatedNames, List.filter_cons]
    by_cases known : name a ∈ seen
    · rw [if_pos (List.contains_iff_mem.2 known), if_pos (by simp [known]), List.map_cons, ih rest]
      refine congrArg _ (congrArg _ (List.filter_congr fun c mem => decide_eq_decide.2 ?_))
      rw [step c mem]
      grind
    · rw [if_neg (by simpa using known), if_neg (by simp only [known, nothing_before]; decide), ih rest]
      refine congrArg _ (List.filter_congr fun c mem => decide_eq_decide.2 ?_)
      rw [step c mem, List.mem_cons]
      grind

theorem length_repeatedNames (seen names : List String) :
    (repeatedNames seen names).length + (names.toFinset \ seen.toFinset).card = names.length := by
  induction names generalizing seen with
  | nil => simp [repeatedNames]
  | cons n names ih =>
    rw [repeatedNames, List.toFinset_cons]
    by_cases known : n ∈ seen
    · rw [if_pos (List.contains_iff_mem.2 known),
        Finset.insert_sdiff_of_mem _ (List.mem_toFinset.2 known), List.length_cons,
        List.length_cons, ← ih seen]
      omega
    · have fresh : n ∉ seen.toFinset := fun mem => known (List.mem_toFinset.1 mem)
      have others : insert n names.toFinset \ seen.toFinset =
          insert n (names.toFinset \ (n :: seen).toFinset) := by
        rw [List.toFinset_cons, ← Finset.sdiff_insert_insert_of_mem_of_notMem
          (Finset.mem_insert_self n _) fresh, Finset.insert_sdiff_insert]
      have counted : n ∉ names.toFinset \ (n :: seen).toFinset := by simp
      rw [if_neg (by simpa using known), others, Finset.card_insert_of_notMem counted,
        List.length_cons, ← ih (n :: seen)]
      omega

namespace Dungeon

variable {d : Dungeon}

/-- The rooms that have a namesake before them, floors and rooms in order. -/
def repeats (d : Dungeon) : List (Place × Room) :=
  d.placedRooms.filter fun a => ∃ b ∈ d.placedRooms, b.1.Before a.1 ∧ b.2.name = a.2.name

theorem mem_repeats_iff {a : Place × Room} :
    a ∈ d.repeats ↔ a ∈ d.placedRooms ∧
      ∃ b ∈ d.placedRooms, b.1.Before a.1 ∧ b.2.name = a.2.name := by
  rw [repeats, List.mem_filter, decide_eq_true_eq]

theorem ordered_placedRooms (d : Dungeon) : d.placedRooms.Pairwise fun a b => a.1.Before b.1 := by
  have counted {α : Type} (l : List α) : l.zipIdx.Pairwise fun p q => p.2 < q.2 := by
    rw [← List.pairwise_map, List.zipIdx_map_snd]
    exact List.pairwise_lt_range'
  rw [placedRooms, List.pairwise_flatMap]
  constructor
  · intro p _
    rw [Floor.placedRooms, List.pairwise_map]
    exact (counted p.1.rooms).imp fun later => .inr ⟨rfl, later⟩
  · refine (counted d.floors).imp fun later a here b there => ?_
    obtain ⟨q, -, rfl⟩ := List.mem_map.1 here
    obtain ⟨q', -, rfl⟩ := List.mem_map.1 there
    exact .inl later

theorem duplicateFindings_eq (d : Dungeon) :
    d.duplicateFindings = d.repeats.map fun a => .duplicateRoomName a.2.name := by
  have names : d.roomNames = d.placedRooms.map fun a => a.2.name := by
    rw [roomNames, ← map_snd_placedRooms, List.map_map]
    rfl
  rw [duplicateFindings, names, repeatedNames_eq_map_filter
    (fun _ _ => Place.Before.asymm) _ d.ordered_placedRooms, List.map_map]
  simp only [List.not_mem_nil, false_or]
  rfl

theorem firstBearer_iff_not_mem_repeats {a : Place × Room} (placed : a ∈ d.placedRooms) :
    d.FirstBearer a.2.name a ↔ a ∉ d.repeats := by
  rw [mem_repeats_iff]
  constructor
  · rintro ⟨before, after, rooms, -, others⟩ ⟨-, b, mem, earlier, same⟩
    have ordered := d.ordered_placedRooms
    rw [rooms, List.pairwise_append, List.pairwise_cons] at ordered
    obtain ⟨-, ⟨later, -⟩, -⟩ := ordered
    rw [rooms, List.mem_append, List.mem_cons] at mem
    rcases mem with front | rfl | back
    · exact others b front same
    · exact Place.not_before_self _ earlier
    · exact (later b back).asymm earlier
  · intro no_repeat
    obtain ⟨b, first⟩ : ∃ b, d.FirstBearer a.2.name b :=
      exists_firstBearer (List.mem_map_of_mem (mem_allRooms_of_placed placed))
    obtain ⟨before, after, rooms, named, others⟩ := id first
    have ordered := d.ordered_placedRooms
    have mem := placed
    rw [rooms, List.pairwise_append, List.pairwise_cons] at ordered
    obtain ⟨-, ⟨later, -⟩, -⟩ := ordered
    rw [rooms, List.mem_append, List.mem_cons] at mem
    rcases mem with front | rfl | back
    · exact absurd rfl (others a front)
    · exact first
    · exact absurd ⟨placed, b, first.placed, later a back, named⟩ no_repeat

theorem rule_ne_duplicate_of_mem_floorFindings {f : Floor} {i : Nat} {x : Finding}
    (mem : x ∈ d.floorFindings f i) : x.rule ≠ .duplicateRoomName := by
  simp only [floorFindings, List.mem_append, List.mem_flatMap] at mem
  rcases mem with ((combat | treasure) | isolated) | ⟨a, -, room⟩
  · rw [Floor.rule_of_mem_combatFindings combat]
    exact Rule.noConfusion
  · rw [Floor.rule_of_mem_treasureFindings treasure]
    exact Rule.noConfusion
  · rw [rule_of_mem_isolatedFindings isolated]
    exact Rule.noConfusion
  · intro duplicate
    exact rule_of_mem_roomFindings room (by simp [duplicate])

/-- Repeated names are found first. They are found for exactly the rooms that have a namesake before
them, in the order of the rooms, so there are as many as rooms beyond the first of each name; and
there are none exactly if every name stands for the place of each room that bears it. -/
theorem inspect_duplicates (d : Dungeon) :
    (∃ others, d.inspect.findings =
        d.repeats.map (fun a => .duplicateRoomName a.2.name) ++ others ∧
      ∀ f ∈ others, f.rule ≠ .duplicateRoomName) ∧
    d.inspect.findings.countP (fun f => f.rule = .duplicateRoomName) + d.roomNames.toFinset.card =
      d.allRooms.length ∧
    ((∀ f ∈ d.inspect.findings, f.rule ≠ .duplicateRoomName) ↔
      ∀ a ∈ d.placedRooms, d.bearer? a.2.name = some a) := by
  have others : ∀ f ∈ d.floors.zipIdx.flatMap (fun p => d.floorFindings p.1 p.2),
      f.rule ≠ .duplicateRoomName := by
    intro f mem
    obtain ⟨p, -, found⟩ := List.mem_flatMap.1 mem
    exact rule_ne_duplicate_of_mem_floorFindings found
  have all : ∀ f ∈ d.duplicateFindings, f.rule = .duplicateRoomName :=
    List.forall_mem_map.2 fun _ _ => rfl
  refine ⟨⟨_, by rw [inspect, duplicateFindings_eq], others⟩, ?_, ?_⟩
  · have counted : d.inspect.findings.countP (fun f => f.rule = .duplicateRoomName) =
        (repeatedNames [] d.roomNames).length := by
      rw [inspect, List.countP_append, List.countP_eq_length.2 fun f mem => by simp [all f mem],
        List.countP_eq_zero.2 fun f mem => by simp [others f mem], duplicateFindings,
        List.length_map, Nat.add_zero]
    have names := length_repeatedNames [] d.roomNames
    rw [List.toFinset_nil, Finset.sdiff_empty] at names
    rw [counted, names, roomNames, List.length_map]
  · have none_found : (∀ f ∈ d.inspect.findings, f.rule ≠ .duplicateRoomName) ↔ d.repeats = [] := by
      rw [inspect, List.forall_mem_append, and_iff_left others, duplicateFindings_eq,
        List.forall_mem_map, List.eq_nil_iff_forall_not_mem]
      simp [Finding.rule]
    rw [none_found, List.eq_nil_iff_forall_not_mem]
    constructor
    · intro distinct a placed
      exact firstBearer_iff.1 ((firstBearer_iff_not_mem_repeats placed).2 (distinct a))
    · intro bearers a mem
      have placed := (mem_repeats_iff.1 mem).1
      exact (firstBearer_iff_not_mem_repeats placed).1 (firstBearer_iff.2 (bearers a placed)) mem

example : clonedKeep.repeats.map Prod.fst = [⟨1, 0⟩, ⟨1, 1⟩] := by decide

end Dungeon

end DungeonForge
