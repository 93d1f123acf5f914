import DungeonForge.Proofs.Rules.Playable
import Mathlib.Data.List.Forall2
import Mathlib.Data.List.Perm.Basic

/-!
Two dungeons whose rooms correspond place by place. The rules that go beyond a single room read
nothing of a room but its name, its kind and its connections. Where corresponding rooms agree in
these, a name stands for the same place in both dungeons, the walk on a floor reaches the same names,
and these rules find the same; the order of the connections plays no part.
-/

namespace DungeonForge

section Lists

variable {α β γ : Type} {R : α → β → Prop}

theorem map_eq_of_forall₂ {as : List α} {bs : List β} {f : α → γ} {g : β → γ}
    (related : List.Forall₂ R as bs) (same : ∀ a b, R a b → f a = g b) : as.map f = bs.map g := by
  rw [← List.forall₂_eq_eq_eq]
  exact List.rel_map (R := R) (P := Eq) (fun a b => same a b) related

theorem forall₂_zipIdx {as : List α} {bs : List β} (related : List.Forall₂ R as bs) (i : Nat) :
    List.Forall₂ (fun p q => p.2 = q.2 ∧ R p.1 q.1) (as.zipIdx i) (bs.zipIdx i) := by
  induction related generalizing i with
  | nil => exact .nil
  | cons first _ ih => exact .cons ⟨rfl, first⟩ (ih (i + 1))

theorem rel_find? {as : List α} {bs : List β} {p : α → Bool} {q : β → Bool}
    (related : List.Forall₂ R as bs) (same : ∀ a b, R a b → p a = q b) :
    Option.Rel R (as.find? p) (bs.find? q) := by
  induction related with
  | nil => exact .none
  | cons first _ ih =>
    rw [List.find?_cons, List.find?_cons, same _ _ first]
    split
    · exact .some first
    · exact ih

end Lists

/-- A room of the same name and kind with the same connections, in any order. -/
structure Room.Alike (r s : Room) : Prop where
  name : r.name = s.name
  kind : r.kind = s.kind
  connections : r.connections.Perm s.connections

structure Floor.Alike (f g : Floor) : Prop where
  name : f.name = g.name
  rooms : List.Forall₂ Room.Alike f.rooms g.rooms

theorem Room.Alike.symm {r s : Room} (h : r.Alike s) : s.Alike r :=
  ⟨h.name.symm, h.kind.symm, h.connections.symm⟩

namespace Floor.Alike

variable {f g : Floor} (h : f.Alike g)

include h

theorem symm : g.Alike f :=
  ⟨h.name.symm, (h.rooms.imp fun _ _ => Room.Alike.symm).flip⟩

theorem kinds : (f.rooms.map Room.kind).Perm (g.rooms.map Room.kind) :=
  .of_eq (map_eq_of_forall₂ h.rooms fun _ _ => Room.Alike.kind)

end Floor.Alike

namespace Dungeon

variable {d e : Dungeon} (same : List.Forall₂ Floor.Alike d.floors e.floors)

include same

theorem placedRooms_alike :
    List.Forall₂ (fun a b => a.1 = b.1 ∧ a.2.Alike b.2) d.placedRooms e.placedRooms := by
  refine List.rel_flatMap (forall₂_zipIdx same 0) ?_
  rintro ⟨f, i⟩ ⟨g, j⟩ ⟨rfl, alike⟩
  simp only [Floor.placedRooms, List.forall₂_map_left_iff, List.forall₂_map_right_iff]
  refine (forall₂_zipIdx alike.rooms 0).imp ?_
  rintro ⟨r, k⟩ ⟨s, l⟩ ⟨rfl, alike⟩
  exact ⟨rfl, alike⟩

theorem roomNames_alike : d.roomNames = e.roomNames := by
  rw [roomNames, roomNames, ← map_snd_placedRooms, ← map_snd_placedRooms, List.map_map,
    List.map_map]
  exact map_eq_of_forall₂ (placedRooms_alike same) fun a b alike => alike.2.name

theorem duplicateFindings_alike : d.duplicateFindings = e.duplicateFindings := by
  rw [duplicateFindings, duplicateFindings, roomNames_alike same]

theorem bearer?_alike (name : String) :
    Option.Rel (fun a b => a.1 = b.1 ∧ a.2.Alike b.2) (d.bearer? name) (e.bearer? name) :=
  rel_find? (placedRooms_alike same) fun a b alike => by rw [alike.2.name]

theorem exists_room?_alike {name : String} {r : Room} (first : d.room? name = some r) :
    ∃ s, e.room? name = some s ∧ r.Alike s := by
  rw [← map_snd_bearer?] at first
  obtain ⟨a, bearer, rfl⟩ := Option.map_eq_some_iff.1 first
  have there := bearer?_alike same name
  rw [bearer] at there
  rw [← map_snd_bearer?]
  generalize e.bearer? name = other at there
  cases there with
  | some alike => exact ⟨_, rfl, alike.2⟩

theorem Reached.alike {start start' : Room} (alike : start.Alike start') {n : String}
    (reached : d.Reached start n) : e.Reached start' n := by
  refine reached.mono alike.name.symm (fun t => alike.connections.mem_iff.1)
    (fun n => by rw [roomNames_alike same]; exact id) fun name r first => ?_
  obtain ⟨s, first', alike⟩ := exists_room?_alike same first
  exact ⟨s, first', fun t => alike.connections.mem_iff.1⟩

theorem isolatedFindings_alike {f g : Floor} (alike : f.Alike g) :
    d.isolatedFindings f = e.isolatedFindings g := by
  have names : f.rooms.map Room.name = g.rooms.map Room.name :=
    map_eq_of_forall₂ alike.rooms fun _ _ => Room.Alike.name
  have back : List.Forall₂ Floor.Alike e.floors d.floors :=
    (same.imp fun _ _ => Floor.Alike.symm).flip
  obtain ⟨name, rooms⟩ := alike
  generalize inF : f.rooms = fs at rooms names
  generalize inG : g.rooms = gs at rooms names
  cases rooms with
  | nil => rw [isolatedFindings_of_empty inF, isolatedFindings_of_empty inG]
  | @cons start start' _ _ first _ =>
    have headF : f.rooms.head? = some start := by rw [inF, List.head?_cons]
    have headG : g.rooms.head? = some start' := by rw [inG, List.head?_cons]
    rw [isolatedFindings_of_head? headF, isolatedFindings_of_head? headG, inF, inG, names]
    congr 1
    refine List.filter_congr fun n _ => ?_
    have both : d.Reached start n ↔ e.Reached start' n :=
      ⟨Reached.alike same first, Reached.alike back first.symm⟩
    simp only [both]

theorem linkFinding?_alike (here : Place) {r s : Room} (alike : r.Alike s) (target : String) :
    d.linkFinding? here r target = e.linkFinding? here s target := by
  have there := bearer?_alike same target
  unfold linkFinding?
  generalize d.bearer? target = before at there
  generalize e.bearer? target = now at there
  cases there with
  | none => rw [alike.name]
  | @some a b related =>
    obtain ⟨place, other⟩ := a
    obtain ⟨place', other'⟩ := b
    obtain ⟨rfl, alike' : other.Alike other'⟩ := related
    have listed : other.connectsTo r.name = other'.connectsTo s.name := by
      rw [Room.connectsTo, Room.connectsTo, alike.name, alike'.connections.contains_eq]
    simp only [alike.name] at listed ⊢
    rw [listed, alike'.name]

theorem floorFindings_alike {f g : Floor} (alike : f.Alike g) (i : Nat) :
    d.floorFindings f i = g.combatFindings ++ g.treasureFindings ++ e.isolatedFindings g ++
      (f.placedRooms i).flatMap fun p => d.roomFindings p.1 p.2 := by
  rw [floorFindings, Floor.combatFindings_congr alike.name alike.kinds,
    Floor.treasureFindings_congr alike.name alike.kinds, isolatedFindings_alike same alike]

end Dungeon

end DungeonForge
