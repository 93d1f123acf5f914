import DungeonForge.Proofs.Document.Violation
import DungeonForge.Proofs.Rules.Alike
import Mathlib.Data.List.Find

/-!
In which order a dungeon is written down matters little. The connections and the contents of rooms
may stand in any order, even where names repeat, since the walk on a floor reaches the least closed
set of names, however it gets there. Floors and rooms may change places where names are distinct,
since a name then is a room wherever it stands; only the walk begins at another room, and that makes
no difference to whether it leaves one out where connections lead both ways.
-/

namespace DungeonForge

/-- The same room, with its connections, traps and inhabitants in any order. -/
structure Room.Shuffled (r s : Room) : Prop where
  name : r.name = s.name
  size : r.size = s.size
  kind : r.kind = s.kind
  floorId : r.floorId = s.floorId
  connections : r.connections.Perm s.connections
  traps : r.traps.Perm s.traps
  npcs : r.npcs.Perm s.npcs

structure Floor.Shuffled (f g : Floor) : Prop where
  name : f.name = g.name
  rooms : List.Forall₂ Room.Shuffled f.rooms g.rooms

structure Floor.Rearranged (f g : Floor) : Prop where
  name : f.name = g.name
  rooms : f.rooms.Perm g.rooms

section Lists

variable {α β γ : Type} {R : α → β → Prop}

theorem flatMap_perm_of_forall₂ {as : List α} {bs : List β} {f : α → List γ} {g : β → List γ}
    (related : List.Forall₂ R as bs) (same : ∀ a b, R a b → (f a).Perm (g b)) :
    (as.flatMap f).Perm (bs.flatMap g) := by
  induction related with
  | nil => exact .nil
  | cons first _ ih =>
    rw [List.flatMap_cons, List.flatMap_cons]
    exact (same _ _ first).append ih

theorem forall_mem_iff_of_forall₂ {as : List α} {bs : List β} {p : α → Prop} {q : β → Prop}
    (related : List.Forall₂ R as bs) (same : ∀ a b, R a b → (p a ↔ q b)) :
    (∀ a ∈ as, p a) ↔ ∀ b ∈ bs, q b := by
  induction related with
  | nil => simp
  | cons first _ ih => rw [List.forall_mem_cons, List.forall_mem_cons, same _ _ first, ih]

end Lists

theorem Room.Shuffled.symm {r s : Room} (h : r.Shuffled s) : s.Shuffled r :=
  ⟨h.name.symm, h.size.symm, h.kind.symm, h.floorId.symm, h.connections.symm, h.traps.symm,
    h.npcs.symm⟩

theorem Room.Shuffled.ownFindings {r s : Room} (h : r.Shuffled s) :
    r.ownFindings.Perm s.ownFindings := by
  have shop : r.shopFindings = s.shopFindings := by
    rw [shopFindings, shopFindings, h.name, h.kind, h.size]
  have boss : r.bossFindings = s.bossFindings := by
    rw [bossFindings, bossFindings, h.name, h.kind, h.size, h.connections.length_eq]
  have trap : r.trapFindings = s.trapFindings := by
    funext t
    rw [trapFindings, trapFindings, h.kind]
  rw [Room.ownFindings, Room.ownFindings, shop, boss, trap]
  exact ((h.traps.flatMap_right _).append_left _).append (h.npcs.flatMap_right _)

theorem Room.Shuffled.sound {r s : Room} (h : r.Shuffled s) {known : List String}
    (sound : r.Sound known) : s.Sound known :=
  sound.mono h.connections.symm.subset h.traps.symm.subset h.npcs.symm.subset
    (List.Subset.refl known)

theorem Room.Shuffled.alike {r s : Room} (h : r.Shuffled s) : r.Alike s :=
  ⟨h.name, h.kind, h.connections⟩

theorem Floor.Shuffled.alike {f g : Floor} (h : f.Shuffled g) : f.Alike g :=
  ⟨h.name, h.rooms.imp fun _ _ => Room.Shuffled.alike⟩

namespace Dungeon

section Shuffled

variable {d e : Dungeon} (same : List.Forall₂ Floor.Shuffled d.floors e.floors)

include same

theorem floors_alike_of_shuffled : List.Forall₂ Floor.Alike d.floors e.floors :=
  same.imp fun _ _ => Floor.Shuffled.alike

theorem floorFindings_shuffled {f g : Floor} (shuffled : f.Shuffled g) (i : Nat) :
    (d.floorFindings f i).Perm (e.floorFindings g i) := by
  have alike := floors_alike_of_shuffled same
  have rooms : ((f.placedRooms i).flatMap fun p => d.roomFindings p.1 p.2).Perm
      ((g.placedRooms i).flatMap fun p => e.roomFindings p.1 p.2) := by
    rw [Floor.placedRooms, Floor.placedRooms, List.flatMap_map, List.flatMap_map]
    refine flatMap_perm_of_forall₂ (forall₂_zipIdx shuffled.rooms 0) ?_
    rintro ⟨r, j⟩ ⟨s, k⟩ ⟨rfl, shuffled⟩
    have links : d.linkFinding? ⟨i, j⟩ r = e.linkFinding? ⟨i, j⟩ s := by
      funext target
      exact linkFinding?_alike alike _ shuffled.alike target
    simp only [roomFindings, linkFindings, links]
    exact (shuffled.connections.filterMap _).append shuffled.ownFindings
  rw [floorFindings_alike alike shuffled.alike]
  exact rooms.append_left _

theorem findings_shuffled : d.inspect.findings.Perm e.inspect.findings := by
  rw [inspect, inspect, duplicateFindings_alike (floors_alike_of_shuffled same)]
  refine (flatMap_perm_of_forall₂ (forall₂_zipIdx same 0) ?_).append_left _
  rintro ⟨f, i⟩ ⟨g, j⟩ ⟨rfl, alike⟩
  exact floorFindings_shuffled same alike i

theorem valid_iff_shuffled : d.firstViolation? = none ↔ e.firstViolation? = none := by
  rw [firstViolation?_eq_none_iff, firstViolation?_eq_none_iff, allRooms, allRooms,
    List.forall_mem_flatMap, List.forall_mem_flatMap,
    roomNames_alike (floors_alike_of_shuffled same)]
  exact forall_mem_iff_of_forall₂ same fun f g alike =>
    forall_mem_iff_of_forall₂ alike.rooms fun r s shuffled =>
      ⟨shuffled.sound, shuffled.symm.sound⟩

end Shuffled

/-- What is wrong with a connection where names are distinct, so that no place is needed to tell a
room from another. -/
def namedLinkFinding? (d : Dungeon) (r : Room) (target : String) : Option Finding :=
  match d.room? target with
  | none => some (.invalidConnection r.name target)
  | some other =>
    if target = r.name then some (.selfConnection r.name)
    else if other.connectsTo r.name then none
    else some (.asymmetricConnection r.name other.name)

def namedRoomFindings (d : Dungeon) (r : Room) : List Finding :=
  r.connections.filterMap (d.namedLinkFinding? r) ++ r.ownFindings

def namedFloorFindings (d : Dungeon) (f : Floor) : List Finding :=
  f.combatFindings ++ f.treasureFindings ++ d.isolatedFindings f ++
    f.rooms.flatMap d.namedRoomFindings

section Distinct

variable {d : Dungeon} (distinct : d.roomNames.Nodup)

include distinct

theorem linkFinding?_eq_named {a : Place × Room} (mem : a ∈ d.placedRooms) (target : String) :
    d.linkFinding? a.1 a.2 target = d.namedLinkFinding? a.2 target := by
  unfold linkFinding? namedLinkFinding?
  rw [← map_snd_bearer?]
  cases bearer : d.bearer? target with
  | none => rfl
  | some b =>
    obtain ⟨there, rfl⟩ := (bearer?_eq_some_iff distinct).1 bearer
    have itself : b.1 = a.1 ↔ b.2.name = a.2.name :=
      ⟨fun same => by rw [eq_of_place_eq there mem same],
        fun same => by rw [eq_of_name_eq distinct there mem same]⟩
    simp only [Option.map_some, itself]

theorem findings_eq_named : d.inspect.findings = d.floors.flatMap d.namedFloorFindings := by
  have none_twice : d.duplicateFindings = [] := by
    rw [duplicateFindings, List.map_eq_nil_iff, repeatedNames_eq_nil_iff]
    exact ⟨distinct, fun _ _ => List.not_mem_nil⟩
  rw [inspect, none_twice, List.nil_append]
  conv_rhs => rw [← List.zipIdx_map_fst 0 d.floors, List.flatMap_map]
  refine List.flatMap_congr fun p mem => ?_
  obtain ⟨f, i⟩ := p
  have rooms : ((f.placedRooms i).flatMap fun q => d.roomFindings q.1 q.2) =
      f.rooms.flatMap d.namedRoomFindings := by
    conv_rhs => rw [← f.map_snd_placedRooms i, List.flatMap_map]
    refine List.flatMap_congr fun q placed => ?_
    have there : q ∈ d.placedRooms := List.mem_flatMap.2 ⟨(f, i), mem, placed⟩
    rw [roomFindings, linkFindings, namedRoomFindings]
    congr 1
    exact List.filterMap_congr fun target _ => linkFinding?_eq_named distinct there target
  simp only [floorFindings, namedFloorFindings, rooms]

theorem room?_eq_some_iff_of_distinct {name : String} {r : Room} :
    d.room? name = some r ↔ r ∈ d.allRooms ∧ r.name = name := by
  rw [← map_snd_bearer?, Option.map_eq_some_iff]
  simp only [bearer?_eq_some_iff distinct]
  constructor
  · rintro ⟨a, ⟨mem, named⟩, rfl⟩
    exact ⟨mem_allRooms_of_placed mem, named⟩
  · rintro ⟨mem, named⟩
    obtain ⟨place, placed⟩ := exists_placed_of_mem_allRooms mem
    exact ⟨_, ⟨placed, named⟩, rfl⟩

theorem returned_iff_rooms :
    (∀ f ∈ d.inspect.findings, f.rule ≠ .asymmetricConnection) ↔
      ∀ r ∈ d.allRooms, ∀ f ∈ d.namedRoomFindings r, f.rule ≠ .asymmetricConnection := by
  have combat : ∀ g : Floor, ∀ f ∈ g.combatFindings, f.rule ≠ .asymmetricConnection := by
    intro g f mem
    simp [Floor.rule_of_mem_combatFindings mem]
  have treasure : ∀ g : Floor, ∀ f ∈ g.treasureFindings, f.rule ≠ .asymmetricConnection := by
    intro g f mem
    simp [Floor.rule_of_mem_treasureFindings mem]
  have isolated : ∀ g : Floor, ∀ f ∈ d.isolatedFindings g, f.rule ≠ .asymmetricConnection := by
    intro g f mem
    simp [rule_of_mem_isolatedFindings mem]
  rw [findings_eq_named distinct, List.forall_mem_flatMap, allRooms, List.forall_mem_flatMap]
  refine forall₂_congr fun g _ => ?_
  simp only [namedFloorFindings, List.forall_mem_append, List.forall_mem_flatMap]
  exact ⟨fun all => all.2, fun rooms => ⟨⟨⟨combat g, treasure g⟩, isolated g⟩, rooms⟩⟩

theorem links_bothWays (returned : ∀ f ∈ d.inspect.findings, f.rule ≠ .asymmetricConnection)
    (a b : Place × Room) (link : d.Links a b) : d.Links b a := by
  obtain ⟨ha, hb, linked⟩ := link
  have quiet : ∀ f, d.namedLinkFinding? a.2 b.2.name = some f → f.rule ≠ .asymmetricConnection := by
    intro f found
    refine (returned_iff_rooms distinct).1 returned a.2 (mem_allRooms_of_placed ha) f ?_
    exact List.mem_append_left _ (List.mem_filterMap.2 ⟨_, linked, found⟩)
  by_cases same : b.2.name = a.2.name
  · obtain rfl := eq_of_name_eq distinct hb ha same
    exact ⟨ha, hb, linked⟩
  · refine ⟨hb, ha, ?_⟩
    by_contra oneWay
    refine quiet (.asymmetricConnection a.2.name b.2.name) ?_ rfl
    have found := (room?_eq_some_iff_of_distinct distinct).2 ⟨mem_allRooms_of_placed hb, rfl⟩
    simp [namedLinkFinding?, found, same, Room.connectsTo, oneWay]

end Distinct

/-- The same floors with their rooms, both in any order. -/
def Rearranges (floors floors' : List Floor) : Prop :=
  ∃ middle, floors.Perm middle ∧ List.Forall₂ Floor.Rearranged middle floors'

theorem rearranges_of_perm {floors floors' : List Floor} (h : floors.Perm floors') :
    Rearranges floors floors' :=
  ⟨floors', h, List.forall₂_same.2 fun _ _ => ⟨rfl, .refl _⟩⟩

theorem rearranges_of_forall₂ {floors floors' : List Floor}
    (h : List.Forall₂ Floor.Rearranged floors floors') : Rearranges floors floors' :=
  ⟨floors, .refl _, h⟩

section Rearranged

variable {d e : Dungeon} (distinct : d.roomNames.Nodup) (same : Rearranges d.floors e.floors)

include same

theorem allRooms_rearranged : d.allRooms.Perm e.allRooms := by
  obtain ⟨middle, moved, related⟩ := same
  exact (moved.flatMap_right _).trans
    (flatMap_perm_of_forall₂ related fun _ _ => Floor.Rearranged.rooms)

theorem roomNames_rearranged : d.roomNames.Perm e.roomNames :=
  (allRooms_rearranged same).map _

theorem valid_iff_rearranged : d.firstViolation? = none ↔ e.firstViolation? = none := by
  have names := roomNames_rearranged same
  have known : ∀ r : Room, r.Sound d.roomNames ↔ r.Sound e.roomNames := fun r =>
    ⟨fun sound => sound.mono (.refl _) (.refl _) (.refl _) names.subset,
      fun sound => sound.mono (.refl _) (.refl _) (.refl _) names.symm.subset⟩
  simp only [firstViolation?_eq_none_iff, known, (allRooms_rearranged same).mem_iff]

include distinct

theorem room?_rearranged (name : String) : d.room? name = e.room? name := by
  have distinct' := (roomNames_rearranged same).nodup_iff.1 distinct
  refine Option.ext fun r => ?_
  rw [room?_eq_some_iff_of_distinct distinct, room?_eq_some_iff_of_distinct distinct',
    (allRooms_rearranged same).mem_iff]

theorem reached_rearranged (start : Room) (n : String) :
    d.Reached start n ↔ e.Reached start n := by
  have mem := fun n => (roomNames_rearranged same).mem_iff (a := n)
  constructor
  · refine Reached.mono rfl (fun _ => id) (fun n => (mem n).1) fun name r first => ?_
    exact ⟨r, by rw [← room?_rearranged distinct same, first], fun _ => id⟩
  · refine Reached.mono rfl (fun _ => id) (fun n => (mem n).2) fun name r first => ?_
    exact ⟨r, by rw [room?_rearranged distinct same, first], fun _ => id⟩

theorem namedRoomFindings_rearranged : d.namedRoomFindings = e.namedRoomFindings := by
  funext r
  have links : d.namedLinkFinding? r = e.namedLinkFinding? r := by
    funext target
    simp only [namedLinkFinding?, room?_rearranged distinct same]
  rw [namedRoomFindings, namedRoomFindings, links]

theorem isolatedFindings_rearranged (f : Floor) : d.isolatedFindings f = e.isolatedFindings f := by
  cases first : f.rooms.head? with
  | none =>
    have empty := List.head?_eq_none_iff.1 first
    rw [isolatedFindings_of_empty empty, isolatedFindings_of_empty empty]
  | some start =>
    simp only [isolatedFindings_of_head? first, reached_rearranged distinct same]

theorem namedFloorFindings_rearranged {f g : Floor} (moved : f.Rearranged g) :
    ((d.namedFloorFindings f).filter fun x => x.rule ≠ .isolatedRoom).Perm
      ((e.namedFloorFindings g).filter fun x => x.rule ≠ .isolatedRoom) := by
  have isolated : ∀ (c : Dungeon) (h : Floor),
      (c.isolatedFindings h).filter (fun x => x.rule ≠ .isolatedRoom) = [] := by
    intro c h
    refine List.filter_eq_nil_iff.2 fun x mem => ?_
    simp [rule_of_mem_isolatedFindings mem]
  have kinds := moved.rooms.map Room.kind
  have rooms : (f.rooms.flatMap d.namedRoomFindings).Perm (g.rooms.flatMap e.namedRoomFindings) := by
    rw [namedRoomFindings_rearranged distinct same]
    exact moved.rooms.flatMap_right _
  rw [namedFloorFindings, namedFloorFindings, Floor.combatFindings_congr moved.name kinds,
    Floor.treasureFindings_congr moved.name kinds]
  simp only [List.filter_append, isolated]
  exact (rooms.filter _).append_left _

theorem findings_rearranged :
    (d.inspect.findings.filter fun x => x.rule ≠ .isolatedRoom).Perm
      (e.inspect.findings.filter fun x => x.rule ≠ .isolatedRoom) := by
  have distinct' := (roomNames_rearranged same).nodup_iff.1 distinct
  rw [findings_eq_named distinct, findings_eq_named distinct', List.filter_flatMap,
    List.filter_flatMap]
  obtain ⟨middle, moved, related⟩ := id same
  exact (moved.flatMap_right _).trans (flatMap_perm_of_forall₂ related fun f g =>
    namedFloorFindings_rearranged distinct same)

omit same in
theorem findings_of_floors_perm (moved : d.floors.Perm e.floors) :
    d.inspect.findings.Perm e.inspect.findings := by
  have same := rearranges_of_perm moved
  have distinct' := (roomNames_rearranged same).nodup_iff.1 distinct
  have floors : d.namedFloorFindings = e.namedFloorFindings := by
    funext f
    rw [namedFloorFindings, namedFloorFindings, isolatedFindings_rearranged distinct same,
      namedRoomFindings_rearranged distinct same]
  rw [findings_eq_named distinct, findings_eq_named distinct', floors]
  exact moved.flatMap_right _

/-- Whether the walk leaves a room out does not depend on where it begins. -/
theorem isolated_iff_rearranged
    (returned : ∀ f ∈ d.inspect.findings, f.rule ≠ .asymmetricConnection) {f g : Floor}
    (mem : f ∈ d.floors) (moved : f.rooms.Perm g.rooms) :
    d.isolatedFindings f = [] ↔ e.isolatedFindings g = [] := by
  have bothWays := links_bothWays distinct returned
  have inside : ∀ r ∈ f.rooms, r ∈ d.allRooms := fun r room => List.mem_flatMap.2 ⟨f, mem, room⟩
  rw [isolatedFindings_eq_nil_iff, isolatedFindings_eq_nil_iff]
  simp only [← reached_rearranged distinct same]
  rw [reached_from_head_iff distinct bothWays inside,
    reached_from_head_iff distinct bothWays fun r room => inside r (moved.mem_iff.2 room)]
  simp only [moved.mem_iff]

end Rearranged

/-- The order in which the connections and contents of rooms are given changes neither what is found
nor whether there is a document. Where names are distinct, the same holds of the order of floors and
rooms, except that other rooms may be called isolated when the first of a floor is another one; and
where every connection is returned, a floor then still has some isolated room or still has none. The
name, theme and level of the dungeon itself play no part. -/
theorem inspect_reorder :
    (∀ d e : Dungeon, List.Forall₂ Floor.Shuffled d.floors e.floors →
      d.inspect.findings.Perm e.inspect.findings ∧
      (d.firstViolation? = none ↔ e.firstViolation? = none)) ∧
    (∀ d e : Dungeon, d.roomNames.Nodup → Rearranges d.floors e.floors →
      (d.inspect.findings.filter fun x => x.rule ≠ .isolatedRoom).Perm
        (e.inspect.findings.filter fun x => x.rule ≠ .isolatedRoom) ∧
      (d.floors.Perm e.floors → d.inspect.findings.Perm e.inspect.findings) ∧
      (d.firstViolation? = none ↔ e.firstViolation? = none)) ∧
    (∀ d e : Dungeon, d.roomNames.Nodup →
      (∀ f ∈ d.inspect.findings, f.rule ≠ .asymmetricConnection) →
      List.Forall₂ Floor.Rearranged d.floors e.floors →
      List.Forall₂ (fun f g => d.isolatedFindings f = [] ↔ e.isolatedFindings g = [])
        d.floors e.floors) := by
  refine ⟨fun d e same => ⟨findings_shuffled same, valid_iff_shuffled same⟩,
    fun d e distinct same => ⟨findings_rearranged distinct same,
      findings_of_floors_perm distinct, valid_iff_rearranged same⟩, ?_⟩
  intro d e distinct returned moved
  have inside : ∀ f ∈ d.floors, f ∈ d.floors := fun _ => id
  refine ((List.forall₂_and_left _ _).2 ⟨inside, moved⟩).imp fun f g ⟨mem, rearranged⟩ => ?_
  exact isolated_iff_rearranged distinct (rearranges_of_forall₂ moved) returned mem rearranged.rooms

def gallery : Room :=
  ⟨"Gallery", .large, .puzzle, "Lower", ["Stairs", "Gallery", "Nowhere"],
    [⟨"Pit", .stepOn, false, -1⟩, ⟨"Dart", .openDoor, true, 50⟩],
    [⟨"Rat", .aggressive, .enemy, -5⟩, ⟨"Owl", .neutral, .merchant, 10⟩]⟩

def galleryBackwards : Room :=
  ⟨"Gallery", .large, .puzzle, "Lower", ["Nowhere", "Gallery", "Stairs"],
    [⟨"Dart", .openDoor, true, 50⟩, ⟨"Pit", .stepOn, false, -1⟩],
    [⟨"Owl", .neutral, .merchant, 10⟩, ⟨"Rat", .aggressive, .enemy, -5⟩]⟩

def galleryStairs : Room :=
  ⟨"Stairs", .small, .combat, "Lower", ["Gallery"], [], []⟩

def vault : Room :=
  ⟨"Vault", .small, .treasure, "Lower", ["Vault"], [], []⟩

def galleryKeep (floors : List Floor) : Dungeon :=
  ⟨"Keep", "", 1, floors⟩

theorem inspect_reorder_galleryKeep :
    let twice := galleryKeep [⟨"Lower", [gallery, galleryStairs, gallery]⟩, upperFloor]
    let shuffled := galleryKeep
      [⟨"Lower", [galleryBackwards, galleryStairs, galleryBackwards]⟩, upperFloor]
    let keep := galleryKeep [⟨"Lower", [gallery, galleryStairs, vault]⟩, ⟨"Upper", []⟩]
    let turned := galleryKeep [⟨"Upper", []⟩, ⟨"Lower", [gallery, galleryStairs, vault]⟩]
    let moved := galleryKeep [⟨"Lower", [vault, galleryStairs, gallery]⟩, ⟨"Upper", []⟩]
    twice.inspect.findings.Perm shuffled.inspect.findings ∧
      (twice.firstViolation? = none ↔ shuffled.firstViolation? = none) ∧
      keep.inspect.findings.Perm turned.inspect.findings ∧
      (keep.inspect.findings.filter fun x => x.rule ≠ .isolatedRoom).Perm
        (moved.inspect.findings.filter fun x => x.rule ≠ .isolatedRoom) ∧
      (keep.firstViolation? = none ↔ moved.firstViolation? = none) ∧
      List.Forall₂ (fun f g => keep.isolatedFindings f = [] ↔ moved.isolatedFindings g = [])
        keep.floors moved.floors := by
  intro twice shuffled keep turned moved
  have backwards : gallery.Shuffled galleryBackwards :=
    ⟨rfl, rfl, rfl, rfl, by decide, by decide, by decide⟩
  have untouched : ∀ r : Room, r.Shuffled r := fun r =>
    ⟨rfl, rfl, rfl, rfl, .refl _, .refl _, .refl _⟩
  have alike : List.Forall₂ Floor.Shuffled twice.floors shuffled.floors :=
    .cons ⟨rfl, .cons backwards (.cons (untouched _) (.cons backwards .nil))⟩
      (.cons ⟨rfl, List.forall₂_same.2 fun r _ => untouched r⟩ .nil)
  have distinct : keep.roomNames.Nodup := by decide
  have onFloors : keep.floors.Perm turned.floors := .swap _ _ _
  have onFloor : List.Forall₂ Floor.Rearranged keep.floors moved.floors :=
    .cons ⟨rfl, by decide⟩ (.cons ⟨rfl, .nil⟩ .nil)
  have returned : ∀ f ∈ keep.inspect.findings, f.rule ≠ .asymmetricConnection :=
    (returned_iff_rooms distinct).2 (by decide)
  obtain ⟨contents, places, starts⟩ := inspect_reorder
  obtain ⟨sameFindings, sameValidity⟩ := contents twice shuffled alike
  obtain ⟨-, floorsFindings, -⟩ := places keep turned distinct (rearranges_of_perm onFloors)
  obtain ⟨otherFindings, -, validity⟩ := places keep moved distinct (rearranges_of_forall₂ onFloor)
  exact ⟨sameFindings, sameValidity, floorsFindings onFloors, otherFindings, validity,
    starts keep moved distinct returned onFloor⟩

end Dungeon

end DungeonForge
