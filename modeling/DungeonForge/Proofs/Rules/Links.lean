import DungeonForge.Proofs.Rules.Blocking
import DungeonForge.Proofs.Rules.Playable
import Mathlib.Algebra.BigOperators.Group.List.Basic

/-!
What is found of single connections. A name stands for its first bearer and a room is told from
another by its place, so where several rooms bear one name, only the first of them can be connected
to itself; for the others the same connection is one to the first. What an inspection finds of
connections is put together room by room from what it finds of each connection.
-/

namespace DungeonForge

/-- The rules that look at connections one by one. -/
def Rule.isOnLink (rule : Rule) : Bool :=
  [Rule.invalidConnection, .selfConnection, .asymmetricConnection].contains rule

namespace Finding

def onLinks (fs : List Finding) : List Finding :=
  fs.filter fun f => f.rule.isOnLink

theorem onLinks_append (fs gs : List Finding) : onLinks (fs ++ gs) = onLinks fs ++ onLinks gs :=
  List.filter_append fs gs

theorem onLinks_flatMap {α : Type} (l : List α) (g : α → List Finding) :
    onLinks (l.flatMap g) = l.flatMap fun a => onLinks (g a) :=
  List.filter_flatMap

theorem onLinks_eq_nil {fs : List Finding} {rule : Rule} (other : rule.isOnLink = false)
    (all : ∀ f ∈ fs, f.rule = rule) : onLinks fs = [] := by
  refine List.filter_eq_nil_iff.2 fun f mem => ?_
  rw [all f mem, other]
  exact Bool.false_ne_true

end Finding

open Finding

namespace Room

theorem onLinks_ownFindings (r : Room) : onLinks r.ownFindings = [] := by
  refine List.filter_eq_nil_iff.2 fun x mem => ?_
  have own := rule_of_mem_ownFindings mem
  generalize x.rule = rule at own
  cases rule <;> revert own <;> decide

end Room

namespace Dungeon

/-- The first room with the name and its place: all rooms before it have other names. -/
def FirstBearer (d : Dungeon) (name : String) (a : Place × Room) : Prop :=
  ∃ before after, d.placedRooms = before ++ a :: after ∧ a.2.name = name ∧
    ∀ b ∈ before, b.2.name ≠ name

variable {d : Dungeon}

theorem firstBearer_iff {name : String} {a : Place × Room} :
    d.FirstBearer name a ↔ d.bearer? name = some a := by
  rw [bearer?, List.find?_eq_some_iff_append]
  simp only [beq_iff_eq, Bool.not_eq_true', beq_eq_false_iff_ne]
  constructor
  · rintro ⟨before, after, rooms, named, others⟩
    exact ⟨named, before, after, rooms, others⟩
  · rintro ⟨named, before, after, rooms, others⟩
    exact ⟨before, after, rooms, named, others⟩

theorem exists_firstBearer {name : String} (borne : name ∈ d.roomNames) :
    ∃ a, d.FirstBearer name a := by
  obtain ⟨a, bearer⟩ := Option.isSome_iff_exists.1 (bearer?_isSome_iff.2 borne)
  exact ⟨a, firstBearer_iff.2 bearer⟩

theorem FirstBearer.name {name : String} {a : Place × Room} (first : d.FirstBearer name a) :
    a.2.name = name := by
  obtain ⟨-, -, -, named, -⟩ := first
  exact named

theorem FirstBearer.placed {name : String} {a : Place × Room} (first : d.FirstBearer name a) :
    a ∈ d.placedRooms := by
  obtain ⟨before, after, rooms, -⟩ := first
  rw [rooms]
  exact List.mem_append_right before List.mem_cons_self

theorem FirstBearer.unique {name : String} {a b : Place × Room} (first : d.FirstBearer name a)
    (other : d.FirstBearer name b) : a = b :=
  Option.some.inj ((firstBearer_iff.1 first).symm.trans (firstBearer_iff.1 other))

theorem nodup_places (d : Dungeon) : (d.placedRooms.map Prod.fst).Nodup := by
  have distinct {α : Type} (l : List α) : l.zipIdx.Pairwise fun p q => p.2 ≠ q.2 := by
    rw [← List.pairwise_map, List.zipIdx_map_snd]
    exact List.nodup_range'
  rw [placedRooms, List.map_flatMap, List.nodup_flatMap]
  constructor
  · intro p _
    rw [Floor.placedRooms, List.map_map, List.Nodup, List.pairwise_map]
    exact (distinct p.1.rooms).imp fun other same => other (congrArg Place.room same)
  · refine (distinct d.floors).imp fun other => ?_
    intro place there elsewhere
    simp only [Floor.placedRooms, List.map_map, List.mem_map,
      Function.comp_apply] at there elsewhere
    obtain ⟨q, -, rfl⟩ := there
    obtain ⟨q', -, same⟩ := elsewhere
    exact other (congrArg Place.floor same).symm

/-- What is found of a connection of a room, by the first bearer of the name that it gives. -/
inductive Judged (d : Dungeon) (a : Place × Room) (target : String) : Option Finding → Prop
  | unknown : target ∉ d.roomNames → Judged d a target (some (.invalidConnection a.2.name target))
  | itself : d.FirstBearer target a → Judged d a target (some (.selfConnection a.2.name))
  | oneWay (b : Place × Room) : d.FirstBearer target b → b.1 ≠ a.1 → a.2.name ∉ b.2.connections →
      Judged d a target (some (.asymmetricConnection a.2.name target))
  | bothWays (b : Place × Room) : d.FirstBearer target b → b.1 ≠ a.1 →
      a.2.name ∈ b.2.connections → Judged d a target none

theorem judged_linkFinding? {a : Place × Room} (placed : a ∈ d.placedRooms) (target : String) :
    d.Judged a target (d.linkFinding? a.1 a.2 target) := by
  cases bearer : d.bearer? target with
  | none =>
    rw [linkFinding?, bearer]
    refine .unknown fun borne => ?_
    rw [← bearer?_isSome_iff, bearer] at borne
    cases borne
  | some b =>
    have first := firstBearer_iff.2 bearer
    simp only [linkFinding?, bearer, Room.connectsTo, List.contains_iff_mem, first.name]
    split_ifs with here returned
    · exact .itself (eq_of_place_eq first.placed placed here ▸ first)
    · exact .bothWays b first here returned
    · exact .oneWay b first here returned

theorem Judged.linkFinding?_eq {a : Place × Room} {target : String} {o : Option Finding}
    (judged : d.Judged a target o) : d.linkFinding? a.1 a.2 target = o := by
  cases judged with
  | unknown nobody =>
    have unborne : d.bearer? target = none := by
      rwa [← Option.not_isSome_iff_eq_none, bearer?_isSome_iff]
    rw [linkFinding?, unborne]
  | itself first =>
    rw [linkFinding?, firstBearer_iff.1 first]
    exact if_pos rfl
  | oneWay b first elsewhere unreturned =>
    simp only [linkFinding?, firstBearer_iff.1 first, Room.connectsTo, List.contains_iff_mem,
      if_neg elsewhere, if_neg unreturned, first.name]
  | bothWays b first elsewhere returned =>
    simp only [linkFinding?, firstBearer_iff.1 first, Room.connectsTo, List.contains_iff_mem,
      if_neg elsewhere, if_pos returned]

theorem linkFinding?_eq_iff_judged {a : Place × Room} (placed : a ∈ d.placedRooms)
    {target : String} {o : Option Finding} :
    d.linkFinding? a.1 a.2 target = o ↔ d.Judged a target o := by
  constructor
  · rintro rfl
    exact judged_linkFinding? placed target
  · exact Judged.linkFinding?_eq

theorem rule_linkFinding? {here : Place} {r : Room} {target : String} {f : Finding}
    (found : d.linkFinding? here r target = some f) :
    f.rule.isOnLink = true ∧ f.subject = r.name := by
  unfold linkFinding? at found
  split at found
  · cases found
    exact ⟨rfl, rfl⟩
  · split_ifs at found <;> cases found <;> exact ⟨rfl, rfl⟩

theorem rule_of_mem_roomFindings {here : Place} {r : Room} {x : Finding}
    (mem : x ∈ d.roomFindings here r) :
    x.rule ∉ [Rule.duplicateRoomName, .missingCombatRoom, .tooManyTreasureRooms,
      .isolatedRoom] := by
  rcases List.mem_append.1 mem with link | own
  · obtain ⟨target, -, found⟩ := List.mem_filterMap.1 link
    have onLink := (rule_linkFinding? found).1
    generalize x.rule = rule at onLink
    cases rule <;> revert onLink <;> decide
  · have rules := Room.rule_of_mem_ownFindings own
    generalize x.rule = rule at rules
    cases rule <;> revert rules <;> decide

theorem onLinks_roomFindings (here : Place) (r : Room) :
    onLinks (d.roomFindings here r) = d.linkFindings here r := by
  have all : onLinks (d.linkFindings here r) = d.linkFindings here r := by
    rw [onLinks, List.filter_eq_self]
    intro f mem
    obtain ⟨target, -, found⟩ := List.mem_filterMap.1 mem
    exact (rule_linkFinding? found).1
  rw [roomFindings, onLinks_append, all, Room.onLinks_ownFindings, List.append_nil]

theorem onLinks_inspect (d : Dungeon) :
    onLinks d.inspect.findings = d.placedRooms.flatMap fun a => d.linkFindings a.1 a.2 := by
  have repeated : ∀ f ∈ d.duplicateFindings, f.rule = .duplicateRoomName :=
    List.forall_mem_map.2 fun _ _ => rfl
  have floors (f : Floor) (i : Nat) : onLinks (d.floorFindings f i) =
      (f.placedRooms i).flatMap fun a => d.linkFindings a.1 a.2 := by
    have combat : onLinks f.combatFindings = [] :=
      onLinks_eq_nil rfl fun _ => Floor.rule_of_mem_combatFindings
    have treasure : onLinks f.treasureFindings = [] :=
      onLinks_eq_nil rfl fun _ => Floor.rule_of_mem_treasureFindings
    have isolated : onLinks (d.isolatedFindings f) = [] :=
      onLinks_eq_nil rfl fun _ => rule_of_mem_isolatedFindings
    simp only [floorFindings, onLinks_append, combat, treasure, isolated, List.nil_append,
      onLinks_flatMap, onLinks_roomFindings]
  simp only [inspect, onLinks_append, onLinks_eq_nil rfl repeated, List.nil_append,
    onLinks_flatMap, floors, placedRooms, List.flatMap_assoc]

theorem linkFinding?_eq_self_iff {a : Place × Room} (placed : a ∈ d.placedRooms)
    {target name : String} :
    d.linkFinding? a.1 a.2 target = some (.selfConnection name) ↔
      target = name ∧ d.FirstBearer name a := by
  rw [linkFinding?_eq_iff_judged placed]
  constructor
  · rintro (_ | first)
    obtain rfl := first.name
    exact ⟨rfl, first⟩
  · rintro ⟨rfl, first⟩
    have judged := Judged.itself first
    rwa [first.name] at judged

theorem linkFinding?_of_later {a b : Place × Room} {name : String} (first : d.FirstBearer name a)
    (placed : b ∈ d.placedRooms) (named : b.2.name = name) (later : b.1 ≠ a.1) :
    d.linkFinding? b.1 b.2 name =
      if name ∈ a.2.connections then none else some (.asymmetricConnection name name) := by
  subst named
  rw [linkFinding?_eq_iff_judged placed]
  split_ifs with returned
  · exact .bothWays a first later.symm returned
  · exact .oneWay a first later.symm returned

theorem rule_self_iff {f : Finding} {name : String} :
    f.rule = .selfConnection ∧ f.subject = name ↔ f = .selfConnection name := by
  cases f <;> simp [Finding.rule, Finding.subject]

theorem firstBearer_of_self_mem {b : Place × Room} {name : String} (placed : b ∈ d.placedRooms)
    (mem : Finding.selfConnection name ∈ d.linkFindings b.1 b.2) : d.FirstBearer name b := by
  obtain ⟨target, -, found⟩ := List.mem_filterMap.1 mem
  exact ((linkFinding?_eq_self_iff placed).1 found).2

theorem count_self_inspect {a : Place × Room} {name : String} (first : d.FirstBearer name a) :
    d.inspect.findings.count (.selfConnection name) = a.2.connections.count name := by
  have links : d.inspect.findings.count (.selfConnection name) =
      (onLinks d.inspect.findings).count (.selfConnection name) :=
    (List.count_filter rfl).symm
  have nodup : d.placedRooms.Nodup := List.Nodup.of_map Prod.fst d.nodup_places
  have once : @List.count _ instBEqOfDecidableEq a d.placedRooms = 1 :=
    (@List.nodup_iff_count_eq_one _ _ instBEqOfDecidableEq _).1 nodup a first.placed
  rw [links, onLinks_inspect, List.count_flatMap]
  rw [List.sum_map_eq_nsmul_single a, once, one_nsmul, Function.comp_apply, linkFindings,
    List.count_filterMap]
  · refine List.countP_congr fun target _ => ?_
    simp only [beq_iff_eq, linkFinding?_eq_self_iff first.placed, first, and_true]
  · intro b other placed
    exact List.count_eq_zero.2 fun mem => other ((firstBearer_of_self_mem placed mem).unique first)

theorem rule_ne_self_of_later {a b : Place × Room} {name : String} (first : d.FirstBearer name a)
    (placed : b ∈ d.placedRooms) (named : b.2.name = name) (later : b.1 ≠ a.1) {f : Finding}
    (mem : f ∈ d.roomFindings b.1 b.2) : f.rule ≠ .selfConnection := by
  intro self
  have link : f ∈ onLinks (d.roomFindings b.1 b.2) := List.mem_filter.2 ⟨mem, by rw [self]; rfl⟩
  rw [onLinks_roomFindings] at link
  obtain ⟨target, -, found⟩ := List.mem_filterMap.1 link
  obtain rfl := rule_self_iff.1 ⟨self, (rule_linkFinding? found).2.trans named⟩
  exact later (congrArg Prod.fst ((firstBearer_of_self_mem placed link).unique first))

/-- Of connections an inspection finds at most one thing each, in order, and what it finds follows
from the first bearer of the name: nothing exactly if that is another room and it lists this one. So
the first bearer of a name is found connected to itself as often as it lists its name, and no later
bearer ever is; for a later bearer the same connection is one to the first. -/
theorem inspect_links_by_bearer (d : Dungeon) :
    onLinks d.inspect.findings =
      (d.placedRooms.flatMap fun a => a.2.connections.filterMap (d.linkFinding? a.1 a.2)) ∧
    (∀ a ∈ d.placedRooms, ∀ target,
      (∀ o, d.linkFinding? a.1 a.2 target = o ↔ d.Judged a target o) ∧
      (d.linkFinding? a.1 a.2 target = none ↔
        ∃ b, d.FirstBearer target b ∧ b.1 ≠ a.1 ∧ a.2.name ∈ b.2.connections)) ∧
    ∀ name ∈ d.roomNames, ∃ a, d.FirstBearer name a ∧
      d.inspect.findings.countP (fun f => f.rule = .selfConnection ∧ f.subject = name) =
        a.2.connections.count name ∧
      ∀ b ∈ d.placedRooms, b.2.name = name → b.1 ≠ a.1 →
        (∀ f ∈ d.roomFindings b.1 b.2, f.rule ≠ .selfConnection) ∧
        d.linkFinding? b.1 b.2 name =
          if name ∈ a.2.connections then none else some (.asymmetricConnection name name) := by
  refine ⟨d.onLinks_inspect, ?_, ?_⟩
  · intro a placed target
    refine ⟨fun o => linkFinding?_eq_iff_judged placed, ?_⟩
    simp only [firstBearer_iff]
    exact linkFinding?_eq_none_iff
  · intro name borne
    obtain ⟨a, first⟩ := exists_firstBearer borne
    refine ⟨a, first, ?_, ?_⟩
    · simp only [rule_self_iff]
      exact count_self_inspect first
    · intro b placed named later
      exact ⟨fun f mem => rule_ne_self_of_later first placed named later mem,
        linkFinding?_of_later first placed named later⟩

def clonedKeep : Dungeon where
  name := "Keep"
  theme := ""
  level := 1
  floors := [⟨"Upper", [hall, vault "Hall"]⟩, ⟨"Lower", [hall, vault "Vault"]⟩]
where
  hall := ⟨"Hall", .small, .combat, "Upper", ["Hall", "Vault", "Hall"], [], []⟩
  vault (target : String) := ⟨"Vault", .small, .treasure, "Upper", [target], [], []⟩

theorem inspect_links_by_bearer_clonedKeep :
    clonedKeep.inspect.findings.countP
      (fun f => f.rule = .selfConnection ∧ f.subject = "Hall") = 2 ∧
    (∀ f ∈ clonedKeep.roomFindings ⟨1, 0⟩ clonedKeep.hall, f.rule ≠ .selfConnection) ∧
    clonedKeep.linkFinding? ⟨1, 0⟩ clonedKeep.hall "Hall" = none ∧
    clonedKeep.linkFinding? ⟨1, 1⟩ (clonedKeep.vault "Vault") "Vault" =
      some (.asymmetricConnection "Vault" "Vault") := by
  have ⟨_, _, named⟩ := inspect_links_by_bearer clonedKeep
  obtain ⟨a, firstHall, count, laterHall⟩ := named "Hall" (by decide)
  obtain rfl : a = (⟨0, 0⟩, clonedKeep.hall) :=
    firstHall.unique ⟨[], _, rfl, rfl, List.forall_mem_nil _⟩
  obtain ⟨b, firstVault, -, laterVault⟩ := named "Vault" (by decide)
  obtain rfl : b = (⟨0, 1⟩, clonedKeep.vault "Hall") :=
    firstVault.unique ⟨[(⟨0, 0⟩, clonedKeep.hall)], _, rfl, rfl, by decide⟩
  have ⟨other, hall⟩ := laterHall (⟨1, 0⟩, clonedKeep.hall) (by decide) rfl (by decide)
  have ⟨_, vault⟩ := laterVault (⟨1, 1⟩, clonedKeep.vault "Vault") (by decide) rfl (by decide)
  exact ⟨count, other, hall, vault⟩

end Dungeon

end DungeonForge
