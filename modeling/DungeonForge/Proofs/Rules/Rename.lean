import DungeonForge.Proofs.Rules.Blocking
import DungeonForge.Proofs.Rules.Reach
import Mathlib.Data.List.Basic
import Mathlib.Data.List.Find
import Mathlib.Data.List.Forall2
import Mathlib.Data.Set.Function

/-!
Room names matter only up to equality. Giving the rooms of a dungeon other names, different ones for
different rooms, and following these names in all connections changes nothing that is found but the
names in it: look-ups stop at the same place, the walk on a floor reaches the same rooms, and every
rule finds the same at each position.
-/

namespace DungeonForge

variable (ρ : String → String)

def Room.rename (r : Room) : Room :=
  { r with name := ρ r.name, connections := r.connections.map ρ }

def Floor.rename (f : Floor) : Floor :=
  { f with rooms := f.rooms.map (Room.rename ρ) }

def Dungeon.rename (d : Dungeon) : Dungeon :=
  { d with floors := d.floors.map (Floor.rename ρ) }

/-- The rules whose findings have a room as their subject. -/
def Rule.isOnRoom (rule : Rule) : Bool :=
  [Rule.duplicateRoomName, .invalidConnection, .selfConnection, .asymmetricConnection,
    .isolatedRoom, .invalidShopSize, .bossRoomSize, .bossRoomConnections].contains rule

def Finding.rename : Finding → Finding
  | .duplicateRoomName room => .duplicateRoomName (ρ room)
  | .invalidConnection room target => .invalidConnection (ρ room) (ρ target)
  | .selfConnection room => .selfConnection (ρ room)
  | .asymmetricConnection room target => .asymmetricConnection (ρ room) (ρ target)
  | .invalidShopSize room => .invalidShopSize (ρ room)
  | .bossRoomSize room => .bossRoomSize (ρ room)
  | .bossRoomConnections room => .bossRoomConnections (ρ room)
  | .isolatedRoom room => .isolatedRoom (ρ room)
  | f => f

def Violation.rename : Violation → Violation
  | .danglingConnection floor room target => .danglingConnection floor (ρ room) (ρ target)
  | .triggerChanceOutOfRange room trap value => .triggerChanceOutOfRange (ρ room) trap value
  | .negativeHealth room npc value => .negativeHealth (ρ room) npc value

variable {ρ}

namespace Finding

theorem rule_rename (f : Finding) : (f.rename ρ).rule = f.rule := by
  cases f <;> rfl

theorem subject_rename (f : Finding) :
    (f.rename ρ).subject = if f.rule.isOnRoom then ρ f.subject else f.subject := by
  cases f <;> rfl

end Finding

theorem findSome?_congr {α β : Type} {l : List α} {f g : α → Option β}
    (same : ∀ a ∈ l, f a = g a) : l.findSome? f = l.findSome? g := by
  induction l with
  | nil => rfl
  | cons a l ih =>
    obtain ⟨first, rest⟩ := List.forall_mem_cons.1 same
    rw [List.findSome?_cons, List.findSome?_cons, first, ih rest]

theorem mem_map_iff_of_injOn {s : Set String} (inj : Set.InjOn ρ s) {names : List String}
    (used : ∀ m ∈ names, m ∈ s) {n : String} (hn : n ∈ s) : ρ n ∈ names.map ρ ↔ n ∈ names := by
  refine ⟨fun mem => ?_, List.mem_map_of_mem⟩
  obtain ⟨m, there, same⟩ := List.mem_map.1 mem
  rwa [← inj (used m there) hn same]

theorem contains_map_of_injOn {s : Set String} (inj : Set.InjOn ρ s) {names : List String}
    (used : ∀ m ∈ names, m ∈ s) {n : String} (hn : n ∈ s) :
    (names.map ρ).contains (ρ n) = names.contains n := by
  rw [Bool.eq_iff_iff, List.contains_iff_mem, List.contains_iff_mem]
  exact mem_map_iff_of_injOn inj used hn

theorem repeatedNames_map {s : Set String} (inj : Set.InjOn ρ s) {seen names : List String}
    (old : ∀ n ∈ seen, n ∈ s) (used : ∀ n ∈ names, n ∈ s) :
    repeatedNames (seen.map ρ) (names.map ρ) = (repeatedNames seen names).map ρ := by
  induction names generalizing seen with
  | nil => rfl
  | cons n names ih =>
    obtain ⟨here, rest⟩ := List.forall_mem_cons.1 used
    rw [List.map_cons, repeatedNames, repeatedNames, contains_map_of_injOn inj old here]
    split
    · rw [List.map_cons, ih old rest]
    · have grown : ∀ m ∈ n :: seen, m ∈ s := List.forall_mem_cons.2 ⟨here, old⟩
      exact ih grown rest

namespace Room

variable (r : Room)

@[simp] theorem name_rename : (r.rename ρ).name = ρ r.name := rfl
@[simp] theorem size_rename : (r.rename ρ).size = r.size := rfl
@[simp] theorem kind_rename : (r.rename ρ).kind = r.kind := rfl
@[simp] theorem connections_rename : (r.rename ρ).connections = r.connections.map ρ := rfl
@[simp] theorem traps_rename : (r.rename ρ).traps = r.traps := rfl
@[simp] theorem npcs_rename : (r.rename ρ).npcs = r.npcs := rfl

theorem ownFindings_rename :
    (r.rename ρ).ownFindings = r.ownFindings.map (Finding.rename ρ) := by
  have shop : (r.rename ρ).shopFindings = r.shopFindings.map (Finding.rename ρ) := by
    by_cases large : r.kind = .shop ∧ r.size = .large <;> simp [shopFindings, large, Finding.rename]
  have boss : (r.rename ρ).bossFindings = r.bossFindings.map (Finding.rename ρ) := by
    by_cases boss : r.kind = .boss <;> by_cases large : r.size = .large <;>
      by_cases many : 1 < r.connections.length <;>
      simp [bossFindings, boss, large, many, Finding.rename]
  have traps : ∀ t, (r.trapFindings t).map (Finding.rename ρ) = r.trapFindings t := by
    intro t
    unfold trapFindings
    split_ifs <;> rfl
  have health : ∀ n : Npc, n.healthFindings.map (Finding.rename ρ) = n.healthFindings := by
    intro n
    unfold Npc.healthFindings
    split <;> rfl
  simp only [ownFindings, List.map_append, List.map_flatMap, shop, boss, traps, health]
  rfl

end Room

namespace Floor

theorem kinds_rename (f : Floor) : (f.rename ρ).rooms.map Room.kind = f.rooms.map Room.kind :=
  List.map_map

theorem combatFindings_rename (f : Floor) :
    (f.rename ρ).combatFindings = f.combatFindings.map (Finding.rename ρ) := by
  rw [combatFindings_congr (f := f.rename ρ) (g := f) rfl (.of_eq f.kinds_rename), combatFindings]
  split <;> rfl

theorem treasureFindings_rename (f : Floor) :
    (f.rename ρ).treasureFindings = f.treasureFindings.map (Finding.rename ρ) := by
  rw [treasureFindings_congr (f := f.rename ρ) (g := f) rfl (.of_eq f.kinds_rename)]
  simp only [treasureFindings]
  split <;> rfl

theorem placedRooms_rename (f : Floor) (i : Nat) :
    (f.rename ρ).placedRooms i = (f.placedRooms i).map (Prod.map id (Room.rename ρ)) := by
  rw [placedRooms, placedRooms, rename, List.zipIdx_map, List.map_map, List.map_map]
  rfl

end Floor

namespace Dungeon

theorem allRooms_rename (d : Dungeon) :
    (d.rename ρ).allRooms = d.allRooms.map (Room.rename ρ) := by
  rw [allRooms, allRooms, rename, List.flatMap_map, List.map_flatMap]
  rfl

theorem roomNames_rename (d : Dungeon) : (d.rename ρ).roomNames = d.roomNames.map ρ := by
  rw [roomNames, roomNames, allRooms_rename, List.map_map, List.map_map]
  rfl

theorem zipIdx_floors_rename (d : Dungeon) :
    (d.rename ρ).floors.zipIdx = d.floors.zipIdx.map (Prod.map (Floor.rename ρ) id) :=
  List.zipIdx_map

theorem placedRooms_rename (d : Dungeon) :
    (d.rename ρ).placedRooms = d.placedRooms.map (Prod.map id (Room.rename ρ)) := by
  rw [placedRooms, placedRooms, zipIdx_floors_rename, List.flatMap_map, List.map_flatMap]
  exact List.flatMap_congr fun p _ => p.1.placedRooms_rename p.2

/-- The names that rooms bear or connect to. -/
def usedNames (d : Dungeon) : List String :=
  d.allRooms.flatMap fun r => r.name :: r.connections

theorem name_mem_usedNames {d : Dungeon} {r : Room} (mem : r ∈ d.allRooms) :
    r.name ∈ d.usedNames :=
  List.mem_flatMap.2 ⟨r, mem, List.mem_cons_self⟩

theorem target_mem_usedNames {d : Dungeon} {r : Room} (mem : r ∈ d.allRooms) {target : String}
    (linked : target ∈ r.connections) : target ∈ d.usedNames :=
  List.mem_flatMap.2 ⟨r, mem, List.mem_cons_of_mem _ linked⟩

theorem mem_usedNames_of_mem_roomNames {d : Dungeon} {n : String} (borne : n ∈ d.roomNames) :
    n ∈ d.usedNames := by
  obtain ⟨r, mem, rfl⟩ := List.mem_map.1 borne
  exact name_mem_usedNames mem

section Renamed

variable {d : Dungeon} (inj : Set.InjOn ρ {n | n ∈ d.usedNames})

include inj

theorem bearer?_rename {n : String} (used : n ∈ d.usedNames) :
    (d.rename ρ).bearer? (ρ n) = (d.bearer? n).map (Prod.map id (Room.rename ρ)) := by
  rw [bearer?, bearer?, placedRooms_rename, List.find?_map]
  congr 1
  refine List.find?_congr fun a mem => ?_
  have named := name_mem_usedNames (mem_allRooms_of_placed mem)
  rw [Bool.eq_iff_iff]
  simp only [Function.comp_apply, Prod.map, Room.rename, beq_iff_eq]
  exact ⟨fun same => inj named used same, congrArg ρ⟩

theorem room?_rename {n : String} (used : n ∈ d.usedNames) :
    (d.rename ρ).room? (ρ n) = (d.room? n).map (Room.rename ρ) := by
  rw [← map_snd_bearer?, ← map_snd_bearer?, bearer?_rename inj used, Option.map_map,
    Option.map_map]
  rfl

theorem mem_roomNames_rename {n : String} (used : n ∈ d.usedNames) :
    ρ n ∈ (d.rename ρ).roomNames ↔ n ∈ d.roomNames := by
  rw [roomNames_rename]
  exact mem_map_iff_of_injOn inj (fun _ => mem_usedNames_of_mem_roomNames) used

theorem Reached.rename {start : Room} (there : start ∈ d.allRooms) {n : String}
    (reached : d.Reached start n) : (d.rename ρ).Reached (start.rename ρ) (ρ n) := by
  have used : ∀ {r : Room} {target : String}, r ∈ d.allRooms → target ∈ r.connections →
      target ∈ d.roomNames → ρ target ∈ (r.rename ρ).connections ∧
        ρ target ∈ (d.rename ρ).roomNames := by
    intro r target mem linked borne
    exact ⟨List.mem_map_of_mem linked,
      (mem_roomNames_rename inj (target_mem_usedNames mem linked)).2 borne⟩
  induction reached with
  | own => exact .own
  | link linked borne =>
    obtain ⟨linked', borne'⟩ := used there linked borne
    exact .link linked' borne'
  | @onward name target r reached other first linked borne ih =>
    have room := List.mem_of_find?_eq_some first
    have named : name ∈ d.usedNames := by
      obtain rfl : r.name = name := by simpa using List.find?_some first
      exact name_mem_usedNames room
    obtain ⟨linked', borne'⟩ := used room linked borne
    refine .onward ih (fun same => other ?_) ?_ linked' borne'
    · exact inj named (name_mem_usedNames there) same
    · rw [room?_rename inj named, first, Option.map_some]

theorem Reached.of_rename {start : Room} (there : start ∈ d.allRooms) {m : String}
    (reached : (d.rename ρ).Reached (start.rename ρ) m) :
    ∃ n ∈ d.usedNames, ρ n = m ∧ d.Reached start n := by
  have linkedOf : ∀ {r : Room} {m : String}, r ∈ d.allRooms → m ∈ (r.rename ρ).connections →
      m ∈ (d.rename ρ).roomNames →
      ∃ target ∈ d.usedNames, ρ target = m ∧ target ∈ r.connections ∧ target ∈ d.roomNames := by
    intro r m mem linked borne
    obtain ⟨target, listed, rfl⟩ := List.mem_map.1 linked
    have used := target_mem_usedNames mem listed
    exact ⟨target, used, rfl, listed, (mem_roomNames_rename inj used).1 borne⟩
  induction reached with
  | own => exact ⟨start.name, name_mem_usedNames there, rfl, .own⟩
  | link linked borne =>
    obtain ⟨target, used, rfl, linked, borne⟩ := linkedOf there linked borne
    exact ⟨target, used, rfl, .link linked borne⟩
  | onward _ other first linked borne ih =>
    obtain ⟨name, named, rfl, reached⟩ := ih
    rw [room?_rename inj named] at first
    obtain ⟨r, found, rfl⟩ := Option.map_eq_some_iff.1 first
    obtain ⟨target, used, rfl, linked, borne⟩ :=
      linkedOf (List.mem_of_find?_eq_some found) linked borne
    exact ⟨target, used, rfl,
      .onward reached (fun same => other (congrArg ρ same)) found linked borne⟩

theorem reached_rename_iff {start : Room} (there : start ∈ d.allRooms) {n : String}
    (used : n ∈ d.usedNames) :
    (d.rename ρ).Reached (start.rename ρ) (ρ n) ↔ d.Reached start n := by
  refine ⟨fun reached => ?_, fun reached => reached.rename inj there⟩
  obtain ⟨m, used', same, reached⟩ := Reached.of_rename inj there reached
  rwa [← inj used' used same]

theorem isolatedFindings_rename {f : Floor} (mem : f ∈ d.floors) :
    (d.rename ρ).isolatedFindings (f.rename ρ) =
      (d.isolatedFindings f).map (Finding.rename ρ) := by
  have inDungeon : ∀ r ∈ f.rooms, r ∈ d.allRooms := fun r room =>
    List.mem_flatMap.2 ⟨f, mem, room⟩
  have names : (f.rename ρ).rooms.map Room.name = (f.rooms.map Room.name).map ρ := by
    rw [Floor.rename, List.map_map, List.map_map]
    rfl
  cases first : f.rooms.head? with
  | none =>
    have empty := List.head?_eq_none_iff.1 first
    rw [isolatedFindings_of_empty empty, isolatedFindings_of_empty (by rw [Floor.rename, empty]; rfl)]
    rfl
  | some start =>
    have there := inDungeon start (List.mem_of_mem_head? first)
    have first' : (f.rename ρ).rooms.head? = some (start.rename ρ) := by
      rw [Floor.rename, List.head?_map, first, Option.map_some]
    rw [isolatedFindings_of_head? first, isolatedFindings_of_head? first', names, List.filter_map,
      List.map_map, List.map_map]
    have unreached : (f.rooms.map Room.name).filter
        ((fun n => ¬ (d.rename ρ).Reached (start.rename ρ) n) ∘ ρ) =
        (f.rooms.map Room.name).filter fun n => ¬ d.Reached start n := by
      refine List.filter_congr fun n borne => ?_
      obtain ⟨r, room, rfl⟩ := List.mem_map.1 borne
      have same := reached_rename_iff inj there (name_mem_usedNames (inDungeon r room))
      simp only [Function.comp_apply, same]
    rw [unreached]
    rfl

theorem duplicateFindings_rename :
    (d.rename ρ).duplicateFindings = d.duplicateFindings.map (Finding.rename ρ) := by
  have names : repeatedNames [] (d.roomNames.map ρ) = (repeatedNames [] d.roomNames).map ρ :=
    repeatedNames_map inj (List.forall_mem_nil _) fun _ => mem_usedNames_of_mem_roomNames
  rw [duplicateFindings, duplicateFindings, roomNames_rename, names, List.map_map, List.map_map]
  rfl

theorem linkFinding?_rename {here : Place} {r : Room} (mem : r ∈ d.allRooms) {target : String}
    (linked : target ∈ r.connections) :
    (d.rename ρ).linkFinding? here (r.rename ρ) (ρ target) =
      (d.linkFinding? here r target).map (Finding.rename ρ) := by
  unfold linkFinding?
  rw [bearer?_rename inj (target_mem_usedNames mem linked)]
  cases bearer : d.bearer? target with
  | none => rfl
  | some b =>
    obtain ⟨place, other⟩ := b
    have there := mem_allRooms_of_placed (List.mem_of_find?_eq_some bearer)
    have back : (other.rename ρ).connectsTo (ρ r.name) = other.connectsTo r.name :=
      contains_map_of_injOn inj (fun _ => target_mem_usedNames there) (name_mem_usedNames mem)
    simp only [Option.map_some, Prod.map, id, Room.name_rename, back]
    split_ifs <;> rfl

theorem roomFindings_rename {here : Place} {r : Room} (mem : r ∈ d.allRooms) :
    (d.rename ρ).roomFindings here (r.rename ρ) =
      (d.roomFindings here r).map (Finding.rename ρ) := by
  have links : (d.rename ρ).linkFindings here (r.rename ρ) =
      (d.linkFindings here r).map (Finding.rename ρ) := by
    rw [linkFindings, linkFindings, List.map_filterMap, Room.rename, List.filterMap_map]
    exact List.filterMap_congr fun target linked => linkFinding?_rename inj mem linked
  rw [roomFindings, roomFindings, List.map_append, links, Room.ownFindings_rename]

theorem floorFindings_rename {f : Floor} (mem : f ∈ d.floors) (i : Nat) :
    (d.rename ρ).floorFindings (f.rename ρ) i =
      (d.floorFindings f i).map (Finding.rename ρ) := by
  have rooms : ((f.rename ρ).placedRooms i).flatMap (fun p => (d.rename ρ).roomFindings p.1 p.2) =
      ((f.placedRooms i).flatMap fun p => d.roomFindings p.1 p.2).map (Finding.rename ρ) := by
    rw [Floor.placedRooms_rename, List.flatMap_map, List.map_flatMap]
    refine List.flatMap_congr fun p placed => roomFindings_rename inj ?_
    have inFloor : p.2 ∈ f.rooms := by
      rw [← f.map_snd_placedRooms i]
      exact List.mem_map_of_mem placed
    exact List.mem_flatMap.2 ⟨f, mem, inFloor⟩
  rw [floorFindings, floorFindings, Floor.combatFindings_rename, Floor.treasureFindings_rename,
    isolatedFindings_rename inj mem, rooms]
  simp only [List.map_append]

theorem findings_rename :
    (d.rename ρ).inspect.findings = d.inspect.findings.map (Finding.rename ρ) := by
  have floors : (d.rename ρ).floors.zipIdx.flatMap (fun p => (d.rename ρ).floorFindings p.1 p.2) =
      (d.floors.zipIdx.flatMap fun p => d.floorFindings p.1 p.2).map (Finding.rename ρ) := by
    rw [zipIdx_floors_rename, List.flatMap_map, List.map_flatMap]
    refine List.flatMap_congr fun p mem => floorFindings_rename inj ?_ p.2
    rw [← List.zipIdx_map_fst 0 d.floors]
    exact List.mem_map_of_mem mem
  rw [inspect, inspect, List.map_append, duplicateFindings_rename inj, floors]

theorem firstViolation?_rename_room {r : Room} (mem : r ∈ d.allRooms) (floor : String) :
    (r.rename ρ).firstViolation? (d.rename ρ).roomNames.contains floor =
      (r.firstViolation? d.roomNames.contains floor).map (Violation.rename ρ) := by
  have dangling : ((r.rename ρ).connections.find? fun target =>
      !(d.rename ρ).roomNames.contains target) =
        (r.connections.find? fun target => !d.roomNames.contains target).map ρ := by
    rw [Room.rename, List.find?_map]
    congr 1
    refine List.find?_congr fun target linked => congrArg (! ·) ?_
    rw [roomNames_rename]
    exact contains_map_of_injOn inj (fun _ => mem_usedNames_of_mem_roomNames)
      (target_mem_usedNames mem linked)
  unfold Room.firstViolation?
  rw [dangling]
  cases r.connections.find? fun target => !d.roomNames.contains target with
  | some target => rfl
  | none =>
    simp only [Option.map_none, Room.rename]
    cases r.traps.find? fun t => !t.chanceIsPercentage with
    | some t => rfl
    | none => cases r.npcs.find? fun n => n.health.toInt < 0 <;> rfl

theorem violation_rename :
    (d.rename ρ).firstViolation? = d.firstViolation?.map (Violation.rename ρ) := by
  unfold firstViolation?
  rw [List.map_findSome?, rename, List.findSome?_map]
  refine findSome?_congr fun f floor => ?_
  simp only [Function.comp_apply]
  rw [List.map_findSome?, Floor.rename, List.findSome?_map]
  exact findSome?_congr fun r room =>
    firstViolation?_rename_room inj (List.mem_flatMap.2 ⟨f, floor, room⟩) f.name

end Renamed

/-- Where different names stay different, new names for the rooms change neither which rule finds
something at which position nor whether there is a document, and every name stands for the same place
as before; what is reported of rooms is reported under the new names. -/
theorem inspect_rename (d : Dungeon) (ρ : String → String)
    (inj : Set.InjOn ρ {n | n ∈ d.usedNames}) :
    (d.rename ρ).inspect.findings = d.inspect.findings.map (Finding.rename ρ) ∧
    List.Forall₂ (fun f g => g.rule = f.rule ∧ g.severity = f.severity ∧
        g.subject = if f.rule.isOnRoom then ρ f.subject else f.subject)
      d.inspect.findings (d.rename ρ).inspect.findings ∧
    (d.rename ρ).firstViolation? = d.firstViolation?.map (Violation.rename ρ) ∧
    ∀ n ∈ d.usedNames,
      (d.rename ρ).bearer? (ρ n) = (d.bearer? n).map (Prod.map id (Room.rename ρ)) ∧
      (d.rename ρ).room? (ρ n) = (d.room? n).map (Room.rename ρ) := by
  refine ⟨findings_rename inj, ?_, violation_rename inj,
    fun n used => ⟨bearer?_rename inj used, room?_rename inj used⟩⟩
  rw [findings_rename inj, List.forall₂_map_right_iff, List.forall₂_same]
  intro f _
  exact ⟨f.rule_rename, congrArg Rule.severity f.rule_rename, f.subject_rename⟩

def gateAsVault (n : String) : String :=
  if n = "Gate" then "Vault" else n

theorem inspect_rename_crossedKeep :
    Set.InjOn gateAsVault {n | n ∈ crossedKeep.usedNames} ∧
    (crossedKeep.rename gateAsVault).inspect.findings =
      crossedKeep.inspect.findings.map (Finding.rename gateAsVault) ∧
    List.Forall₂ (fun f g => g.rule = f.rule ∧ g.severity = f.severity ∧
        g.subject = if f.rule.isOnRoom then gateAsVault f.subject else f.subject)
      crossedKeep.inspect.findings (crossedKeep.rename gateAsVault).inspect.findings ∧
    (crossedKeep.rename gateAsVault).firstViolation? =
      crossedKeep.firstViolation?.map (Violation.rename gateAsVault) ∧
    ∀ n ∈ crossedKeep.usedNames,
      (crossedKeep.rename gateAsVault).bearer? (gateAsVault n) =
        (crossedKeep.bearer? n).map (Prod.map id (Room.rename gateAsVault)) ∧
      (crossedKeep.rename gateAsVault).room? (gateAsVault n) =
        (crossedKeep.room? n).map (Room.rename gateAsVault) := by
  have apart : ∀ a ∈ crossedKeep.usedNames, ∀ b ∈ crossedKeep.usedNames,
      gateAsVault a = gateAsVault b → a = b := by decide
  have inj : Set.InjOn gateAsVault {n | n ∈ crossedKeep.usedNames} :=
    fun a ha b hb => apart a ha b hb
  exact ⟨inj, inspect_rename crossedKeep gateAsVault inj⟩

end Dungeon

end DungeonForge
