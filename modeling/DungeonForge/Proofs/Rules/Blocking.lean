import DungeonForge.Document.Render
import DungeonForge.Rules.Inspect
import Mathlib.Tactic.SplitIfs

/-!
Three rules block a document: those on unknown connections, chances and health. Validation stops
at the first fault, the inspection collects all findings; the first of the findings that block is
the one for which validation stops. The proof compares the two walks node by node, since in both
of them what comes first in a list is found by searching the list.
-/

namespace DungeonForge

def Violation.finding : Violation → Finding
  | .danglingConnection _ room target => .invalidConnection room target
  | .triggerChanceOutOfRange _ trap value => .invalidProbability trap value
  | .negativeHealth _ npc value => .negativeHealth npc value

/-- The code, the subject and the message of a finding are those of the fault for which validation
stops. -/
inductive Finding.StandsFor (f : Finding) : Violation → Prop
  | connection {floor room target : String} (code : f.rule.code = "invalid-connection")
    (subject : f.subject = room)
    (message : f.message = "Unknown connection: no room named '" ++ target ++ "'") :
    StandsFor f (.danglingConnection floor room target)
  | probability {room trap : String} {value : Int32} (code : f.rule.code = "invalid-probability")
    (subject : f.subject = trap)
    (message : f.message = "triggerChance must be 0-100 (found " ++ toString value.toInt ++ ")") :
    StandsFor f (.triggerChanceOutOfRange room trap value)
  | health {room npc : String} {value : Int32} (code : f.rule.code = "negative-health")
    (subject : f.subject = npc)
    (message : f.message = "health must not be negative (found " ++ toString value.toInt ++ ")") :
    StandsFor f (.negativeHealth room npc value)

theorem Violation.standsFor_finding (v : Violation) : v.finding.StandsFor v := by
  cases v with
  | danglingConnection floor room target => exact .connection rfl rfl rfl
  | triggerChanceOutOfRange room trap value => exact .probability rfl rfl rfl
  | negativeHealth room npc value => exact .health rfl rfl rfl

namespace Finding

/-- Whether no document is written for a dungeon with this finding. -/
def blocks (f : Finding) : Bool :=
  [Rule.invalidConnection, .invalidProbability, .negativeHealth].contains f.rule

def blocker? (fs : List Finding) : Option Finding :=
  (fs.filter blocks).head?

theorem severity_of_blocks {f : Finding} (h : f.blocks = true) : f.severity = .error := by
  cases f <;> first | rfl | cases h

theorem blocker?_append (fs gs : List Finding) :
    blocker? (fs ++ gs) = (blocker? fs).or (blocker? gs) := by
  rw [blocker?, List.filter_append, List.head?_append]
  rfl

theorem blocker?_flatMap {α : Type} (l : List α) (g : α → List Finding) :
    blocker? (l.flatMap g) = l.findSome? fun a => blocker? (g a) := by
  rw [blocker?, List.filter_flatMap, List.head?_flatMap]
  rfl

theorem blocker?_eq_none {fs : List Finding} (h : ∀ f ∈ fs, f.blocks = false) :
    blocker? fs = none := by
  rw [blocker?, List.head?_eq_none_iff, List.filter_eq_nil_iff]
  intro f mem
  rw [h f mem]
  exact Bool.false_ne_true

end Finding

open Finding

theorem findSome?_eq_map_find? {α β : Type} {l : List α} {p : α → Bool} {g : α → Option β}
    {f : α → β} (follows : ∀ a ∈ l, g a = if p a then some (f a) else none) :
    l.findSome? g = (l.find? p).map f := by
  induction l with
  | nil => rfl
  | cons a l ih =>
    have rest := ih fun b mem => follows b (List.mem_cons_of_mem a mem)
    rw [List.findSome?_cons, List.find?_cons, follows a List.mem_cons_self]
    cases p a with
    | true => rfl
    | false => exact rest

theorem findSome?_zipIdx {α β : Type} (l : List α) (g : α → Option β) (i : Nat) :
    (l.zipIdx i).findSome? (fun p => g p.1) = l.findSome? g := by
  conv => rhs; rw [← List.zipIdx_map_fst i l, List.findSome?_map]
  rfl

namespace Floor

theorem blocker?_combatFindings (f : Floor) : blocker? f.combatFindings = none := by
  unfold combatFindings
  split <;> rfl

theorem blocker?_treasureFindings (f : Floor) : blocker? f.treasureFindings = none := by
  simp only [treasureFindings]
  split <;> rfl

end Floor

namespace Room

theorem blocker?_shopFindings (r : Room) : blocker? r.shopFindings = none := by
  unfold shopFindings
  split <;> rfl

theorem blocker?_bossFindings (r : Room) : blocker? r.bossFindings = none := by
  unfold bossFindings
  split
  · rw [blocker?_append]
    split <;> split <;> rfl
  · rfl

theorem blocker?_trapFindings (r : Room) (t : Trap) :
    blocker? (r.trapFindings t) =
      if !t.chanceIsPercentage then some (.invalidProbability t.name t.triggerChance)
      else none := by
  have puzzle : blocker? (if !t.disarmable ∧ r.kind = .puzzle then
      [Finding.trapInPuzzle t.name] else []) = none := by
    split <;> rfl
  rw [trapFindings, blocker?_append, puzzle, Option.or_none]
  by_cases inside : t.triggerChance.toInt < 0 ∨ 100 < t.triggerChance.toInt
  · have out : t.chanceIsPercentage = false := by
      simp only [Trap.chanceIsPercentage, Bool.and_eq_false_iff, decide_eq_false_iff_not]
      omega
    rw [if_pos inside, out]
    rfl
  · have fits : t.chanceIsPercentage = true := by
      simp only [Trap.chanceIsPercentage, Bool.and_eq_true, decide_eq_true_eq]
      omega
    rw [if_neg inside, fits]
    rfl

end Room

theorem Npc.blocker?_healthFindings (n : Npc) :
    blocker? n.healthFindings =
      if n.health.toInt < 0 then some (.negativeHealth n.name n.health) else none := by
  unfold healthFindings
  split <;> rfl

namespace Dungeon

theorem blocker?_duplicateFindings (d : Dungeon) : blocker? d.duplicateFindings = none := by
  apply blocker?_eq_none
  intro f mem
  obtain ⟨name, -, rfl⟩ := List.mem_map.1 mem
  rfl

theorem blocker?_isolatedFindings (d : Dungeon) (f : Floor) :
    blocker? (d.isolatedFindings f) = none := by
  unfold isolatedFindings
  split
  · rfl
  · rfl
  · apply blocker?_eq_none
    intro g mem
    obtain ⟨r, -, rfl⟩ := List.mem_map.1 mem
    rfl

theorem bearer?_isSome_iff {d : Dungeon} {name : String} :
    (d.bearer? name).isSome ↔ name ∈ d.roomNames := by
  rw [← room?_isSome_iff, ← map_snd_bearer?, Option.isSome_map]

theorem linkFinding?_blocks (d : Dungeon) (here : Place) (r : Room) (target : String) :
    (d.linkFinding? here r target).filter blocks =
      if !d.roomNames.contains target then some (.invalidConnection r.name target) else none := by
  cases bearer : d.bearer? target with
  | none =>
    have unknown : d.roomNames.contains target = false := by
      rw [← Bool.not_eq_true, List.contains_iff_mem, ← bearer?_isSome_iff, bearer]
      exact Bool.false_ne_true
    rw [linkFinding?, bearer, unknown]
    rfl
  | some found =>
    have known : d.roomNames.contains target = true := by
      rw [List.contains_iff_mem, ← bearer?_isSome_iff, bearer]
      rfl
    obtain ⟨place, other⟩ := found
    simp only [linkFinding?, bearer, known, Bool.not_true, Bool.false_eq_true, if_false]
    split_ifs <;> rfl

theorem blocker?_linkFindings (d : Dungeon) (here : Place) (r : Room) :
    blocker? (d.linkFindings here r) =
      (r.connections.find? fun target => !d.roomNames.contains target).map
        (.invalidConnection r.name) := by
  rw [blocker?, linkFindings, List.filter_filterMap, List.head?_filterMap]
  exact findSome?_eq_map_find? fun target _ => d.linkFinding?_blocks here r target

theorem blocker?_roomFindings (d : Dungeon) (here : Place) (r : Room) (floor : String) :
    blocker? (d.roomFindings here r) =
      (r.firstViolation? d.roomNames.contains floor).map Violation.finding := by
  have traps : blocker? (r.traps.flatMap r.trapFindings) =
      (r.traps.find? fun t => !t.chanceIsPercentage).map
        fun t => .invalidProbability t.name t.triggerChance := by
    rw [blocker?_flatMap]
    exact findSome?_eq_map_find? fun t _ => r.blocker?_trapFindings t
  have npcs : blocker? (r.npcs.flatMap Npc.healthFindings) =
      (r.npcs.find? fun n => n.health.toInt < 0).map fun n => .negativeHealth n.name n.health := by
    rw [blocker?_flatMap]
    exact findSome?_eq_map_find? fun n _ => by
      rw [n.blocker?_healthFindings]
      simp only [decide_eq_true_eq]
  rw [roomFindings, Room.ownFindings, blocker?_append, blocker?_append, blocker?_append,
    blocker?_append, Room.blocker?_shopFindings, Room.blocker?_bossFindings, Option.none_or,
    Option.none_or, blocker?_linkFindings, traps, npcs, Room.firstViolation?]
  cases r.connections.find? fun target => !d.roomNames.contains target with
  | some target => rfl
  | none =>
    cases r.traps.find? fun t => !t.chanceIsPercentage with
    | some t => rfl
    | none => cases r.npcs.find? fun n => n.health.toInt < 0 <;> rfl

theorem blocker?_floorFindings (d : Dungeon) (f : Floor) (i : Nat) :
    blocker? (d.floorFindings f i) =
      (f.rooms.findSome? fun r => r.firstViolation? d.roomNames.contains f.name).map
        Violation.finding := by
  rw [floorFindings, blocker?_append, blocker?_append, blocker?_append,
    Floor.blocker?_combatFindings, Floor.blocker?_treasureFindings, blocker?_isolatedFindings,
    Option.none_or, Option.none_or, Option.none_or, blocker?_flatMap, List.map_findSome?,
    Floor.placedRooms, List.findSome?_map]
  simp only [Function.comp_def, blocker?_roomFindings d _ _ f.name]
  exact findSome?_zipIdx f.rooms
    (fun r => (r.firstViolation? d.roomNames.contains f.name).map Violation.finding) 0

theorem blocker?_inspect (d : Dungeon) :
    blocker? d.inspect.findings = d.firstViolation?.map Violation.finding := by
  rw [inspect, blocker?_append, blocker?_duplicateFindings, Option.none_or, blocker?_flatMap,
    firstViolation?, List.map_findSome?]
  simp only [blocker?_floorFindings, Function.comp_def]
  exact findSome?_zipIdx d.floors (fun f => (f.rooms.findSome? fun r =>
    r.firstViolation? d.roomNames.contains f.name).map Violation.finding) 0

def blockers (d : Dungeon) : List Finding :=
  d.inspect.findings.filter blocks

theorem blockers_eq_nil {d : Dungeon} (clean : d.inspect.hasErrors = false) : d.blockers = [] := by
  rw [blockers, List.filter_eq_nil_iff]
  intro f mem blocked
  have noError : d.inspect.errors = [] := by
    simpa [Report.hasErrors] using clean
  have error : f ∈ d.inspect.errors :=
    List.mem_filter.2 ⟨mem, by simp [severity_of_blocks blocked]⟩
  rw [noError] at error
  cases error

/-- A dungeon has a violation exactly if an inspection gives a finding that blocks; the violation is
then the one that the first such finding stands for. So a dungeon in which no rule finds an error
has a document in every layout. -/
theorem firstViolation?_eq_first_blocker (d : Dungeon) :
    (d.firstViolation? = none ↔ d.blockers = []) ∧
    (∀ f others, d.blockers = f :: others → ∃ v, d.firstViolation? = some v ∧ v.finding = f ∧
      f.StandsFor v ∧ ∀ layout, d.document? layout = .error v) ∧
    (d.inspect.hasErrors = false → ∀ layout, ∃ text, d.document? layout = .ok text) := by
  have first : d.blockers.head? = d.firstViolation?.map Violation.finding := d.blocker?_inspect
  have none_iff : d.firstViolation? = none ↔ d.blockers = [] := by
    rw [← List.head?_eq_none_iff, first, Option.map_eq_none_iff]
  refine ⟨none_iff, ?_, ?_⟩
  · intro f others blocked
    rw [blocked, List.head?_cons] at first
    obtain ⟨v, violated, same⟩ := Option.map_eq_some_iff.1 first.symm
    refine ⟨v, violated, same, same ▸ v.standsFor_finding, fun layout => ?_⟩
    rw [document?, violated]
  · intro clean layout
    refine ⟨String.ofList (d.render layout), ?_⟩
    rw [document?, none_iff.2 (blockers_eq_nil clean)]

def faultyKeep : Dungeon where
  name := "Keep"
  theme := ""
  level := 1
  floors := [⟨"Cell", [⟨"Cell", .small, .boss, "Cell", ["Cell", "Nowhere"],
      [⟨"Pit", .stepOn, false, 101⟩], [⟨"Rat", .neutral, .enemy, -1⟩]⟩]⟩,
    ⟨"Void", []⟩]

def quietKeep : Dungeon where
  name := "Keep"
  theme := ""
  level := 1
  floors := [⟨"Cell", [⟨"Cell", .small, .puzzle, "Cell", [], [⟨"Pit", .stepOn, true, 100⟩], []⟩]⟩]

theorem firstViolation?_eq_first_blocker_keeps :
    (∃ v, faultyKeep.firstViolation? = some v ∧ v.finding = .invalidConnection "Cell" "Nowhere" ∧
      Finding.StandsFor (.invalidConnection "Cell" "Nowhere") v ∧
      ∀ layout, faultyKeep.document? layout = .error v) ∧
    quietKeep.inspect.findings ≠ [] ∧
    ∀ layout, ∃ text, quietKeep.document? layout = .ok text := by
  have blocked : faultyKeep.blockers = [.invalidConnection "Cell" "Nowhere",
      .invalidProbability "Pit" 101, .negativeHealth "Rat" (-1)] := by decide
  exact ⟨(firstViolation?_eq_first_blocker faultyKeep).2.1 _ _ blocked, by decide,
    (firstViolation?_eq_first_blocker quietKeep).2.2 (by decide)⟩

end Dungeon

end DungeonForge
