import DungeonForge.Proofs.Document.Violation
import DungeonForge.Proofs.Rules.Alike
import DungeonForge.Proofs.Rules.Links

/-!
What neither the rules nor validation read. Two dungeons from which the same is left when some of
their data is erased cannot be told apart by what does not depend on that data: each of them gives
what the erased dungeon gives. With the traps and inhabitants erased, the two runs do not stay in
step, but what is found of traps and inhabitants can be left out of both.
-/

namespace DungeonForge

/-- The rules on traps and inhabitants. -/
def Rule.isOnContents (rule : Rule) : Bool :=
  [Rule.invalidProbability, .trapInPuzzle, .negativeHealth].contains rule

def Violation.isDangling : Violation → Bool
  | .danglingConnection _ _ _ => true
  | _ => false

def Trap.bare (t : Trap) : Trap :=
  { t with trigger := .stepOn }

def Npc.bare (n : Npc) : Npc :=
  { n with behaviour := .neutral, kind := .normal }

/-- A room without the name of its floor, with bare contents. -/
def Room.bare (r : Room) : Room :=
  { r with floorId := "", traps := r.traps.map Trap.bare, npcs := r.npcs.map Npc.bare }

def Room.emptied (r : Room) : Room :=
  { r with traps := [], npcs := [] }

def Floor.mapRooms (change : Room → Room) (f : Floor) : Floor :=
  { f with rooms := f.rooms.map change }

/-- A dungeon with bare rooms, without name, theme and level of its own. -/
def Dungeon.bare (d : Dungeon) : Dungeon :=
  ⟨"", "", 1, d.floors.map (Floor.mapRooms Room.bare)⟩

def Dungeon.emptied (d : Dungeon) : Dungeon :=
  { d with floors := d.floors.map (Floor.mapRooms Room.emptied) }

/-- A change of rooms on which neither the findings nor the violations that are kept depend. -/
structure Room.Erases (change : Room → Room) (found : Finding → Bool) (broken : Violation → Bool) :
    Prop where
  name : ∀ r, (change r).name = r.name
  kind : ∀ r, (change r).kind = r.kind
  connections : ∀ r, (change r).connections = r.connections
  findings : ∀ r, (change r).ownFindings.filter found = r.ownFindings.filter found
  violations : ∀ r known floor, (change r).violations known floor =
    (r.violations known floor).filter broken

namespace Room

theorem erases_bare : Erases bare (fun _ => true) (fun _ => true) where
  name _ := rfl
  kind _ := rfl
  connections _ := rfl
  findings r := by
    simp only [ownFindings, bare, List.flatMap_map]
    rfl
  violations r known floor := by
    simp only [violations, bare, List.filter_map, List.map_map, List.filter_true]
    rfl

theorem erases_emptied : Erases emptied (fun f => !f.rule.isOnContents) Violation.isDangling where
  name _ := rfl
  kind _ := rfl
  connections _ := rfl
  findings r := by
    have traps : (r.traps.flatMap r.trapFindings).filter (fun f => !f.rule.isOnContents) = [] := by
      refine List.filter_eq_nil_iff.2 fun f mem => ?_
      obtain ⟨t, -, found⟩ := List.mem_flatMap.1 mem
      rcases rule_of_mem_trapFindings found with rule | rule <;> rw [rule] <;> decide
    have npcs : (r.npcs.flatMap Npc.healthFindings).filter (fun f => !f.rule.isOnContents) = [] := by
      refine List.filter_eq_nil_iff.2 fun f mem => ?_
      obtain ⟨n, -, found⟩ := List.mem_flatMap.1 mem
      rw [Npc.rule_of_mem_healthFindings found]
      decide
    simp only [ownFindings, List.filter_append, traps, npcs]
    rfl
  violations r known floor := by
    have dangling (targets : List String) :
        (targets.map (Violation.danglingConnection floor r.name)).filter Violation.isDangling =
          targets.map (Violation.danglingConnection floor r.name) :=
      List.filter_eq_self.2 (List.forall_mem_map.2 fun _ _ => rfl)
    have chances (traps : List Trap) : (traps.map fun t => Violation.triggerChanceOutOfRange
        r.name t.name t.triggerChance).filter Violation.isDangling = [] :=
      List.filter_eq_nil_iff.2 (List.forall_mem_map.2 fun _ _ => Bool.false_ne_true)
    have health (npcs : List Npc) : (npcs.map fun n => Violation.negativeHealth
        r.name n.name n.health).filter Violation.isDangling = [] :=
      List.filter_eq_nil_iff.2 (List.forall_mem_map.2 fun _ _ => Bool.false_ne_true)
    rw [violations, violations, List.filter_append, List.filter_append, dangling, chances, health]
    rfl

variable {change : Room → Room} {found : Finding → Bool} {broken : Violation → Bool}

theorem Erases.alike (erases : Erases change found broken) (r : Room) : (change r).Alike r :=
  ⟨erases.name r, erases.kind r, .of_eq (erases.connections r)⟩

theorem Erases.alike_floor (erases : Erases change found broken) (f : Floor) :
    (f.mapRooms change).Alike f := by
  refine ⟨rfl, ?_⟩
  rw [Floor.mapRooms, List.forall₂_map_left_iff, List.forall₂_same]
  exact fun r _ => erases.alike r

end Room

namespace Dungeon

section Erased

variable {d e : Dungeon} {change : Room → Room} {found : Finding → Bool} {broken : Violation → Bool}
  (erases : Room.Erases change found broken) (erased : e.floors = d.floors.map (Floor.mapRooms change))

include erases erased

theorem floors_alike_of_erased : List.Forall₂ Floor.Alike e.floors d.floors := by
  rw [erased, List.forall₂_map_left_iff, List.forall₂_same]
  exact fun f _ => erases.alike_floor f

theorem roomFindings_erased (here : Place) (r : Room) :
    (e.roomFindings here (change r)).filter found = (d.roomFindings here r).filter found := by
  have alike := floors_alike_of_erased erases erased
  have links : e.linkFindings here (change r) = d.linkFindings here r := by
    rw [linkFindings, linkFindings, erases.connections]
    exact List.filterMap_congr fun target _ =>
      linkFinding?_alike alike here (erases.alike r) target
  rw [roomFindings, roomFindings, List.filter_append, List.filter_append, links, erases.findings]

theorem findings_erased :
    e.inspect.findings.filter found = d.inspect.findings.filter found := by
  have alike := floors_alike_of_erased erases erased
  rw [inspect, inspect, List.filter_append, List.filter_append, List.filter_flatMap,
    List.filter_flatMap, duplicateFindings_alike alike, erased, List.zipIdx_map, List.flatMap_map]
  congr 1
  refine List.flatMap_congr fun p mem => ?_
  obtain ⟨f, i⟩ := p
  rw [Prod.map, floorFindings_alike alike (erases.alike_floor f), floorFindings]
  simp only [List.filter_append]
  congr 1
  rw [List.filter_flatMap, List.filter_flatMap, Floor.placedRooms, Floor.mapRooms, List.zipIdx_map,
    List.map_map, Floor.placedRooms, List.flatMap_map, List.flatMap_map]
  exact List.flatMap_congr fun q _ => roomFindings_erased erases erased ⟨i, q.2⟩ q.1

theorem violations_erased : e.violations = d.violations.filter broken := by
  have names := roomNames_alike (floors_alike_of_erased erases erased)
  rw [violations, violations, violationsAmong, violationsAmong, names, erased, List.flatMap_map,
    List.filter_flatMap]
  refine List.flatMap_congr fun f _ => ?_
  rw [Floor.mapRooms, List.flatMap_map, List.filter_flatMap]
  exact List.flatMap_congr fun r _ => erases.violations r d.roomNames f.name

end Erased

theorem inspect_bare (d : Dungeon) : d.bare.inspect = d.inspect := by
  have same := findings_erased (e := d.bare) Room.erases_bare rfl
  rw [List.filter_true, List.filter_true] at same
  exact congrArg Report.mk same

theorem firstViolation?_bare (d : Dungeon) : d.bare.firstViolation? = d.firstViolation? := by
  have same := violations_erased (e := d.bare) Room.erases_bare rfl
  rw [firstViolation?_eq_head?, firstViolation?_eq_head?, same, List.filter_true]

theorem findings_emptied (d : Dungeon) :
    (d.emptied.inspect.findings.filter fun f => !f.rule.isOnContents) =
      d.inspect.findings.filter fun f => !f.rule.isOnContents :=
  findings_erased (e := d.emptied) Room.erases_emptied rfl

theorem violations_emptied (d : Dungeon) :
    d.emptied.violations = d.violations.filter Violation.isDangling :=
  violations_erased (e := d.emptied) Room.erases_emptied rfl

theorem firstViolation?_emptied (d : Dungeon) :
    d.emptied.firstViolation? = d.violations.find? Violation.isDangling := by
  rw [firstViolation?_eq_head?, violations_emptied, List.head?_filter]

/-- Two dungeons of which the same is left when names, themes and levels of the dungeons, the floors
that rooms name, what sets off the traps, and behaviour and roles are erased give the same findings
and the same violation. Of which the same is left when traps and inhabitants are erased, they give
the same findings by all other rules, and if one stops for a connection that leads nowhere, the other
stops for the same one or for a trap or an inhabitant before it. -/
theorem inspect_erased (d e : Dungeon) :
    (d.bare = e.bare → d.inspect = e.inspect ∧ d.firstViolation? = e.firstViolation?) ∧
    (d.emptied = e.emptied →
      (d.inspect.findings.filter fun f => !f.rule.isOnContents) =
        (e.inspect.findings.filter fun f => !f.rule.isOnContents) ∧
      ∀ floor room target, d.firstViolation? = some (.danglingConnection floor room target) →
        e.firstViolation? = some (.danglingConnection floor room target) ∨
        (∃ r trap value, e.firstViolation? = some (.triggerChanceOutOfRange r trap value)) ∨
        ∃ r npc value, e.firstViolation? = some (.negativeHealth r npc value)) := by
  constructor
  · intro same
    constructor
    · rw [← d.inspect_bare, same, e.inspect_bare]
    · rw [← d.firstViolation?_bare, same, e.firstViolation?_bare]
  · intro same
    constructor
    · rw [← d.findings_emptied, same, e.findings_emptied]
    · intro floor room target stops
      have first : e.violations.find? Violation.isDangling =
          some (.danglingConnection floor room target) := by
        rw [← firstViolation?_emptied, ← same, firstViolation?_emptied]
        rw [firstViolation?_eq_head?] at stops
        obtain ⟨later, listed⟩ := List.head?_eq_some_iff.1 stops
        rw [listed, List.find?_cons, Violation.isDangling]
      rw [firstViolation?_eq_head?]
      cases listed : e.violations with
      | nil =>
        rw [listed] at first
        cases first
      | cons v later =>
        cases v with
        | danglingConnection f r t =>
          rw [listed, List.find?_cons, Violation.isDangling] at first
          exact .inl first
        | triggerChanceOutOfRange r trap value => exact .inr (.inl ⟨r, trap, value, rfl⟩)
        | negativeHealth r npc value => exact .inr (.inr ⟨r, npc, value, rfl⟩)

def guardedKeep (name floorId : String) (traps : List Trap) (npcs : List Npc) : Dungeon where
  name := name
  theme := name
  level := 3
  floors := [⟨"Ground", [⟨"Gate", .small, .puzzle, floorId, ["Hall"], traps, npcs⟩,
    ⟨"Hall", .large, .combat, floorId, ["Gate", "Nowhere"], [], []⟩]⟩]

theorem inspect_erased_guardedKeep :
    let keep := guardedKeep "Keep" "Ground" [⟨"Pit", .stepOn, false, 50⟩]
      [⟨"Rat", .aggressive, .enemy, 5⟩]
    let fort := guardedKeep "Fort" "Attic" [⟨"Pit", .openDoor, false, 50⟩]
      [⟨"Rat", .neutral, .merchant, 5⟩]
    let ruin := guardedKeep "Keep" "Ground" [⟨"Dart", .stepOn, true, 0⟩, ⟨"Pit", .stepOn, false, 101⟩]
      []
    let hall : Violation := .danglingConnection "Ground" "Hall" "Nowhere"
    (keep.bare = fort.bare ∧ keep.inspect = fort.inspect ∧
      keep.firstViolation? = fort.firstViolation?) ∧
    (keep.emptied = ruin.emptied ∧
      (keep.inspect.findings.filter fun f => !f.rule.isOnContents) =
        (ruin.inspect.findings.filter fun f => !f.rule.isOnContents)) ∧
    keep.firstViolation? = some hall ∧
      (ruin.firstViolation? = some hall ∨
        (∃ r trap value, ruin.firstViolation? = some (.triggerChanceOutOfRange r trap value)) ∨
        ∃ r npc value, ruin.firstViolation? = some (.negativeHealth r npc value)) := by
  intro keep fort ruin hall
  have stops : keep.firstViolation? = some hall := by decide
  obtain ⟨findings, violation⟩ := (inspect_erased keep fort).1 rfl
  obtain ⟨others, stopped⟩ := (inspect_erased keep ruin).2 rfl
  exact ⟨⟨rfl, findings, violation⟩, ⟨rfl, others⟩, stops, stopped _ _ _ stops⟩

end Dungeon

end DungeonForge
