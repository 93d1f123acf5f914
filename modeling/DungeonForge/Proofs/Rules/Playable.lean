import DungeonForge.Proofs.Rules.Reach
import DungeonForge.Rules.Inspect
import Mathlib.Data.List.Nodup
import Mathlib.Logic.Relation
import Mathlib.Tactic.SplitIfs

/-!
What the design rules mean together. Each rule for itself speaks of first bearers, of places and of
a walk from one room; where no rule finds an error, names are distinct, so that a name is a room,
and connections are returned, so that what is reached from one room reaches it too. An inspection
without errors is then one of a playable dungeon, and a clean one of a playable and balanced one.
-/

namespace DungeonForge

def Finding.Free (s : Severity) (fs : List Finding) : Prop :=
  ∀ f ∈ fs, f.severity ≠ s

namespace Finding

variable {s : Severity}

theorem free_nil : Free s [] :=
  List.forall_mem_nil _

theorem free_append {fs gs : List Finding} : Free s (fs ++ gs) ↔ Free s fs ∧ Free s gs :=
  List.forall_mem_append

theorem free_flatMap {α : Type} {l : List α} {g : α → List Finding} :
    Free s (l.flatMap g) ↔ ∀ a ∈ l, Free s (g a) :=
  List.forall_mem_flatMap

theorem free_iff_of_severity {fs : List Finding} {level : Severity}
    (same : ∀ f ∈ fs, f.severity = level) : Free s fs ↔ (s = level → fs = []) := by
  constructor
  · rintro free rfl
    exact List.eq_nil_iff_forall_not_mem.2 fun f mem => free f mem (same f mem)
  · intro none_there f mem severity
    rw [none_there (severity.symm.trans (same f mem))] at mem
    cases mem

theorem free_if {c : Prop} [Decidable c] {f : Finding} (level : Severity)
    (same : f.severity = level) : Free s (if c then [f] else []) ↔ (s = level → ¬ c) := by
  by_cases h : c
  · simp [Free, h, same, eq_comm]
  · simp [Free, h]

theorem free_unless {c : Prop} [Decidable c] {f : Finding} (level : Severity)
    (same : f.severity = level) : Free s (if c then [] else [f]) ↔ (s = level → c) := by
  by_cases h : c
  · simp [Free, h]
  · simp [Free, h, same, eq_comm]

end Finding

open Finding

variable {s : Severity}

namespace Floor

theorem free_combatFindings (f : Floor) :
    Free s f.combatFindings ↔ (s = .warning → ∃ r ∈ f.rooms, r.kind = .combat) := by
  unfold combatFindings
  rw [free_unless .warning rfl]
  simp

theorem free_treasureFindings (f : Floor) :
    Free s f.treasureFindings ↔ (s = .warning → 2 ≤ f.rooms.length →
      3 * (f.rooms.countP fun r => r.kind = .treasure) ≤ f.rooms.length) := by
  simp only [treasureFindings]
  rw [free_if .warning rfl]
  refine imp_congr_right fun _ => ?_
  omega

end Floor

/-- What the rules demand of a room by itself, wherever it stands. -/
structure Room.Proper (r : Room) : Prop where
  chances : ∀ t ∈ r.traps, 0 ≤ t.triggerChance.toInt ∧ t.triggerChance.toInt ≤ 100
  puzzles : r.kind = .puzzle → ∀ t ∈ r.traps, t.disarmable = true
  shops : r.kind = .shop → r.size ≠ .large
  bosses : r.kind = .boss → r.size = .large
  health : ∀ n ∈ r.npcs, 0 ≤ n.health.toInt

namespace Room

theorem free_shopFindings (r : Room) :
    Free s r.shopFindings ↔ (s = .error → r.kind = .shop → r.size ≠ .large) := by
  unfold shopFindings
  rw [free_if .error rfl, not_and]

theorem free_bossFindings (r : Room) :
    Free s r.bossFindings ↔ (s = .error → r.kind = .boss → r.size = .large) ∧
      (s = .warning → r.kind = .boss → r.connections.length ≤ 1) := by
  unfold bossFindings
  by_cases boss : r.kind = .boss
  · rw [if_pos boss, free_append, free_unless .error rfl, free_if .warning rfl,
      Nat.not_lt]
    simp only [boss, forall_const]
  · rw [if_neg boss]
    simp [free_nil, boss]

theorem free_trapFindings (r : Room) (t : Trap) :
    Free s (r.trapFindings t) ↔
      (s = .error → 0 ≤ t.triggerChance.toInt ∧ t.triggerChance.toInt ≤ 100) ∧
      (s = .error → r.kind = .puzzle → t.disarmable = true) := by
  unfold trapFindings
  rw [free_append, free_if .error rfl, free_if .error rfl, not_or, Int.not_lt, Int.not_lt, not_and',
    Bool.not_eq_true', Bool.not_eq_false]

end Room

theorem Npc.free_healthFindings (n : Npc) :
    Free s n.healthFindings ↔ (s = .error → 0 ≤ n.health.toInt) := by
  unfold healthFindings
  rw [free_if .error rfl, Int.not_lt]

namespace Room

theorem free_ownFindings_error (r : Room) : Free .error r.ownFindings ↔ r.Proper := by
  simp only [ownFindings, free_append, free_flatMap, free_shopFindings, free_bossFindings,
    free_trapFindings, Npc.free_healthFindings, forall_const, reduceCtorEq, false_imp_iff, and_true]
  constructor
  · rintro ⟨⟨⟨shops, bosses⟩, traps⟩, health⟩
    exact ⟨fun t trap => (traps t trap).1, fun puzzle t trap => (traps t trap).2 puzzle, shops,
      bosses, health⟩
  · intro proper
    exact ⟨⟨⟨proper.shops, proper.bosses⟩,
      fun t trap => ⟨proper.chances t trap, fun puzzle => proper.puzzles puzzle t trap⟩⟩,
      proper.health⟩

theorem free_ownFindings_warning (r : Room) :
    Free .warning r.ownFindings ↔ (r.kind = .boss → r.connections.length ≤ 1) := by
  simp [ownFindings, free_append, free_flatMap, free_shopFindings, free_bossFindings,
    free_trapFindings, Npc.free_healthFindings]

end Room

theorem repeatedNames_eq_nil_iff {seen names : List String} :
    repeatedNames seen names = [] ↔ names.Nodup ∧ ∀ n ∈ names, n ∉ seen := by
  induction names generalizing seen with
  | nil => simp [repeatedNames]
  | cons n names ih =>
    rw [repeatedNames]
    by_cases known : n ∈ seen
    · simp [known]
    · have fresh : seen.contains n = false := by simpa using known
      rw [fresh, if_neg Bool.false_ne_true, ih, List.nodup_cons, List.forall_mem_cons]
      constructor
      · rintro ⟨distinct, others⟩
        exact ⟨⟨fun again => others n again List.mem_cons_self, distinct⟩, known,
          fun m mem old => others m mem (List.mem_cons_of_mem n old)⟩
      · rintro ⟨⟨once, distinct⟩, -, others⟩
        refine ⟨distinct, fun m mem old => ?_⟩
        rcases List.mem_cons.1 old with rfl | old
        · exact once mem
        · exact others m mem old

namespace Dungeon

theorem free_duplicateFindings (d : Dungeon) :
    Free s d.duplicateFindings ↔ (s = .error → d.roomNames.Nodup) := by
  have errors : ∀ f ∈ d.duplicateFindings, f.severity = .error :=
    List.forall_mem_map.2 fun _ _ => rfl
  rw [free_iff_of_severity errors, duplicateFindings, List.map_eq_nil_iff, repeatedNames_eq_nil_iff]
  simp

theorem isolatedFindings_eq_nil_iff {d : Dungeon} {f : Floor} :
    d.isolatedFindings f = [] ↔
      ∀ start ∈ f.rooms.head?, ∀ r ∈ f.rooms, d.Reached start r.name := by
  cases first : f.rooms.head? with
  | none => simp [isolatedFindings_of_empty (List.head?_eq_none_iff.1 first)]
  | some start => simp [isolatedFindings_of_head? first]

theorem rule_of_mem_isolatedFindings {d : Dungeon} {f : Floor} {g : Finding}
    (mem : g ∈ d.isolatedFindings f) : g.rule = .isolatedRoom := by
  cases first : f.rooms.head? with
  | none =>
    rw [isolatedFindings_of_empty (List.head?_eq_none_iff.1 first)] at mem
    cases mem
  | some start =>
    rw [isolatedFindings_of_head? first] at mem
    obtain ⟨name, -, rfl⟩ := List.mem_map.1 mem
    rfl

theorem free_isolatedFindings (d : Dungeon) (f : Floor) :
    Free s (d.isolatedFindings f) ↔
      (s = .error → ∀ start ∈ f.rooms.head?, ∀ r ∈ f.rooms, d.Reached start r.name) := by
  have severity : ∀ g ∈ d.isolatedFindings f, g.severity = .error := fun g mem =>
    congrArg Rule.severity (rule_of_mem_isolatedFindings mem)
  rw [free_iff_of_severity severity, isolatedFindings_eq_nil_iff]

theorem linkFinding?_eq_none_iff {d : Dungeon} {here : Place} {r : Room} {target : String} :
    d.linkFinding? here r target = none ↔
      ∃ b, d.bearer? target = some b ∧ b.1 ≠ here ∧ r.name ∈ b.2.connections := by
  unfold linkFinding?
  cases d.bearer? target with
  | none => simp
  | some b =>
    simp only [Room.connectsTo, List.contains_eq_mem, decide_eq_true_eq]
    split_ifs <;> simp_all

theorem severity_linkFinding? {d : Dungeon} {here : Place} {r : Room} {target : String}
    {f : Finding} (found : d.linkFinding? here r target = some f) : f.severity = .error := by
  unfold linkFinding? at found
  split at found
  · cases found
    rfl
  · split_ifs at found <;> cases found <;> rfl

theorem free_linkFindings (d : Dungeon) (here : Place) (r : Room) :
    Free s (d.linkFindings here r) ↔ (s = .error → ∀ target ∈ r.connections,
      ∃ b, d.bearer? target = some b ∧ b.1 ≠ here ∧ r.name ∈ b.2.connections) := by
  simp only [← linkFinding?_eq_none_iff]
  constructor
  · rintro free rfl target linked
    rw [Option.eq_none_iff_forall_ne_some]
    intro f found
    exact free f (List.mem_filterMap.2 ⟨target, linked, found⟩) (severity_linkFinding? found)
  · rintro quiet f mem rfl
    obtain ⟨target, linked, found⟩ := List.mem_filterMap.1 mem
    rw [quiet (severity_linkFinding? found) target linked] at found
    cases found

theorem free_inspect (d : Dungeon) :
    Free s d.inspect.findings ↔ Free s d.duplicateFindings ∧
      (∀ f ∈ d.floors, Free s f.combatFindings ∧ Free s f.treasureFindings ∧
        Free s (d.isolatedFindings f)) ∧
      (∀ a ∈ d.placedRooms, Free s (d.linkFindings a.1 a.2)) ∧
      ∀ r ∈ d.allRooms, Free s r.ownFindings := by
  have floors : ∀ p : Floor → Prop, (∀ a ∈ d.floors.zipIdx, p a.1) ↔ ∀ f ∈ d.floors, p f := by
    intro p
    conv_rhs => rw [← List.zipIdx_map_fst 0 d.floors, List.forall_mem_map]
  have placed : ∀ p : Place × Room → Prop, (∀ a ∈ d.placedRooms, p a) ↔
      ∀ a ∈ d.floors.zipIdx, ∀ b ∈ a.1.placedRooms a.2, p b :=
    fun p => List.forall_mem_flatMap
  rw [← d.map_snd_placedRooms, List.forall_mem_map, placed, placed, ← floors]
  simp only [inspect, floorFindings, roomFindings, free_append, free_flatMap]
  constructor
  · rintro ⟨duplicates, each⟩
    refine ⟨duplicates, fun a mem => ?_, fun a mem b inFloor => ((each a mem).2 b inFloor).1,
      fun a mem b inFloor => ((each a mem).2 b inFloor).2⟩
    obtain ⟨⟨⟨combat, treasure⟩, isolated⟩, -⟩ := each a mem
    exact ⟨combat, treasure, isolated⟩
  · rintro ⟨duplicates, layout, links, own⟩
    refine ⟨duplicates, fun a mem => ?_⟩
    obtain ⟨combat, treasure, isolated⟩ := layout a mem
    exact ⟨⟨⟨combat, treasure⟩, isolated⟩,
      fun b inFloor => ⟨links a mem b inFloor, own a mem b inFloor⟩⟩

theorem mem_placedRooms_iff {d : Dungeon} {a : Place × Room} :
    a ∈ d.placedRooms ↔ ∃ f, d.floors[a.1.floor]? = some f ∧ f.rooms[a.1.room]? = some a.2 := by
  obtain ⟨⟨i, j⟩, r⟩ := a
  simp only [placedRooms, Floor.placedRooms, List.mem_flatMap, List.mem_map, Prod.exists,
    List.mem_zipIdx_iff_getElem?, Prod.mk.injEq, Place.mk.injEq]
  constructor
  · rintro ⟨f, _, floor, _, _, room, ⟨rfl, rfl⟩, rfl⟩
    exact ⟨f, floor, room⟩
  · rintro ⟨f, floor, room⟩
    exact ⟨f, i, floor, r, j, room, ⟨rfl, rfl⟩, rfl⟩

theorem eq_of_place_eq {d : Dungeon} {a b : Place × Room} (ha : a ∈ d.placedRooms)
    (hb : b ∈ d.placedRooms) (same : a.1 = b.1) : a = b := by
  obtain ⟨f, floor, room⟩ := mem_placedRooms_iff.1 ha
  obtain ⟨g, floor', room'⟩ := mem_placedRooms_iff.1 hb
  rw [same, floor'] at floor
  cases floor
  rw [same, room'] at room
  exact Prod.ext same (Option.some.inj room).symm

theorem eq_of_name_eq {d : Dungeon} (distinct : d.roomNames.Nodup) {a b : Place × Room}
    (ha : a ∈ d.placedRooms) (hb : b ∈ d.placedRooms) (same : a.2.name = b.2.name) : a = b := by
  rw [roomNames, ← map_snd_placedRooms, List.map_map] at distinct
  exact List.inj_on_of_nodup_map distinct ha hb same

theorem bearer?_eq_some_iff {d : Dungeon} (distinct : d.roomNames.Nodup) {target : String}
    {b : Place × Room} :
    d.bearer? target = some b ↔ b ∈ d.placedRooms ∧ b.2.name = target := by
  constructor
  · intro found
    exact ⟨List.mem_of_find?_eq_some found, by simpa using List.find?_some found⟩
  · rintro ⟨mem, rfl⟩
    have some_found : (d.bearer? b.2.name).isSome :=
      List.find?_isSome.2 ⟨b, mem, beq_self_eq_true _⟩
    obtain ⟨c, found⟩ := Option.isSome_iff_exists.1 some_found
    have same : c.2.name = b.2.name := by simpa using List.find?_some found
    rw [found, eq_of_name_eq distinct (List.mem_of_find?_eq_some found) mem same]

/-- The second room bears the name of a connection of the first. -/
def Links (d : Dungeon) (a b : Place × Room) : Prop :=
  a ∈ d.placedRooms ∧ b ∈ d.placedRooms ∧ b.2.name ∈ a.2.connections

/-- Connections lead from the first room to the second, on whatever floors. -/
def Leads (d : Dungeon) : Place × Room → Place × Room → Prop :=
  Relation.ReflTransGen d.Links

def LinksReturned (d : Dungeon) : Prop :=
  ∀ a ∈ d.placedRooms, ∀ target ∈ a.2.connections,
    ∃ b ∈ d.placedRooms, b.2.name = target ∧ b.1 ≠ a.1 ∧ a.2.name ∈ b.2.connections

/-- What the rules demand whose breach is an error. -/
structure Playable (d : Dungeon) : Prop where
  names : d.roomNames.Nodup
  links : d.LinksReturned
  reach : ∀ a ∈ d.placedRooms, ∀ b ∈ d.placedRooms, a.1.floor = b.1.floor → d.Leads a b
  rooms : ∀ r ∈ d.allRooms, r.Proper

/-- What the rules demand whose breach only gives a warning. -/
structure Balanced (d : Dungeon) : Prop where
  combat : ∀ f ∈ d.floors, ∃ r ∈ f.rooms, r.kind = .combat
  bosses : ∀ r ∈ d.allRooms, r.kind = .boss → r.connections.length ≤ 1
  treasure : ∀ f ∈ d.floors, 2 ≤ f.rooms.length →
    3 * (f.rooms.countP fun r => r.kind = .treasure) ≤ f.rooms.length

theorem Links.symm {d : Dungeon} (distinct : d.roomNames.Nodup) (returned : d.LinksReturned)
    {a b : Place × Room} (link : d.Links a b) : d.Links b a := by
  obtain ⟨ha, hb, linked⟩ := link
  obtain ⟨c, hc, same, -, back⟩ := returned a ha b.2.name linked
  obtain rfl := eq_of_name_eq distinct hc hb same
  exact ⟨hb, ha, back⟩

theorem Leads.symm {d : Dungeon} (bothWays : ∀ a b, d.Links a b → d.Links b a)
    {a b : Place × Room} (leads : d.Leads a b) : d.Leads b a := by
  induction leads with
  | refl => exact .refl
  | tail _ link ih => exact .head (bothWays _ _ link) ih

theorem Reached.leads {d : Dungeon} (distinct : d.roomNames.Nodup) {a : Place × Room}
    (ha : a ∈ d.placedRooms) {name : String} (reached : d.Reached a.2 name) :
    ∀ b ∈ d.placedRooms, b.2.name = name → d.Leads a b := by
  induction reached with
  | own =>
    intro b hb same
    rw [eq_of_name_eq distinct hb ha same]
    exact .refl
  | link linked _ =>
    rintro b hb rfl
    exact .single ⟨ha, hb, linked⟩
  | onward _ _ first linked _ ih =>
    rintro b hb rfl
    rw [← map_snd_bearer?] at first
    obtain ⟨c, bearer, rfl⟩ := Option.map_eq_some_iff.1 first
    obtain ⟨hc, same⟩ := (bearer?_eq_some_iff distinct).1 bearer
    exact (ih c hc same).tail ⟨hc, hb, linked⟩

theorem Leads.reached {d : Dungeon} (distinct : d.roomNames.Nodup) {a b : Place × Room}
    (ha : a ∈ d.placedRooms) (leads : d.Leads a b) : d.Reached a.2 b.2.name := by
  induction leads with
  | refl => exact .own
  | @tail b c _ linked ih =>
    obtain ⟨hb, hc, target⟩ := linked
    have follows : d.Follows a.2 b.2.name b.2 := by
      by_cases same : b.2.name = a.2.name
      · exact .inl ⟨same, by rw [eq_of_name_eq distinct hb ha same]⟩
      · refine .inr ⟨same, ?_⟩
        rw [← map_snd_bearer?, (bearer?_eq_some_iff distinct).2 ⟨hb, rfl⟩, Option.map_some]
    have borne : c.2.name ∈ d.roomNames := by
      rw [roomNames, ← map_snd_placedRooms, List.map_map]
      exact List.mem_map_of_mem hc
    exact ih.follow follows target borne

theorem reached_from_head_iff {d : Dungeon} (distinct : d.roomNames.Nodup)
    (bothWays : ∀ a b, d.Links a b → d.Links b a) {rooms : List Room}
    (inside : ∀ r ∈ rooms, r ∈ d.allRooms) :
    (∀ start ∈ rooms.head?, ∀ r ∈ rooms, d.Reached start r.name) ↔
      ∀ r ∈ rooms, ∀ s ∈ rooms, d.Reached r s.name := by
  constructor
  · intro reached r hr s hs
    obtain ⟨start, others, rfl⟩ := List.exists_cons_of_ne_nil (List.ne_nil_of_mem hr)
    obtain ⟨i, placedStart⟩ := exists_placed_of_mem_allRooms (inside start List.mem_cons_self)
    obtain ⟨j, placedR⟩ := exists_placed_of_mem_allRooms (inside r hr)
    obtain ⟨k, placedS⟩ := exists_placed_of_mem_allRooms (inside s hs)
    have there := (reached start rfl r hr).leads distinct placedStart _ placedR rfl
    have on := (reached start rfl s hs).leads distinct placedStart _ placedS rfl
    have across : d.Leads (j, r) (k, s) := (there.symm bothWays).trans on
    exact across.reached distinct placedR
  · intro together start first r hr
    exact together start (List.mem_of_mem_head? first) r hr

/-- Where connections are returned, the walk from the first room of each floor decides whether its
rooms reach each other. -/
theorem reached_iff_leads {d : Dungeon} (distinct : d.roomNames.Nodup)
    (returned : d.LinksReturned) :
    (∀ f ∈ d.floors, ∀ start ∈ f.rooms.head?, ∀ r ∈ f.rooms, d.Reached start r.name) ↔
      ∀ a ∈ d.placedRooms, ∀ b ∈ d.placedRooms, a.1.floor = b.1.floor → d.Leads a b := by
  have each : ∀ f ∈ d.floors, (∀ start ∈ f.rooms.head?, ∀ r ∈ f.rooms, d.Reached start r.name) ↔
      ∀ r ∈ f.rooms, ∀ s ∈ f.rooms, d.Reached r s.name := fun f mem =>
    reached_from_head_iff distinct (fun _ _ link => link.symm distinct returned)
      fun r room => List.mem_flatMap.2 ⟨f, mem, room⟩
  constructor
  · intro reached a ha b hb level
    obtain ⟨f, floor, roomA⟩ := mem_placedRooms_iff.1 ha
    obtain ⟨g, floor', roomB⟩ := mem_placedRooms_iff.1 hb
    obtain rfl : f = g := by
      rw [level, floor'] at floor
      exact (Option.some.inj floor).symm
    have mem := List.mem_of_getElem? floor
    exact ((each f mem).1 (reached f mem) a.2 (List.mem_of_getElem? roomA) b.2
      (List.mem_of_getElem? roomB)).leads distinct ha b hb rfl
  · intro together f mem
    refine (each f mem).2 fun r roomR s roomS => ?_
    obtain ⟨i, floor⟩ := List.getElem?_of_mem mem
    obtain ⟨j, thereR⟩ := List.getElem?_of_mem roomR
    obtain ⟨k, thereS⟩ := List.getElem?_of_mem roomS
    have hr : (⟨i, j⟩, r) ∈ d.placedRooms := mem_placedRooms_iff.2 ⟨f, floor, thereR⟩
    have hs : (⟨i, k⟩, s) ∈ d.placedRooms := mem_placedRooms_iff.2 ⟨f, floor, thereS⟩
    exact (together _ hr _ hs rfl).reached distinct hr

theorem free_error_iff_playable (d : Dungeon) :
    Free .error d.inspect.findings ↔ d.Playable := by
  simp only [free_inspect, free_duplicateFindings, Floor.free_combatFindings,
    Floor.free_treasureFindings, free_isolatedFindings, free_linkFindings,
    Room.free_ownFindings_error, forall_const, reduceCtorEq, false_imp_iff, true_and]
  constructor
  · rintro ⟨distinct, reached, linked, rooms⟩
    have returned : d.LinksReturned := by
      intro a ha target listed
      obtain ⟨b, bearer, other, back⟩ := linked a ha target listed
      obtain ⟨hb, same⟩ := (bearer?_eq_some_iff distinct).1 bearer
      exact ⟨b, hb, same, other, back⟩
    exact ⟨distinct, returned, (reached_iff_leads distinct returned).1 reached, rooms⟩
  · intro playable
    refine ⟨playable.names,
      (reached_iff_leads playable.names playable.links).2 playable.reach, ?_, playable.rooms⟩
    intro a ha target listed
    obtain ⟨b, hb, same, other, back⟩ := playable.links a ha target listed
    exact ⟨b, (bearer?_eq_some_iff playable.names).2 ⟨hb, same⟩, other, back⟩

theorem free_warning_iff_balanced (d : Dungeon) :
    Free .warning d.inspect.findings ↔ d.Balanced := by
  simp only [free_inspect, free_duplicateFindings, Floor.free_combatFindings,
    Floor.free_treasureFindings, free_isolatedFindings, free_linkFindings,
    Room.free_ownFindings_warning, forall_const, reduceCtorEq, false_imp_iff, true_and, and_true,
    implies_true]
  constructor
  · rintro ⟨floors, bosses⟩
    exact ⟨fun f mem => (floors f mem).1, bosses, fun f mem => (floors f mem).2⟩
  · intro balanced
    exact ⟨fun f mem => ⟨balanced.combat f mem, balanced.treasure f mem⟩, balanced.bosses⟩

theorem hasErrors_eq_false_iff {r : Report} :
    r.hasErrors = false ↔ Free .error r.findings := by
  simp [Report.hasErrors, Report.errors, Report.withSeverity, Free]

theorem isClean_iff {r : Report} :
    r.isClean = true ↔ Free .error r.findings ∧ Free .warning r.findings := by
  rw [Report.isClean, List.isEmpty_iff]
  constructor
  · intro empty
    rw [empty]
    exact ⟨free_nil, free_nil⟩
  · rintro ⟨errors, warnings⟩
    refine List.eq_nil_iff_forall_not_mem.2 fun f mem => ?_
    cases severity : f.severity with
    | error => exact errors f mem severity
    | warning => exact warnings f mem severity

/-- An inspection finds no error exactly in a playable dungeon, and nothing at all exactly in one
that is balanced as well. -/
theorem inspect_clean_iff (d : Dungeon) :
    (d.inspect.hasErrors = false ↔ d.Playable) ∧
    (d.inspect.isClean = true ↔ d.Playable ∧ d.Balanced) := by
  rw [hasErrors_eq_false_iff, isClean_iff, free_error_iff_playable, free_warning_iff_balanced]
  exact ⟨Iff.rfl, Iff.rfl⟩

end Dungeon

end DungeonForge
