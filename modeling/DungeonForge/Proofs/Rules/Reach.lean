import DungeonForge.Rules.Reach
import Mathlib.Logic.Function.Iterate

/-!
The walk from a floor's first room reaches the least set of names that holds the room's own name
and is closed under the connections that lead to a room. The invariant of the walk says which names
still owe their connections: those whose room is in the queue. Every name that is reached puts one
room into the queue, so the walk takes as many rounds as it reaches names.
-/

namespace DungeonForge.Dungeon

/-- The names reached from a room: its own, those of its connections that some room bears, and the
same of the first bearer of every other name that is reached. -/
inductive Reached (d : Dungeon) (start : Room) : String → Prop
  | own : Reached d start start.name
  | link {target : String} : target ∈ start.connections → target ∈ d.roomNames →
      Reached d start target
  | onward {name target : String} {r : Room} : Reached d start name → name ≠ start.name →
      d.room? name = some r → target ∈ r.connections → target ∈ d.roomNames →
      Reached d start target

/-- The room whose connections are followed for a name. -/
def Follows (d : Dungeon) (start : Room) (name : String) (r : Room) : Prop :=
  name = start.name ∧ r = start ∨ name ≠ start.name ∧ d.room? name = some r

theorem Reached.follow {d : Dungeon} {start r : Room} {name target : String}
    (reached : d.Reached start name) (follows : d.Follows start name r)
    (linked : target ∈ r.connections) (borne : target ∈ d.roomNames) :
    d.Reached start target := by
  rcases follows with ⟨-, rfl⟩ | ⟨other, first⟩
  · exact .link linked borne
  · exact .onward reached other first linked borne

theorem Reached.mono {d e : Dungeon} {start start' : Room} (name : start'.name = start.name)
    (targets : ∀ t ∈ start.connections, t ∈ start'.connections)
    (borne : ∀ n ∈ d.roomNames, n ∈ e.roomNames)
    (bearers : ∀ n r, d.room? n = some r →
      ∃ s, e.room? n = some s ∧ ∀ t ∈ r.connections, t ∈ s.connections)
    {n : String} (reached : d.Reached start n) : e.Reached start' n := by
  induction reached with
  | own =>
    rw [← name]
    exact .own
  | link linked known => exact .link (targets _ linked) (borne _ known)
  | onward _ other first linked known ih =>
    obtain ⟨s, first', kept⟩ := bearers _ _ first
    exact .onward ih (by rwa [name]) first' (kept _ linked) (borne _ known)

def walkStep (d : Dungeon) : List String × List Room → List String × List Room
  | (reached, []) => (reached, [])
  | (reached, r :: queue) =>
    (reached ++ d.newNames reached r.connections,
      queue ++ (d.newNames reached r.connections).filterMap d.room?)

theorem walk_nil (d : Dungeon) (reached : List String) : d.walk reached [] = reached := by
  rw [walk]

theorem walk_cons (d : Dungeon) (reached : List String) (r : Room) (queue : List Room) :
    d.walk reached (r :: queue) =
      d.walk (d.walkStep (reached, r :: queue)).1 (d.walkStep (reached, r :: queue)).2 := by
  rw [walk]
  split
  · next none_new => simp only [walkStep, none_new, List.filterMap_nil, List.append_nil]
  · rfl

/-- Whatever a round carries back from the state after it holds of every state of a walk. -/
theorem walk_induction {d : Dungeon} {motive : List String → List Room → Prop}
    (nil : ∀ reached, motive reached [])
    (cons : ∀ reached r queue,
      motive (d.walkStep (reached, r :: queue)).1 (d.walkStep (reached, r :: queue)).2 →
        motive reached (r :: queue))
    (reached : List String) (queue : List Room) : motive reached queue := by
  induction reached, queue using walk.induct d with
  | case1 reached => exact nil reached
  | case2 reached r queue none_new ih =>
    refine cons reached r queue ?_
    simpa only [walkStep, none_new, List.filterMap_nil, List.append_nil] using ih
  | case3 reached r queue some_new ih => exact cons reached r queue ih

theorem length_filterMap_newNames (d : Dungeon) (reached targets : List String) :
    ((d.newNames reached targets).filterMap d.room?).length =
      (d.newNames reached targets).length := by
  rw [List.length_filterMap_eq_countP, List.countP_eq_length]
  exact fun name new => (mem_newNames.1 new).2.1

theorem iterate_walkStep (d : Dungeon) (reached : List String) (queue : List Room) :
    ∃ rounds, d.walkStep^[rounds] (reached, queue) = (d.walk reached queue, []) ∧
      rounds + reached.length = queue.length + (d.walk reached queue).length := by
  induction reached, queue using walk_induction (d := d) with
  | nil reached => exact ⟨0, by rw [walk_nil]; rfl, by simp [walk_nil]⟩
  | cons reached r queue ih =>
    obtain ⟨rounds, ends, count⟩ := ih
    rw [walk_cons]
    refine ⟨rounds + 1, ends, ?_⟩
    simp only [walkStep, List.length_append, length_filterMap_newNames] at count
    simp only [walkStep, List.length_cons]
    omega

/-- What holds of the names reached and the queue in every round of a walk. -/
structure Walked (d : Dungeon) (start : Room) (reached : List String) (queue : List Room) :
    Prop where
  own : start.name ∈ reached
  sound : ∀ name ∈ reached, d.Reached start name
  queued : ∀ r ∈ queue, ∃ name ∈ reached, d.Follows start name r
  settled : ∀ name ∈ reached, ∀ r, d.Follows start name r →
    r ∈ queue ∨ ∀ target ∈ r.connections, target ∈ d.roomNames → target ∈ reached

theorem walked_start (d : Dungeon) (start : Room) : d.Walked start [start.name] [start] where
  own := List.mem_singleton_self _
  sound name mem := by
    obtain rfl := List.mem_singleton.1 mem
    exact .own
  queued r mem := by
    obtain rfl := List.mem_singleton.1 mem
    exact ⟨r.name, List.mem_singleton_self _, .inl ⟨rfl, rfl⟩⟩
  settled name mem r follows := by
    obtain rfl := List.mem_singleton.1 mem
    rcases follows with ⟨-, rfl⟩ | ⟨other, -⟩
    · exact .inl (List.mem_singleton_self _)
    · exact absurd rfl other

theorem Walked.step {d : Dungeon} {start r : Room} {reached : List String} {queue : List Room}
    (h : d.Walked start reached (r :: queue)) :
    d.Walked start (d.walkStep (reached, r :: queue)).1 (d.walkStep (reached, r :: queue)).2 := by
  have other : ∀ name ∈ d.newNames reached r.connections, name ≠ start.name := by
    rintro name new rfl
    exact (mem_newNames.1 new).2.2 h.own
  constructor
  · exact List.mem_append_left _ h.own
  · intro name mem
    rcases List.mem_append.1 mem with old | new
    · exact h.sound name old
    · obtain ⟨linked, borne, -⟩ := mem_newNames.1 new
      obtain ⟨before, known, follows⟩ := h.queued r List.mem_cons_self
      exact (h.sound before known).follow follows linked (room?_isSome_iff.1 borne)
  · intro next mem
    rcases List.mem_append.1 mem with old | new
    · obtain ⟨name, known, follows⟩ := h.queued next (List.mem_cons_of_mem _ old)
      exact ⟨name, List.mem_append_left _ known, follows⟩
    · obtain ⟨name, fresh, first⟩ := List.mem_filterMap.1 new
      exact ⟨name, List.mem_append_right _ fresh, .inr ⟨other name fresh, first⟩⟩
  · intro name mem next follows
    rcases List.mem_append.1 mem with old | new
    · rcases h.settled name old next follows with queued | paid
      · rcases List.mem_cons.1 queued with rfl | waiting
        · -- the room of this round: each of its names was reached before or is new
          refine .inr fun target linked borne => ?_
          by_cases known : target ∈ reached
          · exact List.mem_append_left _ known
          · exact List.mem_append_right _
              (mem_newNames.2 ⟨linked, room?_isSome_iff.2 borne, known⟩)
        · exact .inl (List.mem_append_left _ waiting)
      · exact .inr fun target linked borne => List.mem_append_left _ (paid target linked borne)
    · rcases follows with ⟨same, -⟩ | ⟨-, first⟩
      · exact absurd same (other name new)
      · exact .inl (List.mem_append_right _ (List.mem_filterMap.2 ⟨name, new, first⟩))

theorem Walked.mem_iff {d : Dungeon} {start : Room} {reached : List String}
    (h : d.Walked start reached []) (name : String) : name ∈ reached ↔ d.Reached start name := by
  have paid : ∀ name ∈ reached, ∀ r, d.Follows start name r → ∀ target ∈ r.connections,
      target ∈ d.roomNames → target ∈ reached := by
    intro name known r follows
    exact (h.settled name known r follows).resolve_left List.not_mem_nil
  refine ⟨h.sound name, fun reach => ?_⟩
  induction reach with
  | own => exact h.own
  | link linked borne => exact paid _ h.own start (.inl ⟨rfl, rfl⟩) _ linked borne
  | onward _ other first linked borne known =>
    exact paid _ known _ (.inr ⟨other, first⟩) _ linked borne

theorem Walked.mem_walk_iff {d : Dungeon} {start : Room} {reached : List String}
    {queue : List Room} (h : d.Walked start reached queue) (name : String) :
    name ∈ d.walk reached queue ↔ d.Reached start name := by
  induction reached, queue using walk_induction (d := d) with
  | nil reached =>
    rw [walk_nil]
    exact h.mem_iff name
  | cons reached r queue ih =>
    rw [walk_cons]
    exact ih h.step

theorem mem_walk_iff {d : Dungeon} {start : Room} {name : String} :
    name ∈ d.walk [start.name] [start] ↔ d.Reached start name :=
  (d.walked_start start).mem_walk_iff name

instance (d : Dungeon) (start : Room) (name : String) : Decidable (d.Reached start name) :=
  decidable_of_iff _ mem_walk_iff

theorem isolatedFindings_of_head? {d : Dungeon} {f : Floor} {start : Room}
    (first : f.rooms.head? = some start) :
    d.isolatedFindings f =
      ((f.rooms.map Room.name).filter fun n => ¬ d.Reached start n).map .isolatedRoom := by
  unfold isolatedFindings
  split
  · next none_there =>
    rw [none_there] at first
    cases first
  · next only one_there =>
    rw [one_there] at first
    cases first
    simp [one_there, Reached.own]
  · next start' others _ rooms =>
    rw [rooms] at first
    cases first
    simp only [← mem_walk_iff, decide_not, List.filter_map, List.map_map, List.contains_eq_mem, rooms,
      Function.comp_def]

theorem isolatedFindings_of_empty {d : Dungeon} {f : Floor} (empty : f.rooms = []) :
    d.isolatedFindings f = [] := by
  rw [isolatedFindings, empty]

/-- A floor with fewer than two rooms has no isolated room. On any other floor the walk from the
first room ends, having followed one room for each name reached, and the rooms whose names are not
reached are reported in the order of the floor. -/
theorem isolatedFindings_eq_reached (d : Dungeon) (f : Floor) :
    (f.rooms.length < 2 → d.isolatedFindings f = []) ∧
    ∀ start others, f.rooms = start :: others → others ≠ [] →
      (∃ reached : List String,
        d.walkStep^[reached.length] ([start.name], [start]) = (reached, []) ∧
        ∀ name, name ∈ reached ↔ d.Reached start name) ∧
      d.isolatedFindings f =
        (f.rooms.filter fun r => ¬ d.Reached start r.name).map fun r => .isolatedRoom r.name := by
  constructor
  · intro short
    unfold isolatedFindings
    split
    · rfl
    · rfl
    · next tail filled rooms =>
      rw [rooms, List.length_cons] at short
      exact absurd (List.length_eq_zero_iff.1 (by omega)) filled
  · intro start others rooms more
    constructor
    · obtain ⟨rounds, ends, count⟩ := d.iterate_walkStep [start.name] [start]
      have same : rounds = (d.walk [start.name] [start]).length := by
        simp only [List.length_singleton] at count
        omega
      exact ⟨_, same ▸ ends, fun name => mem_walk_iff⟩
    · obtain ⟨second, rest, rfl⟩ := List.exists_cons_of_ne_nil more
      have unreached : (fun r : Room => !(d.walk [start.name] [start]).contains r.name) =
          fun r => decide (¬ d.Reached start r.name) := by
        funext r
        simp [mem_walk_iff]
      simp only [isolatedFindings, rooms]
      rw [unreached]

def upperGate : Room :=
  ⟨"Gate", .small, .combat, "Upper", ["Stairs", "Nowhere"], [], []⟩

def upperFloor : Floor :=
  ⟨"Upper", [upperGate, ⟨"Loft", .small, .combat, "Upper", [], [], []⟩,
    ⟨"Attic", .small, .combat, "Upper", ["Gate", "Attic"], [], []⟩]⟩

def crossedKeep : Dungeon where
  name := "Keep"
  theme := ""
  level := 1
  floors := [⟨"Lower", [⟨"Gate", .small, .combat, "Lower", ["Attic"], [], []⟩,
    ⟨"Stairs", .small, .combat, "Lower", ["Loft", "Gate"], [], []⟩]⟩, upperFloor]

theorem isolatedFindings_eq_reached_crossedKeep :
    crossedKeep.isolatedFindings ⟨"Cell", [upperGate]⟩ = [] ∧
    crossedKeep.isolatedFindings upperFloor =
      (upperFloor.rooms.filter fun r => ¬ crossedKeep.Reached upperGate r.name).map
        fun r => .isolatedRoom r.name :=
  ⟨(isolatedFindings_eq_reached crossedKeep ⟨"Cell", [upperGate]⟩).1 (by decide),
    ((isolatedFindings_eq_reached crossedKeep upperFloor).2 upperGate _ rfl (by decide)).2⟩

end DungeonForge.Dungeon
