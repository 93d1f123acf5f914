import DungeonForge.Dungeon.Basic
import DungeonForge.Rules.Finding

/-!
Which rooms are reached from a floor's first room. The walk keeps the names that it has reached and
the rooms whose connections it has not followed yet; a name leads on to its first bearer, on any
floor, and is followed once. It ends because every round either reaches a name that a room of the
dungeon bears and that was not reached before, or shortens the queue.
-/

namespace DungeonForge

namespace Dungeon

/-- The names among `targets` that some room bears and that are not reached yet, each once. -/
def newNames (d : Dungeon) (reached targets : List String) : List String :=
  targets.foldl (fun new n =>
    if (d.room? n).isSome && !reached.contains n && !new.contains n then new ++ [n] else new) []

def unreached (d : Dungeon) (reached : List String) : List String :=
  d.roomNames.filter fun n => !reached.contains n

theorem mem_newNames {d : Dungeon} {reached targets : List String} {n : String} :
    n ∈ d.newNames reached targets ↔
      n ∈ targets ∧ (d.room? n).isSome ∧ n ∉ reached := by
  suffices h : ∀ new : List String, (∀ m ∈ new, (d.room? m).isSome ∧ m ∉ reached) →
      (n ∈ targets.foldl (fun new n =>
        if (d.room? n).isSome && !reached.contains n && !new.contains n then new ++ [n]
        else new) new ↔ n ∈ new ∨ n ∈ targets ∧ (d.room? n).isSome ∧ n ∉ reached) by
    simpa [newNames] using h [] (by simp)
  induction targets with
  | nil => simp
  | cons t ts ih =>
    intro new hnew
    rw [List.foldl_cons]
    split
    · rename_i h
      simp only [Bool.and_eq_true, Bool.not_eq_true', List.contains_eq_mem,
        decide_eq_false_iff_not] at h
      rw [ih]
      · grind
      · grind
    · rename_i h
      rw [ih new hnew]
      simp only [Bool.and_eq_true, Bool.not_eq_true', List.contains_eq_mem,
        decide_eq_false_iff_not] at h
      grind

theorem room?_isSome_iff {d : Dungeon} {n : String} :
    (d.room? n).isSome ↔ n ∈ d.roomNames := by
  simp [room?, roomNames]

theorem length_unreached_lt {d : Dungeon} {reached new : List String} {n : String}
    (hn : n ∈ new) (hb : n ∈ d.roomNames) (hr : n ∉ reached) :
    (d.unreached (reached ++ new)).length < (d.unreached reached).length := by
  have h : d.unreached (reached ++ new) =
      (d.unreached reached).filter fun m => !new.contains m := by
    simp only [unreached, List.filter_filter]
    congr 1
    funext m
    simp [Bool.and_comm]
  rw [h]
  refine List.length_filter_lt_length_iff_exists.2 ⟨n, ?_, ?_⟩
  · simp [unreached, hb, hr]
  · simp [hn]

/-- The names reached, from those reached so far and the rooms still to be followed. -/
def walk (d : Dungeon) (reached : List String) : List Room → List String
  | [] => reached
  | r :: queue =>
    if _h : d.newNames reached r.connections = [] then d.walk reached queue
    else
      d.walk (reached ++ d.newNames reached r.connections)
        (queue ++ (d.newNames reached r.connections).filterMap d.room?)
termination_by queue => ((d.unreached reached).length, queue.length)
decreasing_by
  · exact Prod.Lex.right _ (by simp)
  · obtain ⟨n, hn⟩ := List.exists_mem_of_ne_nil _ _h
    have hm := mem_newNames.1 hn
    exact Prod.Lex.left _ _ (length_unreached_lt hn (room?_isSome_iff.1 hm.2.1) hm.2.2)

/-- The rooms of a floor of two rooms or more that are not reached from its first room. -/
def isolatedFindings (d : Dungeon) (f : Floor) : List Finding :=
  match f.rooms with
  | [] | [_] => []
  | start :: _ =>
    let reached := d.walk [start.name] [start]
    (f.rooms.filter fun r => !reached.contains r.name).map fun r => .isolatedRoom r.name

end Dungeon

end DungeonForge
