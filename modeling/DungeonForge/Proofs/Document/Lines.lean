import DungeonForge.Proofs.Document.Indentation
import Mathlib.Algebra.GroupWithZero.Nat

/-!
The lines of a document. A compact document has no control characters and a pretty one has line
breaks only; each of its lines is set in by the brackets that are open where its first other
character stands. How many lines there are follows from the lengths of the lists in the tree.
-/

namespace DungeonForge

namespace Json

theorem Value.itemBreaks_eq_sum (vs : List Value) :
    Value.itemBreaks vs = (vs.map Value.breaks).sum := by
  induction vs with
  | nil => rfl
  | cons v vs ih => rw [Value.itemBreaks, ih, List.map_cons, List.sum_cons]

/-- A line of a text, behind what stands before it: a line break ends it. -/
structure IsLine (text before line : List Char) : Prop where
  text : ∃ after, text = before ++ (line ++ '\n' :: after)
  begins : before = [] ∨ before.getLast? = some '\n'
  whole : '\n' ∉ line

/-- The line consists of so many blanks for each level and of a text that begins with no blank. The
level is the number of brackets that are open where this text begins, less one if it begins with a
closing bracket. -/
def Indented (width : Nat) (before line : List Char) : Prop :=
  ∃ (level : Nat) (c : Char) (rest : List Char),
    line = List.replicate (width * level) ' ' ++ c :: rest ∧ c ≠ ' ' ∧
      (level : Int) = openBrackets (before ++ List.replicate (width * level) ' ') -
        if isClosing c then 1 else 0

theorem line_of_blanks {n : Nat} {c : Char} {line tail rest : List Char}
    (same : line ++ tail = List.replicate n ' ' ++ c :: rest) (ended : ∀ x ∈ tail.head?, x = '\n')
    (other : c ≠ '\n') : ∃ own, line = List.replicate n ' ' ++ c :: own := by
  induction n generalizing line with
  | zero =>
    cases line with
    | nil =>
      obtain rfl : tail = c :: rest := same
      exact absurd (ended c rfl) other
    | cons x line =>
      obtain ⟨rfl, -⟩ := List.cons.inj same
      exact ⟨line, rfl⟩
  | succ n ih =>
    cases line with
    | nil =>
      obtain rfl : tail = ' ' :: (List.replicate n ' ' ++ c :: rest) := same
      exact absurd (ended ' ' rfl) (by decide)
    | cons x line =>
      obtain ⟨rfl, behind⟩ := List.cons.inj same
      obtain ⟨own, rfl⟩ := ih behind
      exact ⟨own, rfl⟩

theorem openBrackets_blanks (before : List Char) (n : Nat) :
    openBrackets (before ++ List.replicate n ' ') = openBrackets before := by
  refine openBrackets_append_of_none before fun c mem => ?_
  obtain rfl := List.eq_of_mem_replicate mem
  decide

theorem Laid.indented {indent : UInt8} {a before line : List Char} {n : Nat}
    (text : Laid (.pretty indent) 0 a n) (begins : Begins a)
    (isLine : IsLine (a ++ ['\n']) before line) : Indented indent.toNat before line := by
  obtain ⟨⟨after, split⟩, first, -⟩ := isLine
  obtain ⟨tail, rfl, ended⟩ : ∃ tail, a = before ++ (line ++ tail) ∧
      ∀ x ∈ tail.head?, x = '\n' := by
    refine ⟨('\n' :: after).dropLast, ?_, ?_⟩
    · rw [← List.dropLast_append_of_ne_nil (by simp), ← List.dropLast_append_of_ne_nil (by simp),
        ← split, List.dropLast_concat]
    · cases after <;> simp
  have lines := (text.lineBreak begins).lines
  obtain ⟨front, same, brackets⟩ : ∃ front, '\n' :: before = front ++ ['\n'] ∧
      openBrackets front = openBrackets before := by
    rcases first with rfl | last
    · exact ⟨[], rfl, rfl⟩
    · obtain ⟨front, rfl⟩ := List.getLast?_eq_some_iff.1 last
      refine ⟨'\n' :: front, rfl, ?_⟩
      have newline : ∀ c ∈ ['\n'], isOpening c = false ∧ isClosing c = false :=
        List.forall_mem_singleton.2 (by decide)
      rw [openBrackets_cons (by decide), openBrackets_append_of_none front newline]
      exact Int.zero_add _
  have whole : (Layout.pretty indent).lineBreak 0 ++ (before ++ (line ++ tail)) =
      front ++ '\n' :: (line ++ tail) := by
    have opening : (Layout.pretty indent).lineBreak 0 = ['\n'] := rfl
    rw [opening, List.singleton_append, ← List.cons_append, same, List.append_assoc]
    rfl
  obtain ⟨level, c, rest, there, blank, newline, count⟩ := lines front (line ++ tail) whole
  obtain ⟨own, rfl⟩ := line_of_blanks there ended newline
  refine ⟨level, c, own, rfl, blank, ?_⟩
  rw [openBrackets_blanks, count, brackets]
  simp

end Json

/-- The line breaks that a room adds to a pretty document. -/
def Room.lineBreaks (r : Room) : Nat :=
  8 + Json.ownBreaks r.connections.length + Json.ownBreaks r.traps.length +
    Json.ownBreaks r.npcs.length + 5 * (r.traps.length + r.npcs.length)

def Floor.lineBreaks (f : Floor) : Nat :=
  3 + Json.ownBreaks f.rooms.length + (f.rooms.map Room.lineBreaks).sum

def Dungeon.lineBreaks (d : Dungeon) : Nat :=
  8 + Json.ownBreaks d.floors.length + (d.floors.map Floor.lineBreaks).sum

theorem Room.breaks_toJson (r : Room) : r.toJson.breaks = r.lineBreaks := by
  have traps : (r.traps.map fun t => t.toJson.breaks) = r.traps.map fun _ => 5 :=
    List.map_congr_left fun _ _ => rfl
  have npcs : (r.npcs.map fun n => n.toJson.breaks) = r.npcs.map fun _ => 5 :=
    List.map_congr_left fun _ _ => rfl
  simp only [toJson, Json.Value.breaks, Json.Value.memberBreaks, Json.Value.itemBreaks_eq_sum,
    List.map_map, Function.comp_def, traps, npcs, List.map_const', List.sum_replicate]
  simp [lineBreaks, Json.ownBreaks_succ]
  omega

theorem Floor.breaks_toJson (f : Floor) : f.toJson.breaks = f.lineBreaks := by
  have rooms : (f.rooms.map fun r => r.toJson.breaks) = f.rooms.map Room.lineBreaks :=
    List.map_congr_left fun r _ => r.breaks_toJson
  simp only [toJson, Json.Value.breaks, Json.Value.memberBreaks, Json.Value.itemBreaks_eq_sum,
    List.map_map, Function.comp_def, rooms]
  simp [lineBreaks, Json.ownBreaks_succ]
  omega

namespace Dungeon

theorem breaks_documentValue (d : Dungeon) : d.documentValue.breaks + 1 = d.lineBreaks := by
  have floors : (d.floors.map fun f => f.toJson.breaks) = d.floors.map Floor.lineBreaks :=
    List.map_congr_left fun f _ => f.breaks_toJson
  simp only [documentValue, toJson, Json.Value.breaks, Json.Value.memberBreaks,
    Json.Value.itemBreaks_eq_sum, List.map_map, Function.comp_def, floors]
  simp [lineBreaks, Json.ownBreaks_succ]
  omega

/-- A dungeon without a violation has a document in both layouts. The compact one has no control
characters. The pretty one has line breaks only and ends with one; each of its lines is set in by as
many blanks for each bracket that is open, and the shape of the tree alone decides how many lines
there are. -/
theorem document?_lines (d : Dungeon) (valid : d.firstViolation? = none) :
    (∃ text, d.document? .compact = .ok text ∧ ∀ c ∈ text.toList, 0x20 ≤ c.toNat) ∧
    ∀ indent : UInt8, ∃ text, d.document? (.pretty indent) = .ok text ∧
      (∀ c ∈ text.toList, c.toNat < 0x20 → c = '\n') ∧
      text.toList.getLast? = some '\n' ∧
      (∀ before line, Json.IsLine text.toList before line →
        Json.Indented indent.toNat before line) ∧
      text.toList.count '\n' = d.lineBreaks := by
  constructor
  · refine ⟨_, document?_eq_ok_iff.2 ⟨valid, rfl⟩, ?_⟩
    rw [String.toList_ofList]
    have laid := d.documentValue.laid_write .compact 0
    intro c mem
    have unbroken : '\n' ∉ d.documentValue.write .compact 0 := List.count_eq_zero.1 laid.count
    refine Nat.not_lt.1 fun control => unbroken ?_
    rw [← laid.chars c mem control]
    exact mem
  · intro indent
    refine ⟨_, document?_eq_ok_iff.2 ⟨valid, rfl⟩, ?_⟩
    rw [String.toList_ofList]
    have laid := d.documentValue.laid_write (.pretty indent) 0
    have begins := d.documentValue.begins_write (.pretty indent) 0
    refine ⟨?_, List.getLast?_concat, fun before line isLine => laid.indented begins isLine, ?_⟩
    · exact List.forall_mem_append.2
        ⟨laid.chars, List.forall_mem_singleton.2 fun _ => rfl⟩
    · rw [render, List.count_append, laid.count, ← d.breaks_documentValue]
      rfl

theorem document?_lines_escapedKeep :
    escapedKeep.firstViolation? = none ∧ escapedKeep.lineBreaks = 60 ∧
      ∃ text, escapedKeep.document? (.pretty 3) = .ok text ∧
        (∀ before line, Json.IsLine text.toList before line → Json.Indented 3 before line) ∧
        text.toList.count '\n' = 60 := by
  have valid : escapedKeep.firstViolation? = none := by decide
  have breaks : escapedKeep.lineBreaks = 60 := by decide
  obtain ⟨text, written, -, -, lines, count⟩ := (document?_lines escapedKeep valid).2 3
  exact ⟨valid, breaks, text, written, lines, count.trans breaks⟩

end Dungeon

end DungeonForge
