import DungeonForge.Proofs.Document.Squeeze
import Mathlib.Algebra.BigOperators.Group.List.Basic
import Mathlib.Algebra.Ring.Int.Defs

/-!
The brackets of a text, outside its string literals. A piece that is written closes the brackets
that it opens and none besides, so pieces can be put together, and a container has its own bracket
open from its first character up to its last.
-/

namespace DungeonForge

namespace Json

def isOpening (c : Char) : Bool :=
  c = '[' || c = '\x7b'

def isClosing (c : Char) : Bool :=
  c = ']' || c = '\x7d'

def bracketStep (m : Region × Char) : Int :=
  if m.1 = .outside then
    if isOpening m.2 then 1 else if isClosing m.2 then -1 else 0
  else 0

/-- The number of brackets that a text leaves open outside its string literals. -/
def openBrackets (text : List Char) : Int :=
  ((Region.outside.marked text).map bracketStep).sum

theorem isOpening_cases {c : Char} (opens : isOpening c = true) : c = '[' ∨ c = '\x7b' := by
  simpa [isOpening] using opens

theorem isClosing_cases {c : Char} (closes : isClosing c = true) : c = ']' ∨ c = '\x7d' := by
  simpa [isClosing] using closes

theorem bracketStep_opening {c : Char} (opens : isOpening c = true) :
    bracketStep (.outside, c) = 1 := by
  rcases isOpening_cases opens with rfl | rfl <;> rfl

theorem bracketStep_closing {c : Char} (closes : isClosing c = true) :
    bracketStep (.outside, c) = -1 := by
  rcases isClosing_cases closes with rfl | rfl <;> rfl

theorem visible_of_bracket {c : Char} (bracket : isOpening c = true ∨ isClosing c = true) :
    0x20 ≤ c.toNat ∧ c ≠ '"' ∧ c ≠ ' ' ∧ c ≠ '\n' := by
  rcases bracket with opens | closes
  · rcases isOpening_cases opens with rfl | rfl <;> decide
  · rcases isClosing_cases closes with rfl | rfl <;> decide

theorem openBrackets_append {a : List Char} (ends : Region.outside.after a = .outside)
    (b : List Char) : openBrackets (a ++ b) = openBrackets a + openBrackets b := by
  rw [openBrackets, Region.marked_append, ends, List.map_append, List.sum_append]
  rfl

theorem openBrackets_cons {c : Char} (other : c ≠ '"') (text : List Char) :
    openBrackets (c :: text) = bracketStep (.outside, c) + openBrackets text := by
  have next : Region.outside.next c = .outside := by simp [Region.next, other]
  rw [openBrackets, Region.marked, next, List.map_cons, List.sum_cons]
  rfl

theorem bracketStep_of_mem_marked {r : Region} {text : List Char}
    (none_there : ∀ c ∈ text, isOpening c = false ∧ isClosing c = false) :
    ∀ m ∈ r.marked text, bracketStep m = 0 := by
  intro m mem
  have there : m.2 ∈ text := by
    rw [← r.map_snd_marked text]
    exact List.mem_map_of_mem mem
  obtain ⟨opening, closing⟩ := none_there m.2 there
  simp [bracketStep, opening, closing]

theorem openBrackets_append_of_none (a : List Char) {b : List Char}
    (none_there : ∀ c ∈ b, isOpening c = false ∧ isClosing c = false) :
    openBrackets (a ++ b) = openBrackets a := by
  have rest : (((Region.outside.after a).marked b).map bracketStep).sum = 0 :=
    List.sum_eq_zero (List.forall_mem_map.2 (bracketStep_of_mem_marked none_there))
  rw [openBrackets, Region.marked_append, List.map_append, List.sum_append, rest, Int.add_zero]
  rfl

theorem openBrackets_of_flat {text : List Char}
    (flat : ∀ m ∈ Region.outside.marked text, bracketStep m = 0) : openBrackets text = 0 :=
  List.sum_eq_zero (List.forall_mem_map.2 flat)

/-- A text that leaves no literal and no bracket open and closes none that it has not opened. -/
structure Bracketed (a : List Char) : Prop where
  ends : Region.outside.after a = .outside
  even : openBrackets a = 0
  above : ∀ before after, a = before ++ after → 0 ≤ openBrackets before

namespace Bracketed

variable {a b : List Char}

theorem of_flat (ends : Region.outside.after a = .outside)
    (flat : ∀ m ∈ Region.outside.marked a, bracketStep m = 0) : Bracketed a where
  ends := ends
  even := openBrackets_of_flat flat
  above before after same := by
    rw [same, Region.marked_append] at flat
    exact Int.le_of_eq (openBrackets_of_flat fun m mem => flat m (List.mem_append_left _ mem)).symm

theorem append (front : Bracketed a) (back : Bracketed b) : Bracketed (a ++ b) where
  ends := by rw [Region.after_append, front.ends, back.ends]
  even := by rw [openBrackets_append front.ends, front.even, back.even, Int.add_zero]
  above before after same := by
    rcases List.append_eq_append_iff.1 same with ⟨u, rfl, rest⟩ | ⟨u, rest, -⟩
    · rw [openBrackets_append front.ends, front.even, Int.zero_add]
      exact back.above u after rest
    · exact front.above before u rest

theorem of_plain (plain : ∀ c ∈ a, c ≠ '"' ∧ isOpening c = false ∧ isClosing c = false) :
    Bracketed a := by
  apply of_flat
  · induction a with
    | nil => rfl
    | cons c a ih =>
      obtain ⟨⟨quote, -⟩, rest⟩ := List.forall_mem_cons.1 plain
      have next : Region.outside.next c = .outside := by simp [Region.next, quote]
      have after : Region.outside.after a = .outside := ih rest
      rw [Region.after, List.foldl_cons, next]
      exact after
  · exact bracketStep_of_mem_marked fun c mem => (plain c mem).2

theorem literal (cs : List Char) : Bracketed (Literal.write cs) := by
  obtain ⟨ends, within⟩ := marked_escaped cs
  have opening : Region.outside.next '"' = .inside := rfl
  have closing : Region.inside.marked ['"'] = [(.inside, '"')] := rfl
  apply of_flat (Squeezes.literal cs).ends
  rw [Literal.write, Region.marked, opening, Region.marked_append, ends, closing,
    List.forall_mem_cons, List.forall_mem_append, List.forall_mem_singleton]
  refine ⟨rfl, fun m mem => ?_, rfl⟩
  simp [bracketStep, within m mem]

theorem openBrackets_enclosed (inside : Bracketed a) {opening closing : Char}
    (opens : isOpening opening = true) {before after : List Char}
    (same : opening :: (a ++ [closing]) = before ++ after) (begun : before ≠ [])
    (unfinished : after ≠ []) : 0 < openBrackets before := by
  obtain ⟨c, u, rfl⟩ := List.exists_cons_of_ne_nil begun
  obtain ⟨rfl, rest⟩ := List.cons.inj same
  obtain ⟨-, quote, -⟩ := visible_of_bracket (.inl opens)
  rw [openBrackets_cons quote, bracketStep_opening opens]
  have nonneg : 0 ≤ openBrackets u := by
    rcases List.append_eq_append_iff.1 rest with ⟨v, rfl, last⟩ | ⟨v, rfl, -⟩
    · -- what is left is the closing bracket alone
      obtain rfl : v = [] := by
        rcases List.append_eq_singleton_iff.1 last.symm with ⟨none, -⟩ | ⟨-, none⟩
        · exact none
        · exact absurd none unfinished
      rw [List.append_nil]
      exact Int.le_of_eq inside.even.symm
    · exact inside.above u v rfl
  omega

theorem enclose (inside : Bracketed a) {opening closing : Char}
    (opens : isOpening opening = true) (closes : isClosing closing = true) :
    Bracketed (opening :: (a ++ [closing])) := by
  obtain ⟨-, first, -⟩ := visible_of_bracket (.inl opens)
  obtain ⟨-, last, -⟩ := visible_of_bracket (.inr closes)
  have even : openBrackets (opening :: (a ++ [closing])) = 0 := by
    rw [openBrackets_cons first, bracketStep_opening opens, openBrackets_append inside.ends,
      inside.even, openBrackets_cons last, bracketStep_closing closes]
    rfl
  refine ⟨?_, even, fun before after same => ?_⟩
  · have opened : Region.outside.after [opening] = .outside := by
      simp [Region.after, Region.next, first]
    have closed : Region.outside.after [closing] = .outside := by
      simp [Region.after, Region.next, last]
    have split : opening :: (a ++ [closing]) = [opening] ++ (a ++ [closing]) := rfl
    rw [split, Region.after_append, Region.after_append, opened, inside.ends, closed]
  · by_cases begun : before = []
    · rw [begun]
      exact Int.le_refl 0
    · by_cases unfinished : after = []
      · rw [unfinished, List.append_nil] at same
        exact Int.le_of_eq (same ▸ even).symm
      · exact Int.le_of_lt (inside.openBrackets_enclosed opens same begun unfinished)

end Bracketed

end Json

end DungeonForge
