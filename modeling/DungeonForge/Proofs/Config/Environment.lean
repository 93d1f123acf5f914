import DungeonForge.Config.Environment
import Mathlib

/-!
What the value of a variable stands for. Flags, integers and reals are spelled with letters, digits,
signs and points alone, so a value with any other character, such as a slash, stands for itself.
-/

namespace DungeonForge

namespace Text

theorem mem_lowerFrom {c : Char} (ascii : c.toNat < 0x80) (caseless : c.toLower = c)
    {cs : List Char} (mem : c ∈ cs) (before : List Char) : c ∈ lowerFrom before cs := by
  induction cs generalizing before with
  | nil => cases mem
  | cons d cs ih =>
    unfold lowerFrom
    obtain rfl | mem := List.mem_cons.1 mem
    · have sigma : c ≠ 'Σ' := by
        rintro rfl
        exact absurd ascii (by decide)
      have dotted : c ≠ 'İ' := by
        rintro rfl
        exact absurd ascii (by decide)
      have kept : lowerChar c = c := by rw [lowerChar, if_pos ascii, caseless]
      simp [sigma, dotted, kept]
    · exact List.mem_append_right _ (ih mem _)

end Text

namespace Config

def isSpelling (c : Char) : Bool :=
  c.isAlphanum || ['+', '-', '.'].contains c

/-- All of a text is spelled as flags, integers and reals are. -/
def Spells (cs : List Char) : Prop :=
  ∀ c ∈ cs, isSpelling c = true

theorem isSpelling_of_isDigit {c : Char} (digit : c.isDigit = true) : isSpelling c = true := by
  simp [isSpelling, Char.isAlphanum, digit]

theorem isSpelling_of_toLower {c : Char} (letter : c.toLower.isAlphanum = true) :
    isSpelling c = true := by
  by_cases upper : c.isUpper = true
  · simp [isSpelling, Char.isAlphanum, Char.isAlpha, upper]
  · rw [Char.toLower_eq_of_not_isUpper upper] at letter
    simp [isSpelling, letter]

theorem spells_of_digitsNumber? {cs : List Char} {n : Nat} (read : digitsNumber? cs = some n) :
    Spells cs := by
  unfold digitsNumber? at read
  split at read
  · cases read
  · next digits =>
    simp only [Bool.or_eq_true, not_or, Bool.not_eq_true, Bool.not_eq_false'] at digits
    exact fun c mem => isSpelling_of_isDigit (List.all_eq_true.1 digits.2 c mem)

theorem Spells.cons {c : Char} {cs : List Char} (first : isSpelling c = true) (rest : Spells cs) :
    Spells (c :: cs) :=
  List.forall_mem_cons.2 ⟨first, rest⟩

theorem Spells.append {a b : List Char} (front : Spells a) (back : Spells b) : Spells (a ++ b) :=
  List.forall_mem_append.2 ⟨front, back⟩

theorem spells_takeWhile_isDigit (cs : List Char) : Spells (cs.takeWhile Char.isDigit) :=
  fun _ mem => isSpelling_of_isDigit (List.mem_takeWhile_imp mem)

theorem spells_of_integerOfText? {s : String} {n : Int} (read : integerOfText? s = some n) :
    Spells s.toList := by
  unfold integerOfText? at read
  split at read
  · next cs text =>
    obtain ⟨m, signed, -⟩ := Option.bind_eq_some_iff.1 read
    obtain ⟨k, digits, -⟩ := Option.map_eq_some_iff.1 signed
    rw [text]
    exact .cons rfl (spells_of_digitsNumber? digits)
  · next cs text =>
    obtain ⟨m, signed, -⟩ := Option.bind_eq_some_iff.1 read
    obtain ⟨k, number, -⟩ := Option.map_eq_some_iff.1 signed
    obtain ⟨k, digits, -⟩ := Option.bind_eq_some_iff.1 number
    rw [text]
    exact .cons rfl (spells_of_digitsNumber? digits)
  · obtain ⟨m, signed, -⟩ := Option.bind_eq_some_iff.1 read
    obtain ⟨k, digits, -⟩ := Option.map_eq_some_iff.1 signed
    exact spells_of_digitsNumber? digits

theorem spells_of_exponentOfText? {cs : List Char} {e : Int}
    (read : exponentOfText? cs = some e) : Spells cs := by
  unfold exponentOfText? at read
  split at read
  · exact List.forall_mem_nil _
  · next c cs =>
    split at read
    · next mark =>
      have first : isSpelling c = true := by
        obtain rfl | rfl := mark <;> rfl
      refine .cons first ?_
      split at read
      · obtain ⟨k, digits, -⟩ := Option.map_eq_some_iff.1 read
        exact .cons rfl (spells_of_digitsNumber? digits)
      · obtain ⟨k, number, -⟩ := Option.map_eq_some_iff.1 read
        obtain ⟨k, digits, -⟩ := Option.bind_eq_some_iff.1 number
        exact .cons rfl (spells_of_digitsNumber? digits)
      · obtain ⟨k, digits, -⟩ := Option.map_eq_some_iff.1 read
        exact spells_of_digitsNumber? digits
    · cases read

theorem spells_of_word {cs : List Char} {word : String}
    (letters : word.toList.all Char.isAlphanum = true)
    (same : String.ofList (cs.map Char.toLower) = word) : Spells cs := by
  intro c mem
  refine isSpelling_of_toLower (List.all_eq_true.1 letters _ ?_)
  rw [← same, String.toList_ofList]
  exact List.mem_map_of_mem mem

theorem spells_of_magnitudeOfText? {negative : Bool} {cs : List Char} {x : Binary64}
    (read : magnitudeOfText? negative cs = some x) : Spells cs := by
  unfold magnitudeOfText? at read
  dsimp only at read
  split at read
  · next word =>
    obtain same | same := word
    · exact spells_of_word (by decide) same
    · exact spells_of_word (by decide) same
  · split at read
    · next same => exact spells_of_word (by decide) same
    · -- digits, then perhaps a point with more digits, then what is read as the exponent
      have parts : cs.takeWhile Char.isDigit ++ cs.dropWhile Char.isDigit = cs :=
        List.takeWhile_append_dropWhile
      rw [← parts]
      refine (spells_takeWhile_isDigit cs).append ?_
      split at read
      · next cs' point =>
        have parts' : cs'.takeWhile Char.isDigit ++ cs'.dropWhile Char.isDigit = cs' :=
          List.takeWhile_append_dropWhile
        rw [point, ← parts']
        refine .cons rfl ((spells_takeWhile_isDigit cs').append ?_)
        split at read
        · cases read
        · obtain ⟨e, exponent, -⟩ := Option.map_eq_some_iff.1 read
          exact spells_of_exponentOfText? exponent
      · split at read
        · cases read
        · obtain ⟨e, exponent, -⟩ := Option.map_eq_some_iff.1 read
          exact spells_of_exponentOfText? exponent

theorem spells_of_realOfText? {s : String} {x : Binary64} (read : realOfText? s = some x) :
    Spells s.toList := by
  unfold realOfText? at read
  split at read
  · next cs text =>
    rw [text]
    exact .cons rfl (spells_of_magnitudeOfText? read)
  · next cs text =>
    rw [text]
    exact .cons rfl (spells_of_magnitudeOfText? read)
  · exact spells_of_magnitudeOfText? read

/-- A text with a character such as a slash, a blank or an underscore stands for itself. -/
theorem scalarOfText_of_not_spells {s : String} {c : Char} (mem : c ∈ s.toList)
    (ascii : c.toNat < 0x80) (foreign : isSpelling c = false) : scalarOfText s = .text s := by
  have unread : ¬ Spells s.toList := fun spells => by
    rw [spells c mem] at foreign
    cases foreign
  have caseless : c.toLower = c := by
    refine Char.toLower_eq_of_not_isUpper fun upper => ?_
    simp [isSpelling, Char.isAlphanum, Char.isAlpha, upper] at foreign
  have kept : c ∈ (Text.lowercase s).toList := by
    rw [Text.lowercase, String.toList_ofList]
    exact Text.mem_lowerFrom ascii caseless mem []
  have word : ∀ word : String, word.toList.all isSpelling = true → Text.lowercase s ≠ word := by
    rintro word letters rfl
    rw [List.all_eq_true.1 letters c kept] at foreign
    cases foreign
  unfold scalarOfText
  rw [if_neg (word _ (by decide)), if_neg (word _ (by decide))]
  cases integer : integerOfText? s with
  | some n => exact absurd (spells_of_integerOfText? integer) unread
  | none =>
    cases real : realOfText? s with
    | some x => exact absurd (spells_of_realOfText? real) unread
    | none => rfl

theorem scalarOfText_ne_nothing (s : String) : scalarOfText s ≠ .nothing := by
  unfold scalarOfText
  split
  · nofun
  · split
    · nofun
    · split
      · nofun
      · split <;> nofun

end Config

end DungeonForge
