import DungeonForge.Json.Literal
import Mathlib.Data.List.Forall2
import Mathlib.Tactic.SplitIfs

/-!
Literals are delimited by themselves. `Denotes` lists the ways in which a character may stand inside
a literal, and each of them is read back without closing it. `Canonical` is the one way that is
written; it is among them, so a text is read back from the escapes of its characters.
-/

namespace DungeonForge.Json.Literal

def advance (p : Pending) (c : Char) : Option Pending :=
  match step p c with
  | some (.more q) => some q
  | _ => none

def run (p : Pending) (cs : List Char) : Option Pending :=
  cs.foldlM advance p

theorem run_append (p : Pending) (a b : List Char) :
    run p (a ++ b) = (run p a).bind fun q => run q b :=
  List.foldlM_append

theorem step_of_advance {p q : Pending} {c : Char} (more : advance p c = some q) :
    step p c = some (.more q) := by
  unfold advance at more
  split at more
  · next stepped =>
    cases more
    exact stepped
  · cases more

theorem run_of_advance {p q : Pending} {c : Char} (more : advance p c = some q) (cs : List Char) :
    run p (c :: cs) = run q cs := by
  rw [run, List.foldlM_cons, more]
  rfl

def hexNumber? (n : Nat) (ds : List Char) : Option Nat :=
  ds.foldlM (fun n d => (Decimal.hexValue? d).map fun v => 16 * n + v) n

theorem hexNumber?_nil (n : Nat) : hexNumber? n [] = some n := rfl

theorem hexNumber?_append (n : Nat) (a b : List Char) :
    hexNumber? n (a ++ b) = (hexNumber? n a).bind fun m => hexNumber? m b :=
  List.foldlM_append

theorem hexNumber?_cons (n : Nat) (d : Char) (ds : List Char) :
    hexNumber? n (d :: ds) = (Decimal.hexValue? d).bind fun v => hexNumber? (16 * n + v) ds := by
  rw [hexNumber?, List.foldlM_cons]
  cases Decimal.hexValue? d <;> rfl

structure HexUnit (ds : List Char) (n : Nat) : Prop where
  length : ds.length = 4
  number : hexNumber? 0 ds = some n

/-- The ways in which a character may stand inside a literal: by itself, behind a backslash as a
letter that stands for it, or as its number in one or two units. -/
inductive Denotes (c : Char) : List Char → Prop
  | verbatim (quote : c ≠ '"') (backslash : c ≠ '\\') (visible : 0x20 ≤ c.toNat) : Denotes c [c]
  | letter {l : Char} (stands : shortEscape? l = some c) : Denotes c ['\\', l]
  | unit {ds : List Char} (digits : HexUnit ds c.toNat) : Denotes c ('\\' :: 'u' :: ds)
  | pair {hi lo : List Char} {h l : Nat} (first : HexUnit hi h) (high : isHighUnit h = true)
      (second : HexUnit lo l) (low : isLowUnit l = true)
      (number : c.toNat = 0x10000 + (h - 0xd800) * 0x400 + (l - 0xdc00)) :
      Denotes c ('\\' :: 'u' :: (hi ++ '\\' :: 'u' :: lo))

theorem closeUnit_of_single (r : List Char) (c : Char) :
    closeUnit r none c.toNat = some ⟨c :: r, .plain⟩ := by
  have valid : c.toNat < 0xd800 ∨ 0xdfff < c.toNat ∧ c.toNat < 0x110000 := c.valid
  have high : isHighUnit c.toNat = false := by
    simp only [isHighUnit, Bool.and_eq_false_iff, decide_eq_false_iff_not]
    omega
  have low : isLowUnit c.toNat = false := by
    simp only [isLowUnit, Bool.and_eq_false_iff, decide_eq_false_iff_not]
    omega
  simp [closeUnit, high, low]

theorem run_digits (r : List Char) (high : Option Nat) {k n v : Nat} {ds : List Char}
    (length : k + ds.length = 4) (begun : ds ≠ []) (number : hexNumber? n ds = some v) :
    run ⟨r, .unit high k n⟩ ds = closeUnit r high v := by
  induction ds generalizing k n with
  | nil => exact absurd rfl begun
  | cons d ds ih =>
    rw [hexNumber?_cons] at number
    obtain ⟨h, value, rest⟩ := Option.bind_eq_some_iff.1 number
    cases ds with
    | nil =>
      obtain rfl : k = 3 := by simpa using length
      cases rest
      rw [run, List.foldlM_cons]
      cases closed : closeUnit r high (16 * n + h) <;> simp [advance, step, value, closed]
    | cons e ds =>
      have few : k + 1 < 4 := by
        simp only [List.length_cons] at length
        omega
      have more : advance ⟨r, .unit high k n⟩ d = some ⟨r, .unit high (k + 1) (16 * n + h)⟩ := by
        simp [advance, step, value, few]
      rw [run_of_advance more]
      exact ih (by simp only [List.length_cons] at length ⊢; omega) (List.cons_ne_nil e ds) rest

theorem HexUnit.run {ds : List Char} {n : Nat} (digits : HexUnit ds n) (r : List Char)
    (high : Option Nat) : run ⟨r, .unit high 0 0⟩ ds = closeUnit r high n := by
  refine run_digits r high (by rw [Nat.zero_add, digits.length]) ?_ digits.number
  rintro rfl
  exact absurd digits.length (by decide)

theorem Denotes.run {c : Char} {piece : List Char} (denotes : Denotes c piece) (r : List Char) :
    run ⟨r, .plain⟩ piece = some ⟨c :: r, .plain⟩ := by
  have marked (ds : List Char) :
      Literal.run ⟨r, .plain⟩ ('\\' :: 'u' :: ds) = Literal.run ⟨r, .unit none 0 0⟩ ds := rfl
  cases denotes with
  | verbatim quote backslash visible =>
    have shown : ¬ c.toNat < 0x20 := Nat.not_lt.2 visible
    simp [Literal.run, advance, step, quote, backslash, shown]
  | @letter l stands =>
    have other : l ≠ 'u' := by
      rintro rfl
      cases stands
    simp [Literal.run, advance, step, other, stands]
  | unit digits => rw [marked, digits.run, closeUnit_of_single]
  | @pair hi lo h l first high second low number =>
    have opened : closeUnit r none h = some ⟨r, .secondBackslash h⟩ := by simp [closeUnit, high]
    have next (ds : List Char) : Literal.run ⟨r, .secondBackslash h⟩ ('\\' :: 'u' :: ds) =
        Literal.run ⟨r, .unit (some h) 0 0⟩ ds := rfl
    rw [marked, run_append, first.run, opened, Option.bind_some, next, second.run]
    simp only [closeUnit, low, if_true, ← number, Char.ofNat_toNat]

/-- Pieces that denote the characters of a text are read as that text. -/
theorem run_pieces {cs : List Char} {pieces : List (List Char)}
    (denoted : List.Forall₂ Denotes cs pieces) (r : List Char) :
    run ⟨r, .plain⟩ pieces.flatten = some ⟨cs.reverse ++ r, .plain⟩ := by
  induction denoted generalizing r with
  | nil => rfl
  | @cons c piece cs pieces denotes _ ih =>
    rw [List.flatten_cons, run_append, denotes.run, Option.bind_some, ih, List.reverse_cons,
      List.append_assoc, List.singleton_append]

def letters : List (Char × Char) :=
  [('"', '"'), ('\\', '\\'), ('\x08', 'b'), ('\t', 't'), ('\n', 'n'), ('\x0c', 'f'), ('\r', 'r')]

theorem shortEscape?_eq_some_iff {l c : Char} :
    shortEscape? l = some c ↔ l = '/' ∧ c = '/' ∨ (c, l) ∈ letters := by
  constructor
  · intro stands
    unfold shortEscape? at stands
    split at stands <;> cases stands <;> decide
  · rintro (⟨rfl, rfl⟩ | listed)
    · rfl
    · have stands : ∀ e ∈ letters, shortEscape? e.2 = some e.1 := by decide
      exact stands (c, l) listed

def lowerDigits : List Char :=
  ['0', '1', '2', '3', '4', '5', '6', '7', '8', '9', 'a', 'b', 'c', 'd', 'e', 'f']

/-- The one way in which a character is written: by itself unless it is a quote, a backslash or a
control character, by its letter if it has one, and else as two zeros and two digits. -/
inductive Canonical (c : Char) : List Char → Prop
  | verbatim (quote : c ≠ '"') (backslash : c ≠ '\\') (visible : 0x20 ≤ c.toNat) : Canonical c [c]
  | letter {l : Char} (listed : (c, l) ∈ letters) : Canonical c ['\\', l]
  | unit {high low : Char} (control : c.toNat < 0x20) (unlisted : ∀ l, (c, l) ∉ letters)
      (first : lowerDigits[c.toNat / 16]? = some high)
      (second : lowerDigits[c.toNat % 16]? = some low) :
      Canonical c ['\\', 'u', '0', '0', high, low]

theorem lowerDigits_hexDigit : ∀ n < 16, lowerDigits[n]? = some (hexDigit n) := by
  decide

theorem hexValue?_of_lowerDigits {n : Nat} {d : Char} (digit : lowerDigits[n]? = some d) :
    Decimal.hexValue? d = some n := by
  have value : ∀ n < 16, lowerDigits[n]?.bind Decimal.hexValue? = some n := by decide
  obtain ⟨bound, -⟩ := List.getElem?_eq_some_iff.1 digit
  rw [← value n bound, digit]
  rfl

theorem canonical_escape (c : Char) : Canonical c (escape c) := by
  unfold escape
  split_ifs with h₁ h₂ h₃ h₄ h₅ h₆ h₇ control
  case pos => subst h₁; exact .letter (by decide)
  case pos => subst h₂; exact .letter (by decide)
  case pos => subst h₃; exact .letter (by decide)
  case pos => subst h₄; exact .letter (by decide)
  case pos => subst h₅; exact .letter (by decide)
  case pos => subst h₆; exact .letter (by decide)
  case pos => subst h₇; exact .letter (by decide)
  case pos =>
    refine .unit control ?_ (lowerDigits_hexDigit _ (by omega)) (lowerDigits_hexDigit _ (by omega))
    simp [letters, h₁, h₂, h₃, h₄, h₅, h₆, h₇]
  case neg => exact .verbatim h₁ h₂ (Nat.not_lt.1 control)

theorem Canonical.denotes {c : Char} {piece : List Char} (canonical : Canonical c piece) :
    Denotes c piece := by
  cases canonical with
  | verbatim quote backslash visible => exact .verbatim quote backslash visible
  | letter listed => exact .letter (shortEscape?_eq_some_iff.2 (.inr listed))
  | unit control _ first second =>
    have zero : Decimal.hexValue? '0' = some 0 := by decide
    refine .unit ⟨rfl, ?_⟩
    simp only [hexNumber?_cons, hexNumber?_nil, zero, hexValue?_of_lowerDigits first,
      hexValue?_of_lowerDigits second, Option.bind_some, Option.some.injEq]
    omega

theorem forall₂_canonical_escape (cs : List Char) :
    List.Forall₂ Canonical cs (cs.map escape) :=
  List.forall₂_map_right_iff.2 (List.forall₂_same.2 fun c _ => canonical_escape c)

theorem escaped_eq_flatten (cs : List Char) : escaped cs = (cs.map escape).flatten :=
  List.flatMap_def

theorem run_escaped (r cs : List Char) :
    run ⟨r, .plain⟩ (escaped cs) = some ⟨cs.reverse ++ r, .plain⟩ := by
  rw [escaped_eq_flatten]
  exact run_pieces ((forall₂_canonical_escape cs).imp fun _ _ canonical => canonical.denotes) r

end DungeonForge.Json.Literal
