import DungeonForge.Json.Reader

/-!
Numerals are read back digit by digit. What is read of a number so far is again the numeral of a
number, so one induction on the digits serves coefficients and exponents alike.
-/

namespace DungeonForge.Json.Numeral

open Decimal (digits digitValue?)

def run (n : Numeral) (cs : List Char) : Option Numeral :=
  cs.foldlM step n

theorem run_cons (n : Numeral) (c : Char) (cs : List Char) :
    n.run (c :: cs) = (n.step c).bind fun m => m.run cs :=
  List.foldlM_cons

theorem run_append (n : Numeral) (a b : List Char) :
    n.run (a ++ b) = (n.run a).bind fun m => m.run b :=
  List.foldlM_append

theorem digitValue?_digitChar : ∀ d < 10, digitValue? (Nat.digitChar d) = some d := by
  decide

/-- If a digit more makes `f (10 * k + d)` of `f k`, then the digits of `n` lead to `f n`. -/
theorem run_digits {f : Nat → Numeral}
    (more : ∀ k d, 0 < k → d < 10 → (f k).step (Nat.digitChar d) = some (f (10 * k + d)))
    (n : Nat) :
    ∃ c cs v, digits n = c :: cs ∧ digitValue? c = some v ∧ (f v).run cs = some (f n) := by
  induction n using Nat.strongRecOn with
  | ind n ih =>
    by_cases small : n < 10
    · exact ⟨_, [], n, Nat.toDigits_of_lt_base small, digitValue?_digitChar n small, rfl⟩
    · -- the last digit comes behind those of n / 10
      obtain ⟨c, cs, v, front, first, rest⟩ := ih (n / 10) (by omega)
      have last : digits n = digits (n / 10) ++ [Nat.digitChar (n % 10)] :=
        Nat.toDigits_of_base_le (by omega) (by omega)
      have step := more (n / 10) (n % 10) (by omega) (by omega)
      rw [Nat.div_add_mod] at step
      refine ⟨c, cs ++ [Nat.digitChar (n % 10)], v, ?_, first, ?_⟩
      · rw [last, front, List.cons_append]
      · rw [run_append, rest, Option.bind_some, run_cons, step]
        rfl

theorem ofDigit_step (negative : Bool) (k d : Nat) (hk : 0 < k) (hd : d < 10) :
    (ofDigit negative k).step (Nat.digitChar d) = some (ofDigit negative (10 * k + d)) := by
  have hk' : k ≠ 0 := by omega
  have sum : 10 * k + d ≠ 0 := by omega
  simp only [ofDigit, hk', sum, if_false, step, digitValue?_digitChar d hd]

def withExponent (n : Numeral) (k : Nat) : Numeral :=
  { n with mode := .exponent, exponent := k }

theorem withExponent_step (n : Numeral) (k d : Nat) (hd : d < 10) :
    (n.withExponent k).step (Nat.digitChar d) = some (n.withExponent (10 * k + d)) := by
  simp only [withExponent, step, digitValue?_digitChar d hd, Option.map_some]

theorem ofDigit_step_mark (negative : Bool) (k : Nat) :
    (ofDigit negative k).step 'e' = some { ofDigit negative k with mode := .exponentMark } := by
  by_cases hk : k = 0
  · simp only [ofDigit, hk, if_true, step]
    rfl
  · simp only [ofDigit, hk, if_false, step]
    rfl

theorem run_exponentDigits {n : Numeral}
    (start : ∀ c v, digitValue? c = some v → n.step c = some (n.withExponent v)) (k : Nat) :
    n.run (digits k) = some (n.withExponent k) := by
  obtain ⟨c, cs, v, front, first, rest⟩ :=
    run_digits (f := n.withExponent) (fun k d _ hd => n.withExponent_step k d hd) k
  rw [front, run_cons, start c v first]
  exact rest

theorem digitValue?_sign : digitValue? '+' = none ∧ digitValue? '-' = none := by
  decide

theorem run_exponent {n : Numeral} (mark : n.mode = .exponentMark)
    (positive : n.exponentNegative = false) (e : Int) :
    n.run (integerText e) =
      some { n with
        mode := .exponent
        exponentNegative := decide (e < 0)
        exponent := e.natAbs } := by
  cases e with
  | ofNat k =>
    have start : ∀ c v, digitValue? c = some v → n.step c = some (n.withExponent v) := by
      intro c v value
      have plus : c ≠ '+' := by
        rintro rfl
        simp [digitValue?_sign.1] at value
      have minus : c ≠ '-' := by
        rintro rfl
        simp [digitValue?_sign.2] at value
      simp only [step, mark, plus, minus, if_false, value, Option.map_some, withExponent]
    rw [integerText, run_exponentDigits start]
    simp [withExponent, positive]
  | negSucc k =>
    let m : Numeral := { n with mode := .exponentSign, exponentNegative := true }
    have sign : n.step '-' = some m := by
      simp only [step, mark]
      rfl
    have start : ∀ c v, digitValue? c = some v → m.step c = some (m.withExponent v) := by
      intro c v value
      simp only [m, step, value, Option.map_some, withExponent]
    rw [integerText, run_cons, sign, Option.bind_some, run_exponentDigits start]
    simp [withExponent, m]

end DungeonForge.Json.Numeral
