import DungeonForge.Json.Layout
import DungeonForge.Proofs.Json.Literal
import DungeonForge.Proofs.Json.Numeral

/-!
Every value is read back from its text, in either layout and at any depth. The induction is over
the value that is written. Its invariant speaks of the open containers: after the text of a value
the reader cannot be told apart from one that has put the value into the innermost container, as
long as the text goes on with white space, a comma or a closing bracket. Only numerals need this
care, since nothing marks their end.
-/

namespace DungeonForge.Json

open Decimal (digits digitValue?)

namespace State

def Separates (c : Char) : Prop :=
  isSpace c = true ∨ c = ',' ∨ c = ']' ∨ c = '\x7d'

/-- No text that ends here or goes on with a separator tells the two states apart. -/
structure Settles (s t : State) : Prop where
  result : s.result? = t.result?
  step : ∀ c, Separates c → s.step c = t.step c

theorem Settles.refl (s : State) : Settles s s :=
  ⟨rfl, fun _ _ => rfl⟩

theorem Settles.run {s t : State} (h : Settles s t) {c : Char} (sep : Separates c)
    (cs : List Char) : s.run (c :: cs) = t.run (c :: cs) := by
  simp only [State.run, h.step c sep]

theorem separates_cases {c : Char} (h : Separates c) :
    c = ' ' ∨ c = '\n' ∨ c = '\t' ∨ c = '\r' ∨ c = ',' ∨ c = ']' ∨ c = '\x7d' := by
  simpa [Separates, isSpace, or_assoc] using h

end State

theorem Numeral.step_separator {n : Numeral} {v : Value} (ended : n.value? = some v) {c : Char}
    (sep : State.Separates c) : n.step c = none := by
  have facts : digitValue? c = none ∧ c ≠ '.' ∧ isExponentMark c = false := by
    rcases State.separates_cases sep with rfl | rfl | rfl | rfl | rfl | rfl | rfl <;> decide
  obtain ⟨noDigit, noPoint, noMark⟩ := facts
  cases mode : n.mode <;> simp [step, value?, mode, noDigit, noPoint, noMark] at ended ⊢

namespace State

theorem place_cases {fs : List Frame} {v : Value} {t : State} (h : place fs v = some t) :
    (fs = [] ∧ t = ⟨[], .done v⟩) ∨ t.mode = .commaOrClose ∧ fs ≠ [] := by
  unfold place at h
  split at h <;> cases h <;> simp

theorem settles_numeral {fs : List Frame} {n : Numeral} {v : Value} {t : State}
    (ended : n.value? = some v) (placed : place fs v = some t) :
    Settles ⟨fs, .numeral n⟩ t := by
  constructor
  · rcases place_cases placed with ⟨rfl, rfl⟩ | ⟨mode, filled⟩
    · simpa [result?] using ended
    · obtain ⟨f, rest, rfl⟩ := List.exists_cons_of_ne_nil filled
      simp [result?, mode]
  · intro c sep
    have after : State.step ⟨fs, .numeral n⟩ c = t.stepAfter c := by
      simp [step, Numeral.step_separator ended sep, ended, placed]
    rw [after]
    rcases place_cases placed with ⟨rfl, rfl⟩ | ⟨mode, -⟩
    · rfl
    · simp [step, mode]

theorem run_inside {σ : Type} (fs : List Frame) (inside : σ → Mode) {next : σ → Char → Option σ}
    (follows : ∀ p q c, next p c = some q →
      State.step ⟨fs, inside p⟩ c = some ⟨fs, inside q⟩)
    {p q : σ} {cs : List Char} (h : cs.foldlM next p = some q) :
    State.run ⟨fs, inside p⟩ cs = some ⟨fs, inside q⟩ := by
  induction cs generalizing p with
  | nil =>
    cases h
    rfl
  | cons c cs ih =>
    rw [List.foldlM_cons] at h
    obtain ⟨m, first, rest⟩ := Option.bind_eq_some_iff.1 h
    simp only [State.run, follows p m c first]
    exact ih rest

theorem run_numeral {fs : List Frame} {n m : Numeral} {cs : List Char} (h : n.run cs = some m) :
    State.run ⟨fs, .numeral n⟩ cs = some ⟨fs, .numeral m⟩ :=
  run_inside fs .numeral (fun p q c more => by simp only [step, more]) h

theorem step_value_digit (fs : List Frame) {c : Char} {v : Nat} (h : digitValue? c = some v) :
    State.step ⟨fs, .value⟩ c = some ⟨fs, .numeral (.ofDigit false v)⟩ := by
  have space : isSpace c = false := by
    refine Bool.eq_false_iff.2 fun blank => ?_
    rcases separates_cases (.inl blank) with rfl | rfl | rfl | rfl | rfl | rfl | rfl <;>
      simp [digitValue?] at h
  simp only [step, space, openValue, Bool.false_eq_true, if_false]
  split <;> first | (simp [digitValue?] at h; done) | simp [h]

theorem run_coefficient (fs : List Frame) (negative : Bool) (k : Nat) :
    State.run ⟨fs, .value⟩ ((if negative then ['-'] else []) ++ digits k) =
      some ⟨fs, .numeral (.ofDigit negative k)⟩ := by
  obtain ⟨c, cs, v, front, first, rest⟩ :=
    Numeral.run_digits (Numeral.ofDigit_step negative) k
  rw [front]
  cases negative with
  | false =>
    simp only [Bool.false_eq_true, if_false, List.nil_append, State.run, step_value_digit fs first]
    exact run_numeral rest
  | true =>
    have sign : State.step ⟨fs, .value⟩ '-' = some ⟨fs, .numeral .signed⟩ := rfl
    have digit : Numeral.signed.step c = some (.ofDigit true v) := by
      simp only [Numeral.step, Numeral.signed, first, Option.map_some]
    have whole : Numeral.signed.run (c :: cs) = some (.ofDigit true k) := by
      rw [Numeral.run_cons, digit]
      exact rest
    simp only [if_true, List.cons_append, List.nil_append, State.run, sign]
    exact run_numeral whole

theorem run_integer (fs : List Frame) (n : Int) {t : State}
    (placed : place fs (.integer n) = some t) :
    ∃ s, State.run ⟨fs, .value⟩ (integerText n) = some s ∧ Settles s t := by
  have text : integerText n = (if decide (n < 0) then ['-'] else []) ++ digits n.natAbs := by
    cases n <;> simp [integerText]
  rw [text, run_coefficient]
  refine ⟨_, rfl, settles_numeral ?_ placed⟩
  by_cases zero : n.natAbs = 0
  · obtain rfl := Int.natAbs_eq_zero.1 zero
    rfl
  · simp only [Numeral.value?, Numeral.ofDigit, zero, if_false, decide_eq_true_eq]
    congr 2
    split <;> omega

theorem run_decimal (fs : List Frame) (d : Decimal) {t : State}
    (placed : place fs (.decimal d) = some t) :
    ∃ s, State.run ⟨fs, .value⟩ (decimalText d) = some s ∧ Settles s t := by
  have mark := Numeral.ofDigit_step_mark d.negative d.coefficient
  have tail : (Numeral.ofDigit d.negative d.coefficient).run ('e' :: integerText d.exponent) =
      some { Numeral.ofDigit d.negative d.coefficient with
        mode := .exponent, exponentNegative := decide (d.exponent < 0),
        exponent := d.exponent.natAbs } := by
    rw [Numeral.run_cons, mark]
    exact Numeral.run_exponent rfl rfl d.exponent
  rw [decimalText, run_append, run_coefficient, Option.bind_some, run_numeral tail]
  refine ⟨_, rfl, settles_numeral ?_ placed⟩
  have exponent : (if decide (d.exponent < 0) then -(d.exponent.natAbs : Int)
      else d.exponent.natAbs) = d.exponent := by
    simp only [decide_eq_true_eq]
    split <;> omega
  simp only [Numeral.value?, Numeral.ofDigit, exponent, Int.natCast_zero, Int.sub_zero]

theorem run_string (fs : List Frame) (text : String) :
    State.run ⟨fs, .value⟩ (Literal.write text.toList) = place fs (.string text) := by
  have opening : State.step ⟨fs, .value⟩ '"' = some ⟨fs, .literal Literal.opened⟩ := rfl
  have body := run_inside fs .literal
    (fun p q c more => by simp only [step, Literal.step_of_advance more])
    (Literal.run_escaped [] text.toList)
  have closing : State.step ⟨fs, .literal ⟨text.toList.reverse ++ [], .plain⟩⟩ '"' =
      place fs (.string text) := by
    simp [step, Literal.step]
  simp only [Literal.write, State.run, opening]
  rw [run_append, Literal.opened, body, Option.bind_some, State.run, closing]
  cases place fs (.string text) <;> rfl

theorem run_key (done : List (String × Value)) (fs : List Frame) (key : String)
    (rest : List Char) :
    State.run ⟨.members done :: fs, .key⟩ (Literal.write key.toList ++ rest) =
      State.run ⟨.member done key :: fs, .colon⟩ rest := by
  have opening : State.step ⟨.members done :: fs, .key⟩ '"' =
      some ⟨.members done :: fs, .keyLiteral Literal.opened⟩ := rfl
  have body := run_inside (.members done :: fs) .keyLiteral
    (fun p q c more => by simp only [step, Literal.step_of_advance more])
    (Literal.run_escaped [] key.toList)
  have closing : State.step ⟨.members done :: fs, .keyLiteral ⟨key.toList.reverse ++ [], .plain⟩⟩
      '"' = some ⟨.member done key :: fs, .colon⟩ := by
    simp [step, Literal.step, nameMember]
  simp only [Literal.write, List.cons_append, List.append_assoc, State.run, opening]
  rw [run_append, Literal.opened, body, Option.bind_some]
  simp only [List.nil_append, State.run, closing]

theorem run_lineBreak {s : State} (skips : ∀ c, isSpace c = true → s.step c = some s)
    (l : Layout) (depth : Nat) (rest : List Char) :
    s.run (l.lineBreak depth ++ rest) = s.run rest := by
  have spaces : ∀ n, s.run (List.replicate n ' ' ++ rest) = s.run rest := by
    intro n
    induction n with
    | zero => rfl
    | succ n ih =>
      simp only [List.replicate_succ, List.cons_append, State.run, skips ' ' rfl]
      exact ih
  cases l with
  | compact => rfl
  | pretty indent =>
    simp only [Layout.lineBreak, List.cons_append, State.run, skips '\n' rfl]
    exact spaces _

theorem run_colon (fs : List Frame) (l : Layout) (rest : List Char) :
    State.run ⟨fs, .colon⟩ (l.colon ++ rest) = State.run ⟨fs, .value⟩ rest := by
  cases l <;> rfl

theorem Settles.run_close {s t : State} (h : Settles s t) (mode : t.mode = .commaOrClose)
    {c : Char} (sep : Separates c) (l : Layout) (depth : Nat) (rest : List Char) :
    s.run (l.lineBreak depth ++ c :: rest) = t.run (c :: rest) := by
  have skips : ∀ c, isSpace c = true → t.step c = some t := by
    intro c blank
    obtain ⟨fs, m⟩ := t
    obtain rfl : m = .commaOrClose := mode
    simp only [State.step, stepAfter, blank, if_true]
  rw [← run_lineBreak skips l depth (c :: rest)]
  cases l with
  | compact => exact h.run sep rest
  | pretty indent => exact h.run (.inl rfl) _

theorem run_itemOrClose {fs : List Frame} {text : List Char} {s : State}
    (h : State.run ⟨fs, .value⟩ text = some s) (begun : s.step ',' ≠ none) :
    State.run ⟨fs, .itemOrClose⟩ text = some s := by
  induction text with
  | nil =>
    cases h
    exact absurd rfl begun
  | cons c cs ih =>
    by_cases blank : isSpace c = true
    · simp only [State.run, step, blank, if_true] at h ⊢
      exact ih h
    · have other : c ≠ ']' := by
        rintro rfl
        cases h
      simp only [State.run, step, blank, other, if_false] at h ⊢
      exact h

theorem run_word {fs : List Frame} {v : Value} {t : State} (placed : place fs v = some t)
    (r : Char) (rs : List Char) : State.run ⟨fs, .word (r :: rs) v⟩ (r :: rs) = some t := by
  induction rs generalizing r with
  | nil => simp only [State.run, step, if_true, placed]
  | cons c rs ih =>
    simp only [State.run, step, if_true] at ih ⊢
    exact ih c

theorem place_items (done : List Value) (fs : List Frame) (v : Value) :
    place (.items done :: fs) v = some ⟨.items (v :: done) :: fs, .commaOrClose⟩ := rfl

theorem place_member (done : List (String × Value)) (key : String) (fs : List Frame) (v : Value) :
    place (.member done key :: fs) v =
      some ⟨.members ((key, v) :: done) :: fs, .commaOrClose⟩ := rfl

end State

open State

mutual

/-- Reading the text of a value puts the value into the innermost container. -/
theorem Value.run_write (l : Layout) (depth : Nat) (fs : List Frame) (v : Value) (t : State)
    (placed : place fs v = some t) :
    ∃ s, State.run ⟨fs, .value⟩ (v.write l depth) = some s ∧ Settles s t := by
  match v with
  | .null => exact ⟨t, run_word placed 'u' ['l', 'l'], .refl t⟩
  | .boolean true => exact ⟨t, run_word placed 'r' ['u', 'e'], .refl t⟩
  | .boolean false => exact ⟨t, run_word placed 'a' ['l', 's', 'e'], .refl t⟩
  | .integer n =>
    rw [Value.write]
    exact run_integer fs n placed
  | .decimal d =>
    rw [Value.write]
    exact run_decimal fs d placed
  | .string text =>
    rw [Value.write, run_string, placed]
    exact ⟨t, rfl, .refl t⟩
  | .array [] =>
    refine ⟨t, ?_, .refl t⟩
    have close : State.step ⟨.items [] :: fs, .itemOrClose⟩ ']' = place fs (.array []) := rfl
    have opening : State.step ⟨fs, .value⟩ '[' = some ⟨.items [] :: fs, .itemOrClose⟩ := rfl
    simp only [Value.write, State.run, opening, close, placed]
  | .array (v :: vs) =>
    obtain ⟨s₁, read₁, settled₁⟩ :=
      Value.run_write l (depth + 1) (.items [] :: fs) v _ (place_items [] fs v)
    obtain ⟨s₂, read₂, settled₂⟩ := Value.run_writeItems l (depth + 1) fs vs [v] s₁ settled₁
    have begun : s₁.step ',' ≠ none := by
      rw [settled₁.step ',' (.inr (.inl rfl))]
      simp [State.step, stepAfter, isSpace, afterValue]
    have opening : State.step ⟨fs, .value⟩ '[' = some ⟨.items [] :: fs, .itemOrClose⟩ := rfl
    have close : State.step ⟨.items (vs.reverse ++ [v]) :: fs, .commaOrClose⟩ ']' = some t := by
      rw [← placed]
      simp [State.step, stepAfter, isSpace, afterValue]
    refine ⟨t, ?_, .refl t⟩
    simp only [Value.write, State.run, opening]
    rw [run_lineBreak (fun c blank => by simp only [State.step, blank, if_true]), run_append,
      run_itemOrClose read₁ begun, Option.bind_some, run_append, read₂, Option.bind_some,
      settled₂.run_close rfl (.inr (.inr (.inl rfl)))]
    simp only [State.run, close]
  | .object [] =>
    refine ⟨t, ?_, .refl t⟩
    have close : State.step ⟨.members [] :: fs, .keyOrClose⟩ '\x7d' = place fs (.object []) := rfl
    have opening : State.step ⟨fs, .value⟩ '\x7b' = some ⟨.members [] :: fs, .keyOrClose⟩ := rfl
    simp only [Value.write, State.run, opening, close, placed]
  | .object ((key, v) :: ms) =>
    obtain ⟨s₁, read₁, settled₁⟩ :=
      Value.run_write l (depth + 1) (.member [] key :: fs) v _ (place_member [] key fs v)
    obtain ⟨s₂, read₂, settled₂⟩ :=
      Value.run_writeMembers l (depth + 1) fs ms [(key, v)] s₁ settled₁
    have opening : State.step ⟨fs, .value⟩ '\x7b' = some ⟨.members [] :: fs, .keyOrClose⟩ := rfl
    have first (rest : List Char) :
        State.run ⟨.members [] :: fs, .keyOrClose⟩ (Literal.write key.toList ++ rest) =
          State.run ⟨.members [] :: fs, .key⟩ (Literal.write key.toList ++ rest) := rfl
    have close : State.step ⟨.members (ms.reverse ++ [(key, v)]) :: fs, .commaOrClose⟩ '\x7d' =
        some t := by
      rw [← placed]
      simp [State.step, stepAfter, isSpace, afterValue]
    refine ⟨t, ?_, .refl t⟩
    simp only [Value.write, State.run, opening]
    rw [run_lineBreak (fun c blank => by simp only [State.step, blank, if_true]), first, run_key,
      run_colon, run_append, read₁, Option.bind_some, run_append, read₂, Option.bind_some,
      settled₂.run_close rfl (.inr (.inr (.inr rfl)))]
    simp only [State.run, close]

theorem Value.run_writeItems (l : Layout) (depth : Nat) (fs : List Frame) (vs done : List Value)
    (s : State) (settled : Settles s ⟨.items done :: fs, .commaOrClose⟩) :
    ∃ s', s.run (Value.writeItems l depth vs) = some s' ∧
      Settles s' ⟨.items (vs.reverse ++ done) :: fs, .commaOrClose⟩ := by
  match vs with
  | [] => exact ⟨s, rfl, settled⟩
  | v :: vs =>
    obtain ⟨s₁, read₁, settled₁⟩ :=
      Value.run_write l depth (.items done :: fs) v _ (place_items done fs v)
    obtain ⟨s₂, read₂, settled₂⟩ := Value.run_writeItems l depth fs vs (v :: done) s₁ settled₁
    refine ⟨s₂, ?_, ?_⟩
    · have comma : State.step ⟨.items done :: fs, .commaOrClose⟩ ',' =
          some ⟨.items done :: fs, .value⟩ := rfl
      rw [Value.writeItems, settled.run (.inr (.inl rfl))]
      simp only [State.run, comma]
      rw [run_lineBreak (fun c blank => by simp only [State.step, blank, if_true]), run_append,
        read₁, Option.bind_some, read₂]
    · simpa only [List.reverse_cons, List.append_assoc, List.cons_append, List.nil_append] using
        settled₂

theorem Value.run_writeMembers (l : Layout) (depth : Nat) (fs : List Frame)
    (ms done : List (String × Value)) (s : State)
    (settled : Settles s ⟨.members done :: fs, .commaOrClose⟩) :
    ∃ s', s.run (Value.writeMembers l depth ms) = some s' ∧
      Settles s' ⟨.members (ms.reverse ++ done) :: fs, .commaOrClose⟩ := by
  match ms with
  | [] => exact ⟨s, rfl, settled⟩
  | (key, v) :: ms =>
    obtain ⟨s₁, read₁, settled₁⟩ :=
      Value.run_write l depth (.member done key :: fs) v _ (place_member done key fs v)
    obtain ⟨s₂, read₂, settled₂⟩ :=
      Value.run_writeMembers l depth fs ms ((key, v) :: done) s₁ settled₁
    refine ⟨s₂, ?_, ?_⟩
    · have comma : State.step ⟨.members done :: fs, .commaOrClose⟩ ',' =
          some ⟨.members done :: fs, .key⟩ := rfl
      rw [Value.writeMembers, settled.run (.inr (.inl rfl))]
      simp only [State.run, comma]
      rw [run_lineBreak (fun c blank => by simp only [State.step, blank, if_true]), run_key,
        run_colon, run_append, read₁, Option.bind_some, read₂]
    · simpa only [List.reverse_cons, List.append_assoc, List.cons_append, List.nil_append] using
        settled₂

end

theorem read?_write (l : Layout) (v : Value) (rest : List Char)
    (blank : ∀ c ∈ rest, State.isSpace c = true) :
    read? (v.write l 0 ++ rest) = some v := by
  obtain ⟨s, read, settled⟩ := Value.run_write l 0 [] v ⟨[], .done v⟩ rfl
  have skip : ∀ cs : List Char, (∀ c ∈ cs, State.isSpace c = true) →
      State.run ⟨[], .done v⟩ cs = some ⟨[], .done v⟩ := by
    intro cs
    induction cs with
    | nil => exact fun _ => rfl
    | cons c cs ih =>
      intro blank
      simp only [State.run, State.step, stepAfter, blank c List.mem_cons_self, if_true]
      exact ih fun c' mem => blank c' (List.mem_cons_of_mem c mem)
  rw [read?, State.initial, run_append, read, Option.bind_some]
  cases rest with
  | nil => exact settled.result
  | cons c cs =>
    rw [settled.run (.inl (blank c List.mem_cons_self)), skip _ blank]
    rfl

end DungeonForge.Json
