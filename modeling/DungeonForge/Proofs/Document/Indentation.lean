import DungeonForge.Proofs.Document.Brackets

/-!
How the text of a value is set in. The invariant of a piece speaks of the depth at which it begins
and of nothing else around it: line breaks are its only control characters, and what follows each of
them is set in by the brackets that are open there.
-/

namespace DungeonForge

namespace Json

def Layout.width : Layout → Nat
  | .compact => 0
  | .pretty indent => indent.toNat

def Layout.breaks : Layout → Nat → Nat
  | .compact, _ => 0
  | .pretty _, n => n

theorem Layout.breaks_zero (l : Layout) : l.breaks 0 = 0 := by
  cases l <;> rfl

theorem Layout.breaks_add (l : Layout) (m n : Nat) :
    l.breaks (m + n) = l.breaks m + l.breaks n := by
  cases l <;> rfl

/-- What follows a line break behind which so many brackets are open: blanks for each bracket that
is still open where the next character stands, and this character is no blank. -/
def Indents (width : Nat) (depth : Int) (text : List Char) : Prop :=
  ∃ (level : Nat) (c : Char) (rest : List Char),
    text = List.replicate (width * level) ' ' ++ c :: rest ∧ c ≠ ' ' ∧ c ≠ '\n' ∧
      (level : Int) = depth - if isClosing c then 1 else 0

theorem Indents.append {width : Nat} {depth : Int} {a : List Char} (h : Indents width depth a)
    (b : List Char) : Indents width depth (a ++ b) := by
  obtain ⟨level, c, rest, rfl, blank, newline, count⟩ := h
  exact ⟨level, c, rest ++ b, by simp, blank, newline, count⟩

def Begins (a : List Char) : Prop :=
  ∃ c rest, a = c :: rest ∧ c ≠ ' ' ∧ c ≠ '\n' ∧ isClosing c = false

theorem Begins.append {a : List Char} (h : Begins a) (b : List Char) : Begins (a ++ b) := by
  obtain ⟨c, rest, rfl, plain⟩ := h
  exact ⟨c, rest ++ b, rfl, plain⟩

/-- A piece of a text that begins at a depth: line breaks are its only control characters, there
are so many of them, and what follows each of them is set in. -/
structure Laid (l : Layout) (depth : Nat) (a : List Char) (breaks : Nat) : Prop
    extends Bracketed a where
  chars : ∀ c ∈ a, c.toNat < 0x20 → c = '\n'
  count : a.count '\n' = l.breaks breaks
  lines : ∀ before after, a = before ++ '\n' :: after →
    Indents l.width (depth + openBrackets before) after

theorem bracketed_lineBreak (l : Layout) (depth : Nat) : Bracketed (l.lineBreak depth) := by
  apply Bracketed.of_plain
  cases l with
  | compact => exact List.forall_mem_nil _
  | pretty indent =>
    refine List.forall_mem_cons.2 ⟨by decide, fun c mem => ?_⟩
    obtain rfl := List.eq_of_mem_replicate mem
    decide

theorem chars_lineBreak (l : Layout) (depth : Nat) :
    ∀ c ∈ l.lineBreak depth, c.toNat < 0x20 → c = '\n' := by
  cases l with
  | compact => exact List.forall_mem_nil _
  | pretty indent =>
    refine List.forall_mem_cons.2 ⟨fun _ => rfl, fun c mem control => ?_⟩
    obtain rfl := List.eq_of_mem_replicate mem
    exact absurd control (by decide)

theorem count_lineBreak (l : Layout) (depth : Nat) :
    (l.lineBreak depth).count '\n' = l.breaks 1 := by
  cases l with
  | compact => rfl
  | pretty indent => simp [Layout.lineBreak, List.count_replicate, Layout.breaks]

theorem lineBreak_split {l : Layout} {depth : Nat} {a before after : List Char}
    (same : l.lineBreak depth ++ a = before ++ '\n' :: after) :
    (before = [] ∧ after = List.replicate (l.width * depth) ' ' ++ a) ∨
      ∃ u, before = l.lineBreak depth ++ u ∧ a = u ++ '\n' :: after := by
  cases l with
  | compact => exact .inr ⟨before, rfl, same⟩
  | pretty indent =>
    cases before with
    | nil => exact .inl ⟨rfl, (List.cons.inj same).2.symm⟩
    | cons c u =>
      obtain ⟨rfl, rest⟩ := List.cons.inj same
      rcases List.append_eq_append_iff.1 rest with ⟨v, rfl, there⟩ | ⟨v, blanks, there⟩
      · exact .inr ⟨v, rfl, there⟩
      · cases v with
        | nil =>
          rw [List.append_nil] at blanks
          exact .inr ⟨[], by rw [← blanks, List.append_nil]; rfl, there.symm⟩
        | cons c v =>
          obtain ⟨rfl, -⟩ := List.cons.inj there
          have newline : '\n' ∈ List.replicate (indent.toNat * depth) ' ' := by
            rw [blanks]
            exact List.mem_append_right u List.mem_cons_self
          exact absurd (List.eq_of_mem_replicate newline) (by decide)

def isPlain (c : Char) : Bool :=
  0x20 ≤ c.toNat && c ≠ '"' && !isOpening c && !isClosing c

theorem isPlain_iff {c : Char} :
    isPlain c = true ↔ 0x20 ≤ c.toNat ∧ c ≠ '"' ∧ isOpening c = false ∧ isClosing c = false := by
  simp [isPlain, and_assoc]

theorem chars_escape (c : Char) : ∀ x ∈ Literal.escape c, 0x20 ≤ x.toNat := by
  have letters : ∀ e ∈ Literal.letters, ∀ x ∈ ['\\', e.2], 0x20 ≤ x.toNat := by
    simp [Literal.letters]
  have digits : ∀ d ∈ Literal.lowerDigits, 0x20 ≤ d.toNat := by simp [Literal.lowerDigits]
  have canonical := Literal.canonical_escape c
  generalize Literal.escape c = piece at canonical ⊢
  cases canonical with
  | verbatim _ _ visible => exact List.forall_mem_singleton.2 visible
  | @letter l listed => exact letters (c, l) listed
  | @unit high low _ _ first second =>
    have high := digits high (List.mem_of_getElem? first)
    have low := digits low (List.mem_of_getElem? second)
    simp [high, low]

namespace Laid

variable {l : Layout} {depth m n : Nat} {a b : List Char}

theorem of_breaks (text : Laid l depth a m) (same : m = n) : Laid l depth a n :=
  same ▸ text

theorem append (front : Laid l depth a m) (back : Laid l depth b n) :
    Laid l depth (a ++ b) (m + n) where
  toBracketed := front.toBracketed.append back.toBracketed
  chars := List.forall_mem_append.2 ⟨front.chars, back.chars⟩
  count := by rw [List.count_append, front.count, back.count, Layout.breaks_add]
  lines before after same := by
    rcases List.append_eq_append_iff.1 same with ⟨u, rfl, rest⟩ | ⟨u, rfl, tail⟩
    · rw [openBrackets_append front.ends, front.even, Int.zero_add]
      exact back.lines u after rest
    · cases u with
      | nil =>
        rw [List.append_nil] at front
        have even : openBrackets before = openBrackets [] := front.even
        rw [even]
        exact back.lines [] after tail.symm
      | cons c u =>
        obtain ⟨rfl, rfl⟩ := List.cons.inj tail
        exact (front.lines before u rfl).append b

theorem of_chars (brackets : Bracketed a) (chars : ∀ c ∈ a, 0x20 ≤ c.toNat) : Laid l depth a 0 := by
  have none_there : '\n' ∉ a := fun mem => absurd (chars _ mem) (by decide)
  refine ⟨brackets, fun c mem control => ?_, ?_, fun before after same => ?_⟩
  · exact absurd control (Nat.not_lt.2 (chars c mem))
  · rw [Layout.breaks_zero]
    exact List.count_eq_zero.2 none_there
  · rw [same] at none_there
    exact absurd (List.mem_append_right before List.mem_cons_self) none_there

theorem of_plain (plain : a.all isPlain = true) : Laid l depth a 0 := by
  have each : ∀ c ∈ a, _ := fun c mem => isPlain_iff.1 (List.all_eq_true.1 plain c mem)
  exact of_chars (.of_plain fun c mem => (each c mem).2) fun c mem => (each c mem).1

theorem lineBreak (text : Laid l depth b n) (begins : Begins b) :
    Laid l depth (l.lineBreak depth ++ b) (n + 1) where
  toBracketed := (bracketed_lineBreak l depth).append text.toBracketed
  chars := List.forall_mem_append.2 ⟨chars_lineBreak l depth, text.chars⟩
  count := by
    rw [List.count_append, count_lineBreak, text.count, Nat.add_comm n 1, Layout.breaks_add]
  lines before after same := by
    rcases lineBreak_split same with ⟨rfl, rfl⟩ | ⟨u, rfl, rest⟩
    · obtain ⟨c, rest, rfl, blank, newline, other⟩ := begins
      refine ⟨depth, c, rest, rfl, blank, newline, ?_⟩
      rw [other]
      simp [openBrackets, Region.marked]
    · have brackets := bracketed_lineBreak l depth
      rw [openBrackets_append brackets.ends, brackets.even, Int.zero_add]
      exact text.lines u after rest

theorem closing_lines (inside : Laid l (depth + 1) a n) {closing : Char}
    (closes : isClosing closing = true) {v after : List Char}
    (same : l.lineBreak depth ++ [closing] = v ++ '\n' :: after) :
    Indents l.width (depth + (1 + openBrackets (a ++ v))) after := by
  obtain ⟨-, -, blank, newline⟩ := visible_of_bracket (.inr closes)
  rcases lineBreak_split same with ⟨rfl, rfl⟩ | ⟨w, -, rest⟩
  · refine ⟨depth, closing, [], rfl, blank, newline, ?_⟩
    rw [closes, List.append_nil, inside.even]
    simp
  · rcases List.append_eq_singleton_iff.1 rest.symm with ⟨-, last⟩ | ⟨-, none⟩
    · exact absurd (List.cons.inj last).1.symm newline
    · cases none

theorem enclosed_lines (inside : Laid l (depth + 1) a n) {closing : Char}
    (closes : isClosing closing = true) {u after : List Char}
    (same : a ++ (l.lineBreak depth ++ [closing]) = u ++ '\n' :: after) :
    Indents l.width (depth + (1 + openBrackets u)) after := by
  rcases List.append_eq_append_iff.1 same with ⟨v, rfl, tail⟩ | ⟨v, rfl, tail⟩
  · exact inside.closing_lines closes tail
  · cases v with
    | nil =>
      rw [List.append_nil] at inside
      have here := inside.closing_lines closes (v := []) tail.symm
      rwa [List.append_nil] at here
    | cons c v =>
      obtain ⟨rfl, rfl⟩ := List.cons.inj tail
      have here := (inside.lines u v rfl).append (l.lineBreak depth ++ [closing])
      rwa [Int.natCast_add, Int.add_assoc] at here

theorem enclose (inside : Laid l (depth + 1) a n) (opening closing : Char)
    (opens : isOpening opening = true) (closes : isClosing closing = true) :
    Laid l depth (opening :: (a ++ (l.lineBreak depth ++ [closing]))) (n + 1) := by
  obtain ⟨first, quote, -, notFirst⟩ := visible_of_bracket (.inl opens)
  obtain ⟨last, -, -, notLast⟩ := visible_of_bracket (.inr closes)
  refine ⟨?_, ?_, ?_, fun before after same => ?_⟩
  · rw [← List.append_assoc]
    exact (inside.toBracketed.append (bracketed_lineBreak l depth)).enclose opens closes
  · refine List.forall_mem_cons.2 ⟨fun control => absurd first (Nat.not_le.2 control), ?_⟩
    refine List.forall_mem_append.2 ⟨inside.chars, List.forall_mem_append.2
      ⟨chars_lineBreak l depth, List.forall_mem_singleton.2 fun control => ?_⟩⟩
    exact absurd last (Nat.not_le.2 control)
  · have closed : [closing].count '\n' = 0 := List.count_eq_zero.2 (by simpa using notLast.symm)
    rw [List.count_cons_of_ne notFirst, List.count_append, List.count_append, inside.count,
      count_lineBreak, closed, Layout.breaks_add]
    rfl
  · rcases List.append_eq_cons_iff.1 same.symm with ⟨-, none⟩ | ⟨u, rfl, rest⟩
    · exact absurd (List.cons.inj none).1.symm notFirst
    · rw [openBrackets_cons quote, bracketStep_opening opens]
      exact inside.enclosed_lines closes rest

theorem empty {opening closing : Char} (opens : isOpening opening = true)
    (closes : isClosing closing = true) : Laid l depth [opening, closing] 0 := by
  have nothing : Bracketed [] := .of_plain (List.forall_mem_nil _)
  refine of_chars (nothing.enclose opens closes) (List.forall_mem_cons.2 ⟨?_, ?_⟩)
  · exact (visible_of_bracket (.inl opens)).1
  · exact List.forall_mem_singleton.2 (visible_of_bracket (.inr closes)).1

theorem literal (cs : List Char) : Laid l depth (Literal.write cs) 0 := by
  refine of_chars (.literal cs) (List.forall_mem_cons.2 ⟨by decide, List.forall_mem_append.2
    ⟨?_, List.forall_mem_singleton.2 (by decide)⟩⟩)
  exact List.forall_mem_flatMap.2 fun c _ => chars_escape c

end Laid

theorem isPlain_of_isDigit {c : Char} (digit : c.isDigit = true) : isPlain c = true := by
  rw [isPlain_iff]
  have range : 48 ≤ c.toNat ∧ c.toNat ≤ 57 := by
    simpa [Char.isDigit, UInt32.le_iff_toNat_le] using digit
  refine ⟨by omega, ?_, Bool.eq_false_iff.2 fun opens => ?_, Bool.eq_false_iff.2 fun closes => ?_⟩
  · rintro rfl
    cases digit
  · rcases isOpening_cases opens with rfl | rfl <;> cases digit
  · rcases isClosing_cases closes with rfl | rfl <;> cases digit

theorem isDigit_of_mem_digits {n : Nat} {c : Char} (mem : c ∈ Decimal.digits n) :
    c.isDigit = true :=
  Nat.isDigit_of_mem_toDigits (by decide) (by decide) mem

theorem begins_digits (n : Nat) : Begins (Decimal.digits n) := by
  have filled : Decimal.digits n ≠ [] := Nat.toDigits_ne_nil
  obtain ⟨c, rest, digits⟩ := List.exists_cons_of_ne_nil filled
  have digit : c.isDigit = true := isDigit_of_mem_digits (digits ▸ List.mem_cons_self)
  refine ⟨c, rest, digits, ?_, ?_, (isPlain_iff.1 (isPlain_of_isDigit digit)).2.2.2⟩ <;>
  · rintro rfl
    cases digit

theorem begins_integerText (n : Int) : Begins (integerText n) := by
  cases n with
  | ofNat k => exact begins_digits k
  | negSucc k => exact ⟨'-', _, rfl, by decide⟩

theorem begins_decimalText (d : Decimal) : Begins (decimalText d) := by
  rw [decimalText, List.append_assoc]
  cases d.negative with
  | true => exact ⟨'-', _, rfl, by decide⟩
  | false => exact (begins_digits d.coefficient).append _

namespace Laid

variable {l : Layout} {depth : Nat}

theorem digits (n : Nat) : Laid l depth (Decimal.digits n) 0 :=
  of_plain (List.all_eq_true.2 fun _ mem => isPlain_of_isDigit (isDigit_of_mem_digits mem))

theorem integerText (n : Int) : Laid l depth (integerText n) 0 := by
  cases n with
  | ofNat k => exact digits k
  | negSucc k =>
    have sign : Laid l depth ['-'] 0 := of_plain (by decide)
    exact sign.append (digits (k + 1))

theorem decimalText (d : Decimal) : Laid l depth (decimalText d) 0 := by
  have sign : Laid l depth (if d.negative then ['-'] else []) 0 := by
    apply of_plain
    cases d.negative <;> decide
  have mark : Laid l depth ['e'] 0 := of_plain (by decide)
  exact (sign.append (digits d.coefficient)).append (mark.append (integerText d.exponent))

theorem colon : Laid l depth l.colon 0 := by
  cases l with
  | compact => exact of_plain (a := [':']) (by decide)
  | pretty indent => exact of_plain (a := [':', ' ']) (by decide)

end Laid

def ownBreaks (elements : Nat) : Nat :=
  if elements = 0 then 0 else elements + 1

theorem ownBreaks_succ (n : Nat) : ownBreaks (n + 1) = n + 2 :=
  rfl

mutual

/-- The line breaks in the pretty text of a value. -/
def Value.breaks : Value → Nat
  | .array items => ownBreaks items.length + Value.itemBreaks items
  | .object members => ownBreaks members.length + Value.memberBreaks members
  | _ => 0

def Value.itemBreaks : List Value → Nat
  | [] => 0
  | v :: vs => v.breaks + Value.itemBreaks vs

def Value.memberBreaks : List (String × Value) → Nat
  | [] => 0
  | (_, v) :: ms => v.breaks + Value.memberBreaks ms

end

theorem Value.begins_write (l : Layout) (depth : Nat) (v : Value) : Begins (v.write l depth) := by
  cases v with
  | null => exact ⟨'n', _, rfl, by decide⟩
  | boolean b =>
    cases b with
    | true => exact ⟨'t', _, rfl, by decide⟩
    | false => exact ⟨'f', _, rfl, by decide⟩
  | integer n =>
    rw [Value.write]
    exact begins_integerText n
  | decimal d =>
    rw [Value.write]
    exact begins_decimalText d
  | string s => exact ⟨'"', _, by rw [Value.write]; rfl, by decide⟩
  | array vs =>
    cases vs with
    | nil => exact ⟨'[', _, rfl, by decide⟩
    | cons v vs => exact ⟨'[', _, by rw [Value.write], by decide⟩
  | object ms =>
    cases ms with
    | nil => exact ⟨'\x7b', _, rfl, by decide⟩
    | cons m ms => exact ⟨'\x7b', _, by rw [Value.write], by decide⟩

mutual

/-- The text of a value is set in by the brackets around it and those in it. -/
theorem Value.laid_write (l : Layout) (depth : Nat) (v : Value) :
    Laid l depth (v.write l depth) v.breaks := by
  match v with
  | .null => exact .of_plain (a := ['n', 'u', 'l', 'l']) (by decide)
  | .boolean true => exact .of_plain (a := ['t', 'r', 'u', 'e']) (by decide)
  | .boolean false => exact .of_plain (a := ['f', 'a', 'l', 's', 'e']) (by decide)
  | .integer n =>
    rw [Value.write]
    exact .integerText n
  | .decimal d =>
    rw [Value.write]
    exact .decimalText d
  | .string s =>
    rw [Value.write]
    exact .literal s.toList
  | .array [] => exact .empty rfl rfl
  | .array (v :: vs) =>
    have first := Value.laid_write l (depth + 1) v
    have others := Value.laid_writeItems l (depth + 1) vs
    have items := (first.append others).lineBreak ((v.begins_write l (depth + 1)).append _)
    have whole := items.enclose '[' ']' rfl rfl
    rw [List.append_assoc, List.append_assoc] at whole
    rw [Value.write]
    refine whole.of_breaks ?_
    simp only [Value.breaks, ownBreaks_succ, Value.itemBreaks, List.length_cons]
    omega
  | .object [] => exact .empty rfl rfl
  | .object ((key, v) :: ms) =>
    have first := Value.laid_write l (depth + 1) v
    have others := Value.laid_writeMembers l (depth + 1) ms
    have begins : Begins (Literal.write key.toList) := ⟨'"', _, rfl, by decide⟩
    have members := ((Laid.literal key.toList).append (Laid.colon.append
      (first.append others))).lineBreak (begins.append _)
    have whole := members.enclose '\x7b' '\x7d' rfl rfl
    rw [List.append_assoc, List.append_assoc, List.append_assoc, List.append_assoc] at whole
    rw [Value.write]
    refine whole.of_breaks ?_
    simp only [Value.breaks, ownBreaks_succ, Value.memberBreaks, List.length_cons]
    omega

theorem Value.laid_writeItems (l : Layout) (depth : Nat) (vs : List Value) :
    Laid l depth (Value.writeItems l depth vs) (vs.length + Value.itemBreaks vs) := by
  match vs with
  | [] => exact .of_plain rfl
  | v :: vs =>
    have comma : Laid l depth [','] 0 := .of_plain (by decide)
    have first := Value.laid_write l depth v
    have others := Value.laid_writeItems l depth vs
    have items := (first.append others).lineBreak ((v.begins_write l depth).append _)
    rw [Value.writeItems]
    refine (comma.append items).of_breaks ?_
    simp only [Value.itemBreaks, List.length_cons]
    omega

theorem Value.laid_writeMembers (l : Layout) (depth : Nat) (ms : List (String × Value)) :
    Laid l depth (Value.writeMembers l depth ms) (ms.length + Value.memberBreaks ms) := by
  match ms with
  | [] => exact .of_plain rfl
  | (key, v) :: ms =>
    have comma : Laid l depth [','] 0 := .of_plain (by decide)
    have first := Value.laid_write l depth v
    have others := Value.laid_writeMembers l depth ms
    have begins : Begins (Literal.write key.toList) := ⟨'"', _, rfl, by decide⟩
    have members := ((Laid.literal key.toList).append (Laid.colon.append
      (first.append others))).lineBreak (begins.append _)
    rw [Value.writeMembers]
    refine (comma.append members).of_breaks ?_
    simp only [Value.memberBreaks, List.length_cons]
    omega

end

end Json

end DungeonForge
