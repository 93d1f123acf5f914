import DungeonForge.Proofs.Json.Literal
import Mathlib.Data.List.Basic

/-!
Scanning literals. A text scans to `cs` exactly if it begins with a quote, pieces that denote the
characters of `cs` in order, and a quote; what is left over is what follows. The converse of reading
is an invariant of the reader's modes: each says which piece has been begun, and one more character
goes on with it or finishes it.
-/

namespace DungeonForge.Json.Literal

/-- Between two quotes one piece for each character of the text, in order. -/
def Quoted (stands : Char → List Char → Prop) (cs literal : List Char) : Prop :=
  ∃ pieces, List.Forall₂ stands cs pieces ∧ literal = '"' :: (pieces.flatten ++ ['"'])

theorem scanFrom_of_run {p q : Pending} {a : List Char} (read : run p a = some q) (b : List Char) :
    scanFrom p (a ++ b) = scanFrom q b := by
  induction a generalizing p with
  | nil =>
    cases read
    rfl
  | cons c a ih =>
    rw [run, List.foldlM_cons] at read
    obtain ⟨m, more, rest⟩ := Option.bind_eq_some_iff.1 read
    simp only [List.cons_append, scanFrom, step_of_advance more]
    exact ih rest

theorem scan_of_quoted {cs literal : List Char} (quoted : Quoted Denotes cs literal)
    (rest : List Char) : scan (literal ++ rest) = some (cs, rest) := by
  obtain ⟨pieces, denoted, rfl⟩ := quoted
  have body := scanFrom_of_run (run_pieces denoted []) ('"' :: rest)
  have closing : scanFrom ⟨cs.reverse ++ [], .plain⟩ ('"' :: rest) = some (cs, rest) := by
    simp [scanFrom, step]
  simp only [List.cons_append, List.append_assoc, List.nil_append, scan, opened]
  rw [body, closing]

/-- What has been read of a character when the reader stands at this mode. -/
inductive Begun : Mode → List Char → Prop
  | plain : Begun .plain []
  | backslash : Begun .backslash ['\\']
  | unit {ds : List Char} {n : Nat} (few : ds.length < 4) (number : hexNumber? 0 ds = some n) :
      Begun (.unit none ds.length n) ('\\' :: 'u' :: ds)
  | secondBackslash {hi : List Char} {h : Nat} (first : HexUnit hi h) (high : isHighUnit h = true) :
      Begun (.secondBackslash h) ('\\' :: 'u' :: hi)
  | secondLetter {hi : List Char} {h : Nat} (first : HexUnit hi h) (high : isHighUnit h = true) :
      Begun (.secondLetter h) ('\\' :: 'u' :: (hi ++ ['\\']))
  | secondUnit {hi ds : List Char} {h n : Nat} (first : HexUnit hi h) (high : isHighUnit h = true)
      (few : ds.length < 4) (number : hexNumber? 0 ds = some n) :
      Begun (.unit (some h) ds.length n) ('\\' :: 'u' :: (hi ++ '\\' :: 'u' :: ds))

theorem step_closed {p : Pending} {c : Char} {read : List Char}
    (closed : step p c = some (.closed read)) :
    p.mode = .plain ∧ c = '"' ∧ read = p.reversed.reverse := by
  obtain ⟨r, mode⟩ := p
  cases mode with
  | plain =>
    by_cases quote : c = '"'
    · subst quote
      cases closed
      exact ⟨rfl, rfl, rfl⟩
    · simp only [step, quote, if_false] at closed
      split_ifs at closed <;> cases closed
  | backslash =>
    simp only [step] at closed
    split_ifs at closed <;> simp at closed
  | unit high digits value =>
    simp only [step] at closed
    split at closed
    · cases closed
    · split_ifs at closed <;> simp at closed
  | secondBackslash high =>
    simp only [step] at closed
    split_ifs at closed
    cases closed
  | secondLetter high =>
    simp only [step] at closed
    split_ifs at closed
    cases closed

theorem advance_plain {r : List Char} {c : Char} {q : Pending}
    (more : advance ⟨r, .plain⟩ c = some q) :
    c = '\\' ∧ q = ⟨r, .backslash⟩ ∨
      (c ≠ '"' ∧ c ≠ '\\' ∧ 0x20 ≤ c.toNat) ∧ q = ⟨c :: r, .plain⟩ := by
  by_cases quote : c = '"'
  · simp [advance, step, quote] at more
  by_cases backslash : c = '\\'
  · subst backslash
    cases more
    exact .inl ⟨rfl, rfl⟩
  by_cases control : c.toNat < 0x20
  · simp [advance, step, quote, backslash, control] at more
  · simp only [advance, step, quote, backslash, control, if_false, Option.some.injEq] at more
    exact .inr ⟨⟨quote, backslash, Nat.not_lt.1 control⟩, more.symm⟩

theorem advance_backslash {r : List Char} {c : Char} {q : Pending}
    (more : advance ⟨r, .backslash⟩ c = some q) :
    c = 'u' ∧ q = ⟨r, .unit none 0 0⟩ ∨ ∃ e, shortEscape? c = some e ∧ q = ⟨e :: r, .plain⟩ := by
  by_cases unit : c = 'u'
  · subst unit
    cases more
    exact .inl ⟨rfl, rfl⟩
  · cases stands : shortEscape? c with
    | none => simp [advance, step, unit, stands] at more
    | some e =>
      simp only [advance, step, unit, stands, if_false, Option.map_some,
        Option.some.injEq] at more
      exact .inr ⟨e, rfl, more.symm⟩

theorem hexNumber?_concat {ds : List Char} {n v : Nat} {d : Char}
    (number : hexNumber? 0 ds = some n) (value : Decimal.hexValue? d = some v) :
    hexNumber? 0 (ds ++ [d]) = some (16 * n + v) := by
  rw [hexNumber?_append, number, Option.bind_some, hexNumber?_cons, value]
  rfl

theorem advance_unit {r ds : List Char} {high : Option Nat} {n : Nat} {d : Char} {q : Pending}
    (few : ds.length < 4) (number : hexNumber? 0 ds = some n)
    (more : advance ⟨r, .unit high ds.length n⟩ d = some q) :
    ∃ m, hexNumber? 0 (ds ++ [d]) = some m ∧
      ((ds ++ [d]).length < 4 ∧ q = ⟨r, .unit high (ds ++ [d]).length m⟩ ∨
        (ds ++ [d]).length = 4 ∧ closeUnit r high m = some q) := by
  cases value : Decimal.hexValue? d with
  | none => simp [advance, step, value] at more
  | some v =>
    refine ⟨_, hexNumber?_concat number value, ?_⟩
    rw [List.length_append, List.length_singleton]
    by_cases goes : ds.length + 1 < 4
    · simp only [advance, step, value, goes, if_true, Option.some.injEq] at more
      exact .inl ⟨goes, more.symm⟩
    · right
      refine ⟨by omega, ?_⟩
      cases closed : closeUnit r high (16 * n + v) with
      | none => simp [advance, step, value, goes, closed] at more
      | some p => simpa [advance, step, value, goes, closed] using more

theorem toNat_ofNat {n : Nat} (valid : n.isValidChar) : (Char.ofNat n).toNat = n := by
  rw [Char.ofNat, dif_pos valid]
  rfl

theorem closeUnit_none {r : List Char} {n : Nat} {q : Pending} (bound : n < 0x10000)
    (closed : closeUnit r none n = some q) :
    isHighUnit n = true ∧ q = ⟨r, .secondBackslash n⟩ ∨
      ∃ c : Char, c.toNat = n ∧ q = ⟨c :: r, .plain⟩ := by
  by_cases high : isHighUnit n = true
  · simp only [closeUnit, high, if_true, Option.some.injEq] at closed
    exact .inl ⟨high, closed.symm⟩
  · by_cases low : isLowUnit n = true
    · simp [closeUnit, high, low] at closed
    · simp only [closeUnit, high, low, if_false, Option.some.injEq, Bool.false_eq_true] at closed
      have valid : n.isValidChar := by
        simp only [isHighUnit, isLowUnit, Bool.and_eq_true, decide_eq_true_eq] at high low
        simp only [Nat.isValidChar]
        omega
      exact .inr ⟨Char.ofNat n, toNat_ofNat valid, closed.symm⟩

theorem closeUnit_some {r : List Char} {h n : Nat} {q : Pending} (high : isHighUnit h = true)
    (closed : closeUnit r (some h) n = some q) :
    isLowUnit n = true ∧ ∃ c : Char,
      c.toNat = 0x10000 + (h - 0xd800) * 0x400 + (n - 0xdc00) ∧ q = ⟨c :: r, .plain⟩ := by
  by_cases low : isLowUnit n = true
  · simp only [closeUnit, low, if_true, Option.some.injEq] at closed
    have valid : (0x10000 + (h - 0xd800) * 0x400 + (n - 0xdc00)).isValidChar := by
      simp only [isHighUnit, isLowUnit, Bool.and_eq_true, decide_eq_true_eq] at high low
      simp only [Nat.isValidChar]
      omega
    exact ⟨low, _, toNat_ofNat valid, closed.symm⟩
  · simp [closeUnit, low] at closed

theorem hexValue?_lt {d : Char} {v : Nat} (value : Decimal.hexValue? d = some v) : v < 16 := by
  unfold Decimal.hexValue? at value
  simp only [Char.le_def, UInt32.le_iff_toNat_le] at value
  have number : d.val.toNat = d.toNat := rfl
  split_ifs at value with decimal lower upper
  all_goals
    cases value
    simp [number] at *
    omega

theorem HexUnit.digits {ds : List Char} {n : Nat} (digits : HexUnit ds n) :
    ∃ a b c d, ds = [a, b, c, d] ∧ Decimal.hexValue? a = some (n / 0x1000) ∧
      Decimal.hexValue? b = some (n / 0x100 % 16) ∧ Decimal.hexValue? c = some (n / 16 % 16) ∧
      Decimal.hexValue? d = some (n % 16) := by
  obtain ⟨length, number⟩ := digits
  obtain ⟨a, b, c, d, rfl⟩ := List.length_eq_four.1 length
  simp only [hexNumber?_cons, hexNumber?_nil, Option.bind_eq_some_iff, Option.some.injEq] at number
  obtain ⟨va, ha, vb, hb, vc, hc, vd, hd, rfl⟩ := number
  have bounds : va < 16 ∧ vb < 16 ∧ vc < 16 ∧ vd < 16 :=
    ⟨hexValue?_lt ha, hexValue?_lt hb, hexValue?_lt hc, hexValue?_lt hd⟩
  refine ⟨a, b, c, d, rfl, ?_, ?_, ?_, ?_⟩
  · exact ha.trans (congrArg some (by omega))
  · exact hb.trans (congrArg some (by omega))
  · exact hc.trans (congrArg some (by omega))
  · exact hd.trans (congrArg some (by omega))

theorem HexUnit.lt {ds : List Char} {n : Nat} (digits : HexUnit ds n) : n < 0x10000 := by
  obtain ⟨a, b, c, d, -, first, -⟩ := digits.digits
  have bound := hexValue?_lt first
  omega

/-- One more character either belongs to the piece that has been begun or finishes it. -/
theorem Begun.step {mode : Mode} {own r : List Char} {c : Char} {q : Pending}
    (begun : Begun mode own) (more : advance ⟨r, mode⟩ c = some q) :
    q.reversed = r ∧ Begun q.mode (own ++ [c]) ∨
      ∃ e, q = ⟨e :: r, .plain⟩ ∧ Denotes e (own ++ [c]) := by
  cases begun with
  | plain =>
    rcases advance_plain more with ⟨rfl, rfl⟩ | ⟨⟨quote, backslash, visible⟩, rfl⟩
    · exact .inl ⟨rfl, .backslash⟩
    · exact .inr ⟨c, rfl, .verbatim quote backslash visible⟩
  | backslash =>
    rcases advance_backslash more with ⟨rfl, rfl⟩ | ⟨e, stands, rfl⟩
    · exact .inl ⟨rfl, .unit (by decide) (hexNumber?_nil 0)⟩
    · exact .inr ⟨e, rfl, .letter stands⟩
  | @unit ds n few number =>
    obtain ⟨m, number, ⟨few, rfl⟩ | ⟨length, closed⟩⟩ := advance_unit few number more
    · exact .inl ⟨rfl, .unit few number⟩
    · have digits : HexUnit (ds ++ [c]) m := ⟨length, number⟩
      rcases closeUnit_none digits.lt closed with ⟨high, rfl⟩ | ⟨e, rfl, rfl⟩
      · exact .inl ⟨rfl, .secondBackslash digits high⟩
      · exact .inr ⟨e, rfl, .unit digits⟩
  | @secondBackslash hi h first high =>
    by_cases backslash : c = '\\'
    · subst backslash
      cases more
      exact .inl ⟨rfl, .secondLetter first high⟩
    · simp [advance, Literal.step, backslash] at more
  | @secondLetter hi h first high =>
    by_cases unit : c = 'u'
    · subst unit
      cases more
      have begun := Begun.secondUnit first high (by decide) (hexNumber?_nil 0)
      exact .inl ⟨rfl, by simpa using begun⟩
    · simp [advance, Literal.step, unit] at more
  | @secondUnit hi ds h n first high few number =>
    have assoc : '\\' :: 'u' :: (hi ++ '\\' :: 'u' :: ds) ++ [c] =
        '\\' :: 'u' :: (hi ++ '\\' :: 'u' :: (ds ++ [c])) := by simp
    obtain ⟨m, number, ⟨few, rfl⟩ | ⟨length, closed⟩⟩ := advance_unit few number more
    · exact .inl ⟨rfl, assoc ▸ .secondUnit first high few number⟩
    · obtain ⟨low, e, value, rfl⟩ := closeUnit_some high closed
      exact .inr ⟨e, rfl, assoc ▸ .pair first high ⟨length, number⟩ low value⟩

theorem pieces_of_scanFrom {p : Pending} {own text out rest : List Char} (begun : Begun p.mode own)
    (scanned : scanFrom p text = some (out, rest)) :
    ∃ cs pieces, out = p.reversed.reverse ++ cs ∧ List.Forall₂ Denotes cs pieces ∧
      own ++ text = pieces.flatten ++ '"' :: rest := by
  induction text generalizing p own with
  | nil => cases scanned
  | cons c text ih =>
    cases stepped : step p c with
    | none => simp [scanFrom, stepped] at scanned
    | some progress =>
      simp only [scanFrom, stepped] at scanned
      cases progress with
      | closed read =>
        cases scanned
        obtain ⟨plain, rfl, rfl⟩ := step_closed stepped
        rw [plain] at begun
        cases begun
        exact ⟨[], [], (List.append_nil _).symm, .nil, rfl⟩
      | more q =>
        have more : advance p c = some q := by rw [advance, stepped]
        rcases begun.step more with ⟨same, begun⟩ | ⟨e, rfl, denotes⟩
        · obtain ⟨cs, pieces, read, denoted, split⟩ := ih begun scanned
          rw [same] at read
          rw [List.append_assoc] at split
          exact ⟨cs, pieces, read, denoted, split⟩
        · obtain ⟨cs, pieces, rfl, denoted, split⟩ := ih .plain scanned
          refine ⟨e :: cs, (own ++ [c]) :: pieces, ?_, .cons denotes denoted, ?_⟩
          · rw [List.reverse_cons, List.append_assoc, List.singleton_append]
          · rw [List.nil_append] at split
            rw [List.flatten_cons, List.append_assoc, ← split, List.append_assoc,
              List.singleton_append]

/-- What a scan reads is a literal of its text, and every literal of a text is read. -/
theorem scan_eq_some_iff {text cs rest : List Char} :
    scan text = some (cs, rest) ↔ ∃ literal, Quoted Denotes cs literal ∧ text = literal ++ rest := by
  constructor
  · intro scanned
    unfold scan at scanned
    split at scanned
    · next text =>
      obtain ⟨cs, pieces, rfl, denoted, split⟩ := pieces_of_scanFrom .plain scanned
      refine ⟨_, ⟨pieces, denoted, rfl⟩, ?_⟩
      rw [List.nil_append] at split
      simp [split]
    · cases scanned
  · rintro ⟨literal, quoted, rfl⟩
    exact scan_of_quoted quoted rest

end DungeonForge.Json.Literal
