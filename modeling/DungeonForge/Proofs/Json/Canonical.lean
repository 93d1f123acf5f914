import DungeonForge.Proofs.Json.Scan

/-!
The literal that is written, among all literals of its text. It is the one in which every character
stands in its canonical form. None of the others is shorter, since none of their pieces is, and one
that is as long has the same characters up to the case of hexadecimal digits.
-/

namespace DungeonForge.Json.Literal

theorem not_mem_letters_of_visible {c : Char} (quote : c ≠ '"') (backslash : c ≠ '\\')
    (visible : 0x20 ≤ c.toNat) (l : Char) : (c, l) ∉ letters := by
  have special : ∀ e ∈ letters, e.1 = '"' ∨ e.1 = '\\' ∨ e.1.toNat < 0x20 := by decide
  intro listed
  rcases special (c, l) listed with rfl | rfl | control
  · exact quote rfl
  · exact backslash rfl
  · exact absurd control (Nat.not_lt.2 visible)

theorem letter_unique {c l m : Char} (first : (c, l) ∈ letters) (second : (c, m) ∈ letters) :
    l = m := by
  have unique : ∀ e ∈ letters, ∀ f ∈ letters, e.1 = f.1 → e.2 = f.2 := by decide
  exact unique (c, l) first (c, m) second rfl

theorem Canonical.unique {c : Char} {a b : List Char} (first : Canonical c a)
    (second : Canonical c b) : a = b := by
  cases first with
  | verbatim quote backslash visible =>
    cases second with
    | verbatim => rfl
    | letter listed => exact absurd listed (not_mem_letters_of_visible quote backslash visible _)
    | unit control => omega
  | letter listed =>
    cases second with
    | verbatim quote backslash visible =>
      exact absurd listed (not_mem_letters_of_visible quote backslash visible _)
    | letter other => rw [letter_unique listed other]
    | unit _ unlisted => exact absurd listed (unlisted _)
  | unit control unlisted high low =>
    cases second with
    | verbatim _ _ visible => omega
    | letter listed => exact absurd listed (unlisted _)
    | unit _ _ high' low' =>
      rw [Option.some.inj (high.symm.trans high'), Option.some.inj (low.symm.trans low')]

theorem quoted_canonical_iff {cs text : List Char} :
    Quoted Canonical cs text ↔ text = write cs := by
  constructor
  · rintro ⟨pieces, canonical, rfl⟩
    have same : pieces = cs.map escape := by
      rw [← List.forall₂_eq_eq_eq, List.forall₂_map_right_iff]
      exact (canonical.imp fun c _ written => written.unique (canonical_escape c)).flip
    rw [write, escaped_eq_flatten, same]
  · rintro rfl
    exact ⟨cs.map escape, forall₂_canonical_escape cs, by rw [write, escaped_eq_flatten]⟩

example : write ['/', '\x7f', 'é', '\u2028', '\t'] =
    ['"', '/', '\x7f', 'é', '\u2028', '\\', 't', '"'] := by
  decide

/-- The same character, or two hexadecimal digits of one value. -/
def UpToCase (a b : Char) : Prop :=
  a = b ∨ ∃ v, Decimal.hexValue? a = some v ∧ Decimal.hexValue? b = some v

theorem HexUnit.upToCase {ds : List Char} {n : Nat} {high low : Char} (digits : HexUnit ds n)
    (control : n < 0x20) (first : lowerDigits[n / 16]? = some high)
    (second : lowerDigits[n % 16]? = some low) :
    List.Forall₂ UpToCase ds ['0', '0', high, low] := by
  have zero : Decimal.hexValue? '0' = some 0 := by decide
  obtain ⟨a, b, c, d, rfl, ha, hb, hc, hd⟩ := digits.digits
  rw [Nat.div_eq_of_lt (by omega)] at ha
  rw [Nat.div_eq_of_lt (by omega), Nat.zero_mod] at hb
  rw [Nat.mod_eq_of_lt (by omega)] at hc
  refine .cons (.inr ⟨_, ha, zero⟩) (.cons (.inr ⟨_, hb, zero⟩) (.cons (.inr ⟨_, hc, ?_⟩)
    (.cons (.inr ⟨_, hd, ?_⟩) .nil)))
  · exact hexValue?_of_lowerDigits first
  · exact hexValue?_of_lowerDigits second

/-- No piece that denotes a character is shorter than the canonical one. -/
theorem Canonical.shortest {c : Char} {written piece : List Char} (canonical : Canonical c written)
    (denotes : Denotes c piece) :
    written.length ≤ piece.length ∧
      (piece.length = written.length → List.Forall₂ UpToCase piece written) := by
  have refl (cs : List Char) : List.Forall₂ UpToCase cs cs := List.forall₂_same.2 fun _ _ => .inl rfl
  cases canonical with
  | verbatim quote backslash visible =>
    cases denotes with
    | verbatim => exact ⟨Nat.le_refl _, fun _ => refl _⟩
    | letter => simp
    | unit => simp
    | pair => simp
  | letter listed =>
    cases denotes with
    | verbatim quote backslash visible =>
      exact absurd listed (not_mem_letters_of_visible quote backslash visible _)
    | letter stands =>
      rcases shortEscape?_eq_some_iff.1 stands with ⟨rfl, rfl⟩ | other
      · exact absurd listed (not_mem_letters_of_visible (by decide) (by decide) (by decide) _)
      · rw [letter_unique listed other]
        exact ⟨Nat.le_refl _, fun _ => refl _⟩
    | unit digits => simp [digits.length]
    | pair first _ second => simp [first.length, second.length]
  | unit control unlisted high low =>
    cases denotes with
    | verbatim _ _ visible => omega
    | letter stands =>
      rcases shortEscape?_eq_some_iff.1 stands with ⟨rfl, rfl⟩ | listed
      · exact absurd control (by decide)
      · exact absurd listed (unlisted _)
    | pair first _ second => simp [first.length, second.length]
    | unit digits =>
      exact ⟨by simp [digits.length], fun _ => .cons (.inl rfl) (.cons (.inl rfl)
        (digits.upToCase control high low))⟩

theorem shortest_pieces {cs : List Char} {written pieces : List (List Char)}
    (canonical : List.Forall₂ Canonical cs written) (denoted : List.Forall₂ Denotes cs pieces) :
    written.flatten.length ≤ pieces.flatten.length ∧
      (pieces.flatten.length = written.flatten.length →
        List.Forall₂ UpToCase pieces.flatten written.flatten) := by
  induction denoted generalizing written with
  | nil =>
    cases canonical
    exact ⟨Nat.le_refl _, fun _ => .nil⟩
  | @cons c piece cs pieces denotes _ ih =>
    cases canonical with
    | @cons _ own _ written canonical rest =>
      obtain ⟨shorter, alike⟩ := canonical.shortest denotes
      obtain ⟨restShorter, restAlike⟩ := ih rest
      simp only [List.flatten_cons, List.length_append]
      refine ⟨Nat.add_le_add shorter restShorter, fun same => ?_⟩
      exact List.rel_append (alike (by omega)) (restAlike (by omega))

/-- A literal that is written is delimited by itself and canonical. Whatever follows it, a scan
gives its text and stops behind it; it is the one literal in which every character stands in its
canonical form; and of all literals that scan to the text none is shorter, and one that is as long
differs in the case of hexadecimal digits at most. -/
theorem scan_write_canonical (cs rest : List Char) :
    scan (write cs ++ rest) = some (cs, rest) ∧
    (∀ text, Quoted Canonical cs text ↔ text = write cs) ∧
    ∀ literal, scan (literal ++ rest) = some (cs, rest) →
      (write cs).length ≤ literal.length ∧
        (literal.length = (write cs).length → List.Forall₂ UpToCase literal (write cs)) := by
  obtain ⟨written, canonical, text⟩ := quoted_canonical_iff.2 (rfl : write cs = write cs)
  refine ⟨?_, fun _ => quoted_canonical_iff, fun literal scanned => ?_⟩
  · have denoted := canonical.imp fun _ _ piece => piece.denotes
    exact scan_of_quoted ⟨written, denoted, text⟩ rest
  · obtain ⟨own, ⟨pieces, denoted, rfl⟩, split⟩ := scan_eq_some_iff.1 scanned
    obtain rfl := List.append_cancel_right split
    obtain ⟨shorter, alike⟩ := shortest_pieces canonical denoted
    rw [text]
    simp only [List.length_cons, List.length_append, List.length_nil]
    refine ⟨by omega, fun same => .cons (.inl rfl) ?_⟩
    exact List.rel_append (alike (by omega)) (.cons (.inl rfl) .nil)

theorem scan_write_canonical_capital :
    scan (['"', '\\', 'u', '0', '0', '1', 'F', '/', '"'] ++ [',', '"']) =
        some (['\x1f', '/'], [',', '"']) ∧
      write ['\x1f', '/'] = ['"', '\\', 'u', '0', '0', '1', 'f', '/', '"'] ∧
      List.Forall₂ UpToCase ['"', '\\', 'u', '0', '0', '1', 'F', '/', '"'] (write ['\x1f', '/']) := by
  have scanned : scan (['"', '\\', 'u', '0', '0', '1', 'F', '/', '"'] ++ [',', '"']) =
      some (['\x1f', '/'], [',', '"']) := by decide
  obtain ⟨-, -, shortest⟩ := scan_write_canonical ['\x1f', '/'] [',', '"']
  exact ⟨scanned, by decide, (shortest _ scanned).2 (by decide)⟩

end DungeonForge.Json.Literal
