import DungeonForge.Proofs.Document.Decode

/-!
The two layouts of a document. A scan that knows where string literals begin and end removes the
blanks and line breaks between them from a pretty document and is left with the compact one; inside
the literals nothing changes. The scan is followed through the text piece by piece: every piece
that is written begins and ends outside all literals.
-/

namespace DungeonForge

namespace Json

/-- Where a scan of a text stands: between the string literals, inside one, or inside one right
behind a backslash, which takes the next character with it. -/
inductive Region
  | outside | inside | escape
deriving DecidableEq, Repr

namespace Region

def next : Region → Char → Region
  | .outside, c => if c = '"' then .inside else .outside
  | .inside, c => if c = '"' then .outside else if c = '\\' then .escape else .inside
  | .escape, _ => .inside

def after (r : Region) (text : List Char) : Region :=
  text.foldl next r

/-- The characters of a text, each with the region that it stands in. A quote that closes a literal
still stands inside. -/
def marked : Region → List Char → List (Region × Char)
  | _, [] => []
  | r, c :: cs => (r, c) :: marked (r.next c) cs

theorem after_append (r : Region) (a b : List Char) : r.after (a ++ b) = (r.after a).after b :=
  List.foldl_append

theorem marked_append (r : Region) (a b : List Char) :
    marked r (a ++ b) = marked r a ++ marked (r.after a) b := by
  induction a generalizing r with
  | nil => rfl
  | cons c a ih =>
    simp only [List.cons_append, marked, ih]
    rfl

theorem map_snd_marked (r : Region) (text : List Char) : (r.marked text).map Prod.snd = text := by
  induction text generalizing r with
  | nil => rfl
  | cons c text ih => rw [marked, List.map_cons, ih]

end Region

def isPadding (m : Region × Char) : Bool :=
  m.1 = .outside && (m.2 = ' ' || m.2 = '\n')

/-- A text that begins in a region, without the blanks and line breaks outside its literals. -/
def squeezeFrom (r : Region) (text : List Char) : List Char :=
  ((r.marked text).filter fun m => !isPadding m).map Prod.snd

def squeeze (text : List Char) : List Char :=
  squeezeFrom .outside text

/-- The characters inside the string literals of a text, closing quotes included. -/
def literalChars (text : List Char) : List (Region × Char) :=
  (Region.outside.marked text).filter fun m => m.1 ≠ .outside

theorem squeezeFrom_append (r : Region) (a b : List Char) :
    squeezeFrom r (a ++ b) = squeezeFrom r a ++ squeezeFrom (r.after a) b := by
  rw [squeezeFrom, Region.marked_append, List.filter_append, List.map_append]
  rfl

theorem marked_squeezeFrom (r : Region) (text : List Char) :
    r.marked (squeezeFrom r text) = (r.marked text).filter fun m => !isPadding m := by
  induction text generalizing r with
  | nil => rfl
  | cons c cs ih =>
    by_cases padding : isPadding (r, c) = true
    · have same : r.next c = r := by
        obtain ⟨rfl, rfl | rfl⟩ : r = .outside ∧ (c = ' ' ∨ c = '\n') := by
          simpa [isPadding] using padding
        all_goals rfl
      have skipped : squeezeFrom r (c :: cs) = squeezeFrom r cs := by
        simp [squeezeFrom, Region.marked, padding, same]
      rw [skipped, ih]
      simp [Region.marked, padding, same]
    · have kept : squeezeFrom r (c :: cs) = c :: squeezeFrom (r.next c) cs := by
        simp [squeezeFrom, Region.marked, padding]
      rw [kept, Region.marked, ih]
      simp [Region.marked, padding]

theorem literalChars_squeeze (text : List Char) :
    literalChars (squeeze text) = literalChars text := by
  unfold literalChars squeeze
  rw [marked_squeezeFrom, List.filter_filter]
  refine List.filter_congr fun m _ => ?_
  obtain ⟨r, c⟩ := m
  cases r <;> simp [isPadding]

/-- The first text begins and ends outside all literals and becomes the second when squeezed. -/
structure Squeezes (a b : List Char) : Prop where
  ends : Region.outside.after a = .outside
  text : squeeze a = b

namespace Squeezes

theorem nil : Squeezes [] [] :=
  ⟨rfl, rfl⟩

theorem append {a b a' b' : List Char} (front : Squeezes a b) (back : Squeezes a' b') :
    Squeezes (a ++ a') (b ++ b') where
  ends := by rw [Region.after_append, front.ends, back.ends]
  text := by
    have rest : squeezeFrom .outside a' = b' := back.text
    rw [squeeze, squeezeFrom_append, front.ends, rest]
    exact congrArg (· ++ b') front.text

theorem of_plain {a : List Char} (plain : ∀ c ∈ a, c ≠ '"' ∧ c ≠ ' ' ∧ c ≠ '\n') :
    Squeezes a a := by
  induction a with
  | nil => exact nil
  | cons c a ih =>
    obtain ⟨⟨quote, blank, newline⟩, rest⟩ := List.forall_mem_cons.1 plain
    have first : Squeezes [c] [c] := by
      constructor
      · simp [Region.after, Region.next, quote]
      · simp [squeeze, squeezeFrom, Region.marked, isPadding, blank, newline]
    exact first.append (ih rest)

theorem cons {a b : List Char} {c : Char} (plain : c ≠ '"' ∧ c ≠ ' ' ∧ c ≠ '\n')
    (h : Squeezes a b) : Squeezes (c :: a) (c :: b) :=
  append (of_plain (List.forall_mem_singleton.2 plain)) h

theorem lineBreak (indent : UInt8) (depth : Nat) :
    Squeezes ((Layout.pretty indent).lineBreak depth) [] := by
  have blanks : ∀ n, Squeezes (List.replicate n ' ') [] := by
    intro n
    induction n with
    | zero => exact nil
    | succ n ih => exact append (a := [' ']) (b := []) ⟨rfl, rfl⟩ ih
  exact append (a := ['\n']) (b := []) ⟨rfl, rfl⟩ (blanks _)

theorem digits (n : Nat) : Squeezes (Decimal.digits n) (Decimal.digits n) := by
  refine of_plain fun c mem => ?_
  have digit : c.isDigit = true := Nat.isDigit_of_mem_toDigits (by decide) (by decide) mem
  refine ⟨?_, ?_, ?_⟩ <;>
  · rintro rfl
    cases digit

theorem integerText (n : Int) : Squeezes (integerText n) (integerText n) := by
  cases n with
  | ofNat k => exact digits k
  | negSucc k => exact cons (by decide) (digits (k + 1))

theorem decimalText (d : Decimal) : Squeezes (decimalText d) (decimalText d) := by
  have sign : Squeezes (if d.negative then ['-'] else []) (if d.negative then ['-'] else []) := by
    cases d.negative with
    | false => exact nil
    | true => exact cons (by decide) nil
  exact (sign.append (digits d.coefficient)).append (cons (by decide) (integerText d.exponent))

end Squeezes

theorem marked_escape (c : Char) :
    Region.inside.after (Literal.escape c) = .inside ∧
      ∀ m ∈ Region.inside.marked (Literal.escape c), m.1 ≠ .outside := by
  have letters : ∀ e ∈ Literal.letters, Region.inside.after ['\\', e.2] = .inside ∧
      ∀ m ∈ Region.inside.marked ['\\', e.2], m.1 ≠ .outside := by decide
  have digits : ∀ d ∈ Literal.lowerDigits, d ≠ '"' ∧ d ≠ '\\' := by simp [Literal.lowerDigits]
  have canonical := Literal.canonical_escape c
  generalize Literal.escape c = piece at canonical ⊢
  cases canonical with
  | verbatim quote backslash _ => simp [Region.after, Region.marked, Region.next, quote, backslash]
  | @letter l listed => exact letters (c, l) listed
  | @unit high low _ _ first second =>
    have high := digits high (List.mem_of_getElem? first)
    have low := digits low (List.mem_of_getElem? second)
    simp [Region.after, Region.marked, Region.next, high, low]

theorem marked_escaped (cs : List Char) :
    Region.inside.after (Literal.escaped cs) = .inside ∧
      ∀ m ∈ Region.inside.marked (Literal.escaped cs), m.1 ≠ .outside := by
  induction cs with
  | nil => exact ⟨rfl, List.forall_mem_nil _⟩
  | cons c cs ih =>
    obtain ⟨ends, within⟩ := marked_escape c
    have text : Literal.escaped (c :: cs) = Literal.escape c ++ Literal.escaped cs := rfl
    rw [text, Region.after_append, Region.marked_append, ends]
    exact ⟨ih.1, List.forall_mem_append.2 ⟨within, ih.2⟩⟩

theorem Squeezes.literal (cs : List Char) : Squeezes (Literal.write cs) (Literal.write cs) := by
  obtain ⟨ends, within⟩ := marked_escaped cs
  have body : squeezeFrom .inside (Literal.escaped cs) = Literal.escaped cs := by
    have all : (Region.inside.marked (Literal.escaped cs)).filter (fun m => !isPadding m) =
        Region.inside.marked (Literal.escaped cs) := by
      refine List.filter_eq_self.2 fun m mem => ?_
      simp [isPadding, within m mem]
    rw [squeezeFrom, all, Region.map_snd_marked]
  have opening : Region.outside.after ['"'] = .inside := rfl
  have split : Literal.write cs = ['"'] ++ (Literal.escaped cs ++ ['"']) := rfl
  constructor
  · rw [split, Region.after_append, Region.after_append, opening, ends]
    rfl
  · rw [split, squeeze, squeezeFrom_append, squeezeFrom_append, opening, ends, body]
    rfl

theorem Squeezes.colon (indent : UInt8) :
    Squeezes (Layout.pretty indent).colon Layout.compact.colon :=
  ⟨rfl, rfl⟩

mutual

theorem Value.squeezes_write (indent : UInt8) (depth depth' : Nat) (v : Value) :
    Squeezes (v.write (.pretty indent) depth) (v.write .compact depth') := by
  match v with
  | .null => exact ⟨rfl, rfl⟩
  | .boolean true => exact ⟨rfl, rfl⟩
  | .boolean false => exact ⟨rfl, rfl⟩
  | .integer n =>
    rw [Value.write, Value.write]
    exact .integerText n
  | .decimal d =>
    rw [Value.write, Value.write]
    exact .decimalText d
  | .string s =>
    rw [Value.write, Value.write]
    exact .literal s.toList
  | .array [] => exact ⟨rfl, rfl⟩
  | .array (v :: vs) =>
    have first := Value.squeezes_write indent (depth + 1) (depth' + 1) v
    have others := Value.squeezes_writeItems indent (depth + 1) (depth' + 1) vs
    have closing := (Squeezes.lineBreak indent depth).append (.cons (c := ']') (by decide) .nil)
    rw [Value.write, Value.write]
    exact .cons (by decide) ((Squeezes.lineBreak indent (depth + 1)).append
      (first.append (others.append closing)))
  | .object [] => exact ⟨rfl, rfl⟩
  | .object ((key, v) :: ms) =>
    have first := Value.squeezes_write indent (depth + 1) (depth' + 1) v
    have others := Value.squeezes_writeMembers indent (depth + 1) (depth' + 1) ms
    have closing := (Squeezes.lineBreak indent depth).append (.cons (c := '\x7d') (by decide) .nil)
    rw [Value.write, Value.write]
    exact .cons (by decide) ((Squeezes.lineBreak indent (depth + 1)).append
      ((Squeezes.literal key.toList).append ((Squeezes.colon indent).append
        (first.append (others.append closing)))))

theorem Value.squeezes_writeItems (indent : UInt8) (depth depth' : Nat) (vs : List Value) :
    Squeezes (Value.writeItems (.pretty indent) depth vs)
      (Value.writeItems .compact depth' vs) := by
  match vs with
  | [] => exact .nil
  | v :: vs =>
    have first := Value.squeezes_write indent depth depth' v
    have others := Value.squeezes_writeItems indent depth depth' vs
    rw [Value.writeItems, Value.writeItems]
    exact .cons (by decide) ((Squeezes.lineBreak indent depth).append (first.append others))

theorem Value.squeezes_writeMembers (indent : UInt8) (depth depth' : Nat)
    (ms : List (String × Value)) :
    Squeezes (Value.writeMembers (.pretty indent) depth ms)
      (Value.writeMembers .compact depth' ms) := by
  match ms with
  | [] => exact .nil
  | (key, v) :: ms =>
    have first := Value.squeezes_write indent depth depth' v
    have others := Value.squeezes_writeMembers indent depth depth' ms
    rw [Value.writeMembers, Value.writeMembers]
    exact .cons (by decide) ((Squeezes.lineBreak indent depth).append
      ((Squeezes.literal key.toList).append ((Squeezes.colon indent).append
        (first.append others))))

end

end Json

namespace Dungeon

theorem squeezes_render (d : Dungeon) (indent : UInt8) :
    Json.Squeezes (d.render (.pretty indent)) (d.render .compact) := by
  have value := d.documentValue.squeezes_write indent 0 0
  have last : Json.Squeezes ['\n'] [] := ⟨rfl, rfl⟩
  have both := value.append last
  rwa [List.append_nil] at both

/-- A dungeon without a violation has a document in both layouts. Without its blanks and line breaks
outside the string literals, the pretty document is the compact one, and inside the literals the two
are the same. -/
theorem document?_squeeze (d : Dungeon) (indent : UInt8) (valid : d.firstViolation? = none) :
    ∃ pretty compact, d.document? (.pretty indent) = .ok pretty ∧
      d.document? .compact = .ok compact ∧
      Json.squeeze pretty.toList = compact.toList ∧
      Json.literalChars pretty.toList = Json.literalChars compact.toList := by
  refine ⟨_, _, document?_eq_ok_iff.2 ⟨valid, rfl⟩, document?_eq_ok_iff.2 ⟨valid, rfl⟩, ?_⟩
  rw [String.toList_ofList, String.toList_ofList]
  have squeezed := (d.squeezes_render indent).text
  refine ⟨squeezed, ?_⟩
  rw [← squeezed, Json.literalChars_squeeze]

def riddledKeep : Dungeon where
  name := " \\\" ,\n[ \x7b: "
  theme := "\\"
  level := 7
  floors := [⟨"\" \"", [⟨"]\n\\\\", .large, .boss, " ", ["]\n\\\\", "]\n\\\\"], [], []⟩]⟩, ⟨"Void", []⟩]

theorem document?_squeeze_riddledKeep :
    riddledKeep.firstViolation? = none ∧
      ∃ pretty compact, riddledKeep.document? (.pretty 255) = .ok pretty ∧
        riddledKeep.document? .compact = .ok compact ∧
        Json.squeeze pretty.toList = compact.toList ∧
        Json.literalChars pretty.toList = Json.literalChars compact.toList := by
  have valid : riddledKeep.firstViolation? = none := by decide
  exact ⟨valid, document?_squeeze riddledKeep 255 valid⟩

end Dungeon

end DungeonForge
