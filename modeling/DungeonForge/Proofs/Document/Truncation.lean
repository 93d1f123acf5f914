import DungeonForge.Proofs.Document.Brackets

/-!
Truncated documents. A reader that has seen an opening bracket has a container open until it has
finished the whole text, so behind a finished text only white space is accepted. A document is one
object, and behind its last bracket stands a line break at most.
-/

namespace DungeonForge

namespace Json

namespace State

def Enclosed (s : State) : Prop :=
  s.frames = [] → ∃ v, s.mode = .done v

theorem Enclosed.of_filled {s : State} (filled : s.frames ≠ []) : s.Enclosed :=
  fun empty => absurd empty filled

theorem enclosed_place {fs : List Frame} {v : Value} {t : State} (placed : place fs v = some t) :
    t.Enclosed := by
  unfold place at placed
  split at placed <;> cases placed
  · exact fun _ => ⟨v, rfl⟩
  · exact Enclosed.of_filled (by simp)
  · exact Enclosed.of_filled (by simp)

theorem enclosed_openValue {fs : List Frame} (filled : fs ≠ []) {c : Char} {t : State}
    (opened : openValue fs c = some t) : t.Enclosed := by
  apply Enclosed.of_filled
  unfold openValue at opened
  split at opened
  case h_8 =>
    obtain ⟨n, -, rfl⟩ := Option.map_eq_some_iff.1 opened
    exact filled
  all_goals
    cases opened
    simp [filled]

theorem enclosed_afterValue {fs : List Frame} {c : Char} {t : State}
    (read : afterValue fs c = some t) : t.Enclosed := by
  unfold afterValue at read
  split at read
  · split_ifs at read
    · cases read
      exact Enclosed.of_filled (by simp)
    · exact enclosed_place read
  · split_ifs at read
    · cases read
      exact Enclosed.of_filled (by simp)
    · exact enclosed_place read
  · cases read

theorem enclosed_openKey {fs : List Frame} (filled : fs ≠ []) {c : Char} {t : State}
    (opened : openKey fs c = some t) : t.Enclosed := by
  unfold openKey at opened
  split_ifs at opened
  cases opened
  exact Enclosed.of_filled filled

theorem enclosed_nameMember {fs : List Frame} {key : String} {t : State}
    (named : nameMember fs key = some t) : t.Enclosed := by
  unfold nameMember at named
  split at named <;> cases named
  exact Enclosed.of_filled (by simp)

theorem Enclosed.stepAfter {s t : State} (h : s.Enclosed) {c : Char}
    (read : s.stepAfter c = some t) : t.Enclosed := by
  unfold State.stepAfter at read
  split at read
  · next v _ =>
    split_ifs at read
    cases read
    exact fun _ => ⟨v, rfl⟩
  · split_ifs at read
    · cases read
      exact h
    · exact enclosed_afterValue read
  · cases read

theorem Enclosed.step {s t : State} (h : s.Enclosed) {c : Char} (read : s.step c = some t) :
    t.Enclosed := by
  by_cases filled : s.frames = []
  · obtain ⟨v, mode⟩ := h filled
    rw [State.step, mode] at read
    exact h.stepAfter read
  have blank : some s = some t → t.Enclosed := fun same => Option.some.inj same ▸ h
  have stays (m : Mode) : some (State.mk s.frames m) = some t → t.Enclosed := fun same =>
    Option.some.inj same ▸ Enclosed.of_filled filled
  cases mode : s.mode with
  | value =>
    simp only [State.step, mode] at read
    split_ifs at read
    · exact blank read
    · exact enclosed_openValue filled read
  | itemOrClose =>
    simp only [State.step, mode] at read
    split_ifs at read
    · exact blank read
    · exact enclosed_afterValue read
    · exact enclosed_openValue filled read
  | keyOrClose =>
    simp only [State.step, mode] at read
    split_ifs at read
    · exact blank read
    · exact enclosed_afterValue read
    · exact enclosed_openKey filled read
  | key =>
    simp only [State.step, mode] at read
    split_ifs at read
    · exact blank read
    · exact enclosed_openKey filled read
  | colon =>
    simp only [State.step, mode] at read
    split_ifs at read
    · exact blank read
    · exact stays _ read
  | commaOrClose =>
    simp only [State.step, mode] at read
    exact h.stepAfter read
  | done v =>
    simp only [State.step, mode] at read
    exact h.stepAfter read
  | keyLiteral p =>
    simp only [State.step, mode] at read
    split at read
    · exact stays _ read
    · exact enclosed_nameMember read
    · cases read
  | literal p =>
    simp only [State.step, mode] at read
    split at read
    · exact stays _ read
    · exact enclosed_place read
    · cases read
  | word rest v =>
    simp only [State.step, mode] at read
    split at read
    · cases read
    · split_ifs at read
      exact enclosed_place read
    · split_ifs at read
      exact stays _ read
  | numeral n =>
    simp only [State.step, mode] at read
    split at read
    · exact stays _ read
    · -- the character stands behind the numeral, which joins its container first
      obtain ⟨v, -, rest⟩ := Option.bind_eq_some_iff.1 read
      obtain ⟨u, placed, last⟩ := Option.bind_eq_some_iff.1 rest
      exact (enclosed_place placed).stepAfter last

theorem Enclosed.run {s t : State} (h : s.Enclosed) {text : List Char}
    (read : s.run text = some t) : t.Enclosed := by
  induction text generalizing s with
  | nil =>
    cases read
    exact h
  | cons c text ih =>
    rw [State.run] at read
    split at read
    · next u first => exact ih (h.step first) read
    · cases read

theorem Enclosed.done_of_result {s : State} (h : s.Enclosed) {v : Value}
    (result : s.result? = some v) : ∃ w, s.mode = .done w := by
  unfold result? at result
  split at result
  · next w mode => exact ⟨_, mode⟩
  · next empty => exact h empty
  · cases result

theorem blank_of_run_done {s t : State} {v : Value} (mode : s.mode = .done v) {text : List Char}
    (read : s.run text = some t) : ∀ c ∈ text, isSpace c = true := by
  induction text generalizing s with
  | nil => exact List.forall_mem_nil _
  | cons c text ih =>
    have step : s.step c = if isSpace c then some ⟨s.frames, .done v⟩ else none := by
      simp only [State.step, stepAfter, mode]
    rw [State.run, step] at read
    by_cases blank : isSpace c = true
    · rw [if_pos blank] at read
      exact List.forall_mem_cons.2 ⟨blank, ih rfl read⟩
    · rw [if_neg blank] at read
      cases read

end State

/-- If a text that begins with a bracket is complete, and so is a text that goes on behind it, then
white space is all that follows. -/
theorem blank_of_read?_front {c : Char} (opens : isOpening c = true) {front back : List Char}
    {v w : Value} (cut : read? (c :: front) = some v)
    (whole : read? (c :: front ++ back) = some w) : ∀ b ∈ back, State.isSpace b = true := by
  obtain ⟨s, first, enclosed⟩ : ∃ s, State.initial.step c = some s ∧ s.Enclosed := by
    rcases isOpening_cases opens with rfl | rfl
    · exact ⟨_, rfl, State.Enclosed.of_filled (by simp)⟩
    · exact ⟨_, rfl, State.Enclosed.of_filled (by simp)⟩
  obtain ⟨t, read, result⟩ := Option.bind_eq_some_iff.1 cut
  obtain ⟨u, readAll, -⟩ := Option.bind_eq_some_iff.1 whole
  rw [State.run_append, read, Option.bind_some] at readAll
  have rest : s.run front = some t := by rwa [State.run, first] at read
  obtain ⟨z, mode⟩ := (enclosed.run rest).done_of_result result
  exact State.blank_of_run_done mode readAll

end Json

namespace Dungeon

open Json (Layout)

def documentEnd : Layout → List Char
  | .compact => []
  | .pretty _ => ['\n']

theorem render_eq_brackets (d : Dungeon) (layout : Layout) :
    ∃ inside, d.render layout = '\x7b' :: (inside ++ '\x7d' :: documentEnd layout) := by
  obtain ⟨inside, written⟩ : ∃ inside,
      d.documentValue.write layout 0 = '\x7b' :: (inside ++ ['\x7d']) := by
    simp only [documentValue, Json.Value.write, ← List.append_assoc]
    exact ⟨_, rfl⟩
  refine ⟨inside, ?_⟩
  cases layout with
  | compact => exact written
  | pretty indent => simp [render, documentEnd, written]

theorem exists_documentEnd_eq_append {d : Dungeon} {layout : Layout} {front back : List Char}
    (cut : d.render layout = front ++ back) (blank : ∀ b ∈ back, Json.State.isSpace b = true) :
    ∃ u, documentEnd layout = u ++ back := by
  have unclosed : '\x7d' ∉ back := fun mem => absurd (blank _ mem) (by decide)
  obtain ⟨inside, brackets⟩ := d.render_eq_brackets layout
  rw [brackets, ← List.cons_append] at cut
  rcases List.append_eq_append_iff.1 cut with ⟨u, -, behind⟩ | ⟨u, -, behind⟩
  · cases u with
    | nil =>
      have last : '\x7d' :: documentEnd layout = back := behind
      exact absurd (last ▸ List.mem_cons_self) unclosed
    | cons c u => exact ⟨u, (List.cons.inj behind).2⟩
  · exact absurd (behind ▸ List.mem_append_right u List.mem_cons_self) unclosed

/-- A dungeon without a violation has a document in every layout. If the document is cut short,
even by one character, what is left of it is no complete text, unless it is a pretty document that
lacks its last line break only. -/
theorem document?_cut (d : Dungeon) (layout : Layout) (valid : d.firstViolation? = none) :
    ∃ text, d.document? layout = .ok text ∧
      ∀ front back, text.toList = front ++ back → back ≠ [] →
        ((∃ v, Json.read? front = some v) ↔
          (∃ indent, layout = .pretty indent) ∧ back = ['\n']) := by
  refine ⟨_, document?_eq_ok_iff.2 ⟨valid, rfl⟩, fun front back cut unfinished => ?_⟩
  rw [String.toList_ofList] at cut
  constructor
  · rintro ⟨v, read⟩
    have blank : ∀ b ∈ back, Json.State.isSpace b = true := by
      have whole := d.read?_render layout
      obtain ⟨inside, brackets⟩ := d.render_eq_brackets layout
      rw [cut] at whole brackets
      cases front with
      | nil => cases read
      | cons c front =>
        obtain ⟨rfl, -⟩ := List.cons.inj brackets
        exact Json.blank_of_read?_front rfl read whole
    obtain ⟨u, ending⟩ := exists_documentEnd_eq_append cut blank
    cases layout with
    | compact => exact absurd (List.append_eq_nil_iff.1 ending.symm).2 unfinished
    | pretty indent =>
      rcases List.append_eq_singleton_iff.1 ending.symm with ⟨-, last⟩ | ⟨-, none⟩
      · exact ⟨⟨indent, rfl⟩, last⟩
      · exact absurd none unfinished
  · rintro ⟨⟨indent, rfl⟩, rfl⟩
    obtain rfl : d.documentValue.write (.pretty indent) 0 = front := List.append_cancel_right cut
    have read := Json.read?_write (.pretty indent) d.documentValue [] (by simp)
    rw [List.append_nil] at read
    exact ⟨_, read⟩

theorem document?_cut_riddledKeep :
    riddledKeep.firstViolation? = none ∧
      (∃ text, riddledKeep.document? .compact = .ok text ∧
        ∀ front back, text.toList = front ++ back → back ≠ [] → Json.read? front = none) ∧
      ∃ text, riddledKeep.document? (.pretty 0) = .ok text ∧
        ∀ front back, text.toList = front ++ back → back ≠ [] →
          ((∃ v, Json.read? front = some v) ↔
            (∃ indent, Json.Layout.pretty 0 = .pretty indent) ∧ back = ['\n']) := by
  have valid : riddledKeep.firstViolation? = none := by decide
  obtain ⟨text, written, cuts⟩ := document?_cut riddledKeep .compact valid
  refine ⟨valid, ⟨text, written, fun front back cut unfinished => ?_⟩,
    document?_cut riddledKeep (.pretty 0) valid⟩
  refine Option.eq_none_iff_forall_ne_some.2 fun v read => ?_
  obtain ⟨⟨indent, pretty⟩, -⟩ := (cuts front back cut unfinished).1 ⟨v, read⟩
  cases pretty

end Dungeon

end DungeonForge
