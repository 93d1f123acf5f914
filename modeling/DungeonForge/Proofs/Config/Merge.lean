import DungeonForge.Config.Convert
import DungeonForge.Config.Merge
import Mathlib.Data.List.Induction
import Mathlib.Data.List.TakeWhile

/-!
Which source a setting comes from. A source either says nothing about a key, and then the sources
before it decide, or what it says last about the key decides alone, as far as scalars go: a key with
a path behind it makes a container, whatever was there, and a container is no scalar. Where the keys
of a source are distinct names and no paths, its entries are laid over the tree one for one. A single
source whose tables have distinct keys stays as it is, down to its first lists and scalars.
-/

namespace DungeonForge.Config

/-- As a path, the key is a single name. -/
def IsPlain (key : String) : Prop :=
  key ≠ "" ∧ key.toList.all Path.isNameChar = true

instance (key : String) : Decidable (IsPlain key) :=
  inferInstanceAs (Decidable (_ ∧ _))

theorem Path.ofText_of_isPlain {key : String} (plain : IsPlain key) : ofText key = ⟨key, []⟩ := by
  obtain ⟨nonempty, chars⟩ := plain
  rw [List.all_eq_true] at chars
  have name : readName key.toList = some (key, []) := by
    unfold readName
    simp only [List.takeWhile_eq_self_iff.2 chars, List.dropWhile_eq_nil_iff.2 chars]
    simp [nonempty]
  have steps : ∀ fuel, readSteps fuel [] = some [] := fun fuel => by cases fuel <;> rfl
  have read : ofText? key = some ⟨key, []⟩ := by
    unfold ofText?
    simp only [name, Option.bind_eq_bind, Option.bind_some, steps]
    rfl
  rw [ofText, read]
  rfl

namespace Node

def entries : Node → List (String × Node)
  | .table _ es => es
  | _ => []

/-- What a node has under a key, where the last entry with the key is the one that counts. -/
def field? (n : Node) (key : String) : Option Node :=
  (n.entries.reverse.find? fun e => e.1 == key).map Prod.snd

def isScalar : Node → Bool
  | .scalar _ _ => true
  | _ => false

theorem entries_changeKey (n : Node) (key : String) (change : Node → Node) :
    (n.changeKey key change).entries =
      if n.entries.any fun e => e.1 == key then
        n.entries.map fun e => if e.1 == key then (e.1, change e.2) else e
      else n.entries ++ [(key, change nothing)] := by
  cases n <;>
  · simp only [changeKey, apply_ite entries]
    rfl

theorem field?_changeKey (n : Node) (key : String) (change : Node → Node) :
    (n.changeKey key change).field? key = some (change ((n.field? key).getD nothing)) := by
  unfold field?
  rw [entries_changeKey]
  split
  · next there =>
    obtain ⟨e, mem, same⟩ := List.any_eq_true.1 there
    have found : (n.entries.reverse.find? fun e => e.1 == key).isSome :=
      List.find?_isSome.2 ⟨e, List.mem_reverse.2 mem, same⟩
    obtain ⟨last, found⟩ := Option.isSome_iff_exists.1 found
    have hit := List.find?_some found
    have keys : (fun e : String × Node => e.1 == key) ∘
        (fun e => if e.1 == key then (e.1, change e.2) else e) = fun e => e.1 == key := by
      funext e
      simp only [Function.comp_apply]
      split <;> rfl
    rw [← List.map_reverse, List.find?_map, keys, found]
    simp only [Option.map_some, if_pos hit, Option.getD_some]
  · next missing =>
    have none : n.entries.reverse.find? (fun e => e.1 == key) = none := by
      rw [List.find?_eq_none]
      intro e mem same
      exact missing (List.any_eq_true.2 ⟨e, List.mem_reverse.1 mem, same⟩)
    rw [List.reverse_append, none]
    simp

theorem field?_changeKey_of_ne (n : Node) {key other : String} (change : Node → Node)
    (different : other ≠ key) : (n.changeKey other change).field? key = n.field? key := by
  have elsewhere : (other == key) = false := beq_false_of_ne different
  unfold field?
  rw [entries_changeKey]
  split
  · rw [← List.map_reverse]
    induction n.entries.reverse with
    | nil => rfl
    | cons e es ih =>
      rw [List.map_cons, List.find?_cons, List.find?_cons]
      by_cases same : e.1 = other
      · simp only [same, beq_self_eq_true, if_true, elsewhere]
        exact ih
      · rw [if_neg (by simpa using same)]
        cases e.1 == key with
        | true => rfl
        | false => exact ih
  · simp [List.reverse_append, elsewhere]

theorem field?_merge_concat (n : Node) (source : List (String × Node)) (e : String × Node)
    (key : String) :
    (n.merge (source ++ [e])).field? key =
      if (Path.ofText e.1).root = key then
        some (changeAlong (overlay e.2) (Path.ofText e.1).steps
          (((n.merge source).field? key).getD nothing))
      else (n.merge source).field? key := by
  unfold merge
  rw [List.foldl_append, List.foldl_cons, List.foldl_nil]
  unfold changeAt
  split
  · next same =>
    rw [same]
    exact field?_changeKey _ key _
  · next different => exact field?_changeKey_of_ne _ _ different

theorem field?_merge_of_silent {source : List (String × Node)} {key : String}
    (silent : (emptyTable.merge source).field? key = none) (n : Node) :
    (n.merge source).field? key = n.field? key := by
  induction source using List.reverseRecOn with
  | nil => rfl
  | append_singleton source e ih =>
    rw [field?_merge_concat] at silent ⊢
    split at silent
    · cases silent
    · next different =>
      rw [if_neg different]
      exact ih silent

/-- A source whose keys are distinct names, no paths, is laid over a tree key by key. -/
theorem field?_merge_of_plain {source : List (String × Node)}
    (plain : ∀ e ∈ source, IsPlain e.1) (distinct : (source.map Prod.fst).Nodup) (n : Node)
    (key : String) :
    (n.merge source).field? key =
      match source.find? fun e => e.1 == key with
      | none => n.field? key
      | some e => some (overlay e.2 ((n.field? key).getD nothing)) := by
  induction source using List.reverseRecOn with
  | nil => rfl
  | append_singleton source e ih =>
    obtain ⟨front, last⟩ := List.forall_mem_append.1 plain
    rw [List.map_append, List.nodup_append] at distinct
    rw [field?_merge_concat, Path.ofText_of_isPlain (last e List.mem_cons_self),
      ih front distinct.1, List.find?_append]
    by_cases same : e.1 = key
    · subst same
      have fresh : source.find? (fun e' => e'.1 == e.1) = none := by
        refine List.find?_eq_none.2 fun e' mem => ?_
        have apart := distinct.2.2 e'.1 (List.mem_map_of_mem mem) e.1 List.mem_cons_self
        simpa using apart
      simp [fresh, changeAlong]
    · simp only [if_neg same]
      simp [same]

theorem isScalar_changeAlong_cons (change : Node → Node) (step : PathStep) (steps : List PathStep)
    (n : Node) : (changeAlong change (step :: steps) n).isScalar = false := by
  cases step with
  | key name =>
    cases n <;> simp only [changeAlong, changeKey] <;> split <;> rfl
  | index i => cases i <;> rfl

theorem field?_merge_of_spoken {source : List (String × Node)}
    (scalars : ∀ e ∈ source, e.2.isScalar = true) {key : String} {v : Node}
    (spoken : (emptyTable.merge source).field? key = some v) (n : Node) :
    ∃ w, (n.merge source).field? key = some w ∧
      (w = v ∨ w.isScalar = false ∧ v.isScalar = false) := by
  induction source using List.reverseRecOn with
  | nil => cases spoken
  | append_singleton source e ih =>
    obtain ⟨front, last⟩ := List.forall_mem_append.1 scalars
    rw [field?_merge_concat] at spoken ⊢
    split at spoken
    · next same =>
      rw [if_pos same]
      refine ⟨_, rfl, ?_⟩
      cases steps : (Path.ofText e.1).steps with
      | nil =>
        rw [steps] at spoken
        have scalar := last e List.mem_cons_self
        obtain ⟨name, value⟩ := e
        cases value with
        | scalar origin s =>
          cases spoken
          exact .inl rfl
        | list _ _ => cases scalar
        | table _ _ => cases scalar
      | cons step steps =>
        rw [steps] at spoken
        cases spoken
        exact .inr ⟨isScalar_changeAlong_cons _ _ _ _, isScalar_changeAlong_cons _ _ _ _⟩
    · next different =>
      rw [if_neg different]
      exact ih front spoken

theorem isScalar_of_asFlag {n : Node} {b : Bool} (read : n.asFlag = .ok b) : n.isScalar = true := by
  cases n with
  | scalar _ _ => rfl
  | list _ _ => cases read
  | table _ _ => cases read

def HasFlag (n : Node) (key : String) (b : Bool) : Prop :=
  ∃ v, n.field? key = some v ∧ v.asFlag = .ok b

/-- A flag of two sources is the second's, or else the first's if the second says nothing. -/
theorem hasFlag_ofSources (first : List (String × Node)) {second : List (String × Node)}
    (scalars : ∀ e ∈ second, e.2.isScalar = true) (key : String) (b : Bool) :
    (ofSources [first, second]).HasFlag key b ↔
      (ofSources [second]).HasFlag key b ∨
        (ofSources [second]).field? key = none ∧ (ofSources [first]).HasFlag key b := by
  have both : ofSources [first, second] = (ofSources [first]).merge second := rfl
  have alone : ofSources [second] = emptyTable.merge second := rfl
  rw [both, alone]
  cases said : (emptyTable.merge second).field? key with
  | none => simp [HasFlag, said, field?_merge_of_silent said]
  | some v =>
    obtain ⟨w, found, same⟩ := field?_merge_of_spoken scalars said (ofSources [first])
    simp only [HasFlag, said, found, Option.some.injEq, exists_eq_left', reduceCtorEq, false_and,
      or_false]
    obtain rfl | ⟨container, container'⟩ := same
    · rfl
    · have unread : ∀ {n : Node}, n.isScalar = false → n.asFlag ≠ .ok b := by
        intro n container read
        cases (isScalar_of_asFlag read).symm.trans container
      exact iff_of_false (unread container) (unread container')

theorem exists_table_changeKey (n : Node) (key : String) (change : Node → Node) :
    ∃ origin es, n.changeKey key change = .table origin es := by
  cases n <;> simp only [changeKey] <;> split <;> exact ⟨_, _, rfl⟩

theorem exists_table_ofSources (sources : List (List (String × Node))) :
    ∃ origin es, ofSources sources = .table origin es := by
  have merged : ∀ (source : List (String × Node)) (n : Node), (∃ origin es, n = .table origin es) →
      ∃ origin es, n.merge source = .table origin es := by
    intro source
    induction source with
    | nil => exact fun n table => table
    | cons e source ih => exact fun n _ => ih _ (exists_table_changeKey n _ _)
  unfold ofSources
  suffices ∀ n : Node, (∃ origin es, n = .table origin es) →
      ∃ origin es, sources.foldl merge n = .table origin es from this _ ⟨none, [], rfl⟩
  induction sources with
  | nil => exact fun n table => table
  | cons source sources ih => exact fun n table => ih _ (merged source n table)

theorem isScalar_overlayEntries {n : Node} (container : n.isScalar = false)
    (es : List (String × Node)) : (overlayEntries es n).isScalar = false := by
  induction es generalizing n with
  | nil => rwa [overlayEntries]
  | cons e es ih =>
    rw [overlayEntries]
    obtain ⟨origin, es', table⟩ := exists_table_changeKey n e.1 (overlay e.2)
    exact ih (by rw [table]; rfl)

theorem overlay_of_isScalar {v : Node} (scalar : v.isScalar = true) (n : Node) :
    overlay v n = v := by
  cases v with
  | scalar origin s => simp only [overlay]
  | list origin items => cases scalar
  | table origin es => cases scalar

theorem isScalar_overlay_nothing (v : Node) : (overlay v nothing).isScalar = v.isScalar := by
  cases v with
  | scalar origin s => simp only [overlay]
  | list origin items => simp only [overlay]
  | table origin es =>
    change (overlay (table origin es) (.scalar none .nothing)).isScalar = _
    rw [overlay]
    exact isScalar_overlayEntries rfl es

theorem overlay_of_no_table {n : Node} {shape : Shape Node} (is : n.shape = shape)
    (noTable : ∀ es, shape ≠ .table es) (m : Node) : overlay n m = n := by
  cases n with
  | scalar _ _ => simp only [overlay]
  | list _ _ => simp only [overlay]
  | table _ es => exact absurd is.symm (noTable es)

theorem changeKey_of_absent {origin : Option String} {es : List (String × Node)} {key : String}
    (absent : key ∉ es.map Prod.fst) (change : Node → Node) :
    (table origin es).changeKey key change = .table origin (es ++ [(key, change nothing)]) := by
  have none_there : ¬ (es.any fun e => e.1 == key) = true := by
    intro there
    obtain ⟨e, mem, same⟩ := List.any_eq_true.1 there
    exact absent (eq_of_beq same ▸ List.mem_map_of_mem mem)
  simp only [changeKey, none_there]
  rfl

theorem overlayEntries_of_distinct {es done : List (String × Node)}
    (distinct : ((done ++ es).map Prod.fst).Nodup) (origin : Option String) :
    overlayEntries es (table origin done) =
      .table origin (done ++ es.map (Prod.map id fun v => overlay v nothing)) := by
  induction es generalizing done with
  | nil => rw [overlayEntries, List.map_nil, List.append_nil]
  | cons e es ih =>
    obtain ⟨key, v⟩ := e
    have apart : key ∉ done.map Prod.fst := by
      rw [List.map_append, List.nodup_append] at distinct
      exact fun mem => distinct.2.2 key mem key List.mem_cons_self rfl
    have grown : (((done ++ [(key, overlay v nothing)]) ++ es).map Prod.fst).Nodup := by
      simpa using distinct
    rw [overlayEntries, changeKey_of_absent apart, ih grown, List.append_assoc]
    rfl

theorem overlay_table {es : List (String × Node)} (distinct : (es.map Prod.fst).Nodup)
    (origin : Option String) :
    overlay (table origin es) nothing =
      .table none (es.map (Prod.map id fun v => overlay v nothing)) := by
  have onEmpty : (([] ++ es).map Prod.fst).Nodup := distinct
  change overlay (table origin es) (.scalar none .nothing) = _
  rw [overlay]
  exact overlayEntries_of_distinct onEmpty none

theorem ofSources_singleton {key : String} (plain : Path.ofText key = ⟨key, []⟩) (n : Node) :
    ofSources [[(key, n)]] = .table none [(key, overlay n nothing)] := by
  simp only [ofSources, merge, List.foldl_cons, List.foldl_nil, plain, changeAt, changeAlong]
  exact changeKey_of_absent List.not_mem_nil _

end Node

end DungeonForge.Config
