import DungeonForge.Config.Source
import Mathlib.Data.List.Nodup

/-!
No key of a TOML document is defined twice. Whatever a line does deeper down, to the entries of the
document itself it either adds an entry under a new key or gives a new value to a key that is there.
-/

namespace DungeonForge.Toml

namespace Entries

/-- How entries may change: by an entry under a new key, or by a new value for a key. -/
inductive Amends (es : Entries) : Entries → Prop
  | add {key : String} (absent : es.get? key = none) (v : Value) : Amends es (es.add key v)
  | replace (key : String) (v : Value) : Amends es (es.replace key v)

theorem map_fst_replace (es : Entries) (key : String) (v : Value) :
    (es.replace key v).map Prod.fst = es.map Prod.fst := by
  rw [replace, List.map_map]
  refine List.map_congr_left fun e _ => ?_
  by_cases same : e.1 = key
  · simp [same]
  · simp [same]

theorem Amends.distinct {es new : Entries} (amends : es.Amends new)
    (distinct : (es.map Prod.fst).Nodup) : (new.map Prod.fst).Nodup := by
  cases amends with
  | @add key absent v =>
    have unused : key ∉ es.map Prod.fst := by
      intro mem
      obtain ⟨e, there, rfl⟩ := List.mem_map.1 mem
      have missing := List.find?_eq_none.1 (Option.map_eq_none_iff.1 absent) e there
      exact missing (beq_self_eq_true e.1)
    rw [Entries.add, List.map_append]
    simpa using distinct.concat unused
  | replace key v => rwa [map_fst_replace]

theorem amends_of_assign {adds : Bool} {v : Value} {path : List String} {es new : Entries}
    (assigned : es.assign adds v path = some new) : es.Amends new := by
  unfold assign at assigned
  split at assigned
  · cases assigned
  · next key =>
    split at assigned
    · next fresh =>
      cases assigned
      exact .add (Option.isNone_iff_eq_none.1 fresh.2) v
    · cases assigned
  · next key rest _ =>
    split at assigned
    · next absent =>
      obtain ⟨inner, -, rfl⟩ := Option.map_eq_some_iff.1 assigned
      exact .add absent _
    · obtain ⟨inner, -, rfl⟩ := Option.map_eq_some_iff.1 assigned
      exact .replace key _
    · obtain ⟨inner, -, rfl⟩ := Option.map_eq_some_iff.1 assigned
      exact .replace key _
    · obtain ⟨inner, -, rfl⟩ := Option.map_eq_some_iff.1 assigned
      exact .replace key _
    · cases assigned

theorem amends_of_along {change : Entries → Option Entries} {path : List String} {es new : Entries}
    (top : ∀ new, change es = some new → es.Amends new)
    (changed : es.along change path = some new) : es.Amends new := by
  unfold along at changed
  split at changed
  · exact top new changed
  · next key rest =>
    split at changed
    · next absent =>
      obtain ⟨inner, -, rfl⟩ := Option.map_eq_some_iff.1 changed
      exact .add absent _
    · cases changed
    · obtain ⟨inner, -, rfl⟩ := Option.map_eq_some_iff.1 changed
      exact .replace key _
    · obtain ⟨inner, -, rfl⟩ := Option.map_eq_some_iff.1 changed
      exact .replace key _
    · cases changed

theorem amends_of_openTable {key : String} {es new : Entries}
    (opened : es.openTable key = some new) : es.Amends new := by
  unfold openTable at opened
  split at opened
  · next absent =>
    cases opened
    exact .add absent _
  · cases opened
    exact .replace key _
  · cases opened

theorem amends_of_openElement {key : String} {es new : Entries}
    (opened : es.openElement key = some new) : es.Amends new := by
  unfold openElement at opened
  split at opened
  · next absent =>
    cases opened
    exact .add absent _
  · cases opened
    exact .replace key _
  · cases opened

end Entries

theorem Draft.amends_of_add {d new : Draft} {line : Statement} (added : d.add line = some new) :
    d.root.Amends new.root := by
  cases line with
  | assign path v =>
    obtain ⟨root, changed, rfl⟩ := Option.map_eq_some_iff.1 added
    exact Entries.amends_of_along (fun _ => Entries.amends_of_assign) changed
  | table path =>
    simp only [Draft.add] at added
    split at added
    · cases added
    · obtain ⟨root, changed, rfl⟩ := Option.map_eq_some_iff.1 added
      exact Entries.amends_of_along (fun _ => Entries.amends_of_openTable) changed
  | element path =>
    simp only [Draft.add] at added
    split at added
    · cases added
    · obtain ⟨root, changed, rfl⟩ := Option.map_eq_some_iff.1 added
      exact Entries.amends_of_along (fun _ => Entries.amends_of_openElement) changed

theorem Draft.distinct_of_foldlM {lines : List Statement} {d new : Draft}
    (added : lines.foldlM Draft.add d = some new) (distinct : (d.root.map Prod.fst).Nodup) :
    (new.root.map Prod.fst).Nodup := by
  induction lines generalizing d with
  | nil =>
    cases added
    exact distinct
  | cons line lines ih =>
    obtain ⟨next, first, rest⟩ := Option.bind_eq_some_iff.1 added
    exact ih rest ((Draft.amends_of_add first).distinct distinct)

theorem distinct_of_document? {text : String} {es : Entries} (read : document? text = some es) :
    (es.map Prod.fst).Nodup := by
  obtain ⟨lines, -, read⟩ := Option.bind_eq_some_iff.1 read
  obtain ⟨draft, added, last⟩ := Option.bind_eq_some_iff.1 read
  cases last
  exact Draft.distinct_of_foldlM added List.nodup_nil

end DungeonForge.Toml

namespace DungeonForge.Config

theorem Node.map_fst_ofEntries (origin : String) (es : Toml.Entries) :
    (Node.ofEntries origin es).map Prod.fst = es.map Prod.fst := by
  induction es with
  | nil => rfl
  | cons e es ih => rw [Node.ofEntries, List.map_cons, List.map_cons, ih]

theorem SourceFile.distinct_of_entries {f : SourceFile} {es : List (String × Node)}
    (read : f.entries = .ok es) : (es.map Prod.fst).Nodup := by
  unfold SourceFile.entries at read
  split at read
  · cases read
  · next document =>
    cases read
    rw [Node.map_fst_ofEntries]
    exact Toml.distinct_of_document? document

end DungeonForge.Config
