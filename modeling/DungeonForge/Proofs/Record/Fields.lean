import DungeonForge.Record.Basic
import Mathlib.Data.List.Forall2
import Mathlib.Data.List.Nodup

/-!
Reading records from tables. A table whose keys are distinct has an entry for a field or leaves it
out; what the entry holds is then what the field is read as, in whatever order the entries stand and
whatever else is among them.
-/

namespace DungeonForge

theorem bind_eq_ok_iff {ε α β : Type} {x : Except ε α} {f : α → Except ε β} {b : β} :
    (x >>= f) = .ok b ↔ ∃ a, x = .ok a ∧ f a = .ok b := by
  cases x <;> simp [bind, Except.bind]

theorem mapError_eq_ok_iff {ε ε' α : Type} {x : Except ε α} {f : ε → ε'} {a : α} :
    x.mapError f = .ok a ↔ x = .ok a := by
  cases x <;> simp [Except.mapError]

theorem Record.settle_eq_ok {V E : Type} {r : Record V} {fields : List (String × Except E Unit)}
    (fine : ∀ f ∈ fields, f.2 = .ok ()) : r.settle fields = .ok () := by
  have quiet : ∀ fs : List (String × Except E Unit), (∀ f ∈ fs, f.2 = .ok ()) →
      fs.forM Prod.snd = .ok () := by
    intro fs
    induction fs with
    | nil =>
      intro _
      rfl
    | cons f fs ih =>
      intro fine
      obtain ⟨first, rest⟩ := List.forall_mem_cons.1 fine
      change (f.2 >>= fun _ => fs.forM Prod.snd) = .ok ()
      rw [first]
      exact ih rest
  unfold settle
  cases r with
  | keyed kind entries => exact quiet _ fun f mem => fine f (List.mem_mergeSort.1 mem)
  | positional kind items => exact quiet _ fine

theorem Slot.check_of_getD {E α : Type} {s : Slot E α} {other a : α}
    (read : s.getD other = .ok a) : s.check.2 = .ok () := by
  unfold getD at read
  unfold check
  cases value : s.value with
  | ok v => rfl
  | error e =>
    rw [value] at read
    cases read

section Entries

variable {V : Type}

/-- An entry with the key holds what is meant. -/
def Has (entries : List (String × V)) (key : String) (holds : V → Prop) : Prop :=
  ∃ v, (key, v) ∈ entries ∧ holds v

def HasUnless (mayOmit : Prop) (entries : List (String × V)) (key : String)
    (holds : V → Prop) : Prop :=
  Has entries key holds ∨ mayOmit ∧ key ∉ entries.map Prod.fst

variable {W : Type} {entries : List (String × V)} {key : String} {holds : V → Prop}
  {holds' : W → Prop} {mayOmit : Prop} {change : V → W}

theorem Has.map (has : Has entries key holds) (kept : ∀ v, holds v → holds' (change v)) :
    Has (entries.map (Prod.map id change)) key holds' := by
  obtain ⟨v, mem, held⟩ := has
  exact ⟨change v, List.mem_map_of_mem mem, kept v held⟩

theorem map_fst_map_change :
    (entries.map (Prod.map id change)).map Prod.fst = entries.map Prod.fst := by
  rw [List.map_map]
  rfl

theorem HasUnless.map (has : HasUnless mayOmit entries key holds)
    (kept : ∀ v, holds v → holds' (change v)) :
    HasUnless mayOmit (entries.map (Prod.map id change)) key holds' := by
  rcases has with has | ⟨may, absent⟩
  · exact .inl (has.map kept)
  · exact .inr ⟨may, by rwa [map_fst_map_change]⟩

theorem find?_reverse_of_mem (distinct : (entries.map Prod.fst).Nodup) {v : V}
    (mem : (key, v) ∈ entries) : entries.reverse.find? (fun e => e.1 == key) = some (key, v) := by
  have there : (entries.reverse.find? fun e => e.1 == key).isSome :=
    List.find?_isSome.2 ⟨(key, v), List.mem_reverse.2 mem, beq_self_eq_true key⟩
  obtain ⟨e, found⟩ := Option.isSome_iff_exists.1 there
  have same : e.1 = key := by simpa using List.find?_some found
  have inTable : e ∈ entries := List.mem_reverse.1 (List.mem_of_find?_eq_some found)
  rw [found, List.inj_on_of_nodup_map distinct inTable mem same]

theorem find?_reverse_of_notMem (absent : key ∉ entries.map Prod.fst) :
    entries.reverse.find? (fun e => e.1 == key) = none := by
  refine List.find?_eq_none.2 fun e mem same => absent ?_
  rw [← eq_of_beq same]
  exact List.mem_map_of_mem (List.mem_reverse.1 mem)

end Entries

namespace Format

variable {V E α : Type} {fmt : Format V E}

theorem getD_slot_keyed {kind : RecordKind} {es : List (String × V)} {place : Nat} {key : String}
    {read : V → Except E α} {other a : α} :
    (fmt.slot (.keyed kind es) place key read).getD other = .ok a ↔
      match (es.reverse.find? fun e => e.1 == key).map Prod.snd with
      | none => other = a
      | some v => read v = .ok a := by
  unfold slot Slot.getD
  dsimp only
  cases es.reverse.find? fun e => e.1 == key with
  | none => simp [Except.map]
  | some e =>
    dsimp only [Option.map_some]
    cases read e.2 <;> simp [Except.map, Except.mapError]

section Keyed

variable {entries : List (String × V)} {key : String} {holds : V → Prop} {mayOmit : Prop}
  {read : V → Except E α} {a other : α}

theorem slot_of_has (fmt : Format V E) (kind : RecordKind) (place : Nat)
    (distinct : (entries.map Prod.fst).Nodup) (has : Has entries key holds)
    (reads : ∀ v, holds v → read v = .ok a) :
    (fmt.slot (.keyed kind entries) place key read).check.2 = .ok () ∧
      fmt.require (.keyed kind entries) (fmt.slot (.keyed kind entries) place key read) = .ok a := by
  obtain ⟨v, mem, held⟩ := has
  simp only [slot, find?_reverse_of_mem distinct mem, reads v held]
  exact ⟨rfl, rfl⟩

theorem slot_of_hasUnless (fmt : Format V E) (kind : RecordKind) (place : Nat)
    (distinct : (entries.map Prod.fst).Nodup) (has : HasUnless mayOmit entries key holds)
    (reads : ∀ v, holds v → read v = .ok a) (default : mayOmit → other = a) :
    (fmt.slot (.keyed kind entries) place key read).check.2 = .ok () ∧
      (fmt.slot (.keyed kind entries) place key read).getD other = .ok a := by
  rcases has with ⟨v, mem, held⟩ | ⟨may, absent⟩
  · simp only [slot, find?_reverse_of_mem distinct mem, reads v held]
    exact ⟨rfl, rfl⟩
  · simp only [slot, find?_reverse_of_notMem absent, ← default may]
    exact ⟨rfl, rfl⟩

end Keyed

theorem record_of_table {kind : RecordKind} {v : V} {entries : List (String × V)}
    (table : fmt.shape v = .table entries) : fmt.record kind v = .ok (.keyed kind entries) := by
  rw [record, table]

/-- A table with distinct keys, whose entries hold what is meant. -/
def IsTable (fmt : Format V E) (holds : List (String × V) → Prop) (v : V) : Prop :=
  ∃ entries, fmt.shape v = .table entries ∧ (entries.map Prod.fst).Nodup ∧ holds entries

def IsList (fmt : Format V E) (holds : α → V → Prop) (as : List α) (v : V) : Prop :=
  ∃ items, fmt.shape v = .list items ∧ List.Forall₂ holds as items

theorem list_of_isList {holds : α → V → Prop} {read : V → Except E α}
    (reads : ∀ a v, holds a v → read v = .ok a) {as : List α} {v : V}
    (list : fmt.IsList holds as v) : fmt.list read v = .ok as := by
  obtain ⟨items, shape, related⟩ := list
  have each : ∀ i, fmt.itemsFrom read i items = .ok as := by
    clear shape
    induction related with
    | nil => exact fun _ => rfl
    | cons first _ ih =>
      intro i
      refine bind_eq_ok_iff.2 ⟨_, mapError_eq_ok_iff.2 (reads _ _ first), ?_⟩
      exact bind_eq_ok_iff.2 ⟨_, ih (i + 1), rfl⟩
  rw [Format.list, shape]
  exact each 0

def IsText (fmt : Format V E) (s : String) (v : V) : Prop :=
  fmt.shape v = .other (.text s)

def IsFlag (fmt : Format V E) (b : Bool) (v : V) : Prop :=
  fmt.shape v = .other (.boolean b)

def IsInteger (fmt : Format V E) (n : Int) (v : V) : Prop :=
  fmt.shape v = .other (.integer n)

/-- Scalars that are of the type of their field need no conversion. -/
structure Faithful (fmt : Format V E) : Prop where
  text : ∀ s v, fmt.IsText s v → fmt.text v = .ok s
  flag : ∀ b v, fmt.IsFlag b v → fmt.flag v = .ok b
  unsigned32 : ∀ (n : UInt32) v, fmt.IsInteger n.toNat v → fmt.unsigned32 v = .ok n
  signed32 : ∀ (n : Int32) v, fmt.IsInteger n.toInt v → fmt.signed32 v = .ok n

theorem Faithful.optional_text (faithful : fmt.Faithful) {s : String} {v : V}
    (text : fmt.IsText s v) : fmt.optional fmt.text v = .ok (some s) := by
  have shape : fmt.shape v = .other (.text s) := text
  rw [optional, shape, faithful.text s v text]
  rfl

end Format

end DungeonForge
