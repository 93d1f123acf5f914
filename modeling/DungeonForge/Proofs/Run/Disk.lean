import Mathlib.Tactic.SplitIfs
import DungeonForge.Run.Disk

/-!
What a write changes: the text of one file and nothing else. Where there are no links, it does not
change where paths lead either, so what has been written is read back, and two paths to different
files still lead to them after a write through one of them.
-/

namespace DungeonForge.Files

theorem get?_put (fs : Files) (l : Location) (text : String) :
    (fs.put l text).get? l = some text := by
  unfold put
  split_ifs with there
  · unfold get? at there ⊢
    induction fs with
    | nil => cases there
    | cons f fs ih =>
      rw [List.map_cons, List.find?_cons]
      by_cases same : f.1 = l
      · simp [same]
      · have other : (f.1 == l) = false := beq_false_of_ne same
        rw [List.find?_cons, other] at there
        simp only [other, Bool.false_eq_true, if_false]
        exact ih there
  · have missing : fs.find? (fun f => f.1 == l) = none := by
      cases found : fs.find? (fun f => f.1 == l) with
      | none => rfl
      | some f => exact absurd (by rw [get?, found]; rfl) there
    simp [get?, List.find?_append, missing]

theorem get?_put_of_ne (fs : Files) {l m : Location} (text : String) (other : m ≠ l) :
    (fs.put l text).get? m = fs.get? m := by
  have elsewhere : (l == m) = false := beq_false_of_ne other.symm
  unfold put get?
  split_ifs with there
  · clear there
    induction fs with
    | nil => rfl
    | cons f fs ih =>
      rw [List.map_cons, List.find?_cons, List.find?_cons]
      by_cases same : f.1 = l
      · simp only [same, beq_self_eq_true, if_true, elsewhere]
        exact ih
      · rw [if_neg (by simpa using same)]
        cases f.1 == m with
        | true => rfl
        | false => exact ih
  · simp [List.find?_append, elsewhere]

theorem map_fst_put (fs : Files) (l : Location) (text : String) :
    (fs.put l text).map Prod.fst = fs.map Prod.fst ∨
      (fs.put l text).map Prod.fst = fs.map Prod.fst ++ [l] := by
  unfold put
  split_ifs
  · left
    rw [List.map_map]
    refine List.map_congr_left fun f _ => ?_
    by_cases same : f.1 = l
    · simp [same]
    · simp [same]
  · right
    rw [List.map_append]
    rfl

variable {fs : Files} {here : Location}

theorem isDirectory_eq (fs : Files) (here l : Location) :
    fs.isDirectory here l =
      (l.isPrefixOf here || (fs.map Prod.fst).any fun m => l.isPrefixOf m && l != m) := by
  rw [isDirectory, List.any_map]
  rfl

/-- Every directory on the way to the location is there. -/
def Reaches (fs : Files) (here l : Location) : Prop :=
  ∀ dir : Location, dir <+: l → dir ≠ l → fs.isDirectory here dir = true

theorem reaches_start (fs : Files) (here : Location) (path : String) :
    fs.Reaches here (if Path.isAbsolute path then [] else here) := by
  intro dir before other
  have around : dir <+: here := by
    split_ifs at before
    · exact before.trans (List.nil_prefix)
    · exact before
  rw [isDirectory_eq, List.isPrefixOf_iff_prefix.2 around, Bool.true_or]

theorem Reaches.enter {l m : Location} {name : String} (reached : fs.Reaches here l)
    (entered : fs.enter here l name = .ok m) : fs.Reaches here m := by
  unfold Files.enter at entered
  split_ifs at entered with notDir long
  obtain rfl : l.enter name = m := by simpa using entered
  have isDir : fs.isDirectory here l = true := by simpa using notDir
  unfold Location.enter
  split_ifs
  · exact reached
  · intro dir before other
    refine reached dir (before.trans (List.dropLast_prefix l)) ?_
    rintro rfl
    exact other (before.eq_of_length_le (by simp))
  · intro dir before other
    rcases List.prefix_concat_iff.1 before with same | inside
    · exact absurd same other
    · by_cases same : dir = l
      · rwa [same]
      · exact reached dir inside same

theorem Reaches.foldlM_enter {names : List String} {l m : Location} (reached : fs.Reaches here l)
    (entered : names.foldlM (fs.enter here) l = .ok m) : fs.Reaches here m := by
  induction names generalizing l with
  | nil =>
    cases entered
    exact reached
  | cons name names ih =>
    rw [List.foldlM_cons] at entered
    cases first : fs.enter here l name with
    | error fault =>
      rw [first] at entered
      cases entered
    | ok next =>
      rw [first] at entered
      exact ih (reached.enter first) entered

theorem locate_eq_ok_iff {path : String} {l : Location} :
    fs.locate here path = .ok l ↔
      (path.contains '\x00' = false ∧ path.isEmpty = false ∧
        path.utf8ByteSize ≤ Path.maxSize) ∧
      (Path.names path).foldlM (fs.enter here) (if Path.isAbsolute path then [] else here) =
        .ok l ∧
      ¬ (path.endsWith "/" ∨ fs.isDirectory here l) := by
  simp only [locate, bind, Except.bind, pure, Except.pure, throw, throwThe, MonadExceptOf.throw]
  generalize (if Path.isAbsolute path then ([] : Location) else here) = start
  split_ifs with hasNull isEmpty isLong
  · simp [hasNull]
  · simp [isEmpty]
  · simp [Nat.not_le.2 isLong]
  · have fine : path.contains '\x00' = false ∧ path.isEmpty = false ∧
        path.utf8ByteSize ≤ Path.maxSize :=
      ⟨by simpa using hasNull, by simpa using isEmpty, Nat.le_of_not_lt isLong⟩
    rw [and_iff_right fine]
    cases (Path.names path).foldlM (fs.enter here) start with
    | error fault => simp
    | ok there =>
      by_cases isDir : path.endsWith "/" ∨ fs.isDirectory here there
      · simp only [if_pos isDir, reduceCtorEq, Except.ok.injEq, false_iff, not_and]
        rintro rfl free
        exact free isDir
      · simp only [if_neg isDir, Except.ok.injEq]
        refine ⟨?_, And.left⟩
        rintro rfl
        exact ⟨rfl, isDir⟩

theorem reaches_of_locate {path : String} {l : Location}
    (leads : fs.locate here path = .ok l) : fs.Reaches here l := by
  obtain ⟨-, walked, -⟩ := locate_eq_ok_iff.1 leads
  exact (fs.reaches_start here path).foldlM_enter walked

theorem isDirectory_put {l : Location} (reached : fs.Reaches here l) (text : String)
    (dir : Location) : (fs.put l text).isDirectory here dir = fs.isDirectory here dir := by
  rcases fs.map_fst_put l text with same | more
  · rw [isDirectory_eq, isDirectory_eq, same]
  · rw [isDirectory_eq, more, List.any_append, ← Bool.or_assoc, ← isDirectory_eq]
    cases around : dir.isPrefixOf l && dir != l with
    | false => simp [around]
    | true =>
      simp only [Bool.and_eq_true, List.isPrefixOf_iff_prefix, bne_iff_ne] at around
      rw [reached dir around.1 around.2, Bool.true_or]

section

variable {gs : Files} (same : ∀ dir, gs.isDirectory here dir = fs.isDirectory here dir)

include same

theorem enter_congr {l m : Location} {name : String} (entered : fs.enter here l name = .ok m) :
    gs.enter here l name = .ok m := by
  unfold enter at entered ⊢
  rw [same l]
  split_ifs at entered ⊢ with notDir isLong
  exact entered

theorem foldlM_enter_congr {names : List String} {l m : Location}
    (entered : names.foldlM (fs.enter here) l = .ok m) :
    names.foldlM (gs.enter here) l = .ok m := by
  induction names generalizing l with
  | nil => exact entered
  | cons name names ih =>
    rw [List.foldlM_cons] at entered ⊢
    cases first : fs.enter here l name with
    | error fault =>
      rw [first] at entered
      cases entered
    | ok next =>
      rw [first] at entered
      rw [enter_congr same first]
      exact ih entered

theorem locate_congr {path : String} {l : Location} (leads : fs.locate here path = .ok l) :
    gs.locate here path = .ok l := by
  obtain ⟨fine, walked, free⟩ := locate_eq_ok_iff.1 leads
  exact locate_eq_ok_iff.2 ⟨fine, foldlM_enter_congr same walked, by rwa [same l]⟩

end

theorem locate_put_iff {path other text : String} {l m : Location}
    (leads : fs.locate here path = .ok l) :
    (fs.put l text).locate here other = .ok m ↔ fs.locate here other = .ok m := by
  have same := isDirectory_put (reaches_of_locate leads) text
  exact ⟨locate_congr fun dir => (same dir).symm, locate_congr same⟩

end DungeonForge.Files

namespace DungeonForge.Disk

theorem write_eq_ok_iff {disk written : Disk} {path text : String} :
    disk.write path text = .ok written ↔ ∃ l, disk.target disk.tree path = .ok l ∧
      written = { disk with tree := disk.tree.put l text } := by
  unfold write
  cases leads : disk.target disk.tree path with
  | error fault => simp [bind, Except.bind]
  | ok l => simp [bind, Except.bind, pure, Except.pure, eq_comm]

theorem write_eq_error_iff {disk : Disk} {path text : String} {fault : FileFault} :
    disk.write path text = .error fault ↔ disk.target disk.tree path = .error fault := by
  unfold write
  cases disk.target disk.tree path <;> simp [bind, Except.bind, pure, Except.pure]

/-- What has been written at a path is read there. -/
def ReadsBack (disk : Disk) : Prop :=
  ∀ (fs : Files) (path text : String) (l : Location), disk.target fs path = .ok l →
    disk.source (fs.put l text) path = some l

/-- The paths lead to different files, and still do after a write through the first. -/
def Apart (disk : Disk) (path other : String) : Prop :=
  ∀ l, disk.target disk.tree path = .ok l → disk.target disk.tree other ≠ .ok l ∧
    ∀ (text : String) (m : Location), disk.target (disk.tree.put l text) other = .ok m →
      disk.target disk.tree other = .ok m

theorem readsBack_ofFiles (files : Files) : (ofFiles files).ReadsBack := by
  intro fs path text l leads
  change ((fs.put l text).locate home path).toOption = some l
  rw [(Files.locate_put_iff leads).2 leads]
  rfl

theorem ReadsBack.read? {disk : Disk} {before : Files} {path text : String} {l : Location}
    (plain : disk.ReadsBack) (leads : disk.target before path = .ok l)
    (written : disk.tree = before.put l text) : disk.read? path = some text := by
  rw [Disk.read?, written, plain before path text l leads]
  exact Files.get?_put before l text

theorem apart_ofFiles {files : Files} {path other : String} {l m : Location}
    (leads : (ofFiles files).target (ofFiles files).tree path = .ok l)
    (otherLeads : (ofFiles files).target (ofFiles files).tree other = .ok m) (different : l ≠ m) :
    (ofFiles files).Apart path other := by
  intro l' leads'
  cases leads.symm.trans leads'
  refine ⟨fun same => different ?_, fun text m' => (Files.locate_put_iff leads).1⟩
  exact Except.ok.inj (same.symm.trans otherLeads)

end DungeonForge.Disk
