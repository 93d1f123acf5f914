import DungeonForge.Proofs.Run.Course
import Mathlib

/-!
How a run ends. A run changes its disk twice at most, first by the report and then by the document,
so it is described by what stops it before the document is emitted, by the disk between the two
writes, and by how the document ends it from there: printed, cut short by the console, filed, or
refused by the output file.
-/

namespace DungeonForge

namespace Disk

variable (disk : Disk) (a : Arguments) (environment : Environment)

def CanReport (report : Option String) : Prop :=
  ∀ path, report = some path → ∃ l, disk.target disk.tree path = .ok l

/-- The rules let a run go on: they are skipped, or they are run and the report can be written, and
a strict run finds no error. -/
def Passes (d : Dungeon) (s : Settings) (report : Option String) : Prop :=
  s.skipRules = true ∨ disk.CanReport report ∧ (s.strict = true → d.inspect.hasErrors = false)

/-- What stops a run before its document is emitted. -/
inductive StopsEarly : RunError → Prop
  | settings {e : RunError} (failed : disk.settings a environment = .error e) : StopsEarly e
  | dungeon {s : Settings} {e : RunError} (settings : disk.settings a environment = .ok s)
    (failed : disk.dungeon a.manifest = .error e) : StopsEarly e
  | report {s : Settings} {d : Dungeon} {path : String} {fault : FileFault}
    (settings : disk.settings a environment = .ok s) (dungeon : disk.dungeon a.manifest = .ok d)
    (judged : s.skipRules = false) (asked : a.report = some path)
    (failed : disk.target disk.tree path = .error fault) : StopsEarly (.write path fault)
  | rules {s : Settings} {d : Dungeon} (settings : disk.settings a environment = .ok s)
    (dungeon : disk.dungeon a.manifest = .ok d) (judged : s.skipRules = false)
    (reported : disk.CanReport a.report) (strict : s.strict = true)
    (failed : d.inspect.hasErrors = true) : StopsEarly (.rules d.inspect.errors.length d.name)
  | violation {s : Settings} {d : Dungeon} {v : Violation}
    (settings : disk.settings a environment = .ok s) (dungeon : disk.dungeon a.manifest = .ok d)
    (passed : disk.Passes d s a.report) (failed : d.document? s.layout = .error v) :
    StopsEarly (.violation v)

/-- The run has got as far as a document that is to be emitted. -/
structure Ready (s : Settings) (d : Dungeon) (text : String) : Prop where
  settings : disk.settings a environment = .ok s
  dungeon : disk.dungeon a.manifest = .ok d
  passed : disk.Passes d s a.report
  document : d.document? s.layout = .ok text

/-- A report on the dungeon goes to the file: one is asked for, settings and manifest can be loaded,
and the rules are not skipped. -/
structure Reports (d : Dungeon) (l : Location) : Prop where
  asked : ∃ path, a.report = some path ∧ disk.target disk.tree path = .ok l
  judged : ∃ s, disk.settings a environment = .ok s ∧ s.skipRules = false
  dungeon : disk.dungeon a.manifest = .ok d

/-- The disk after the report, before the document is written. -/
def reported : Disk :=
  match disk.settings a environment, disk.dungeon a.manifest with
  | .ok s, .ok d => if s.skipRules then disk else (disk.review d s.strict a.report).2
  | _, _ => disk

/-- How a run ends that prints to the console. -/
inductive Ends (console : Console) : Except RunError Unit → Scene → Prop
  | stopped {e : RunError} (early : disk.StopsEarly a environment e) :
    Ends console (.error e) ⟨disk.reported a environment, console, .empty⟩
  | refused {s : Settings} {d : Dungeon} {text path : String} {fault : FileFault}
    (ready : disk.Ready a environment s d text) (output : s.output = some path)
    (failed : disk.target (disk.reported a environment).tree path = .error fault) :
    Ends console (.error (.write path fault)) ⟨disk.reported a environment, console, .empty⟩
  | filed {s : Settings} {d : Dungeon} {text path : String} {l : Location}
    (ready : disk.Ready a environment s d text) (output : s.output = some path)
    (leads : disk.target (disk.reported a environment).tree path = .ok l) :
    Ends console (.ok ())
      ⟨{ disk with tree := (disk.reported a environment).tree.put l text }, console, .empty⟩
  | cut {s : Settings} {d : Dungeon} {text : String} {e : SinkError} {shown : Transcript}
    (ready : disk.Ready a environment s d text) (output : s.output = none)
    (wrote : d.writeTo s.layout console.sink = (.error (.sink e), shown)) :
    Ends console (.error (.print (console.words e))) ⟨disk.reported a environment, console, shown⟩
  | printed {s : Settings} {d : Dungeon} {text : String} {shown : Transcript}
    (ready : disk.Ready a environment s d text) (output : s.output = none)
    (wrote : d.writeTo s.layout console.sink = (.ok (), shown)) :
    Ends console (.ok ()) ⟨disk.reported a environment, console, shown⟩

variable {disk a environment}

theorem review_write {d : Dungeon} {strict : Bool} {path : String} {l : Location}
    (leads : disk.target disk.tree path = .ok l) :
    disk.review d strict (some path) =
      (d.verdict strict, { disk with tree := disk.tree.put l (Program.reportText d.inspect) }) := by
  have wrote : disk.write path (Program.reportText d.inspect) = .ok _ :=
    write_eq_ok_iff.2 ⟨l, leads, rfl⟩
  simp only [review, wrote]

theorem review_refused {d : Dungeon} {strict : Bool} {path : String} {fault : FileFault}
    (failed : disk.target disk.tree path = .error fault) :
    disk.review d strict (some path) = (.error (.write path fault), disk) := by
  have refused : disk.write path (Program.reportText d.inspect) = .error fault :=
    write_eq_error_iff.2 failed
  simp only [review, refused]

theorem review_of_can (d : Dungeon) (strict : Bool) {report : Option String}
    (can : disk.CanReport report) :
    ∃ after, disk.review d strict report = (d.verdict strict, after) := by
  cases report with
  | none => exact ⟨disk, rfl⟩
  | some path =>
    obtain ⟨l, leads⟩ := can path rfl
    exact ⟨_, review_write leads⟩

theorem Reports.reported_eq {d : Dungeon} {l : Location} (due : disk.Reports a environment d l) :
    disk.reported a environment =
      { disk with tree := disk.tree.put l (Program.reportText d.inspect) } := by
  obtain ⟨⟨path, asked, leads⟩, ⟨s, settings, judged⟩, dungeon⟩ := due
  simp only [reported, settings, dungeon, judged, asked, review_write leads, Bool.false_eq_true,
    if_false]

theorem reported_eq_of_not_reports (free : ¬ ∃ d l, disk.Reports a environment d l) :
    disk.reported a environment = disk := by
  unfold reported
  split
  · next s d settings dungeon =>
    split_ifs with skipped
    · rfl
    · cases asked : a.report with
      | none => rfl
      | some path =>
        cases leads : disk.target disk.tree path with
        | error fault => rw [review_refused leads]
        | ok l =>
          have judged : s.skipRules = false := by simpa using skipped
          exact absurd ⟨d, l, ⟨path, asked, leads⟩, ⟨s, settings, judged⟩, dungeon⟩ free
  · rfl

theorem reported_eq_tree (disk : Disk) (a : Arguments) (environment : Environment) :
    disk.reported a environment = { disk with tree := (disk.reported a environment).tree } := by
  by_cases due : ∃ d l, disk.Reports a environment d l
  · obtain ⟨d, l, due⟩ := due
    rw [due.reported_eq]
  · rw [reported_eq_of_not_reports due]

theorem passes_or_stopsEarly {s : Settings} {d : Dungeon}
    (settings : disk.settings a environment = .ok s) (dungeon : disk.dungeon a.manifest = .ok d) :
    disk.Passes d s a.report ∨ ∃ e, disk.StopsEarly a environment e := by
  cases judged : s.skipRules with
  | true => exact .inl (.inl judged)
  | false =>
    by_cases can : disk.CanReport a.report
    · cases strict : s.strict && d.inspect.hasErrors with
      | true =>
        rw [Bool.and_eq_true] at strict
        exact .inr ⟨_, .rules settings dungeon judged can strict.1 strict.2⟩
      | false => exact .inl (.inr ⟨can, by simpa using strict⟩)
    · simp only [CanReport, not_forall] at can
      obtain ⟨path, asked, refused⟩ := can
      cases leads : disk.target disk.tree path with
      | error fault => exact .inr ⟨_, .report settings dungeon judged asked leads⟩
      | ok l => exact absurd ⟨l, leads⟩ refused

theorem stopsEarly_or_ready (disk : Disk) (a : Arguments) (environment : Environment) :
    (∃ e, disk.StopsEarly a environment e) ∨ ∃ s d text, disk.Ready a environment s d text := by
  cases settings : disk.settings a environment with
  | error e => exact .inl ⟨e, .settings settings⟩
  | ok s =>
    cases dungeon : disk.dungeon a.manifest with
    | error e => exact .inl ⟨e, .dungeon settings dungeon⟩
    | ok d =>
      obtain passed | early := passes_or_stopsEarly settings dungeon
      · cases document : d.document? s.layout with
        | error v => exact .inl ⟨_, .violation settings dungeon passed document⟩
        | ok text => exact .inr ⟨s, d, text, settings, dungeon, passed, document⟩
      · exact .inl early

theorem course_of_passes (console : Console) {s : Settings} {d : Dungeon}
    (settings : disk.settings a environment = .ok s) (dungeon : disk.dungeon a.manifest = .ok d)
    (passed : disk.Passes d s a.report) :
    disk.course console a environment = (disk.reported a environment).emit console d s := by
  unfold course reported
  cases judged : s.skipRules with
  | true => simp only [settings, dungeon, judged, if_true]
  | false =>
    obtain skipped | ⟨can, clean⟩ := passed
    · cases judged.symm.trans skipped
    · obtain ⟨after, review⟩ := review_of_can d s.strict can
      have pass : d.verdict s.strict = .ok () := by simpa [Dungeon.verdict] using clean
      simp only [settings, dungeon, judged, review, pass, Bool.false_eq_true, if_false]

theorem StopsEarly.course {e : RunError} (early : disk.StopsEarly a environment e)
    (console : Console) :
    disk.course console a environment =
      (.error e, ⟨disk.reported a environment, console, .empty⟩) := by
  cases early with
  | settings failed => simp only [Disk.course, reported, failed]
  | dungeon settings failed => simp only [Disk.course, reported, settings, failed]
  | report settings dungeon judged asked failed =>
    simp only [Disk.course, reported, settings, dungeon, judged, asked, review_refused failed,
      Bool.false_eq_true, if_false]
  | @rules s d settings dungeon judged reports strict failed =>
    obtain ⟨after, review⟩ := review_of_can d s.strict reports
    have stop : d.verdict s.strict = .error (.rules d.inspect.errors.length d.name) :=
      if_pos (Bool.and_eq_true_iff.2 ⟨strict, failed⟩)
    simp only [Disk.course, reported, settings, dungeon, judged, review, stop, Bool.false_eq_true,
      if_false]
  | violation settings dungeon passed failed =>
    rw [course_of_passes console settings dungeon passed, emit_violation _ _ failed]

theorem Ready.course {s : Settings} {d : Dungeon} {text : String}
    (ready : disk.Ready a environment s d text) (console : Console) :
    disk.course console a environment = (disk.reported a environment).emit console d s :=
  course_of_passes console ready.settings ready.dungeon ready.passed

theorem Ready.ends {s : Settings} {d : Dungeon} {text : String}
    (ready : disk.Ready a environment s d text) (console : Console) :
    disk.Ends a environment console ((disk.reported a environment).emit console d s).1
      ((disk.reported a environment).emit console d s).2 := by
  unfold emit
  cases output : s.output with
  | none =>
    have wrote := Dungeon.writeTo_document ready.document (s := console.sink)
    cases sent : (console.sink.send text .empty).1 with
    | error e =>
      rw [sent] at wrote
      simp only [wrote]
      exact .cut ready output wrote
    | ok =>
      rw [sent] at wrote
      simp only [wrote]
      exact .printed ready output wrote
  | some path =>
    have same := reported_eq_tree disk a environment
    simp only [ready.document]
    cases wrote : (disk.reported a environment).write path text with
    | error fault =>
      have failed := write_eq_error_iff.1 wrote
      rw [same] at failed
      exact .refused ready output failed
    | ok written =>
      obtain ⟨l, leads, filed⟩ := write_eq_ok_iff.1 wrote
      rw [same] at leads filed
      rw [filed]
      exact .filed ready output leads

theorem Ready.done {s : Settings} {d : Dungeon} {text : String}
    (ready : disk.Ready a environment s d text) (console : Console)
    (filed : ∀ path, s.output = some path →
      ∃ l, disk.target (disk.reported a environment).tree path = .ok l)
    (printed : s.output = none → (d.writeTo s.layout console.sink).1 = .ok ()) :
    (disk.course console a environment).1 = .ok () := by
  have same := disk.reported_eq_tree a environment
  rw [ready.course]
  unfold emit
  cases output : s.output with
  | none =>
    dsimp only
    rw [printed output]
    rfl
  | some path =>
    obtain ⟨l, leads⟩ := filed path output
    have wrote : (disk.reported a environment).write path text = .ok _ :=
      write_eq_ok_iff.2 ⟨l, by rwa [same], rfl⟩
    simp only [ready.document, wrote]

theorem course_ends (disk : Disk) (console : Console) (a : Arguments)
    (environment : Environment) :
    disk.Ends a environment console (disk.course console a environment).1
      (disk.course console a environment).2 := by
  obtain ⟨e, early⟩ | ⟨s, d, text, ready⟩ := disk.stopsEarly_or_ready a environment
  · rw [early.course console]
    exact .stopped early
  · rw [ready.course console]
    exact ready.ends console

end Disk

end DungeonForge
