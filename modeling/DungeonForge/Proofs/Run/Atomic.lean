import DungeonForge.Proofs.Rules.Report
import DungeonForge.Proofs.Run.Faithful

/-!
A run emits its document as a whole or not at all, but for what a console has taken that fails
before it has all. Whatever stops a run before, nothing is printed and no file but the report's is
changed; and the report is written only where one is due.
-/

namespace DungeonForge

namespace Disk

variable {disk : Disk} {a : Arguments} {environment : Environment}

def OutputsTo (disk : Disk) (a : Arguments) (environment : Environment) (l : Location) : Prop :=
  ∃ s path, disk.settings a environment = .ok s ∧ s.output = some path ∧
    disk.target disk.tree path = .ok l

/-- The report path leads to another file than the output path in force. -/
def KeepsApart (disk : Disk) (a : Arguments) (environment : Environment) : Prop :=
  ∀ s path other, disk.settings a environment = .ok s → a.report = some path →
    s.output = some other → disk.Apart path other

theorem outputsTo_of_reported {s : Settings} {path : String} {l : Location}
    (apart : disk.KeepsApart a environment) (settings : disk.settings a environment = .ok s)
    (output : s.output = some path)
    (leads : disk.target (disk.reported a environment).tree path = .ok l) :
    disk.target disk.tree path = .ok l := by
  by_cases due : ∃ d m, disk.Reports a environment d m
  · obtain ⟨d, m, due⟩ := due
    rw [due.reported_eq] at leads
    obtain ⟨reportPath, asked, reportLeads⟩ := due.asked
    exact (apart s reportPath path settings asked output m reportLeads).2 _ l leads
  · rwa [reported_eq_of_not_reports due] at leads

theorem OutputsTo.ne_report {path : String} {l m : Location}
    (output : disk.OutputsTo a environment l) (apart : disk.KeepsApart a environment)
    (asked : a.report = some path) (leads : disk.target disk.tree path = .ok m) : l ≠ m := by
  rintro rfl
  obtain ⟨s, other, settings, output, outputLeads⟩ := output
  exact (apart s path other settings asked output l leads).1 outputLeads

end Disk

namespace World

/-- Just the text has been emitted: it is all of the output file and nothing is printed, or without
an output file it is all that is printed. -/
def Emitted (w : World) (disk : Disk) : Option String → String → Prop
  | none, text => w.shown.received = Text.bytes text
  | some path, text => w.shown = .empty ∧
    ∃ l, disk.target disk.tree path = .ok l ∧ w.disk.tree.get? l = some text

/-- The console has failed with a part of the document. -/
def Cut (w : World) (disk : Disk) (a : Arguments) (environment : Environment) (e : RunError) :
    Prop :=
  ∃ s d text cause, disk.settings a environment = .ok s ∧ disk.dungeon a.manifest = .ok d ∧
    s.output = none ∧ d.document? s.layout = .ok text ∧
    d.writeTo s.layout w.console.sink = (.error (.sink cause), w.shown) ∧
    w.shown.received <+: Text.bytes text ∧ e = .print (w.console.words cause)

def Changed (w : World) (disk : Disk) (l : Location) : Prop :=
  w.disk.tree.get? l ≠ disk.tree.get? l

variable {disk : Disk} {a : Arguments} {environment : Environment}

theorem reports_of_changed {l : Location}
    (changed : (disk.reported a environment).tree.get? l ≠ disk.tree.get? l) :
    ∃ d, disk.Reports a environment d l := by
  by_cases due : ∃ d m, disk.Reports a environment d m
  · obtain ⟨d, m, due⟩ := due
    rw [due.reported_eq] at changed
    by_cases here : l = m
    · exact ⟨d, here ▸ due⟩
    · exact absurd (Files.get?_put_of_ne _ _ here) changed
  · rw [Disk.reported_eq_of_not_reports due] at changed
    exact absurd rfl changed

variable {console : Console} {result : Except RunError Unit} {after : Scene}

theorem emitted_of_ends (ends : disk.Ends a environment console (.ok ()) after)
    (apart : disk.KeepsApart a environment) (logged : List LogRecord) :
    ∃ s d text, disk.Ready a environment s d text ∧
      Emitted (after.world logged) disk s.output text ∧
      ∀ l, Changed (after.world logged) disk l →
        disk.OutputsTo a environment l ∨ ∃ d, disk.Reports a environment d l := by
  cases ends with
  | @printed s d text shown ready output wrote =>
    refine ⟨s, d, text, ready, ?_, fun l changed => .inr (reports_of_changed changed)⟩
    rw [output]
    exact (Dungeon.received_of_writeTo ready.document wrote).2 rfl
  | @filed s d text path l ready output leads =>
    have outputLeads := Disk.outputsTo_of_reported apart ready.settings output leads
    refine ⟨s, d, text, ready, ?_, ?_⟩
    · rw [output]
      exact ⟨rfl, l, outputLeads, Files.get?_put _ l text⟩
    · intro m changed
      by_cases here : m = l
      · exact .inl ⟨s, path, ready.settings, output, here ▸ outputLeads⟩
      · have kept : (disk.reported a environment).tree.get? m ≠ disk.tree.get? m := by
          rwa [← Files.get?_put_of_ne _ text here]
        exact .inr (reports_of_changed kept)

theorem report_of_ends (ends : disk.Ends a environment console result after)
    (apart : disk.KeepsApart a environment) {d : Dungeon} {l : Location}
    (due : disk.Reports a environment d l) :
    after.disk.tree.get? l = some (Program.reportText d.inspect) := by
  have written : (disk.reported a environment).tree.get? l =
      some (Program.reportText d.inspect) := by
    rw [due.reported_eq]
    exact Files.get?_put _ l _
  cases ends with
  | stopped early => exact written
  | refused ready output failed => exact written
  | cut ready output wrote => exact written
  | printed ready output wrote => exact written
  | @filed s d text path m ready output leads =>
    obtain ⟨reportPath, asked, reportLeads⟩ := due.asked
    have outputs : disk.OutputsTo a environment m :=
      ⟨s, path, ready.settings, output,
        Disk.outputsTo_of_reported apart ready.settings output leads⟩
    have other : l ≠ m := (outputs.ne_report apart asked reportLeads).symm
    rwa [← Files.get?_put_of_ne _ text other] at written

theorem kept_of_ends {e : RunError} (ends : disk.Ends a environment console (.error e) after)
    (logged : List LogRecord) :
    after.disk = disk.reported a environment ∧
      (after.shown = .empty ∨ Cut (after.world logged) disk a environment e) := by
  cases ends with
  | stopped early => exact ⟨rfl, .inl rfl⟩
  | refused ready output failed => exact ⟨rfl, .inl rfl⟩
  | @cut s d text cause shown ready output wrote =>
    have begun := (Dungeon.received_of_writeTo ready.document wrote).1
    exact ⟨rfl, .inr ⟨s, d, text, cause, ready.settings, ready.dungeon, output, ready.document,
      wrote, begun, rfl⟩⟩

/-- What a run with the arguments has emitted, and what it has left as it was on the disk. -/
structure Atomic (disk : Disk) (a : Arguments) (environment : Environment) (outcome : Outcome)
    (w : World) : Prop where
  emitted : outcome.exitStatus = 0 → ∃ s d text,
    disk.settings a environment = .ok s ∧ disk.dungeon a.manifest = .ok d ∧
    d.document? s.layout = .ok text ∧ w.Emitted disk s.output text ∧
    ∀ l, w.Changed disk l → disk.OutputsTo a environment l ∨ ∃ d, disk.Reports a environment d l
  stopped : ∀ e, disk.StopsEarly a environment e →
    outcome = .failed e ∧ outcome.exitStatus ≠ 0 ∧ w.shown = .empty
  kept : outcome.exitStatus ≠ 0 →
    (w.shown = .empty ∨ ∃ e, outcome = .failed e ∧ w.Cut disk a environment e) ∧
    ∀ l, w.Changed disk l → ¬ disk.OutputsTo a environment l ∧ ∃ d, disk.Reports a environment d l
  due : ∀ path l, a.report = some path → disk.target disk.tree path = .ok l →
    w.Changed disk l → ∃ d, disk.Reports a environment d l
  report : ∀ d l, disk.Reports a environment d l → ∃ text, w.disk.tree.get? l = some text ∧
    Report.ofText? text = some d.inspect.diagnostics

/-- A run emits its document whole or leaves everything but the report as it was, unless the console
fails in the middle; the report is written where it is due and nowhere else, and it lists the
findings in order. -/
theorem run_atomic {words : List String} {outcome : Outcome} {w : World}
    (parsed : Arguments.parse words = .ok a)
    (ran : (World.before disk console).run words environment = (outcome, w))
    (apart : disk.KeepsApart a environment) : Atomic disk a environment outcome w := by
  obtain ⟨logged, run⟩ := run_before disk console environment parsed
  rw [run] at ran
  have stops : ∀ e, disk.StopsEarly a environment e → disk.course console a environment =
      (.error e, ⟨disk.reported a environment, console, .empty⟩) :=
    fun e early => early.course console
  have ends := disk.course_ends console a environment
  generalize disk.course console a environment = course at ran stops ends
  obtain ⟨result, after⟩ := course
  have report : ∀ d l, disk.Reports a environment d l → ∃ text,
      after.disk.tree.get? l = some text ∧ Report.ofText? text = some d.inspect.diagnostics :=
    fun d l due => ⟨_, report_of_ends ends apart due, Report.ofText?_reportText _⟩
  cases result with
  | error e =>
    cases ran
    obtain ⟨kept, shown⟩ := kept_of_ends ends logged
    have changed : ∀ l, after.disk.tree.get? l ≠ disk.tree.get? l →
        ∃ d, disk.Reports a environment d l := by
      rw [kept]
      exact fun l changed => reports_of_changed changed
    refine { emitted := nofun, stopped := ?stopped, kept := ?kept, due := ?due, report }
    case stopped =>
      intro e' early
      cases stops e' early
      exact ⟨rfl, Nat.one_ne_zero, rfl⟩
    case kept =>
      refine fun _ => ⟨shown.imp_right fun cut => ⟨e, rfl, cut⟩, fun l different => ?_⟩
      obtain ⟨d, due⟩ := changed l different
      obtain ⟨path, asked, leads⟩ := due.asked
      exact ⟨fun output => output.ne_report apart asked leads rfl, d, due⟩
    case due => exact fun path l asked leads different => changed l different
  | ok =>
    cases ran
    obtain ⟨s, d, text, ready, emitted, changes⟩ := emitted_of_ends ends apart logged
    refine { emitted := fun _ => ?emitted, stopped := ?stopped, kept := nofun, due := ?due, report }
    case emitted =>
      exact ⟨s, d, text, ready.settings, ready.dungeon, ready.document, emitted, changes⟩
    case stopped =>
      intro e early
      cases stops e early
    case due =>
      intro path l asked leads changed
      obtain output | due := changes l changed
      · exact absurd rfl (output.ne_report apart asked leads)
      · exact due

def reportArguments : Arguments :=
  { keepArguments with report := some "r" }

theorem target_report_keepDisk : keepDisk.target keepDisk.tree "r" = .ok ["d", "r"] := by
  cbv

theorem keepsApart_keepDisk {a : Arguments} (alone : a.config = none) (asked : a.report = some "r")
    (output : a.output = some "j") : keepDisk.KeepsApart a [] := by
  intro s path other settings asked' output'
  rw [settings_of_no_config keepDisk alone] at settings
  cases settings
  cases asked.symm.trans asked'
  have same : some other = some "j" := by
    rw [← output', ← output]
    simp only [Settings.withArguments, output, Option.some_or]
  cases same
  exact Disk.apart_ofFiles target_report_keepDisk target_keepDisk (by decide)

theorem canReport_keepDisk : keepDisk.CanReport (some "r") := by
  intro path asked
  cases asked
  exact ⟨_, target_report_keepDisk⟩

theorem reports_keepDisk : keepDisk.Reports reportArguments [] keepDungeon ["d", "r"] where
  asked := ⟨"r", rfl, target_report_keepDisk⟩
  judged := ⟨_, settings_of_no_config keepDisk rfl, rfl⟩
  dungeon := dungeon_keepDisk open?_keepDisk.1

theorem course_reportArguments (console : Console) :
    (keepDisk.course console reportArguments []).1 = .ok () := by
  have ready : keepDisk.Ready reportArguments [] ⟨some "j", false, 2, false, false⟩ keepDungeon
      (.ofList (keepDungeon.render .compact)) := {
    settings := settings_of_no_config keepDisk rfl
    dungeon := dungeon_keepDisk open?_keepDisk.1
    passed := .inr ⟨canReport_keepDisk, nofun⟩
    document := ready_keepDisk.document }
  have target : keepDisk.target (keepDisk.tree.put ["d", "r"]
      (Program.reportText keepDungeon.inspect)) "j" = .ok ["d", "j"] :=
    (Files.locate_put_iff target_report_keepDisk).2 target_keepDisk
  refine ready.done console (fun path output => ?_) nofun
  cases output
  rw [reports_keepDisk.reported_eq]
  exact ⟨_, target⟩

theorem stopsEarly_keepDisk : keepDisk.StopsEarly { reportArguments with strict := true } []
    (.rules 1 "Keep") := by
  have settings : keepDisk.settings { reportArguments with strict := true } [] =
      .ok ⟨some "j", false, 2, true, false⟩ := settings_of_no_config keepDisk rfl
  exact .rules settings (dungeon_keepDisk open?_keepDisk.1) rfl canReport_keepDisk rfl (by decide)

def plainArguments : Arguments :=
  ⟨"k", none, none, false, none, false, none, false, 0⟩

def narrowConsole : Console :=
  ⟨Dungeon.narrowSink, fun _ => "No space left on device (os error 28)"⟩

theorem course_narrowConsole : ∃ shown,
    keepDisk.course narrowConsole plainArguments [] =
      (.error (.print "No space left on device (os error 28)"),
        ⟨keepDisk.reported plainArguments [], narrowConsole, shown⟩) ∧
    shown.received = (Text.bytes (.ofList (keepDungeon.render .compact))).take 20 := by
  have ready : keepDisk.Ready plainArguments [] ⟨none, false, 2, false, false⟩ keepDungeon
      (.ofList (keepDungeon.render .compact)) := {
    settings := settings_of_no_config keepDisk rfl
    dungeon := dungeon_keepDisk open?_keepDisk.2
    passed := .inr ⟨nofun, nofun⟩
    document := ready_keepDisk.document }
  obtain ⟨replies, -, wrote⟩ := Dungeon.writeTo_eq ready.document (s := Dungeon.narrowSink)
  have long : 20 < (Text.bytes (.ofList (keepDungeon.render .compact))).length := by
    rw [Text.length_bytes]
    decide +kernel
  have room : Dungeon.narrowSink.room 0
      (Text.bytes (.ofList (keepDungeon.render .compact))).length = 20 :=
    Nat.min_eq_right (Nat.le_of_lt long)
  rw [room, if_neg (Nat.ne_of_lt long)] at wrote
  refine ⟨⟨(Text.bytes (.ofList (keepDungeon.render .compact))).take 20, replies.length, 0⟩, ?_,
    rfl⟩
  rw [ready.course]
  simp only [Disk.emit, narrowConsole]
  rw [wrote]
  rfl

theorem run_atomic_keepDisk :
    (∃ w, (World.before keepDisk .steady).run ["/d/k", "-o", "j", "--report", "r"] [] =
        (.done, w) ∧
      keepDisk.Reports reportArguments [] keepDungeon ["d", "r"] ∧
      Atomic keepDisk reportArguments [] .done w) ∧
    (∃ w, (World.before keepDisk .steady).run ["/d/k", "-o", "j", "--report", "r", "--strict"] [] =
        (.failed (.rules 1 "Keep"), w) ∧
      Atomic keepDisk { reportArguments with strict := true } [] (.failed (.rules 1 "Keep")) w) ∧
    ∃ w, (World.before keepDisk narrowConsole).run ["k"] [] =
        (.failed (.print "No space left on device (os error 28)"), w) ∧
      w.shown.received = (Text.bytes (.ofList (keepDungeon.render .compact))).take 20 ∧
      Atomic keepDisk plainArguments []
        (.failed (.print "No space left on device (os error 28)")) w := by
  refine ⟨?_, ?_, ?_⟩
  · have parsed : Arguments.parse ["/d/k", "-o", "j", "--report", "r"] = .ok reportArguments := rfl
    obtain ⟨logged, ran⟩ := run_before keepDisk .steady [] parsed
    rw [course_reportArguments] at ran
    exact ⟨_, ran, reports_keepDisk, run_atomic parsed ran (keepsApart_keepDisk rfl rfl rfl)⟩
  · have parsed : Arguments.parse ["/d/k", "-o", "j", "--report", "r", "--strict"] =
        .ok { reportArguments with strict := true } := rfl
    obtain ⟨logged, ran⟩ := run_before keepDisk .steady [] parsed
    rw [stopsEarly_keepDisk.course] at ran
    exact ⟨_, ran, run_atomic parsed ran (keepsApart_keepDisk rfl rfl rfl)⟩
  · have parsed : Arguments.parse ["k"] = .ok plainArguments := rfl
    obtain ⟨logged, ran⟩ := run_before keepDisk narrowConsole [] parsed
    obtain ⟨shown, course, received⟩ := course_narrowConsole
    rw [course] at ran
    refine ⟨_, ran, received, run_atomic parsed ran fun s path other _ asked _ => ?_⟩
    cases asked

end World

end DungeonForge
