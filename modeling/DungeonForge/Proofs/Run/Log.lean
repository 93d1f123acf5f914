import DungeonForge.Proofs.Run.Course

/-!
What a run logs. The log only grows, so what one stage has logged is there at the end; and a run
that does not skip the rules logs every finding, as far as its filter lets findings through.
-/

namespace DungeonForge

def Finding.record (f : Finding) : LogRecord :=
  ⟨match f.severity with
    | .error => .error
    | .warning => .warn, "dungeon_gen", f.subject ++ ": " ++ f.line⟩

namespace Stage

variable {α β : Type} {x : Stage α} {f : α → Stage β} {w w' : World} {records : List LogRecord}

def Grows (x : Stage α) : Prop :=
  ∀ w : World, w.logged <+: (x.run w).2.logged

theorem grows_pure (a : α) : Grows (pure a : Stage α) :=
  fun w => List.prefix_refl w.logged

theorem grows_throw (e : RunError) : Grows (throw e : Stage α) :=
  fun w => List.prefix_refl w.logged

theorem prefix_bind (next : ∀ a, Grows (f a)) :
    (x.run w).2.logged <+: ((x >>= f).run w).2.logged := by
  cases ran : x.run w with
  | mk r w' =>
    cases r with
    | error e =>
      have stopped : (x >>= f).run w = (.error e, w') := run_bind_error ran
      simp only [stopped, List.prefix_refl]
    | ok a =>
      rw [run_bind_ok ran]
      exact next a w'

theorem Grows.bind (first : Grows x) (next : ∀ a, Grows (f a)) : Grows (x >>= f) :=
  fun w => (first w).trans (prefix_bind next)

theorem Grows.keeps (grown : Grows x) (there : records <:+: w.logged) :
    records <:+: (x.run w).2.logged :=
  there.trans (grown w).isInfix

theorem grows_lift {x : StateM World α} (grown : ∀ w, w.logged <+: (x.run w).2.logged) :
    Grows (ExceptT.lift x) := by
  intro w
  rw [run_lift]
  exact grown w

theorem run_log (filter : LogFilter) (level : LogLevel) (target message : String) (w : World) :
    (Program.log World.host filter level target message).run w =
      (.ok (), { w with
        logged := w.logged ++ [⟨level, target, message⟩].filter filter.shows }) := by
  unfold Program.log
  by_cases shown : filter.shows ⟨level, target, message⟩ = true
  · rw [if_pos shown, List.filter_cons_of_pos shown]
    rfl
  · rw [if_neg shown, List.filter_cons_of_neg shown, List.filter_nil, List.append_nil]
    rfl

theorem grows_log (filter : LogFilter) (level : LogLevel) (target message : String) :
    Grows (Program.log World.host filter level target message) := by
  intro w
  rw [run_log]
  exact List.prefix_append _ _

theorem grows_writeFile (path text : String) : Grows (Program.writeFile World.host path text) := by
  refine (grows_lift fun w => ?_).bind fun written => ?_
  · simp only [World.host, StateT.run]
    cases w.disk.write path text <;> exact List.prefix_refl _
  · cases written with
    | ok => exact grows_pure ()
    | error fault => exact grows_throw _

theorem grows_print (text : String) : Grows (Program.print World.host text) := by
  have grown : Grows (ExceptT.lift (World.host.print text)) :=
    grows_lift fun w => List.prefix_refl w.logged
  refine grown.bind fun printed => ?_
  cases printed with
  | ok => exact grows_pure ()
  | error detail => exact grows_throw _

theorem grows_makeDocument (filter : LogFilter) (d : Dungeon) (layout : Json.Layout) :
    Grows (Program.makeDocument World.host filter d layout) := by
  refine (grows_log _ _ _ _).bind fun _ => ?_
  cases d.document? layout with
  | error v => exact grows_throw _
  | ok text =>
    exact (grows_log _ _ _ _).bind fun _ => (grows_log _ _ _ _).bind fun _ => grows_pure text

theorem grows_writeDocument (filter : LogFilter) (d : Dungeon) (s : Settings) :
    Grows (Program.writeDocument World.host filter d s) := by
  refine (grows_makeDocument filter d s.layout).bind fun text => ?_
  cases s.output with
  | none => exact grows_print text
  | some path => exact (grows_writeFile path text).bind fun _ => grows_log _ _ _ _

theorem run_logFindings (filter : LogFilter) (fs : List Finding) (w : World) :
    (fs.forM (Program.logFinding World.host filter)).run w =
      (.ok (), { w with
        logged := w.logged ++ (fs.map Finding.record).filter filter.shows }) := by
  induction fs generalizing w with
  | nil =>
    rw [List.map_nil, List.filter_nil, List.append_nil]
    rfl
  | cons f fs ih =>
    have split : ((f :: fs).map Finding.record).filter filter.shows =
        [f.record].filter filter.shows ++ (fs.map Finding.record).filter filter.shows :=
      List.filter_append [f.record] _
    refine (run_bind_ok (run_log filter _ _ _ w)).trans ?_
    rw [ih, split, ← List.append_assoc]
    rfl

theorem logs_runRules (filter : LogFilter) (d : Dungeon) (strict : Bool) (report : Option String)
    (w : World) : (d.inspect.findings.map Finding.record).filter filter.shows <:+:
      ((Program.runRules World.host filter d strict report).run w).2.logged := by
  have stop : Grows (if strict && d.inspect.hasErrors then
      throw (.rules d.inspect.errors.length d.name) else pure () : Stage Unit) := by
    split
    · exact grows_throw _
    · exact grows_pure ()
  unfold Program.runRules
  rw [run_bind_ok (run_log _ _ _ _ _), run_bind_ok (run_logFindings _ _ _)]
  refine Grows.keeps ?_ (List.suffix_append _ _).isInfix
  cases report with
  | none => exact stop
  | some path =>
    exact (grows_writeFile path _).bind fun _ => (grows_log _ _ _ _).bind fun _ => stop

/-- A run that does not skip the rules logs what they find. -/
theorem logs_runWith {disk : Disk} {console : Console} {a : Arguments}
    {environment : Environment} {s : Settings} {d : Dungeon} (filter : LogFilter)
    (settings : disk.settings a environment = .ok s)
    (dungeon : disk.dungeon a.manifest = .ok d) (judged : s.skipRules = false) :
    (d.inspect.findings.map Finding.record).filter filter.shows <:+:
      ((Program.runWith World.host filter a environment).run
        (World.before disk console)).2.logged := by
  obtain ⟨logged, loaded⟩ := leads_loadSettings (s := ⟨disk, console, .empty⟩) a environment []
  obtain ⟨logged', built⟩ :=
    leads_loadDungeon (s := ⟨disk, console, .empty⟩) filter a.manifest logged
  rw [settings] at loaded
  rw [dungeon] at built
  have start : World.before disk console = Scene.world ⟨disk, console, .empty⟩ [] := rfl
  unfold Program.runWith
  rw [start, run_bind_ok loaded, run_bind_ok built, run_bind_ok (run_log _ _ _ _ _)]
  simp only [judged, Bool.false_eq_true, if_false]
  have rules := logs_runRules filter d s.strict a.report
  exact (rules _).trans (prefix_bind fun _ => grows_writeDocument filter d s).isInfix

end Stage

end DungeonForge
