import DungeonForge.Config.Environment
import DungeonForge.Config.Source
import DungeonForge.Json.Layout
import DungeonForge.Run.Arguments

/-!
Settings come from a file, then the environment, then the command line, later ones winning. Asking
for strictness anywhere means that the rules are run.
-/

namespace DungeonForge

structure Settings where
  /-- Standard output if there is no path. -/
  output : Option String
  pretty : Bool
  indent : UInt8
  strict : Bool
  skipRules : Bool
deriving DecidableEq, Repr

namespace Settings

def default : Settings := ⟨none, false, Json.Layout.defaultIndent, false, false⟩

def read (n : Config.Node) : Except Config.Error Settings := do
  let fmt := Config.lenient
  let r ← fmt.record ⟨"Settings", 5⟩ n
  let output := fmt.slot r 0 "output" (fmt.optional fmt.text)
  let pretty := fmt.slot r 1 "pretty" fmt.flag
  let indent := fmt.slot r 2 "indent" Config.Node.asUnsigned8
  let strict := fmt.slot r 3 "strict" fmt.flag
  let skipRules := fmt.slot r 4 "skip_rules" fmt.flag
  r.settle [output.check, pretty.check, indent.check, strict.check, skipRules.check]
  return {
    output := ← output.getD default.output
    pretty := ← pretty.getD default.pretty
    indent := ← indent.getD default.indent
    strict := ← strict.getD default.strict
    skipRules := ← skipRules.getD default.skipRules }

def load (file : Option Config.SourceFile) (environment : Environment) :
    Except Config.LoadError Settings := do
  let fromFile ← match file with
    | none => pure []
    | some f => f.entries
  let tree := Config.Node.ofSources [fromFile, Config.ofEnvironment environment]
  (read tree).mapError .tree

def withArguments (s : Settings) (a : Arguments) : Settings :=
  let strict := s.strict || a.strict
  { output := a.output.or s.output
    pretty := s.pretty || a.pretty || a.indent.isSome
    indent := a.indent.getD s.indent
    strict
    skipRules := (s.skipRules || a.skipRules) && !strict }

def layout (s : Settings) : Json.Layout :=
  if s.pretty then .pretty s.indent else .compact

end Settings

end DungeonForge
