import DungeonForge.Config.Convert

/-!
The command line. Words are read from left to right. An option that takes a value and has not got
one yet waits for the next word; the value is looked at only when the next option or flag comes, or
at the end. What is wrong with the whole, two options that exclude each other or a manifest that is
missing, is found last.
-/

namespace DungeonForge

inductive UsageError
  | missingManifest
  | unknownArgument
  | invalidValue
  | badIndent
  | conflict
  | surplusValue
  | helpWanted
  | versionWanted
deriving DecidableEq, Repr

namespace UsageError

def exitStatus : UsageError → Nat
  | .helpWanted | .versionWanted => 0
  | _ => 2

end UsageError

structure Arguments where
  manifest : String
  config : Option String
  output : Option String
  pretty : Bool
  indent : Option UInt8
  strict : Bool
  report : Option String
  skipRules : Bool
  verbosity : Nat
deriving DecidableEq, Repr

inductive Opt
  | config | output | indent | report
deriving DecidableEq, Repr

inductive Flag
  | pretty | strict | skipRules | verbose | help | version
deriving DecidableEq, Repr

inductive Switch
  | opt (o : Opt)
  | flag (f : Flag)
deriving DecidableEq, Repr

namespace Switch

def ofLongName? (name : String) : Option Switch :=
  match name with
  | "config" => some (.opt .config)
  | "output" => some (.opt .output)
  | "indent" => some (.opt .indent)
  | "report" => some (.opt .report)
  | "pretty" => some (.flag .pretty)
  | "strict" => some (.flag .strict)
  | "skip-rules" => some (.flag .skipRules)
  | "verbose" => some (.flag .verbose)
  | "help" => some (.flag .help)
  | "version" => some (.flag .version)
  | _ => none

def ofLetter? (c : Char) : Option Switch :=
  match c with
  | 'c' => some (.opt .config)
  | 'o' => some (.opt .output)
  | 'v' => some (.flag .verbose)
  | 'h' => some (.flag .help)
  | 'V' => some (.flag .version)
  | _ => none

end Switch

structure Given where
  manifest : Option String
  config : Option String
  output : Option String
  pretty : Bool
  indent : Option UInt8
  strict : Bool
  report : Option String
  skipRules : Bool
  verbosity : Nat
deriving DecidableEq, Repr

inductive Pending
  | manifest (path : String)
  | opt (o : Opt) (value : Option String)
deriving DecidableEq, Repr

structure Parsing where
  given : Given
  pending : Option Pending
  named : Bool
  /-- Whether all further words are paths. -/
  trailing : Bool
deriving DecidableEq, Repr

def maxVerbosity : Nat := 255

namespace Given

def empty : Given :=
  ⟨none, none, none, false, none, false, none, false, 0⟩

def requirePath (s : String) : Except UsageError String :=
  if s.isEmpty then .error .invalidValue else .ok s

/-- An indentation is an integer of eight bits without sign, in decimal digits. -/
def readIndent (s : String) : Except UsageError UInt8 :=
  match Config.integerOfText? s with
  | some n => if 0 ≤ n ∧ n < UInt8.size then .ok (UInt8.ofNat n.toNat) else .error .badIndent
  | none => .error .badIndent

def has (g : Given) : Opt → Bool
  | .config => g.config.isSome
  | .output => g.output.isSome
  | .indent => g.indent.isSome
  | .report => g.report.isSome

def setOpt (g : Given) (o : Opt) (value : String) : Except UsageError Given := do
  if g.has o then
    throw .conflict
  match o with
  | .config => return { g with config := some (← requirePath value) }
  | .output => return { g with output := some (← requirePath value) }
  | .indent => return { g with indent := some (← readIndent value) }
  | .report => return { g with report := some (← requirePath value) }

def setFlag (g : Given) : Flag → Except UsageError Given
  | .pretty => if g.pretty then .error .conflict else .ok { g with pretty := true }
  | .strict => if g.strict then .error .conflict else .ok { g with strict := true }
  | .skipRules => if g.skipRules then .error .conflict else .ok { g with skipRules := true }
  | .verbose => .ok { g with verbosity := min maxVerbosity (g.verbosity + 1) }
  | .help => .error .helpWanted
  | .version => .error .versionWanted

def finish (g : Given) : Except UsageError Arguments :=
  if g.skipRules && (g.strict || g.report.isSome) then .error .conflict
  else
    match g.manifest with
    | none => .error .missingManifest
    | some manifest =>
      .ok ⟨manifest, g.config, g.output, g.pretty, g.indent, g.strict, g.report, g.skipRules,
        g.verbosity⟩

end Given

namespace Parsing

def start : Parsing := ⟨.empty, none, false, false⟩

def settle (p : Parsing) : Except UsageError Parsing := do
  match p.pending with
  | none => return p
  | some (.manifest path) =>
    return { p with given := { p.given with manifest := some (← Given.requirePath path) }, pending := none }
  | some (.opt _ none) => throw .invalidValue
  | some (.opt o (some value)) =>
    return { p with given := ← p.given.setOpt o value, pending := none }

def addFlag (p : Parsing) (f : Flag) : Except UsageError Parsing := do
  let p ← p.settle
  return { p with given := ← p.given.setFlag f }

def addOpt (p : Parsing) (o : Opt) (attached : Option String) : Except UsageError Parsing := do
  let p ← p.settle
  match attached with
  | some value => return { p with given := ← p.given.setOpt o value }
  | none => return { p with pending := some (.opt o none) }

def addPath (p : Parsing) (path : String) : Except UsageError Parsing := do
  if p.named then
    throw .unknownArgument
  let p ← p.settle
  return { p with pending := some (.manifest path), named := true }

def addLong (p : Parsing) (body : List Char) : Except UsageError Parsing :=
  let name := String.ofList (body.takeWhile (· ≠ '='))
  let attached := match body.dropWhile (· ≠ '=') with
    | [] => none
    | _ :: value => some (String.ofList value)
  match Switch.ofLongName? name with
  | none => .error .unknownArgument
  | some (.opt o) => p.addOpt o attached
  | some (.flag f) => if attached.isSome then .error .surplusValue else p.addFlag f

/-- The letters after one dash. What follows the letter of an option is its value. -/
def addLetters (p : Parsing) : List Char → Except UsageError Parsing
  | [] => .ok p
  | c :: cs => do
    match Switch.ofLetter? c with
    | none => throw .unknownArgument
    | some (.flag f) => (← p.addFlag f).addLetters cs
    | some (.opt o) =>
      p.addOpt o (match cs with
        | [] => none
        | '=' :: value => some (String.ofList value)
        | value => some (String.ofList value))

def addWord (p : Parsing) (w : String) : Except UsageError Parsing :=
  match p.pending with
  | some (.opt o none) => .ok { p with pending := some (.opt o (some w)) }
  | _ => p.addPath w

def step (p : Parsing) (w : String) : Except UsageError Parsing :=
  if p.trailing then p.addPath w
  else
    match w.toList with
    | ['-', '-'] => .ok { p with trailing := true }
    | '-' :: '-' :: body => p.addLong body
    | '-' :: c :: cs => p.addLetters (c :: cs)
    | _ => p.addWord w

def finish (p : Parsing) : Except UsageError Arguments := do
  (← p.settle).given.finish

end Parsing

namespace Arguments

def parse (words : List String) : Except UsageError Arguments := do
  (← words.foldlM Parsing.step .start).finish

end Arguments

end DungeonForge
