import DungeonForge.Text.Terminal

/-!
Log records: a level, the part of the program that speaks, and a message. Further lines of a message
are set in below its first.
-/

namespace DungeonForge

inductive LogLevel
  | error | warn | info | debug | trace
deriving DecidableEq, Repr

namespace LogLevel

def rank : LogLevel → Nat
  | .error => 1
  | .warn => 2
  | .info => 3
  | .debug => 4
  | .trace => 5

def padded : LogLevel → String
  | .error => "ERROR"
  | .warn => "WARN "
  | .info => "INFO "
  | .debug => "DEBUG"
  | .trace => "TRACE"

def name : LogLevel → String
  | .error => "error"
  | .warn => "warn"
  | .info => "info"
  | .debug => "debug"
  | .trace => "trace"

def all : List LogLevel := [.error, .warn, .info, .debug, .trace]

def ofText? (s : String) : Option LogLevel :=
  all.find? fun l => l.name == s.toLower

def ofVerbosity (n : Nat) : LogLevel :=
  match n with
  | 0 => .info
  | 1 => .debug
  | _ => .trace

end LogLevel

structure LogRecord where
  level : LogLevel
  target : String
  message : String
deriving DecidableEq, Repr

namespace LogRecord

def lines (r : LogRecord) : List String :=
  let message := "\n    ".intercalate (r.message.splitOn "\n")
  let text := "[" ++ r.level.padded ++ " " ++ r.target ++ "] " ++ message
  (Text.Terminal.shown text).splitOn "\n"

end LogRecord

/-- The least urgent level that is shown; nothing is shown without one. -/
abbrev LogFilter := Option LogLevel

namespace LogFilter

/-- The wish of the environment wins over the verbosity. An empty wish shows errors alone. -/
def choose (wish : Option String) (verbosity : Nat) : LogFilter :=
  match wish with
  | none => some (LogLevel.ofVerbosity verbosity)
  | some "" => some .error
  | some s => LogLevel.ofText? s

def shows (f : LogFilter) (r : LogRecord) : Bool :=
  f.any fun l => r.level.rank ≤ l.rank

end LogFilter

end DungeonForge
