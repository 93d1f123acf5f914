import DungeonForge.Document.Render
import DungeonForge.Text.Utf8

/-!
Writing a document into a sink that may take it in pieces, interrupt, refuse or fail to flush. The
whole document is offered again and again, less what has been taken, until nothing is left; then
the sink is flushed once. An interrupted call is repeated, any other failure ends the writing.
-/

namespace DungeonForge

inductive Refusal
  | takesNothing | closed | full
deriving DecidableEq, Repr

structure Sink where
  /-- The most bytes that one call takes. -/
  chunk : Option Nat
  /-- The most bytes that it takes altogether. -/
  capacity : Option Nat
  refusal : Refusal
  /-- How many of the first calls are interrupted. -/
  interrupts : Nat
  flushFails : Bool
deriving DecidableEq, Repr

inductive SinkError
  | wroteNothing | closed | full | flushRefused
deriving DecidableEq, Repr

namespace SinkError

def detail : SinkError → String
  | .wroteNothing => "failed to write whole buffer"
  | .closed => "closed"
  | .full => "no space"
  | .flushRefused => "flush refused"

end SinkError

inductive WriteError
  | violation (v : Violation)
  | sink (e : SinkError)
deriving DecidableEq, Repr

namespace WriteError

def sinkMessage (detail : String) : String :=
  "failed to write dungeon document: " ++ detail

def message : WriteError → String
  | .violation v => v.message
  | .sink e => sinkMessage e.detail

end WriteError

structure Transcript where
  received : List UInt8
  writes : Nat
  flushes : Nat
deriving DecidableEq, Repr

namespace Transcript

def empty : Transcript := ⟨[], 0, 0⟩

end Transcript

namespace Refusal

def error : Refusal → SinkError
  | .takesNothing => .wroteNothing
  | .closed => .closed
  | .full => .full

end Refusal

namespace Sink

/-- How many of the offered bytes a call takes after `taken` have been taken. -/
def takes (s : Sink) (taken offered : Nat) : Nat :=
  let byChunk := s.chunk.elim offered (min offered)
  s.capacity.elim byChunk fun capacity => min byChunk (capacity - taken)

/-- Offers the bytes until all are taken or a call fails for good. -/
def writeAll (s : Sink) (interrupts : Nat) (rest : List UInt8) (t : Transcript) :
    Except SinkError Unit × Transcript :=
  match rest, interrupts with
  | [], _ => (.ok (), t)
  | b :: bs, k + 1 => s.writeAll k (b :: bs) { t with writes := t.writes + 1 }
  | b :: bs, 0 =>
    match s.takes t.received.length (b :: bs).length with
    | 0 => (.error s.refusal.error, { t with writes := t.writes + 1 })
    | n + 1 => s.writeAll 0 (bs.drop n) ⟨t.received ++ b :: bs.take n, t.writes + 1, t.flushes⟩
termination_by rest.length + interrupts
decreasing_by
  · simp
  · simp only [List.length_drop, List.length_cons]
    omega

def flush (s : Sink) (t : Transcript) : Except SinkError Unit × Transcript :=
  (if s.flushFails then .error .flushRefused else .ok (), { t with flushes := t.flushes + 1 })

/-- Writes a text and flushes. Calls that have been made before count among those that are
interrupted. -/
def send (s : Sink) (text : String) (t : Transcript) : Except SinkError Unit × Transcript :=
  match s.writeAll (s.interrupts - t.writes) (Text.bytes text) t with
  | (.error e, t) => (.error e, t)
  | (.ok _, t) => s.flush t

end Sink

namespace Dungeon

def writeTo (d : Dungeon) (layout : Json.Layout) (s : Sink) : Except WriteError Unit × Transcript :=
  match d.document? layout with
  | .error v => (.error (.violation v), .empty)
  | .ok text =>
    let (result, t) := s.send text .empty
    (result.mapError .sink, t)

end Dungeon

end DungeonForge
