import DungeonForge.Json.Literal
import DungeonForge.Json.Value

/-!
Reading JSON texts, one character at a time. A `State` holds the containers that are still open and
what may come next; `step` reads one character and `read?` accepts a text when the state after its
last character holds one finished value. Reading is a left fold, so what a text's beginning means
does not depend on what follows it.
-/

namespace DungeonForge.Json

/-- An open container; what it holds so far is reversed. -/
inductive Frame
  | items (done : List Value)
  | members (done : List (String × Value))
  | member (done : List (String × Value)) (key : String)
deriving Repr

inductive NumeralMode
  | sign | zero | whole | point | fraction | exponentMark | exponentSign | exponent
deriving DecidableEq, Repr

structure Numeral where
  mode : NumeralMode
  negative : Bool
  coefficient : Nat
  fractionDigits : Nat
  exponentNegative : Bool
  exponent : Nat
deriving DecidableEq, Repr

namespace Numeral

def signed : Numeral := ⟨.sign, true, 0, 0, false, 0⟩

def ofDigit (negative : Bool) (v : Nat) : Numeral :=
  ⟨if v = 0 then .zero else .whole, negative, v, 0, false, 0⟩

def isExponentMark (c : Char) : Bool :=
  c = 'e' || c = 'E'

def step (n : Numeral) (c : Char) : Option Numeral :=
  match n.mode with
  | .sign => (Decimal.digitValue? c).map (ofDigit n.negative)
  | .zero =>
    if c = '.' then some { n with mode := .point }
    else if isExponentMark c then some { n with mode := .exponentMark }
    else none
  | .whole =>
    match Decimal.digitValue? c with
    | some v => some { n with coefficient := 10 * n.coefficient + v }
    | none =>
      if c = '.' then some { n with mode := .point }
      else if isExponentMark c then some { n with mode := .exponentMark }
      else none
  | .point =>
    (Decimal.digitValue? c).map fun v =>
      { n with mode := .fraction, coefficient := 10 * n.coefficient + v, fractionDigits := 1 }
  | .fraction =>
    match Decimal.digitValue? c with
    | some v =>
      some { n with coefficient := 10 * n.coefficient + v, fractionDigits := n.fractionDigits + 1 }
    | none => if isExponentMark c then some { n with mode := .exponentMark } else none
  | .exponentMark =>
    if c = '+' then some { n with mode := .exponentSign }
    else if c = '-' then some { n with mode := .exponentSign, exponentNegative := true }
    else (Decimal.digitValue? c).map fun v => { n with mode := .exponent, exponent := v }
  | .exponentSign => (Decimal.digitValue? c).map fun v => { n with mode := .exponent, exponent := v }
  | .exponent =>
    (Decimal.digitValue? c).map fun v => { n with exponent := 10 * n.exponent + v }

/-- The number, if the numeral may end here. Minus zero is kept apart from the integers. -/
def value? (n : Numeral) : Option Value :=
  match n.mode with
  | .zero => some (if n.negative then .decimal ⟨true, 0, 0⟩ else .integer 0)
  | .whole => some (.integer (if n.negative then -(n.coefficient : Int) else n.coefficient))
  | .fraction => some (.decimal ⟨n.negative, n.coefficient, -(n.fractionDigits : Int)⟩)
  | .exponent =>
    let e : Int := if n.exponentNegative then -(n.exponent : Int) else n.exponent
    some (.decimal ⟨n.negative, n.coefficient, e - n.fractionDigits⟩)
  | _ => none

end Numeral

inductive Mode
  | value
  | itemOrClose
  | keyOrClose
  | key
  | colon
  | commaOrClose
  | keyLiteral (p : Literal.Pending)
  | literal (p : Literal.Pending)
  | word (rest : List Char) (v : Value)
  | numeral (n : Numeral)
  | done (v : Value)
deriving Repr

structure State where
  frames : List Frame
  mode : Mode
deriving Repr

namespace State

def initial : State := ⟨[], .value⟩

/-- A finished value joins the innermost open container. -/
def place (frames : List Frame) (v : Value) : Option State :=
  match frames with
  | [] => some ⟨[], .done v⟩
  | .items done :: fs => some ⟨.items (v :: done) :: fs, .commaOrClose⟩
  | .member done k :: fs => some ⟨.members ((k, v) :: done) :: fs, .commaOrClose⟩
  | .members _ :: _ => none

def isSpace (c : Char) : Bool :=
  c = ' ' || c = '\n' || c = '\t' || c = '\r'

def openValue (frames : List Frame) (c : Char) : Option State :=
  match c with
  | '"' => some ⟨frames, .literal Literal.opened⟩
  | '[' => some ⟨.items [] :: frames, .itemOrClose⟩
  | '\x7b' => some ⟨.members [] :: frames, .keyOrClose⟩
  | 'n' => some ⟨frames, .word ['u', 'l', 'l'] .null⟩
  | 't' => some ⟨frames, .word ['r', 'u', 'e'] (.boolean true)⟩
  | 'f' => some ⟨frames, .word ['a', 'l', 's', 'e'] (.boolean false)⟩
  | '-' => some ⟨frames, .numeral Numeral.signed⟩
  | c => (Decimal.digitValue? c).map fun v => ⟨frames, .numeral (Numeral.ofDigit false v)⟩

def afterValue (frames : List Frame) (c : Char) : Option State :=
  match frames with
  | .items done :: fs =>
    if c = ',' then some ⟨.items done :: fs, .value⟩
    else if c = ']' then place fs (.array done.reverse)
    else none
  | .members done :: fs =>
    if c = ',' then some ⟨.members done :: fs, .key⟩
    else if c = '\x7d' then place fs (.object done.reverse)
    else none
  | _ => none

def openKey (frames : List Frame) (c : Char) : Option State :=
  if c = '"' then some ⟨frames, .keyLiteral Literal.opened⟩ else none

def nameMember (frames : List Frame) (key : String) : Option State :=
  match frames with
  | .members done :: fs => some ⟨.member done key :: fs, .colon⟩
  | _ => none

def stepAfter (s : State) (c : Char) : Option State :=
  match s.mode with
  | .done v => if isSpace c then some ⟨s.frames, .done v⟩ else none
  | .commaOrClose => if isSpace c then some s else afterValue s.frames c
  | _ => none

def step (s : State) (c : Char) : Option State :=
  match s.mode with
  | .value => if isSpace c then some s else openValue s.frames c
  | .itemOrClose =>
    if isSpace c then some s
    else if c = ']' then afterValue s.frames c
    else openValue s.frames c
  | .keyOrClose =>
    if isSpace c then some s
    else if c = '\x7d' then afterValue s.frames c
    else openKey s.frames c
  | .key => if isSpace c then some s else openKey s.frames c
  | .colon =>
    if isSpace c then some s
    else if c = ':' then some ⟨s.frames, .value⟩
    else none
  | .commaOrClose => stepAfter s c
  | .done _ => stepAfter s c
  | .keyLiteral p =>
    match Literal.step p c with
    | some (.more q) => some ⟨s.frames, .keyLiteral q⟩
    | some (.closed text) => nameMember s.frames (String.ofList text)
    | none => none
  | .literal p =>
    match Literal.step p c with
    | some (.more q) => some ⟨s.frames, .literal q⟩
    | some (.closed text) => place s.frames (.string (String.ofList text))
    | none => none
  | .word rest v =>
    match rest with
    | [] => none
    | [r] => if c = r then place s.frames v else none
    | r :: rs => if c = r then some ⟨s.frames, .word rs v⟩ else none
  | .numeral n =>
    match n.step c with
    | some m => some ⟨s.frames, .numeral m⟩
    | none => do
      let v ← n.value?
      let t ← place s.frames v
      stepAfter t c

def run (s : State) : List Char → Option State
  | [] => some s
  | c :: rest =>
    match s.step c with
    | some t => t.run rest
    | none => none

def result? (s : State) : Option Value :=
  match s.mode, s.frames with
  | .done v, _ => some v
  | .numeral n, [] => n.value?
  | _, _ => none

theorem run_append (s : State) (a b : List Char) :
    s.run (a ++ b) = (s.run a).bind fun t => t.run b := by
  induction a generalizing s with
  | nil => rfl
  | cons c rest ih =>
    simp only [List.cons_append, run]
    cases s.step c with
    | none => rfl
    | some t => exact ih t

end State

/-- The value of a complete JSON text. -/
def read? (text : List Char) : Option Value :=
  (State.initial.run text).bind State.result?

end DungeonForge.Json
