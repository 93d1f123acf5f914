import DungeonForge.Decimal.Basic

/-!
String literals of JSON. `Literal.write` gives the shortest escape of each character that must not
stand by itself and leaves all others alone. `Literal.step` reads a literal one character at a
time, with every escape that the format allows; `Literal.scan` runs it up to the closing quote.
-/

namespace DungeonForge.Json.Literal

def hexDigit (n : Nat) : Char :=
  (Nat.toDigits 16 n).headD '0'

/-- How a character stands inside a literal: quote, backslash and control characters are escaped. -/
def escape (c : Char) : List Char :=
  if c = '"' then ['\\', '"']
  else if c = '\\' then ['\\', '\\']
  else if c = '\x08' then ['\\', 'b']
  else if c = '\t' then ['\\', 't']
  else if c = '\n' then ['\\', 'n']
  else if c = '\x0c' then ['\\', 'f']
  else if c = '\r' then ['\\', 'r']
  else if c.toNat < 0x20 then
    ['\\', 'u', '0', '0', hexDigit (c.toNat / 16), hexDigit (c.toNat % 16)]
  else [c]

def escaped (cs : List Char) : List Char :=
  cs.flatMap escape

def write (cs : List Char) : List Char :=
  '"' :: (escaped cs ++ ['"'])

/-- Where a reader stands inside a literal. A character beyond the basic plane may be written as
two units of four hexadecimal digits; `high` holds the first of them. -/
inductive Mode
  | plain
  | backslash
  | unit (high : Option Nat) (digits value : Nat)
  | secondBackslash (high : Nat)
  | secondLetter (high : Nat)
deriving DecidableEq, Repr

structure Pending where
  reversed : List Char
  mode : Mode
deriving DecidableEq, Repr

def opened : Pending :=
  ⟨[], .plain⟩

def shortEscape? : Char → Option Char
  | '"' => some '"'
  | '\\' => some '\\'
  | '/' => some '/'
  | 'b' => some '\x08'
  | 'f' => some '\x0c'
  | 'n' => some '\n'
  | 'r' => some '\r'
  | 't' => some '\t'
  | _ => none

def isHighUnit (n : Nat) : Bool :=
  0xd800 ≤ n && n < 0xdc00

def isLowUnit (n : Nat) : Bool :=
  0xdc00 ≤ n && n < 0xe000

/-- Four digits have been read. A low unit is accepted only after a high one. -/
def closeUnit (reversed : List Char) (high : Option Nat) (value : Nat) : Option Pending :=
  match high with
  | none =>
    if isHighUnit value then some ⟨reversed, .secondBackslash value⟩
    else if isLowUnit value then none
    else some ⟨Char.ofNat value :: reversed, .plain⟩
  | some h =>
    if isLowUnit value then
      some ⟨Char.ofNat (0x10000 + (h - 0xd800) * 0x400 + (value - 0xdc00)) :: reversed, .plain⟩
    else none

inductive Progress
  | more (p : Pending)
  | closed (text : List Char)
deriving DecidableEq, Repr

def step (p : Pending) (c : Char) : Option Progress :=
  match p.mode with
  | .plain =>
    if c = '"' then some (.closed p.reversed.reverse)
    else if c = '\\' then some (.more ⟨p.reversed, .backslash⟩)
    else if c.toNat < 0x20 then none
    else some (.more ⟨c :: p.reversed, .plain⟩)
  | .backslash =>
    if c = 'u' then some (.more ⟨p.reversed, .unit none 0 0⟩)
    else (shortEscape? c).map fun e => .more ⟨e :: p.reversed, .plain⟩
  | .unit high digits value =>
    match Decimal.hexValue? c with
    | none => none
    | some h =>
      if digits + 1 < 4 then some (.more ⟨p.reversed, .unit high (digits + 1) (16 * value + h)⟩)
      else (closeUnit p.reversed high (16 * value + h)).map .more
  | .secondBackslash high =>
    if c = '\\' then some (.more ⟨p.reversed, .secondLetter high⟩) else none
  | .secondLetter high =>
    if c = 'u' then some (.more ⟨p.reversed, .unit (some high) 0 0⟩) else none

def scanFrom (p : Pending) : List Char → Option (List Char × List Char)
  | [] => none
  | c :: rest =>
    match step p c with
    | none => none
    | some (.closed text) => some (text, rest)
    | some (.more q) => scanFrom q rest

def scan : List Char → Option (List Char × List Char)
  | '"' :: rest => scanFrom opened rest
  | _ => none

end DungeonForge.Json.Literal
