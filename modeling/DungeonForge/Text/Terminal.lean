/-!
Text for a reader that is no terminal. Control sequences, which begin with an escape character, are
left out, and so are control characters other than blanks and line breaks.
-/

namespace DungeonForge.Text.Terminal

inductive Mode
  | plain
  | escape
  | announced
  | sequence
  | command
  | string
deriving DecidableEq, Repr

def isSpacing (c : Char) : Bool :=
  c = '\t' || c = '\n' || c = '\x0c' || c = '\r'

def isControl (c : Char) : Bool :=
  c.toNat < 0x20 || c = '\x7f'

def within (c : Char) (low high : Nat) : Bool :=
  low ≤ c.toNat && c.toNat ≤ high

def afterEscape (c : Char) : Mode :=
  if c = '[' then .sequence
  else if c = ']' then .command
  else if c = 'P' || c = 'X' || c = '^' || c = '_' then .string
  else if within c 0x20 0x2f then .announced
  else if within c 0x30 0x7e then .plain
  else .escape

/-- The mode after a character, and whether the character is shown. -/
def step (m : Mode) (c : Char) : Mode × Bool :=
  if c = '\x1b' then (.escape, false)
  else if c = '\x18' || c = '\x1a' then (.plain, false)
  else
    match m with
    | .plain => (.plain, isSpacing c || !isControl c)
    | .command => (if c = '\x07' then .plain else .command, false)
    | .string => (.string, false)
    | .escape => if isSpacing c then (.plain, true) else (afterEscape c, false)
    | .announced =>
      if isSpacing c then (.plain, true)
      else (if within c 0x30 0x7e then .plain else .announced, false)
    | .sequence =>
      if isSpacing c then (.plain, true)
      else (if within c 0x40 0x7e then .plain else .sequence, false)

def shownFrom (m : Mode) : List Char → List Char
  | [] => []
  | c :: cs =>
    match step m c with
    | (m, true) => c :: shownFrom m cs
    | (m, false) => shownFrom m cs

def shown (s : String) : String :=
  String.ofList (shownFrom .plain s.toList)

end DungeonForge.Text.Terminal
