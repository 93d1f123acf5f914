import DungeonForge.Decimal.Binary64

/-!
Numbers of TOML. Digits may be set apart by single underscores; an integer has 64 bits, a real
number is the nearest binary one and must be finite unless it is written as infinite.
-/

namespace DungeonForge.Toml

inductive Number
  | integer (n : Int)
  | real (x : Binary64)
deriving Repr

def digitRun (isDigit : Char → Bool) : List Char → List Char × List Char
  | c :: '_' :: d :: cs =>
    if isDigit c then
      if isDigit d then
        let (ds, rest) := digitRun isDigit (d :: cs)
        (c :: ds, rest)
      else ([c], '_' :: d :: cs)
    else ([], c :: '_' :: d :: cs)
  | c :: cs =>
    if isDigit c then
      let (ds, rest) := digitRun isDigit cs
      (c :: ds, rest)
    else ([], c :: cs)
  | [] => ([], [])

def fitsWord (n : Int) : Bool :=
  -9223372036854775808 ≤ n && n ≤ 9223372036854775807

def basedInteger? (base : Nat) (cs : List Char) : Option Number :=
  let isDigit (c : Char) : Bool := (Decimal.hexValue? c).any fun v => v < base
  match digitRun isDigit cs with
  | (d :: ds, []) =>
    let n := (d :: ds).foldl (fun n c => base * n + (Decimal.hexValue? c).getD 0) 0
    if fitsWord n then some (.integer n) else none
  | _ => none

def readExponent (cs : List Char) : Option Int :=
  match cs with
  | [] => some 0
  | c :: cs =>
    if c ≠ 'e' ∧ c ≠ 'E' then none
    else
      let (negative, cs) := match cs with
        | '+' :: cs => (false, cs)
        | '-' :: cs => (true, cs)
        | cs => (false, cs)
      match digitRun Char.isDigit cs with
      | (d :: ds, []) =>
        let n : Int := Decimal.ofDigits (d :: ds)
        some (if negative then -n else n)
      | _ => none

def realNumber? (negative : Bool) (whole fraction : List Char) (exponent : Int) : Option Number :=
  match Binary64.ofDecimal
      ⟨negative, Decimal.ofDigits (whole ++ fraction), exponent - fraction.length⟩ with
  | .infinite _ => none
  | x => some (.real x)

def decimalNumber? (negative : Bool) (cs : List Char) : Option Number :=
  match digitRun Char.isDigit cs with
  | ([], _) => none
  | ('0' :: _ :: _, _) => none
  | (whole, []) =>
    let n : Int := Decimal.ofDigits whole
    let n := if negative then -n else n
    if fitsWord n then some (.integer n) else none
  | (whole, '.' :: cs) =>
    match digitRun Char.isDigit cs with
    | ([], _) => none
    | (fraction, rest) => (readExponent rest).bind (realNumber? negative whole fraction)
  | (whole, rest) => (readExponent rest).bind (realNumber? negative whole [])

def unsignedNumber? (negative : Bool) (cs : List Char) : Option Number :=
  if cs = ['i', 'n', 'f'] then some (.real (.infinite negative))
  else if cs = ['n', 'a', 'n'] then some (.real .nan)
  else decimalNumber? negative cs

def number? (cs : List Char) : Option Number :=
  match cs with
  | '0' :: 'x' :: cs => basedInteger? 16 cs
  | '0' :: 'o' :: cs => basedInteger? 8 cs
  | '0' :: 'b' :: cs => basedInteger? 2 cs
  | '+' :: cs => unsignedNumber? false cs
  | '-' :: cs => unsignedNumber? true cs
  | cs => unsignedNumber? false cs

end DungeonForge.Toml
