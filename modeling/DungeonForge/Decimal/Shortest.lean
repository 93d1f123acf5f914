import DungeonForge.Decimal.Binary64

/-!
The shortest decimal that reads back as a given binary number, and the texts made of it. A decimal
reads back if it lies in the interval of reals that round to the number; the ends belong to it when
the mantissa is even. For one, two, ... digits the two neighbours of the number on that decimal grid
are tried; the first grid with a hit is taken, and of two hits the nearer one. Styles differ in which
of two equally near ones they take.
-/

namespace DungeonForge.Decimal

structure Ratio where
  num : Nat
  den : Nat
deriving Repr

namespace Ratio

def lt (a b : Ratio) : Bool :=
  a.num * b.den < b.num * a.den

def le (a b : Ratio) : Bool :=
  a.num * b.den ≤ b.num * a.den

def ofBinary (m : Nat) (e : Int) : Ratio :=
  match e with
  | .ofNat k => ⟨m * Binary64.twoTo k, 1⟩
  | .negSucc k => ⟨m, Binary64.twoTo (k + 1)⟩

def ofDecimal (m : Nat) (e : Int) : Ratio :=
  match e with
  | .ofNat k => ⟨m * tenTo k, 1⟩
  | .negSucc k => ⟨m, tenTo (k + 1)⟩

def floorAt (a : Ratio) (e : Int) : Nat :=
  match e with
  | .ofNat k => a.num / (a.den * tenTo k)
  | .negSucc k => a.num * tenTo (k + 1) / a.den

end Ratio

structure Interval where
  low : Ratio
  high : Ratio
  closed : Bool

namespace Interval

/-- The interval around `m · 2 ^ e`. Below a power of two the next number is half as far away. -/
def around (m : Nat) (e : Int) : Interval :=
  let low :=
    if m = Binary64.twoTo 52 ∧ Binary64.minExponent < e then Ratio.ofBinary (4 * m - 1) (e - 2)
    else Ratio.ofBinary (2 * m - 1) (e - 1)
  ⟨low, Ratio.ofBinary (2 * m + 1) (e - 1), m % 2 = 0⟩

def holds (i : Interval) (a : Ratio) : Bool :=
  if i.closed then i.low.le a && a.le i.high else i.low.lt a && a.lt i.high

end Interval

def magnitude (a : Ratio) : Int :=
  let guess : Int := (digitCount a.num : Int) - digitCount a.den
  if a.lt (Ratio.ofDecimal 1 guess) then guess else guess + 1

inductive Tie
  | toEven
  | up
deriving DecidableEq, Repr

/-- The neighbour of `a` on the grid of `10 ^ e` that reads back, if there is one. -/
def onGrid? (tie : Tie) (i : Interval) (a : Ratio) (e : Int) : Option Nat :=
  let d := a.floorAt e
  let below := i.holds (Ratio.ofDecimal d e)
  let above := i.holds (Ratio.ofDecimal (d + 1) e)
  match below, above with
  | false, false => none
  | true, false => some d
  | false, true => some (d + 1)
  | true, true =>
    let middle := Ratio.ofDecimal (10 * d + 5) (e - 1)
    if a.lt middle then some d
    else if middle.lt a then some (d + 1)
    else some (if tie = .toEven ∧ d % 2 = 0 then d else d + 1)

def shortestFrom (tie : Tie) (i : Interval) (a : Ratio) (top : Int) : Nat → Nat → Nat × Int
  | 0, digits => (a.floorAt (top - digits), top - digits)
  | tries + 1, digits =>
    match onGrid? tie i a (top - digits) with
    | some d => (d, top - digits)
    | none => shortestFrom tie i a top tries (digits + 1)

def withoutZeros : Nat → Nat × Int → Nat × Int
  | 0, p => p
  | fuel + 1, (d, e) => if d ≠ 0 ∧ d % 10 = 0 then withoutZeros fuel (d / 10, e + 1) else (d, e)

/-- The shortest coefficient and exponent that read back as `m · 2 ^ e`, for a positive `m`. -/
def shortest (tie : Tie) (m : Nat) (e : Int) : Nat × Int :=
  let a := Ratio.ofBinary m e
  let (d, k) := shortestFrom tie (Interval.around m e) a (magnitude a) 17 1
  withoutZeros 17 (d, k)

def pointed (ds : List Char) (places : Nat) : List Char :=
  let padded := List.replicate (places + 1 - ds.length) '0' ++ ds
  padded.take (padded.length - places) ++ '.' :: padded.drop (padded.length - places)

def positional (d : Nat) (e : Int) : List Char :=
  match e with
  | .ofNat k => digits d ++ (if d = 0 then [] else List.replicate k '0')
  | .negSucc k => pointed (digits d) (k + 1)

structure Style where
  keepsPoint : Bool
  /-- Outside these powers of ten a number is written with an exponent. -/
  positionalFrom : Option Int
  positionalTo : Option Int
  tie : Tie

def Style.plain : Style := ⟨false, none, none, .up⟩

def Style.withPoint : Style := ⟨true, none, none, .up⟩

/-- Positional from a hundred-thousandth to below ten to the sixteenth. -/
def Style.exponential : Style := ⟨true, some (-4), some 16, .toEven⟩

def scientific (d : Nat) (e : Int) : List Char :=
  let ds := digits d
  let power := e + ds.length - 1
  let fraction := ds.drop 1
  ds.take 1 ++ (if fraction.isEmpty then [] else '.' :: fraction) ++
    'e' :: (if power < 0 then [] else ['+']) ++ integerText power

def Style.text (s : Style) (d : Nat) (e : Int) : List Char :=
  let top : Int := (digits d).length + e
  if (s.positionalFrom.any fun low => top < low) || (s.positionalTo.any fun high => high < top) then
    scientific d e
  else
    positional d e ++ (if s.keepsPoint && decide (0 ≤ e) then ['.', '0'] else [])

end DungeonForge.Decimal

namespace DungeonForge.Binary64

def text (s : Decimal.Style) : Binary64 → String
  | .nan => "NaN"
  | .infinite negative => if negative then "-inf" else "inf"
  | .finite negative m e =>
    let body :=
      if m = 0 then (if s.keepsPoint then ['0', '.', '0'] else ['0'])
      else
        let (d, k) := Decimal.shortest s.tie m e
        s.text d k
    String.ofList ((if negative then ['-'] else []) ++ body)

end DungeonForge.Binary64
