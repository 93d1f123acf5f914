import DungeonForge.Decimal.Basic

/-!
Binary floating-point numbers of 64 bits as exact values: a number of at most 53 bits times a power
of two. `Binary64.ofDecimal` rounds an exact decimal to the nearest of them, a tie to the even one.
-/

namespace DungeonForge

inductive Binary64
  | nan
  | infinite (negative : Bool)
  /-- The number `± mantissa · 2 ^ exponent`. -/
  | finite (negative : Bool) (mantissa : Nat) (exponent : Int)
deriving DecidableEq, Repr

namespace Binary64

def twoTo (k : Nat) : Nat := Nat.pow 2 k

def minExponent : Int := -1074

def maxExponent : Int := 971

/-- The nearest number to a quotient, a tie going to the even one. -/
def roundQuotient (num den : Nat) : Nat :=
  let q := num / den
  let r := num % den
  if 2 * r < den then q
  else if den < 2 * r then q + 1
  else if q % 2 = 0 then q else q + 1

def scaled (num den : Nat) (e : Int) : Nat × Nat :=
  match e with
  | .ofNat k => (num, den * twoTo k)
  | .negSucc k => (num * twoTo (k + 1), den)

def exponentFor (num den : Nat) : Int :=
  let e : Int := (Nat.log2 num : Int) - Nat.log2 den - 52
  let (n, d) := scaled num den e
  max minExponent (if n < d * twoTo 52 then e - 1 else e)

def ofQuotient (negative : Bool) (num den : Nat) : Binary64 :=
  let e := exponentFor num den
  let (n, d) := scaled num den e
  let m := roundQuotient n d
  let (m, e) := if m = twoTo 53 then (twoTo 52, e + 1) else (m, e)
  if maxExponent < e then .infinite negative else .finite negative m e

/-- The number nearest to a decimal. Decimals beyond every finite number, or nearer to zero than to
the smallest positive one, are told by their order of magnitude alone. -/
def ofDecimal (d : Decimal) : Binary64 :=
  let magnitude : Int := Decimal.digitCount d.coefficient + d.exponent
  if d.coefficient = 0 ∨ magnitude < -330 then .finite d.negative 0 minExponent
  else if 330 < magnitude then .infinite d.negative
  else
    match d.exponent with
    | .ofNat k => ofQuotient d.negative (d.coefficient * Decimal.tenTo k) 1
    | .negSucc k => ofQuotient d.negative d.coefficient (Decimal.tenTo (k + 1))

def ofNat (negative : Bool) (n : Nat) : Binary64 :=
  if n = 0 then .finite negative 0 minExponent else ofQuotient negative n 1

def ofScaled (negative : Bool) (m : Nat) (e : Int) : Binary64 :=
  match e with
  | .ofNat k => ofNat negative (m * twoTo k)
  | .negSucc k => if m = 0 then ofNat negative 0 else ofQuotient negative m (twoTo (k + 1))

def isZero : Binary64 → Bool
  | .finite _ m _ => m = 0
  | _ => false

def roundMagnitude (mantissa : Nat) (exponent : Int) : Nat :=
  match exponent with
  | .ofNat k => mantissa * twoTo k
  | .negSucc k => (mantissa + twoTo k) / twoTo (k + 1)

/-- The nearest integer, a half going away from zero, kept between two bounds. What is not a
number counts as zero. -/
def roundClamped (low high : Int) : Binary64 → Int
  | .nan => 0
  | .infinite true => low
  | .infinite false => high
  | .finite negative m e =>
    let n : Int := roundMagnitude m e
    max low (min high (if negative then -n else n))

end Binary64

end DungeonForge
