import DungeonForge.Decimal.Binary64

/-!
Reading a decimal in steps that each round: its leading digits, as many as a word of 64 bits holds,
become a number, and that number is multiplied or divided by a power of ten. The result may differ
from the nearest number in its last bit.
-/

namespace DungeonForge

namespace Decimal

/-- The digits at the front that a word of 64 bits holds; the others count as zeros. -/
def leading (n : Nat) (e : Int) : Nat × Int :=
  if n < UInt64.size then (n, e) else leading (n / 10) (e + 1)
termination_by n
decreasing_by
  have : 0 < n := by
    have := Nat.zero_lt_of_lt (show 0 < UInt64.size by decide)
    omega
  omega

end Decimal

namespace Binary64

def roundedProduct : Binary64 → Binary64 → Binary64
  | .finite s m e, .finite t n f => ofScaled (s != t) (m * n) (e + f)
  | x, _ => x

def roundedQuotient : Binary64 → Binary64 → Binary64
  | .finite s m e, .finite t n f =>
    if m = 0 then .finite (s != t) 0 minExponent
    else
      match e - f with
      | .ofNat k => ofQuotient (s != t) (m * twoTo k) n
      | .negSucc k => ofQuotient (s != t) m (n * twoTo (k + 1))
  | x, _ => x

def maxPower : Nat := 308

def powerOfTen (k : Nat) : Binary64 :=
  ofDecimal ⟨false, 1, k⟩

/-- A number times a power of ten; a division by more than the largest power takes several steps. -/
def timesPower (x : Binary64) (e : Int) : Binary64 :=
  if x.isZero then x
  else
    match _h : e with
    | .ofNat k =>
      if k ≤ maxPower then x.roundedProduct (powerOfTen k)
      else
        match x with
        | .finite s _ _ => .infinite s
        | x => x
    | .negSucc k =>
      if k < maxPower then x.roundedQuotient (powerOfTen (k + 1))
      else timesPower (x.roundedQuotient (powerOfTen maxPower)) (e + maxPower)
termination_by (-e).toNat
decreasing_by
  simp only [maxPower] at *
  omega

def ofDecimalInSteps (d : Decimal) : Binary64 :=
  let (n, e) := Decimal.leading d.coefficient d.exponent
  (ofNat d.negative n).timesPower e

end Binary64

end DungeonForge
