import StoreRpc.Decimal.Shortest

/-!
Binary floating point, kept as its bits.

The bits are what travels; `Format` says how to read them as a number for comparison and text.
-/

namespace StoreRpc

/-- A single precision value. -/
structure Single where
  bits : UInt32
  deriving DecidableEq, Repr

/-- A double precision value. -/
structure Double where
  bits : UInt64
  deriving DecidableEq, Repr

namespace Decimal

/-- The widths of the exponent and the fraction. -/
structure Format where
  exponent : Nat
  fraction : Nat

def Format.single : Format := ⟨8, 23⟩
def Format.double : Format := ⟨11, 52⟩

namespace Format

variable (f : Format)

def negative (bits : Nat) : Bool := bits >>> (f.exponent + f.fraction) % 2 = 1
def exponentOf (bits : Nat) : Nat := bits >>> f.fraction % 1 <<< f.exponent
def fractionOf (bits : Nat) : Nat := bits % 1 <<< f.fraction

/-- All exponent bits are set: an infinity or no number. -/
def isSpecial (bits : Nat) : Bool := f.exponentOf bits = 1 <<< f.exponent - 1
def isNaN (bits : Nat) : Bool := f.isSpecial bits && f.fractionOf bits != 0
def isZero (bits : Nat) : Bool := f.exponentOf bits = 0 && f.fractionOf bits = 0

/-- Numeric equality: no number is equal to nothing, and the two zeros are equal. -/
def same (a b : Nat) : Bool :=
  !f.isNaN a && !f.isNaN b && (a == b || f.isZero a && f.isZero b)

/-- The exponent of the last place when the exponent bits are 1. -/
def lastPlace : Int := 2 - (1 <<< (f.exponent - 1) + f.fraction : Nat)

/-- The magnitude of a nonzero finite value, in full and in the fewest digits. -/
def magnitude (bits : Nat) : String :=
  let e := f.exponentOf bits
  let frac := f.fractionOf bits
  let (ds, p) :=
    if e = 0 then shortest frac f.lastPlace false
    else shortest (1 <<< f.fraction + frac) (f.lastPlace + (e - 1)) (frac = 0)
  positional ds p

/-- The text of a value. -/
def text (bits : Nat) : String :=
  if f.isNaN bits then "NaN"
  else
    (if f.negative bits then "-" else "") ++
      if f.isSpecial bits then "inf"
      else if f.isZero bits then "0"
      else f.magnitude bits

end Format

end Decimal

def Single.text (x : Single) : String := Decimal.Format.single.text x.bits.toNat
def Single.same (x y : Single) : Bool := Decimal.Format.single.same x.bits.toNat y.bits.toNat
def Double.text (x : Double) : String := Decimal.Format.double.text x.bits.toNat
def Double.same (x y : Double) : Bool := Decimal.Format.double.same x.bits.toNat y.bits.toNat

end StoreRpc
