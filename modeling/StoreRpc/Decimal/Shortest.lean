/-!
The shortest decimal that reads back as a binary value.

A value `m * 2 ^ q` is read back from every decimal nearer to it than to its neighbours. The
decimal grids are tried from the coarsest to the finest, and on each the two points around the
value; the first grid with a point that reads back gives the digits.
-/

namespace StoreRpc.Decimal

/-- A positive value and the decimals that read back as it, as whole multiples of one unit:
those strictly between `low` and `high`, and these two as well if `closed`. -/
structure Span where
  low : Nat
  value : Nat
  high : Nat
  closed : Bool

/-- The span of `m * 2 ^ q` in units of `2 ^ (q - 2)`. The value below is only half as far away
when `narrow`. Ties go to the even one, so the ends belong to an even `m`. -/
def Span.ofBinary (m : Nat) (narrow : Bool) : Span :=
  ⟨4 * m - (if narrow then 1 else 2), 4 * m, 4 * m + 2, m % 2 = 0⟩

/-- Whether `k` times `unit` reads back, the span being scaled by `scale`. -/
def Span.admits (s : Span) (scale unit k : Nat) : Bool :=
  if s.closed then s.low * scale ≤ k * unit && k * unit ≤ s.high * scale
  else s.low * scale < k * unit && k * unit < s.high * scale

/-- The multiple of `unit` next to the value that reads back, the upper one on a tie. -/
def Span.pick? (s : Span) (scale unit : Nat) : Option Nat :=
  let k := s.value * scale / unit
  match s.admits scale unit k, s.admits scale unit (k + 1) with
  | true, true => if 2 * (s.value * scale - k * unit) < unit then some k else some (k + 1)
  | true, false => some k
  | false, true => some (k + 1)
  | false, false => none

/-- The point of the grid `10 ^ p` that reads back as the span's value times `2 ^ e`. -/
def Span.onGrid? (s : Span) (e p : Int) : Option (Nat × Int) :=
  (s.pick? (Nat.pow 10 (-p).toNat <<< e.toNat) (Nat.pow 10 p.toNat <<< (-e).toNat)).map (·, p)

/-- The grids in the order they are tried, from `10 ^ 400` to `10 ^ (-400)`. -/
def grids : List Int := (List.range 801).map fun (i : Nat) => 400 - (i : Int)

/-- Digits and exponent of the shortest decimal that reads back as `m * 2 ^ q`. -/
def shortest (m : Nat) (q : Int) (narrow : Bool) : Nat × Int :=
  (grids.findSome? ((Span.ofBinary m narrow).onGrid? (q - 2))).getD (0, 0)

/-- A decimal written out in full, never with an exponent. -/
def positional (digits : Nat) (exponent : Int) : String :=
  let ds := Nat.toDigits 10 digits
  if 0 ≤ exponent then
    String.ofList (ds ++ List.replicate exponent.toNat '0')
  else
    let places := (-exponent).toNat
    let ds := List.replicate (places + 1 - ds.length) '0' ++ ds
    String.ofList (ds.take (ds.length - places) ++ '.' :: ds.drop (ds.length - places))

end StoreRpc.Decimal
