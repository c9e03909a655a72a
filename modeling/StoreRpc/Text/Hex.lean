/-!
Numbers and bytes in hexadecimal.
-/

namespace StoreRpc.Hex

/-- The value of a digit of either case. -/
def digit? (c : Char) : Option Nat :=
  if '0' ≤ c ∧ c ≤ '9' then some (c.toNat - '0'.toNat)
  else if 'a' ≤ c ∧ c ≤ 'f' then some (c.toNat - 'a'.toNat + 10)
  else if 'A' ≤ c ∧ c ≤ 'F' then some (c.toNat - 'A'.toNat + 10)
  else none

/-- A number in lowercase digits, as few as it needs. -/
def digits (n : Nat) : List Char := Nat.toDigits 16 n

/-- A number in at least `width` lowercase digits. -/
def padded (width n : Nat) : String :=
  let ds := digits n
  String.ofList (List.replicate (width - ds.length) '0' ++ ds)

/-- Two digits for each byte. -/
def ofBytes (bs : List UInt8) : String :=
  String.ofList (bs.flatMap fun b =>
    [Nat.digitChar (b.toNat / 16), Nat.digitChar (b.toNat % 16)])

/-- The value of a row of digits, the first the most significant. -/
def value? : List Char → Option Nat :=
  List.foldl (fun acc c => acc.bind fun n => (digit? c).map (16 * n + ·)) (some 0)

end StoreRpc.Hex
