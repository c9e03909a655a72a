import StoreRpc.Wire.Encoding

/-!
Request frames: a four-byte length and a payload of that many bytes.
-/

namespace StoreRpc.Frame

/-- The frame around a payload. -/
def ofPayload (payload : List UInt8) : Except EncodeError (List UInt8) :=
  let n := payload.length
  if n < Word.bound 4 then .ok (Word.le 4 n ++ payload)
  else .error (.tooMany .messageBytes n (Word.bound 4 - 1))

/-- The frame around the payload that an encoding yields. -/
def ofEncoding (e : Encoding) : Except EncodeError (List UInt8) := e.result.bind ofPayload

/-- Cuts up to `n` frames off a byte string; what is left is no whole frame. -/
def cut : Nat → List UInt8 → List (List UInt8) × List UInt8
  | 0, bs => ([], bs)
  | n + 1, bs =>
    let size := 4 + Word.ofLe (bs.take 4)
    if 4 ≤ bs.length ∧ size ≤ bs.length then
      let (frames, rest) := cut n (bs.drop size)
      (bs.take size :: frames, rest)
    else ([], bs)

/-- The whole frames at the front of a byte string, and what follows them. -/
def split (bs : List UInt8) : List (List UInt8) × List UInt8 := cut bs.length bs

end StoreRpc.Frame
