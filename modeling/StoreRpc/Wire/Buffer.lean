import StoreRpc.Wire.Reader
import StoreRpc.Wire.Encoding
import StoreRpc.Stream

/-!
A growing byte string with a read cursor.

Messages are built behind a length header that `start` reserves and `finalize` fills in.

`push` and `pop` say what is written and read. How it is done, with a cursor that is moved along and
slices that must lie within the bytes, is said by `Access`.
-/

namespace StoreRpc

structure Buffer where
  bytes : List UInt8
  cursor : Nat
  deriving DecidableEq, Repr

namespace Buffer

def empty : Buffer := ⟨[], 0⟩

def ofBytes (bs : List UInt8) : Buffer := ⟨bs, 0⟩

def unread (b : Buffer) : List UInt8 := b.bytes.drop b.cursor

/-- How many bytes are unread. -/
def remaining (b : Buffer) : Nat := b.bytes.length - b.cursor

/-! ### Contents -/

/-- Drops all contents. -/
def clear (b : Buffer) : Buffer := { b with bytes := [], cursor := 0 }

/-- Puts the cursor back to the front. -/
def rewind (b : Buffer) : Buffer := { b with cursor := 0 }

/-- Exactly `n` bytes: the first ones there are, filled up with zeros. -/
def resize (b : Buffer) (n : Nat) : Buffer :=
  { b with
    bytes := b.bytes.take n ++ List.replicate (n - b.bytes.length) 0
    cursor := min b.cursor n }

def pushRaw (b : Buffer) (bs : List UInt8) : Buffer := { b with bytes := b.bytes ++ bs }

/-- Replaces the contents by what came from a stream, all of it or what was before a fault. -/
def refill (b : Buffer) :
    Except (List UInt8 × IoFault) (List UInt8) → Except IoFault Unit × Buffer
  | .ok bs => (.ok (), b.clear.pushRaw bs)
  | .error (bs, why) => (.error why, b.clear.pushRaw bs)

/-- Replaces the contents by the next `n` bytes of a stream, or by those that came. -/
def readFrom (b : Buffer) (s : Stream) (n : Nat) : Except IoFault Unit × Buffer × Stream :=
  let (came, s) := s.receive n
  let (outcome, b) := b.refill came
  (outcome, b, s)

def summary (b : Buffer) : String :=
  "Buffer \x7b len: " ++ toString b.bytes.length ++ ", pos: " ++ toString b.cursor ++ " \x7d"

/-! ### Messages -/

/-- Bytes of the length header. -/
def headerSize : Nat := 4

/-- Begins a message, with nothing in it but room for its length. -/
def start (b : Buffer) : Buffer := b.clear.pushRaw (List.replicate headerSize 0)

/-- Fills in the length of what follows the header. -/
def finalize (b : Buffer) : Except EncodeError Buffer :=
  if b.bytes.length < headerSize then .error .unframed
  else
    let n := b.bytes.length - headerSize
    if n < Word.bound headerSize then
      .ok { b with bytes := Word.le headerSize n ++ b.bytes.drop headerSize }
    else .error (.tooMany .messageBytes n (Word.bound headerSize - 1))

/-! ### Writing and reading -/

/-- Appends what an encoding put out, complete or not. -/
def push (b : Buffer) (e : Encoding) : Except EncodeError Unit × Buffer :=
  (match e.failure with
    | none => .ok ()
    | some why => .error why,
    b.pushRaw e.bytes)

/-- Reads at the cursor and leaves it where the reader stopped. -/
def pop {α : Type} (b : Buffer) (r : Reader α) : Except DecodeError α × Buffer :=
  let (value, rest) := r b.unread
  (value, { b with cursor := b.bytes.length - rest.length })

end Buffer

end StoreRpc
