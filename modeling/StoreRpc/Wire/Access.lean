import StoreRpc.Wire.Buffer

/-!
How a buffer is written and read, step by step.

To read is to take slices of the bytes and to move the cursor along. This goes well as long as the
slices and the cursor lie within the bytes. A step that would reach past them breaks down, and
nothing comes of what it is part of.
-/

namespace StoreRpc.Buffer

/-- Something that is done with a buffer. An error comes with the buffer as it was changed up to
there. When a step breaks down, there is neither a value nor a buffer. -/
abbrev Access (ε : Type) := ExceptT ε (StateT Buffer Option)

namespace Access

variable {ε α : Type}

/-! ### Steps -/

/-- The number of unread bytes, which a cursor past the end would make negative. -/
def remaining : Access ε Nat := fun b =>
  if b.cursor ≤ b.bytes.length then some (.ok (b.bytes.length - b.cursor), b) else none

/-- The `n` bytes from `start` on. -/
def slice (start n : Nat) : Access ε (Vector UInt8 n) := fun b =>
  if h : start + n ≤ b.bytes.length then
    some (.ok ⟨((b.bytes.drop start).take n).toArray, by simp; omega⟩, b)
  else none

/-- The bytes from the cursor on. -/
def tail : Access ε (List UInt8) := fun b =>
  if b.cursor ≤ b.bytes.length then some (.ok (b.bytes.drop b.cursor), b) else none

/-- Moves the cursor, and tells where it was. -/
def advance (n : Nat) : Access ε Nat := fun b =>
  some (.ok b.cursor, { b with cursor := b.cursor + n })

/-- Puts these bytes in the place of those from `start` on. -/
def overwrite (start : Nat) (bs : List UInt8) : Access ε Unit := fun b =>
  if start + bs.length ≤ b.bytes.length then
    some (.ok (), { b with
      bytes := b.bytes.take start ++ bs ++ b.bytes.drop (start + bs.length) })
  else none

/-! ### Reading -/

def popRaw (n : Nat) : Access DecodeError (Vector UInt8 n) := do
  let available ← remaining
  if available < n then throw (.underflow n available)
  else do
    let start ← advance n
    slice start n

/-- The NUL is looked for before the cursor moves, and the bytes are looked at afterwards. -/
def popText : Access DecodeError String := do
  let rest ← tail
  match rest.findIdx? (· == 0) with
  | none => throw .unterminated
  | some length =>
    let start ← advance (length + 1)
    let raw ← slice start length
    match Utf8.decode? raw.toList with
    | some s => return s
    | none => throw (.notUtf8 (Utf8.fault raw.toList))

/-- Reads a record of fixed fields off the unread bytes, and moves the cursor by what it took of
them. -/
def decode (fields : Reader α) : Access DecodeError α := do
  let available ← remaining
  let rest ← tail
  match fields rest with
  | (.ok a, unused) =>
    let _ ← advance (rest.length - unused.length)
    return a
  | (.error (.underflow needed found), _) =>
    throw (.underflow (available + (needed - found)) available)
  | (.error why, _) => throw why

/-- Does what a reader says. -/
def pop : {α : Type} → Reader α → Access DecodeError α
  | _, .done a => pure a
  | _, .stop why => throw why
  | _, .left next => remaining >>= fun n => pop (next n)
  | _, .popRaw n next => popRaw n >>= fun bs => pop (next bs)
  | _, .popText next => popText >>= fun s => pop (next s)
  | _, .decode fields next => decode fields >>= fun b => pop (next b)

/-! ### Writing -/

/-- Appends what an encoding put out, piece by piece, and fails where it failed. -/
def push (e : Encoding) : Access EncodeError Unit := do
  e.pieces.forM fun bs => modify (·.pushRaw bs)
  match e.failure with
  | none => return
  | some why => throw why

/-- Fills in the length of what follows the header. -/
def finalize : Access EncodeError Unit := do
  let size := (← get).bytes.length
  if size < headerSize then throw .unframed
  else
    let n := size - headerSize
    if n < Word.bound headerSize then overwrite 0 (Word.le headerSize n)
    else throw (.tooMany .messageBytes n (Word.bound headerSize - 1))

end Access

end StoreRpc.Buffer
