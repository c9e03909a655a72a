import StoreRpc.IoFault

/-!
A byte stream to a server, as it will behave: what it will deliver, and how much it will take.

Reads hand out the segments of the script one by one, and a fault in it fails one read. Reading
and writing go on until all bytes are there or gone, or something fails; an interrupted read is
tried again.
-/

namespace StoreRpc

inductive Segment
  | bytes (bs : List UInt8)
  | fault (kind : IoKind)
  deriving DecidableEq, Repr

structure Stream where
  /-- What reads will deliver, before the end of the stream. -/
  incoming : List Segment
  /-- The most that one write takes. -/
  chunk : Option Nat
  /-- How much writes will still take in all. -/
  room : Option Nat
  /-- What fails a write for which there is no room. -/
  writeFault : Option IoKind
  /-- What fails every flush. -/
  flushFault : Option IoKind
  deriving DecidableEq, Repr

namespace Stream

/-- Delivers these bytes, takes every write. -/
def ofBytes (bs : List UInt8) : Stream := ⟨[.bytes bs], none, none, none, none⟩

/-! ### Reading -/

/-- The bytes that are still to be delivered. -/
def undelivered (s : Stream) : List UInt8 :=
  s.incoming.flatMap fun
    | .bytes bs => bs
    | .fault _ => []

/-- Collects up to `n` bytes: what came, what stopped it if not the end, and what is left. -/
def collect : Nat → List Segment → List UInt8 × Option IoKind × List Segment
  | 0, segments => ([], none, segments)
  | _ + 1, [] => ([], none, [])
  | n + 1, .fault kind :: rest =>
    if kind = .interrupted then collect (n + 1) rest else ([], some kind, rest)
  | n + 1, .bytes bs :: rest =>
    match bs.drop (n + 1) with
    | [] =>
      let (more, why, rest) := collect (n + 1 - bs.length) rest
      (bs ++ more, why, rest)
    | left => (bs.take (n + 1), none, .bytes left :: rest)

/-- Reads exactly `n` bytes. On failure the bytes that came are told as well. -/
def receive (s : Stream) (n : Nat) : Except (List UInt8 × IoFault) (List UInt8) × Stream :=
  let (bs, why, rest) := collect n s.incoming
  let s := { s with incoming := rest }
  match why with
  | some kind => (.error (bs, .ofKind kind), s)
  | none => if bs.length < n then (.error (bs, .short n bs.length), s) else (.ok bs, s)

/-! ### Writing -/

/-- What one write takes of the bytes offered. -/
def takes (s : Stream) (bs : List UInt8) : List UInt8 :=
  let bs := (s.chunk.map bs.take).getD bs
  (s.room.map bs.take).getD bs

theorem length_takes_le (s : Stream) (bs : List UInt8) : (s.takes bs).length ≤ bs.length := by
  have h (limit : Option Nat) (l : List UInt8) :
      ((limit.map l.take).getD l).length ≤ l.length := by
    cases limit with
    | none => exact Nat.le_refl _
    | some n => exact List.length_take_le' n l
  exact Nat.le_trans (h s.room _) (h s.chunk bs)

/-- Writes piece by piece, after the pieces in `done`, the last of which comes first. -/
def deliverAfter (s : Stream) (done : List (List UInt8)) (bs : List UInt8) :
    List UInt8 × Option IoFault × Stream :=
  if bs = [] then (done.reverse.flatten, none, s)
  else
    let piece := s.takes bs
    if s.takes bs = [] then
      let why := match s.writeFault, s.room with
        | some kind, some 0 => .ofKind kind
        | _, _ => .writeStopped
      (done.reverse.flatten, some why, s)
    else
      deliverAfter { s with room := s.room.map (· - piece.length) } (piece :: done)
        (bs.drop piece.length)
  termination_by bs.length
  decreasing_by
    have h1 : 0 < (s.takes bs).length := List.length_pos_iff.mpr ‹s.takes bs ≠ []›
    have h2 := s.length_takes_le bs
    simp only [List.length_drop]
    omega

/-- Writes all bytes: those that were taken, and what failed if not all of them were. -/
def deliver (s : Stream) (bs : List UInt8) : List UInt8 × Option IoFault × Stream :=
  s.deliverAfter [] bs

def flush (s : Stream) : Option IoFault := s.flushFault.map .ofKind

end Stream

end StoreRpc
