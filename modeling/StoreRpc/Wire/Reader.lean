import StoreRpc.Wire.Error
import StoreRpc.Wire.Word

/-!
Readers take a value off the front of a byte string.

A reader tells what is left unread whether it succeeds or fails, so that a failure also has a
place.
-/

namespace StoreRpc

/-- What a reader does, part by part. -/
inductive Reader : Type → Type 1
  | done {α : Type} (value : α) : Reader α
  /-- Stops where it stands. -/
  | stop {α : Type} (why : DecodeError) : Reader α
  /-- Goes on with how many bytes are left. -/
  | left {α : Type} (next : Nat → Reader α) : Reader α
  /-- Takes so many bytes. -/
  | popRaw {α : Type} (n : Nat) (next : Vector UInt8 n → Reader α) : Reader α
  /-- Takes a text and its NUL. -/
  | popText {α : Type} (next : String → Reader α) : Reader α
  /-- Takes a record of fixed fields, whole or not at all. -/
  | decode {α β : Type} (fields : Reader β) (next : β → Reader α) : Reader α

namespace Reader

variable {α β : Type}

protected def bind : {α : Type} → Reader α → (α → Reader β) → Reader β
  | _, done a, f => f a
  | _, stop why, _ => stop why
  | _, left next, f => left fun n => (next n).bind f
  | _, popRaw n next, f => popRaw n fun bs => (next bs).bind f
  | _, popText next, f => popText fun s => (next s).bind f
  | _, decode fields next, f => decode fields fun b => (next b).bind f

instance : Monad Reader where
  pure := done
  bind := Reader.bind

theorem bind_done (r : Reader α) : r >>= done = r := by
  change r.bind done = r
  induction r with
  | done | stop => rfl
  | left next ih | popText next ih => exact congrArg _ (funext ih)
  | popRaw n next ih => exact congrArg _ (funext ih)
  | decode fields next _ ih => exact congrArg _ (funext ih)

theorem bind_assoc {γ : Type} (r : Reader α) (f : α → Reader β) (g : β → Reader γ) :
    r >>= f >>= g = r >>= fun a => f a >>= g := by
  change (r.bind f).bind g = r.bind fun a => (f a).bind g
  induction r with
  | done | stop => rfl
  | left next ih | popText next ih => exact congrArg _ (funext fun x => ih x f)
  | popRaw n next ih => exact congrArg _ (funext fun x => ih x f)
  | decode fields next _ ih => exact congrArg _ (funext fun x => ih x f)

instance : LawfulMonad Reader := LawfulMonad.mk' Reader bind_done (fun _ _ => rfl) bind_assoc

/-! ### Running -/

/-- Whether there are `n` bytes. -/
def covers (n : Nat) (bs : List UInt8) : Bool :=
  match n with
  | 0 => true
  | n + 1 => !(bs.drop n).isEmpty

theorem covers_iff {n : Nat} {bs : List UInt8} : covers n bs = true ↔ n ≤ bs.length := by
  cases n with
  | zero => simp [covers]
  | succ n =>
    rw [covers, Bool.not_eq_true', List.isEmpty_eq_false_iff, ne_eq, List.drop_eq_nil_iff]
    omega

/-- Reads off the front of a byte string. A record has failed for want of the bytes that one of its
fields lacks beside those that were there for the record. The NUL of a text is behind the reader
when the bytes turn out not to be UTF-8. -/
def run : {α : Type} → Reader α → List UInt8 → Except DecodeError α × List UInt8
  | _, done a, bs => (.ok a, bs)
  | _, stop why, bs => (.error why, bs)
  | _, left next, bs => (next bs.length).run bs
  | _, popRaw n next, bs =>
    if h : covers n bs then
      (next ⟨(bs.take n).toArray, by simp [covers_iff.mp h]⟩).run (bs.drop n)
    else (.error (.underflow n bs.length), bs)
  | _, popText next, bs =>
    match bs.dropWhile (· != 0) with
    | [] => (.error .unterminated, bs)
    | _ :: rest =>
      let raw := bs.takeWhile (· != 0)
      match Utf8.decode? raw with
      | some s => (next s).run rest
      | none => (.error (.notUtf8 (Utf8.fault raw)), rest)
  | _, decode fields next, bs =>
    match fields.run bs with
    | (.ok b, rest) => (next b).run rest
    | (.error (.underflow needed available), _) =>
      (.error (.underflow (bs.length + (needed - available)) bs.length), bs)
    | (.error why, _) => (.error why, bs)

instance : CoeFun (Reader α) fun _ => List UInt8 → Except DecodeError α × List UInt8 := ⟨run⟩

def fail (e : DecodeError) : Reader α := stop e

@[simp] theorem pure_apply (a : α) (bs : List UInt8) : (pure a : Reader α) bs = (.ok a, bs) := rfl

@[simp] theorem fail_apply (e : DecodeError) (bs : List UInt8) :
    (fail e : Reader α) bs = (.error e, bs) := rfl

theorem bind_apply (r : Reader α) (f : α → Reader β) (bs : List UInt8) :
    (r >>= f) bs = match r bs with
      | (.ok a, rest) => f a rest
      | (.error e, rest) => (.error e, rest) := by
  change (r.bind f) bs = _
  induction r generalizing bs with
  | done | stop => rfl
  | left next ih => exact ih bs.length f bs
  | popRaw n next ih =>
    simp only [Reader.bind, run]
    split
    · exact ih _ f _
    · rfl
  | popText next ih =>
    simp only [Reader.bind, run]
    split
    · rfl
    · split
      · exact ih _ f _
      · rfl
  | decode fields next _ ih =>
    simp only [Reader.bind, run]
    rcases fields bs with ⟨why | b, rest⟩
    · cases why <;> rfl
    · exact ih b f rest

theorem bind_ok {r : Reader α} {f : α → Reader β} {bs rest : List UInt8} {a : α}
    (h : r bs = (.ok a, rest)) : (r >>= f) bs = f a rest := by
  rw [bind_apply, h]

theorem bind_error {r : Reader α} {f : α → Reader β} {bs rest : List UInt8} {e : DecodeError}
    (h : r bs = (.error e, rest)) : (r >>= f) bs = (.error e, rest) := by
  rw [bind_apply, h]

theorem map_apply (g : α → β) (r : Reader α) (bs : List UInt8) :
    (g <$> r) bs = match r bs with
      | (.ok a, rest) => (.ok (g a), rest)
      | (.error e, rest) => (.error e, rest) := by
  rw [← bind_pure_comp, bind_apply]
  rfl

/-! ### Bytes and words -/

/-- How many bytes are left. -/
def remaining : Reader Nat := left done

@[simp] theorem remaining_apply (bs : List UInt8) : remaining bs = (.ok bs.length, bs) := rfl

/-- The next `n` bytes, as a vector. -/
def vector (n : Nat) : Reader (Vector UInt8 n) := popRaw n done

/-- The next `n` bytes. -/
def take (n : Nat) : Reader (List UInt8) := Vector.toList <$> vector n

theorem take_apply (n : Nat) (bs : List UInt8) : take n bs =
    if covers n bs then (.ok (bs.take n), bs.drop n)
    else (.error (.underflow n bs.length), bs) := by
  rw [take, map_apply, vector, run]
  by_cases h : covers n bs
  · simp [h, run]
  · simp [h]

/-- A record of fixed fields is read whole or not at all: where a field falls short, the bytes
needed are those that were there for the record and those that the field lacks. -/
def record (r : Reader α) : Reader α := decode r done

theorem record_apply (r : Reader α) (bs : List UInt8) : record r bs = match r bs with
    | (.ok a, rest) => (.ok a, rest)
    | (.error (.underflow needed available), _) =>
      (.error (.underflow (bs.length + (needed - available)) bs.length), bs)
    | (.error e, _) => (.error e, bs) := by
  rw [record, run]
  rcases r bs with ⟨why | a, rest⟩
  · cases why <;> rfl
  · rfl

/-- A little-endian word of `width` bytes. -/
def word (width : Nat) : Reader Nat := record (Word.ofLe <$> take width)

theorem word_apply (width : Nat) (bs : List UInt8) :
    word width bs = (Word.ofLe <$> take width) bs := by
  rw [word, record_apply, map_apply, take_apply]
  by_cases h : covers width bs
  · simp only [h, if_true]
  · have hshort := mt covers_iff.mpr h
    simp only [h]
    have hneeded : bs.length + (width - bs.length) = width := by omega
    simp [hneeded]

def u8 : Reader UInt8 := UInt8.ofNat <$> word 1
def u16 : Reader UInt16 := UInt16.ofNat <$> word 2
def u32 : Reader UInt32 := UInt32.ofNat <$> word 4
def u64 : Reader UInt64 := UInt64.ofNat <$> word 8

/-- A byte that is true unless it is zero. -/
def flag : Reader Bool := (· != 0) <$> u8

/-- A truth value that must be 0 or 1. -/
def strictBool : Reader Bool := record do
  match ← u8 with
  | 0 => return false
  | 1 => return true
  | b => fail (.notBool b)

/-- A text up to its NUL. -/
def text : Reader String := popText done

theorem text_apply (bs : List UInt8) : text bs = match bs.dropWhile (· != 0) with
    | [] => (.error .unterminated, bs)
    | _ :: rest =>
      match Utf8.decode? (bs.takeWhile (· != 0)) with
      | some s => (.ok s, rest)
      | none => (.error (.notUtf8 (Utf8.fault (bs.takeWhile (· != 0)))), rest) := by
  rw [text, run]
  rfl

/-! ### Counted items -/

/-- Reads `n` more items after those in `front`, which are in reverse. -/
def countedAfter (r : Reader α) : Nat → List α → Reader (List α)
  | 0, front => pure front.reverse
  | n + 1, front => r >>= fun a => countedAfter r n (a :: front)

/-- `n` items in a row. -/
def counted (r : Reader α) (n : Nat) : Reader (List α) := countedAfter r n []

theorem countedAfter_eq (r : Reader α) (n : Nat) (front : List α) :
    countedAfter r n front = (front.reverse ++ ·) <$> counted r n := by
  induction n generalizing front with
  | zero => simp [counted, countedAfter]
  | succ n ih =>
    rw [counted, countedAfter, countedAfter, map_bind]
    refine congrArg _ (funext fun a => ?_)
    rw [ih (a :: front), ih [a]]
    simp

@[simp] theorem counted_zero (r : Reader α) : counted r 0 = pure [] := rfl

theorem counted_succ (r : Reader α) (n : Nat) :
    counted r (n + 1) = r >>= fun a => (a :: ·) <$> counted r n :=
  congrArg (r >>= ·) (funext fun a => countedAfter_eq r n [a])

/-- Items behind a two-byte count. -/
def list16 (r : Reader α) : Reader (List α) := do
  let n ← u16
  counted r n.toNat

/-- Items behind a four-byte count. -/
def list32 (r : Reader α) : Reader (List α) := do
  let n ← u32
  counted r n.toNat

end Reader

end StoreRpc
