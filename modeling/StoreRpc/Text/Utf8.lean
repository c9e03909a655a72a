/-!
Text as its UTF-8 bytes, and the place where a byte string stops being UTF-8.

`decode?` inverts `encode`; `fault` names the first sequence that is not well formed.
-/

namespace StoreRpc.Utf8

/-- The bytes of a text. -/
def encode (s : String) : List UInt8 := s.toByteArray.data.toList

/-- The text with these bytes, if they are well formed. -/
def decode? (bs : List UInt8) : Option String := String.fromUTF8? ⟨bs.toArray⟩

@[simp] theorem decode?_encode (s : String) : decode? (encode s) = some s := by
  have h : (⟨(encode s).toArray⟩ : ByteArray) = s.toByteArray := by simp [encode]
  rw [decode?, h, String.fromUTF8?, dif_pos s.isValidUTF8]
  rfl

theorem encode_of_decode? {bs : List UInt8} {s : String} (h : decode? bs = some s) :
    encode s = bs := by
  unfold decode? String.fromUTF8? at h
  split at h
  · cases h; simp [encode, String.fromUTF8]
  · cases h

theorem decode?_eq_some_iff {bs : List UInt8} {s : String} :
    decode? bs = some s ↔ bs = encode s :=
  ⟨fun h => (encode_of_decode? h).symm, fun h => h ▸ decode?_encode s⟩

/-- Where well-formed text ends: the length of the longest good beginning, and how many bytes
after it belong to the bad sequence. No length means that the bytes end inside a sequence that
could still be continued. -/
structure Fault where
  index : Nat
  length : Option Nat
  deriving DecidableEq, Repr

def Fault.message : Fault → String
  | ⟨i, none⟩ => s!"incomplete utf-8 byte sequence from index {i}"
  | ⟨i, some n⟩ => s!"invalid utf-8 sequence of {n} bytes from index {i}"

/-- For a byte that may begin a sequence: how many bytes follow it, and the range of the first
of them. -/
def lead? (b : UInt8) : Option (Nat × UInt8 × UInt8) :=
  if b < 0x80 then some (0, 0, 0)
  else if 0xC2 ≤ b ∧ b ≤ 0xDF then some (1, 0x80, 0xBF)
  else if b = 0xE0 then some (2, 0xA0, 0xBF)
  else if b = 0xED then some (2, 0x80, 0x9F)
  else if 0xE1 ≤ b ∧ b ≤ 0xEF then some (2, 0x80, 0xBF)
  else if b = 0xF0 then some (3, 0x90, 0xBF)
  else if 0xF1 ≤ b ∧ b ≤ 0xF3 then some (3, 0x80, 0xBF)
  else if b = 0xF4 then some (3, 0x80, 0x8F)
  else none

/-- The scan stands at `pos`, `seen` bytes into a sequence that needs `due` more, the next of
them between `low` and `high`. -/
def scan (pos seen due : Nat) (low high : UInt8) : List UInt8 → Option Fault
  | [] => if due = 0 then none else some ⟨pos - seen, none⟩
  | b :: rest =>
    if due = 0 then
      match lead? b with
      | none => some ⟨pos, some 1⟩
      | some (0, _, _) => scan (pos + 1) 0 0 0 0 rest
      | some (n, lo, hi) => scan (pos + 1) 1 n lo hi rest
    else if low ≤ b ∧ b ≤ high then
      scan (pos + 1) (if due = 1 then 0 else seen + 1) (due - 1) 0x80 0xBF rest
    else some ⟨pos - seen, some seen⟩

/-- The first fault of bytes that are not UTF-8. -/
def fault (bs : List UInt8) : Fault := (scan 0 0 0 0 0 bs).getD ⟨0, some 1⟩

end StoreRpc.Utf8
