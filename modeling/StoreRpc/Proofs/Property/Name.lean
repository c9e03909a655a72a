import StoreRpc.Proofs.Wire.Exact
import StoreRpc.Property.Name

/-!
Identifiers and property names are read exactly as they are written.
-/

namespace StoreRpc

lemma Exact.vector (n : Nat) :
    Exact (fun v : Vector UInt8 n => .raw v.toList) (Reader.vector n) := by
  intro v bs rest
  have hlist : Reader.vector n bs = (.ok v, rest) ↔ Reader.take n bs = (.ok v.toList, rest) := by
    rw [Reader.take, Reader.map_eq_ok_iff]
    simp [Vector.toList_inj]
  simp [hlist, Reader.take_eq_ok_iff]

theorem Guid.reader_exact : Exact encode reader := by
  rintro g bs rest
  simp only [reader, Reader.record_eq_ok_iff, Reader.bind_eq_ok_iff, Exact.u32 _ _ _,
    Exact.u16 _ _ _, Exact.vector _ _ _ _, Reader.pure_eq_ok_iff, encode,
    Encoding.result_append_eq_ok_iff]
  constructor
  · rintro ⟨low, _, ⟨x, hx, rfl⟩, mid, _, ⟨y, hy, rfl⟩, high, _, ⟨z, hz, rfl⟩, clock, _,
      ⟨u, hu, rfl⟩, node, _, ⟨v, hv, rfl⟩, rfl, rfl⟩
    refine ⟨_, ⟨_, v, ⟨_, u, ⟨_, z, ⟨x, y, hx, hy, rfl⟩, hz, rfl⟩, hu, rfl⟩, hv, rfl⟩, ?_⟩
    simp only [List.append_assoc]
  · rintro ⟨_, ⟨_, v, ⟨_, u, ⟨_, z, ⟨x, y, hx, hy, rfl⟩, hz, rfl⟩, hu, rfl⟩, hv, rfl⟩, rfl⟩
    simp only [List.append_assoc]
    exact ⟨_, _, ⟨x, hx, rfl⟩, _, _, ⟨y, hy, rfl⟩, _, _, ⟨z, hz, rfl⟩, _, _, ⟨u, hu, rfl⟩, _, _,
      ⟨v, hv, rfl⟩, rfl, rfl⟩

namespace PropertyName

/-- The text of a name, behind the count of its bytes with the closing NUL. -/
def encodeText (s : String) : Encoding :=
  if maxLength < s.utf8ByteSize then .fail (.tooMany .nameBytes s.utf8ByteSize maxLength)
  else .u8 (UInt8.ofNat s.utf8ByteSize + 1) ++ .text s

/-- The count does not wrap. -/
lemma toNat_length {n : Nat} (hn : n ≤ maxLength) : (UInt8.ofNat n + 1).toNat = n + 1 := by
  rw [maxLength] at hn
  have hlength : (UInt8.ofNat n).toNat = n := UInt8.toNat_ofNat_of_lt (by omega : n < 256)
  rw [UInt8.toNat_add, hlength, UInt8.toNat_one]
  omega

lemma readText_exact : Exact encodeText readText := by
  intro s bs rest
  simp only [readText, Reader.bind_eq_ok_iff, Exact.u8 _ _ _, Exact.text _ _ _]
  constructor
  · rintro ⟨declared, _, ⟨x, hx, rfl⟩, _, _, ⟨y, hy, rfl⟩, h⟩
    split at h
    · rename_i hdeclared
      cases h
      have hn : s.utf8ByteSize ≤ maxLength := by
        have := declared.toNat_lt
        rw [maxLength]
        omega
      obtain rfl : UInt8.ofNat s.utf8ByteSize + 1 = declared :=
        UInt8.toNat.inj (by rw [toNat_length hn, hdeclared])
      rw [encodeText, if_neg (Nat.not_lt.mpr hn)]
      refine ⟨_, Encoding.result_append_eq_ok_iff.mpr ⟨x, y, hx, hy, rfl⟩, ?_⟩
      rw [List.append_assoc]
    · cases h
  · rintro ⟨front, hfront, rfl⟩
    unfold encodeText at hfront
    split at hfront
    · cases hfront
    · rename_i hn
      obtain ⟨x, y, hx, hy, rfl⟩ := Encoding.result_append_eq_ok_iff.mp hfront
      refine ⟨_, y ++ rest, ⟨x, hx, List.append_assoc ..⟩, s, rest, ⟨y, hy, rfl⟩, ?_⟩
      rw [if_pos (toNat_length (Nat.not_lt.mp hn)).symm]
      rfl

lemma result_byText_eq_ok_iff {g : Guid} {s : String} {bs : List UInt8} :
    (byText g s).encode.result = .ok bs ↔
      (.u8 1 ++ g.encode ++ encodeText s : Encoding).result = .ok bs := by
  rw [encode, encodeText]
  split
  · simp [Encoding.result_append_eq_ok_iff]
  · simp only [Encoding.append_assoc]

theorem reader_exact : Exact encode reader := by
  intro p bs rest
  simp only [reader, Reader.bind_eq_ok_iff, Exact.u8 _ _ _, Guid.reader_exact _ _ _]
  constructor
  · rintro ⟨kind, _, ⟨x, hx, rfl⟩, g, _, ⟨y, hy, rfl⟩, h⟩
    split at h
    · obtain ⟨id, hid, rfl⟩ := Reader.map_eq_ok_iff.mp h
      obtain ⟨z, hz, rfl⟩ := (Exact.u32 id _ rest).mp hid
      simp only [encode, Encoding.result_append_eq_ok_iff]
      exact ⟨_, ⟨_, z, ⟨x, y, hx, hy, rfl⟩, hz, rfl⟩, by simp only [List.append_assoc]⟩
    · obtain ⟨s, hs, rfl⟩ := Reader.map_eq_ok_iff.mp h
      obtain ⟨z, hz, rfl⟩ := (readText_exact s _ rest).mp hs
      simp only [result_byText_eq_ok_iff, Encoding.result_append_eq_ok_iff]
      exact ⟨_, ⟨_, z, ⟨x, y, hx, hy, rfl⟩, hz, rfl⟩, by simp only [List.append_assoc]⟩
    · cases h
  · rintro ⟨front, hfront, rfl⟩
    cases p with
    | byId g id =>
      simp only [encode, Encoding.result_append_eq_ok_iff] at hfront
      obtain ⟨_, z, ⟨x, y, hx, hy, rfl⟩, hz, rfl⟩ := hfront
      simp only [List.append_assoc]
      have hid := (Exact.u32 id _ rest).mpr ⟨z, hz, rfl⟩
      exact ⟨0, _, ⟨x, hx, rfl⟩, g, _, ⟨y, hy, rfl⟩, Reader.map_eq_ok_iff.mpr ⟨id, hid, rfl⟩⟩
    | byText g s =>
      simp only [result_byText_eq_ok_iff, Encoding.result_append_eq_ok_iff] at hfront
      obtain ⟨_, z, ⟨x, y, hx, hy, rfl⟩, hz, rfl⟩ := hfront
      simp only [List.append_assoc]
      have hs := (readText_exact s _ rest).mpr ⟨z, hz, rfl⟩
      exact ⟨1, _, ⟨x, hx, rfl⟩, g, _, ⟨y, hy, rfl⟩, Reader.map_eq_ok_iff.mpr ⟨s, hs, rfl⟩⟩

end PropertyName

end StoreRpc
