import Mathlib.Tactic.Common
import StoreRpc.Proofs.Wire.Exact
import StoreRpc.Guid.Basic

/-!
Identifiers as sixteen bytes.

Every identifier is written, as sixteen bytes, and any sixteen bytes are those of an identifier.
-/

namespace StoreRpc

/-! ### Words from their bytes -/

namespace Word

lemma exists_le_u16 {bs : List UInt8} (h : bs.length = 2) : ∃ v : UInt16, le 2 v.toNat = bs := by
  have hlt : ofLe bs < bound 2 := h ▸ ofLe_lt bs
  have hv : (UInt16.ofNat (ofLe bs)).toNat = ofLe bs := UInt16.toNat_ofNat_of_lt hlt
  exact ⟨UInt16.ofNat (ofLe bs), by rw [hv, ← h, le_ofLe]⟩

lemma exists_le_u32 {bs : List UInt8} (h : bs.length = 4) : ∃ v : UInt32, le 4 v.toNat = bs := by
  have hlt : ofLe bs < bound 4 := h ▸ ofLe_lt bs
  have hv : (UInt32.ofNat (ofLe bs)).toNat = ofLe bs := UInt32.toNat_ofNat_of_lt hlt
  exact ⟨UInt32.ofNat (ofLe bs), by rw [hv, ← h, le_ofLe]⟩

end Word

/-- A list is cut wherever it is long enough. -/
lemma exists_append_of_length {α : Type} {m n : Nat} {l : List α} (h : l.length = m + n) :
    ∃ front back, l = front ++ back ∧ front.length = m ∧ back.length = n :=
  ⟨l.take m, l.drop m, (List.take_append_drop m l).symm, by simp [h], by simp [h]⟩

namespace Guid

/-- The bytes of an identifier on the wire. -/
def wire (g : Guid) : List UInt8 :=
  Word.le 4 g.timeLow.toNat ++ Word.le 2 g.timeMid.toNat ++ Word.le 2 g.timeHigh.toNat
    ++ g.clockSeq.toList ++ g.node.toList

lemma result_encode (g : Guid) : g.encode.result = .ok g.wire :=
  Encoding.result_append (Encoding.result_append (Encoding.result_append (Encoding.result_append
    (Encoding.result_word ..) (Encoding.result_word ..)) (Encoding.result_word ..))
    (Encoding.result_raw _)) (Encoding.result_raw _)

lemma length_wire (g : Guid) : g.wire.length = 16 := by
  simp [wire]

lemma exists_wire_eq {bs : List UInt8} (h : bs.length = 16) : ∃ g : Guid, g.wire = bs := by
  obtain ⟨low, bs, rfl, hlow, h⟩ := exists_append_of_length (m := 4) (n := 12) h
  obtain ⟨mid, bs, rfl, hmid, h⟩ := exists_append_of_length (m := 2) (n := 10) h
  obtain ⟨high, bs, rfl, hhigh, h⟩ := exists_append_of_length (m := 2) (n := 8) h
  obtain ⟨clock, node, rfl, hclock, hnode⟩ := exists_append_of_length (m := 2) (n := 6) h
  obtain ⟨timeLow, rfl⟩ := Word.exists_le_u32 hlow
  obtain ⟨timeMid, rfl⟩ := Word.exists_le_u16 hmid
  obtain ⟨timeHigh, rfl⟩ := Word.exists_le_u16 hhigh
  refine ⟨⟨timeLow, timeMid, timeHigh, ⟨clock.toArray, hclock⟩, ⟨node.toArray, hnode⟩⟩, ?_⟩
  simp only [wire, Vector.toList_mk, List.append_assoc]

end Guid

end StoreRpc
