import Mathlib.Tactic.Common
import StoreRpc.Wire.Encoding
import StoreRpc.Wire.Frame

/-!
Frames one after another.

A frame tells its own length, so that a row of frames is cut where each of them ends.
-/

namespace StoreRpc.Frame

/-- The frame around a payload, as long as its length can be told. -/
def around (payload : List UInt8) : List UInt8 := Word.le 4 payload.length ++ payload

lemma length_around (payload : List UInt8) : (around payload).length = 4 + payload.length := by
  rw [around, List.length_append, Word.length_le]

lemma drop_around (payload : List UInt8) : (around payload).drop 4 = payload :=
  List.drop_left' (Word.length_le 4 payload.length)

lemma ofEncoding_eq_ok_iff {e : Encoding} {frame : List UInt8} : ofEncoding e = .ok frame ↔
    ∃ payload, e.result = .ok payload ∧ payload.length < Word.bound 4 ∧ around payload = frame := by
  unfold ofEncoding
  cases e.result with
  | error why => simp [Except.bind]
  | ok payload =>
    simp only [Except.bind, ofPayload, Except.ok.injEq, exists_eq_left']
    split
    · rename_i h
      simp [h, around]
    · rename_i h
      simp [h]

/-- A frame is that of one payload. -/
lemma ofEncoding_eq_ok {e : Encoding} {frame : List UInt8} (h : ofEncoding e = .ok frame) :
    e.result = .ok (frame.drop 4) := by
  obtain ⟨payload, hpayload, -, rfl⟩ := ofEncoding_eq_ok_iff.mp h
  rw [hpayload, drop_around]

/-! ### Cutting frames off -/

lemma cut_around {payload : List UInt8} (hpayload : payload.length < Word.bound 4) (n : Nat)
    (bs : List UInt8) : cut (n + 1) (around payload ++ bs) =
      (around payload :: (cut n bs).1, (cut n bs).2) := by
  have hsize : 4 + Word.ofLe ((around payload ++ bs).take 4) = (around payload).length := by
    rw [length_around, around, List.append_assoc, List.take_left' (Word.length_le 4 _),
      Word.ofLe_le, Nat.mod_eq_of_lt hpayload]
  have hwhole : (around payload).length ≤ (around payload ++ bs).length :=
    (List.prefix_append ..).length_le
  have hheader : 4 ≤ (around payload).length := by
    rw [length_around]
    exact Nat.le_add_right ..
  rw [cut]
  simp only [hsize]
  rw [if_pos ⟨Nat.le_trans hheader hwhole, hwhole⟩, List.take_left, List.drop_left]

/-- Frames in a row are cut apart, given the time. -/
lemma cut_flatMap_around {payloads : List (List UInt8)}
    (h : ∀ p ∈ payloads, p.length < Word.bound 4) {n : Nat} (hn : payloads.length ≤ n) :
    cut n (payloads.flatMap around) = (payloads.map around, []) := by
  induction payloads generalizing n with
  | nil => cases n <;> simp [cut]
  | cons p payloads ih =>
    obtain ⟨hp, hpayloads⟩ := List.forall_mem_cons.mp h
    obtain ⟨n, rfl⟩ := Nat.exists_eq_add_of_le' (Nat.le_trans (Nat.le_add_left 1 _) hn)
    rw [List.flatMap_cons, cut_around hp, ih hpayloads (Nat.le_of_succ_le_succ hn)]
    rfl

lemma length_le_flatMap_around (payloads : List (List UInt8)) :
    payloads.length ≤ (payloads.flatMap around).length := by
  induction payloads with
  | nil => exact Nat.le_refl 0
  | cons p payloads ih =>
    rw [List.flatMap_cons, List.length_append, length_around, List.length_cons]
    omega

/-- **Frames in a row are cut apart**, with nothing left over. -/
theorem split_flatMap_around {payloads : List (List UInt8)}
    (h : ∀ p ∈ payloads, p.length < Word.bound 4) :
    split (payloads.flatMap around) = (payloads.map around, []) :=
  cut_flatMap_around h (length_le_flatMap_around payloads)

end StoreRpc.Frame
