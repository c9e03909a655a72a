import Mathlib.Tactic.Common
import StoreRpc.Stream

/-!
What streams deliver and take.

However the bytes of a stream are cut into segments, and however often reads of it are
interrupted, a read gets the next of the bytes that arrive before the stream fails or ends.
-/

namespace StoreRpc.Stream

/-! ### Reading -/

/-- The bytes that come before the segments fail or end. -/
def arrivals : List Segment → List UInt8
  | [] => []
  | .bytes bs :: rest => bs ++ arrivals rest
  | .fault kind :: rest => if kind = .interrupted then arrivals rest else []

/-- The bytes that are still to arrive. -/
def arriving (s : Stream) : List UInt8 := arrivals s.incoming

/-- What the segments fail with behind these bytes, if they do not end there. -/
def faultOf : List Segment → Option IoKind
  | [] => none
  | .bytes _ :: rest => faultOf rest
  | .fault kind :: rest => if kind = .interrupted then faultOf rest else some kind

/-- What the stream fails with behind the bytes that are still to arrive, if it does not end. -/
def failing (s : Stream) : Option IoKind := faultOf s.incoming

/-- As many bytes as have been asked for are collected if so many come. -/
lemma collect_of_le {n : Nat} {segments : List Segment} (h : n ≤ (arrivals segments).length) :
    ∃ rest, collect n segments = ((arrivals segments).take n, none, rest) ∧
      arrivals rest = (arrivals segments).drop n ∧ faultOf rest = faultOf segments := by
  induction n, segments using collect.induct with
  | case1 segments =>
    refine ⟨segments, ?_, ?_, rfl⟩
    · rw [collect, List.take_zero]
    · rw [List.drop_zero]
  | case2 n => simp [arrivals] at h
  | case3 n rest ih =>
    simp only [arrivals, faultOf, if_true] at h ⊢
    rw [collect, if_pos rfl]
    exact ih h
  | case4 n kind rest hkind => simp [arrivals, hkind] at h
  | case5 n bs rest hdrop _ _ _ _ ih =>
    have hbs : bs.length ≤ n + 1 := List.drop_eq_nil_iff.mp hdrop
    rw [arrivals, List.length_append] at h
    obtain ⟨left, hcollect, hleft, hfault⟩ := ih (by omega)
    refine ⟨left, ?_, ?_, hfault⟩
    · rw [collect, hdrop]
      simp only [hcollect]
      rw [arrivals, List.take_append, List.take_of_length_le hbs]
    · rw [hleft, arrivals, List.drop_append, hdrop, List.nil_append]
  | case6 n bs rest hdrop =>
    have hbs : n + 1 < bs.length := by
      by_contra hbs
      exact hdrop (List.drop_eq_nil_iff.mpr (by omega))
    refine ⟨.bytes (bs.drop (n + 1)) :: rest, ?_, ?_, rfl⟩
    · rw [collect, arrivals, List.take_append_of_le_length (by omega)]
      split
      · rename_i hnil
        exact absurd hnil hdrop
      · rfl
    · rw [arrivals, arrivals, List.drop_append_of_le_length (by omega)]

/-- If fewer bytes come than have been asked for, all that come are collected, and then the
failure. -/
lemma collect_of_lt {n : Nat} {segments : List Segment} (h : (arrivals segments).length < n) :
    ∃ rest, collect n segments = (arrivals segments, faultOf segments, rest) := by
  induction n, segments using collect.induct with
  | case1 segments => exact absurd h (Nat.not_lt_zero _)
  | case2 n => exact ⟨[], rfl⟩
  | case3 n rest ih =>
    simp only [arrivals, faultOf, if_true] at h ⊢
    rw [collect, if_pos rfl]
    exact ih h
  | case4 n kind rest hkind => exact ⟨rest, by simp [collect, arrivals, faultOf, hkind]⟩
  | case5 n bs rest hdrop _ _ _ _ ih =>
    rw [arrivals, List.length_append] at h
    obtain ⟨left, hcollect⟩ := ih (by omega)
    refine ⟨left, ?_⟩
    rw [collect, hdrop]
    simp only [hcollect]
    rfl
  | case6 n bs rest hdrop =>
    rw [arrivals, List.length_append] at h
    exact absurd (List.drop_eq_nil_iff.mpr (by omega)) hdrop

lemma length_collect_le (n : Nat) (segments : List Segment) :
    (collect n segments).1.length ≤ n := by
  induction n, segments using collect.induct with
  | case1 segments => simp [collect]
  | case2 n => simp [collect]
  | case3 n rest ih =>
    rw [collect, if_pos rfl]
    exact ih
  | case4 n kind rest hkind => simp [collect, hkind]
  | case5 n bs rest hdrop more why left hcollect ih =>
    have hbs : bs.length ≤ n + 1 := List.drop_eq_nil_iff.mp hdrop
    rw [hcollect] at ih
    rw [collect, hdrop]
    simp only [hcollect, List.length_append] at ih ⊢
    omega
  | case6 n bs rest hdrop =>
    rw [collect]
    split
    · rename_i hnil
      exact absurd hnil hdrop
    · exact List.length_take_le (n + 1) bs

/-- The next bytes are read, and those behind them are still to arrive. -/
lemma receive_of_arriving {s : Stream} {front rest : List UInt8}
    (h : s.arriving = front ++ rest) :
    ∃ incoming, s.receive front.length = (.ok front, { s with incoming }) ∧
      arrivals incoming = rest ∧ faultOf incoming = s.failing := by
  have hlength : front.length ≤ (arrivals s.incoming).length := by
    rw [← arriving, h, List.length_append]
    omega
  obtain ⟨incoming, hcollect, hincoming, hfault⟩ := collect_of_le hlength
  refine ⟨incoming, ?_, ?_, hfault⟩
  · unfold receive
    rw [hcollect, ← arriving, h, List.take_left]
    simp
  · rw [hincoming, ← arriving, h, List.drop_left]

/-- A read of more bytes than are still to arrive fails with what the stream fails with, or finds
its end. -/
lemma receive_of_arriving_lt {s : Stream} {n : Nat} (h : s.arriving.length < n) :
    ∃ later, s.receive n = (.error (s.arriving,
      match s.failing with
      | some kind => .ofKind kind
      | none => .short n s.arriving.length), later) := by
  obtain ⟨incoming, hcollect⟩ := collect_of_lt h
  refine ⟨{ s with incoming }, ?_⟩
  unfold receive
  rw [hcollect, failing]
  cases faultOf s.incoming with
  | some kind => rfl
  | none => exact if_pos h

/-- A read that succeeds gets as many bytes as were asked for. -/
lemma length_receive {s later : Stream} {n : Nat} {bs : List UInt8}
    (h : s.receive n = (.ok bs, later)) : bs.length = n := by
  unfold receive at h
  have hle := length_collect_le n s.incoming
  rcases hcollect : collect n s.incoming with ⟨got, _ | kind, rest⟩ <;> rw [hcollect] at h hle
  · simp only at h hle
    split at h <;> cases h
    omega
  · cases h

/-! ### Writing -/

lemma takes_prefix (s : Stream) (bs : List UInt8) : s.takes bs <+: bs := by
  have h (limit : Option Nat) (l : List UInt8) : (limit.map l.take).getD l <+: l := by
    cases limit with
    | none => exact List.prefix_refl l
    | some n => exact List.take_prefix n l
  exact (h s.room _).trans (h s.chunk bs)

/-- Every write is taken, if piece by piece. Flushes may fail. -/
structure AcceptsAll (s : Stream) : Prop where
  chunk : s.chunk ≠ some 0
  room : s.room = none

namespace AcceptsAll

variable {s : Stream}

lemma takes_ne_nil (hs : s.AcceptsAll) {bs : List UInt8} (hbs : bs ≠ []) : s.takes bs ≠ [] := by
  have hchunk := hs.chunk
  simp only [takes, hs.room]
  cases hc : s.chunk with
  | none => exact hbs
  | some n =>
    rw [hc] at hchunk
    have hn : n ≠ 0 := fun hn => hchunk (congrArg some hn)
    simp [hn, hbs]

lemma deliverAfter (hs : s.AcceptsAll) (done : List (List UInt8)) (bs : List UInt8) :
    s.deliverAfter done bs = (done.reverse.flatten ++ bs, none, s) := by
  induction hn : bs.length using Nat.strongRecOn generalizing done bs with
  | ind n ih =>
    rw [Stream.deliverAfter]
    split
    · rename_i hbs
      rw [hbs, List.append_nil]
    · rename_i hbs
      have hne := hs.takes_ne_nil hbs
      have hpieces : s.takes bs ++ bs.drop (s.takes bs).length = bs :=
        List.prefix_iff_eq_append.mp (s.takes_prefix bs)
      have hpos := List.length_pos_iff.mpr hne
      have hlength := congrArg List.length hpieces
      rw [List.length_append] at hlength
      -- There is no limit that a piece could use up, so the stream stays as it was.
      have hroom : { s with room := s.room.map (· - (s.takes bs).length) } = s := by
        rw [hs.room]
        exact congrArg (fun room => { s with room }) hs.room.symm
      have hrest := ih (bs.drop (s.takes bs).length).length (by omega) (s.takes bs :: done) _ rfl
      simp only [hne, if_false]
      rw [hroom, hrest, List.reverse_cons, List.flatten_append, List.append_assoc]
      simp [hpieces]

lemma deliver (hs : s.AcceptsAll) (bs : List UInt8) : s.deliver bs = (bs, none, s) :=
  hs.deliverAfter [] bs

lemma receive (hs : s.AcceptsAll) (n : Nat) : (s.receive n).2.AcceptsAll := by
  unfold Stream.receive
  rcases collect n s.incoming with ⟨bs, _ | kind, rest⟩
  · simp only
    split <;> exact ⟨hs.chunk, hs.room⟩
  · exact ⟨hs.chunk, hs.room⟩

end AcceptsAll

/-- Every write is taken, if piece by piece, and every flush succeeds. -/
structure TakesAll (s : Stream) : Prop where
  chunk : s.chunk ≠ some 0
  room : s.room = none
  flush : s.flushFault = none

lemma TakesAll.deliver {s : Stream} (hs : s.TakesAll) (bs : List UInt8) :
    s.deliver bs = (bs, none, s) :=
  AcceptsAll.deliver ⟨hs.chunk, hs.room⟩ bs

end StoreRpc.Stream
