import StoreRpc.Proofs.Transport.Buffered

/-!
What a reply comes to, by the bytes that arrive.

A reply is read in three parts, its status, its length and its payload, and each of them is
delivered as a whole or not at all. So the bytes that arrive before the stream fails or ends decide
what the reply comes to, and the pieces they arrive in do not. A payload is not read as a value
before all of it is there.
-/

namespace StoreRpc

open Transport

/-- The error of a reply that does not arrive to its end, on a stream that fails like this. -/
def Transport.brokenOff (fault : Option IoKind) : Error :=
  match fault with
  | none | some .unexpectedEof => .connection .closed
  | some kind => .connection (.io (.ofKind kind))

namespace Network

variable {n : Network} {link : Link} {front rest : List UInt8} {count : Nat} {α : Type}

/-! ### Parts of a reply -/

/-- The part is there, and is taken off the bytes that are still to arrive. -/
lemma ReadOn.fill (hmade : link < n.links.length) (h : (n.stream link).arriving = front ++ rest)
    (hcount : front.length = count) :
    ∃ later, n.run (Transport.fill link count).run = (.ok front, later) ∧
      n.ReadOn later link rest := by
  subst hcount
  obtain ⟨later, hreceive, hlater⟩ := ReadOn.receive hmade h
  refine ⟨later, ?_, hlater⟩
  rw [Transport.fill, run_attempt, hreceive]
  rfl

/-- The stream fails or ends within the part. -/
lemma run_fill_of_lt (n : Network) (link : Link) (count : Nat)
    (h : (n.stream link).arriving.length < count) : ∃ later, n.run (Transport.fill link count).run =
      (.error (brokenOff (n.stream link).failing), later) := by
  obtain ⟨s, hreceive⟩ := Stream.receive_of_arriving_lt h
  refine ⟨n.setStream link s, ?_⟩
  rw [Transport.fill, run_attempt, run_perform]
  simp only [answer, hreceive]
  cases (n.stream link).failing with
  | none => rfl
  | some kind => cases kind <;> rfl

/-! ### Replies -/

/-- A status other than 0 is all of the reply. -/
lemma ReadOn.readReply_refused (hmade : link < n.links.length) {status : UInt8}
    (h : (n.stream link).arriving = status :: rest) (hstatus : status ≠ 0) (payload : Reader α) :
    ∃ later, n.run (Transport.readReply link payload).run = (.error (.status ⟨status⟩), later) ∧
      n.ReadOn later link rest := by
  have h : (n.stream link).arriving = [status] ++ rest := h
  obtain ⟨later, hfill, hlater⟩ := ReadOn.fill hmade h List.length_singleton
  refine ⟨later, ?_, hlater⟩
  rw [Transport.readReply, run_bind_ok hfill]
  split
  · rename_i heq
    cases heq
    exact absurd rfl hstatus
  · rfl

section Answers

variable {header bs : List UInt8}

/-- The reply has a payload, and all of it up to there has been read. -/
lemma ReadOn.readReply_header (hmade : link < n.links.length)
    (h : (n.stream link).arriving = 0 :: (header ++ rest)) (hheader : header.length = 4)
    (payload : Reader α) :
    ∃ mid, n.ReadOn mid link rest ∧ n.run (Transport.readReply link payload).run =
      mid.run (Transport.fill link (Word.ofLe header) >>= fun bs =>
        attempt Error.decode (pure (payload bs).1)).run := by
  have h : (n.stream link).arriving = [0] ++ (header ++ rest) := h
  obtain ⟨n₁, hstatus, h₁⟩ := ReadOn.fill hmade h List.length_singleton
  obtain ⟨n₂, hlength, h₂⟩ := ReadOn.fill h₁.made h₁.arriving hheader
  let line : LogLine := ⟨.trace, s!"Receiving {Word.ofLe header} byte response"⟩
  let n₃ : Network := { n₂ with logged := line :: n₂.logged }
  have hread : n.ReadOn n₂ link rest := h₁.trans h₂
  refine ⟨n₃, ⟨hread.made, hread.stream, hread.arriving, hread.failing⟩, ?_⟩
  rw [Transport.readReply, run_bind_ok hstatus]
  simp only
  rw [run_bind_ok hlength]
  rfl

/-- A payload that arrives to its end is read as a value, and what follows it is left. -/
lemma ReadOn.readReply_answered (hmade : link < n.links.length)
    (h : (n.stream link).arriving = 0 :: (header ++ (bs ++ rest))) (hheader : header.length = 4)
    (hbs : bs.length = Word.ofLe header) (payload : Reader α) :
    ∃ later, n.run (Transport.readReply link payload).run =
        ((payload bs).1.mapError .decode, later) ∧ n.ReadOn later link rest := by
  obtain ⟨mid, hmid, hrun⟩ := ReadOn.readReply_header hmade h hheader payload
  obtain ⟨later, hfill, hlater⟩ := ReadOn.fill hmid.made hmid.arriving hbs
  refine ⟨later, ?_, hmid.trans hlater⟩
  rw [hrun, run_bind_ok hfill, run_attempt]
  rfl

end Answers

end Network

/-- The bytes are the beginning of a reply, but not all of it: not even a status, or a status of 0
without all of the length and of the payload behind it. -/
def ReplyCut (bs : List UInt8) : Prop :=
  bs = [] ∨ bs.head? = some 0 ∧ (bs.length < 5 ∨ bs.length < 5 + Word.ofLe (bs.tail.take 4))

/-- Bytes that are cut short, a status other than 0 in front, or a payload with its length in
front. -/
lemma replyCut_or_exists (bs : List UInt8) : ReplyCut bs ∨
    (∃ status rest, bs = status :: rest ∧ status ≠ 0) ∨
    ∃ header payload rest, bs = 0 :: (header ++ (payload ++ rest)) ∧ header.length = 4 ∧
      payload.length = Word.ofLe header := by
  cases bs with
  | nil => exact .inl (.inl rfl)
  | cons status tail =>
    by_cases hstatus : status = 0
    · subst hstatus
      by_cases hcut : ReplyCut (0 :: tail)
      · exact .inl hcut
      · have hlength : ¬ (0 :: tail).length < 5 := fun h => hcut (.inr ⟨rfl, .inl h⟩)
        have hpayload : ¬ (0 :: tail).length < 5 + Word.ofLe (tail.take 4) :=
          fun h => hcut (.inr ⟨rfl, .inr h⟩)
        rw [List.length_cons] at hlength hpayload
        refine .inr (.inr ⟨tail.take 4, (tail.drop 4).take (Word.ofLe (tail.take 4)),
          (tail.drop 4).drop (Word.ofLe (tail.take 4)), ?_, ?_, ?_⟩)
        · rw [List.take_append_drop, List.take_append_drop]
        · rw [List.length_take]
          omega
        · rw [List.length_take, List.length_drop]
          omega
    · exact .inr (.inl ⟨status, tail, rfl, hstatus⟩)

namespace Network

variable {n : Network} {link : Link} {α : Type}

/-- A reply that is cut short comes to an error of the connection, whatever its payload would have
been read as. -/
lemma run_readReply_cut (hmade : link < n.links.length) (h : ReplyCut (n.stream link).arriving)
    (payload : Reader α) :
    ∃ later, n.run (Transport.readReply link payload).run =
      (.error (brokenOff (n.stream link).failing), later) := by
  generalize hbs : (n.stream link).arriving = bs at h
  obtain rfl | ⟨hhead, hshort⟩ := h
  · obtain ⟨later, hfill⟩ := run_fill_of_lt n link 1 (by simp [hbs])
    exact ⟨later, by rw [Transport.readReply, run_bind_error hfill]⟩
  obtain ⟨tail, rfl⟩ := List.head?_eq_some_iff.mp hhead
  rw [List.length_cons, List.tail_cons] at hshort
  by_cases hlength : tail.length < 4
  · -- The length is cut.
    have hbs : (n.stream link).arriving = [0] ++ tail := hbs
    obtain ⟨mid, hstatus, hmid⟩ := ReadOn.fill hmade hbs List.length_singleton
    obtain ⟨later, hfill⟩ := run_fill_of_lt mid link 4 (by rwa [hmid.arriving])
    refine ⟨later, ?_⟩
    rw [Transport.readReply, run_bind_ok hstatus]
    simp only
    rw [run_bind_error hfill, hmid.failing]
  · -- The payload is cut.
    have hheader : (tail.take 4).length = 4 := List.length_take_of_le (by omega)
    have hbs : (n.stream link).arriving = 0 :: (tail.take 4 ++ tail.drop 4) := by
      rw [hbs, List.take_append_drop]
    obtain ⟨mid, hmid, hrun⟩ := ReadOn.readReply_header hmade hbs hheader payload
    have hpayload : (tail.drop 4).length < Word.ofLe (tail.take 4) := by
      rw [List.length_drop]
      omega
    obtain ⟨later, hfill⟩ := run_fill_of_lt mid link (Word.ofLe (tail.take 4))
      (by rwa [hmid.arriving])
    exact ⟨later, by rw [hrun, run_bind_error hfill, hmid.failing]⟩

end Network

/-! ### With a buffer -/

namespace Transport.Buffered

variable {α : Type} (payload : Reader α) {n : Network} {link : Link}
  (hmade : link < n.links.length) (b : Buffer)

include hmade

lemma readReply_cut (h : ReplyCut (n.stream link).arriving) :
    (n.run ((readReply link payload).run.run b)).1.1 =
      .error (brokenOff (n.stream link).failing) := by
  obtain ⟨b', hb'⟩ := readReply_agrees link payload n b
  obtain ⟨later, hrun⟩ := Network.run_readReply_cut hmade h payload
  rw [hb', hrun]

lemma readReply_refused {status : UInt8} {rest : List UInt8}
    (h : (n.stream link).arriving = status :: rest) (hstatus : status ≠ 0) :
    (n.run ((readReply link payload).run.run b)).1.1 = .error (.status ⟨status⟩) ∧
      ((n.run ((readReply link payload).run.run b)).2.stream link).arriving = rest := by
  obtain ⟨b', hb'⟩ := readReply_agrees link payload n b
  obtain ⟨later, hrun, hread⟩ := Network.ReadOn.readReply_refused hmade h hstatus payload
  rw [hb', hrun]
  exact ⟨rfl, hread.arriving⟩

lemma readReply_answered {header bs rest : List UInt8}
    (h : (n.stream link).arriving = 0 :: (header ++ (bs ++ rest))) (hheader : header.length = 4)
    (hbs : bs.length = Word.ofLe header) :
    (n.run ((readReply link payload).run.run b)).1.1 = (payload bs).1.mapError .decode ∧
      ((n.run ((readReply link payload).run.run b)).2.stream link).arriving = rest := by
  obtain ⟨b', hb'⟩ := readReply_agrees link payload n b
  obtain ⟨later, hrun, hread⟩ := Network.ReadOn.readReply_answered hmade h hheader hbs payload
  rw [hb', hrun]
  exact ⟨rfl, hread.arriving⟩

end Transport.Buffered

/-- **What a reply comes to is decided by the bytes that arrive.** A reply that is cut short comes
to the failure of the stream, or to a closed connection, and nothing is read as a value. A status
other than 0 comes to that status, and takes one byte. Otherwise all of the payload has arrived, and
the reply comes to what the payload reads as and takes its bytes and the five in front. These are
all cases; pieces and interruptions make no difference, and neither does what is in the buffer. -/
theorem Transport.readReply_of_arriving {α : Type} (payload : Reader α) {n : Network} {link : Link}
    (hmade : link < n.links.length) (b : Buffer) :
    let s := n.stream link
    let ran := n.run ((Buffered.readReply link payload).run.run b)
    let later := ran.2.stream link
    (ReplyCut s.arriving → ran.1.1 = .error (brokenOff s.failing)) ∧
    (∀ status rest, s.arriving = status :: rest → status ≠ 0 →
      ran.1.1 = .error (.status ⟨status⟩) ∧ later.arriving = rest) ∧
    (∀ header bs rest, s.arriving = 0 :: (header ++ (bs ++ rest)) → header.length = 4 →
      bs.length = Word.ofLe header →
        ran.1.1 = (payload bs).1.mapError .decode ∧ later.arriving = rest) ∧
    (ReplyCut s.arriving ∨ (∃ status rest, s.arriving = status :: rest ∧ status ≠ 0) ∨
      ∃ header bs rest, s.arriving = 0 :: (header ++ (bs ++ rest)) ∧ header.length = 4 ∧
        bs.length = Word.ofLe header) ∧
    ∀ (n' : Network) (link' : Link) (b' : Buffer), link' < n'.links.length →
      (n'.stream link').arriving = s.arriving → (n'.stream link').failing = s.failing →
        (n'.run ((Buffered.readReply link' payload).run.run b')).1.1 = ran.1.1 := by
  intro s ran later
  refine ⟨Buffered.readReply_cut payload hmade b,
    fun status rest => Buffered.readReply_refused payload hmade b,
    fun header bs rest => Buffered.readReply_answered payload hmade b, replyCut_or_exists _,
    fun n' link' b' hmade' harriving hfailing => ?_⟩
  -- The case is told by the bytes, and the result by the case.
  obtain h | ⟨status, rest, h, hstatus⟩ | ⟨header, bs, rest, h, hheader, hbs⟩ :=
    replyCut_or_exists s.arriving
  · have hcut := Buffered.readReply_cut payload hmade' b' (by rwa [harriving])
    rw [hcut, hfailing]
    exact (Buffered.readReply_cut payload hmade b h).symm
  · have hrefused := Buffered.readReply_refused payload hmade' b' (harriving.trans h) hstatus
    exact hrefused.1.trans (Buffered.readReply_refused payload hmade b h hstatus).1.symm
  · have hanswered :=
      Buffered.readReply_answered payload hmade' b' (harriving.trans h) hheader hbs
    exact hanswered.1.trans (Buffered.readReply_answered payload hmade b h hheader hbs).1.symm

/-- One reply that breaks off within its length and one that is whole, the latter in two pieces with
an interruption between them. -/
theorem Transport.readReply_of_arriving_apart :
    let cut : Stream :=
      { incoming :=
          [.bytes [0, 2], .fault .interrupted, .bytes [0, 0], .fault .timedOut, .bytes [9]]
        chunk := none, room := none, writeFault := none, flushFault := none }
    let whole : Stream :=
      { incoming := [.bytes [0, 1, 0], .fault .interrupted, .bytes [0, 0, 7, 8]]
        chunk := some 2, room := none, writeFault := none, flushFault := none }
    let n : Network := { Network.ofScript [] .writeStopped "" 0 with links := [cut, whole] }
    let ran (link : Link) := n.run ((Buffered.readReply link Reader.u8).run.run .empty)
    (ran 0).1.1 = .error (.connection (.io (.ofKind .timedOut))) ∧
      (ran 1).1.1 = .ok 7 ∧ ((ran 1).2.stream 1).arriving = [8] := by
  intro cut whole n ran
  have hmade (link : Link) (hlink : link < 2) : link < n.links.length := hlink
  have hcut : (ran 0).1.1 = .error (.connection (.io (.ofKind .timedOut))) :=
    (Transport.readReply_of_arriving Reader.u8 (hmade 0 (by decide)) .empty).1
      (.inr ⟨rfl, .inl (by decide)⟩)
  have hwhole : (ran 1).1.1 = .ok 7 ∧ ((ran 1).2.stream 1).arriving = [8] :=
    (Transport.readReply_of_arriving Reader.u8 (hmade 1 (by decide)) .empty).2.2.1
      [1, 0, 0, 0] [7] [8] rfl rfl rfl
  exact ⟨hcut, hwhole⟩

end StoreRpc
