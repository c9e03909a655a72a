import StoreRpc.Proofs.Transport.Arrival
import StoreRpc.Proofs.Wire.Frame

/-!
Requests and replies stay in step.

The server answers the requests that reach it one by one, and what it answers with arrives in
whatever pieces. A call takes one reply off the stream, all of it, whether its value can be read or
not; and a request that cannot be encoded takes none.
-/

namespace StoreRpc

/-- What a server answers a request with. -/
inductive ReplyFrame
  | refusal (status : UInt8) (nonzero : status ≠ 0)
  | answer (payload : List UInt8) (length_lt : payload.length < Word.bound 4)

namespace ReplyFrame

def bytes : ReplyFrame → List UInt8
  | refusal status _ => [status]
  | answer payload _ => 0 :: Word.le 4 payload.length ++ payload

/-- What the reply comes to, for one who expects such a payload. -/
def outcome {α : Type} (payload : Reader α) : ReplyFrame → Except Error α
  | refusal status _ => .error (.status ⟨status⟩)
  | answer bs _ => (payload bs).1.mapError .decode

end ReplyFrame

namespace Transport.Inquiry

/-- There is a frame for the request. -/
def Encodable (q : Inquiry) : Prop := ∃ frame, Frame.ofEncoding q.encoding = .ok frame

instance (q : Inquiry) : Decidable q.Encodable :=
  match h : Frame.ofEncoding q.encoding with
  | .ok frame => .isTrue ⟨frame, h⟩
  | .error _ => .isFalse fun ⟨_, hframe⟩ => nomatch h.symm.trans hframe

/-- How many of the requests reach the server. -/
def reaching (qs : List Inquiry) : Nat := qs.countP fun q => decide q.Encodable

lemma reaching_cons_of_encodable {q : Inquiry} (hq : q.Encodable) (qs : List Inquiry) :
    reaching (q :: qs) = reaching qs + 1 :=
  List.countP_cons_of_pos (decide_eq_true hq)

lemma reaching_cons_of_not_encodable {q : Inquiry} (hq : ¬ q.Encodable) (qs : List Inquiry) :
    reaching (q :: qs) = reaching qs :=
  List.countP_cons_of_neg (by simpa using hq)

end Transport.Inquiry

namespace Request

/-- There is a frame for the request. -/
def Encodable (r : Request) : Prop := ∃ frame, Frame.ofEncoding r.encode = .ok frame

instance (r : Request) : Decidable r.Encodable :=
  inferInstanceAs (Decidable (Transport.inquiry r).Encodable)

lemma encodable_iff {r : Request} : r.Encodable ↔
    ∃ payload, r.encode.result = .ok payload ∧ payload.length < Word.bound 4 := by
  simp [Encodable, Frame.ofEncoding_eq_ok_iff]

/-- How many of the requests reach the server. -/
def reaching (rs : List Request) : Nat := rs.countP fun r => decide r.Encodable

lemma reaching_eq (rs : List Request) :
    reaching rs = Transport.Inquiry.reaching (rs.map Transport.inquiry) := by
  rw [reaching, Transport.Inquiry.reaching, List.countP_map]
  rfl

end Request

namespace Network

variable {n : Network} {link : Link} {rest : List UInt8}

open Transport

namespace Serves

/-- A reply is read to its end, and no further. -/
lemma readReply {α : Type} {f : ReplyFrame} (h : n.Serves link (f.bytes ++ rest))
    (payload : Reader α) :
    ∃ later, n.run (Transport.readReply link payload).run = (f.outcome payload, later) ∧
      later.Serves link rest := by
  cases f with
  | refusal status hstatus =>
    obtain ⟨later, hrun, hread⟩ :=
      ReadOn.readReply_refused h.made h.arriving hstatus payload
    exact ⟨later, hrun, h.readOn hread⟩
  | answer bs hbs =>
    have hbytes : (n.stream link).arriving = 0 :: (Word.le 4 bs.length ++ (bs ++ rest)) := by
      rw [h.arriving]
      simp [ReplyFrame.bytes]
    have hlength : bs.length = Word.ofLe (Word.le 4 bs.length) := by
      rw [Word.ofLe_le, Nat.mod_eq_of_lt hbs]
    obtain ⟨later, hrun, hread⟩ :=
      ReadOn.readReply_answered h.made hbytes (Word.length_le 4 _) hlength payload
    exact ⟨later, hrun, h.readOn hread⟩

lemma writeMessage {name : String} {e : Encoding} {bytes frame : List UInt8}
    (h : n.Serves link bytes) (he : Frame.ofEncoding e = .ok frame) :
    ∃ later, n.run (Transport.writeMessage link name e).run = (.ok (), later) ∧
      later.Serves link bytes := by
  obtain ⟨n₁, hlog, h₁⟩ := h.log .trace s!"Sending {name} request ({frame.length} bytes)"
  obtain ⟨n₂, hdeliver, h₂⟩ := h₁.deliver frame
  have hframe : n.run (attempt Error.encode (pure (Frame.ofEncoding e))).run = (.ok frame, n) := by
    rw [he]
    rfl
  have hsent : n₁.run (attempt writeFailure (Dialogue.perform (.deliver link frame))).run =
      (.ok (), n₂) := by
    rw [run_attempt, hdeliver]
    rfl
  refine ⟨n₂, ?_, h₂⟩
  rw [Transport.writeMessage, run_bind_ok hframe, run_bind_ok hlog, run_bind_ok hsent, run_attempt,
    h₂.flush]
  rfl

/-- A request that can be encoded takes the next reply. -/
lemma ask {q : Inquiry} {frame : List UInt8} {f : ReplyFrame}
    (h : n.Serves link (f.bytes ++ rest)) (hq : Frame.ofEncoding q.encoding = .ok frame) :
    ∃ later, n.run (Transport.ask link q).run = (f.outcome q.payload, later) ∧
      later.Serves link rest := by
  obtain ⟨mid, hwrite, hmid⟩ := h.writeMessage hq
  obtain ⟨later, hread, hlater⟩ := hmid.readReply q.payload
  exact ⟨later, by rw [Transport.ask, run_bind_ok hwrite, hread], hlater⟩

end Serves

/-- A request that cannot be encoded leaves everything as it is. -/
lemma run_ask_of_error (n : Network) (link : Link) {q : Inquiry} {why : EncodeError}
    (hq : Frame.ofEncoding q.encoding = .error why) :
    n.run (Transport.ask link q).run = (.error (.encode why), n) := by
  have hframe : n.run (attempt Error.encode (pure (Frame.ofEncoding q.encoding))).run =
      (.error (.encode why), n) := by
    rw [hq]
    rfl
  rw [Transport.ask, run_bind_error]
  rw [Transport.writeMessage, run_bind_error hframe]

/-! ### Runs of calls -/

/-- As many replies have been taken as there were requests that could be encoded. -/
lemma Serves.afterInquiries {frames : List ReplyFrame}
    (h : n.Serves link (frames.flatMap ReplyFrame.bytes ++ rest)) (qs : List Inquiry)
    (hcount : Inquiry.reaching qs ≤ frames.length) :
    (n.afterInquiries link qs).Serves link
      ((frames.drop (Inquiry.reaching qs)).flatMap ReplyFrame.bytes ++ rest) := by
  induction qs generalizing n frames with
  | nil => exact h
  | cons q qs ih =>
    by_cases hq : q.Encodable
    · rw [Inquiry.reaching_cons_of_encodable hq] at hcount ⊢
      obtain ⟨frame, hframe⟩ := hq
      cases frames with
      | nil => cases hcount
      | cons f frames =>
        rw [List.flatMap_cons, List.append_assoc] at h
        obtain ⟨later, hask, hlater⟩ := h.ask hframe
        have hrest := ih hlater (Nat.le_of_succ_le_succ hcount)
        rw [List.drop_succ_cons]
        rw [Network.afterInquiries, List.foldl_cons, hask]
        exact hrest
    · rw [Inquiry.reaching_cons_of_not_encodable hq] at hcount ⊢
      cases hframe : Frame.ofEncoding q.encoding with
      | ok frame => exact absurd ⟨frame, hframe⟩ hq
      | error why =>
        have hrest := ih h hcount
        rw [Network.afterInquiries, List.foldl_cons, run_ask_of_error n link hframe]
        exact hrest

end Network

/-- Requests of any kinds, whatever they are encoded to and however their replies are read, stay in
step with the replies: this is a property of the transport alone. -/
theorem Transport.ask_in_step {n : Network} {link : Link} {frames : List ReplyFrame}
    {tail : List UInt8} (h : n.Serves link (frames.flatMap ReplyFrame.bytes ++ tail))
    (qs : List Inquiry) (q : Inquiry) :
    let now := n.afterInquiries link qs
    let k := Inquiry.reaching qs
    (∀ why, Frame.ofEncoding q.encoding = .error why →
      now.run (ask link q).run = (.error (.encode why), now)) ∧
    (∀ f, q.Encodable → frames[k]? = some f →
      ∃ later, now.run (ask link q).run = (f.outcome q.payload, later) ∧
        later.Serves link ((frames.drop (k + 1)).flatMap ReplyFrame.bytes ++ tail)) ∧
    (∀ b, (Buffered.afterInquiries link qs n b).1 = now) ∧
    Buffered.Agrees (Buffered.ask link q) (ask link q) := by
  intro now k
  refine ⟨fun why hwhy => Network.run_ask_of_error now link hwhy, fun f hq hf => ?_,
    Buffered.afterInquiries_fst link qs n, Buffered.ask_agrees link q⟩
  obtain ⟨frame, hframe⟩ := hq
  obtain ⟨hk, hget⟩ := List.getElem?_eq_some_iff.mp hf
  have hnow : now.Serves link ((frames.drop k).flatMap ReplyFrame.bytes ++ tail) :=
    h.afterInquiries qs (Nat.le_of_lt hk)
  rw [List.drop_eq_getElem_cons hk, hget, List.flatMap_cons, List.append_assoc] at hnow
  exact hnow.ask hframe

/-- **The transport never loses step with the server.** After any calls on a stream that takes all
that is written to it, and on which replies arrive in any pieces, a request that can be encoded is
answered by the reply that stands in the place of the request among those that could be encoded,
and what is still to arrive are the replies behind that one. A request that cannot be encoded
changes nothing. A transport that has one buffer for all this, with whatever in it, does the
same. -/
theorem Transport.call_in_step {n : Network} {link : Link} {frames : List ReplyFrame}
    {tail : List UInt8} (h : n.Serves link (frames.flatMap ReplyFrame.bytes ++ tail))
    (rs : List Request) (r : Request) :
    let now := n.afterCalls link rs
    let k := Request.reaching rs
    (∀ why, Frame.ofEncoding r.encode = .error why →
      now.run (Transport.call link r).run = (.error (.encode why), now)) ∧
    (∀ f, r.Encodable → frames[k]? = some f →
      ∃ later, now.run (Transport.call link r).run = (f.outcome r.reply.reader, later) ∧
        later.Serves link ((frames.drop (k + 1)).flatMap ReplyFrame.bytes ++ tail)) ∧
    (∀ b, (Buffered.afterCalls link rs n b).1 = now) ∧
    Buffered.Agrees (Buffered.call link r) (Transport.call link r) := by
  intro now k
  have hstep := ask_in_step h (rs.map inquiry) (inquiry r)
  rw [← Network.afterCalls_eq, ← Request.reaching_eq] at hstep
  obtain ⟨herror, hanswer, hbuffered, hagrees⟩ := hstep
  exact ⟨herror, hanswer, fun b => by rw [Buffered.afterCalls_eq, hbuffered], hagrees⟩

/-- A refusal in answer to the first of two requests, the other of which has a NUL in a text, and
then an answer that is longer than its value. -/
theorem Transport.call_in_step_leftover :
    let s : Stream :=
      { incoming := [.bytes [5, 0], .fault .interrupted, .bytes [1, 0, 0], .bytes [0, 7, 9]]
        chunk := some 3, room := none, writeFault := none, flushFault := none }
    let n : Network := { Network.ofScript [] .writeStopped "" 0 with links := [s] }
    let now := n.afterCalls 0 [.getStoreTags "a", .getStoreTags "\x00"]
    n.Serves 0 [5, 0, 1, 0, 0, 0, 7, 9] ∧
      (∃ later, now.run (Transport.call 0 (.unloadTable "a" 1)).run = (.ok (), later) ∧
        later.Serves 0 [9]) := by
  intro s n now
  let frames : List ReplyFrame := [.refusal 5 (by decide), .answer [7] (by decide)]
  have h : n.Serves 0 (frames.flatMap ReplyFrame.bytes ++ [9]) :=
    ⟨by decide, ⟨by decide, rfl, rfl⟩, by decide⟩
  have hreaching : Request.reaching [.getStoreTags "a", .getStoreTags "\x00"] = 1 := by decide
  have hcall := (Transport.call_in_step h [.getStoreTags "a", .getStoreTags "\x00"]
    (.unloadTable "a" 1)).2.1 (.answer [7] (by decide)) (by decide) (by rw [hreaching]; rfl)
  rw [hreaching] at hcall
  exact ⟨h, hcall⟩

end StoreRpc
