import StoreRpc.Proofs.Transport.Buffered
import StoreRpc.Proofs.Transport.Transcript
import StoreRpc.Proofs.Wire.Frame

/-!
What is written to a connection.

A connection that takes all that is written to it, in whatever pieces, has got the frames of the
requests that could be encoded, one after another and nothing else. A request that could not be
encoded has left nothing on it, although the buffer that it was put together in is full of its
beginning, and what was read from the connection has left nothing on it either.
-/

namespace StoreRpc

open Dialogue (Event Says says_exchange_bind_iff says_pure_iff)

/-! ### Connections that take everything -/

namespace Network

variable {n : Network} {link : Link}

/-- What was written to a connection. -/
def written (n : Network) (link : Link) : List UInt8 :=
  n.sent.reverse.flatMap fun (link', bs) => if link' = link then bs else []

/-- The connection was made, and takes all that is written to it. -/
structure Accepts (n : Network) (link : Link) : Prop where
  made : link < n.links.length
  acceptsAll : (n.stream link).AcceptsAll

namespace Accepts

/-- A write that the connection takes adds its bytes. -/
lemma deliver (h : n.Accepts link) (bs : List UInt8) : answer (.deliver link bs) n =
    (.ok (), { n with sent := (link, bs) :: n.sent }) := by
  simp only [answer, h.acceptsAll.deliver, setStream_stream]

lemma answer (h : n.Accepts link) (op : Op) : (answer op n).2.Accepts link := by
  have hmade : link < (Network.answer op n).2.links.length :=
    (n.answer_lawful op).2 ▸ Nat.lt_add_right _ h.made
  refine ⟨hmade, ?_⟩
  by_cases hused : Event.link? ⟨op, (Network.answer op n).1⟩ = some link
  · cases op with
    | connect | log | session | now => cases hused
    | deliver link' bs =>
      obtain rfl : link' = link := Option.some.inj hused
      rw [h.deliver]
      exact h.acceptsAll
    | flush link' =>
      simp only [Network.answer]
      split <;> exact h.acceptsAll
    | receive link' count =>
      obtain rfl : link' = link := Option.some.inj hused
      simp only [Network.answer]
      rw [stream_setStream h.made]
      exact h.acceptsAll.receive count
  · rw [stream_answer h.made hused]
    exact h.acceptsAll

/-- Only a write to the connection adds to what was written to it. -/
lemma written_answer (h : n.Accepts link) (op : Op) :
    (Network.answer op n).2.written link =
      n.written link ++ (Event.frame? link ⟨op, (Network.answer op n).1⟩).toList.flatten := by
  cases op with
  | connect e =>
    simp only [Network.answer, connect]
    split <;> simp [written, Event.frame?]
  | deliver link' bs =>
    by_cases hlink : link' = link
    · subst hlink
      rw [h.deliver]
      simp [written, Event.frame?]
    · simp only [Network.answer]
      split <;> simp [written, Event.frame?, hlink]
  | flush link' =>
    simp only [Network.answer]
    split <;> simp [written, Event.frame?]
  | receive | log | session | now => simp [Network.answer, setStream, written, Event.frame?]

/-- What a dialogue adds is what it was to write to the connection. -/
lemma run {α : Type} (h : n.Accepts link) (d : Dialogue α) :
    ∃ t, d.Says t (n.run d).1 ∧ (n.run d).2.Accepts link ∧
      (n.run d).2.written link = n.written link ++ (Dialogue.frames link t).flatten := by
  induction d generalizing n with
  | done a => exact ⟨[], ⟨[], ⟨rfl, rfl⟩, rfl⟩, h, (List.append_nil _).symm⟩
  | ask op next ih =>
    obtain ⟨_, ⟨whole, hruns, rfl⟩, hlater, hwritten⟩ :=
      ih (Network.answer op n).1 (h.answer op)
    have hrun : n.run (.ask op next) =
      (Network.answer op n).2.run (next (Network.answer op n).1) := rfl
    let e : Event := ⟨op, (Network.answer op n).1⟩
    refine ⟨_, ⟨e :: whole, ⟨_, whole, rfl, hrun ▸ hruns⟩, rfl⟩, hrun ▸ hlater, ?_⟩
    rw [hrun, hwritten, h.written_answer op, List.append_assoc, Dialogue.frames_filter_isLog,
      Dialogue.frames_filter_isLog, Dialogue.frames_cons, List.flatten_append]

end Accepts

end Network

/-! ### Requests and replies in turn -/

/-- The payload of the frame of a request, if there is one. -/
def Request.payload? (r : Request) : Option (List UInt8) :=
  match r.encode.result with
  | .ok payload => if payload.length < Word.bound 4 then some payload else none
  | .error _ => none

namespace Request

variable {r : Request} {payload : List UInt8}

/-- It is the byte of the call and the arguments behind it. -/
lemma payload?_eq_some_iff : r.payload? = some payload ↔
    ∃ arguments, r.encodeArguments.result = .ok arguments ∧ payload = r.call.id :: arguments ∧
      payload.length < Word.bound 4 := by
  have hresult : r.payload? = some payload ↔
      r.encode.result = .ok payload ∧ payload.length < Word.bound 4 := by
    unfold payload?
    cases r.encode.result with
    | error why => simp
    | ok bs =>
      simp only [Option.ite_none_right_eq_some, Option.some.injEq, Except.ok.injEq]
      exact ⟨fun ⟨hlength, hbs⟩ => ⟨hbs, hbs ▸ hlength⟩, fun ⟨hbs, hlength⟩ => ⟨hbs ▸ hlength, hbs⟩⟩
  have hcall : (Encoding.u8 r.call.id).result = .ok [r.call.id] := by
    simp [Encoding.u8, Encoding.word, Word.le]
  rw [hresult, encode, Encoding.result_append_eq_ok_iff]
  constructor
  · rintro ⟨⟨front, arguments, hfront, harguments, rfl⟩, hlength⟩
    cases hcall.symm.trans hfront
    exact ⟨arguments, harguments, rfl, hlength⟩
  · rintro ⟨arguments, harguments, rfl, hlength⟩
    exact ⟨⟨_, arguments, hcall, harguments, rfl⟩, hlength⟩

lemma payload?_map_around (r : Request) :
    r.payload?.map Frame.around = (Frame.ofEncoding r.encode).toOption := by
  unfold payload? Frame.ofEncoding
  cases r.encode.result with
  | error why => rfl
  | ok payload =>
    simp only [Except.bind, Frame.ofPayload]
    split <;> rfl

end Request

namespace Transport

/-- What is done on a connection: a request is written, or a reply is read as a value. -/
inductive Activity : Type 1
  | write (r : Request)
  | read {α : Type} (payload : Reader α)

namespace Activity

/-- The payload of the frame that is written, if there is one. -/
def payload? : Activity → Option (List UInt8)
  | write r => r.payload?
  | read _ => none

def perform (link : Link) : Activity → Exchange Unit
  | write r => writeRequest link r
  | read payload => readReply link payload >>= fun _ => pure ()

/-- The same on a buffer. -/
def buffered (link : Link) : Activity → Buffered Unit
  | write r => Buffered.writeRequest link r
  | read payload => Buffered.readReply link payload >>= fun _ => pure ()

lemma buffered_agrees (link : Link) (act : Activity) :
    Buffered.Agrees (act.buffered link) (act.perform link) := by
  cases act with
  | write r => exact Buffered.writeRequest_agrees link r
  | read payload => exact (Buffered.readReply_agrees link payload).bind fun _ _ b => ⟨b, rfl⟩

/-- A frame is written if there is one. -/
lemma frames {link : Link} {act : Activity} {t : List Event} {out : Except Error Unit}
    (h : Says (act.perform link).run t out) :
    Dialogue.frames link t = (act.payload?.map Frame.around).toList := by
  cases act with
  | read payload =>
    obtain ⟨why, hread, -⟩ | ⟨a, front, back, hread, hpure, rfl⟩ := says_exchange_bind_iff.mp h
    · exact (says_readReply hread).frames link
    · obtain ⟨rfl, -⟩ := says_pure_iff.mp hpure
      rw [List.append_nil]
      exact (says_readReply hread).frames link
  | write r =>
    rw [payload?, r.payload?_map_around]
    exact (says_writeRequest h).frames

lemma written {n : Network} {link : Link} (h : n.Accepts link) (act : Activity) (b : Buffer) :
    (n.run ((act.buffered link).run.run b)).2.Accepts link ∧
      (n.run ((act.buffered link).run.run b)).2.written link =
        n.written link ++ (act.payload?.map Frame.around).toList.flatten := by
  obtain ⟨b', hb'⟩ := act.buffered_agrees link n b
  obtain ⟨t, hsays, hlater, hwritten⟩ := h.run (act.perform link).run
  rw [hb']
  exact ⟨hlater, act.frames hsays ▸ hwritten⟩

end Activity

/-- The world after these activities on a connection, whatever came of each of them and whatever
was in the buffer before it. In between the world goes on: replies arrive, other connections are
used, this one takes larger or smaller pieces; but nobody else writes to it. -/
inductive After (link : Link) (n : Network) : List Activity → Network → Prop
  | start : After link n [] n
  | meanwhile {acts now later} (h : After link n acts now) (haccepts : later.Accepts link)
    (hwritten : later.written link = now.written link) : After link n acts later
  | act {acts now} (h : After link n acts now) (act : Activity) (b : Buffer) :
    After link n (acts ++ [act]) (now.run ((act.buffered link).run.run b)).2

lemma After.written {link : Link} {n later : Network} {acts : List Activity}
    (hn : n.Accepts link) (h : After link n acts later) : later.Accepts link ∧
      later.written link =
        n.written link ++ (acts.filterMap Activity.payload?).flatMap Frame.around := by
  induction h with
  | start => exact ⟨hn, (List.append_nil _).symm⟩
  | meanwhile h haccepts hwritten ih => exact ⟨haccepts, hwritten.trans ih.2⟩
  | act h act b ih =>
    obtain ⟨hnow, hwritten⟩ := ih
    obtain ⟨hlater, hmore⟩ := act.written hnow b
    refine ⟨hlater, ?_⟩
    rw [hmore, hwritten, List.append_assoc, List.filterMap_append, List.flatMap_append]
    cases hpayload : act.payload? <;> simp [hpayload]

/-- **What is written is frames, and nothing else.** On a connection that takes all that is written
to it, in pieces of any size, there are the frames of the requests that could be encoded, in their
order; cut at their lengths they yield the payloads, each of which is the byte of the call with its
arguments behind it. A request that could not be encoded leaves the world as it is, whatever is in
the buffer. On any other network as well, what is to be written in an activity is its frame. -/
theorem frames_exact {link : Link} {n later : Network} {acts : List Activity}
    (hn : n.Accepts link) (h : After link n acts later) :
    let payloads := acts.filterMap Activity.payload?
    later.written link = n.written link ++ payloads.flatMap Frame.around ∧
    Frame.split (payloads.flatMap Frame.around) = (payloads.map Frame.around, []) ∧
    (payloads.map Frame.around).map (List.drop 4) = payloads ∧
    (∀ r payload, Request.payload? r = some payload ↔
      ∃ arguments, r.encodeArguments.result = .ok arguments ∧
        payload = r.call.id :: arguments ∧ payload.length < UInt32.size) ∧
    (∀ r b, Request.payload? r = none → ∃ why b',
      later.run ((Buffered.writeRequest link r).run.run b) =
        ((.error (.encode why), b'), later)) ∧
    ∀ (act : Activity) (t : List Event) (out : Except Error Unit),
      Says (act.perform link).run t out →
        Dialogue.frames link t = (act.payload?.map Frame.around).toList := by
  intro payloads
  refine ⟨(h.written hn).2, Frame.split_flatMap_around fun p hp => ?_, ?_,
    fun r payload => r.payload?_eq_some_iff, fun r b hr => ?_, fun act t out => act.frames⟩
  · obtain ⟨act, -, hact⟩ := List.mem_filterMap.mp hp
    cases act with
    | write r =>
      obtain ⟨-, -, -, hlength⟩ := Request.payload?_eq_some_iff.mp hact
      exact hlength
    | read payload => cases hact
  · rw [List.map_map]
    exact List.map_id'' Frame.drop_around payloads
  · have hframe := r.payload?_map_around
    rw [hr] at hframe
    obtain ⟨b', hb'⟩ := Buffered.writeRequest_agrees link r later b
    cases hencoding : Frame.ofEncoding r.encode with
    | ok frame =>
      rw [hencoding] at hframe
      cases hframe
    | error why =>
      refine ⟨why, b', ?_⟩
      rw [hb', writeRequest, writeMessage, hencoding]
      rfl

/-- A request with a NUL in its last text, and a reply that is longer than its value, between two
requests. No flush succeeds, and the size of the pieces changes. -/
theorem frames_exact_unflushed :
    let s : Stream :=
      { incoming := [.bytes [0, 2, 0, 0], .bytes [0, 7, 9]]
        chunk := some 3, room := none, writeFault := none, flushFault := some .brokenPipe }
    let n : Network := { Network.ofScript [] .writeStopped "" 0 with links := [s] }
    let acts : List Activity :=
      [.write (.unloadTable "a" 1), .write (.getFolderByName "ab" 1 "\x00"), .read Reader.u8,
        .write (.unloadStore "b")]
    n.Accepts 0 ∧ ∃ later, After 0 n acts later ∧ later.written 0 =
      [7, 0, 0, 0, 0x2D, 0x61, 0, 1, 0, 0, 0, 3, 0, 0, 0, 0x80, 0x62, 0] := by
  intro s n acts
  have hn : n.Accepts 0 := ⟨by decide, by decide, rfl⟩
  have h₂ : After 0 n [.write (.unloadTable "a" 1), .write (.getFolderByName "ab" 1 "\x00")] _ :=
    (After.start.act (.write (.unloadTable "a" 1)) .empty).act
      (.write (.getFolderByName "ab" 1 "\x00")) ⟨[1, 2], 1⟩
  generalize (Network.run _ _).2 = now at h₂
  have hnow : Network.Accepts { now with links := [{ s with chunk := some 1 }] } 0 :=
    ⟨Nat.zero_lt_one, by simp [Network.stream], rfl⟩
  have h : After 0 n acts _ :=
    ((h₂.meanwhile hnow rfl).act (.read Reader.u8) (.start .empty)).act
      (.write (.unloadStore "b")) .empty
  refine ⟨hn, _, h, ?_⟩
  rw [(frames_exact hn h).1]
  decide

end Transport

end StoreRpc
