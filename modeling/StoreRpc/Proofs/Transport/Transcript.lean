import StoreRpc.Proofs.Network.Transcript

/-!
What is said in a call, step by step up to where it can end.
-/

namespace StoreRpc.Transport

open Dialogue (Event Says attempts frames frames_append frames_of_apart says_exchange_bind_iff
  says_attempt_iff says_pure_iff says_perform_iff says_log_bind_iff)

variable {α : Type} {link : Link} {t : List Event}

/-- How a reply is received: up to a failure of the stream, to a status other than 0 or to the end
of the payload. -/
inductive Receives (link : Link) (payload : Reader α) : List Event → Except Error α → Prop
  | noStatus (came : List UInt8) (fault : IoFault) :
    Receives link payload [⟨.receive link 1, .error (came, fault)⟩] (.error (readFailure fault))
  | refused (status : List UInt8) (h : status ≠ [0]) :
    Receives link payload [⟨.receive link 1, .ok status⟩] (.error (.status ⟨status.headD 0⟩))
  | noLength (came : List UInt8) (fault : IoFault) :
    Receives link payload [⟨.receive link 1, .ok [0]⟩, ⟨.receive link 4, .error (came, fault)⟩]
      (.error (readFailure fault))
  | noPayload (header came : List UInt8) (fault : IoFault) :
    Receives link payload
      [⟨.receive link 1, .ok [0]⟩, ⟨.receive link 4, .ok header⟩,
        ⟨.receive link (Word.ofLe header), .error (came, fault)⟩] (.error (readFailure fault))
  | answered (header bs : List UInt8) :
    Receives link payload
      [⟨.receive link 1, .ok [0]⟩, ⟨.receive link 4, .ok header⟩,
        ⟨.receive link (Word.ofLe header), .ok bs⟩] ((payload bs).1.mapError .decode)

/-- How a request is sent: if it can be encoded, its frame is written and flushed. -/
inductive Writes (link : Link) (r : Request) : List Event → Except Error Unit → Prop
  | unencodable (why : EncodeError) (h : Frame.ofEncoding r.encode = .error why) :
    Writes link r [] (.error (.encode why))
  | undelivered (frame : List UInt8) (h : Frame.ofEncoding r.encode = .ok frame)
    (fault : IoFault) :
    Writes link r [⟨.deliver link frame, .error fault⟩] (.error (writeFailure fault))
  | unflushed (frame : List UInt8) (h : Frame.ofEncoding r.encode = .ok frame) (fault : IoFault) :
    Writes link r [⟨.deliver link frame, .ok ()⟩, ⟨.flush link, .error fault⟩]
      (.error (writeFailure fault))
  | written (frame : List UInt8) (h : Frame.ofEncoding r.encode = .ok frame) :
    Writes link r [⟨.deliver link frame, .ok ()⟩, ⟨.flush link, .ok ()⟩] (.ok ())

/-- How a call goes: a request is sent, and if that was done its reply is received. -/
inductive Calls (link : Link) (r : Request) : List Event → Except Error r.reply.Value → Prop
  | unsent (t : List Event) (why : Error) (h : Writes link r t (.error why)) :
    Calls link r t (.error why)
  | sent (t t' : List Event) (out : Except Error r.reply.Value) (h : Writes link r t (.ok ()))
    (h' : Receives link r.reply.reader t' out) : Calls link r (t ++ t') out

/-! ### Dialogues and their transcripts -/

lemma says_fill_iff {n : Nat} {out : Except Error (List UInt8)} :
    Says (fill link n).run t out ↔
      ∃ x : Except (List UInt8 × IoFault) (List UInt8), t = [⟨.receive link n, x⟩] ∧
        out = x.mapError fun (_, fault) => readFailure fault := by
  rw [fill, says_attempt_iff]
  exact exists_congr fun x => and_congr_left' (says_perform_iff rfl)

lemma says_deliver_iff {bs : List UInt8} {out : Except Error Unit} :
    Says (attempt writeFailure (Dialogue.perform (.deliver link bs))).run t out ↔
      ∃ x, t = [⟨.deliver link bs, x⟩] ∧ out = x.mapError writeFailure := by
  rw [says_attempt_iff]
  exact exists_congr fun x => and_congr_left' (says_perform_iff rfl)

lemma says_flush_iff {out : Except Error Unit} :
    Says (attempt writeFailure (Dialogue.perform (.flush link))).run t out ↔
      ∃ x, t = [⟨.flush link, x⟩] ∧ out = x.mapError writeFailure := by
  rw [says_attempt_iff]
  exact exists_congr fun x => and_congr_left' (says_perform_iff rfl)

/-- Encoding a request asks nothing of the network. -/
lemma says_frame_iff {r : Request} {out : Except Error (List UInt8)} :
    Says (attempt Error.encode (pure (Frame.ofEncoding r.encode))).run t out ↔
      t = [] ∧ out = (Frame.ofEncoding r.encode).mapError .encode := by
  simp only [says_attempt_iff, says_pure_iff]
  constructor
  · rintro ⟨_, ⟨rfl, rfl⟩, rfl⟩
    exact ⟨rfl, rfl⟩
  · rintro ⟨rfl, rfl⟩
    exact ⟨_, ⟨rfl, rfl⟩, rfl⟩

lemma says_readReply {payload : Reader α} {out : Except Error α}
    (h : Says (readReply link payload).run t out) : Receives link payload t out := by
  rw [readReply, says_exchange_bind_iff] at h
  obtain ⟨why, hfill, rfl⟩ | ⟨status, front, back, hfill, h, rfl⟩ := h
  · obtain ⟨⟨came, fault⟩ | _, rfl, heq⟩ := says_fill_iff.mp hfill <;> cases heq
    exact .noStatus came fault
  · obtain ⟨_ | status', rfl, heq⟩ := says_fill_iff.mp hfill <;> cases heq
    split at h
    · rw [says_exchange_bind_iff] at h
      obtain ⟨why, hfill, rfl⟩ | ⟨header, front, back, hfill, h, rfl⟩ := h
      · obtain ⟨⟨came, fault⟩ | _, rfl, heq⟩ := says_fill_iff.mp hfill <;> cases heq
        exact .noLength came fault
      · obtain ⟨_ | header', rfl, heq⟩ := says_fill_iff.mp hfill <;> cases heq
        rw [says_log_bind_iff, says_exchange_bind_iff] at h
        obtain ⟨why, hfill, rfl⟩ | ⟨bs, front, back, hfill, h, rfl⟩ := h
        · obtain ⟨⟨came, fault⟩ | _, rfl, heq⟩ := says_fill_iff.mp hfill <;> cases heq
          exact .noPayload header came fault
        · obtain ⟨_ | bs', rfl, heq⟩ := says_fill_iff.mp hfill <;> cases heq
          obtain ⟨x, hpure, rfl⟩ := says_attempt_iff.mp h
          obtain ⟨rfl, rfl⟩ := says_pure_iff.mp hpure
          exact .answered header bs
    · rename_i hstatus
      obtain ⟨rfl, rfl⟩ := says_pure_iff.mp h
      exact .refused status hstatus

lemma says_writeRequest {r : Request} {out : Except Error Unit}
    (h : Says (writeRequest link r).run t out) : Writes link r t out := by
  rw [writeRequest, writeMessage, says_exchange_bind_iff] at h
  obtain ⟨why, h, rfl⟩ | ⟨frame, front, back, h, hrest, rfl⟩ := h <;>
    obtain ⟨rfl, hframe⟩ := says_frame_iff.mp h <;>
    cases hr : Frame.ofEncoding r.encode <;> rw [hr] at hframe <;> cases hframe
  · exact .unencodable _ hr
  · rw [says_log_bind_iff, says_exchange_bind_iff] at hrest
    obtain ⟨why, h, rfl⟩ | ⟨⟨⟩, front, back, h, hflush, rfl⟩ := hrest <;>
      obtain ⟨fault | ⟨⟩, rfl, hx⟩ := says_deliver_iff.mp h <;> cases hx
    · exact .undelivered frame hr fault
    · obtain ⟨fault | ⟨⟩, rfl, rfl⟩ := says_flush_iff.mp hflush
      · exact .unflushed frame hr fault
      · exact .written frame hr

lemma says_call {r : Request} {out : Except Error r.reply.Value}
    (h : Says (call link r).run t out) : Calls link r t out := by
  rw [call, ask, says_exchange_bind_iff] at h
  obtain ⟨why, h, rfl⟩ | ⟨⟨⟩, front, back, hwrite, hread, rfl⟩ := h
  · exact .unsent t why (says_writeRequest h)
  · exact .sent front back out (says_writeRequest hwrite) (says_readReply hread)

/-! ### What a call has to do with -/

variable {link' : Link} {bs : List UInt8} {x : Except IoFault Unit} {before after : List Event}

namespace Receives

variable {payload : Reader α} {out : Except Error α}

lemma on (h : Receives link payload t out) :
    ∀ e ∈ t, Event.link? e = some link ∧ Event.connects e = false := by
  cases h <;> simp [Event.link?, Event.connects]

lemma ne_deliver (h : Receives link payload t out) : ∀ e ∈ t, e ≠ ⟨.deliver link' bs, x⟩ := by
  cases h <;> simp

lemma frames (h : Receives link payload t out) (link' : Link) : frames link' t = [] := by
  cases h <;> rfl

end Receives

namespace Writes

variable {r : Request} {out : Except Error Unit}

lemma on (h : Writes link r t out) :
    ∀ e ∈ t, Event.link? e = some link ∧ Event.connects e = false := by
  cases h <;> simp [Event.link?, Event.connects]

lemma deliver (h : Writes link r t out) (ht : t = before ++ ⟨.deliver link' bs, x⟩ :: after) :
    before = [] ∧ link' = link ∧ Frame.ofEncoding r.encode = .ok bs := by
  cases h <;> rcases before with _ | ⟨e₁, _ | ⟨e₂, _ | ⟨e₃, before⟩⟩⟩ <;> cases ht <;>
    exact ⟨rfl, rfl, by assumption⟩

/-- If there is a frame it is written, once, whether the connection takes it or not. -/
lemma frames (h : Writes link r t out) :
    frames link t = (Frame.ofEncoding r.encode).toOption.toList := by
  cases h with
  | unencodable why h => rw [h]; rfl
  | undelivered frame h | unflushed frame h | written frame h =>
    simp [h, Dialogue.frames, Event.frame?, Except.toOption]

end Writes

namespace Calls

variable {r : Request} {out : Except Error r.reply.Value}

/-- A call has to do with its own connection only. -/
lemma on (h : Calls link r t out) :
    ∀ e ∈ t, Event.link? e = some link ∧ Event.connects e = false := by
  cases h with
  | unsent t why h => exact h.on
  | sent t t' out h h' =>
    intro e he
    obtain he | he := List.mem_append.mp he
    · exact h.on e he
    · exact h'.on e he

/-- All that is written in a call is the frame of the request, before anything else. -/
lemma deliver (h : Calls link r t out) (ht : t = before ++ ⟨.deliver link' bs, x⟩ :: after) :
    before = [] ∧ link' = link ∧ Frame.ofEncoding r.encode = .ok bs := by
  cases h with
  | unsent t why h => exact h.deliver ht
  | sent front back out h h' =>
    obtain ⟨after', hfront⟩ | ⟨before', -, hback⟩ := Dialogue.split_append ht
    · exact h.deliver hfront
    · exact absurd rfl (h'.ne_deliver _ (hback ▸ List.mem_append_cons_self))

/-- A call makes no connection. -/
lemma attempts (h : Calls link r t out) : attempts t = [] :=
  List.filterMap_eq_nil_iff.mpr fun e he => Event.endpoint?_of_link? (h.on e he).1

/-- A request is written once, if there is a frame for it. -/
lemma frames (h : Calls link r t out) :
    frames link t = (Frame.ofEncoding r.encode).toOption.toList := by
  cases h with
  | unsent t why h => exact h.frames
  | sent t t' out h h' =>
    rw [frames_append, h'.frames, List.append_nil]
    exact h.frames

/-- Nothing is written to another connection. -/
lemma frames_other (h : Calls link r t out) {new : Link} (hnew : new ≠ link) :
    Dialogue.frames new t = [] :=
  frames_of_apart fun e he hused => hnew (Option.some.inj (hused.symm.trans (h.on e he).1))

/-- A call that succeeds goes all the way. -/
lemma of_ok {value : r.reply.Value} (h : Calls link r t (.ok value)) :
    ∃ frame header payload, Frame.ofEncoding r.encode = .ok frame ∧
      t = [⟨.deliver link frame, .ok ()⟩, ⟨.flush link, .ok ()⟩, ⟨.receive link 1, .ok [0]⟩,
        ⟨.receive link 4, .ok header⟩, ⟨.receive link (Word.ofLe header), .ok payload⟩] ∧
      (r.reply.reader payload).1 = .ok value := by
  cases h with
  | sent front back out h h' =>
    cases h with
    | written frame hframe =>
      generalize hout : Except.ok value = out at h'
      cases h' <;> try cases hout
      rename_i header payload
      refine ⟨frame, header, payload, hframe, rfl, ?_⟩
      cases hvalue : (r.reply.reader payload).1 <;> rw [hvalue] at hout <;> cases hout
      rfl

end Calls

end StoreRpc.Transport
