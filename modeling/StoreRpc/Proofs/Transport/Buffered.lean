import StoreRpc.Proofs.Network.Run
import StoreRpc.Proofs.Wire.Exact

/-!
The transport on a buffer that is used again and again.

A connection has one buffer, in which requests are put together and into which replies are read.
What earlier calls left in it is of no account, as a request starts it afresh and a read replaces
what it holds. So the transport can do without it.
-/

namespace StoreRpc.Transport

/-- Part of an exchange that has a buffer, which is there still when an error ends it. -/
abbrev Buffered := ExceptT Error (StateT Buffer Dialogue)

namespace Buffered

variable {α β γ : Type}

/-- A part that leaves the buffer alone. -/
def lift (m : Exchange α) : Buffered α := ExceptT.mk (StateT.lift m.run)

/-- Replaces what is in the buffer by the next `n` bytes of a reply, or by those that came. -/
def fill (link : Link) (n : Nat) : Buffered Unit := do
  let came ← lift (ExceptT.lift (Dialogue.perform (.receive link n)))
  let (outcome, b) := (← get).refill came
  set b
  lift (attempt readFailure (pure outcome))

/-- Reads `n` bytes into the buffer and a value off it. -/
def take (link : Link) (n : Nat) (r : Reader α) : Buffered α := do
  fill link n
  let (value, b) := (← get).pop r
  set b
  lift (attempt Error.decode (pure value))

def writeMessage (link : Link) (name : String) (e : Encoding) : Buffered Unit := do
  let pushed := (← get).start.push e
  set pushed.2
  lift (attempt Error.encode (pure pushed.1))
  let b ← lift (attempt Error.encode (pure pushed.2.finalize))
  set b
  lift do
    Dialogue.log .trace s!"Sending {name} request ({b.bytes.length} bytes)"
    attempt writeFailure (Dialogue.perform (.deliver link b.bytes))
    attempt writeFailure (Dialogue.perform (.flush link))

def readReply (link : Link) (payload : Reader α) : Buffered α := do
  let status ← take link 1 Reader.u8
  if status = 0 then
    let n ← take link 4 Reader.u32
    lift (Dialogue.log .trace s!"Receiving {n.toNat} byte response")
    take link n.toNat payload
  else throw (.status ⟨status⟩)

def ask (link : Link) (q : Inquiry) : Buffered q.Value := do
  writeMessage link q.name q.encoding
  readReply link q.payload

def writeRequest (link : Link) (r : Request) : Buffered Unit :=
  writeMessage link r.call.name r.encode

def call (link : Link) (r : Request) : Buffered r.reply.Value := ask link (inquiry r)

/-- What is read into the buffer comes from the stream of the connection, and so does what is left
there when the stream fails. -/
lemma run_fill (n : Network) (link : Link) (count : Nat) (b : Buffer) :
    n.run ((fill link count).run.run b) =
      let read := b.readFrom (n.stream link) count
      ((read.1.mapError readFailure, read.2.1), n.setStream link read.2.2) := by
  rfl

/-- With a buffer or without, the outcome is the same and so is the world after it. -/
def Agrees (m' : Buffered α) (m : Exchange α) : Prop :=
  ∀ (n : Network) (b : Buffer), ∃ b', n.run (m'.run.run b) =
    (((n.run m.run).1, b'), (n.run m.run).2)

section Runs

variable {n later : Network} {b b' : Buffer} {m : Buffered α} {f : α → Buffered β}

lemma run_bind_ok {a : α} (h : n.run (m.run.run b) = ((.ok a, b'), later)) :
    n.run ((m >>= f).run.run b) = later.run ((f a).run.run b') := by
  change n.run (m.run.run b >>= _) = _
  rw [Network.run_bind, h]
  rfl

lemma run_bind_error {why : Error} (h : n.run (m.run.run b) = ((.error why, b'), later)) :
    n.run ((m >>= f).run.run b) = ((.error why, b'), later) := by
  change n.run (m.run.run b >>= _) = _
  rw [Network.run_bind, h]
  rfl

end Runs

namespace Agrees

lemma lift (m : Exchange α) : Agrees (lift m) m := by
  intro n b
  refine ⟨b, ?_⟩
  change n.run (m.run >>= fun a => pure (a, b)) = _
  rw [Network.run_bind]
  rfl

lemma set {m' : Buffered α} {m : Exchange α} (h : Agrees m' m) (b : Buffer) :
    Agrees (set b >>= fun _ => m') m :=
  fun n _ => h n b

/-- What is done with the buffer comes to the same, whatever is in it. -/
lemma get {f : Buffer → Buffered α} {m : Exchange α} (h : ∀ b, Agrees (f b) m) :
    Agrees (get >>= f) m :=
  fun n b => h b n b

/-- What is done already needs no buffer. -/
lemma given {ε : Type} {wrap : ε → Error} {a : α} {f' : α → Buffered β} {m : Exchange β}
    (h : Agrees (f' a) m) : Agrees (Buffered.lift (attempt wrap (pure (.ok a))) >>= f') m :=
  fun n b => h n b

lemma refused {ε : Type} {wrap : ε → Error} {why : ε} {f' : α → Buffered β} {f : γ → Exchange β} :
    Agrees (Buffered.lift (attempt wrap (pure (.error why))) >>= f')
      (attempt wrap (pure (.error why)) >>= f) :=
  fun _ b => ⟨b, rfl⟩

lemma bind {m' : Buffered α} {m : Exchange α} {f' : α → Buffered β} {f : α → Exchange β}
    (hm : Agrees m' m) (hf : ∀ a, Agrees (f' a) (f a)) : Agrees (m' >>= f') (m >>= f) := by
  intro n b
  obtain ⟨b', hb'⟩ := hm n b
  rcases hrun : n.run m.run with ⟨why | a, later⟩ <;> rw [hrun] at hb'
  · exact ⟨b', by rw [run_bind_error hb', Network.run_bind_error hrun]⟩
  · rw [run_bind_ok hb', Network.run_bind_ok hrun]
    exact hf a later b'

/-- The value is read off the bytes that came, wherever the buffer was before. -/
lemma take (link : Link) (count : Nat) (r : Reader α) : Agrees (take link count r)
    (Transport.fill link count >>= fun bs => attempt Error.decode (pure (r bs).1)) := by
  intro n b
  have hfill := run_fill n link count b
  rw [Buffer.readFrom] at hfill
  rcases hreceive : (n.stream link).receive count with ⟨⟨came, why⟩ | bs, s⟩ <;>
    rw [hreceive] at hfill
  · have hfail : n.run (Transport.fill link count).run =
        (.error (readFailure why), n.setStream link s) := by
      rw [Transport.fill, Network.run_attempt, Network.run_perform]
      simp only [Network.answer, hreceive]
      rfl
    exact ⟨_, by rw [Buffered.take, run_bind_error hfill, Network.run_bind_error hfail]⟩
  · have hok : n.run (Transport.fill link count).run = (.ok bs, n.setStream link s) := by
      rw [Transport.fill, Network.run_attempt, Network.run_perform]
      simp only [Network.answer, hreceive]
      rfl
    rw [Buffered.take, run_bind_ok hfill, Network.run_bind_ok hok]
    exact set (lift (attempt Error.decode (pure (r bs).1))) _ _ (b.clear.pushRaw bs)

end Agrees

/-! ### Requests -/

/-- The message put together in a buffer that is started afresh is the frame. -/
lemma finalize_push (b : Buffer) (e : Encoding) :
    (b.start.push e).2.finalize.map Buffer.bytes = Frame.ofPayload e.bytes := by
  have hpush : (b.start.push e).2 = ⟨List.replicate Buffer.headerSize 0 ++ e.bytes, 0⟩ :=
    rfl
  have hlength : (List.replicate Buffer.headerSize 0 ++ e.bytes).length - Buffer.headerSize =
      e.bytes.length := by
    simp
  have hframed : ¬ (List.replicate Buffer.headerSize 0 ++ e.bytes).length < Buffer.headerSize := by
    simp
  have hpayload : (List.replicate Buffer.headerSize 0 ++ e.bytes).drop Buffer.headerSize =
      e.bytes := rfl
  rw [hpush, Buffer.finalize, if_neg hframed, Frame.ofPayload]
  simp only [hlength, hpayload]
  split
  · rename_i h
    exact (if_pos h).symm
  · rename_i h
    exact (if_neg h).symm

lemma writeMessage_agrees (link : Link) (name : String) (e : Encoding) :
    Agrees (writeMessage link name e) (Transport.writeMessage link name e) := by
  unfold writeMessage Transport.writeMessage
  refine Agrees.get fun b => ?_
  rcases hfailure : e.failure with _ | why
  · have hpush : (b.start.push e).1 = .ok () := by
      rw [Buffer.push, hfailure]
    have hframe : Frame.ofEncoding e = (b.start.push e).2.finalize.map Buffer.bytes := by
      rw [finalize_push, Frame.ofEncoding, Encoding.result, hfailure]
      rfl
    simp only [hpush, hframe]
    refine Agrees.set (Agrees.given ?_) _
    rcases (b.start.push e).2.finalize with why | b
    · exact Agrees.refused
    · refine Agrees.given ?_
      exact Agrees.set (Agrees.lift _) _
  · have hpush : (b.start.push e).1 = .error why := by
      rw [Buffer.push, hfailure]
    have hframe : Frame.ofEncoding e = .error why := by
      rw [Frame.ofEncoding, Encoding.result, hfailure]
      rfl
    simp only [hpush, hframe]
    exact Agrees.set Agrees.refused _

lemma writeRequest_agrees (link : Link) (r : Request) :
    Agrees (writeRequest link r) (Transport.writeRequest link r) :=
  writeMessage_agrees link r.call.name r.encode

/-! ### Replies -/

lemma length_of_fill {n later : Network} {link : Link} {count : Nat} {bs : List UInt8}
    (h : n.run (Transport.fill link count).run = (.ok bs, later)) : bs.length = count := by
  rw [Transport.fill, Network.run_attempt, Network.run_perform] at h
  rcases hreceive : (n.stream link).receive count with ⟨why | got, s⟩ <;>
    simp only [Network.answer, hreceive] at h <;> cases h
  exact Stream.length_receive hreceive

/-- A reader that needs all the bytes it is given, and no more, yields their value. -/
lemma Agrees.take_bind {α β : Type} {link : Link} {count : Nat} {r : Reader α}
    {value : List UInt8 → α} {f' : α → Buffered β} {f : List UInt8 → Exchange β}
    (hr : ∀ bs, bs.length = count → (r bs).1 = .ok (value bs))
    (hf : ∀ bs, bs.length = count → Agrees (f' (value bs)) (f bs)) :
    Agrees (Buffered.take link count r >>= f') (Transport.fill link count >>= f) := by
  intro n b
  obtain ⟨b', hb'⟩ := Agrees.take link count r n b
  rcases hrun : n.run (Transport.fill link count).run with ⟨why | bs, later⟩
  · rw [Network.run_bind_error hrun] at hb'
    exact ⟨b', by rw [run_bind_error hb', Network.run_bind_error hrun]⟩
  · have hlength := length_of_fill hrun
    have hvalue : later.run (attempt Error.decode (pure (r bs).1)).run =
        (.ok (value bs), later) := by
      rw [hr bs hlength]
      rfl
    rw [Network.run_bind_ok hrun, hvalue] at hb'
    rw [run_bind_ok hb', Network.run_bind_ok hrun]
    exact hf bs hlength later b'

lemma readReply_agrees {α : Type} (link : Link) (payload : Reader α) :
    Agrees (readReply link payload) (Transport.readReply link payload) := by
  have hword {β : Type} (g : Nat → β) {width : Nat} (bs : List UInt8) (h : bs.length = width) :
      ((g <$> Reader.word width) bs).1 = .ok (g (Word.ofLe bs)) := by
    rw [Reader.map_apply, Reader.word_of_length h]
  refine Agrees.take_bind (hword UInt8.ofNat) fun bs hbs => ?_
  obtain ⟨status, rfl⟩ := List.length_eq_one_iff.mp hbs
  have hstatus : UInt8.ofNat (Word.ofLe [status]) = status := by
    simp [Word.ofLe]
  rw [hstatus]
  by_cases hzero : status = 0
  · subst hzero
    refine Agrees.take_bind (hword UInt32.ofNat) fun header hheader => ?_
    have hlt : Word.ofLe header < UInt32.size := by
      have h := Word.ofLe_lt header
      rw [hheader] at h
      exact h
    have hn : (UInt32.ofNat (Word.ofLe header)).toNat = Word.ofLe header :=
      UInt32.toNat_ofNat_of_lt hlt
    rw [hn]
    exact (Agrees.lift _).bind fun _ => Agrees.take link _ payload
  · rw [if_neg hzero]
    split
    · rename_i heq
      cases heq
      exact absurd rfl hzero
    · exact fun _ b => ⟨b, rfl⟩

/-- **The buffer is of no account.** Whatever earlier calls left in it, a call has the outcome of
one that has no buffer, and does the same to the world. -/
theorem ask_agrees (link : Link) (q : Inquiry) : Agrees (ask link q) (Transport.ask link q) :=
  (writeMessage_agrees link q.name q.encoding).bind fun _ => readReply_agrees link q.payload

/-- The world and the buffer after requests of any kinds were sent one after another. -/
def afterInquiries (link : Link) : List Inquiry → Network → Buffer → Network × Buffer
  | [], n, b => (n, b)
  | q :: qs, n, b =>
    let ran := n.run ((ask link q).run.run b)
    afterInquiries link qs ran.2 ran.1.2

lemma afterInquiries_fst (link : Link) (qs : List Inquiry) (n : Network) (b : Buffer) :
    (afterInquiries link qs n b).1 = n.afterInquiries link qs := by
  induction qs generalizing n b with
  | nil => rfl
  | cons q qs ih =>
    obtain ⟨b', hb'⟩ := ask_agrees link q n b
    have hrest := ih (n.run (Transport.ask link q).run).2 b'
    simp only [afterInquiries, hb']
    exact hrest

/-- The world and the buffer after these requests were sent one after another. -/
def afterCalls (link : Link) : List Request → Network → Buffer → Network × Buffer
  | [], n, b => (n, b)
  | r :: rs, n, b =>
    let ran := n.run ((call link r).run.run b)
    afterCalls link rs ran.2 ran.1.2

lemma afterCalls_eq (link : Link) (rs : List Request) (n : Network) (b : Buffer) :
    afterCalls link rs n b = afterInquiries link (rs.map inquiry) n b := by
  induction rs generalizing n b with
  | nil => rfl
  | cons r rs ih => exact ih ..

end Buffered

end StoreRpc.Transport
