import StoreRpc.Proofs.Network.Stream
import StoreRpc.Transport

/-!
Dialogues in a scripted world, operation by operation.
-/

namespace StoreRpc.Network

open Transport (Exchange)

variable {α β : Type} {n later : Network} {link : Link}

/-! ### Putting dialogues together -/

lemma run_bind (n : Network) (d : Dialogue α) (f : α → Dialogue β) :
    n.run (d >>= f) = (n.run d).2.run (f (n.run d).1) := by
  unfold run
  rw [Program.run_bind]
  rfl

lemma run_perform (n : Network) (op : Op) : n.run (Dialogue.perform op) = answer op n := by
  unfold run Dialogue.perform
  rw [Program.run_perform]

lemma run_bind_ok {m : Exchange α} {f : α → Exchange β} {a : α}
    (h : n.run m.run = (.ok a, later)) : n.run (m >>= f).run = later.run (f a).run := by
  change n.run (m.run >>= _) = _
  rw [run_bind, h]
  rfl

lemma run_bind_error {m : Exchange α} {f : α → Exchange β} {why : Error}
    (h : n.run m.run = (.error why, later)) : n.run (m >>= f).run = (.error why, later) := by
  change n.run (m.run >>= _) = _
  rw [run_bind, h]
  rfl

lemma run_attempt {ε : Type} (wrap : ε → Error) (d : Dialogue (Except ε α)) :
    n.run (Transport.attempt wrap d).run = ((n.run d).1.mapError wrap, (n.run d).2) := by
  change n.run (d >>= _) = _
  rw [run_bind]
  rfl

/-! ### The log -/

/-- What is logged has no influence on anything else. -/
lemma answer_logged (n : Network) (lines : List LogLine) (op : Op) :
    ∃ lines', answer op { n with logged := lines } =
      ((answer op n).1, { (answer op n).2 with logged := lines' }) := by
  have hstream (link : Link) : stream { n with logged := lines } link = n.stream link := rfl
  cases op with
  | connect e =>
    refine ⟨lines, ?_⟩
    simp only [answer, connect]
    rcases n.script.head? with _ | ⟨s | _ | _ | _ | _⟩ <;> rfl
  | deliver link bs =>
    refine ⟨lines, ?_⟩
    simp only [answer, hstream]
    rcases (n.stream link).deliver bs with ⟨taken, _ | fault, s⟩ <;> rfl
  | flush link =>
    refine ⟨lines, ?_⟩
    simp only [answer, hstream]
    rcases (n.stream link).flush with _ | fault <;> rfl
  | receive link count => exact ⟨lines, rfl⟩
  | log line => exact ⟨line :: lines, rfl⟩
  | session => exact ⟨lines, rfl⟩
  | now => exact ⟨lines, rfl⟩

lemma run_logged (n : Network) (lines : List LogLine) (d : Dialogue α) :
    ∃ lines', Network.run { n with logged := lines } d =
      ((n.run d).1, { (n.run d).2 with logged := lines' }) := by
  induction d generalizing n lines with
  | done a => exact ⟨lines, rfl⟩
  | ask op next ih =>
    obtain ⟨lines', hanswer⟩ := n.answer_logged lines op
    obtain ⟨lines'', hnext⟩ := ih (answer op n).1 (answer op n).2 lines'
    refine ⟨lines'', ?_⟩
    change Network.run (answer op { n with logged := lines }).2
      (next (answer op { n with logged := lines }).1) = _
    rw [hanswer]
    exact hnext

/-! ### Reading -/

lemma stream_setStream (h : link < n.links.length) (s : Stream) :
    (n.setStream link s).stream link = s := by
  simp [stream, setStream, List.getD_eq_getElem?_getD, h]

lemma setStream_stream (n : Network) (link : Link) : n.setStream link (n.stream link) = n := by
  have hlinks : n.links.set link (n.links.getD link (.ofBytes [])) = n.links := by
    by_cases h : link < n.links.length
    · simp [List.getD_eq_getElem?_getD, h]
    · exact List.set_eq_of_length_le (Nat.le_of_not_lt h)
  rw [setStream, stream, hlinks]

/-- Reads have left these bytes still to arrive on the connection, and have not otherwise changed
what it does. -/
structure ReadOn (n later : Network) (link : Link) (rest : List UInt8) : Prop where
  made : link < later.links.length
  stream : ∃ incoming, later.stream link = { n.stream link with incoming }
  arriving : (later.stream link).arriving = rest
  failing : (later.stream link).failing = (n.stream link).failing

namespace ReadOn

variable {mid : Network} {front rest rest' : List UInt8}

lemma trans (h : n.ReadOn mid link rest) (h' : mid.ReadOn later link rest') :
    n.ReadOn later link rest' := by
  obtain ⟨incoming, hmid⟩ := h.stream
  obtain ⟨incoming', hlater⟩ := h'.stream
  refine ⟨h'.made, ⟨incoming', ?_⟩, h'.arriving, h'.failing.trans h.failing⟩
  rw [hlater, hmid]

/-- A read gets the next of the bytes that arrive. -/
lemma receive (hmade : link < n.links.length) (h : (n.stream link).arriving = front ++ rest) :
    ∃ later, n.run (Dialogue.perform (.receive link front.length)) = (.ok front, later) ∧
      n.ReadOn later link rest := by
  obtain ⟨incoming, hreceive, hincoming, hfault⟩ := Stream.receive_of_arriving h
  have hstream := stream_setStream hmade { n.stream link with incoming }
  refine ⟨n.setStream link { n.stream link with incoming }, ?_, ?_, ⟨incoming, hstream⟩, ?_, ?_⟩
  · rw [run_perform]
    simp only [answer, hreceive]
  · simpa [setStream] using hmade
  · rw [hstream]
    exact hincoming
  · rw [hstream]
    exact hfault

end ReadOn

/-! ### Serving -/

/-- The link is that of a connection which takes all that is written to it, and on which these
bytes are still to arrive. -/
structure Serves (n : Network) (link : Link) (bytes : List UInt8) : Prop where
  made : link < n.links.length
  takesAll : (n.stream link).TakesAll
  arriving : (n.stream link).arriving = bytes

namespace Serves

variable {rest bytes : List UInt8}

lemma congr (h : n.Serves link bytes) (hlinks : later.links = n.links) :
    later.Serves link bytes := by
  have hstream : later.stream link = n.stream link := by rw [stream, stream, hlinks]
  exact ⟨hlinks ▸ h.made, hstream ▸ h.takesAll, hstream ▸ h.arriving⟩

lemma log (h : n.Serves link bytes) (level : LogLevel) (text : String) :
    ∃ later, n.run (liftM (Dialogue.log level text) : Exchange Unit).run = (.ok (), later) ∧
      later.Serves link bytes :=
  ⟨_, rfl, h.congr rfl⟩

lemma readOn (h : n.Serves link bytes) (hread : n.ReadOn later link rest) :
    later.Serves link rest := by
  obtain ⟨incoming, hstream⟩ := hread.stream
  refine ⟨hread.made, ?_, hread.arriving⟩
  rw [hstream]
  exact ⟨h.takesAll.chunk, h.takesAll.room, h.takesAll.flush⟩

lemma deliver (h : n.Serves link bytes) (bs : List UInt8) :
    ∃ later, n.run (Dialogue.perform (.deliver link bs)) = (.ok (), later) ∧
      later.Serves link bytes := by
  refine ⟨{ n with sent := (link, bs) :: n.sent }, ?_, h.congr rfl⟩
  rw [run_perform]
  simp only [answer, h.takesAll.deliver, setStream_stream]

lemma flush (h : n.Serves link bytes) :
    n.run (Dialogue.perform (.flush link)) = (.ok (), n) := by
  rw [run_perform]
  simp only [answer, Stream.flush, h.takesAll.flush, Option.map_none]

end Serves

/-! ### Runs of calls -/

/-- The world after requests of any kinds were sent one after another, whatever came of them. -/
def afterInquiries (n : Network) (link : Link) (qs : List Transport.Inquiry) : Network :=
  qs.foldl (fun n q => (n.run (Transport.ask link q).run).2) n

/-- The world after these requests were sent one after another, whatever came of them. -/
def afterCalls (n : Network) (link : Link) (rs : List Request) : Network :=
  rs.foldl (fun n r => (n.run (Transport.call link r).run).2) n

lemma afterCalls_eq (n : Network) (link : Link) (rs : List Request) :
    n.afterCalls link rs = n.afterInquiries link (rs.map Transport.inquiry) := by
  rw [afterCalls, afterInquiries, List.foldl_map]
  rfl

end StoreRpc.Network
