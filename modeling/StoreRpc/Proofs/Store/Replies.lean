import StoreRpc.Proofs.Store.Transcript
import StoreRpc.Proofs.Transport.Frames

/-!
Procedures on a connection whose replies are known.

A procedure takes the replies in their order, one for each of its requests, up to a reply that tells
it no value or to the last one. What it would have gone on with if there had been more replies is
told by its transcripts.
-/

namespace StoreRpc

namespace Program

variable {Op : Type} {Answer : Op → Type} {α : Type}

/-- After these events the program goes on like this. -/
inductive Leads : Program Op Answer α → List (Event Op Answer) → Program Op Answer α → Prop
  | refl (p) : Leads p [] p
  | ask {op next T q} (x : Answer op) (h : Leads (next x) T q) :
    Leads (ask op next) (⟨op, x⟩ :: T) q

lemma Leads.runs {p q : Program Op Answer α} {T T' : List (Event Op Answer)} {a : α}
    (h : p.Leads T q) (hq : q.Runs T' a) : p.Runs (T ++ T') a := by
  induction h with
  | refl p => exact hq
  | ask x h ih => exact ⟨x, _, rfl, ih hq⟩

end Program

namespace Procedure

open Program (Leads)

/-- These replies answer the requests of the transcript, one each, with the values in it. -/
inductive Hears : List Event → List ReplyFrame → Prop
  | nil : Hears [] []
  | send {r v f T fs} (h : f.outcome (Request.reply r).reader = .ok v) (hrest : Hears T fs) :
    Hears (⟨.send r, .ok v⟩ :: T) (f :: fs)
  | log {T fs} (line : LogLine) (hrest : Hears T fs) : Hears (⟨.log line, ()⟩ :: T) fs
  | now {T fs} (x : Int64) (hrest : Hears T fs) : Hears (⟨.now, x⟩ :: T) fs

/-- The request gets no value: there is no frame for it, or no reply, or not such a reply. -/
def Unanswered (r : Request) (frames : List ReplyFrame) : Prop :=
  ¬ r.Encodable ∨ ∀ f ∈ frames.head?, ∀ v, f.outcome r.reply.reader ≠ .ok v

namespace Event

/-- A request has got a value, which can be read off some bytes. -/
def Heard : Event → Prop
  | ⟨.send r, x⟩ => ∃ bs v, x = .ok v ∧ (r.reply.reader bs).1 = .ok v
  | _ => True

end Event

lemma heard_of_outcome {r : Request} {f : ReplyFrame} {v : r.reply.Value}
    (h : f.outcome r.reply.reader = .ok v) : ∃ bs, (r.reply.reader bs).1 = .ok v := by
  cases f with
  | refusal => cases h
  | answer bs hbs =>
    refine ⟨bs, ?_⟩
    cases hread : (r.reply.reader bs).1 with
    | error why =>
      rw [ReplyFrame.outcome, hread] at h
      cases h
    | ok value =>
      rw [ReplyFrame.outcome, hread] at h
      cases h
      rfl

lemma Hears.heard {T : List Event} {fs : List ReplyFrame} (h : Hears T fs) :
    ∀ e ∈ T, e.Heard := by
  induction h with
  | nil => simp
  | send h hrest ih =>
    obtain ⟨bs, hbs⟩ := heard_of_outcome h
    exact List.forall_mem_cons.mpr ⟨⟨bs, _, rfl, hbs⟩, ih⟩
  | log line hrest ih | now x hrest ih => exact List.forall_mem_cons.mpr ⟨trivial, ih⟩

/-- Every kind of reply can be read off eight zeros. -/
lemma exists_read (r : Reply) : ∃ bs v, (r.reader bs).1 = .ok v := by
  refine ⟨List.replicate 8 0, ?_⟩
  cases r <;> exact ⟨_, rfl⟩

/-- A program can come to an end, if it gets the right answers. -/
lemma exists_heard_runs {α : Type} (p : Program Op Op.Answer α) :
    ∃ T a, p.Runs T a ∧ ∀ e ∈ T, Event.Heard e := by
  induction p with
  | done a => exact ⟨[], a, ⟨rfl, rfl⟩, by simp⟩
  | ask op next ih =>
    have hanswer : ∃ x, Event.Heard ⟨op, x⟩ := by
      cases op with
      | send r =>
        obtain ⟨bs, v, hv⟩ := exists_read r.reply
        exact ⟨.ok v, bs, v, rfl, hv⟩
      | log line => exact ⟨(), trivial⟩
      | now => exact ⟨0, trivial⟩
    obtain ⟨x, hx⟩ := hanswer
    obtain ⟨T, a, hruns, hT⟩ := ih x
    exact ⟨⟨op, x⟩ :: T, a, ⟨x, T, rfl, hruns⟩, List.forall_mem_cons.mpr ⟨hx, hT⟩⟩

end Procedure

/-! ### Procedures that give up -/

namespace Procedure

/-- The event is no request that failed. -/
def Event.Served : Event → Prop
  | ⟨.send _, .error _⟩ => False
  | _ => True

/-- There is a value in the end only if none of the requests failed. -/
def Strict {α : Type} (p : Procedure α) : Prop := ∀ T a, Runs p T (.ok a) → ∀ e ∈ T, e.Served

namespace Strict

variable {α β : Type}

lemma pure (a : α) : Strict (Pure.pure a) := by
  intro T b h
  obtain ⟨rfl, -⟩ := runs_pure_iff.mp h
  simp

lemma ofExcept (x : Except Error α) : Strict (Procedure.ofExcept x) := by
  intro T a h
  obtain ⟨rfl, -⟩ := runs_ofExcept_iff.mp h
  simp

lemma send (r : Request) : Strict (Procedure.send r) := by
  intro T v h
  obtain rfl := runs_send_iff.mp h
  exact List.forall_mem_singleton.mpr trivial

lemma bind {p : Procedure α} {f : α → Procedure β} (hp : Strict p) (hf : ∀ a, Strict (f a)) :
    Strict (p >>= f) := by
  intro T b h
  obtain ⟨why, -, hout⟩ | ⟨a, front, back, hfront, hback, rfl⟩ := runs_bind_iff.mp h
  · cases hout
  · exact List.forall_mem_append.mpr ⟨hp front a hfront, hf a back b hback⟩

end Strict

end Procedure

/-! ### One request -/

lemma Network.Serves.accepts {n : Network} {link : Link} {bytes : List UInt8}
    (h : n.Serves link bytes) : n.Accepts link :=
  ⟨h.made, h.takesAll.chunk, h.takesAll.room⟩

namespace Client

open Procedure (Unanswered)

variable {c : Client} {link : Link} {n : Network} {r : Request}

/-- A request is written, and gets the value that the next reply tells. -/
lemma run_send_ok (hlink : c.link = some link) {f : ReplyFrame} {frame rest : List UInt8}
    {v : r.reply.Value} (h : n.Serves link (f.bytes ++ rest))
    (hr : Frame.ofEncoding r.encode = .ok frame) (hf : f.outcome r.reply.reader = .ok v) :
    ∃ later, n.run ((send r).run c) = ((.ok v, c), later) ∧ later.Serves link rest ∧
      later.written link = n.written link ++ frame := by
  let line : LogLine := ⟨.debug, s!"Calling {r.call.name}"⟩
  let n' : Network := { n with logged := line :: n.logged }
  have h' : n'.Serves link (f.bytes ++ rest) := h.congr rfl
  obtain ⟨later, hcall, hlater⟩ :
      ∃ later, n'.run (Transport.call link r).run = (f.outcome r.reply.reader, later) ∧
        later.Serves link rest := h'.ask hr
  obtain ⟨t, hsays, -, hwritten⟩ := h'.accepts.run (Transport.call link r).run
  have hframes : Dialogue.frames link t = [frame] := by
    rw [(Transport.says_call hsays).frames, hr]
    rfl
  refine ⟨later, ?_, hlater, ?_⟩
  · have hlog : n.run (Dialogue.log .debug s!"Calling {r.call.name}") = ((), n') := rfl
    rw [run_send, hlink]
    simp only [Network.run_bind, hlog, hcall, hf]
    rfl
  · rw [hcall, hframes, List.flatten_singleton] at hwritten
    exact hwritten

/-- A request that gets no value fails. -/
lemma run_send_unanswered (hlink : c.link = some link) {fs : List ReplyFrame}
    (h : n.Serves link (fs.flatMap ReplyFrame.bytes)) (hr : Unanswered r fs) :
    ∃ why, (n.run ((send r).run c)).1.1 = .error why := by
  have hcall : ∃ why later, n.run (Transport.call link r).run = (.error why, later) := by
    cases hframe : Frame.ofEncoding r.encode with
    | error why => exact ⟨_, _, Network.run_ask_of_error n link hframe⟩
    | ok frame =>
      have hfs : ∀ f ∈ fs.head?, ∀ v, f.outcome r.reply.reader ≠ .ok v :=
        hr.resolve_left fun hnot => hnot ⟨frame, hframe⟩
      cases fs with
      | nil =>
        obtain ⟨mid, hwrite, hmid⟩ := h.writeMessage hframe
        obtain ⟨later, hread⟩ :=
          Network.run_readReply_cut hmid.made (.inl hmid.arriving) r.reply.reader
        exact ⟨_, later, by rw [Transport.call, Transport.ask, Network.run_bind_ok hwrite, hread]⟩
      | cons f fs =>
        obtain ⟨later, hcall, -⟩ :
            ∃ later, n.run (Transport.call link r).run = (f.outcome r.reply.reader, later) ∧
              later.Serves link (fs.flatMap ReplyFrame.bytes) := Network.Serves.ask h hframe
        cases hout : f.outcome r.reply.reader with
        | error why => exact ⟨why, later, by rw [hcall, hout]⟩
        | ok v => exact absurd hout (hfs f rfl v)
  obtain ⟨why, later, hcall⟩ := hcall
  exact ⟨why, by rw [(run_send_on hlink r h.made).1, hcall]⟩

end Client

/-! ### Whole procedures -/

namespace Procedure

open Program (Leads)

variable {α : Type} {n : Network} {c : Client} {link : Link}

lemma run_ask {op : Op} {next : op.Answer → Program Op Op.Answer α} {x : op.Answer} {mid : Client}
    {now : Network} (h : n.run ((answer op).run c) = ((x, mid), now)) :
    n.run ((Program.run answer (.ask op next)).run c) =
      now.run ((Program.run answer (next x)).run mid) := by
  have h : n.run (answer op c) = ((x, mid), now) := h
  refine (Network.run_bind ..).trans ?_
  rw [h]
  rfl

/-- Whatever becomes of a program has a transcript. -/
lemma exists_runs (p : Program Op Op.Answer α) (n : Network) (c : Client) :
    ∃ T, p.Runs T (n.run ((Program.run answer p).run c)).1.1 := by
  obtain ⟨t, hsays, -⟩ := n.exists_transcript ((Program.run answer p).run c)
  obtain ⟨T, hruns, -⟩ := says_run hsays
  exact ⟨T, hruns⟩

/-- The replies are taken in turn. Either all requests get values, and then these have been written
and the replies behind those that were taken are still to come; or there is a request that gets
none, and the program goes on without. -/
def Takes (p : Program Op Op.Answer α) (n : Network) (c : Client) (link : Link)
    (fs : List ReplyFrame) : Prop :=
  let ran := n.run ((Program.run answer p).run c)
  ∃ T heard left, fs = heard ++ left ∧ Hears T heard ∧
    ((p.Runs T ran.1.1 ∧ ran.1.2 = c ∧ ran.2.Serves link (left.flatMap ReplyFrame.bytes) ∧
        (∀ e ∈ T, e.Lawful) ∧
        ran.2.written link = n.written link ++ (T.filterMap Event.frame?).flatten) ∨
      ∃ r next why T', p.Leads T (.ask (.send r) next) ∧ Unanswered r left ∧
        p.Runs (T ++ ⟨.send r, .error why⟩ :: T') ran.1.1)

namespace Takes

variable {op : Op} {next : op.Answer → Program Op Op.Answer α} {fs : List ReplyFrame}

/-- One more operation in front, and the replies that it takes. -/
lemma ask (used : List ReplyFrame) {x : op.Answer} {now : Network}
    (hrun : n.run ((answer op).run c) = ((x, c), now)) (h : Takes (next x) now c link fs)
    (hused : ∀ T heard, Hears T heard → Hears (⟨op, x⟩ :: T) (used ++ heard))
    (hlawful : Event.Lawful ⟨op, x⟩)
    (hwritten : now.written link =
      n.written link ++ (Event.frame? ⟨op, x⟩).toList.flatten) :
    Takes (.ask op next) n c link (used ++ fs) := by
  obtain ⟨T, heard, left, rfl, hhears, hcase⟩ := h
  refine ⟨⟨op, x⟩ :: T, used ++ heard, left, (List.append_assoc ..).symm, hused T heard hhears, ?_⟩
  rw [run_ask hrun]
  obtain ⟨hruns, hclient, hserves, hrest, hmore⟩ | ⟨r, next', why, T', hleads, hun, hruns⟩ := hcase
  · refine .inl ⟨⟨x, T, rfl, hruns⟩, hclient, hserves,
      List.forall_mem_cons.mpr ⟨hlawful, hrest⟩, ?_⟩
    rw [hmore, hwritten, List.append_assoc, List.filterMap_cons]
    cases Event.frame? ⟨op, x⟩ <;> simp
  · exact .inr ⟨r, next', why, T', .ask x hleads, hun, x, _, rfl, hruns⟩

/-- A request that gets no value. -/
lemma unanswered {r : Request} {next : Except Error r.reply.Value → Program Op Op.Answer α}
    (hlink : c.link = some link) (h : n.Serves link (fs.flatMap ReplyFrame.bytes))
    (hr : Unanswered r fs) : Takes (.ask (.send r) next) n c link fs := by
  obtain ⟨why, hwhy⟩ := Client.run_send_unanswered hlink h hr
  let ran := n.run ((Client.send r).run c)
  have hrun : n.run ((answer (.send r)).run c) = ((.error why, ran.1.2), ran.2) := by
    rw [← hwhy]
    rfl
  obtain ⟨T', hruns⟩ := exists_runs (next (.error why)) ran.2 ran.1.2
  refine ⟨[], [], fs, rfl, .nil, .inr ⟨r, next, why, T', .refl _, hr, ?_⟩⟩
  rw [run_ask hrun]
  exact ⟨.error why, T', rfl, hruns⟩

end Takes

lemma takes (p : Program Op Op.Answer α) (hlink : c.link = some link) {fs : List ReplyFrame}
    (h : n.Serves link (fs.flatMap ReplyFrame.bytes)) : Takes p n c link fs := by
  induction p generalizing n fs with
  | done a =>
    exact ⟨[], [], fs, rfl, .nil, .inl ⟨⟨rfl, rfl⟩, rfl, h, by simp, (List.append_nil _).symm⟩⟩
  | ask op next ih =>
    cases op with
    | send r =>
      by_cases hr : Unanswered r fs
      · exact .unanswered hlink h hr
      · obtain ⟨hencodable, hvalue⟩ := not_or.mp hr
        obtain ⟨frame, hframe⟩ := not_not.mp hencodable
        push Not at hvalue
        obtain ⟨f, hhead, v, hv⟩ := hvalue
        obtain ⟨rest, rfl⟩ := List.head?_eq_some_iff.mp hhead
        obtain ⟨later, hrun, hlater, hwritten⟩ := Client.run_send_ok hlink h hframe hv
        have hlawful : Event.Lawful ⟨.send r, .ok v⟩ := ⟨frame, hframe⟩
        refine .ask [f] hrun (ih (.ok v) hlater) (fun T heard hheard => .send hv hheard) hlawful ?_
        rw [hwritten, Event.frame?, hframe]
        simp [Except.toOption]
    | log line =>
      let later : Network := { n with logged := line :: n.logged }
      have hrun : n.run ((answer (.log line)).run c) = (((), c), later) := rfl
      have hlater : later.Serves link (fs.flatMap ReplyFrame.bytes) := h.congr rfl
      exact .ask [] hrun (ih () hlater) (fun T heard hheard => .log line hheard) trivial
        (List.append_nil _).symm
    | now =>
      have hrun : n.run ((answer .now).run c) = ((n.now, c), n) := rfl
      exact .ask [] hrun (ih n.now h) (fun T heard hheard => .now n.now hheard) trivial
        (List.append_nil _).symm

end Procedure

end StoreRpc
