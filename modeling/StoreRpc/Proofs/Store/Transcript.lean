import StoreRpc.Proofs.Client.Reconnect
import StoreRpc.Proofs.Transport.InStep
import StoreRpc.Store.Procedure

/-!
Transcripts of procedures, and what a client does to carry them out.

A procedure sends one request after another. If the client has the same connection in the end as it
had before, all of them were written to it, and nothing else was.
-/

namespace StoreRpc

open Dialogue (Says Lawful frames frames_append frames_of_apart lawful_append_iff says_pure_iff
  says_bind_iff says_perform_iff says_log_iff)

namespace Procedure

abbrev Event : Type := Program.Event Op Op.Answer

/-- The procedure comes to this with these operations and answers. -/
def Runs {α : Type} (p : Procedure α) (T : List Event) (out : Except Error α) : Prop :=
  Program.Runs (ExceptT.run p) T out

section Runs

variable {α β : Type} {T : List Event}

lemma runs_pure_iff {a : α} {out : Except Error α} :
    Runs (pure a) T out ↔ T = [] ∧ .ok a = out :=
  Iff.rfl

lemma runs_ofExcept_iff {x out : Except Error α} : Runs (ofExcept x) T out ↔ T = [] ∧ x = out :=
  Iff.rfl

lemma runs_send_iff {r : Request} {out : Except Error r.reply.Value} :
    Runs (send r) T out ↔ T = [⟨.send r, out⟩] :=
  Program.runs_perform_iff

/-- A procedure ends with the first of its parts that fails. -/
lemma runs_bind_iff {p : Procedure α} {f : α → Procedure β} {out : Except Error β} :
    Runs (p >>= f) T out ↔
      (∃ why, Runs p T (.error why) ∧ out = .error why) ∨
      ∃ a front back, Runs p front (.ok a) ∧ Runs (f a) back out ∧ T = front ++ back := by
  change Program.Runs (ExceptT.run p >>= ExceptT.bindCont f) T out ↔ _
  rw [Program.runs_bind_iff]
  constructor
  · rintro ⟨why | a, front, back, hp, hf, rfl⟩
    · obtain ⟨rfl, rfl⟩ := hf
      exact .inl ⟨why, by rwa [List.append_nil], rfl⟩
    · exact .inr ⟨a, front, back, hp, hf, rfl⟩
  · rintro (⟨why, hp, rfl⟩ | ⟨a, front, back, hp, hf, rfl⟩)
    · exact ⟨.error why, T, [], hp, ⟨rfl, rfl⟩, (List.append_nil T).symm⟩
    · exact ⟨.ok a, front, back, hp, hf, rfl⟩

/-- A request is answered, or its error ends the procedure. -/
lemma runs_send_bind_iff {r : Request} {f : r.reply.Value → Procedure β} {out : Except Error β} :
    Runs (send r >>= f) T out ↔
      (∃ why, T = [⟨.send r, .error why⟩] ∧ out = .error why) ∨
      ∃ v back, T = ⟨.send r, .ok v⟩ :: back ∧ Runs (f v) back out := by
  simp only [runs_bind_iff, runs_send_iff]
  constructor
  · rintro (⟨why, rfl, rfl⟩ | ⟨v, _, back, rfl, h, rfl⟩)
    · exact .inl ⟨why, rfl, rfl⟩
    · exact .inr ⟨v, back, rfl, h⟩
  · rintro (⟨why, rfl, rfl⟩ | ⟨v, back, rfl, h⟩)
    · exact .inl ⟨why, rfl, rfl⟩
    · exact .inr ⟨v, _, back, rfl, h, rfl⟩

lemma runs_log_bind_iff {level : LogLevel} {text : String} {f : Unit → Procedure β}
    {out : Except Error β} :
    Runs (log level text >>= f) T out ↔
      ∃ back, T = ⟨.log ⟨level, text⟩, ()⟩ :: back ∧ Runs (f ()) back out := by
  constructor
  · rintro ⟨⟨⟩, back, rfl, h⟩
    exact ⟨back, rfl, h⟩
  · rintro ⟨back, rfl, h⟩
    exact ⟨(), back, rfl, h⟩

lemma runs_now_bind_iff {f : UInt64 → Procedure β} {out : Except Error β} :
    Runs (now >>= f) T out ↔
      ∃ t back, T = ⟨.now, t⟩ :: back ∧ Runs (f (Filetime.ofUnix t)) back out :=
  Iff.rfl

end Runs

/-! ### Clients at work -/

namespace Event

/-- The frame of the request, if there is one. -/
def frame? : Event → Option (List UInt8)
  | ⟨.send r, _⟩ => (Frame.ofEncoding r.encode).toOption
  | _ => none

lemma filterMap_frame?_cons_send (r : Request) (x : Except Error r.reply.Value) (T : List Event) :
    (⟨.send r, x⟩ :: T : List Event).filterMap frame? =
      (Frame.ofEncoding r.encode).toOption.toList ++ T.filterMap frame? := by
  have hevent : frame? ⟨.send r, x⟩ = (Frame.ofEncoding r.encode).toOption := rfl
  rw [List.filterMap_cons, hevent]
  cases (Frame.ofEncoding r.encode).toOption <;> rfl

/-- The request that was sent. -/
def request? : Event → Option Request
  | ⟨.send r, _⟩ => some r
  | _ => none

/-- A request that was answered could be encoded. -/
def Lawful : Event → Prop
  | ⟨.send r, .ok _⟩ => r.Encodable
  | _ => True

end Event

/-- What a client says when these operations are asked of it and answered by it like this. -/
inductive Carries : Client → List Event → List Dialogue.Event → Client → Prop
  | done (c : Client) : Carries c [] [] c
  | send {c mid later r x t T rest} (h : Client.Sends c r t x mid)
    (hrest : Carries mid T rest later) : Carries c (⟨.send r, x⟩ :: T) (t ++ rest) later
  | log {c later T rest} (line : LogLine) (hrest : Carries c T rest later) :
    Carries c (⟨.log line, ()⟩ :: T) rest later
  | now {c later T rest} (x : Int64) (hrest : Carries c T rest later) :
    Carries c (⟨.now, x⟩ :: T) (⟨.now, x⟩ :: rest) later

lemma says_run {α : Type} {p : Program Op Op.Answer α} {c later : Client}
    {t : List Dialogue.Event} {a : α} (h : Says ((Program.run answer p).run c) t (a, later)) :
    ∃ T, p.Runs T a ∧ Carries c T t later := by
  induction p generalizing c t with
  | done b =>
    obtain ⟨rfl, heq⟩ := says_pure_iff.mp h
    cases heq
    exact ⟨[], ⟨rfl, rfl⟩, .done _⟩
  | ask op next ih =>
    obtain ⟨⟨x, mid⟩, front, rest, hfirst, hrest, rfl⟩ := says_bind_iff.mp h
    obtain ⟨T, hruns, hcarries⟩ := ih x hrest
    refine ⟨⟨op, x⟩ :: T, ⟨x, T, rfl, hruns⟩, ?_⟩
    cases op with
    | send r => exact .send (Client.says_send hfirst) hcarries
    | log line =>
      obtain ⟨⟨⟩, _, _, hlog, hpure, rfl⟩ := says_bind_iff.mp hfirst
      obtain rfl := says_log_iff.mp hlog
      obtain ⟨rfl, heq⟩ := says_pure_iff.mp hpure
      cases heq
      exact .log line hcarries
    | now =>
      obtain ⟨y, _, _, hnow, hpure, rfl⟩ := says_bind_iff.mp hfirst
      obtain rfl := (says_perform_iff rfl).mp hnow
      obtain ⟨rfl, heq⟩ := says_pure_iff.mp hpure
      cases heq
      exact .now _ hcarries

end Procedure

/-- A client that has the connection after it sent a request had it before, and wrote the frame of
the request to it. -/
lemma Client.Sends.kept {c later : Client} {r : Request} {t : List Dialogue.Event}
    {out : Except Error r.reply.Value} {link : Link} {made : Nat} (h : Sends c r t out later)
    (hlawful : Lawful made t) (hmade : link < made) (hlater : later.link = some link) :
    c.link = some link ∧ frames link t = (Frame.ofEncoding r.encode).toOption.toList := by
  cases h with
  | notConnected h =>
    rw [h] at hlater
    cases hlater
  | answered link' hlink t value h =>
    obtain rfl : link' = link := Option.some.inj (hlink.symm.trans hlater)
    exact ⟨hlink, h.frames⟩
  | failed link' hlink front back why later h h' =>
    obtain ⟨-, hlawful⟩ := lawful_append_iff.mp hlawful
    have hmade' : link < made + Dialogue.connections front := Nat.lt_add_right _ hmade
    have hback : frames link back = [] := frames_of_apart (h'.apart hlawful hmade')
    have hkept : c.link = some link := by
      cases h' with
      | dropped why => cases hlater
      | kept why hconnection hwhy => exact hlater
      | reconnected why hwhy t out later h' =>
        cases h' with
        | failed why h' => exact hlater
        | replaced new h' =>
          -- The connection would be a new one.
          obtain rfl : new = link := Option.some.inj hlater
          rw [h'.fresh hlawful] at hmade'
          exact absurd hmade' (Nat.lt_irrefl _)
    obtain rfl : link' = link := Option.some.inj (hlink.symm.trans hkept)
    refine ⟨hkept, ?_⟩
    rw [frames_append, hback, List.append_nil]
    exact h.frames

/-- A request that was answered could be encoded. -/
lemma Client.Sends.encodable {c later : Client} {r : Request} {t : List Dialogue.Event}
    {value : r.reply.Value} (h : Sends c r t (.ok value) later) : r.Encodable := by
  cases h with
  | answered link hlink t value h =>
    obtain ⟨frame, -, -, hframe, -⟩ := h.of_ok
    exact ⟨frame, hframe⟩

namespace Procedure.Carries

variable {c later : Client} {T : List Event} {t : List Dialogue.Event}

lemma lawful (h : Carries c T t later) : ∀ e ∈ T, e.Lawful := by
  induction h with
  | done c => simp
  | @send c mid later r x t T rest h hrest ih =>
    refine List.forall_mem_cons.mpr ⟨?_, ih⟩
    cases x with
    | error why => trivial
    | ok value => exact h.encodable
  | log line hrest ih | now x hrest ih => exact List.forall_mem_cons.mpr ⟨trivial, ih⟩

/-- If the client has the connection in the end, it had it all the time, and wrote the frames of
the requests to it and nothing else. -/
lemma kept {link : Link} {made : Nat} (h : Carries c T t later) (hlawful : Dialogue.Lawful made t)
    (hmade : link < made) (hlater : later.link = some link) :
    c.link = some link ∧ frames link t = T.filterMap Event.frame? := by
  induction h generalizing made with
  | done c => exact ⟨hlater, rfl⟩
  | @send c mid later r x t T rest h hrest ih =>
    obtain ⟨hfirst, hlawful⟩ := lawful_append_iff.mp hlawful
    obtain ⟨hmid, hframes⟩ := ih hlawful (Nat.lt_add_right _ hmade) hlater
    obtain ⟨hlink, hframe⟩ := h.kept hfirst hmade hmid
    refine ⟨hlink, ?_⟩
    rw [frames_append, hframe, hframes, Event.filterMap_frame?_cons_send]
  | log line hrest ih => exact ih hlawful hmade hlater
  | now x hrest ih => exact ih hlawful.2 hmade hlater

end Procedure.Carries

end StoreRpc
