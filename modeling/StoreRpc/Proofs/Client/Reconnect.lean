import StoreRpc.Proofs.Client.Transcript
import StoreRpc.Proofs.Request.Unambiguous
import StoreRpc.Proofs.Wire.Frame

/-!
Sending a request, and connecting anew after it.

A request is sent once, on the connection that the client has. Whatever is done about its failure
is done on another connection, and changes neither what the caller is told nor the connection that
the request was sent on.
-/

namespace StoreRpc

open Dialogue (Event Says Lawful attempts frames attempts_append frames_append frames_of_apart
  lawful_append_iff says_pure_iff says_bind_iff)
open Transport (Receives Writes Calls says_call)

/-! ### The request that binds a connection -/

/-- Only one request has the frame that binds a connection. -/
lemma Request.eq_connect_of_frame {r : Request} {store session : String} {isPrivate : Bool}
    {frame : List UInt8} (hr : Frame.ofEncoding r.encode = .ok frame)
    (hconnect : Frame.ofEncoding (connect store session isPrivate).encode = .ok frame) :
    r = .connect store session isPrivate := by
  have hx := Frame.ofEncoding_eq_ok hr
  have hy := Frame.ofEncoding_eq_ok hconnect
  obtain ⟨hcall, -⟩ := call_eq_of_encode (s := []) hx hy rfl
  have hgood (a b : String) (p : Bool) :
      (connect a b p).WellTyped ∧ (connect a b p).Complete := by
    simp [WellTyped, Complete, Arguments.All, Argument.WellTyped, Argument.Complete, call,
      Call.signature, arguments]
  cases r <;> cases hcall
  obtain ⟨hsame, -⟩ := prefixFree _ _ _ _ [] [] (hgood ..) (hgood ..) hx hy rfl
  exact congrArg Prod.snd hsame

namespace Client

variable {t : List Event} {link : Link}

namespace Establishes

variable {c : Config} {out : Except Error Link}

lemma attempts (h : Establishes c t out) : attempts t = [c.endpoint] := by
  cases h with
  | refused why => rfl
  | made link session t out h =>
    change c.endpoint :: Dialogue.attempts t = _
    rw [h.attempts]

/-- All that is written to a new connection is the request that binds it. -/
lemma frames (h : Establishes c t out) (link : Link) :
    frames link t = [] ∨ ∃ session frame,
      Frame.ofEncoding (c.handshake session).encode = .ok frame ∧ frames link t = [frame] := by
  cases h with
  | refused why => exact .inl rfl
  | made link' session t out h =>
    change Dialogue.frames link t = [] ∨ ∃ _ frame, _ ∧ Dialogue.frames link t = [frame]
    by_cases hlink : link = link'
    · subst hlink
      rw [h.frames]
      cases hframe : Frame.ofEncoding (c.handshake session).encode with
      | error why => exact .inl rfl
      | ok frame => exact .inr ⟨session, frame, hframe, rfl⟩
    · exact .inl (h.frames_other hlink)

/-- Connections that were made before are not used. -/
lemma apart {made : Nat} (h : Establishes c t out) (hlawful : Lawful made t) (hmade : link < made) :
    ∀ e ∈ t, Event.link? e ≠ some link := by
  intro e he hused
  obtain ⟨rfl, -⟩ := h.on hlawful e he link hused
  exact Nat.lt_irrefl _ hmade

/-- A new connection has the next number. -/
lemma fresh {made : Nat} (h : Establishes c t (.ok link)) (hlawful : Lawful made t) :
    link = made := by
  generalize hout : Except.ok link = out at h
  cases h with
  | refused why => cases hout
  | made link' session t out h =>
    obtain _ | ⟨⟩ := out <;> cases hout
    exact hlawful.1

end Establishes

/-! ### The law of sending -/

/-- The outcome that makes the client connect anew. -/
def Redials {α : Type} (c : Config) (out : Except Error α) : Prop :=
  out = .error (.status ⟨8⟩) ∧ c.autoReconnect = true

/-- How sending a request on a connection goes: the call in front, and what follows it. -/
structure SendLaw (c : Client) (link : Link) (r : Request) (front back : List Event)
    (out : Except Error r.reply.Value) (later : Client) : Prop where
  /-- The caller is told what the one call came to. -/
  call : Says (Transport.call link r).run front out
  callAttempts : attempts front = []
  redial : Redials c.config out → attempts back = [c.config.endpoint]
  noRedial : ¬ Redials c.config out → back = []
  /-- The connection that the request was sent on is not used again. -/
  apart : ∀ e ∈ back, Event.link? e ≠ some link
  /-- On any other connection there is one frame at most, which is not that of the request unless
  the request is the very one that binds the connection. -/
  others : ∀ new ≠ link, frames new (front ++ back) = [] ∨ ∃ session frame,
    frames new (front ++ back) = [frame] ∧
      Frame.ofEncoding (c.config.handshake session).encode = .ok frame ∧
      (Frame.ofEncoding r.encode = .ok frame → r = c.config.handshake session)
  /-- A connection that was made and bound replaces the current one, which is kept otherwise. -/
  replaced : Redials c.config out →
    (∃ why, Says (establish c.config).run back (.error why) ∧ later = c) ∨
    ∃ new, Says (establish c.config).run back (.ok new) ∧ new ≠ link ∧
      later = { c with link := some new }
  dropped : ∀ why, out = .error (.connection why) → later = { c with link := none }
  kept : ¬ Redials c.config out → (∀ why, out ≠ .error (.connection why)) → later = c
  /-- The client is left without a connection by an error of the connection only. -/
  disconnected : later.link = none ↔ ∃ why, out = .error (.connection why)

lemma meaning?_eq_dispatchError_iff {s : Status} :
    s.meaning? = some .dispatchError ↔ s = ⟨8⟩ := by
  constructor
  · intro h
    have hcode := List.find?_some h
    exact congrArg Status.mk (beq_iff_eq.mp hcode).symm
  · rintro rfl
    rfl

lemma asksReconnect_iff {c : Config} {α : Type} {why : Error} :
    AsksReconnect c why ↔ Redials c (.error why : Except Error α) := by
  cases why with
  | status s =>
    rw [AsksReconnect, Redials, meaning?_eq_dispatchError_iff]
    simp
  | connection e | encode e | decode e | value e => simp [AsksReconnect, Redials]

namespace SendLaw

variable {c later : Client} {r : Request} {front back : List Event}
  {out : Except Error r.reply.Value}

/-- Nothing follows the call. -/
lemma silent (hlink : c.link = some link) (hcall : Says (Transport.call link r).run front out)
    (hredials : ¬ Redials c.config out)
    (hlater : (∃ why, out = .error (.connection why)) ∧ later = { c with link := none } ∨
      (∀ why, out ≠ .error (.connection why)) ∧ later = c) :
    SendLaw c link r front [] out later where
  call := hcall
  callAttempts := (says_call hcall).attempts
  redial h := absurd h hredials
  noRedial _ := rfl
  apart := by simp
  others new hnew := by
    rw [List.append_nil]
    exact .inl ((says_call hcall).frames_other hnew)
  replaced h := absurd h hredials
  dropped why hwhy := by
    obtain ⟨-, hlater⟩ | ⟨hconnection, -⟩ := hlater
    · exact hlater
    · exact absurd hwhy (hconnection why)
  kept _ hconnection := by
    obtain ⟨⟨why, hwhy⟩, -⟩ | ⟨-, hlater⟩ := hlater
    · exact absurd hwhy (hconnection why)
    · exact hlater
  disconnected := by
    obtain ⟨hwhy, rfl⟩ | ⟨hconnection, rfl⟩ := hlater
    · exact iff_of_true rfl hwhy
    · exact iff_of_false (by simp [hlink]) fun ⟨why, hwhy⟩ => hconnection why hwhy

/-- The call is followed by an attempt to connect anew. -/
lemma redialed {made : Nat} {s : Status} {connected : Except Error Unit}
    (hlink : c.link = some link) (hmade : link < made) (hlawful : Lawful made (front ++ back))
    (hcall : Says (Transport.call link r).run front (.error (.status s)))
    (hredials : Redials c.config (.error (.status s) : Except Error r.reply.Value))
    (hback : Says (reconnect.run c) back (connected, later)) :
    SendLaw c link r front back (.error (.status s)) later := by
  have hcalls := says_call hcall
  obtain ⟨opened, hopened⟩ := (says_reconnect hback).establishes
  obtain ⟨-, hlawful⟩ := lawful_append_iff.mp hlawful
  have hnext : link < made + Dialogue.connections front := Nat.lt_add_right _ hmade
  refine
    { call := hcall
      callAttempts := hcalls.attempts
      redial := fun _ => hopened.attempts
      noRedial := fun h => absurd hredials h
      apart := hopened.apart hlawful hnext
      others := ?others
      replaced := fun _ => ?replaced
      dropped := nofun
      kept := fun h => absurd hredials h
      disconnected := ?disconnected }
  case others =>
    intro new hnew
    rw [frames_append, hcalls.frames_other hnew, List.nil_append]
    obtain hnone | ⟨session, frame, hframe, hone⟩ := hopened.frames new
    · exact .inl hnone
    · exact .inr ⟨session, frame, hone, hframe, fun hr => Request.eq_connect_of_frame hr hframe⟩
  case replaced =>
    obtain ⟨why, h, -, hlater⟩ | ⟨new, h, -, hlater⟩ := says_reconnect_iff.mp hback
    · exact .inl ⟨why, h, hlater⟩
    · refine .inr ⟨new, h, fun hnew => ?_, hlater⟩
      rw [← hnew, (says_establish h).fresh hlawful] at hnext
      exact Nat.lt_irrefl _ hnext
  case disconnected =>
    refine iff_of_false (fun hnone => ?_) nofun
    obtain ⟨why, -, -, rfl⟩ | ⟨new, -, -, rfl⟩ := says_reconnect_iff.mp hback
    · rw [hlink] at hnone
      cases hnone
    · cases hnone

end SendLaw

lemma says_send_law {c later : Client} {r : Request} {made : Nat}
    {out : Except Error r.reply.Value} (hlink : c.link = some link) (hmade : link < made)
    (hlawful : Lawful made t) (h : Says ((send r).run c) t (out, later)) :
    ∃ front back, t = front ++ back ∧ SendLaw c link r front back out later := by
  obtain ⟨front, back, rfl, hcall, ⟨value, rfl, rfl, rfl⟩ | ⟨why, rfl, hrecover⟩⟩ :=
    says_send_on hlink h
  · exact ⟨front, [], rfl, .silent hlink hcall nofun (.inr ⟨nofun, rfl⟩)⟩
  · by_cases hredials : Redials c.config (.error why : Except Error r.reply.Value)
    · obtain ⟨⟨⟩, hauto⟩ := id hredials
      obtain ⟨connected, hback⟩ :=
        says_recover_asking ⟨meaning?_eq_dispatchError_iff.mpr rfl, hauto⟩ hrecover
      exact ⟨front, back, rfl, .redialed hlink hmade hlawful hcall hredials hback⟩
    · cases says_recover hrecover with
      | dropped e => exact ⟨front, [], rfl, .silent hlink hcall hredials (.inl ⟨⟨e, rfl⟩, rfl⟩)⟩
      | reconnected why hwhy => exact absurd (asksReconnect_iff.mp hwhy) hredials
      | kept why hconnection =>
        refine ⟨front, [], rfl, .silent hlink hcall hredials (.inr ⟨fun e he => ?_, rfl⟩)⟩
        cases he
        exact hconnection e rfl

/-! ### Sending in a scripted network -/

/-- Going on after a failed request leaves the connections alone that there are. -/
lemma Recovers.apart {c later : Client} {why : Error} {made : Nat} (h : Recovers c why t later)
    (hlawful : Lawful made t) (hmade : link < made) : ∀ e ∈ t, Event.link? e ≠ some link := by
  cases h with
  | dropped | kept => simp
  | reconnected why hwhy t out later h =>
    obtain ⟨opened, hopened⟩ := h.establishes
    exact hopened.apart hlawful hmade

/-- The stream of the connection is where the call left it. -/
lemma run_send_on {c : Client} (hlink : c.link = some link) (r : Request) {n : Network}
    (hmade : link < n.links.length) :
    (n.run ((send r).run c)).1.1 = (n.run (Transport.call link r).run).1 ∧
      (n.run ((send r).run c)).2.stream link =
        (n.run (Transport.call link r).run).2.stream link := by
  let line : LogLine := ⟨.debug, s!"Calling {r.call.name}"⟩
  obtain ⟨_, -, -, hlength⟩ := n.exists_transcript (Transport.call link r).run
  obtain ⟨lines, hcall⟩ := n.run_logged (line :: n.logged) (Transport.call link r).run
  have hlog : n.run (Dialogue.log .debug s!"Calling {r.call.name}") =
      ((), { n with logged := line :: n.logged }) := rfl
  rw [run_send, hlink]
  simp only [Network.run_bind, hlog, hcall]
  cases (n.run (Transport.call link r).run).1 with
  | ok value => exact ⟨rfl, rfl⟩
  | error why =>
    let n' : Network := { (n.run (Transport.call link r).run).2 with logged := lines }
    obtain ⟨t, hsays, hlawful, -, hapart⟩ := n'.exists_transcript_apart ((recover why).run c)
    have hmade' : link < n'.links.length :=
      Nat.lt_of_lt_of_le hmade (hlength ▸ Nat.le_add_right ..)
    simp only [Network.run_bind]
    exact ⟨rfl, hapart link hmade' ((says_recover hsays).apart hlawful hmade')⟩

/-- **A request is sent once, and what follows is done elsewhere.** Sending on a connection tells
what the one call on it came to. If that is the status 8 and the client is to reconnect, there is
one attempt to connect, and none otherwise. All that a new connection can get is the request that
binds it. The connection in use is replaced by a new one, kept where it is if there is none, and
dropped after an error of the connection only. -/
theorem send_law :
    (∀ (c later : Client) (link : Link) (r : Request) (made : Nat) (t : List Event)
      (out : Except Error r.reply.Value), c.link = some link → link < made → Lawful made t →
      Says ((send r).run c) t (out, later) →
        ∃ front back, t = front ++ back ∧ SendLaw c link r front back out later) ∧
    ∀ (c : Client) (link : Link) (r : Request) (n : Network), c.link = some link →
      link < n.links.length →
        (n.run ((send r).run c)).1.1 = (n.run (Transport.call link r).run).1 ∧
          (n.run ((send r).run c)).2.stream link =
            (n.run (Transport.call link r).run).2.stream link :=
  ⟨fun _ _ _ _ _ _ _ hlink hmade hlawful h => says_send_law hlink hmade hlawful h,
    fun _ _ r _ hlink hmade => run_send_on hlink r hmade⟩

/-- The server does not take the new connection, and the old one is kept with a byte still to
come. -/
theorem send_law_refused :
    let config := (Config.new "host" 1 "/u").withAutoReconnect true
    let c : Client := ⟨config, some 0⟩
    let r : Request := .getStoreTags "/u"
    let n : Network :=
      { Network.ofScript [.stream (.ofBytes [4])] .writeStopped "session" 0 with
        links := [.ofBytes [8, 7]] }
    ∃ t, Says ((send r).run c) t (.error (.status ⟨8⟩), c) ∧ attempts t = [config.endpoint] ∧
      (∀ frame, frames 1 t = [frame] → Frame.ofEncoding r.encode ≠ .ok frame) ∧
      ((n.run ((send r).run c)).2.stream 0).undelivered = [7] := by
  intro config c r n
  obtain ⟨t, hsays, hlawful, -⟩ := n.exists_transcript ((send r).run c)
  have hout : (n.run ((send r).run c)).1 = (.error (.status ⟨8⟩), c) := by decide +kernel
  rw [hout] at hsays
  obtain ⟨hlaw, hstream⟩ := send_law
  obtain ⟨front, back, rfl, h⟩ := hlaw c c 0 r 1 t _ rfl Nat.one_pos hlawful hsays
  have hredials : Redials config (.error (.status ⟨8⟩) : Except Error r.reply.Value) :=
    ⟨rfl, by decide⟩
  refine ⟨front ++ back, hsays, ?_, fun frame hframe hr => ?_, ?_⟩
  · rw [attempts_append, h.callAttempts, h.redial hredials]
    rfl
  · obtain hnone | ⟨session, frame', hone, -, hsame⟩ := h.others 1 (by decide)
    · rw [hnone] at hframe
      cases hframe
    · obtain rfl : frame' = frame := by simpa [hone] using hframe
      have hconnect : Request.getStoreTags "/u" = config.handshake session := hsame hr
      cases hconnect
  · rw [(hstream c 0 r n rfl Nat.one_pos).2]
    decide +kernel

end Client

end StoreRpc
