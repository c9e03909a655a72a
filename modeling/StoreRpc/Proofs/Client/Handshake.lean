import StoreRpc.Proofs.Client.Transcript

/-!
A connection is bound to the store before it is used.

Connections are told apart by their numbers, so that a connection which was just made is one that
nothing was written to. Whatever the network answers, a client holds on to such a connection only
if its first request, the one that binds it, was answered in full.
-/

namespace StoreRpc

open Dialogue (Event Says Lawful connections connections_append connections_le_append
  lawful_append_iff says_bind_iff says_pure_iff)
open Transport (Receives Writes Calls)

/-! ### Histories -/

/-- What can be done with a client. -/
inductive Action
  /-- Make a client, in place of the one there is. -/
  | make (config : Config)
  | send (r : Request)
  | reconnect
  | disconnect

/-- Carries the action out. There is a new client only if it is connected. -/
def Action.perform : Action → Option Client → Dialogue (Option Client)
  | make config, _ => do
    match ← Client.reconnect.run ⟨config, none⟩ with
    | (.ok (), c) => return some c
    | (.error _, _) => return none
  | send r, some c => do return some (← (Client.send r).run c).2
  | reconnect, some c => do return some (← Client.reconnect.run c).2
  | disconnect, some c => do return some (← Client.disconnect.run c).2
  | _, none => return none

/-- The client after some actions, and what was said in them. -/
inductive History : Option Client → List Event → Prop
  | start : History none []
  | step {client later : Option Client} {past t : List Event} (h : History client past)
    (a : Action) (ht : Says (a.perform client) t later) : History later (past ++ t)

/-- The connection was made for the store, the first that was written to it was the request that
binds it, and all of the reply to that was read, with the status 0. -/
def Handshaken (c : Config) (past : List Event) (link : Link) : Prop :=
  ∃ before after session frame header payload,
    past = before ++ [⟨.connect c.endpoint, .ok link⟩, ⟨.session, session⟩,
      ⟨.deliver link frame, .ok ()⟩, ⟨.flush link, .ok ()⟩, ⟨.receive link 1, .ok [0]⟩,
      ⟨.receive link 4, .ok header⟩, ⟨.receive link (Word.ofLe header), .ok payload⟩] ++ after ∧
    (∀ e ∈ before, Event.link? e ≠ some link) ∧
    Frame.ofEncoding (c.handshake session).encode = .ok frame ∧
    header.length = 4 ∧ payload.length = Word.ofLe header

namespace Handshaken

variable {c : Config} {past : List Event} {link : Link}

lemma append (h : Handshaken c past link) (t : List Event) : Handshaken c (past ++ t) link := by
  obtain ⟨before, after, session, frame, header, payload, rfl, hrest⟩ := h
  refine ⟨before, after ++ t, session, frame, header, payload, ?_, hrest⟩
  simp only [List.append_assoc]

/-- The connection has been written to. -/
lemma touched (h : Handshaken c past link) : ∃ e ∈ past, Event.link? e = some link := by
  obtain ⟨before, after, session, frame, header, payload, rfl, -⟩ := h
  exact ⟨⟨.deliver link frame, .ok ()⟩, by simp, rfl⟩

end Handshaken

/-! ### Connections in use have been made -/

/-- All connections that were used are numbered below those that will be made. -/
def Known (past : List Event) : Prop :=
  ∀ e ∈ past, ∀ link, Event.link? e = some link → link < connections past

namespace Known

variable {past t : List Event} {link : Link}

/-- Nothing has been done yet on the next connection. -/
lemma fresh (h : Known past) (hlink : link = connections past) :
    ∀ e ∈ past, Event.link? e ≠ some link := by
  intro e he hused
  have hlt := h e he link hused
  rw [hlink] at hlt
  exact Nat.lt_irrefl _ hlt

lemma append (h : Known past)
    (ht : ∀ e ∈ t, ∀ link, Event.link? e = some link → link < connections (past ++ t)) :
    Known (past ++ t) := by
  intro e he link hused
  obtain he | he := List.mem_append.mp he
  · exact Nat.lt_of_lt_of_le (h e he link hused) (connections_le_append past t)
  · exact ht e he link hused

/-- Using a connection that was made. -/
lemma append_on (h : Known past) (hlink : link < connections past)
    (ht : ∀ e ∈ t, Event.link? e = some link ∧ Event.connects e = false) : Known (past ++ t) := by
  refine h.append fun e he link' hused => ?_
  obtain rfl : link = link' := Option.some.inj ((ht e he).1.symm.trans hused)
  exact Nat.lt_of_lt_of_le hlink (connections_le_append past t)

/-- Making a connection and using it. -/
lemma append_establishes {c : Config} {out : Except Error Link} (h : Known past)
    (ht : Client.Establishes c t out) (hlawful : Lawful 0 (past ++ t)) : Known (past ++ t) := by
  obtain ⟨-, hlawful⟩ := lawful_append_iff.mp hlawful
  rw [Nat.zero_add] at hlawful
  refine h.append fun e he link hused => ?_
  rw [connections_append]
  obtain ⟨hlink, hmade⟩ := ht.on hlawful e he link hused
  rw [hlink]
  exact Nat.lt_add_of_pos_right hmade

end Known

/-! ### The invariant -/

namespace Handshaken

variable {c : Config} {past t : List Event} {link : Link}

/-- A connection that is handed out has been bound. -/
lemma of_establishes (hpast : Known past) (h : Client.Establishes c t (.ok link))
    (hlawful : Lawful 0 (past ++ t)) : Handshaken c (past ++ t) link := by
  obtain ⟨-, hlawful⟩ := lawful_append_iff.mp hlawful
  rw [Nat.zero_add] at hlawful
  generalize hout : Except.ok link = out at h
  cases h with
  | refused why => cases hout
  | made link' session t out h =>
    obtain _ | ⟨⟩ := out <;> cases hout
    obtain ⟨frame, header, payload, hframe, rfl, -⟩ := h.of_ok
    obtain ⟨hmade, -, -, -, -, hheader, hpayload, -⟩ := hlawful
    exact ⟨past, [], session, frame, header, payload, by rw [List.append_nil],
      hpast.fresh hmade, hframe, hheader, hpayload⟩

end Handshaken

/-- The invariant of all histories. -/
structure Sound (client : Option Client) (past : List Event) : Prop where
  known : Known past
  handshaken : ∀ c, client = some c → ∀ link, c.link = some link → Handshaken c.config past link

namespace Sound

variable {c later : Client} {past t : List Event} {client : Option Client}

lemma of_known (h : Known past) : Sound none past := ⟨h, fun _ hc => nomatch hc⟩

/-- A client that kept its connection, or has none. -/
lemma append (h : Sound (some c) past) (hknown : Known (past ++ t))
    (hconfig : later.config = c.config) (hlink : later.link = c.link ∨ later.link = none) :
    Sound (some later) (past ++ t) := by
  refine ⟨hknown, fun c' hc' link hc'link => ?_⟩
  cases hc'
  obtain hlink | hlink := hlink
  · rw [hconfig]
    exact (h.handshaken c rfl link (hlink ▸ hc'link)).append t
  · cases hlink.symm.trans hc'link

/-- The current connection has been made. -/
lemma link_lt (h : Sound (some c) past) {link : Link} (hlink : c.link = some link) :
    link < connections past := by
  obtain ⟨e, he, hused⟩ := (h.handshaken c rfl link hlink).touched
  exact h.known e he link hused

lemma reconnects {out : Except Error Unit} (h : Sound (some c) past)
    (ht : Client.Reconnects c t out later) (hlawful : Lawful 0 (past ++ t)) :
    Sound (some later) (past ++ t) := by
  obtain ⟨made, hmade⟩ := ht.establishes
  have hknown := h.known.append_establishes hmade hlawful
  cases ht with
  | failed why ht => exact h.append hknown rfl (.inl rfl)
  | replaced link ht =>
    refine ⟨hknown, fun c' hc' link' hlink' => ?_⟩
    cases hc'
    cases hlink'
    exact .of_establishes h.known ht hlawful

lemma recovers {why : Error} (h : Sound (some c) past) (ht : Client.Recovers c why t later)
    (hlawful : Lawful 0 (past ++ t)) : Sound (some later) (past ++ t) := by
  cases ht with
  | dropped why =>
    have hknown : Known (past ++ []) := (List.append_nil past).symm ▸ h.known
    exact h.append hknown rfl (.inr rfl)
  | reconnected why hwhy t out later ht => exact h.reconnects ht hlawful
  | kept why hconnection hwhy => exact (List.append_nil past).symm ▸ h

lemma calls {link : Link} {r : Request} {out : Except Error r.reply.Value}
    (h : Sound (some c) past) (hlink : c.link = some link) (ht : Transport.Calls link r t out) :
    Sound (some c) (past ++ t) :=
  h.append (h.known.append_on (h.link_lt hlink) ht.on) rfl (.inl rfl)

lemma sends {r : Request} {out : Except Error r.reply.Value} (h : Sound (some c) past)
    (ht : Client.Sends c r t out later) (hlawful : Lawful 0 (past ++ t)) :
    Sound (some later) (past ++ t) := by
  cases ht with
  | notConnected hlink => exact (List.append_nil past).symm ▸ h
  | answered link hlink t value ht => exact h.calls hlink ht
  | failed link hlink front back why later ht ht' =>
    rw [← List.append_assoc] at hlawful ⊢
    exact (h.calls hlink ht).recovers ht' hlawful

/-- A client is made from one that has no connection. -/
lemma make {config : Config} {client' : Option Client} (h : Sound client past)
    (ht : Says ((Action.make config).perform client) t client') (hlawful : Lawful 0 (past ++ t)) :
    Sound client' (past ++ t) := by
  have hstart : Sound (some ⟨config, none⟩) past :=
    ⟨h.known, fun c hc link hlink => by cases hc; cases hlink⟩
  obtain ⟨⟨out, later⟩, front, back, hreconnect, hend, rfl⟩ := says_bind_iff.mp ht
  have hreconnects := Client.says_reconnect hreconnect
  obtain why | ⟨⟩ := out
  · obtain ⟨rfl, rfl⟩ := says_pure_iff.mp hend
    rw [List.append_nil] at hlawful ⊢
    exact .of_known (hstart.reconnects hreconnects hlawful).known
  · obtain ⟨rfl, rfl⟩ := says_pure_iff.mp hend
    rw [List.append_nil] at hlawful ⊢
    exact hstart.reconnects hreconnects hlawful

/-- Every action keeps the invariant. -/
lemma perform {a : Action} {client' : Option Client} (h : Sound client past)
    (ht : Says (a.perform client) t client') (hlawful : Lawful 0 (past ++ t)) :
    Sound client' (past ++ t) := by
  cases client with
  | none =>
    cases a with
    | make config => exact h.make ht hlawful
    | send r | reconnect | disconnect =>
      obtain ⟨rfl, rfl⟩ := says_pure_iff.mp ht
      exact (List.append_nil past).symm ▸ h
  | some c =>
    cases a with
    | make config => exact h.make ht hlawful
    | send r =>
      obtain ⟨⟨out, later⟩, front, back, hsend, hpure, rfl⟩ := says_bind_iff.mp ht
      obtain ⟨rfl, rfl⟩ := says_pure_iff.mp hpure
      rw [List.append_nil] at hlawful ⊢
      exact h.sends (Client.says_send hsend) hlawful
    | reconnect =>
      obtain ⟨⟨out, later⟩, front, back, hreconnect, hpure, rfl⟩ := says_bind_iff.mp ht
      obtain ⟨rfl, rfl⟩ := says_pure_iff.mp hpure
      rw [List.append_nil] at hlawful ⊢
      exact h.reconnects (Client.says_reconnect hreconnect) hlawful
    | disconnect =>
      obtain ⟨⟨⟨⟩, later⟩, front, back, hdisconnect, hpure, rfl⟩ := says_bind_iff.mp ht
      obtain ⟨rfl, rfl⟩ := says_pure_iff.mp hpure
      obtain ⟨rfl, rfl⟩ := Client.says_disconnect hdisconnect
      have hknown : Known (past ++ ([] ++ [])) := by simpa using h.known
      exact h.append hknown rfl (.inr rfl)

end Sound

/-- Every history keeps the invariant. -/
theorem History.sound {client : Option Client} {past : List Event} (h : History client past)
    (hlawful : Lawful 0 past) : Sound client past := by
  induction h with
  | start => exact .of_known fun e he => by cases he
  | step h a ht ih => exact (ih (lawful_append_iff.mp hlawful).1).perform ht hlawful

/-- **Handshake before use.** However the network answers: the connection that a client has is
one that was bound to its store. What is written when a request is sent is the frame of that
request, on such a connection, or the request that binds a connection on which nothing was done
before. And without a connection nothing is asked of the network. -/
theorem Client.handshake_before_use {c : Client} {past : List Event}
    (history : History (some c) past) (hpast : Lawful 0 past) :
    (∀ link, c.link = some link → Handshaken c.config past link) ∧
    ∀ (r : Request) (t : List Event) (out : Except Error r.reply.Value) (later : Client),
      Says ((send r).run c) t (out, later) → Lawful 0 (past ++ t) →
      (∀ before link bs x after, t = before ++ ⟨.deliver link bs, x⟩ :: after →
        (Frame.ofEncoding r.encode = .ok bs ∧ c.link = some link ∧ before = [] ∧
          Handshaken c.config past link) ∨
        ∃ session, Frame.ofEncoding (c.config.handshake session).encode = .ok bs ∧
          ⟨.connect c.config.endpoint, .ok link⟩ ∈ before ∧
          ∀ e ∈ past ++ before, Event.link? e ≠ some link) ∧
      (c.link = none → t = [] ∧ out = .error (.connection .notConnected) ∧ later = c) := by
  have hsound := history.sound hpast
  refine ⟨hsound.handshaken c rfl, fun r t out later hsaid hlawful => ?_⟩
  have hsends := says_send hsaid
  constructor
  · intro before link bs x after ht
    obtain ⟨hlink, rfl, hframe⟩ | ⟨front, current, why, session, hlink, hcalls, rfl, hframe⟩ :=
      hsends.deliver ht
    · exact .inl ⟨hframe, hlink, rfl, hsound.handshaken c rfl link hlink⟩
    · have hknown := (hsound.calls hlink hcalls).known
      have hwhole : past ++ t = (past ++ front) ++ (⟨.connect c.config.endpoint, .ok link⟩ ::
          ⟨.session, session⟩ :: ⟨.deliver link bs, x⟩ :: after) := by
        rw [ht]
        simp
      rw [hwhole, lawful_append_iff, Nat.zero_add] at hlawful
      obtain ⟨-, hmade, -⟩ := hlawful
      refine .inr ⟨session, hframe, by simp, fun e he => ?_⟩
      rw [← List.append_assoc, List.mem_append] at he
      obtain he | he := he
      · exact hknown.fresh hmade e he
      · obtain rfl | rfl := by simpa using he
        · exact nofun
        · exact nofun
  · intro hlink
    cases hsends with
    | notConnected h => exact ⟨rfl, rfl, rfl⟩
    | answered link h t value ht => cases hlink.symm.trans h
    | failed link h front back why later ht ht' => cases hlink.symm.trans h

/-- A client that is bound to its store and then refused. -/
theorem Client.handshake_before_use_refused :
    let config := Config.new "host" 1 "/u"
    let c : Client := ⟨config, some 0⟩
    let r : Request := .getStoreTags "/u"
    ∃ past t, History (some c) past ∧ Lawful 0 past ∧
      Says ((send r).run c) t (.error (.status ⟨3⟩), c) ∧ Lawful 0 (past ++ t) ∧
      Handshaken config past 0 ∧
      ∀ bs x after, t = ⟨.deliver 0 bs, x⟩ :: after → Frame.ofEncoding r.encode = .ok bs := by
  intro config c r
  let n := Network.ofScript [.stream (.ofBytes [0, 0, 0, 0, 0, 3])] .writeStopped "session" 0
  obtain ⟨past, hmake, hpast, hlength⟩ := n.exists_transcript ((Action.make config).perform none)
  obtain ⟨t, hsend, ht, -⟩ :=
    (n.run ((Action.make config).perform none)).2.exists_transcript ((send r).run c)
  have hc : (n.run ((Action.make config).perform none)).1 = some c := by decide +kernel
  have hrefused : ((n.run ((Action.make config).perform none)).2.run ((send r).run c)).1 =
      (.error (.status ⟨3⟩), c) := by decide +kernel
  rw [hc] at hmake
  rw [hrefused] at hsend
  have history : History (some c) past := .step .start (.make config) hmake
  have hlawful : Lawful 0 (past ++ t) := lawful_append_iff.mpr ⟨hpast, hlength ▸ ht⟩
  obtain ⟨hshaken, hsends⟩ := handshake_before_use history hpast
  refine ⟨past, t, history, hpast, hsend, hlawful, hshaken 0 rfl, fun bs x after hdeliver => ?_⟩
  obtain ⟨hframe, -⟩ | ⟨-, -, hmem, -⟩ :=
    (hsends r t _ c hsend hlawful).1 [] 0 bs x after hdeliver
  · exact hframe
  · cases hmem

end StoreRpc
