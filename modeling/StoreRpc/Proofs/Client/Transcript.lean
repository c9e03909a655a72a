import StoreRpc.Client
import StoreRpc.Proofs.Transport.Transcript

/-!
What a client says, step by step up to where it can end.
-/

namespace StoreRpc

open Transport (Calls says_call)
open Dialogue (Event Says Lawful connections connections_cons says_pure_iff says_bind_iff
  says_perform_iff says_log_iff says_exchange_bind_iff says_attempt_iff says_liftM_bind_iff
  says_log_bind_iff)

namespace Config

/-- The request that binds a connection to the store. -/
abbrev handshake (c : Config) (session : String) : Request := .connect c.store session c.isPrivate

end Config

namespace Client

variable {t : List Event}

/-- How a connection is made: it has to be bound to the store before it is handed out. -/
inductive Establishes (c : Config) : List Event → Except Error Link → Prop
  | refused (why : ConnectionError) :
    Establishes c [⟨.connect c.endpoint, .error why⟩] (.error (.connection why))
  | made (link : Link) (session : String) (t : List Event) (out : Except Error Unit)
    (h : Calls link (c.handshake session) t out) :
    Establishes c (⟨.connect c.endpoint, .ok link⟩ :: ⟨.session, session⟩ :: t)
      (out.map fun _ => link)

/-- How a client connects anew: it keeps the connection that it has until there is another. -/
inductive Reconnects (c : Client) : List Event → Except Error Unit → Client → Prop
  | failed (t : List Event) (why : Error) (h : Establishes c.config t (.error why)) :
    Reconnects c t (.error why) c
  | replaced (t : List Event) (link : Link) (h : Establishes c.config t (.ok link)) :
    Reconnects c t (.ok ()) { c with link := some link }

/-- The error makes the client connect anew. -/
def AsksReconnect (c : Config) : Error → Prop
  | .status s => s.meaning? = some .dispatchError ∧ c.autoReconnect
  | _ => False

/-- How a client goes on after a failed request. -/
inductive Recovers (c : Client) : Error → List Event → Client → Prop
  | dropped (why : ConnectionError) : Recovers c (.connection why) [] { c with link := none }
  | reconnected (why : Error) (hwhy : AsksReconnect c.config why) (t : List Event)
    (out : Except Error Unit) (later : Client) (h : Reconnects c t out later) :
    Recovers c why t later
  | kept (why : Error) (hconnection : ∀ e, why ≠ .connection e)
    (hwhy : ¬ AsksReconnect c.config why) : Recovers c why [] c

/-- How a client sends a request. -/
inductive Sends (c : Client) (r : Request) :
    List Event → Except Error r.reply.Value → Client → Prop
  | notConnected (h : c.link = none) : Sends c r [] (.error (.connection .notConnected)) c
  | answered (link : Link) (hlink : c.link = some link) (t : List Event) (value : r.reply.Value)
    (h : Calls link r t (.ok value)) : Sends c r t (.ok value) c
  | failed (link : Link) (hlink : c.link = some link) (t t' : List Event) (why : Error)
    (later : Client) (h : Calls link r t (.error why)) (h' : Recovers c why t' later) :
    Sends c r (t ++ t') (.error why) later

/-! ### Dialogues and their transcripts -/

lemma run_reconnect (c : Client) : reconnect.run c = (establish c.config).run >>= fun out =>
    match out with
    | .error why => pure (.error why, c)
    | .ok link => pure (.ok (), { c with link := some link }) := by
  unfold reconnect
  simp only [StateT.run_bind, StateT.run_get, pure_bind, StateT.run_monadLift, bind_assoc]
  refine bind_congr fun out => ?_
  cases out <;> rfl

lemma run_send (c : Client) (r : Request) : (send r).run c =
    match c.link with
    | none => pure (.error (.connection .notConnected), c)
    | some link => Dialogue.log .debug s!"Calling {r.call.name}" >>= fun _ =>
      (Transport.call link r).run >>= fun out =>
        match out with
        | .ok value => pure (.ok value, c)
        | .error why => (recover why).run c >>= fun p => pure (.error why, p.2) := by
  unfold send
  simp only [StateT.run_bind, StateT.run_get, pure_bind]
  cases c.link with
  | none => rfl
  | some link =>
    simp only [StateT.run_bind, StateT.run_monadLift, bind_assoc, pure_bind]
    refine bind_congr fun _ => bind_congr fun out => ?_
    cases out <;> rfl

lemma run_recover_status (c : Client) (s : Status) : (recover (.status s)).run c =
    if s.meaning? = some .dispatchError ∧ c.config.autoReconnect then
      Dialogue.log .warn (s.message ++ ", reconnecting") >>= fun _ => reconnect.run c >>= fun p =>
        match p.1 with
        | .ok () => pure ((), p.2)
        | .error e => Dialogue.log .warn ("Reconnect failed: " ++ e.message) >>= fun _ =>
          pure ((), p.2)
    else pure ((), c) := by
  unfold recover
  simp only [StateT.run_bind, StateT.run_get, pure_bind]
  split
  · simp only [StateT.run_bind, StateT.run_monadLift, bind_assoc, pure_bind]
    refine bind_congr fun _ => bind_congr fun p => ?_
    rcases p with ⟨_ | _, later⟩ <;> rfl
  · rfl

lemma run_disconnect (c : Client) : disconnect.run c =
    if c.isConnected then
      Dialogue.log .info s!"Disconnected from {c.config.endpoint.address}" >>= fun _ =>
        pure ((), { c with link := none })
    else pure ((), c) := by
  unfold disconnect
  simp only [StateT.run_bind, StateT.run_get, pure_bind]
  split <;> rfl

lemma says_establish {c : Config} {out : Except Error Link}
    (h : Says (establish c).run t out) : Establishes c t out := by
  rw [establish, says_log_bind_iff, says_exchange_bind_iff] at h
  obtain ⟨why, h, rfl⟩ | ⟨link, front, back, h, hrest, rfl⟩ := h <;>
    obtain ⟨x, hperform, hx⟩ := says_attempt_iff.mp h <;>
    obtain rfl := (says_perform_iff rfl).mp hperform
  · obtain why | _ := x <;> cases hx
    exact .refused why
  · obtain _ | link := x <;> cases hx
    obtain ⟨session, front, back, hsession, hcall, rfl⟩ := says_liftM_bind_iff.mp hrest
    obtain rfl := (says_perform_iff rfl).mp hsession
    rw [says_exchange_bind_iff] at hcall
    obtain ⟨why, hcall, rfl⟩ | ⟨⟨⟩, front, back, hcall, hlog, rfl⟩ := hcall
    · exact .made link session back (.error why) (says_call hcall)
    · rw [says_log_bind_iff] at hlog
      obtain ⟨rfl, rfl⟩ := says_pure_iff.mp hlog
      have hcalls := Establishes.made link session front (.ok ()) (says_call hcall)
      simpa [Except.map] using hcalls

/-- Connecting anew is making a connection, and taking it if there is one. -/
lemma says_reconnect_iff {c later : Client} {out : Except Error Unit} :
    Says (reconnect.run c) t (out, later) ↔
      (∃ why, Says (establish c.config).run t (.error why) ∧ out = .error why ∧ later = c) ∨
      ∃ link, Says (establish c.config).run t (.ok link) ∧ out = .ok () ∧
        later = { c with link := some link } := by
  rw [run_reconnect, says_bind_iff]
  constructor
  · rintro ⟨why | link, front, back, h, hpure, rfl⟩ <;>
      obtain ⟨rfl, heq⟩ := says_pure_iff.mp hpure <;>
      cases heq <;>
      rw [List.append_nil]
    · exact .inl ⟨why, h, rfl, rfl⟩
    · exact .inr ⟨link, h, rfl, rfl⟩
  · rintro (⟨why, h, rfl, rfl⟩ | ⟨link, h, rfl, rfl⟩)
    · exact ⟨_, t, [], h, says_pure_iff.mpr ⟨rfl, rfl⟩, (List.append_nil t).symm⟩
    · exact ⟨_, t, [], h, says_pure_iff.mpr ⟨rfl, rfl⟩, (List.append_nil t).symm⟩

lemma says_reconnect {c later : Client} {out : Except Error Unit}
    (h : Says (reconnect.run c) t (out, later)) : Reconnects c t out later := by
  obtain ⟨why, hopened, rfl, rfl⟩ | ⟨link, hopened, rfl, rfl⟩ := says_reconnect_iff.mp h
  · exact .failed t why (says_establish hopened)
  · exact .replaced t link (says_establish hopened)

/-- Going on after an error that asks for a new connection is to connect anew. -/
lemma says_recover_asking {c later : Client} {s : Status}
    (hs : s.meaning? = some .dispatchError ∧ c.config.autoReconnect)
    (h : Says ((recover (.status s)).run c) t ((), later)) :
    ∃ out, Says (reconnect.run c) t (out, later) := by
  rw [run_recover_status, if_pos hs] at h
  obtain ⟨⟨⟩, _, rest, hlog, hrest, rfl⟩ := says_bind_iff.mp h
  obtain rfl := says_log_iff.mp hlog
  obtain ⟨⟨out, c'⟩, front, back, hreconnect, hend, rfl⟩ := says_bind_iff.mp hrest
  have hback : back = [] ∧ c' = later := by
    obtain e | ⟨⟩ := out
    · obtain ⟨⟨⟩, _, _, hlog, hpure, rfl⟩ := says_bind_iff.mp hend
      obtain rfl := says_log_iff.mp hlog
      obtain ⟨rfl, heq⟩ := says_pure_iff.mp hpure
      exact ⟨rfl, congrArg Prod.snd heq⟩
    · obtain ⟨rfl, heq⟩ := says_pure_iff.mp hend
      exact ⟨rfl, congrArg Prod.snd heq⟩
  obtain ⟨rfl, rfl⟩ := hback
  rw [List.nil_append, List.append_nil]
  exact ⟨out, hreconnect⟩

lemma says_recover {c later : Client} {why : Error}
    (h : Says ((recover why).run c) t ((), later)) : Recovers c why t later := by
  cases why with
  | connection e =>
    obtain ⟨rfl, heq⟩ := says_pure_iff.mp h
    cases heq
    exact .dropped e
  | status s =>
    by_cases hs : s.meaning? = some .dispatchError ∧ c.config.autoReconnect
    · obtain ⟨out, hreconnect⟩ := says_recover_asking hs h
      exact .reconnected (.status s) hs t out later (says_reconnect hreconnect)
    · rw [run_recover_status, if_neg hs] at h
      obtain ⟨rfl, heq⟩ := says_pure_iff.mp h
      cases heq
      exact .kept _ (fun e he => by cases he) hs
  | encode e | decode e | value e =>
    obtain ⟨rfl, heq⟩ := says_pure_iff.mp h
    cases heq
    exact .kept _ (fun e he => by cases he) id

/-- Sending on a connection is a call on it, and going on after it if it failed. -/
lemma says_send_on {c later : Client} {r : Request} {out : Except Error r.reply.Value} {link : Link}
    (hlink : c.link = some link) (h : Says ((send r).run c) t (out, later)) :
    ∃ front back, t = front ++ back ∧ Says (Transport.call link r).run front out ∧
      ((∃ value, out = .ok value ∧ back = [] ∧ later = c) ∨
        ∃ why, out = .error why ∧ Says ((recover why).run c) back ((), later)) := by
  rw [run_send, hlink] at h
  obtain ⟨⟨⟩, _, rest, hlog, hsend, rfl⟩ := says_bind_iff.mp h
  obtain rfl := says_log_iff.mp hlog
  obtain ⟨why | value, front, back, hcall, hrest, rfl⟩ := says_bind_iff.mp hsend
  · obtain ⟨⟨⟨⟩, later⟩, back, _, hrecover, hpure, rfl⟩ := says_bind_iff.mp hrest
    obtain ⟨rfl, heq⟩ := says_pure_iff.mp hpure
    cases heq
    refine ⟨front, back, ?_, hcall, .inr ⟨why, rfl, hrecover⟩⟩
    rw [List.append_nil, List.nil_append]
  · obtain ⟨rfl, heq⟩ := says_pure_iff.mp hrest
    cases heq
    exact ⟨front, [], rfl, hcall, .inl ⟨value, rfl, rfl, rfl⟩⟩

lemma says_send {c later : Client} {r : Request} {out : Except Error r.reply.Value}
    (h : Says ((send r).run c) t (out, later)) : Sends c r t out later := by
  cases hlink : c.link with
  | none =>
    rw [run_send, hlink] at h
    obtain ⟨rfl, heq⟩ := says_pure_iff.mp h
    cases heq
    exact .notConnected hlink
  | some link =>
    obtain ⟨front, back, rfl, hcall, ⟨value, rfl, rfl, rfl⟩ | ⟨why, rfl, hrecover⟩⟩ :=
      says_send_on hlink h
    · rw [List.append_nil]
      exact .answered link hlink front value (says_call hcall)
    · exact .failed link hlink front back why later (says_call hcall) (says_recover hrecover)

/-- Dropping a connection asks nothing of the network. -/
lemma says_disconnect {c later : Client} (h : Says (disconnect.run c) t ((), later)) :
    t = [] ∧ later = { c with link := none } := by
  rw [run_disconnect] at h
  split at h
  · rw [says_bind_iff] at h
    obtain ⟨⟨⟩, front, back, hlog, hpure, rfl⟩ := h
    obtain rfl := says_log_iff.mp hlog
    obtain ⟨rfl, heq⟩ := says_pure_iff.mp hpure
    cases heq
    exact ⟨rfl, rfl⟩
  · rename_i hconnected
    obtain ⟨rfl, heq⟩ := says_pure_iff.mp h
    cases heq
    have hlink : c.link = none := by simpa [isConnected] using hconnected
    exact ⟨rfl, by rw [← hlink]⟩

/-! ### What is written where -/

variable {link : Link} {bs : List UInt8} {x : Except IoFault Unit} {before after : List Event}

namespace Establishes

variable {c : Config} {out : Except Error Link}

/-- All that is written to a new connection is the request that binds it, before anything else. -/
lemma deliver (h : Establishes c t out) (ht : t = before ++ ⟨.deliver link bs, x⟩ :: after) :
    ∃ session, before = [⟨.connect c.endpoint, .ok link⟩, ⟨.session, session⟩] ∧
      Frame.ofEncoding (c.handshake session).encode = .ok bs := by
  cases h with
  | refused why => rcases before with _ | ⟨e₁, _ | ⟨e₂, before⟩⟩ <;> cases ht
  | made link' session t' out h =>
    rcases before with _ | ⟨e₁, _ | ⟨e₂, before⟩⟩ <;> cases ht
    obtain ⟨rfl, rfl, hframe⟩ := h.deliver rfl
    exact ⟨session, rfl, hframe⟩

/-- Only the new connection is used, and lawful networks give it the next number. -/
lemma on {made : Nat} (h : Establishes c t out) (hlawful : Lawful made t) :
    ∀ e ∈ t, ∀ link, Event.link? e = some link → link = made ∧ 0 < connections t := by
  cases h with
  | refused why => simp [Event.link?]
  | made link' session t' out h =>
    obtain ⟨hmade, -⟩ := hlawful
    have hpos : 0 < connections
        (⟨.connect c.endpoint, .ok link'⟩ :: ⟨.session, session⟩ :: t') := by
      rw [connections_cons]
      exact Nat.lt_add_right _ Nat.one_pos
    intro e he link hused
    simp only [List.mem_cons] at he
    obtain rfl | rfl | he := he
    · cases hused
    · cases hused
    · have hlink : link' = link := Option.some.inj ((h.on e he).1.symm.trans hused)
      exact ⟨hlink ▸ hmade, hpos⟩

end Establishes

lemma Reconnects.establishes {c later : Client} {out : Except Error Unit}
    (h : Reconnects c t out later) : ∃ made, Establishes c.config t made := by
  cases h with
  | failed why h => exact ⟨.error why, h⟩
  | replaced link h => exact ⟨.ok link, h⟩

/-- What is written when a request is sent is its frame, on the current connection and before
anything else, or the request that binds the next one. -/
lemma Sends.deliver {c later : Client} {r : Request} {out : Except Error r.reply.Value}
    (h : Sends c r t out later) (ht : t = before ++ ⟨.deliver link bs, x⟩ :: after) :
    (c.link = some link ∧ before = [] ∧ Frame.ofEncoding r.encode = .ok bs) ∨
      ∃ front current why session, c.link = some current ∧ Calls current r front (.error why) ∧
        before = front ++ [⟨.connect c.config.endpoint, .ok link⟩, ⟨.session, session⟩] ∧
        Frame.ofEncoding (c.config.handshake session).encode = .ok bs := by
  cases h with
  | notConnected h => rcases before with _ | ⟨e₁, before⟩ <;> cases ht
  | answered current hlink t value h =>
    obtain ⟨rfl, rfl, hframe⟩ := h.deliver ht
    exact .inl ⟨hlink, rfl, hframe⟩
  | failed current hlink front back why later h h' =>
    obtain ⟨after', hfront⟩ | ⟨before', rfl, hback⟩ := Dialogue.split_append ht
    · obtain ⟨rfl, rfl, hframe⟩ := h.deliver hfront
      exact .inl ⟨hlink, rfl, hframe⟩
    · cases h' with
      | dropped why => rcases before' with _ | ⟨e₁, before'⟩ <;> cases hback
      | kept why hconnection hwhy => rcases before' with _ | ⟨e₁, before'⟩ <;> cases hback
      | reconnected why hwhy t out later h' =>
        obtain ⟨made, hmade⟩ := h'.establishes
        obtain ⟨session, rfl, hframe⟩ := hmade.deliver hback
        exact .inr ⟨front, current, why, session, hlink, h, rfl, hframe⟩

end Client

end StoreRpc
