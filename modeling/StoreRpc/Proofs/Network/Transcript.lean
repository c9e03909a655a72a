import StoreRpc.Proofs.Network.Run
import StoreRpc.Proofs.Program.Transcript

/-!
Transcripts of dialogues.

What is logged is left out of them. Apart from that any network may answer as it likes, as long as
it numbers the connections and hands out as many bytes as it was asked for.
-/

namespace StoreRpc

open Network (Op)
open Transport (Exchange)

namespace Dialogue

abbrev Event : Type := Program.Event Op Op.Answer

namespace Event

def isLog : Event → Bool
  | ⟨.log _, _⟩ => true
  | _ => false

/-- The connection that is written to or read from. -/
def link? : Event → Option Link
  | ⟨.deliver link _, _⟩ => some link
  | ⟨.flush link, _⟩ => some link
  | ⟨.receive link _, _⟩ => some link
  | _ => none

/-- A connection was made. -/
def connects : Event → Bool
  | ⟨.connect _, .ok _⟩ => true
  | _ => false

/-- What can be answered after so many connections were made. -/
def Lawful (made : Nat) : Event → Prop
  | ⟨.connect _, .ok link⟩ => link = made
  | ⟨.receive _ count, .ok bs⟩ => bs.length = count
  | _ => True

end Event

/-- How many connections were made. -/
def connections (t : List Event) : Nat := t.countP Event.connects

/-- What a network can have answered, after so many connections were made. -/
def Lawful : Nat → List Event → Prop
  | _, [] => True
  | made, e :: t => e.Lawful made ∧ Lawful (made + e.connects.toNat) t

/-- The dialogue comes to a value with these operations and answers, but for what it logs. -/
def Says {α : Type} (d : Dialogue α) (t : List Event) (a : α) : Prop :=
  ∃ whole, d.Runs whole a ∧ t = whole.filter fun e : Event => !e.isLog

section Says

variable {α β : Type} {t : List Event}

lemma says_pure_iff {a b : α} : Says (pure a) t b ↔ t = [] ∧ a = b := by
  constructor
  · rintro ⟨_, ⟨rfl, rfl⟩, rfl⟩
    exact ⟨rfl, rfl⟩
  · rintro ⟨rfl, rfl⟩
    exact ⟨[], ⟨rfl, rfl⟩, rfl⟩

lemma says_bind_iff {d : Dialogue α} {f : α → Dialogue β} {b : β} :
    Says (d >>= f) t b ↔
      ∃ a front back, Says d front a ∧ Says (f a) back b ∧ t = front ++ back := by
  constructor
  · rintro ⟨_, h, rfl⟩
    obtain ⟨a, front, back, hfront, hback, rfl⟩ := Program.runs_bind_iff.mp h
    exact ⟨a, _, _, ⟨front, hfront, rfl⟩, ⟨back, hback, rfl⟩, List.filter_append ..⟩
  · rintro ⟨a, _, _, ⟨front, hfront, rfl⟩, ⟨back, hback, rfl⟩, rfl⟩
    refine ⟨front ++ back, Program.runs_bind_iff.mpr ⟨a, front, back, hfront, hback, rfl⟩, ?_⟩
    rw [List.filter_append]

lemma says_perform_iff {op : Op} {x : op.Answer} (hop : Event.isLog ⟨op, x⟩ = false) :
    Says (perform op) t x ↔ t = [⟨op, x⟩] := by
  constructor
  · rintro ⟨_, h, rfl⟩
    rw [Program.runs_perform_iff.mp h, List.filter_cons_of_pos (by rw [hop]; rfl), List.filter_nil]
  · rintro rfl
    refine ⟨[⟨op, x⟩], Program.runs_perform_iff.mpr rfl, ?_⟩
    rw [List.filter_cons_of_pos (by rw [hop]; rfl), List.filter_nil]

lemma says_log_iff {level : LogLevel} {text : String} {u : Unit} :
    Says (log level text) t u ↔ t = [] := by
  constructor
  · rintro ⟨_, h, rfl⟩
    rw [Program.runs_perform_iff.mp h]
    rfl
  · rintro rfl
    exact ⟨[⟨.log ⟨level, text⟩, ()⟩], Program.runs_perform_iff.mpr rfl, rfl⟩

/-- A step whose error ends the exchange. -/
lemma says_exchange_bind_iff {m : Exchange α} {f : α → Exchange β} {out : Except Error β} :
    Says (m >>= f).run t out ↔
      (∃ why, Says m.run t (.error why) ∧ out = .error why) ∨
      ∃ a front back, Says m.run front (.ok a) ∧ Says (f a).run back out ∧ t = front ++ back := by
  change Says (m.run >>= ExceptT.bindCont f) t out ↔ _
  rw [says_bind_iff]
  constructor
  · rintro ⟨why | a, front, back, hm, hf, rfl⟩
    · obtain ⟨rfl, rfl⟩ := says_pure_iff.mp hf
      exact .inl ⟨why, by rwa [List.append_nil], rfl⟩
    · exact .inr ⟨a, front, back, hm, hf, rfl⟩
  · rintro (⟨why, hm, rfl⟩ | ⟨a, front, back, hm, hf, rfl⟩)
    · exact ⟨.error why, t, [], hm, says_pure_iff.mpr ⟨rfl, rfl⟩, (List.append_nil t).symm⟩
    · exact ⟨.ok a, front, back, hm, hf, rfl⟩

lemma says_attempt_iff {ε : Type} {wrap : ε → Error} {d : Dialogue (Except ε α)}
    {out : Except Error α} :
    Says (Transport.attempt wrap d).run t out ↔ ∃ x, Says d t x ∧ out = x.mapError wrap := by
  change Says (d >>= fun x => pure (x.mapError wrap)) t out ↔ _
  rw [says_bind_iff]
  constructor
  · rintro ⟨x, front, back, hd, hpure, rfl⟩
    obtain ⟨rfl, rfl⟩ := says_pure_iff.mp hpure
    exact ⟨x, by rwa [List.append_nil], rfl⟩
  · rintro ⟨x, hd, rfl⟩
    exact ⟨x, t, [], hd, says_pure_iff.mpr ⟨rfl, rfl⟩, (List.append_nil t).symm⟩

/-- A step that cannot fail. -/
lemma says_liftM_bind_iff {d : Dialogue α} {f : α → Exchange β} {out : Except Error β} :
    Says (liftM d >>= f).run t out ↔
      ∃ a front back, Says d front a ∧ Says (f a).run back out ∧ t = front ++ back := by
  rw [← says_bind_iff]
  change Says ((d >>= fun a => pure (.ok a)) >>= ExceptT.bindCont f) t out ↔ _
  rw [bind_assoc]
  rfl

lemma says_log_bind_iff {level : LogLevel} {text : String} {f : Unit → Exchange β}
    {out : Except Error β} :
    Says (liftM (log level text) >>= f).run t out ↔ Says (f ()).run t out := by
  rw [says_liftM_bind_iff]
  constructor
  · rintro ⟨u, front, back, hlog, hf, rfl⟩
    obtain rfl := says_log_iff.mp hlog
    exact hf
  · intro hf
    exact ⟨(), [], t, says_log_iff.mpr rfl, hf, rfl⟩

end Says

/-- What is said in two steps is said in one of them. -/
lemma split_append {front back before after : List Event} {e : Event}
    (h : front ++ back = before ++ e :: after) :
    (∃ after', front = before ++ e :: after') ∨
      ∃ before', before = front ++ before' ∧ back = before' ++ e :: after := by
  obtain ⟨more, hbefore, hback⟩ | ⟨more, rfl, hmore⟩ := List.append_eq_append_iff.mp h
  · exact .inr ⟨more, hbefore, hback⟩
  · cases more with
    | nil => exact .inr ⟨[], by simp, hmore.symm⟩
    | cons e' more =>
      cases hmore
      exact .inl ⟨more, rfl⟩

/-! ### Lawful transcripts -/

lemma connections_append (t t' : List Event) :
    connections (t ++ t') = connections t + connections t' :=
  List.countP_append

lemma connections_le_append (t t' : List Event) : connections t ≤ connections (t ++ t') := by
  rw [connections_append]
  exact Nat.le_add_right _ _

lemma connections_cons (e : Event) (t : List Event) :
    connections (e :: t) = e.connects.toNat + connections t := by
  unfold connections
  cases he : e.connects
  · rw [List.countP_cons_of_neg (by simp [he])]
    simp
  · rw [List.countP_cons_of_pos he, Nat.add_comm]
    rfl

lemma Event.connects_of_isLog {e : Event} (h : e.isLog = true) : e.connects = false := by
  rcases e with ⟨_ | _ | _ | _ | _ | _ | _, x⟩ <;> first | rfl | cases h

lemma Event.link?_of_isLog {e : Event} (h : e.isLog = true) : e.link? = none := by
  rcases e with ⟨_ | _ | _ | _ | _ | _ | _, x⟩ <;> first | rfl | cases h

lemma lawful_append_iff {made : Nat} {t t' : List Event} :
    Lawful made (t ++ t') ↔ Lawful made t ∧ Lawful (made + connections t) t' := by
  induction t generalizing made with
  | nil => simp [Lawful, connections]
  | cons e t ih =>
    simp only [List.cons_append, Lawful, ih, connections_cons, Nat.add_assoc, and_assoc]

/-! ### Attempts and frames -/

namespace Event

/-- Where a connection was to be made. -/
def endpoint? : Event → Option Endpoint
  | ⟨.connect e, _⟩ => some e
  | _ => none

/-- What was to be written to the connection. -/
def frame? (link : Link) : Event → Option (List UInt8)
  | ⟨.deliver link' bs, _⟩ => if link' = link then some bs else none
  | _ => none

lemma endpoint?_of_link? {e : Event} {link : Link} (h : e.link? = some link) :
    e.endpoint? = none := by
  rcases e with ⟨_ | _ | _ | _ | _ | _ | _, x⟩ <;> first | rfl | cases h

lemma frame?_of_link? {e : Event} {link : Link} (h : e.link? ≠ some link) :
    e.frame? link = none := by
  rcases e with ⟨_ | ⟨link', bs⟩ | _ | _ | _ | _ | _, x⟩ <;> try rfl
  exact if_neg fun hlink => h (congrArg some hlink)

end Event

/-- Where connections were to be made. -/
def attempts (t : List Event) : List Endpoint := t.filterMap Event.endpoint?

/-- What was to be written to the connection, frame by frame. -/
def frames (link : Link) (t : List Event) : List (List UInt8) := t.filterMap (Event.frame? link)

lemma attempts_append (t t' : List Event) : attempts (t ++ t') = attempts t ++ attempts t' :=
  List.filterMap_append

lemma frames_cons (link : Link) (e : Event) (t : List Event) :
    frames link (e :: t) = (e.frame? link).toList ++ frames link t := by
  rw [frames, List.filterMap_cons]
  cases e.frame? link <;> rfl

lemma frames_append (link : Link) (t t' : List Event) :
    frames link (t ++ t') = frames link t ++ frames link t' :=
  List.filterMap_append

lemma frames_of_apart {link : Link} {t : List Event} (h : ∀ e ∈ t, Event.link? e ≠ some link) :
    frames link t = [] :=
  List.filterMap_eq_nil_iff.mpr fun e he => Event.frame?_of_link? (h e he)

/-- What is logged is not written. -/
lemma frames_filter_isLog (link : Link) (t : List Event) :
    frames link (t.filter fun e => !e.isLog) = frames link t := by
  rw [frames, List.filterMap_filter]
  refine congrArg (List.filterMap · t) (funext fun e => ?_)
  cases hlog : e.isLog with
  | false => rfl
  | true => exact (Event.frame?_of_link? (Event.link?_of_isLog hlog ▸ nofun)).symm

end Dialogue

/-! ### Scripted networks -/

namespace Network

open Dialogue (Lawful connections)

/-- An operation is answered lawfully, and connections are kept in the order they were made. -/
lemma answer_lawful (n : Network) (op : Op) :
    Dialogue.Event.Lawful n.links.length ⟨op, (answer op n).1⟩ ∧
      (answer op n).2.links.length =
        n.links.length + (Dialogue.Event.connects ⟨op, (answer op n).1⟩).toNat := by
  cases op with
  | connect e =>
    simp only [answer, connect]
    rcases n.script.head? with _ | ⟨s | _ | _ | _ | _⟩ <;>
      simp [Dialogue.Event.Lawful, Dialogue.Event.connects]
  | deliver link bs =>
    simp only [answer]
    rcases (n.stream link).deliver bs with ⟨taken, _ | fault, s⟩ <;>
      simp [Dialogue.Event.Lawful, Dialogue.Event.connects, setStream]
  | flush link =>
    simp only [answer]
    rcases (n.stream link).flush with _ | fault <;>
      simp [Dialogue.Event.Lawful, Dialogue.Event.connects]
  | receive link count =>
    simp only [answer]
    rcases hreceive : (n.stream link).receive count with ⟨fault | bs, s⟩
    · simp [Dialogue.Event.Lawful, Dialogue.Event.connects, setStream]
    · have hlength := Stream.length_receive hreceive
      simp [Dialogue.Event.Lawful, Dialogue.Event.connects, setStream, hlength]
  | log line => exact ⟨trivial, rfl⟩
  | session => exact ⟨trivial, rfl⟩
  | now => exact ⟨trivial, rfl⟩

/-- A connection that an operation does not use stays as it is. -/
lemma stream_answer {n : Network} {op : Op} {link : Link} (hmade : link < n.links.length)
    (hunused : Dialogue.Event.link? ⟨op, (answer op n).1⟩ ≠ some link) :
    (answer op n).2.stream link = n.stream link := by
  have hother (link' : Link) (s : Stream) (hne : link' ≠ link) :
      (n.setStream link' s).stream link = n.stream link := by
    simp [stream, setStream, List.getD_eq_getElem?_getD, List.getElem?_set_ne hne]
  cases op with
  | connect e =>
    simp only [answer, connect]
    rcases n.script.head? with _ | ⟨s | _ | _ | _ | _⟩ <;>
      simp [stream, List.getD_eq_getElem?_getD, List.getElem?_append_left hmade]
  | deliver link' bs =>
    have hne : link' ≠ link := fun h => hunused (congrArg some h)
    simp only [answer]
    rcases (n.stream link').deliver bs with ⟨taken, _ | fault, s⟩ <;> exact hother link' s hne
  | flush link' =>
    simp only [answer]
    rcases (n.stream link').flush with _ | fault <;> rfl
  | receive link' count =>
    have hne : link' ≠ link := fun h => hunused (congrArg some h)
    exact hother link' _ hne
  | log line => rfl
  | session => rfl
  | now => rfl

/-- What is said in a scripted network is lawful, and leaves the connections alone that are not
used in it. -/
theorem exists_transcript_apart {α : Type} (n : Network) (d : Dialogue α) :
    ∃ t, d.Says t (n.run d).1 ∧ Lawful n.links.length t ∧
      (n.run d).2.links.length = n.links.length + connections t ∧
      ∀ link < n.links.length, (∀ e ∈ t, Dialogue.Event.link? e ≠ some link) →
        (n.run d).2.stream link = n.stream link := by
  induction d generalizing n with
  | done a => exact ⟨[], ⟨[], ⟨rfl, rfl⟩, rfl⟩, trivial, rfl, fun _ _ _ => rfl⟩
  | ask op next ih =>
    obtain ⟨hlawful, hlength⟩ := n.answer_lawful op
    obtain ⟨_, ⟨whole, hruns, rfl⟩, hrest, hconnections, hapart⟩ :=
      ih (answer op n).1 (answer op n).2
    have hrun : n.run (.ask op next) = (answer op n).2.run (next (answer op n).1) := rfl
    have hmore : n.links.length ≤ (answer op n).2.links.length := hlength ▸ Nat.le_add_right ..
    let e : Dialogue.Event := ⟨op, (answer op n).1⟩
    refine ⟨_, ⟨e :: whole, ⟨_, whole, rfl, hrun ▸ hruns⟩, rfl⟩, ?_⟩
    rw [hrun, hconnections, hlength]
    cases hlog : e.isLog with
    | false =>
      rw [List.filter_cons_of_pos (by simp [hlog]), Dialogue.connections_cons]
      refine ⟨⟨hlawful, hlength ▸ hrest⟩, Nat.add_assoc .., fun link hmade hunused => ?_⟩
      obtain ⟨hfirst, hrest⟩ := List.forall_mem_cons.mp hunused
      rw [hapart link (Nat.lt_of_lt_of_le hmade hmore) hrest, stream_answer hmade hfirst]
    | true =>
      have hconnects : e.connects.toNat = 0 := by rw [Dialogue.Event.connects_of_isLog hlog]; rfl
      rw [hconnects, Nat.add_zero] at hlength
      rw [hlength] at hrest
      rw [List.filter_cons_of_neg (by simp [hlog]), hconnects]
      refine ⟨hrest, rfl, fun link hmade hunused => ?_⟩
      have hfirst : e.link? ≠ some link := by
        rw [Dialogue.Event.link?_of_isLog hlog]
        exact nofun
      rw [hapart link (Nat.lt_of_lt_of_le hmade hmore) hunused, stream_answer hmade hfirst]

/-- What is said in a scripted network is lawful. -/
theorem exists_transcript {α : Type} (n : Network) (d : Dialogue α) :
    ∃ t, d.Says t (n.run d).1 ∧ Lawful n.links.length t ∧
      (n.run d).2.links.length = n.links.length + connections t := by
  obtain ⟨t, hsays, hlawful, hlength, -⟩ := n.exists_transcript_apart d
  exact ⟨t, hsays, hlawful, hlength⟩

end Network

end StoreRpc
