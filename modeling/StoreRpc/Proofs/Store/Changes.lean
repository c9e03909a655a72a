import StoreRpc.Proofs.Store.NewFolder
import StoreRpc.Proofs.Store.Replies
import StoreRpc.Store.DeviceSync

/-!
Changes that take several requests.

A folder is cleared after it was looked up, and created after the number of its change was brought.
Each request needs what the one before it told, so that the first that fails is the last. A client
that goes on to connect anew after it does so on its own account: all that the new connection gets
is the request that binds it.
-/

namespace StoreRpc

open Dialogue (Says attempts frames attempts_append frames_append)
open Transport (Calls)

/-! ### Clients at work on a procedure that stops -/

/-- A request that was answered leaves the client as it is. -/
lemma Client.Sends.of_ok {c later : Client} {r : Request} {t : List Dialogue.Event}
    {value : r.reply.Value} (h : Sends c r t (.ok value) later) :
    later = c ∧ ∃ link, c.link = some link ∧ Calls link r t (.ok value) := by
  cases h with
  | answered link hlink t value h => exact ⟨rfl, link, hlink, h⟩

/-- A call writes to the connection of the client, and to no other. -/
lemma Transport.Calls.frames_eq {c : Client} {link : Link} {r : Request} {t : List Dialogue.Event}
    {out : Except Error r.reply.Value} (h : Calls link r t out) (hlink : c.link = some link)
    (link' : Link) : Dialogue.frames link' t =
      if c.link = some link' then (Frame.ofEncoding r.encode).toOption.toList else [] := by
  rw [hlink]
  by_cases hsame : link = link'
  · subst hsame
    rw [if_pos rfl, h.frames]
  · rw [if_neg fun heq => hsame (Option.some.inj heq)]
    exact h.frames_other (Ne.symm hsame)

namespace Client.Recovers

variable {c later : Client} {why : Error} {t : List Dialogue.Event}

lemma redial (h : Recovers c why t later) :
    t = [] ∨ attempts t = [c.config.endpoint] ∧ AsksReconnect c.config why := by
  cases h with
  | dropped why | kept why hconnection hwhy => exact .inl rfl
  | reconnected why hwhy t out later h =>
    obtain ⟨made, hmade⟩ := h.establishes
    exact .inr ⟨hmade.attempts, hwhy⟩

/-- What is written after a failure is the request that binds a new connection. -/
lemma deliver {before after : List Dialogue.Event} {link : Link} {bs : List UInt8}
    {x : Except IoFault Unit} (h : Recovers c why t later)
    (ht : t = before ++ ⟨.deliver link bs, x⟩ :: after) :
    ∃ session, before = [⟨.connect c.config.endpoint, .ok link⟩, ⟨.session, session⟩] ∧
      Frame.ofEncoding (c.config.handshake session).encode = .ok bs := by
  cases h with
  | dropped why | kept why hconnection hwhy => simp at ht
  | reconnected why hwhy t out later h =>
    obtain ⟨made, hmade⟩ := h.establishes
    exact hmade.deliver ht

end Client.Recovers

namespace Procedure

/-- All requests were answered, or the last one failed and its error is what the procedure comes
to. -/
inductive Stops {α : Type} : List Event → Except Error α → Prop
  | done {T : List Event} (a : α) (h : ∀ e ∈ T, e.Served) : Stops T (.ok a)
  | failed (front : List Event) (r : Request) (why : Error) (h : ∀ e ∈ front, e.Served) :
    Stops (front ++ [⟨.send r, .error why⟩]) (.error why)

namespace Stops

variable {α : Type} {T : List Event} {out : Except Error α}

lemma nil (a : α) : Stops [] (.ok a) := .done a (List.forall_mem_nil _)

lemma refused (r : Request) (why : Error) :
    Stops [⟨.send r, .error why⟩] (.error why : Except Error α) :=
  .failed [] r why (List.forall_mem_nil _)

/-- One more event in front, which is no request that failed. -/
lemma cons {e : Event} (he : e.Served) (h : Stops T out) : Stops (e :: T) out := by
  cases h with
  | done a hT => exact .done a (List.forall_mem_cons.mpr ⟨he, hT⟩)
  | failed front r why hfront =>
    exact .failed (e :: front) r why (List.forall_mem_cons.mpr ⟨he, hfront⟩)

end Stops

namespace Carries

variable {c later : Client} {T T' : List Event} {t : List Dialogue.Event}

lemma of_append (h : Carries c (T ++ T') t later) :
    ∃ mid front back, t = front ++ back ∧ Carries c T front mid ∧ Carries mid T' back later := by
  induction T generalizing c t with
  | nil => exact ⟨c, [], t, rfl, .done c, h⟩
  | cons e T ih =>
    cases h with
    | send h hrest =>
      obtain ⟨mid, front, back, rfl, hfront, hback⟩ := ih hrest
      exact ⟨mid, _, back, (List.append_assoc ..).symm, .send h hfront, hback⟩
    | log line hrest =>
      obtain ⟨mid, front, back, rfl, hfront, hback⟩ := ih hrest
      exact ⟨mid, front, back, rfl, .log line hfront, hback⟩
    | now x hrest =>
      obtain ⟨mid, front, back, rfl, hfront, hback⟩ := ih hrest
      exact ⟨mid, _, back, rfl, .now x hfront, hback⟩

/-- As long as no request fails the client keeps its connection, and the frames of the requests are
all that it writes. -/
lemma of_served (h : Carries c T t later) (hT : ∀ e ∈ T, e.Served) :
    later = c ∧ attempts t = [] ∧
      ∀ link, frames link t = if c.link = some link then T.filterMap Event.frame? else [] := by
  induction h with
  | done c => exact ⟨rfl, rfl, fun link => by simp [frames]⟩
  | @send c mid later r x t T rest h hrest ih =>
    obtain ⟨hx, hrest'⟩ := List.forall_mem_cons.mp hT
    cases x with
    | error why => exact hx.elim
    | ok value =>
      obtain ⟨rfl, link, hlink, hcall⟩ := h.of_ok
      obtain ⟨rfl, hattempts, hframes⟩ := ih hrest'
      refine ⟨rfl, ?_, fun link' => ?_⟩
      · rw [attempts_append, hcall.attempts, hattempts, List.append_nil]
      · rw [frames_append, hcall.frames_eq hlink, hframes, Event.filterMap_frame?_cons_send]
        split_ifs <;> rfl
  | log line hrest ih => exact ih (List.forall_mem_cons.mp hT).2
  | now x hrest ih => exact ih (List.forall_mem_cons.mp hT).2

end Carries

/-- A procedure that stops, as a client carries it out: what is said for its requests, and what is
said after them. -/
structure Halts {α : Type} (c : Client) (T : List Event) (asked after : List Dialogue.Event)
    (out : Except Error α) (later : Client) : Prop where
  stops : Stops T out
  carries : Carries c T (asked ++ after) later
  /-- The requests are written one after another to the connection that the client has. -/
  requests : ∀ link, frames link asked =
    if c.link = some link then T.filterMap Event.frame? else []
  noAttempt : attempts asked = []
  /-- There is one attempt to connect at most, after an error that asks for it. -/
  redial : after = [] ∨ attempts after = [c.config.endpoint] ∧
    ∃ why, out = .error why ∧ Client.AsksReconnect c.config why
  /-- What is written after the requests is the one that binds the new connection. -/
  handshake : ∀ before link bs x rest, after = before ++ ⟨.deliver link bs, x⟩ :: rest →
    ∃ session, before = [⟨.connect c.config.endpoint, .ok link⟩, ⟨.session, session⟩] ∧
      Frame.ofEncoding (c.config.handshake session).encode = .ok bs

namespace Halts

variable {α : Type} {c later : Client} {T : List Event} {t asked after : List Dialogue.Event}
  {out : Except Error α}

/-- Nothing is said after the requests. -/
lemma silent (hstops : Stops T out) (h : Carries c T asked later) (hattempts : attempts asked = [])
    (hframes : ∀ link, frames link asked =
      if c.link = some link then T.filterMap Event.frame? else []) :
    Halts c T asked [] out later where
  stops := hstops
  carries := by rwa [List.append_nil]
  requests := hframes
  noAttempt := hattempts
  redial := .inl rfl
  handshake before link bs x rest h := by simp at h

end Halts

/-- Whatever is answered, nothing is asked after the request that failed. -/
lemma Stops.halts {α : Type} {c later : Client} {T : List Event} {t : List Dialogue.Event}
    {out : Except Error α} (hstops : Stops T out) (h : Carries c T t later) :
    ∃ asked after, t = asked ++ after ∧ Halts c T asked after out later := by
  cases hstops with
  | done a hT =>
    obtain ⟨-, hattempts, hframes⟩ := h.of_served hT
    exact ⟨t, [], (List.append_nil t).symm, .silent (.done a hT) h hattempts hframes⟩
  | failed before r why hfront =>
    have hstops : Stops (before ++ [⟨.send r, .error why⟩]) (.error why : Except Error α) :=
      .failed before r why hfront
    obtain ⟨mid, front, _, rfl, hserved, hlast⟩ := h.of_append
    obtain ⟨rfl, hattempts, hframes⟩ := hserved.of_served hfront
    cases hlast with
    | send hsend hdone =>
      cases hdone
      rw [List.append_nil] at h ⊢
      cases hsend with
      | notConnected hlink =>
        -- There was no connection from the beginning, so that nothing is said at all.
        refine ⟨front, [], rfl, .silent hstops (by simpa using h) hattempts fun link => ?_⟩
        rw [hframes, hlink]
        simp
      | failed link hlink call back _ _ hcall hrecovers =>
        -- The failed call still belongs to the requests, what the client says then does not.
        have hasked : attempts (front ++ call) = [] := by
          rw [attempts_append, hattempts, hcall.attempts, List.append_nil]
        have hrequests (link' : Link) : frames link' (front ++ call) =
            if mid.link = some link' then
              (before ++ [⟨.send r, .error why⟩] : List Event).filterMap Event.frame? else [] := by
          rw [frames_append, hframes, hcall.frames_eq hlink, List.filterMap_append,
            Event.filterMap_frame?_cons_send, List.filterMap_nil, List.append_nil]
          split_ifs <;> rfl
        refine ⟨front ++ call, back, (List.append_assoc ..).symm, ?_⟩
        exact
          { stops := hstops
            carries := by rwa [List.append_assoc]
            requests := hrequests
            noAttempt := hasked
            redial := hrecovers.redial.imp_right fun ⟨h, hasks⟩ => ⟨h, why, rfl, hasks⟩
            handshake := fun _ _ _ _ _ hback => hrecovers.deliver hback }

end Procedure

/-! ### A folder that is cleared -/

namespace DeviceSync

open Procedure (Event Runs Stops)

/-- How the folder of a device is cleared: it is looked up below the common folder, and that before
it. -/
inductive Clears (home folderName device : String) : List Event → Except Error Unit → Prop
  | noCommon (why : Error) : Clears home folderName device
      [⟨.send (.getFolderByName home (PublicFolder.id PublicFolder.root) folderName), .error why⟩]
      (.error why)
  | noFolder (common : UInt64) (why : Error) : Clears home folderName device
      [⟨.send (.getFolderByName home (PublicFolder.id PublicFolder.root) folderName), .ok common⟩,
        ⟨.send (.getFolderByName home common device), .error why⟩] (.error why)
  | asked (common folder : UInt64) (x : Except Error Bool) : Clears home folderName device
      [⟨.send (.getFolderByName home (PublicFolder.id PublicFolder.root) folderName), .ok common⟩,
        ⟨.send (.getFolderByName home common device), .ok folder⟩,
        ⟨.send (.emptyFolder home 0 "" folder (Folder.deleteMessages ||| Folder.deleteFolders)),
          x⟩] (x.map fun _ => ())

/-- The requests that clear a folder, if the lookups tell these two. -/
def plan (home folderName device : String) (common folder : UInt64) : List Request :=
  [.getFolderByName home (PublicFolder.id PublicFolder.root) folderName,
    .getFolderByName home common device,
    .emptyFolder home 0 "" folder (Folder.deleteMessages ||| Folder.deleteFolders)]

variable {home folderName device : String} {T : List Event} {out : Except Error Unit}

lemma runs_reset (h : Runs (reset home folderName device) T out) :
    Clears home folderName device T out := by
  unfold reset at h
  obtain ⟨why, rfl, rfl⟩ | ⟨common, _, rfl, hfolder⟩ := Procedure.runs_send_bind_iff.mp h
  · exact .noCommon why
  obtain ⟨why, rfl, rfl⟩ | ⟨folder, _, rfl, hempty⟩ := Procedure.runs_send_bind_iff.mp hfolder
  · exact .noFolder common why
  obtain ⟨why, rfl, rfl⟩ | ⟨done, _, rfl, hpure⟩ := Procedure.runs_send_bind_iff.mp hempty
  · exact .asked common folder (.error why)
  obtain ⟨rfl, rfl⟩ := Procedure.runs_pure_iff.mp hpure
  exact .asked common folder (.ok done)

lemma Clears.stops (h : Clears home folderName device T out) : Stops T out := by
  cases h with
  | noCommon why => exact .refused _ why
  | noFolder common why => exact .cons trivial (.refused _ why)
  | asked common folder x =>
    cases x with
    | error why => exact .cons trivial (.cons trivial (.refused _ why))
    | ok done => exact .cons trivial (.cons trivial (.cons trivial (.nil ())))

lemma Clears.requests (h : Clears home folderName device T out) :
    ∃ common folder, T.filterMap Event.request? <+: plan home folderName device common folder := by
  cases h with
  | noCommon why => exact ⟨0, 0, _, rfl⟩
  | noFolder common why => exact ⟨common, 0, _, rfl⟩
  | asked common folder x => exact ⟨common, folder, _, rfl⟩

end DeviceSync

/-! ### A folder that is created -/

namespace Folder

lemma Creates.stops {home : String} {domain : UInt32} {name container comment : String}
    {T : List Procedure.Event} {out : Except Error UInt64}
    (h : Creates home domain name container comment T out) : Procedure.Stops T out := by
  cases h with
  | noNumber why => exact .refused _ why
  | refused number now why => exact .cons trivial (.cons trivial (.refused _ why))
  | created number now folder line =>
    exact .cons trivial (.cons trivial (.cons trivial (.cons trivial (.nil folder))))

end Folder

/-! ### The first failure is the end -/

namespace Procedure

/-- **A change stops at the first request that fails.** Whatever is answered, the folder of a device
is cleared only after it was found below the common folder, which was found before, and a folder is
created only with the number that the server told for it. The requests are the first ones of those
that the change takes, and all that a client writes for them. If one fails, its error is what the
change comes to, and nothing is written after it but the request that binds a new connection. -/
theorem changes_halt :
    (∀ (home folderName device : String) (c later : Client) (t : List Dialogue.Event)
      (out : Except Error Unit),
      Says ((run (DeviceSync.reset home folderName device)).run c) t (out, later) →
        ∃ T asked after, t = asked ++ after ∧ Halts c T asked after out later ∧
          DeviceSync.Clears home folderName device T out ∧
          ∃ common folder,
            T.filterMap Event.request? <+: DeviceSync.plan home folderName device common folder) ∧
    ∀ (home : String) (domain : UInt32) (name container comment : String) (c later : Client)
      (t : List Dialogue.Event) (out : Except Error UInt64),
      Says ((run (Folder.create home domain name container comment)).run c) t
          (out, later) →
        ∃ T asked after, t = asked ++ after ∧ Halts c T asked after out later ∧
          Folder.Creates home domain name container comment T out ∧
          (∃ ps, T.filterMap Event.request? <+: Folder.plan home ps) ∧
          ∀ number : UInt64, ⟨.send (.allocateChangeNumber home), .ok number⟩ ∈ T →
            ∃ ps, T.filterMap Event.request? = Folder.plan home ps ∧
              ps.filter (fun p => p.tag = Tag.changeNumber) =
                [⟨Tag.changeNumber, .longLong, .longLong number⟩] := by
  refine ⟨fun home folderName device c later t out h => ?_,
    fun home domain name container comment c later t out h => ?_⟩
  · obtain ⟨T, hruns, hcarries⟩ := says_run h
    have hclears := DeviceSync.runs_reset hruns
    obtain ⟨asked, after, ht, hhalts⟩ := hclears.stops.halts hcarries
    exact ⟨T, asked, after, ht, hhalts, hclears, hclears.requests⟩
  · obtain ⟨T, hruns, hcarries⟩ := says_run h
    have hcreates := Folder.runs_create hruns
    obtain ⟨asked, after, ht, hhalts⟩ := hcreates.stops.halts hcarries
    refine ⟨T, asked, after, ht, hhalts, hcreates, hcreates.requests, ?_⟩
    intro number hnumber
    obtain ⟨now, hrequests⟩ := hcreates.asks hnumber
    have hmem : ⟨Tag.changeNumber, .longLong, .longLong number⟩ ∈
        Folder.newProperties domain name container comment number now := by
      simp [Folder.newProperties, Folder.commonProperties]
    exact ⟨_, hrequests, Folder.filter_tag domain name container comment number now hmem⟩

/-- The server loses the client after the first lookup, and the new connection works; on another
network a folder is created. -/
theorem changes_halt_reconnected :
    let c : Client := ⟨(Config.new "host" 1 "/d").withAutoReconnect true, some 0⟩
    let bound : Stream := .ofBytes [0, 0, 0, 0, 0]
    let n : Network := { Network.ofScript [.stream bound] .writeStopped "" 0 with
      links := [.ofBytes [0, 8, 0, 0, 0, 7, 0, 0, 0, 0, 0, 0, 0, 8]] }
    let n' : Network := { Network.ofScript [] .writeStopped "" 0 with
      links := [.ofBytes
        [0, 8, 0, 0, 0, 7, 0, 0, 0, 0, 0, 0, 0, 0, 8, 0, 0, 0, 9, 0, 0, 0, 0, 0, 0, 0]] }
    (∃ T asked after, Halts c T asked after (.error (.status ⟨8⟩) : Except Error Unit)
        { c with link := some 1 } ∧
      DeviceSync.Clears "/d" "f" "d" T (.error (.status ⟨8⟩)) ∧
      (n.run ((run (DeviceSync.reset "/d" "f" "d")).run c)).1 =
        (.error (.status ⟨8⟩), { c with link := some 1 })) ∧
    ∃ T asked after, Halts c T asked after (.ok 9 : Except Error UInt64) c ∧
      Folder.Creates "/d" 1 "n" "" "" T (.ok 9) ∧
      (n'.run ((run (Folder.create "/d" 1 "n" "" "")).run c)).1 = (.ok 9, c) := by
  intro c bound n n'
  obtain ⟨hclear, hcreate⟩ := changes_halt
  constructor
  · obtain ⟨t, hsays, -⟩ := n.exists_transcript ((run (DeviceSync.reset "/d" "f" "d")).run c)
    have hout : (n.run ((run (DeviceSync.reset "/d" "f" "d")).run c)).1 =
        (.error (.status ⟨8⟩), { c with link := some 1 }) := by decide +kernel
    rw [hout] at hsays
    obtain ⟨T, asked, after, -, hhalts, hclears, -⟩ := hclear _ _ _ _ _ _ _ hsays
    exact ⟨T, asked, after, hhalts, hclears, hout⟩
  · obtain ⟨t, hsays, -⟩ := n'.exists_transcript ((run (Folder.create "/d" 1 "n" "" "")).run c)
    have hout : (n'.run ((run (Folder.create "/d" 1 "n" "" "")).run c)).1 = (.ok 9, c) := by
      decide +kernel
    rw [hout] at hsays
    obtain ⟨T, asked, after, -, hhalts, hcreates, -⟩ := hcreate _ _ _ _ _ _ _ _ _ hsays
    exact ⟨T, asked, after, hhalts, hcreates, hout⟩

end Procedure

end StoreRpc
