import StoreRpc.Proofs.Store.DeviceStates
import StoreRpc.Proofs.Store.Replies
import StoreRpc.Proofs.Message.Grammar
import StoreRpc.Proofs.Request.Checks

/-!
The states of devices, by the replies of the server.

What is asked depends on what was told before. A row that is not just a folder and its name is
passed over, and so is a device in whose folder there is no message with a readable state; each of
these has its own number of requests. What is found last for a name is its state.
-/

namespace StoreRpc

/-! ### Values by their tags -/

namespace Propval

lemma Readable.eq_longLong {p : Propval} (hp : p.Readable)
    (htag : PropType.codeOfTag p.tag = PropType.longLong.code) :
    ∃ v, p = ⟨p.tag, .longLong, .longLong v⟩ := by
  obtain ⟨htype, hkind⟩ := hp.1.of_tag (by decide) htag
  obtain ⟨tag, type, payload⟩ := p
  obtain rfl : type = .longLong := htype
  cases payload <;> cases hkind
  exact ⟨_, rfl⟩

lemma Readable.eq_wideString {p : Propval} (hp : p.Readable)
    (htag : PropType.codeOfTag p.tag = PropType.wideString.code) :
    ∃ s, p = ⟨p.tag, .wideString, .string ⟨s, true⟩⟩ := by
  obtain ⟨htype, hkind⟩ := hp.1.of_tag (by decide) htag
  obtain ⟨-, howned⟩ := hp
  obtain ⟨tag, type, payload⟩ := p
  obtain rfl : type = .wideString := htype
  cases payload <;> cases hkind
  rename_i v
  obtain ⟨s, owned⟩ := v
  cases howned
  exact ⟨s, rfl⟩

end Propval

lemma Reply.readable_propvals {bs : List UInt8} {ps : List Propval}
    (h : (Reply.propvals.reader bs).1 = .ok ps) : ∀ p ∈ ps, p.Readable := by
  have haccepts := Accepts.list16 Propval.reader_exact
  exact ((haccepts ps bs _).mp (Prod.ext h rfl)).1

lemma Reply.readable_table {bs : List UInt8} {rows : Table}
    (h : (Reply.table.reader bs).1 = .ok rows) : ∀ row ∈ rows, ∀ p ∈ row, p.Readable := by
  have haccepts := (Accepts.list16 Propval.reader_exact).list32
  exact ((haccepts rows bs _).mp (Prod.ext h rfl)).1

namespace DeviceSync

open Procedure (Event Hears Runs Unanswered)

/-! ### What is asked, and what is told -/

/-- A request that got this value. -/
def told (r : Request) (v : r.reply.Value) : Event := ⟨.send r, .ok v⟩

/-- All rows of a table are read, and then it is unloaded. -/
def browses (home : String) (table : LoadedTable) (columns : List UInt32) (rows : Table) :
    List Event :=
  [told (.queryTable home "" 0 table.id columns 0 table.rowCount) rows,
    told (.unloadTable home table.id) ()]

/-- The filter for messages called `devicedata`. -/
def namedDeviceData : Restriction :=
  .property .eq Tag.displayName ⟨Tag.displayName, .wideString, .string ⟨"devicedata", false⟩⟩

/-- The messages in a folder that hold a device's state. -/
def looksUp (home : String) (folder : UInt64) (table : LoadedTable) (messages : Table) :
    List Event :=
  told (.loadContentTable home 0 folder "" 2 namedDeviceData) table ::
    browses home table [Tag.messageId] messages

def deviceRow (folder : UInt64) (name : String) : List Propval :=
  [⟨Tag.folderId, .longLong, .longLong folder⟩,
    ⟨Tag.displayName, .wideString, .string ⟨name, true⟩⟩]

def messageRow (message : UInt64) : List Propval :=
  [⟨Tag.messageId, .longLong, .longLong message⟩]

def bodyRow (state : String) : List Propval := [⟨Tag.body, .wideString, .string ⟨state, true⟩⟩]

/-- What is asked for the device with this folder, and the state that is found. -/
inductive Asks (home : String) (folder : UInt64) : List Event → Option String → Prop
  | noMessage (table messages)
    (h : messages.head?.map (List.map Propval.tag) ≠ some [Tag.messageId]) :
    Asks home folder (looksUp home folder table messages) none
  | otherBody (table message more found) (h : found.map Propval.tag ≠ [Tag.body]) :
    Asks home folder (looksUp home folder table (messageRow message :: more) ++
      [told (.getMessageProperties home "" 0 message [Tag.body]) found]) none
  | body (table message more state) :
    Asks home folder (looksUp home folder table (messageRow message :: more) ++
      [told (.getMessageProperties home "" 0 message [Tag.body]) (bodyRow state)]) (some state)

/-- What is asked for the devices in these rows, and their states that are found, in order. -/
inductive Visits (home : String) : Table → List Event → List (String × String) → Prop
  | done : Visits home [] [] []
  | other {row rows T found} (h : row.map Propval.tag ≠ [Tag.folderId, Tag.displayName])
    (hrest : Visits home rows T found) : Visits home (row :: rows) T found
  | device {folder front state rows T found} (name : String) (h : Asks home folder front state)
    (hrest : Visits home rows T found) :
    Visits home (deviceRow folder name :: rows) (front ++ T)
      (state.toList.map (name, ·) ++ found)

/-- The whole conversation, and the states found in it. -/
inductive Conversation (home folderName : String) : List Event → List (String × String) → Prop
  | mk (folder table) {rows T found} (h : Visits home rows T found) :
    Conversation home folderName
      (told (.getFolderByName home (PublicFolder.id PublicFolder.root) folderName) folder ::
        told (.loadHierarchyTable home folder "" 0 .null) table ::
          (browses home table [Tag.folderId, Tag.displayName] rows ++ T)) found

/-! ### How the procedure goes -/

section Runs

variable {α : Type} {home folderName : String} {folder : UInt64} {T : List Event}

/-- A request that has got a value. -/
lemma runs_send_bind {r : Request} {f : r.reply.Value → Procedure α} {out : Except Error α}
    (h : Runs (Procedure.send r >>= f) T out) (hheard : ∀ e ∈ T, e.Heard) :
    ∃ v back, T = told r v :: back ∧ (∃ bs, (r.reply.reader bs).1 = .ok v) ∧
      Runs (f v) back out ∧ ∀ e ∈ back, e.Heard := by
  obtain ⟨why, hsend, rfl⟩ | ⟨v, front, back, hsend, hrest, rfl⟩ := Procedure.runs_bind_iff.mp h
  · obtain rfl := Procedure.runs_send_iff.mp hsend
    obtain ⟨bs, v, hv, -⟩ := hheard _ List.mem_cons_self
    cases hv
  · obtain rfl := Procedure.runs_send_iff.mp hsend
    obtain ⟨⟨bs, v', hv, hbs⟩, hback⟩ := List.forall_mem_cons.mp hheard
    cases hv
    exact ⟨v, back, rfl, ⟨bs, hbs⟩, hrest, hback⟩

/-- A table is browsed, and what follows depends on its rows. -/
lemma runs_readAll_bind {table : LoadedTable} {columns : List UInt32} {f : Table → Procedure α}
    {out : Except Error α} (h : Runs (Table.readAll home table columns >>= f) T out)
    (hheard : ∀ e ∈ T, e.Heard) :
    ∃ rows back, T = browses home table columns rows ++ back ∧
      (∀ row ∈ rows, ∀ p ∈ row, p.Readable) ∧ Runs (f rows) back out ∧ ∀ e ∈ back, e.Heard := by
  simp only [Table.readAll, bind_assoc, pure_bind] at h
  obtain ⟨rows, _, rfl, ⟨bs, hbs⟩, hrest, hheard⟩ := runs_send_bind h hheard
  obtain ⟨⟨⟩, back, rfl, -, hrest, hheard⟩ := runs_send_bind hrest hheard
  exact ⟨rows, back, rfl, Reply.readable_table hbs, hrest, hheard⟩

/-- The row of a device, or one that is passed over. -/
lemma deviceOf?_cases {row : List Propval} (h : ∀ p ∈ row, p.Readable) :
    (row.map Propval.tag ≠ [Tag.folderId, Tag.displayName] ∧ deviceOf? row = none) ∨
      ∃ folder name, row = deviceRow folder name ∧ deviceOf? row = some (folder, name) := by
  by_cases htags : row.map Propval.tag = [Tag.folderId, Tag.displayName]
  · obtain ⟨id, _, rfl, hid, htags⟩ := List.map_eq_cons_iff.mp htags
    obtain ⟨name, _, rfl, hname, htags⟩ := List.map_eq_cons_iff.mp htags
    obtain rfl := List.map_eq_nil_iff.mp htags
    obtain ⟨folder, heq⟩ := (h id (by simp)).eq_longLong (by rw [hid]; rfl)
    obtain ⟨text, heq'⟩ := (h name (by simp)).eq_wideString (by rw [hname]; rfl)
    rw [hid] at heq
    rw [hname] at heq'
    subst heq heq'
    exact .inr ⟨folder, text, rfl, rfl⟩
  · refine .inl ⟨htags, ?_⟩
    unfold deviceOf?
    split
    · rename_i id name
      exact if_neg fun hboth => htags (by simp [hboth.1, hboth.2])
    · rfl

/-- The first row names a message, or is something else. -/
lemma messageOf?_cases {rows : Table} (h : ∀ row ∈ rows, ∀ p ∈ row, p.Readable) :
    (rows.head?.map (List.map Propval.tag) ≠ some [Tag.messageId] ∧ messageOf? rows = none) ∨
      ∃ message more, rows = messageRow message :: more ∧ messageOf? rows = some message := by
  by_cases htags : rows.head?.map (List.map Propval.tag) = some [Tag.messageId]
  · obtain ⟨row, hhead, hrow⟩ := Option.map_eq_some_iff.mp htags
    obtain ⟨more, rfl⟩ := List.head?_eq_some_iff.mp hhead
    obtain ⟨id, _, rfl, hid, hrow⟩ := List.map_eq_cons_iff.mp hrow
    obtain rfl := List.map_eq_nil_iff.mp hrow
    obtain ⟨message, heq⟩ := (h [id] (by simp) id (by simp)).eq_longLong (by rw [hid]; rfl)
    rw [hid] at heq
    subst heq
    exact .inr ⟨message, more, rfl, rfl⟩
  · refine .inl ⟨htags, ?_⟩
    unfold messageOf?
    split
    · rename_i id more
      exact if_neg fun hid => htags (by simp [hid])
    · rfl

/-- A body and nothing else, or something else. -/
lemma bodyOf?_cases {ps : List Propval} (h : ∀ p ∈ ps, p.Readable) :
    (ps.map Propval.tag ≠ [Tag.body] ∧ bodyOf? ps = none) ∨
      ∃ state, ps = bodyRow state ∧ bodyOf? ps = some state := by
  by_cases htags : ps.map Propval.tag = [Tag.body]
  · obtain ⟨body, _, rfl, hbody, htags⟩ := List.map_eq_cons_iff.mp htags
    obtain rfl := List.map_eq_nil_iff.mp htags
    obtain ⟨state, heq⟩ := (h body (by simp)).eq_wideString (by rw [hbody]; rfl)
    rw [hbody] at heq
    subst heq
    exact .inr ⟨state, rfl, rfl⟩
  · refine .inl ⟨htags, ?_⟩
    unfold bodyOf?
    split
    · rename_i body
      exact if_neg fun hbody => htags (by simp [hbody])
    · rfl

lemma runs_stateIn {out : Except Error (Option String)} (h : Runs (stateIn home folder) T out)
    (hheard : ∀ e ∈ T, e.Heard) : ∃ state, Asks home folder T state ∧ out = .ok state := by
  have hfilter : Procedure.ofExcept (stateFilter.mapError Error.value) = pure namedDeviceData := rfl
  rw [stateIn, hfilter, pure_bind] at h
  obtain ⟨table, _, rfl, -, hread, hheard'⟩ := runs_send_bind h hheard
  obtain ⟨messages, back, rfl, hreadable, hrest, hback⟩ := runs_readAll_bind hread hheard'
  obtain ⟨hother, hnone⟩ | ⟨message, more, rfl, hsome⟩ := messageOf?_cases hreadable
  · rw [hnone] at hrest
    obtain ⟨rfl, rfl⟩ := Procedure.runs_pure_iff.mp hrest
    rw [List.append_nil]
    exact ⟨none, .noMessage table messages hother, rfl⟩
  · rw [hsome] at hrest
    obtain ⟨found, _, rfl, ⟨bs, hbs⟩, hpure, -⟩ := runs_send_bind hrest hback
    obtain ⟨rfl, rfl⟩ := Procedure.runs_pure_iff.mp hpure
    obtain ⟨hother, hnone⟩ | ⟨state, rfl, hstate⟩ := bodyOf?_cases (Reply.readable_propvals hbs)
    · exact ⟨none, .otherBody table message more found hother, by rw [hnone]⟩
    · exact ⟨some state, .body table message more state, by rw [hstate]⟩

lemma runs_collect {rows : Table} (hrows : ∀ row ∈ rows, ∀ p ∈ row, p.Readable) {states : States}
    {out : Except Error States} (h : Runs (collect home rows states) T out)
    (hheard : ∀ e ∈ T, e.Heard) :
    ∃ found, Visits home rows T found ∧ out = .ok (states.putAll found) := by
  induction rows generalizing states T with
  | nil =>
    obtain ⟨rfl, rfl⟩ := Procedure.runs_pure_iff.mp h
    exact ⟨[], .done, rfl⟩
  | cons row rows ih =>
    obtain ⟨hrow, hmore⟩ := List.forall_mem_cons.mp hrows
    unfold collect at h
    obtain ⟨hother, hnone⟩ | ⟨folder, name, rfl, hdevice⟩ := deviceOf?_cases hrow
    · rw [hnone] at h
      obtain ⟨found, hvisits, rfl⟩ := ih hmore h hheard
      exact ⟨found, .other hother hvisits, rfl⟩
    · rw [hdevice] at h
      obtain ⟨why, hask, rfl⟩ | ⟨state, front, back, hask, hrest, rfl⟩ :=
        Procedure.runs_bind_iff.mp h
      · obtain ⟨state, -, hout⟩ := runs_stateIn hask hheard
        cases hout
      obtain ⟨hfront, hback⟩ := List.forall_mem_append.mp hheard
      obtain ⟨state', hasks, hout⟩ := runs_stateIn hask hfront
      cases hout
      cases state with
      | none =>
        obtain ⟨found, hvisits, rfl⟩ := ih hmore hrest hback
        exact ⟨_, .device name hasks hvisits, rfl⟩
      | some state =>
        obtain ⟨found, hvisits, rfl⟩ := ih hmore hrest hback
        exact ⟨_, .device name hasks hvisits, rfl⟩

lemma runs_states {out : Except Error States} (h : Runs (DeviceSync.states home folderName) T out)
    (hheard : ∀ e ∈ T, e.Heard) :
    ∃ found, Conversation home folderName T found ∧ out = .ok (States.putAll [] found) := by
  rw [DeviceSync.states] at h
  obtain ⟨folder, _, rfl, -, h, hheard⟩ := runs_send_bind h hheard
  rw [Table.subfolders, bind_assoc] at h
  obtain ⟨table, _, rfl, -, h, hheard⟩ := runs_send_bind h hheard
  obtain ⟨rows, back, rfl, hrows, h, hheard⟩ := runs_readAll_bind h hheard
  obtain ⟨found, hvisits, rfl⟩ := runs_collect hrows h hheard
  exact ⟨found, .mk folder table hvisits, rfl⟩

end Runs

/-! ### Failures -/

section Strict

open Procedure (Strict)

variable {home folderName : String} {folder : UInt64}

lemma strict_readAll (table : LoadedTable) (columns : List UInt32) :
    Strict (Table.readAll home table columns) :=
  .bind (.send _) fun rows => .bind (.send _) fun _ => .pure rows

lemma strict_stateIn : Strict (stateIn home folder) := by
  refine .bind (.ofExcept _) fun filter => .bind (.send _) fun table => ?_
  refine .bind (strict_readAll table _) fun rows => ?_
  split
  · exact .pure none
  · exact .bind (.send _) fun found => .pure _

lemma strict_collect (rows : Table) (states : States) : Strict (collect home rows states) := by
  induction rows generalizing states with
  | nil => exact .pure states
  | cons row rows ih =>
    unfold collect
    split
    · exact ih states
    · refine .bind strict_stateIn fun state => ?_
      split
      · exact ih states
      · exact ih _

lemma strict_states : Strict (DeviceSync.states home folderName) := by
  refine .bind (.send _) fun folder => .bind (.bind (.send _) fun table => ?_) fun rows => ?_
  · exact strict_readAll table _
  · exact strict_collect rows []

end Strict

/-! ### Requests that can be written -/

/-- Nothing in the request keeps it from being written. -/
def Complete : Event → Prop
  | ⟨.send r, _⟩ => r.encode.failure = none
  | _ => True

section Complete

variable {home folderName : String} {folder : UInt64} {T : List Event}

lemma complete_told {r : Request} {v : r.reply.Value} (cs : List Check) (hchecks : r.checks = cs)
    (hcs : ∀ c ∈ cs, c.Passes) : Complete (told r v) :=
  r.encode_checked.mpr (hchecks ▸ hcs)

lemma complete_browses (hhome : '\x00' ∉ home.toList) (table : LoadedTable)
    {columns : List UInt32} (hcolumns : columns.length ≤ 65535) (rows : Table) :
    ∀ e ∈ browses home table columns rows, Complete e := by
  have hquery : Complete (told (.queryTable home "" 0 table.id columns 0 table.rowCount) rows) :=
    complete_told [.text home, .text "", .short columns.length] rfl
      (by simp [Check.Passes, hhome, hcolumns])
  have hunload : Complete (told (.unloadTable home table.id) ()) :=
    complete_told [.text home] rfl (by simp [Check.Passes, hhome])
  simp [browses, hquery, hunload]

lemma complete_looksUp (hhome : '\x00' ∉ home.toList) (table : LoadedTable) (messages : Table) :
    ∀ e ∈ looksUp home folder table messages, Complete e := by
  have hfilter : namedDeviceData.checks = [.text "devicedata"] :=
    Restriction.checks_of_parts_eq_nil rfl
  have hload : Complete (told (.loadContentTable home 0 folder "" 2 namedDeviceData) table) := by
    refine complete_told (.text home :: .text "" :: (namedDeviceData.checks ++ [])) rfl ?_
    rw [hfilter]
    simp [Check.Passes, hhome]
  exact List.forall_mem_cons.mpr ⟨hload, complete_browses hhome table (by decide) messages⟩

lemma Asks.complete {state : Option String} (hhome : '\x00' ∉ home.toList)
    (h : Asks home folder T state) : ∀ e ∈ T, Complete e := by
  have hbody (message : UInt64) (found : List Propval) :
      Complete (told (.getMessageProperties home "" 0 message [Tag.body]) found) :=
    complete_told [.text home, .text "", .short 1] rfl (by simp [Check.Passes, hhome])
  cases h with
  | noMessage table messages h => exact complete_looksUp hhome table messages
  | otherBody table message more found h =>
    exact List.forall_mem_append.mpr
      ⟨complete_looksUp hhome table _, List.forall_mem_singleton.mpr (hbody message found)⟩
  | body table message more state =>
    exact List.forall_mem_append.mpr
      ⟨complete_looksUp hhome table _, List.forall_mem_singleton.mpr (hbody message _)⟩

lemma Visits.complete {rows : Table} {found : List (String × String)}
    (hhome : '\x00' ∉ home.toList) (h : Visits home rows T found) : ∀ e ∈ T, Complete e := by
  induction h with
  | done => simp
  | other h hrest ih => exact ih
  | device name h hrest ih => exact List.forall_mem_append.mpr ⟨h.complete hhome, ih⟩

lemma Conversation.complete {found : List (String × String)} (hhome : '\x00' ∉ home.toList)
    (hname : '\x00' ∉ folderName.toList) (h : Conversation home folderName T found) :
    ∀ e ∈ T, Complete e := by
  obtain @⟨folder, table, rows, T, found, hvisits⟩ := h
  have hfolder : Complete (told (.getFolderByName home (PublicFolder.id PublicFolder.root)
      folderName) folder) :=
    complete_told [.text home, .text folderName] rfl (by simp [Check.Passes, hhome, hname])
  have hnull : Restriction.null.checks = [] := Restriction.checks_of_parts_eq_nil rfl
  have hload : Complete (told (.loadHierarchyTable home folder "" 0 .null) table) := by
    refine complete_told (.text home :: .text "" :: (Restriction.null.checks ++ [])) rfl ?_
    rw [hnull]
    simp [Check.Passes, hhome]
  refine List.forall_mem_cons.mpr ⟨hfolder, List.forall_mem_cons.mpr ⟨hload, ?_⟩⟩
  exact List.forall_mem_append.mpr
    ⟨complete_browses hhome table (by decide) rows, hvisits.complete hhome⟩

end Complete

/-! ### The states -/

/-- A request that can be written gets no value if it is too long for a frame, or if there is no
such reply. -/
lemma unanswered_cases {r : Request} {left : List ReplyFrame} (hcomplete : r.encode.failure = none)
    (h : Unanswered r left) :
    left = [] ∨ (∃ f rest why, left = f :: rest ∧ f.outcome r.reply.reader = .error why) ∨
      ∃ payload, r.encode.result = .ok payload ∧ Word.bound 4 ≤ payload.length := by
  obtain hlong | hreply := h
  · have hresult : r.encode.result = .ok r.encode.bytes :=
      Encoding.result_eq_ok_iff.mpr ⟨hcomplete, rfl⟩
    refine .inr (.inr ⟨_, hresult, Nat.le_of_not_lt fun hlt => hlong ?_⟩)
    exact Request.encodable_iff.mpr ⟨_, hresult, hlt⟩
  · cases left with
    | nil => exact .inl rfl
    | cons f rest =>
      cases hout : f.outcome r.reply.reader with
      | error why => exact .inr (.inl ⟨f, rest, why, rfl, hout⟩)
      | ok v => exact absurd hout (hreply f rfl v)

/-- **The states of the devices are those that the server tells.** Each request follows from the
replies before it, and these requests are written and nothing else. The name of a device has the
state that was found last for it, and no other name has any. There are no states only if there is no
reply to a request, or one that does not tell a value, or if the request is too long for a
frame. -/
theorem states_of_replies {home folderName : String} (hhome : '\x00' ∉ home.toList)
    (hname : '\x00' ∉ folderName.toList) {c : Client} {link : Link} (hlink : c.link = some link)
    {n : Network} {frames : List ReplyFrame}
    (hserves : n.Serves link (frames.flatMap ReplyFrame.bytes)) :
    let ran := n.run ((Procedure.run (DeviceSync.states home folderName)).run c)
    ∃ T heard left, frames = heard ++ left ∧ Hears T heard ∧
      ((∃ found states, Conversation home folderName T found ∧ ran.1 = (.ok states, c) ∧
          ran.2.Serves link (left.flatMap ReplyFrame.bytes) ∧ (∀ e ∈ T, e.Lawful) ∧
          ran.2.written link = n.written link ++ (T.filterMap Event.frame?).flatten ∧
          (∀ name, states.lookup name = found.reverse.lookup name) ∧
          states.names.Pairwise (· < ·)) ∨
        ∃ r v more found, Conversation home folderName (T ++ told r v :: more) found ∧
          (left = [] ∨ (∃ f rest why, left = f :: rest ∧ f.outcome r.reply.reader = .error why) ∨
            ∃ payload, r.encode.result = .ok payload ∧ Word.bound 4 ≤ payload.length) ∧
          ∃ why, ran.1.1 = .error why) := by
  intro ran
  obtain ⟨T, heard, left, hframes, hhears, hcase⟩ :=
    Procedure.takes (ExceptT.run (DeviceSync.states home folderName)) hlink hserves
  refine ⟨T, heard, left, hframes, hhears, ?_⟩
  obtain ⟨hruns, hclient, hleft, hlawful, hwritten⟩ | ⟨r, next, why, T', hleads, hun, hruns⟩ :=
    hcase
  · obtain ⟨found, hconversation, hout⟩ := runs_states hruns hhears.heard
    refine .inl ⟨found, _, hconversation, Prod.ext hout hclient, hleft, hlawful, hwritten, ?_, ?_⟩
    · intro name
      rw [States.lookup_putAll, List.lookup_nil, Option.or_none]
    · exact States.sorted_putAll List.Pairwise.nil found
  · -- With a value for this request and those behind it there would have been states.
    obtain ⟨bs, v, hv⟩ := Procedure.exists_read r.reply
    obtain ⟨more, out, hmore, hheard⟩ := Procedure.exists_heard_runs (next (.ok v))
    have hwhole : Runs (DeviceSync.states home folderName) (T ++ told r v :: more) out :=
      hleads.runs ⟨.ok v, more, rfl, hmore⟩
    have hback : ∀ e ∈ told r v :: more, e.Heard :=
      List.forall_mem_cons.mpr ⟨⟨bs, v, rfl, hv⟩, hheard⟩
    obtain ⟨found, hconversation, -⟩ :=
      runs_states hwhole (List.forall_mem_append.mpr ⟨hhears.heard, hback⟩)
    have hcomplete : Complete (told r v) := hconversation.complete hhome hname _ (by simp)
    refine .inr ⟨r, v, more, found, hconversation, unanswered_cases hcomplete hun, ?_⟩
    cases hout : ran.1.1 with
    | error why => exact ⟨why, rfl⟩
    | ok states =>
      exact (strict_states _ states (hout ▸ hruns) ⟨.send r, .error why⟩ (by simp)).elim

/-- One row is no device, and one device has no message with its state. -/
theorem states_of_replies_phone :
    let rows (table : Table) : List UInt8 :=
      (Encoding.list32 (Encoding.list16 Propval.encode) table).bytes
    let payloads : List (List UInt8) :=
      [Word.le 8 100, Word.le 4 1 ++ Word.le 4 3,
        rows [deviceRow 11 "phone", [⟨Tag.folderId, .longLong, .longLong 12⟩],
          deviceRow 13 "tablet"], [],
        Word.le 4 2 ++ Word.le 4 1, rows [messageRow 21], [],
        (Encoding.list16 Propval.encode (bodyRow "state")).bytes,
        Word.le 4 3 ++ Word.le 4 0, rows [], []]
    let frame (payload : List UInt8) : ReplyFrame :=
      if h : payload.length < Word.bound 4 then .answer payload h else .refusal 1 (by decide)
    let s : Stream := .ofBytes ((payloads.map frame).flatMap ReplyFrame.bytes)
    let n : Network := { Network.ofScript [] .writeStopped "" 0 with links := [s] }
    let c : Client := ⟨.new "host" 1 "/d", some 0⟩
    let ran := n.run ((Procedure.run (DeviceSync.states "/d" "GS-SyncState")).run c)
    ran.1 = (.ok [("phone", "state")], c) ∧ ∃ T found,
      Conversation "/d" "GS-SyncState" T found ∧ found.reverse.lookup "phone" = some "state" ∧
      found.reverse.lookup "tablet" = none ∧
      ran.2.written 0 = (T.filterMap Event.frame?).flatten := by
  intro rows payloads frame s n c ran
  have hran : ran.1 = (.ok [("phone", "state")], c) := by decide +kernel
  have hserves : n.Serves 0 ((payloads.map frame).flatMap ReplyFrame.bytes) :=
    ⟨by decide, ⟨by decide, rfl, rfl⟩, by decide +kernel⟩
  have hhome : '\x00' ∉ "/d".toList := by decide
  have hname : '\x00' ∉ "GS-SyncState".toList := by decide
  have hlink : c.link = some 0 := rfl
  obtain ⟨T, -, -, -, -, ⟨found, states, hconversation, hout, -, -, hwritten, hlookup, -⟩ |
    ⟨-, -, -, -, -, -, why, herror⟩⟩ := states_of_replies hhome hname hlink hserves
  · cases hran.symm.trans hout
    exact ⟨hran, T, found, hconversation, (hlookup "phone").symm, (hlookup "tablet").symm, hwritten⟩
  · cases (congrArg Prod.fst hran).symm.trans herror

end DeviceSync

end StoreRpc
