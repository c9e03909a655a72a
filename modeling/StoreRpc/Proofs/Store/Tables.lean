import StoreRpc.Proofs.Store.Transcript
import StoreRpc.Store.DeviceSync
import StoreRpc.Store.Member

/-!
Tables that are loaded, and released again.

A table is read and released before anything else is done, also before the next one is loaded. But
if its rows cannot be read the procedure ends there, and the table stays loaded.
-/

namespace StoreRpc

namespace Request

variable {r : Request} {home : String}

/-- A request that begins with the store, and goes on with a word that is as wide as the number of a
table, is no shorter than one that unloads a table of that store. -/
lemma Encodable.unloadTable {width n : Nat} {e : Encoding} (hr : r.Encodable)
    (h : r.encodeArguments = .text home ++ (.word width n ++ e)) (hwidth : 4 ≤ width)
    (table : UInt32) : (Request.unloadTable home table).Encodable := by
  obtain ⟨payload, hpayload, hlength⟩ := encodable_iff.mp hr
  rw [encode, h] at hpayload
  simp only [Encoding.result_append_eq_ok_iff, Encoding.u8, Encoding.result_word] at hpayload
  obtain ⟨_, _, hcall, ⟨text, _, htext, ⟨_, rest, hword, -, rfl⟩, rfl⟩, rfl⟩ := hpayload
  cases hcall
  cases hword
  have hpayload : (Request.unloadTable home table).encode.result =
      .ok (Word.le 1 0x2D ++ (text ++ Word.le 4 table.toNat)) := by
    exact Encoding.result_append (Encoding.result_word ..)
      (Encoding.result_append htext (Encoding.result_word ..))
  refine encodable_iff.mpr ⟨_, hpayload, ?_⟩
  simp only [List.length_append, Word.length_le] at hlength ⊢
  omega

end Request

namespace Procedure

namespace Event

/-- The table that was loaded. -/
def loaded? : Event → Option UInt32
  | ⟨.send (.loadHierarchyTable ..), .ok table⟩ => some table.id
  | ⟨.send (.loadContentTable ..), .ok table⟩ => some table.id
  | ⟨.send (.loadPermissionTable ..), .ok table⟩ => some table.id
  | _ => none

/-- The table that is to be unloaded, by a request that can be written. -/
def unloaded? : Event → Option UInt32
  | ⟨.send (.unloadTable home table), _⟩ =>
    if (Request.unloadTable home table).Encodable then some table else none
  | _ => none

/-- The rows of a table could not be read. -/
def unread : Event → Bool
  | ⟨.send (.queryTable ..), .error _⟩ => true
  | _ => false

/-- No table is loaded or unloaded, or asked for its rows in vain. -/
def Idle (e : Event) : Prop := e.loaded? = none ∧ e.unloaded? = none ∧ e.unread = false

lemma unloaded?_of_loaded? {e : Event} {table : UInt32} (h : e.loaded? = some table) :
    e.unloaded? = none := by
  rcases e with ⟨r | _ | _, x⟩
  · cases r <;> first | rfl | cases h
  · rfl
  · rfl

end Event

/-- The tables that were loaded. -/
def loads (T : List Event) : List UInt32 := T.filterMap Event.loaded?

/-- The tables that were to be unloaded. -/
def unloads (T : List Event) : List UInt32 := T.filterMap Event.unloaded?

variable {T T' : List Event}

lemma loads_append (T T' : List Event) : loads (T ++ T') = loads T ++ loads T' :=
  List.filterMap_append

lemma unloads_append (T T' : List Event) : unloads (T ++ T') = unloads T ++ unloads T' :=
  List.filterMap_append

/-- Every table is read, and unloaded once for each time that it was loaded, and not before. -/
structure Released (T : List Event) : Prop where
  read : ∀ e ∈ T, e.unread = false
  all : unloads T = loads T
  after : ∀ front, front <+: T → unloads front <+: loads front

namespace Released

lemma append (h : Released T) (h' : Released T') : Released (T ++ T') where
  read := List.forall_mem_append.mpr ⟨h.read, h'.read⟩
  all := by rw [unloads_append, loads_append, h.all, h'.all]
  after := by
    rintro front ⟨back, hback⟩
    obtain ⟨more, hmore, -⟩ | ⟨more, rfl, hmore⟩ := List.append_eq_append_iff.mp hback
    · exact h.after front ⟨more, hmore.symm⟩
    · rw [unloads_append, loads_append, h.all, List.prefix_append_right_inj]
      exact h'.after more ⟨back, hmore.symm⟩

lemma of_idle (h : ∀ e ∈ T, e.Idle) : Released T := by
  have hloads (front : List Event) (hfront : front <+: T) : loads front = [] :=
    List.filterMap_eq_nil_iff.mpr fun e he => (h e (hfront.subset he)).1
  have hunloads (front : List Event) (hfront : front <+: T) : unloads front = [] :=
    List.filterMap_eq_nil_iff.mpr fun e he => (h e (hfront.subset he)).2.1
  refine ⟨fun e he => (h e he).2.2, ?_, fun front hfront => ?_⟩
  · rw [hloads T (List.prefix_refl T), hunloads T (List.prefix_refl T)]
  · rw [hunloads front hfront]
    exact List.nil_prefix

/-- A table is loaded, read and unloaded. -/
lemma table {load query unload : Event} {table : UInt32}
    (hload : load.loaded? = some table ∧ load.unloaded? = none ∧ load.unread = false)
    (hquery : query.Idle)
    (hunload : unload.loaded? = none ∧ unload.unloaded? = some table ∧ unload.unread = false) :
    Released [load, query, unload] := by
  obtain ⟨hload, hload', hload''⟩ := hload
  obtain ⟨hquery, hquery', hquery''⟩ := hquery
  obtain ⟨hunload, hunload', hunload''⟩ := hunload
  have hfirst : loads [load] = [table] ∧ unloads [load] = [] := by
    simp [loads, unloads, hload, hload']
  have hrest (more : List Event) (hmore : more <+: [query, unload]) :
      loads more = [] ∧ unloads more <+: [table] := by
    simp only [List.prefix_cons_iff, List.prefix_nil] at hmore
    obtain rfl | ⟨_, rfl, rfl | ⟨_, rfl, rfl⟩⟩ := hmore <;>
      simp [loads, unloads, hquery, hquery', hunload, hunload']
  refine ⟨by simp [hload'', hquery'', hunload''], ?_, fun front hfront => ?_⟩
  · simp [loads, unloads, hload, hload', hquery, hquery', hunload, hunload']
  · obtain rfl | ⟨more, rfl, hmore⟩ := List.prefix_cons_iff.mp hfront
    · exact List.prefix_refl _
    · obtain ⟨hloads, hunloads⟩ := hrest more hmore
      rw [← List.singleton_append, loads_append, unloads_append, hfirst.1, hfirst.2, hloads]
      exact hunloads

end Released

/-- The rows of the last table that was loaded could not be read. It stays loaded; all tables
before it were released. -/
def Abandoned (T : List Event) (why : Error) : Prop :=
  ∃ front load home columns, ∃ table : LoadedTable, Released front ∧
    Event.loaded? load = some table.id ∧ T = front ++ [load,
      ⟨.send (.queryTable home "" 0 table.id columns 0 table.rowCount), .error why⟩]

/-- The tables are released, or the procedure ends because the rows of one could not be read. -/
def Accounts {α : Type} (T : List Event) (out : Except Error α) : Prop :=
  Released T ∨ ∃ why, out = .error why ∧ Abandoned T why

lemma Accounts.of_ok {α : Type} {a : α} (h : Accounts T (.ok a)) : Released T :=
  h.resolve_right fun ⟨_, hwhy, _⟩ => nomatch hwhy

lemma Accounts.after {α : Type} {out : Except Error α} (hfront : Released T)
    (h : Accounts T' out) : Accounts (T ++ T') out := by
  obtain h | ⟨why, hwhy, front, load, home, columns, table, hbefore, hload, rfl⟩ := h
  · exact .inl (hfront.append h)
  · exact .inr ⟨why, hwhy, T ++ front, load, home, columns, table, hfront.append hbefore, hload,
      (List.append_assoc ..).symm⟩

/-- The table that stays loaded is the last one, and it is the only one. -/
lemma Abandoned.loads_eq {why : Error} (h : Abandoned T why) :
    ∃ table, loads T = unloads T ++ [table] := by
  obtain ⟨front, load, home, columns, table, hfront, hload, rfl⟩ := h
  let query : Event := ⟨.send (.queryTable home "" 0 table.id columns 0 table.rowCount), .error why⟩
  have hloads : loads [load, query] = [table.id] := by
    rw [loads, List.filterMap_cons_some hload, List.filterMap_cons_none rfl, List.filterMap_nil]
  have hunloads : unloads [load, query] = [] := by
    rw [unloads, List.filterMap_cons_none (Event.unloaded?_of_loaded? hload),
      List.filterMap_cons_none rfl, List.filterMap_nil]
  refine ⟨table.id, ?_⟩
  rw [loads_append, unloads_append, hfront.all, hloads, hunloads, List.append_nil]

/-! ### Procedures that account for their tables -/

/-- However its requests are answered, the procedure accounts for its tables. -/
def Releases {α : Type} (p : Procedure α) : Prop :=
  ∀ T out, Runs p T out → (∀ e ∈ T, e.Lawful) → Accounts T out

/-- The procedure has one table of the store loaded. -/
def Loads (home : String) (p : Procedure LoadedTable) : Prop :=
  ∀ T out, Runs p T out → ∃ e : Event, T = [e] ∧
    (e.loaded? = out.toOption.map LoadedTable.id ∧ e.unloaded? = none ∧ e.unread = false) ∧
    ∀ table, out = .ok table → e.Lawful → (Request.unloadTable home table.id).Encodable

namespace Releases

variable {α β : Type}

lemma pure (a : α) : Releases (pure a : Procedure α) := by
  rintro T out h -
  obtain ⟨rfl, -⟩ := runs_pure_iff.mp h
  exact .inl (.of_idle (by simp))

lemma ofExcept (x : Except Error α) : Releases (ofExcept x) := by
  rintro T out h -
  obtain ⟨rfl, -⟩ := runs_ofExcept_iff.mp h
  exact .inl (.of_idle (by simp))

/-- A request that has nothing to do with tables. -/
lemma send {r : Request} (h : ∀ x, Event.Idle ⟨.send r, x⟩) : Releases (send r) := by
  rintro T out hruns -
  obtain rfl := runs_send_iff.mp hruns
  exact .inl (.of_idle (by simpa using h out))

lemma bind {p : Procedure α} {f : α → Procedure β} (hp : Releases p)
    (hf : ∀ a, Releases (f a)) : Releases (p >>= f) := by
  intro T out h hlawful
  obtain ⟨why, hfirst, rfl⟩ | ⟨a, front, back, hfirst, hrest, rfl⟩ := runs_bind_iff.mp h
  · obtain hreleased | ⟨_, ⟨⟩, habandoned⟩ := hp T _ hfirst hlawful
    · exact .inl hreleased
    · exact .inr ⟨why, rfl, habandoned⟩
  · obtain ⟨hfront, hback⟩ := List.forall_mem_append.mp hlawful
    exact .after (hp front _ hfirst hfront).of_ok (hf a back out hrest hback)

/-- A table is loaded, read and released. -/
lemma readAll {home : String} {p : Procedure LoadedTable} (hp : Loads home p)
    (columns : List UInt32) :
    Releases (p >>= fun table => Table.readAll home table columns) := by
  intro T out h hlawful
  obtain ⟨why, hfirst, rfl⟩ | ⟨table, _, back, hfirst, hread, rfl⟩ := runs_bind_iff.mp h
  · obtain ⟨load, rfl, hload, -⟩ := hp T _ hfirst
    have hidle : load.Idle := hload
    exact .inl (.of_idle (by simpa using hidle))
  obtain ⟨load, rfl, hload, hencodable⟩ := hp _ _ hfirst
  obtain ⟨why, hquery, rfl⟩ | ⟨rows, _, back, hquery, hrest, rfl⟩ := runs_bind_iff.mp hread
  · obtain rfl := runs_send_iff.mp hquery
    exact .inr ⟨why, rfl, [], load, home, columns, table, .of_idle (by simp), hload.1, rfl⟩
  obtain rfl := runs_send_iff.mp hquery
  -- From here on it does not matter whether the server unloads the table.
  have hreleased (x) : Released ([load] ++ ([⟨.send (.queryTable home "" 0 table.id columns 0
      table.rowCount), .ok rows⟩] ++ [⟨.send (.unloadTable home table.id), x⟩])) :=
    .table hload ⟨rfl, rfl, rfl⟩
      ⟨rfl, if_pos (hencodable table rfl (hlawful load List.mem_cons_self)), rfl⟩
  obtain ⟨why, hunload, rfl⟩ | ⟨⟨⟩, _, _, hunload, hpure, rfl⟩ := runs_bind_iff.mp hrest
  · obtain rfl := runs_send_iff.mp hunload
    exact .inl (hreleased _)
  · obtain rfl := runs_send_iff.mp hunload
    obtain ⟨rfl, -⟩ := runs_pure_iff.mp hpure
    exact .inl (hreleased _)

end Releases

/-! ### Procedures of the store -/

/-- A request for a table, which names the store first and has a word behind it. -/
lemma Loads.of_send {home : String} {p : Procedure LoadedTable} {r : Request}
    {event : Except Error LoadedTable → Event} {width n : Nat} {e : Encoding}
    (hruns : ∀ T out, Runs p T out → T = [event out])
    (hloaded : ∀ out, (event out).loaded? = out.toOption.map LoadedTable.id ∧
      (event out).unloaded? = none ∧ (event out).unread = false)
    (hlawful : ∀ table, (event (.ok table)).Lawful → r.Encodable)
    (harguments : r.encodeArguments = .text home ++ (.word width n ++ e)) (hwidth : 4 ≤ width) :
    Loads home p := by
  intro T out h
  refine ⟨event out, hruns T out h, hloaded out, ?_⟩
  rintro table rfl hevent
  exact (hlawful table hevent).unloadTable harguments hwidth table.id

variable (home : String) (folder : UInt64) (user : String) (flags : UInt8) (filter : Restriction)

lemma loads_hierarchyTable :
    Loads home (send (.loadHierarchyTable home folder user flags filter)) := by
  have harguments : (Request.loadHierarchyTable home folder user flags filter).encodeArguments =
      .text home ++ (.u64 folder ++ (.text user ++ (.u8 flags ++ filter.encodeOptional))) := by
    simp only [Request.encodeArguments, Encoding.append_assoc]
  exact .of_send (fun _ _ => runs_send_iff.mp) (fun out => ⟨by cases out <;> rfl, rfl, rfl⟩)
    (fun _ => id) harguments (by decide)

lemma loads_contentTable (codePage : UInt32) :
    Loads home (send (.loadContentTable home codePage folder user flags filter)) := by
  have harguments :
      (Request.loadContentTable home codePage folder user flags filter).encodeArguments =
        .text home ++ (.u32 codePage ++ (.u64 folder ++ (.text user ++ (.u8 flags ++
          (filter.encodeOptional ++ .u8 0))))) := by
    simp only [Request.encodeArguments, Encoding.append_assoc]
  exact .of_send (fun _ _ => runs_send_iff.mp) (fun out => ⟨by cases out <;> rfl, rfl, rfl⟩)
    (fun _ => id) harguments (by decide)

lemma loads_permissionTable (flags : UInt32) :
    Loads home (send (.loadPermissionTable home folder flags)) := by
  have harguments : (Request.loadPermissionTable home folder flags).encodeArguments =
      .text home ++ (.u64 folder ++ .u32 flags) := by
    simp only [Request.encodeArguments, Encoding.append_assoc]
  exact .of_send (fun _ _ => runs_send_iff.mp) (fun out => ⟨by cases out <;> rfl, rfl, rfl⟩)
    (fun _ => id) harguments (by decide)

variable {home}

lemma releases_subfolders (columns : List UInt32) :
    Releases (Table.subfolders home folder columns) :=
  .readAll (loads_hierarchyTable home folder "" 0 .null) columns

lemma releases_stateIn : Releases (DeviceSync.stateIn home folder) := by
  unfold DeviceSync.stateIn
  refine .bind (.ofExcept _) fun filter => ?_
  rw [← bind_assoc]
  refine .bind (.readAll (loads_contentTable home folder _ _ filter 0) _) fun rows => ?_
  split
  · exact .pure _
  · exact .bind (.send fun _ => ⟨rfl, rfl, rfl⟩) fun found => .pure _

lemma releases_collect (rows : Table) (states : DeviceSync.States) :
    Releases (DeviceSync.collect home rows states) := by
  induction rows generalizing states with
  | nil => exact .pure states
  | cons row rows ih =>
    unfold DeviceSync.collect
    split
    · exact ih states
    · refine .bind (releases_stateIn _) fun state => ?_
      split
      · exact ih states
      · exact ih _

/-- The procedures that load tables of a store. -/
inductive OnTables (home : String) : {α : Type} → Procedure α → Prop
  | folders (columns : List UInt32) : OnTables home (Folder.list home columns)
  | members (folder : UInt64) : OnTables home (Member.list home folder)
  | deviceStates (folderName : String) : OnTables home (DeviceSync.states home folderName)

lemma OnTables.releases {α : Type} {p : Procedure α} (hp : OnTables home p) : Releases p := by
  cases hp with
  | folders columns => exact releases_subfolders _ columns
  | members folder => exact .readAll (loads_permissionTable home folder 0) Member.columns
  | deviceStates folderName =>
    refine .bind (.send fun _ => ⟨rfl, rfl, rfl⟩) fun folder => ?_
    exact .bind (releases_subfolders _ _) fun devices => releases_collect devices []

/-- **A table stays loaded if its rows could not be read, and only then.** A client that has the
same connection at the end of a procedure has written the frames of the procedure's requests to it
and nothing else. If the rows of all tables could be read there is one request to unload for each
table that the server said it had loaded, and it comes after that. But a failure to read the rows of
a table ends the procedure, and that one table, which is the last, is not unloaded. -/
theorem tables_released {α : Type} {home : String} {p : Procedure α} (hp : OnTables home p)
    {c later : Client} {link : Link} {made : Nat} {t : List Dialogue.Event} {out : Except Error α}
    (hmade : link < made) (hlawful : Dialogue.Lawful made t)
    (hrun : Dialogue.Says ((Procedure.run p).run c) t (out, later))
    (hkept : later.link = some link) :
    ∃ T, Runs p T out ∧ Carries c T t later ∧ c.link = some link ∧
      Dialogue.frames link t = T.filterMap Event.frame? ∧
      (((∀ e ∈ T, e.unread = false) ∧ unloads T = loads T ∧
          ∀ front, front <+: T → unloads front <+: loads front) ∨
        ∃ why table, out = .error why ∧ Abandoned T why ∧ loads T = unloads T ++ [table]) := by
  obtain ⟨T, hruns, hcarries⟩ := says_run hrun
  obtain ⟨hlink, hframes⟩ := hcarries.kept hlawful hmade hkept
  refine ⟨T, hruns, hcarries, hlink, hframes, ?_⟩
  obtain ⟨hread, hall, hafter⟩ | ⟨why, hwhy, habandoned⟩ :=
    hp.releases T out hruns hcarries.lawful
  · exact .inl ⟨hread, hall, hafter⟩
  · obtain ⟨table, htable⟩ := habandoned.loads_eq
    exact .inr ⟨why, table, hwhy, habandoned, htable⟩

/-- A table without rows is loaded, read and unloaded. -/
theorem tables_released_empty :
    let c : Client := ⟨.new "host" 1 "/d", some 0⟩
    ∃ T t, Carries c T t c ∧ Runs (Folder.list "/d" []) T (.ok []) ∧
      Dialogue.frames 0 t = T.filterMap Event.frame? ∧ unloads T = loads T := by
  intro c
  let s : Stream :=
    .ofBytes [0, 8, 0, 0, 0, 7, 0, 0, 0, 0, 0, 0, 0, 0, 4, 0, 0, 0, 0, 0, 0, 0, 0, 0, 0, 0, 0]
  let n : Network := { Network.ofScript [] .writeStopped "" 0 with links := [s] }
  obtain ⟨t, hsays, hlawful, -⟩ := n.exists_transcript ((Procedure.run (Folder.list "/d" [])).run c)
  have hout : (n.run ((Procedure.run (Folder.list "/d" [])).run c)).1 = (.ok [], c) := by
    decide +kernel
  rw [hout] at hsays
  obtain ⟨T, hruns, hcarries, -, hframes, ⟨-, hall, -⟩ | ⟨_, _, ⟨⟩, -⟩⟩ :=
    tables_released (.folders []) Nat.one_pos hlawful hsays rfl
  exact ⟨T, t, hcarries, hruns, hframes, hall⟩

/-- A server that loads the table of a folder's members and refuses to tell its rows is not asked to
unload it, although the connection is kept. -/
theorem member_table_abandoned :
    let s : Stream := .ofBytes [0, 8, 0, 0, 0, 2, 0, 0, 0, 0, 0, 0, 0, 2]
    let n : Network := { Network.ofScript [] .writeStopped "" 0 with links := [s] }
    let c : Client := ⟨.new "h" 1 "/d", some 0⟩
    let ran := n.run ((Procedure.run (Member.list "/d" 5)).run c)
    ((Request.loadPermissionTable "/d" 5 0).reply.reader [2, 0, 0, 0, 0, 0, 0, 0]).1 = .ok ⟨2, 0⟩ ∧
      ran.1 = (.error (.status ⟨2⟩), c) ∧
      ran.2.sent.map (fun sent => sent.2[4]?) =
        [some Call.queryTable.id, some Call.loadPermissionTable.id] := by
  decide +kernel

end Procedure

end StoreRpc
