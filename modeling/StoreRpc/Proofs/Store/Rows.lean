import Mathlib.Data.List.Induction
import Mathlib.Data.List.Perm.Basic
import StoreRpc.Proofs.Property.Reachable
import StoreRpc.Store.Folder
import StoreRpc.Store.Member

/-!
Folders and members as they are read from the rows of a table.

A field is read from the values that have its tag, and the last of them counts. The tag names the
type of these values, so that what the field needs is always there, and the default stands for a
row that has no such value and for nothing else.
-/

namespace StoreRpc

namespace Propval

open PropType (codeOfTag admitted)

/-- What stands behind a tag that names a type is of the kind that the type admits. -/
lemma WellTyped.kind_of_tag {p : Propval} (hp : p.WellTyped) {k : Kind}
    (htag : (codeOfTag p.tag, k) ∈ admitted) : p.payload.kind = k := by
  have hcodes : ∀ e ∈ admitted, e.1 ≠ 0 := by decide
  have hcode : codeOfTag p.tag ≠ 0 := hcodes _ htag
  obtain ⟨type, htype⟩ := PropType.exists_code_of_admitted htag
  rw [← htype] at hcode htag
  obtain ⟨-, hkind⟩ := hp.of_tag hcode htype.symm
  exact Option.some.inj (hkind.symm.trans (PropType.kind?_eq_some_iff.mpr htag))

variable {p : Propval}

lemma exists_longLong (h : p.payload.kind = .longLong) : ∃ v, p.longLong? = some v := by
  unfold longLong?
  cases hp : p.payload <;> rw [hp] at h <;> cases h
  exact ⟨_, rfl⟩

lemma exists_long (h : p.payload.kind = .long) : ∃ v, p.long? = some v := by
  unfold long?
  cases hp : p.payload <;> rw [hp] at h <;> cases h
  exact ⟨_, rfl⟩

lemma exists_text (h : p.payload.kind = .string) : ∃ s, p.text? = some s := by
  unfold text?
  cases hp : p.payload <;> rw [hp] at h <;> cases h
  exact ⟨_, rfl⟩

end Propval

/-! ### Fields -/

/-- A column of a table, and the field of an entry that is read from it. -/
structure Column (ε : Type) where
  Value : Type
  tag : UInt32
  /-- What a value with the tag holds. -/
  view : Propval → Option Value
  /-- What the field is if the row has no value with the tag. -/
  blank : Value
  get : ε → Value

namespace Column

variable {ε : Type} (c : Column ε)

/-- What a row tells for the field: what the last value with the tag holds, if there is one. -/
inductive Tells : List Propval → c.Value → Prop
  | nothing {row} (h : ∀ p ∈ row, p.tag ≠ c.tag) : Tells row c.blank
  | last (before : List Propval) {p after value} (htag : p.tag = c.tag)
    (hvalue : c.view p = some value) (hafter : ∀ q ∈ after, q.tag ≠ c.tag) :
    Tells (before ++ p :: after) value

/-- The last value of a row with the tag. -/
def last? (row : List Propval) : Option Propval := row.reverse.find? (·.tag = c.tag)

/-- The field follows the values with its tag, one by one, and no others. -/
structure Follows (update : ε → Propval → ε) (empty : ε) : Prop where
  /-- The field is blank before the first value. -/
  start : c.get empty = c.blank
  set : ∀ e p, p.tag = c.tag → c.get (update e p) = (c.view p).getD c.blank
  keep : ∀ e p, p.tag ≠ c.tag → c.get (update e p) = c.get e
  /-- What the field needs is there. -/
  typed : ∀ p : Propval, p.WellTyped → p.tag = c.tag → ∃ value, c.view p = some value

variable {c} {update : ε → Propval → ε} {empty : ε} {row row' : List Propval}

namespace Follows

/-- The last value with the tag counts. -/
lemma get_foldl (h : c.Follows update empty) (row : List Propval) :
    c.get (row.foldl update empty) = ((c.last? row).bind c.view).getD c.blank := by
  induction row using List.reverseRecOn with
  | nil => exact h.start
  | append_singleton row p ih =>
    rw [List.foldl_concat, last?, List.reverse_concat, List.find?_cons]
    by_cases htag : p.tag = c.tag
    · simpa [htag] using h.set _ p htag
    · simpa [htag, last?] using (h.keep _ p htag).trans ih

/-- The field is what the row tells for it. -/
lemma tells (h : c.Follows update empty) (hrow : ∀ p ∈ row, p.WellTyped) :
    c.Tells row (c.get (row.foldl update empty)) := by
  rw [h.get_foldl]
  cases hlast : c.last? row with
  | none =>
    refine .nothing fun p hp htag => ?_
    exact List.find?_eq_none.mp hlast p (List.mem_reverse.mpr hp) (decide_eq_true htag)
  | some p =>
    obtain ⟨htag, after, before, hsplit, hafter⟩ := List.find?_eq_some_iff_append.mp hlast
    have hrow' : row = before.reverse ++ p :: after.reverse := by
      simpa using congrArg List.reverse hsplit
    have hp : p.WellTyped := hrow p (by simp [hrow'])
    obtain ⟨value, hvalue⟩ := h.typed p hp (of_decide_eq_true htag)
    have hvalue' : ((some p).bind c.view).getD c.blank = value := by simp [hvalue]
    rw [hrow', hvalue']
    refine .last _ (of_decide_eq_true htag) hvalue fun q hq => ?_
    simpa using hafter q (List.mem_reverse.mp hq)

/-- Only the values with the tag count. -/
lemma get_congr (h : c.Follows update empty)
    (hsame : row.filter (·.tag = c.tag) = row'.filter (·.tag = c.tag)) :
    c.get (row.foldl update empty) = c.get (row'.foldl update empty) := by
  rw [h.get_foldl, h.get_foldl, last?, last?, ← List.getLast?_filter, hsame, List.getLast?_filter]

end Follows

end Column

/-! ### Entries -/

/-- There is one order only for a single value. -/
lemma eq_of_perm_of_length_le_one {α : Type} {l l' : List α} (hperm : l.Perm l')
    (hlength : l.length ≤ 1) : l = l' := by
  match l with
  | [] => exact (List.nil_perm.mp hperm).symm
  | [a] => exact List.singleton_perm.mp hperm

/-- How entries are read from the rows of a table. -/
structure Reads {ε : Type} (columns : List (Column ε)) (ofRow : List Propval → ε)
    (ofTable : Table → List ε) : Prop where
  /-- An entry has no other fields. -/
  fields : ∀ e e', (∀ c ∈ columns, c.get e = c.get e') → e = e'
  /-- There is one entry for each row, in their order. -/
  rows : ∀ t, ofTable t = t.map ofRow
  /-- The entry has what the row tells. -/
  told : ∀ row, (∀ p ∈ row, Propval.Reachable p) → ∀ c ∈ columns, c.Tells row (c.get (ofRow row))
  /-- A value with the tag of a field holds what the field needs. -/
  held : ∀ p, Propval.Reachable p → ∀ c ∈ columns, p.tag = c.tag → ∃ value, c.view p = some value
  /-- Values with other tags may stand anywhere, or be missing. -/
  others : ∀ row row', row.filter (·.tag ∈ columns.map Column.tag) =
    row'.filter (·.tag ∈ columns.map Column.tag) → ofRow row = ofRow row'
  /-- Only a field for which there are several values depends on their order. -/
  reordered : ∀ row row', row.Perm row' → ∀ c ∈ columns, row.countP (·.tag = c.tag) ≤ 1 →
    c.get (ofRow row) = c.get (ofRow row')

lemma Reads.of_follows {ε : Type} {columns : List (Column ε)} {update : ε → Propval → ε} {empty : ε}
    (hfields : ∀ e e', (∀ c ∈ columns, c.get e = c.get e') → e = e')
    (hfollows : ∀ c ∈ columns, c.Follows update empty) :
    Reads columns (·.foldl update empty) (·.map (·.foldl update empty)) where
  fields := hfields
  rows _ := rfl
  told row hrow c hc := (hfollows c hc).tells fun p hp => (hrow p hp).wellTyped
  held p hp c hc := (hfollows c hc).typed p hp.wellTyped
  others row row' hsame := by
    refine hfields _ _ fun c hc => (hfollows c hc).get_congr ?_
    have htag : c.tag ∈ columns.map Column.tag := List.mem_map_of_mem hc
    have hfilter (row : List Propval) : row.filter (·.tag = c.tag) =
        (row.filter (·.tag ∈ columns.map Column.tag)).filter (·.tag = c.tag) := by
      rw [List.filter_filter]
      refine List.filter_congr fun p _ => ?_
      by_cases h : p.tag = c.tag
      · simp only [h, htag, decide_true, Bool.and_self]
      · simp only [h, decide_false, Bool.false_and]
    rw [hfilter row, hfilter row', hsame]
  reordered row row' hperm c hc hcount := by
    refine (hfollows c hc).get_congr ?_
    rw [List.countP_eq_length_filter] at hcount
    exact eq_of_perm_of_length_le_one (hperm.filter _) hcount

/-! ### Folders and members -/

namespace Folder

/-- The fields of a folder. -/
def fields : List (Column Folder) :=
  [⟨UInt64, Tag.folderId, Propval.longLong?, 0, Folder.id⟩,
    ⟨String, Tag.displayName, Propval.text?, "", Folder.displayName⟩,
    ⟨String, Tag.comment, Propval.text?, "", Folder.comment⟩,
    ⟨UInt64, Tag.creationTime, Propval.longLong?, 0, Folder.creationTime⟩,
    ⟨String, Tag.containerClass, Propval.text?, "", Folder.container⟩]

/-- A property sets the field whose tag it has. -/
lemma get_update : ∀ c ∈ fields, ∀ f p, p.tag = c.tag →
    c.get (update f p) = (c.view p).getD c.blank := by
  simp only [fields, List.forall_mem_cons]
  refine ⟨?_, ?_, ?_, ?_, ?_, by simp⟩ <;> intro f p htag <;> unfold update <;> rw [htag] <;> rfl

/-- A property leaves the other fields as they are. -/
lemma get_update_of_ne : ∀ c ∈ fields, ∀ f p, p.tag ≠ c.tag → c.get (update f p) = c.get f := by
  simp only [fields, List.forall_mem_cons]
  refine ⟨?_, ?_, ?_, ?_, ?_, by simp⟩ <;> intro f p htag <;>
    simp only [update, if_neg htag] <;> split_ifs <;> rfl

lemma exists_view : ∀ c ∈ fields, ∀ p : Propval, p.WellTyped → p.tag = c.tag →
    ∃ value, c.view p = some value := by
  simp only [fields, List.forall_mem_cons]
  exact ⟨fun p hp htag => Propval.exists_longLong (hp.kind_of_tag (htag ▸ by decide)),
    fun p hp htag => Propval.exists_text (hp.kind_of_tag (htag ▸ by decide)),
    fun p hp htag => Propval.exists_text (hp.kind_of_tag (htag ▸ by decide)),
    fun p hp htag => Propval.exists_longLong (hp.kind_of_tag (htag ▸ by decide)),
    fun p hp htag => Propval.exists_text (hp.kind_of_tag (htag ▸ by decide)), by simp⟩

lemma reads : Reads fields ofRow ofTable := by
  have hblank : ∀ c ∈ fields, c.get blank = c.blank := by simp [fields, blank]
  refine .of_follows (fun f f' h => ?_) fun c hc =>
    ⟨hblank c hc, get_update c hc, get_update_of_ne c hc, exists_view c hc⟩
  simp only [fields, List.forall_mem_cons] at h
  obtain ⟨hid, hname, hcomment, htime, hcontainer, -⟩ := h
  obtain ⟨id, name, comment, time, container⟩ := f
  obtain rfl : id = _ := hid
  obtain rfl : name = _ := hname
  obtain rfl : comment = _ := hcomment
  obtain rfl : time = _ := htime
  obtain rfl : container = _ := hcontainer
  rfl

end Folder

namespace Member

/-- The fields of a member. -/
def fields : List (Column Member) :=
  [⟨UInt64, Tag.memberId, Propval.longLong?, 0, Member.id⟩,
    ⟨String, Tag.memberName, Propval.text?, "", Member.name⟩,
    ⟨UInt32, Tag.memberRights, Propval.long?, 0, Member.rights⟩]

/-- A property sets the field whose tag it has. -/
lemma get_update : ∀ c ∈ fields, ∀ m p, p.tag = c.tag →
    c.get (update m p) = (c.view p).getD c.blank := by
  simp only [fields, List.forall_mem_cons]
  refine ⟨?_, ?_, ?_, by simp⟩ <;> intro m p htag <;> unfold update <;> rw [htag] <;> rfl

/-- A property leaves the other fields as they are. -/
lemma get_update_of_ne : ∀ c ∈ fields, ∀ m p, p.tag ≠ c.tag → c.get (update m p) = c.get m := by
  simp only [fields, List.forall_mem_cons]
  refine ⟨?_, ?_, ?_, by simp⟩ <;> intro m p htag <;>
    simp only [update, if_neg htag] <;> split_ifs <;> rfl

lemma exists_view : ∀ c ∈ fields, ∀ p : Propval, p.WellTyped → p.tag = c.tag →
    ∃ value, c.view p = some value := by
  simp only [fields, List.forall_mem_cons]
  exact ⟨fun p hp htag => Propval.exists_longLong (hp.kind_of_tag (htag ▸ by decide)),
    fun p hp htag => Propval.exists_text (hp.kind_of_tag (htag ▸ by decide)),
    fun p hp htag => Propval.exists_long (hp.kind_of_tag (htag ▸ by decide)), by simp⟩

lemma reads : Reads fields ofRow ofTable := by
  have hblank : ∀ c ∈ fields, c.get blank = c.blank := by simp [fields, blank]
  refine .of_follows (fun m m' h => ?_) fun c hc =>
    ⟨hblank c hc, get_update c hc, get_update_of_ne c hc, exists_view c hc⟩
  simp only [fields, List.forall_mem_cons] at h
  obtain ⟨hid, hname, hrights, -⟩ := h
  obtain ⟨id, name, rights⟩ := m
  obtain rfl : id = _ := hid
  obtain rfl : name = _ := hname
  obtain rfl : rights = _ := hrights
  rfl

end Member

/-- **Folders and members are what their rows say.** There is one entry for each row, in their
order. A field is what the last value with its tag holds, which is always there, and blank if there
is no such value. So values with other tags do not matter, and the order of the row matters only for
a field for which there are several values. -/
theorem rows_read :
    Reads Folder.fields Folder.ofRow Folder.ofTable ∧
      Reads Member.fields Member.ofRow Member.ofTable :=
  ⟨Folder.reads, Member.reads⟩

/-- A row with two names and a value that is no part of a folder. -/
theorem rows_read_renamed :
    let name (s : String) : Propval := ⟨Tag.displayName, .wideString, .string ⟨s, true⟩⟩
    let body : Propval := ⟨Tag.body, .wideString, .string ⟨"body", true⟩⟩
    let row := [name "old", body, name "new"]
    let column : Column Folder :=
      ⟨String, Tag.displayName, Propval.text?, "", Folder.displayName⟩
    (∀ p ∈ row, p.Reachable) ∧ column ∈ Folder.fields ∧
      column.Tells row (Folder.ofRow row).displayName ∧
      (Folder.ofRow row).displayName = "new" ∧
      Folder.ofRow row = Folder.ofRow [body, name "old", name "new", body] := by
  intro name body row column
  obtain ⟨⟨-, -, htold, -, hothers, -⟩, -⟩ := rows_read
  have hmade (tag : UInt32) (s : String) (p : Propval)
      (h : Propval.ofTag tag (.string ⟨s, true⟩) = .ok p) : p.Reachable := .made h
  have hrow : ∀ p ∈ row, p.Reachable := by
    simp only [row, List.forall_mem_cons]
    exact ⟨hmade Tag.displayName "old" _ rfl, hmade Tag.body "body" _ rfl,
      hmade Tag.displayName "new" _ rfl, by simp⟩
  have hcolumn : column ∈ Folder.fields := by simp [column, Folder.fields]
  exact ⟨hrow, hcolumn, htold row hrow column hcolumn, rfl, hothers _ _ rfl⟩

end StoreRpc
