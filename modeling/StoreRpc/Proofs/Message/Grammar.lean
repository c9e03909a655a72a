import StoreRpc.Proofs.Property.RoundTrip
import StoreRpc.Proofs.Message.Nesting

/-!
The grammar of message content.

A message may be written in several forms: any byte but 0 says that a set or an embedded message
is there, and an empty set may be left out or counted. The reader takes every form of a message
and nothing else.
-/

namespace StoreRpc

/-! ### Forms -/

section Forms

variable {α : Type}

/-- Items behind their count, a word of this width. -/
def CountedForm (width : Nat) (item : α → List UInt8 → Prop) (as : List α) (bs : List UInt8) :
    Prop :=
  as.length < Word.bound width ∧ ∃ items, RowForm item as items ∧
    bs = Word.le width as.length ++ items

/-- A set that may be left out if it is empty: a byte other than 0, a four-byte count and the
items. -/
inductive SetForm (item : α → List UInt8 → Prop) : List α → List UInt8 → Prop
  | absent : SetForm item [] [0]
  | present {as items} (flag : UInt8) (hflag : flag ≠ 0) (hcount : as.length < Word.bound 4)
    (has : RowForm item as items) : SetForm item as (flag :: (Word.le 4 as.length ++ items))

end Forms

/-- A property value as it is written. -/
def Propval.Form (p : Propval) (bs : List UInt8) : Prop := p.WellTyped ∧ p.encode.result = .ok bs

mutual

/-- The forms of a message. -/
inductive Message.Form : Message → List UInt8 → Prop
  | mk {ps : List Propval} {rs : List (List Propval)} {as : List Attachment} {x y z : List UInt8}
    (hps : CountedForm 2 Propval.Form ps x) (hrs : SetForm (CountedForm 2 Propval.Form) rs y)
    (has : SetForm Attachment.Form as z) : Message.Form ⟨ps, rs, as⟩ (x ++ (y ++ z))

/-- The forms of an attachment. -/
inductive Attachment.Form : Attachment → List UInt8 → Prop
  | plain {ps : List Propval} {x : List UInt8} (hps : CountedForm 2 Propval.Form ps x) :
    Attachment.Form ⟨ps, none⟩ (x ++ [0])
  | embedding {ps : List Propval} {m : Message} {x y : List UInt8} (flag : UInt8)
    (hflag : flag ≠ 0) (hps : CountedForm 2 Propval.Form ps x) (hm : Message.Form m y) :
    Attachment.Form ⟨ps, some m⟩ (x ++ flag :: y)

end

/-! ### Nesting and ownership -/

mutual

/-- How deep messages are nested in the message. -/
def Message.depth : Message → Nat
  | ⟨_, _, as⟩ => (as.map Attachment.depth).foldr max 0

def Attachment.depth : Attachment → Nat
  | ⟨_, none⟩ => 0
  | ⟨_, some m⟩ => m.depth + 1

end

mutual

/-- The same message with no borrowed part. -/
def Message.toOwned : Message → Message
  | ⟨ps, rs, as⟩ =>
    ⟨ps.map Propval.toOwned, rs.map (·.map Propval.toOwned), as.map Attachment.toOwned⟩

def Attachment.toOwned : Attachment → Attachment
  | ⟨ps, none⟩ => ⟨ps.map Propval.toOwned, none⟩
  | ⟨ps, some m⟩ => ⟨ps.map Propval.toOwned, some m.toOwned⟩

end

namespace Message

/-- What follows from the embedded messages for the message holds of all messages. -/
theorem embedded_induction {motive : Message → Prop}
    (level : ∀ ps rs as, (∀ a ∈ as, ∀ m, a.embedded = some m → motive m) → motive ⟨ps, rs, as⟩)
    (m : Message) : motive m :=
  match m with
  | ⟨ps, rs, as⟩ => level ps rs as fun a _ha m _hm => embedded_induction level m
  termination_by sizeOf m
  decreasing_by
    have hlist := List.sizeOf_lt_of_mem _ha
    obtain ⟨ps', embedded⟩ := a
    obtain rfl : embedded = some m := _hm
    simp only [Attachment.mk.sizeOf_spec, Message.mk.sizeOf_spec, Option.some.sizeOf_spec] at *
    omega

lemma depth_lt_iff {ps : List Propval} {rs : List (List Propval)} {as : List Attachment} {n : Nat} :
    depth ⟨ps, rs, as⟩ < n + 1 ↔ ∀ a ∈ as, a.depth ≤ n := by
  rw [depth, Nat.lt_succ_iff]
  induction as with
  | nil => simp
  | cons a as ih => rw [List.map_cons, List.foldr_cons, Nat.max_le, ih, List.forall_mem_cons]

end Message

lemma map_eq_self_iff {α : Type} {f : α → α} {as : List α} :
    as.map f = as ↔ ∀ a ∈ as, f a = a := by
  simpa using List.map_inj_left (f := f) (g := id) (l := as)

lemma Message.toOwned_eq_self_iff {ps : List Propval} {rs : List (List Propval)}
    {as : List Attachment} :
    toOwned ⟨ps, rs, as⟩ = ⟨ps, rs, as⟩ ↔ (∀ p ∈ ps, p.toOwned = p) ∧
      (∀ r ∈ rs, ∀ p ∈ r, p.toOwned = p) ∧ ∀ a ∈ as, a.toOwned = a := by
  simp only [toOwned, Message.mk.injEq, map_eq_self_iff]

lemma Attachment.toOwned_eq_self_iff {ps : List Propval} {embedded : Option Message} :
    toOwned ⟨ps, embedded⟩ = ⟨ps, embedded⟩ ↔
      (∀ p ∈ ps, p.toOwned = p) ∧ ∀ m, embedded = some m → m.toOwned = m := by
  cases embedded <;> simp [toOwned, map_eq_self_iff]

/-! ### What the forms of a message have in common -/

section Forms

variable {α : Type} {item : α → List UInt8 → Prop} {f : α → α} {as : List α} {bs : List UInt8}

lemma RowForm.map (h : RowForm item as bs) (hf : ∀ a ∈ as, ∀ x, item a x → item (f a) x) :
    RowForm item (as.map f) bs := by
  induction h with
  | nil => exact .nil
  | cons ha _ ih =>
    obtain ⟨hhead, htail⟩ := List.forall_mem_cons.mp hf
    exact .cons (hhead _ ha) (ih htail)

lemma CountedForm.map {width : Nat} (h : CountedForm width item as bs)
    (hf : ∀ a ∈ as, ∀ x, item a x → item (f a) x) : CountedForm width item (as.map f) bs := by
  obtain ⟨hcount, items, hitems, rfl⟩ := h
  refine ⟨by rwa [List.length_map], items, hitems.map hf, ?_⟩
  rw [List.length_map]

lemma SetForm.map (h : SetForm item as bs) (hf : ∀ a ∈ as, ∀ x, item a x → item (f a) x) :
    SetForm item (as.map f) bs := by
  cases h with
  | absent => exact .absent
  | present flag hflag hcount has =>
    have hform := SetForm.present flag hflag (by rwa [List.length_map]) (has.map hf)
    rwa [List.length_map] at hform

lemma RowForm.exists_of_mem (h : RowForm item as bs) {a : α} (ha : a ∈ as) :
    ∃ x, item a x ∧ x.length ≤ bs.length := by
  induction h with
  | nil => cases ha
  | cons hx _ ih =>
    rw [List.length_append]
    obtain rfl | hmem := List.mem_cons.mp ha
    · exact ⟨_, hx, Nat.le_add_right ..⟩
    · obtain ⟨x, hx, hlength⟩ := ih hmem
      exact ⟨x, hx, Nat.le_add_left_of_le hlength⟩

lemma CountedForm.le_length {width : Nat} (h : CountedForm width item as bs) :
    width ≤ bs.length := by
  obtain ⟨-, items, -, rfl⟩ := h
  rw [List.length_append, Word.length_le]
  exact Nat.le_add_right ..

lemma SetForm.length_pos (h : SetForm item as bs) : 0 < bs.length := by
  cases h <;> simp

/-- Items stand behind the byte that tells that they are there, and their count. -/
lemma SetForm.exists_of_mem (h : SetForm item as bs) {a : α} (ha : a ∈ as) :
    ∃ x, item a x ∧ x.length + 5 ≤ bs.length := by
  cases h with
  | absent => cases ha
  | present flag hflag hcount has =>
    obtain ⟨x, hx, hlength⟩ := has.exists_of_mem ha
    refine ⟨x, hx, ?_⟩
    rw [List.length_cons, List.length_append, Word.length_le]
    omega

end Forms

lemma Propval.ListForm.toOwned {ps : List Propval} {bs : List UInt8}
    (h : CountedForm 2 Propval.Form ps bs) :
    CountedForm 2 Propval.Form (ps.map Propval.toOwned) bs :=
  h.map fun p _ x hp => ⟨wellTyped_toOwned.mpr hp.1, by rw [encode_toOwned, hp.2]⟩

namespace Message

lemma toOwned_toOwned (m : Message) : m.toOwned.toOwned = m.toOwned := by
  induction m using embedded_induction with
  | level ps rs as ih =>
    have has : ∀ a ∈ as, a.toOwned.toOwned = a.toOwned := by
      rintro ⟨qs, _ | m⟩ ha
      · simp [Attachment.toOwned, Propval.toOwned, Function.comp_def]
      · simp [Attachment.toOwned, Propval.toOwned, Function.comp_def, ih _ ha m rfl]
    simpa [toOwned, Propval.toOwned, Function.comp_def] using has

/-- Who owns the parts of a message is not seen in its forms. -/
lemma Form.toOwned {m : Message} {bs : List UInt8} (h : m.Form bs) : m.toOwned.Form bs := by
  induction m using embedded_induction generalizing bs with
  | level ps rs as ih =>
    cases h with
    | mk hps hrs has =>
      rw [Message.toOwned]
      refine .mk (Propval.ListForm.toOwned hps) (hrs.map fun rs _ x => Propval.ListForm.toOwned)
        (has.map ?_)
      intro a ha x h
      cases h with
      | plain hps =>
        rw [Attachment.toOwned]
        exact .plain (Propval.ListForm.toOwned hps)
      | embedding flag hflag hps hm =>
        rw [Attachment.toOwned]
        exact .embedding flag hflag (Propval.ListForm.toOwned hps) (ih _ ha _ rfl hm)

/-- Every level of nesting takes bytes: the counts of the values, of the attachments and of their
values, and the bytes that tell what is there. -/
lemma Form.depth_le {m : Message} {bs : List UInt8} (h : m.Form bs) :
    11 * m.depth + 4 ≤ bs.length := by
  induction m using embedded_induction generalizing bs with
  | level ps rs as ih =>
    cases h with
    | @mk _ _ _ x y z hps hrs has =>
      have hx := hps.le_length
      have hy := hrs.length_pos
      have hz := has.length_pos
      simp only [List.length_append]
      have hattachment : ∀ a ∈ as, a.depth ≤ (x.length + (y.length + z.length) - 4) / 11 := by
        intro a ha
        obtain ⟨w, hw, hlength⟩ := has.exists_of_mem ha
        cases hw with
        | plain =>
          rw [Attachment.depth]
          exact Nat.zero_le _
        | embedding flag hflag hps hm =>
          have hcount := hps.le_length
          have hinner := ih _ ha _ rfl hm
          rw [List.length_append, List.length_cons] at hlength
          rw [Attachment.depth]
          omega
      have hdepth : depth ⟨ps, rs, as⟩ < _ := depth_lt_iff.mpr hattachment
      omega

end Message

/-! ### Readers and forms -/

namespace Accepts

variable {α : Type} {good : α → Prop} {form : α → List UInt8 → Prop} {r : Reader α}

/-- Items behind a count, whichever numbers it is read as. -/
lemma behindCount (h : Accepts good form r) {width : Nat} {ν : Type} {toNat : ν → Nat}
    {ofNat : Nat → ν} {number : Reader ν}
    (hnumber : Exact (fun v => .word width (toNat v)) number)
    (lt : ∀ v, toNat v < Word.bound width) (right : ∀ n < Word.bound width, toNat (ofNat n) = n) :
    Accepts (∀ a ∈ ·, good a) (CountedForm width form)
      (number >>= fun v => Reader.counted r (toNat v)) := by
  intro as bs rest
  simp only [Reader.bind_eq_ok_iff, hnumber _ _ _, Encoding.result_word, h.counted]
  constructor
  · rintro ⟨v, _, ⟨x, hx, rfl⟩, hlength, hgood, items, hitems, rfl⟩
    cases hx
    refine ⟨hgood, _, ⟨hlength ▸ lt v, items, hitems, rfl⟩, ?_⟩
    rw [hlength, List.append_assoc]
  · rintro ⟨hgood, _, ⟨hcount, items, hitems, rfl⟩, rfl⟩
    refine ⟨ofNat as.length, items ++ rest, ⟨_, rfl, ?_⟩, (right _ hcount).symm, hgood, items,
      hitems, rfl⟩
    rw [right _ hcount, List.append_assoc]

lemma list16 (h : Accepts good form r) :
    Accepts (∀ a ∈ ·, good a) (CountedForm 2 form) (Reader.list16 r) :=
  h.behindCount Exact.u16 UInt16.toNat_lt fun _ => UInt16.toNat_ofNat_of_lt

lemma list32 (h : Accepts good form r) :
    Accepts (∀ a ∈ ·, good a) (CountedForm 4 form) (Reader.list32 r) :=
  h.behindCount Exact.u32 UInt32.toNat_lt fun _ => UInt32.toNat_ofNat_of_lt

end Accepts

/-- A set is read in all its forms. -/
lemma Accepts.optional {α : Type} {good : α → Prop} {form : α → List UInt8 → Prop} {r : Reader α}
    (h : Accepts good form r) :
    Accepts (∀ a ∈ ·, good a) (SetForm form) (Message.readOptional r) := by
  intro as bs rest
  simp only [Message.readOptional, Reader.bind_eq_ok_iff, Reader.flag_eq_ok_iff]
  constructor
  · rintro ⟨_, _, ⟨flag, rfl, rfl⟩, has⟩
    by_cases hflag : flag = 0
    · subst hflag
      obtain ⟨rfl, rfl⟩ := Reader.pure_eq_ok_iff.mp has
      exact ⟨by simp, [0], .absent, rfl⟩
    · rw [if_pos (bne_iff_ne.mpr hflag), h.list32 as] at has
      obtain ⟨hgood, _, ⟨hcount, items, hitems, rfl⟩, rfl⟩ := has
      exact ⟨hgood, _, .present flag hflag hcount hitems, rfl⟩
  · rintro ⟨hgood, _, hform, rfl⟩
    cases hform with
    | absent => exact ⟨false, rest, ⟨0, rfl, rfl⟩, rfl⟩
    | present flag hflag hcount hitems =>
      refine ⟨true, _, ⟨flag, rfl, bne_iff_ne.mpr hflag⟩, ?_⟩
      exact (h.list32 as _ rest).mpr ⟨hgood, _, ⟨hcount, _, hitems, rfl⟩, rfl⟩

namespace Message

variable {message : Reader Message} {depth : Nat}

lemma propvals_accepts :
    Accepts (∀ p ∈ ·, p.toOwned = p) (CountedForm 2 Propval.Form)
      (Reader.list16 Propval.reader) := by
  refine Accepts.list16 fun p bs rest => ?_
  rw [Propval.reader_exact p bs rest]
  constructor
  · rintro ⟨⟨hwell, howned⟩, front, hfront, rfl⟩
    exact ⟨howned, front, ⟨hwell, hfront⟩, rfl⟩
  · rintro ⟨howned, front, ⟨hwell, hfront⟩, rfl⟩
    exact ⟨⟨hwell, howned⟩, front, hfront, rfl⟩

lemma readAttachment_accepts
    (h : Accepts (fun m : Message => m.toOwned = m ∧ m.depth < depth) Form message) :
    Accepts (fun a : Attachment => a.toOwned = a ∧ a.depth ≤ depth) Attachment.Form
      (readAttachment message) := by
  intro a bs rest
  simp only [readAttachment, Reader.bind_eq_ok_iff, propvals_accepts _ _ _,
    Reader.flag_eq_ok_iff]
  constructor
  · rintro ⟨ps, _, ⟨hps, x, hx, rfl⟩, _, _, ⟨flag, rfl, rfl⟩, ha⟩
    by_cases hflag : flag = 0
    · subst hflag
      obtain ⟨rfl, rfl⟩ := Reader.pure_eq_ok_iff.mp ha
      refine ⟨⟨Attachment.toOwned_eq_self_iff.mpr ⟨hps, nofun⟩, ?_⟩, _, .plain hx, ?_⟩
      · rw [Attachment.depth]
        exact Nat.zero_le depth
      · rw [List.append_assoc, List.singleton_append]
    · rw [if_pos (bne_iff_ne.mpr hflag), Reader.map_eq_ok_iff] at ha
      obtain ⟨m, hm, rfl⟩ := ha
      obtain ⟨⟨howned, hdepth⟩, y, hy, rfl⟩ := (h m _ rest).mp hm
      refine ⟨⟨Attachment.toOwned_eq_self_iff.mpr ⟨hps, ?_⟩, ?_⟩, _,
        .embedding flag hflag hx hy, ?_⟩
      · rintro _ ⟨⟩
        exact howned
      · rw [Attachment.depth]
        exact hdepth
      · rw [List.append_assoc, List.cons_append]
  · rintro ⟨⟨howned, hdepth⟩, _, hform, rfl⟩
    cases hform with
    | plain hx =>
      have hps := (Attachment.toOwned_eq_self_iff.mp howned).1
      exact ⟨_, _, ⟨hps, _, hx, List.append_assoc ..⟩, false, rest, ⟨0, rfl, rfl⟩, rfl⟩
    | embedding flag hflag hx hm =>
      obtain ⟨hps, hembedded⟩ := Attachment.toOwned_eq_self_iff.mp howned
      rw [Attachment.depth] at hdepth
      have hread := (h _ _ rest).mpr ⟨⟨hembedded _ rfl, hdepth⟩, _, hm, rfl⟩
      refine ⟨_, _, ⟨hps, _, hx, List.append_assoc ..⟩, true, _,
        ⟨flag, rfl, bne_iff_ne.mpr hflag⟩, ?_⟩
      exact Reader.map_eq_ok_iff.mpr ⟨_, hread, rfl⟩

lemma readLevel_accepts
    (h : Accepts (fun m : Message => m.toOwned = m ∧ m.depth < depth) Form message) :
    Accepts (fun m : Message => m.toOwned = m ∧ m.depth < depth + 1) Form (readLevel message) := by
  rintro ⟨ps, rs, as⟩ bs rest
  simp only [readLevel, Reader.bind_eq_ok_iff, propvals_accepts _ _ _,
    propvals_accepts.optional _ _ _, (readAttachment_accepts h).optional _ _ _,
    Reader.pure_eq_ok_iff, toOwned_eq_self_iff, depth_lt_iff]
  constructor
  · rintro ⟨_, _, ⟨hps, x, hx, rfl⟩, _, _, ⟨hrs, y, hy, rfl⟩, _, _, ⟨has, z, hz, rfl⟩, ⟨⟩, rfl⟩
    refine ⟨⟨⟨hps, hrs, fun a ha => (has a ha).1⟩, fun a ha => (has a ha).2⟩, _, .mk hx hy hz, ?_⟩
    simp only [List.append_assoc]
  · rintro ⟨⟨⟨hps, hrs, howned⟩, hdepth⟩, _, hform, rfl⟩
    cases hform with
    | mk hx hy hz =>
      simp only [List.append_assoc]
      exact ⟨ps, _, ⟨hps, _, hx, rfl⟩, rs, _, ⟨hrs, _, hy, rfl⟩, as, rest,
        ⟨fun a ha => ⟨howned a ha, hdepth a ha⟩, _, hz, rfl⟩, rfl, rfl⟩

lemma readWithin_accepts (depth : Nat) :
    Accepts (fun m : Message => m.toOwned = m ∧ m.depth < depth) Form (readWithin depth) := by
  induction depth with
  | zero =>
    intro m bs rest
    constructor
    · intro h
      cases h
    · rintro ⟨⟨-, hdepth⟩, -⟩
      cases hdepth
  | succ depth ih => exact readLevel_accepts ih

/-- There are bytes for all levels of what was read. -/
theorem reader_accepts : Accepts (fun m : Message => m.toOwned = m) Form reader := by
  intro m bs rest
  rw [reader_apply, readWithin_accepts _ m bs rest]
  constructor
  · rintro ⟨⟨howned, -⟩, hform⟩
    exact ⟨howned, hform⟩
  · rintro ⟨howned, front, hform, rfl⟩
    have hdepth := hform.depth_le
    refine ⟨⟨howned, ?_⟩, front, hform, rfl⟩
    rw [List.length_append]
    omega

/-- **Messages are read in all their forms, and in no others.** Any form of a message is popped as
that message, with its parts owned, whatever follows. What was popped took a form of the message,
with at least eleven bytes for each level of nesting. Reading ends: the bytes there are bound the
levels, and nothing that would be read below these has a say in what is read. -/
theorem pop_forms :
    (∀ (m : Message) (form suffix : List UInt8) (b : Buffer), m.Form form →
      b.unread = form ++ suffix →
        ∃ b', b.pop reader = (.ok m.toOwned, b') ∧ b.Took b' form ∧ b'.unread = suffix) ∧
    (∀ (m : Message) (b b' : Buffer), b.pop reader = (.ok m, b') →
      m.toOwned = m ∧ ∃ form, m.Form form ∧ b.Took b' form ∧ 11 * m.depth + 4 ≤ form.length) ∧
    (∀ bs : List UInt8, readLevel reader bs = reader bs) ∧
    ∀ (bottom : Reader Message) (bs : List UInt8) (n : Nat), bs.length < n →
      readLevel^[n] bottom bs = reader bs := by
  refine ⟨fun m form suffix b hform hb => ?_, fun m b b' hpop => ?_, readLevel_reader,
    fun bottom bs n hn => iterate_readLevel bottom hn⟩
  · have hread := (reader_accepts m.toOwned b.unread suffix).mpr
      ⟨m.toOwned_toOwned, form, hform.toOwned, hb⟩
    exact Buffer.pop_of_read hb hread
  · obtain ⟨rest, hread⟩ := Buffer.exists_read_of_pop hpop
    obtain ⟨howned, form, hform, hb⟩ := (reader_accepts m b.unread rest).mp hread
    obtain ⟨after, hpop', htook, -⟩ := Buffer.pop_of_read hb hread
    obtain rfl : after = b' := congrArg Prod.snd (hpop'.symm.trans hpop)
    exact ⟨howned, form, hform, htook, hform.depth_le⟩

/-- A message in an attachment with a borrowed name. Sets that are there are marked by 2 and 3 and
the message by 7, and its empty recipients are counted. -/
theorem pop_forms_embedded :
    let name : Propval := ⟨0x3001001F, .wideString, .string ⟨"a", true⟩⟩
    let m : Message := ⟨[], [], [⟨[name], some ⟨[], [], []⟩⟩]⟩
    let form : List UInt8 := [0, 0, 0, 2, 1, 0, 0, 0, 1, 0, 0x1F, 0, 0x01, 0x30, 0x61, 0, 7,
      0, 0, 3, 0, 0, 0, 0, 0]
    m.Form form ∧
      ∃ b', (Buffer.mk (9 :: form ++ [5]) 1).pop reader = (.ok m.toOwned, b') ∧
        b'.unread = [5] ∧ ∃ form', m.toOwned.Form form' ∧ 15 ≤ form'.length := by
  intro name m form
  have hname : Propval.Form name [0x1F, 0, 0x01, 0x30, 0x61, 0] := ⟨by decide, by decide⟩
  have hnone : CountedForm 2 Propval.Form [] [0, 0] := ⟨by decide, [], .nil, rfl⟩
  have hnames : CountedForm 2 Propval.Form [name] [1, 0, 0x1F, 0, 0x01, 0x30, 0x61, 0] :=
    ⟨by decide, _, .cons hname .nil, by simp [Word.le]⟩
  have hinner : Message.Form ⟨[], [], []⟩ [0, 0, 3, 0, 0, 0, 0, 0] :=
    .mk hnone (.present 3 (by decide) (by decide) .nil) .absent
  have hattachment := Attachment.Form.embedding 7 (by decide) hnames hinner
  have hset := SetForm.present 2 (by decide) (by decide) (.cons hattachment .nil)
  have hm : m.Form form := by simpa [Word.le] using Form.mk hnone .absent hset
  obtain ⟨hread, htaken, -, -⟩ := pop_forms
  obtain ⟨b', hpop, -, hrest⟩ := hread m form [5] (.mk (9 :: form ++ [5]) 1) hm rfl
  obtain ⟨-, form', hform', -, hlength⟩ := htaken _ _ _ hpop
  refine ⟨hm, b', hpop, hrest, form', hform', ?_⟩
  simpa [m, toOwned, Attachment.toOwned, depth, Attachment.depth] using hlength

end Message

end StoreRpc
