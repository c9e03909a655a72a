import StoreRpc.Proofs.Buffer.Access

/-!
The cursor of a buffer stays within its bytes.

Writing appends and leaves the cursor alone; reading moves the cursor forward, up to the end at
most, and leaves the bytes alone. Both hold of what stops half way as well, as it is the writing or
reading of the parts in front of the one that failed. All else puts the cursor where it is in
bounds. So no step of any operation reaches past the bytes, and none breaks down.
-/

namespace StoreRpc.Buffer

/-- Bytes were put behind those of the buffer, and it is otherwise as it was. -/
def Grew (before after : Buffer) : Prop :=
  after.cursor = before.cursor ∧ before.bytes <+: after.bytes

/-- The header was set to the number of bytes behind it, and nothing else was touched. -/
structure Framed (before after : Buffer) : Prop where
  header : headerSize ≤ before.bytes.length
  cursor : after.cursor = before.cursor
  payload : after.bytes.drop headerSize = before.bytes.drop headerSize
  word : after.bytes.take headerSize = Word.le headerSize (before.bytes.length - headerSize)
  value : Word.ofLe (after.bytes.take headerSize) = before.bytes.length - headerSize

lemma Grew.inBounds {before after : Buffer} (h : before.Grew after) (hb : before.InBounds) :
    after.InBounds := by
  obtain ⟨hcursor, hbytes⟩ := h
  rw [InBounds, hcursor]
  exact Nat.le_trans hb hbytes.length_le

lemma grew_push (b : Buffer) (e : Encoding) : b.Grew (b.push e).2 :=
  ⟨rfl, List.prefix_append b.bytes e.bytes⟩

/-- One encoding behind another is put out in front of what follows, if it is complete. -/
lemma push_append (b : Buffer) (e e' : Encoding) : b.push (e ++ e') =
    match b.push e with
    | (.ok (), b') => b'.push e'
    | (.error why, b') => (.error why, b') := by
  rcases e with ⟨ps, _ | why⟩
  · simp [push, pushRaw, Encoding.bytes]
  · rfl

/-! ### The length of a message -/

/-- The header is filled in where there is one and the length fits, and nothing else is touched. -/
lemma finalize_eq_ok_iff {b b' : Buffer} : b.finalize = .ok b' ↔
    (headerSize ≤ b.bytes.length ∧ b.bytes.length - headerSize < Word.bound headerSize) ∧
      b' = { b with
        bytes := Word.le headerSize (b.bytes.length - headerSize) ++ b.bytes.drop headerSize } := by
  unfold finalize
  by_cases hheader : b.bytes.length < headerSize
  · simp [hheader, Nat.not_le.mpr hheader]
  · by_cases hfits : b.bytes.length - headerSize < Word.bound headerSize
    · simp [hheader, hfits, Nat.not_lt.mp hheader, eq_comm]
    · simp [hheader, hfits]

lemma framed_finalize {b b' : Buffer} (h : b.finalize = .ok b') : b.Framed b' := by
  obtain ⟨⟨hheader, hfits⟩, rfl⟩ := finalize_eq_ok_iff.mp h
  have hword : (Word.le headerSize (b.bytes.length - headerSize) ++
      b.bytes.drop headerSize).take headerSize = Word.le headerSize (b.bytes.length - headerSize) :=
    List.take_left' (Word.length_le ..)
  refine ⟨hheader, rfl, List.drop_left' (Word.length_le ..), hword, ?_⟩
  rw [hword, Word.ofLe_le, Nat.mod_eq_of_lt hfits]

lemma Framed.length_eq {b b' : Buffer} (h : b.Framed b') : b'.bytes.length = b.bytes.length := by
  have hdrop := congrArg List.length h.payload
  have htake := congrArg List.length h.word
  have hheader := h.header
  rw [List.length_drop, List.length_drop] at hdrop
  rw [List.length_take, Word.length_le] at htake
  omega

/-! ### Runs -/

/-- What can be done with a buffer. -/
inductive Operation : Type 1
  | new
  | ofBytes (bs : List UInt8)
  | start
  | finalize
  /-- Writes a value, or several in a row, or a record of fixed fields. -/
  | push (e : Encoding)
  | pushRaw (bs : List UInt8)
  | pushList16 {α : Type} (item : α → Encoding) (as : List α)
  | pushList32 {α : Type} (item : α → Encoding) (as : List α)
  | pop {α : Type} (r : Reader α)
  | popRaw (n : Nat)
  | popText
  | popList16 {α : Type} (r : Reader α)
  | popList32 {α : Type} (r : Reader α)
  /-- Reads a record of fixed fields, whole or not at all. -/
  | decode {α : Type} (fields : Reader α)
  | clear
  | rewind
  | resize (n : Nat)
  | readFrom (s : Stream) (n : Nat)

namespace Operation

/-- The buffer after the operation, whether it succeeds or fails. There is none if it breaks
down. -/
def perform (b : Buffer) : Operation → Option Buffer
  | new => some .empty
  | ofBytes bs => some (.ofBytes bs)
  | start => some b.start
  | finalize => (Access.finalize b).map Prod.snd
  | push e => (Access.push e b).map Prod.snd
  | pushRaw bs => some (b.pushRaw bs)
  | pushList16 item as => (Access.push (.list16 item as) b).map Prod.snd
  | pushList32 item as => (Access.push (.list32 item as) b).map Prod.snd
  | pop r => (Access.pop r b).map Prod.snd
  | popRaw n => (Access.popRaw n b).map Prod.snd
  | popText => (Access.popText b).map Prod.snd
  | popList16 r => (Access.pop (Reader.list16 r) b).map Prod.snd
  | popList32 r => (Access.pop (Reader.list32 r) b).map Prod.snd
  | decode fields => (Access.decode fields b).map Prod.snd
  | clear => some b.clear
  | rewind => some b.rewind
  | resize n => some (b.resize n)
  | readFrom s n => some (b.readFrom s n).2.1

/-- The operation writes. -/
def Pushes : Operation → Prop
  | push _ | pushRaw _ | pushList16 .. | pushList32 .. => True
  | _ => False

/-- The operation reads. -/
def Pops : Operation → Prop
  | pop _ | popRaw _ | popText | popList16 _ | popList32 _ | decode _ => True
  | _ => False

variable {b : Buffer} {op : Operation}

lemma grew (h : op.Pushes) : ∃ b', op.perform b = some b' ∧ b.Grew b' := by
  have hpush (e : Encoding) : ∃ b', (Access.push e b).map Prod.snd = some b' ∧ b.Grew b' :=
    ⟨_, congrArg (Option.map Prod.snd) (Access.push_eq b e), grew_push b e⟩
  cases op with
  | push e => exact hpush e
  | pushList16 item as => exact hpush (.list16 item as)
  | pushList32 item as => exact hpush (.list32 item as)
  | pushRaw bs => exact ⟨_, rfl, rfl, List.prefix_append b.bytes bs⟩
  | _ => exact h.elim

lemma advanced (hb : b.InBounds) (h : op.Pops) :
    ∃ b', op.perform b = some b' ∧ b.Advanced b' := by
  have hpop {α : Type} {step : Access DecodeError α} {r : Reader α}
      (hstep : step b = some (b.pop r)) :
      ∃ b', (step b).map Prod.snd = some b' ∧ b.Advanced b' :=
    ⟨_, congrArg (Option.map Prod.snd) hstep, advanced_pop hb r⟩
  cases op with
  | pop r => exact hpop (Access.pop_eq hb r)
  | popRaw n => exact hpop (Access.popRaw_eq hb n)
  | popText => exact hpop (Access.popText_eq hb)
  | popList16 r => exact hpop (Access.pop_eq hb _)
  | popList32 r => exact hpop (Access.pop_eq hb _)
  | decode fields => exact hpop (Access.decode_eq hb fields)
  | _ => exact h.elim

lemma inBounds_finalize (hb : b.InBounds) :
    ∃ b', Operation.finalize.perform b = some b' ∧ b'.InBounds := by
  rw [perform, Access.finalize_eq]
  cases h : b.finalize with
  | error why => exact ⟨b, rfl, hb⟩
  | ok b' =>
    have hframed := framed_finalize h
    refine ⟨b', rfl, ?_⟩
    rw [InBounds, hframed.cursor, hframed.length_eq]
    exact hb

/-- All else leaves the cursor in bounds. -/
lemma inBounds_of_not (hb : b.InBounds) (hpushes : ¬ op.Pushes) (hpops : ¬ op.Pops) :
    ∃ b', op.perform b = some b' ∧ b'.InBounds := by
  cases op with
  | push | pushRaw | pushList16 | pushList32 => exact absurd trivial hpushes
  | pop | popRaw | popText | popList16 | popList32 | decode => exact absurd trivial hpops
  | finalize => exact inBounds_finalize hb
  | resize n =>
    refine ⟨_, rfl, ?_⟩
    change min b.cursor n ≤ (b.bytes.take n ++ List.replicate (n - b.bytes.length) 0).length
    rw [InBounds] at hb
    simp only [List.length_append, List.length_take, List.length_replicate]
    omega
  | readFrom s n =>
    refine ⟨_, rfl, ?_⟩
    simp only [Buffer.readFrom, refill]
    split <;> exact Nat.zero_le _
  | new | ofBytes | start | clear | rewind => exact ⟨_, rfl, Nat.zero_le _⟩

/-- No operation breaks down, and every one leaves the cursor in bounds. -/
lemma exists_perform (hb : b.InBounds) (op : Operation) :
    ∃ b', op.perform b = some b' ∧ b'.InBounds ∧
      (op.Pushes → b.Grew b') ∧ (op.Pops → b.Advanced b') := by
  by_cases hpushes : op.Pushes
  · obtain ⟨b', hperform, hgrew⟩ := grew hpushes
    have hpops : ¬ op.Pops := by cases op <;> first | exact id | exact hpushes.elim
    exact ⟨b', hperform, hgrew.inBounds hb, fun _ => hgrew, fun h => absurd h hpops⟩
  by_cases hpops : op.Pops
  · obtain ⟨b', hperform, hadvanced⟩ := advanced hb hpops
    exact ⟨b', hperform, hadvanced.inBounds, fun h => absurd h hpushes, fun _ => hadvanced⟩
  · obtain ⟨b', hperform, hb'⟩ := inBounds_of_not hb hpushes hpops
    exact ⟨b', hperform, hb', fun h => absurd h hpushes, fun h => absurd h hpops⟩

end Operation

/-- The buffer after these operations, the first of them on an empty one, if none breaks down. -/
def after (ops : List Operation) : Option Buffer := ops.foldlM Operation.perform .empty

lemma inBounds_foldlM {b : Buffer} (hb : b.InBounds) (ops : List Operation) :
    ∃ b', ops.foldlM Operation.perform b = some b' ∧ b'.InBounds := by
  induction ops generalizing b with
  | nil => exact ⟨b, rfl, hb⟩
  | cons op ops ih =>
    obtain ⟨b', hperform, hb', -⟩ := Operation.exists_perform hb op
    obtain ⟨out, hout, hbounds⟩ := ih hb'
    refine ⟨out, ?_, hbounds⟩
    rw [List.foldlM_cons, hperform]
    exact hout

/-- **Cursor and contents stay in order.** No operation ever breaks down, whatever was done before,
failed operations among it: the cursor is not past the end, so that the unread bytes can be counted
and slices taken. Writing, also if it fails, only appends; reading, also if it fails, only moves the
cursor forward within the bytes. Filling in the length of a message changes its header to that
length, if there is room for it and it fits, and else nothing. What is written or read in parts is
so on the buffer that the parts before left behind, and what is read off a buffer is what is read
off its unread bytes. -/
theorem inBounds_after (ops : List Operation) :
    ∃ b, after ops = some b ∧ b.InBounds ∧
    (Access.remaining : Access DecodeError Nat) b = some (.ok (b.bytes.length - b.cursor), b) ∧
    (∀ op : Operation, ∃ b', op.perform b = some b' ∧
      (op.Pushes → b.Grew b') ∧ (op.Pops → b.Advanced b')) ∧
    ((∃ b', Access.finalize b = some (.ok (), b')) ↔
      headerSize ≤ b.bytes.length ∧ b.bytes.length - headerSize < Word.bound headerSize) ∧
    (∀ b', Access.finalize b = some (.ok (), b') → b.Framed b') ∧
    (∀ why b', Access.finalize b = some (.error why, b') → b' = b) ∧
    (∀ e : Encoding, Access.push e b = some (b.push e)) ∧
    (∀ e e' : Encoding, b.push (e ++ e') =
      match b.push e with
      | (.ok (), b') => b'.push e'
      | (.error why, b') => (.error why, b')) ∧
    (∀ (α : Type) (r : Reader α), Access.pop r b = some (b.pop r)) ∧
    ∀ (α β : Type) (r : Reader α) (f : α → Reader β), b.pop (r >>= f) =
      match b.pop r with
      | (.ok a, b') => b'.pop (f a)
      | (.error why, b') => (.error why, b') := by
  obtain ⟨b, hafter, hb⟩ := inBounds_foldlM (b := .empty) (Nat.zero_le _) ops
  refine ⟨b, hafter, hb, if_pos hb, fun op => ?_, ?_,
    fun b' h => framed_finalize (Access.finalize_eq_ok_iff.mp h),
    fun why b' => Access.eq_of_finalize_eq_error, Access.push_eq b, push_append b,
    fun _ => Access.pop_eq hb, fun _ _ => pop_bind b⟩
  · obtain ⟨b', hperform, -, hchange⟩ := Operation.exists_perform hb op
    exact ⟨b', hperform, hchange⟩
  · simp only [Access.finalize_eq_ok_iff, finalize_eq_ok_iff, exists_and_left, exists_eq, and_true]

/-- A pair whose second part cannot be written, a read of the first part, and a cut below the
cursor. -/
theorem inBounds_after_cut :
    let ops : List Operation :=
      [.push (.u16 7 ++ .text "a\x00b"), .pop Reader.u16, .resize 1]
    let b : Buffer := ⟨[7], 1⟩
    after ops = some b ∧ b.InBounds ∧
      (∃ b', (Operation.pushRaw [5]).perform b = some b' ∧ b.Grew b') ∧
      (∃ b', (Operation.popList16 Reader.text).perform b = some b' ∧ b.Advanced b') ∧
      Operation.finalize.perform b = some b := by
  intro ops b
  have hafter : after ops = some b := by decide
  have hfinalize : Access.finalize b = some (.error .unframed, b) := by decide
  obtain ⟨out, hout, hbounds, -, hops, -⟩ := inBounds_after ops
  obtain rfl : b = out := Option.some.inj (hafter.symm.trans hout)
  obtain ⟨pushed, hpushed, hgrew, -⟩ := hops (.pushRaw [5])
  obtain ⟨popped, hpopped, -, hadvanced⟩ := hops (.popList16 Reader.text)
  exact ⟨hafter, hbounds, ⟨pushed, hpushed, hgrew trivial⟩, ⟨popped, hpopped, hadvanced trivial⟩,
    congrArg (Option.map Prod.snd) hfinalize⟩

end StoreRpc.Buffer
