import StoreRpc.Proofs.Property.RoundTrip
import StoreRpc.Restriction

/-!
The grammar of filters, as a reader.

A node travels as its code and its own fields, and the filters under it follow. So filters in a
row are read node by node: a node adds as many filters to those that are still due as stand under
it, and takes them off the front of what comes back.
-/

namespace StoreRpc.Restriction

/-! ### Nodes -/

/-- A node by itself, which tells how many filters stand under it. -/
inductive Head
  | and (count : Nat)
  | or (count : Nat)
  | not
  | content (fuzzy tag : UInt32) (propval : Propval)
  | property (op : Comparison) (tag : UInt32) (propval : Propval)
  | compareTags (op : Comparison) (tag1 tag2 : UInt32)
  | bitmask (all : Bool) (tag mask : UInt32)
  | size (op : Comparison) (tag bytes : UInt32)
  | has (tag : UInt32)
  | subobject (object : UInt32)
  | comment (propvals : List Propval) (follows : Bool)
  | count (limit : UInt32)

namespace Head

def arity : Head → Nat
  | and n => n
  | or n => n
  | not => 1
  | subobject _ => 1
  | comment _ follows => follows.toNat
  | count _ => 1
  | _ => 0

/-- The filter with this node on top of these. -/
def build : Head → List Restriction → Restriction
  | and _, parts => .and parts
  | or _, parts => .or parts
  | not, parts => .not (parts.headD null)
  | content fuzzy tag p, _ => .content fuzzy tag p
  | property op tag p, _ => .property op tag p
  | compareTags op tag1 tag2, _ => .compareTags op tag1 tag2
  | bitmask all tag mask, _ => .bitmask all tag mask
  | size op tag n, _ => .size op tag n
  | has tag, _ => .has tag
  | subobject object, parts => .subobject object (parts.headD null)
  | comment ps _, parts => .comment ps parts.head?
  | count limit, parts => .count limit (parts.headD null)

end Head

/-! ### Reading -/

/-- What reads a byte string, and may find bytes which stand for nothing. -/
abbrev Scanner := OptionT (ExceptT DecodeError (StateM (List UInt8)))

/-- A reader finds whatever it reads. -/
instance : MonadLift Reader Scanner where
  monadLift r := OptionT.mk fun bs => (some <$> r) bs

def scanComparison : Scanner Comparison := do
  match ← Reader.u8 with
  | 0x00 => return .lt
  | 0x01 => return .le
  | 0x02 => return .gt
  | 0x03 => return .ge
  | 0x04 => return .eq
  | 0x05 => return .ne
  | 0x06 => return .regex
  | 0x64 => return .member
  | _ => failure

def scanFlag : Scanner Bool := do
  match ← Reader.u8 with
  | 0 => return false
  | 1 => return true
  | _ => failure

/-- The fields of the node with this code. -/
def scanFields : UInt8 → Scanner Head
  | 0x00 => do return .and (← Reader.u32).toNat
  | 0x01 => do return .or (← Reader.u32).toNat
  | 0x02 => return .not
  | 0x03 => do return .content (← Reader.u32) (← Reader.u32) (← Propval.reader)
  | 0x04 => do return .property (← scanComparison) (← Reader.u32) (← Propval.reader)
  | 0x05 => do return .compareTags (← scanComparison) (← Reader.u32) (← Reader.u32)
  | 0x06 => do return .bitmask (!(← scanFlag)) (← Reader.u32) (← Reader.u32)
  | 0x07 => do return .size (← scanComparison) (← Reader.u32) (← Reader.u32)
  | 0x08 => do return .has (← Reader.u32)
  | 0x09 => do return .subobject (← Reader.u32)
  | 0x0a => do
    let n ← Reader.u8
    if n = 0 then failure
    let ps ← Reader.counted Propval.reader n.toNat
    return .comment ps (← scanFlag)
  | 0x0b => do return .count (← Reader.u32)
  | _ => failure

def scanHead : Scanner Head := do scanFields (← Reader.u8)

lemma run_liftM_eq_ok_iff {α : Type} {r : Reader α} {bs rest : List UInt8} {a : α} :
    (liftM r : Scanner α).run bs = (.ok (some a), rest) ↔ r bs = (.ok a, rest) := by
  change (some <$> r) bs = _ ↔ _
  simp [Reader.map_eq_ok_iff]

@[simp] lemma run_pure {α : Type} (a : α) (bs : List UInt8) :
    (pure a : Scanner α).run bs = (.ok (some a), bs) := rfl

lemma run_bind {α β : Type} (m : Scanner α) (f : α → Scanner β) (bs : List UInt8) :
    (m >>= f).run bs = match m.run bs with
      | (.ok (some a), rest) => (f a).run rest
      | (.ok none, rest) => (.ok none, rest)
      | (.error e, rest) => (.error e, rest) := by
  simp only [OptionT.run, bind, OptionT.bind, OptionT.mk, ExceptT.bind, ExceptT.mk, StateT.bind]
  rcases m bs with ⟨_ | _ | a, rest⟩ <;> rfl

lemma run_map {α β : Type} (g : α → β) (m : Scanner α) (bs : List UInt8) :
    (g <$> m).run bs = ((m.run bs).1.map (Option.map g), (m.run bs).2) := by
  rw [← bind_pure_comp, run_bind]
  rcases m.run bs with ⟨_ | _ | a, rest⟩ <;> rfl

lemma run_bind_eq_ok_iff {α β : Type} {m : Scanner α} {f : α → Scanner β} {bs rest : List UInt8}
    {b : β} : (m >>= f).run bs = (.ok (some b), rest) ↔
      ∃ a mid, m.run bs = (.ok (some a), mid) ∧ (f a).run mid = (.ok (some b), rest) := by
  rw [run_bind]
  constructor
  · intro h
    rcases hm : m.run bs with ⟨_ | _ | a, mid⟩ <;> rw [hm] at h
    · cases h
    · cases h
    · exact ⟨a, mid, rfl, h⟩
  · rintro ⟨a, mid, hm, h⟩
    rw [hm]
    exact h

/-! ### Every node takes bytes -/

/-- What is left after a success is no longer than what there was. -/
def Shortens {α : Type} (m : Scanner α) : Prop :=
  ∀ bs a rest, m.run bs = (.ok (some a), rest) → rest.length ≤ bs.length

namespace Shortens

variable {α β : Type}

lemma pure (a : α) : Shortens (pure a) := by
  rintro bs b rest h
  cases h
  exact Nat.le_refl _

lemma failure : Shortens (failure : Scanner α) := by
  rintro bs b rest h
  cases h

lemma bind {m : Scanner α} {f : α → Scanner β} (hm : Shortens m) (hf : ∀ a, Shortens (f a)) :
    Shortens (m >>= f) := by
  intro bs b rest h
  obtain ⟨a, mid, ha, hb⟩ := run_bind_eq_ok_iff.mp h
  exact Nat.le_trans (hf a mid b rest hb) (hm bs a mid ha)

lemma liftM {good : α → Prop} {encode : α → Encoding} {r : Reader α} (h : ExactOn good encode r) :
    Shortens (liftM r) := by
  intro bs a rest hr
  obtain ⟨-, front, -, rfl⟩ := (h a bs rest).mp (run_liftM_eq_ok_iff.mp hr)
  simp

lemma u8 : Shortens Reader.u8 := liftM Exact.u8.on

lemma u32 : Shortens Reader.u32 := liftM Exact.u32.on

lemma propval : Shortens Propval.reader := liftM Propval.reader_exact

lemma propvals (n : Nat) : Shortens (Reader.counted Propval.reader n) := by
  intro bs ps rest hr
  obtain ⟨-, -, front, -, rfl⟩ := Propval.reader_exact.counted.mp (run_liftM_eq_ok_iff.mp hr)
  simp

lemma comparison : Shortens scanComparison :=
  u8.bind fun _ => by split <;> first | exact pure _ | exact failure

lemma flag : Shortens scanFlag :=
  u8.bind fun _ => by split <;> first | exact pure _ | exact failure

lemma fields (code : UInt8) : Shortens (scanFields code) := by
  unfold scanFields
  split
  · exact u32.bind fun _ => pure _
  · exact u32.bind fun _ => pure _
  · exact pure _
  · exact u32.bind fun _ => u32.bind fun _ => propval.bind fun _ => pure _
  · exact comparison.bind fun _ => u32.bind fun _ => propval.bind fun _ => pure _
  · exact comparison.bind fun _ => u32.bind fun _ => u32.bind fun _ => pure _
  · exact flag.bind fun _ => u32.bind fun _ => u32.bind fun _ => pure _
  · exact comparison.bind fun _ => u32.bind fun _ => u32.bind fun _ => pure _
  · exact u32.bind fun _ => pure _
  · exact u32.bind fun _ => pure _
  · refine u8.bind fun n => ?_
    split
    · exact failure.bind fun _ => (propvals _).bind fun _ => flag.bind fun _ => pure _
    · exact (propvals _).bind fun _ => flag.bind fun _ => pure _
  · exact u32.bind fun _ => pure _
  · exact failure

end Shortens

lemma length_lt_of_scanHead {bs rest : List UInt8} {h : Head}
    (hh : scanHead.run bs = (.ok (some h), rest)) : rest.length < bs.length := by
  rw [scanHead] at hh
  obtain ⟨code, mid, hcode, hfields⟩ := run_bind_eq_ok_iff.mp hh
  obtain ⟨front, hfront, rfl⟩ := (Exact.u8 _ _ _).mp (run_liftM_eq_ok_iff.mp hcode)
  have hfront : front.length = 1 := by
    cases hfront
    exact Word.length_le 1 code.toNat
  have := Shortens.fields code mid h rest hfields
  rw [List.length_append]
  omega

/-! ### Rows of filters -/

/-- A node and what came of the row behind it. -/
def Head.close (h : Head) (row : List Restriction) : List Restriction :=
  h.build (row.take h.arity) :: row.drop h.arity

/-- What reading `n` filters in a row comes to. -/
def rowFrom : Nat → List UInt8 → Except DecodeError (Option (List Restriction)) × List UInt8
  | 0, bs => (.ok (some []), bs)
  | n + 1, bs =>
    match _hh : scanHead.run bs with
    | (.ok (some h), rest) =>
      match rowFrom (h.arity + n) rest with
      | (.ok (some row), rest) => (.ok (some (h.close row)), rest)
      | stopped => stopped
    | (.ok none, rest) => (.ok none, rest)
    | (.error e, rest) => (.error e, rest)
  termination_by _ bs => bs.length
  decreasing_by exact length_lt_of_scanHead _hh

/-- `n` filters in a row. -/
def scanRow (n : Nat) : Scanner (List Restriction) := OptionT.mk (rowFrom n)

/-- One filter. -/
def scan : Scanner Restriction := do return (← scanRow 1).headD null

lemma run_scan (bs : List UInt8) : scan.run bs =
    (((scanRow 1).run bs).1.map (Option.map (·.headD null)), ((scanRow 1).run bs).2) :=
  run_map _ (scanRow 1) bs

lemma scanRow_zero : scanRow 0 = pure [] := by
  refine OptionT.ext (funext fun bs => ?_)
  change rowFrom 0 bs = _
  rw [rowFrom]
  rfl

/-- A node asks for the filters under it before the rest of the row. -/
lemma scanRow_succ (n : Nat) :
    scanRow (n + 1) = scanHead >>= fun h => h.close <$> scanRow (h.arity + n) := by
  refine OptionT.ext (funext fun bs => ?_)
  rw [run_bind]
  change rowFrom (n + 1) bs = _
  rw [rowFrom]
  split
  · rename_i h rest hh
    rw [hh]
    change _ = (h.close <$> scanRow (h.arity + n)).run rest
    rw [run_map]
    change _ = ((rowFrom (h.arity + n) rest).1.map _, (rowFrom _ rest).2)
    rcases rowFrom (h.arity + n) rest with ⟨_ | _ | row, rest'⟩ <;> rfl
  · rename_i hh
    rw [hh]
  · rename_i hh
    rw [hh]

lemma run_scanRow_nil (n : Nat) :
    (scanRow (n + 1)).run [] = (.error (.underflow 1 0), []) := by
  rw [scanRow_succ, run_bind]
  rfl

/-- As many filters are read as were asked for. -/
lemma length_of_run_scanRow {n : Nat} {bs rest : List UInt8} {row : List Restriction}
    (hrow : (scanRow n).run bs = (.ok (some row), rest)) : row.length = n := by
  induction hbs : bs.length using Nat.strong_induction_on generalizing n bs rest row with
  | _ m ih =>
    cases n with
    | zero =>
      rw [scanRow_zero] at hrow
      cases hrow
      rfl
    | succ n =>
      rw [scanRow_succ, run_bind] at hrow
      split at hrow
      · rename_i h mid hh
        rw [run_map] at hrow
        rcases hmid : (scanRow (h.arity + n)).run mid with ⟨_ | _ | row', rest'⟩ <;>
          rw [hmid] at hrow <;> cases hrow
        have hlength := ih mid.length (hbs ▸ length_lt_of_scanHead hh) hmid rfl
        rw [Head.close, List.length_cons, List.length_drop]
        omega
      · cases hrow
      · cases hrow

/-- A row may be read in two parts. -/
lemma run_scanRow_add (m n : Nat) (bs : List UInt8) :
    (scanRow (m + n)).run bs =
      (do return (← scanRow m) ++ (← scanRow n) : Scanner (List Restriction)).run bs := by
  -- On the bytes, as a node may ask for more filters than the row had left.
  induction hbs : bs.length using Nat.strong_induction_on generalizing m n bs with
  | _ k ih =>
    cases m with
    | zero => simp [scanRow_zero]
    | succ m =>
      rw [Nat.add_right_comm, scanRow_succ, scanRow_succ, bind_assoc, run_bind, run_bind]
      split
      · rename_i h rest hh
        have hrest := ih rest.length (hbs ▸ length_lt_of_scanHead hh) (h.arity + m) n rest rfl
        rw [run_map, ← Nat.add_assoc, hrest, run_bind, run_bind, run_map]
        rcases hrow : (scanRow (h.arity + m)).run rest with ⟨_ | _ | row, rest'⟩
        · rfl
        · rfl
        · have hlength := length_of_run_scanRow hrow
          simp only [Except.map, Option.map]
          rw [run_bind, run_bind]
          rcases (scanRow n).run rest' with ⟨_ | _ | back, rest''⟩
          · rfl
          · rfl
          · have htake : h.arity ≤ row.length := by omega
            simp [Head.close, List.take_append_of_le_length htake,
              List.drop_append_of_le_length htake]
      · rfl
      · rfl

/-- A filter is a node and as many filters as stand under it. -/
theorem scan_eq : scan = scanHead >>= fun h => h.build <$> scanRow h.arity := by
  refine OptionT.ext (funext fun bs => ?_)
  rw [run_scan, scanRow_succ, run_bind, run_bind]
  split
  · rename_i h rest hh
    rw [run_map, run_map, Nat.add_zero]
    rcases hrow : (scanRow h.arity).run rest with ⟨_ | _ | row, rest'⟩
    · rfl
    · rfl
    · have hlength := length_of_run_scanRow hrow
      simp [Head.close, Except.map, ← hlength]
  · rfl
  · rfl

/-- Filters in a row are read one by one. -/
theorem scanRow_cons (n : Nat) :
    scanRow (n + 1) = (do return (← scan) :: (← scanRow n) : Scanner (List Restriction)) := by
  refine OptionT.ext (funext fun bs => ?_)
  rw [Nat.add_comm, run_scanRow_add, run_bind, run_bind, run_scan]
  rcases hrow : (scanRow 1).run bs with ⟨_ | _ | row, rest⟩
  · rfl
  · rfl
  · obtain ⟨r, rfl⟩ := List.length_eq_one_iff.mp (length_of_run_scanRow hrow)
    rfl

end StoreRpc.Restriction
