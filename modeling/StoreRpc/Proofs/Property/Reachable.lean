import Mathlib.Tactic.Common
import StoreRpc.Proofs.Property.RoundTrip

/-!
The property values that can come about, and what becomes of them when they are copied or detached.

A value is made from its parts or read, and both look at its type, each in its own way. What is
made or read in one way or the other has a payload of the kind that the type has values of. To copy
a value or to take hold of its borrowed parts changes nothing but who owns them.
-/

namespace StoreRpc

/-! ### Types and kinds -/

namespace PropType

/-- The codes of the types that have values, and the kinds of these values. -/
def admitted : List (UInt16 × Kind) :=
  [(0x0002, .short), (0x0003, .long), (0x0004, .float), (0x0005, .double), (0x0006, .longLong),
    (0x0007, .double), (0x000A, .long), (0x000B, .byte), (0x0014, .longLong), (0x001E, .string),
    (0x001F, .string), (0x0040, .longLong), (0x0102, .binary), (0x1002, .shorts),
    (0x1003, .longs), (0x1004, .floats), (0x1005, .doubles), (0x1006, .longLongs),
    (0x1007, .doubles), (0x1014, .longLongs), (0x101E, .strings), (0x101F, .strings),
    (0x1102, .binaries)]

lemma kind?_eq_some_iff {t : PropType} {k : Kind} : t.kind? = some k ↔ (t.code, k) ∈ admitted := by
  cases t <;> simp [kind?, code, admitted, eq_comm]

/-- An admitted code is that of a type. -/
lemma exists_code_of_admitted {c : UInt16} {k : Kind} (h : (c, k) ∈ admitted) :
    ∃ t : PropType, t.code = c := by
  have hall : ∀ e ∈ admitted, (ofCode? e.1).isSome := by decide
  obtain ⟨t, ht⟩ := Option.isSome_iff_exists.mp (hall (c, k) h)
  exact ⟨t, code_of_ofCode? ht⟩

end PropType

namespace Propval

open PropType (codeOfTag admitted)

lemma wellTyped_iff {p : Propval} :
    p.WellTyped ↔ (codeOfTag p.tag = 0 ∨ codeOfTag p.tag = p.type.code) ∧
      (p.type.code, p.payload.kind) ∈ admitted := by
  rw [WellTyped, PropType.accepts_iff, PropType.kind?_eq_some_iff]

/-- A value of a type can be made from just the payloads that the type admits, behind a tag that
names the type or none. -/
lemma exists_withType_iff {tag : UInt32} {code : UInt16} {v : Payload} :
    (∃ p, withType tag code v = .ok p) ↔
      (codeOfTag tag = 0 ∨ codeOfTag tag = code) ∧ (code, v.kind) ∈ admitted := by
  constructor
  · rintro ⟨p, h⟩
    obtain ⟨hwell, rfl, rfl, rfl⟩ := withType_eq_ok_iff.mp h
    exact wellTyped_iff.mp hwell
  · rintro ⟨htag, hkind⟩
    obtain ⟨type, rfl⟩ := PropType.exists_code_of_admitted hkind
    have hwell : WellTyped ⟨tag, type, v⟩ := wellTyped_iff.mpr ⟨htag, hkind⟩
    exact ⟨⟨tag, type, v⟩, withType_eq_ok_iff.mpr ⟨hwell, rfl, rfl, rfl⟩⟩

lemma exists_ofTag_iff {tag : UInt32} {v : Payload} :
    (∃ p, ofTag tag v = .ok p) ↔ (codeOfTag tag, v.kind) ∈ admitted := by
  unfold ofTag
  rw [exists_withType_iff]
  exact and_iff_right (.inr rfl)

end Propval

/-! ### Copies and detached values -/

namespace Held

variable {α : Type}

@[simp] lemma copy_eq (h : Held α) : h.copy = h := by
  rcases h with ⟨content, _ | _⟩ <;> rfl

@[simp] lemma content_toOwned (h : Held α) : h.toOwned.content = h.content := rfl

@[simp] lemma owned_toOwned (h : Held α) : h.toOwned.owned = true := rfl

end Held

namespace Payload

variable (v w : Payload)

lemma copy_eq : v.copy = v := by
  have hmap {α : Type} (parts : List (Held α)) : parts.map Held.copy = parts := by
    rw [funext Held.copy_eq, List.map_id']
  cases v <;> simp only [copy, Held.copy_eq, hmap]

lemma isOwned_toOwned : v.toOwned.isOwned = true := by
  cases v <;> simp [toOwned, isOwned]

lemma count_toOwned : v.toOwned.count = v.count := by
  cases v <;> simp [toOwned, count]

lemma text_toOwned : v.toOwned.text = v.text := by
  cases v <;> simp [toOwned, text, count]

lemma same_toOwned_left : v.toOwned.same w = v.same w := by
  cases v <;> cases w <;> simp [toOwned, same, Function.comp_def]

lemma same_toOwned_right : w.same v.toOwned = w.same v := by
  cases v <;> cases w <;> simp [toOwned, same, Function.comp_def]

/-- Every floating point number in the payload is a number. -/
def NaNFree : Payload → Prop
  | float x => Decimal.Format.single.isNaN x.bits.toNat = false
  | double x => Decimal.Format.double.isNaN x.bits.toNat = false
  | floats xs => ∀ x ∈ xs.content, Decimal.Format.single.isNaN x.bits.toNat = false
  | doubles xs => ∀ x ∈ xs.content, Decimal.Format.double.isNaN x.bits.toNat = false
  | _ => True

lemma sameAll_self_iff {α : Type} {same : α → α → Bool} {l : List α} :
    sameAll same l l = true ↔ ∀ a ∈ l, same a a = true := by
  induction l with
  | nil => simp [sameAll]
  | cons a l ih => simp [sameAll, ih]

/-- A payload is equal to itself unless there is something in it that is no number. -/
lemma same_self_iff : v.same v = true ↔ v.NaNFree := by
  have hformat (f : Decimal.Format) (bits : Nat) :
      f.same bits bits = true ↔ f.isNaN bits = false := by
    simp [Decimal.Format.same]
  cases v <;> simp [same, NaNFree, Single.same, Double.same, sameAll_self_iff, hformat]

end Payload

namespace Propval

open PropType (codeOfTag admitted)

/-- Nothing but the owner of the parts tells the one value from the other. -/
structure Alike (p q : Propval) : Prop where
  tag : q.tag = p.tag
  type : q.type = p.type
  equal : ∀ other, q.same other = p.same other ∧ other.same q = other.same p
  count : q.payload.count = p.payload.count
  text : q.payload.text = p.payload.text
  display : q.display = p.display
  encode : q.encode = p.encode

/-- Only a timestamp is shown in another way than as a number. -/
lemma display_of_kind_ne {p : Propval} (h : p.payload.kind ≠ .longLong) :
    p.display = p.payload.text := by
  unfold display
  split
  · rename_i hpayload
    rw [hpayload] at h
    exact absurd rfl h
  · rfl

lemma display_toOwned (p : Propval) : p.toOwned.display = p.display := by
  by_cases h : p.payload.kind = .longLong
  · -- There is nothing to take hold of in a number.
    have howned : p.payload.toOwned = p.payload := by
      cases hpayload : p.payload <;> rw [hpayload] at h <;> cases h
      rfl
    rw [toOwned, howned]
  · have hkind : p.toOwned.payload.kind ≠ .longLong := by rwa [toOwned, Payload.kind_toOwned]
    rw [display_of_kind_ne h, display_of_kind_ne hkind]
    exact p.payload.text_toOwned

lemma alike_toOwned (p : Propval) : Alike p p.toOwned where
  tag := rfl
  type := rfl
  equal other := by
    simp only [same, toOwned, Payload.same_toOwned_left, Payload.same_toOwned_right, and_self]
  count := p.payload.count_toOwned
  text := p.payload.text_toOwned
  display := p.display_toOwned
  encode := p.encode_toOwned

lemma Alike.refl (p : Propval) : Alike p p := ⟨rfl, rfl, fun _ => ⟨rfl, rfl⟩, rfl, rfl, rfl, rfl⟩

lemma same_self_iff {p : Propval} : p.same p = true ↔ p.payload.NaNFree := by
  simp [same, Payload.same_self_iff]

/-! ### Reachable values -/

/-- The values that come about: they are made, read, copied and detached. -/
inductive Reachable : Propval → Prop
  | made {tag v p} (h : ofTag tag v = .ok p) : Reachable p
  | typed {tag code v p} (h : withType tag code v = .ok p) : Reachable p
  | popped {b b' : Buffer} {p} (h : b.pop reader = (.ok p, b')) : Reachable p
  | copied {p} (h : Reachable p) : Reachable p.copy
  | detached {p} (h : Reachable p) : Reachable p.toOwned

lemma readable_of_pop {b b' : Buffer} {p : Propval} (h : b.pop reader = (.ok p, b')) :
    p.Readable := by
  obtain ⟨rest, hread, -⟩ := Buffer.pop_eq_ok_iff.mp h
  exact ((reader_exact _ _ _).mp hread).1

lemma copy_eq (p : Propval) : p.copy = p := by
  rw [copy, Payload.copy_eq]

lemma Readable.isOwned {p : Propval} (h : p.Readable) : p.payload.isOwned = true := by
  have howned : p.payload.toOwned = p.payload := congrArg payload h.2
  rw [← howned]
  exact p.payload.isOwned_toOwned

lemma Reachable.wellTyped {p : Propval} (h : Reachable p) : p.WellTyped := by
  induction h with
  | made h => exact wellTyped_of_ofTag h
  | typed h => exact (withType_eq_ok_iff.mp h).1
  | popped h => exact (readable_of_pop h).1
  | copied h ih => rwa [copy_eq]
  | detached h ih => exact wellTyped_toOwned.mpr ih

/-- **Every value that comes about is well typed, and copying or detaching it changes nothing that
can be seen.** It has a type that has values, its tag names this type or none, and its payload is of
a kind that the type admits; nothing else can be made from parts. A detached value owns all its
parts and is like the one that it was made from, to which it is equal unless there is something in
it that is no number. A copy owns what the original owns, and what was read owns all its parts. -/
theorem reachable_well_typed :
    (∀ p : Propval, p.Reachable → p.type ≠ .unspecified ∧
      (codeOfTag p.tag = 0 ∨ codeOfTag p.tag = p.type.code) ∧
        (p.type.code, p.payload.kind) ∈ admitted) ∧
    (∀ (tag : UInt32) (code : UInt16) (v : Payload), (∃ p, withType tag code v = .ok p) ↔
      (codeOfTag tag = 0 ∨ codeOfTag tag = code) ∧ (code, v.kind) ∈ admitted) ∧
    (∀ (tag : UInt32) (v : Payload), (∃ p, ofTag tag v = .ok p) ↔
      (codeOfTag tag, v.kind) ∈ admitted) ∧
    (∀ p : Propval, Alike p p.toOwned ∧ p.toOwned.payload.isOwned = true ∧
      p.toOwned.toOwned = p.toOwned ∧ (p.toOwned.same p = true ↔ p.payload.NaNFree)) ∧
    (∀ p : Propval, Alike p p.copy ∧ p.copy.payload.isOwned = p.payload.isOwned) ∧
    ∀ (b b' : Buffer) (p : Propval), b.pop reader = (.ok p, b') → p.payload.isOwned = true := by
  refine ⟨fun p hp => ?_, fun tag code v => exists_withType_iff, fun tag v => exists_ofTag_iff,
    fun p => ?_, fun p => ?_, fun b b' p hpop => (readable_of_pop hpop).isOwned⟩
  · obtain ⟨htag, hkind⟩ := wellTyped_iff.mp hp.wellTyped
    refine ⟨fun htype => ?_, htag, hkind⟩
    have hnone : PropType.unspecified.kind? = some p.payload.kind :=
      PropType.accepts_iff.mp (htype ▸ hp.wellTyped.2)
    cases hnone
  · have hself : p.toOwned.same p = p.same p := (p.alike_toOwned.equal p).1
    have htwice : p.toOwned.toOwned = p.toOwned := congrArg (Propval.mk p.tag p.type)
      p.payload.toOwned_toOwned
    exact ⟨p.alike_toOwned, p.payload.isOwned_toOwned, htwice, hself ▸ same_self_iff⟩
  · rw [copy_eq]
    exact ⟨.refl p, rfl⟩

/-- A list of texts of which one is borrowed, copied and then detached, and the value that is read
where it was written. -/
theorem reachable_well_typed_mixed :
    let v : Payload := .strings [⟨"a", false⟩, ⟨"é", true⟩]
    let p : Propval := ⟨0x12340000, .strings, v⟩
    let b : Buffer := .ofBytes [0, 0, 0x34, 0x12, 0x1E, 0x10, 2, 0, 0, 0, 0x61, 0, 0xC3, 0xA9, 0]
    p.copy.payload.isOwned = false ∧
      (p.copy.toOwned.Reachable ∧ (p.copy.toOwned.type.code, Kind.strings) ∈ admitted) ∧
      b.pop reader = (.ok p.toOwned, ⟨b.bytes, 15⟩) ∧ p.toOwned.payload.isOwned = true := by
  intro v p b
  obtain ⟨hreachable, -, -, -, hcopy, hpopped⟩ := reachable_well_typed
  have hmade : withType 0x12340000 0x101E v = .ok p :=
    withType_eq_ok_iff.mpr ⟨by decide, rfl, rfl, rfl⟩
  have hp : p.copy.toOwned.Reachable := .detached (.copied (.typed hmade))
  have hpop : b.pop reader = (.ok p.toOwned, ⟨b.bytes, 15⟩) := by decide +kernel
  exact ⟨(hcopy p).2, ⟨hp, (hreachable _ hp).2.2⟩, hpop, hpopped b _ _ hpop⟩

end Propval

end StoreRpc
