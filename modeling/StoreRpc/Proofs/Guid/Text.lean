import StoreRpc.Guid.Text
import StoreRpc.Proofs.Guid.Uuid
import StoreRpc.Proofs.Guid.Xid

/-!
The text of an identifier, its fields and its bytes.

Pair by pair, the digits of an identifier are those of its bytes on the wire, except that the bytes
of each of the first three fields stand in the opposite order there. So the text, the fields and the
bytes determine one another, and what is read as an identifier is its text in one of four forms.
-/

namespace StoreRpc.Guid

open Uuid (forms hyphenated)

/-! ### Sixteen bytes -/

lemma toUuid_ofUuid (u : Uuid) : (ofUuid u).toUuid = u := by
  have htail (tail : Vector UInt8 8) : (tail.take 2 ++ tail.drop 2 : Vector UInt8 8) = tail := by
    refine Vector.toList_inj.mp ?_
    rw [Vector.toList_append, Vector.toList_take, Vector.toList_drop, List.take_append_drop]
  rw [toUuid, ofUuid, htail, Uuid.ofFields_fields]

lemma ofUuid_toUuid (g : Guid) : ofUuid g.toUuid = g := by
  have hlength : g.clockSeq.toList.length = 2 := Vector.length_toList
  have hclock : ((g.clockSeq ++ g.node : Vector UInt8 8).take 2 : Vector UInt8 2) = g.clockSeq := by
    refine Vector.toList_inj.mp ?_
    rw [Vector.toList_take, Vector.toList_append, List.take_left' hlength]
  have hnode : ((g.clockSeq ++ g.node : Vector UInt8 8).drop 2 : Vector UInt8 6) = g.node := by
    refine Vector.toList_inj.mp ?_
    rw [Vector.toList_drop, Vector.toList_append, List.drop_left' hlength]
  rw [toUuid, ofUuid, Uuid.fields_ofFields]
  simp only [hclock, hnode]

/-- The bytes of the fields in the order of the text, each with the most significant first. -/
def octets (g : Guid) : List UInt8 := g.toUuid.bytes.toList

/-- The digits of the text. -/
def digits (g : Guid) : List Char := g.toUuid.digits

lemma toList_text (g : Guid) : g.text.toList = hyphenated g.digits := g.toUuid.toList_text

lemma filter_text (g : Guid) : g.text.toList.filter (· ≠ '-') = g.digits := by
  have hmark : '-' ∉ "0123456789abcdef".toList := by decide
  rw [toList_text, hyphenated, Uuid.filter_grouped, List.filter_eq_self]
  exact fun c hc => decide_eq_true fun h => hmark (h ▸ Uuid.mem_of_mem_digits hc)

/-! ### Bytes -/

/-- The bytes with the first four, the next two and the next two the other way around. -/
def turned (bs : List UInt8) : List UInt8 :=
  (bs.take 4).reverse ++ (((bs.drop 4).take 2).reverse ++
    (((bs.drop 6).take 2).reverse ++ bs.drop 8))

lemma turned_append {xs ys zs : List UInt8} (hxs : xs.length = 4) (hys : ys.length = 2)
    (hzs : zs.length = 2) (rest : List UInt8) :
    turned (xs ++ (ys ++ (zs ++ rest))) =
      xs.reverse ++ (ys.reverse ++ (zs.reverse ++ rest)) := by
  have hfour : (xs ++ (ys ++ (zs ++ rest))).drop 4 = ys ++ (zs ++ rest) := List.drop_left' hxs
  have hsix : (xs ++ (ys ++ (zs ++ rest))).drop 6 = zs ++ rest := by
    rw [← List.drop_drop (i := 2) (j := 4), hfour, List.drop_left' hys]
  have height : (xs ++ (ys ++ (zs ++ rest))).drop 8 = rest := by
    rw [← List.drop_drop (i := 2) (j := 6), hsix, List.drop_left' hzs]
  rw [turned, hfour, hsix, height, List.take_left' hxs, List.take_left' hys, List.take_left' hzs]

lemma turned_octets (g : Guid) : turned g.octets = g.wire := by
  rw [octets, toUuid, Uuid.toList_ofFields, turned_append (by simp) (by simp) (by simp), wire,
    Vector.toList_append]
  simp only [List.reverse_reverse, List.append_assoc]

lemma bytes_digits (g : Guid) : Hex.bytes g.digits = g.octets := Hex.bytes_pairs g.octets

/-! ### Spellings -/

lemma parse_eq_ok_iff_mem_forms {s : String} {g : Guid} :
    parse s = .ok g ↔ s.toList.map Char.toLower ∈ forms g.digits := by
  rw [digits, ← Uuid.parse_eq_ok_iff, parse]
  cases Uuid.parse s with
  | error why => simp [Except.map]
  | ok u =>
    simp only [Except.map, Except.ok.injEq]
    exact ⟨fun h => h ▸ (toUuid_ofUuid u).symm, fun h => h ▸ ofUuid_toUuid g⟩

/-- The text without hyphens, as it is, in braces and behind its mark as a name. -/
def spellings (g : Guid) : List String :=
  [String.ofList (g.text.toList.filter (· ≠ '-')), g.text, "\x7b" ++ g.text ++ "\x7d",
    "urn:uuid:" ++ g.text]

lemma toList_toLower (s : String) : s.toLower.toList = s.toList.map Char.toLower :=
  String.toList_map

lemma parse_eq_ok_iff {s : String} {g : Guid} : parse s = .ok g ↔ s.toLower ∈ g.spellings := by
  have hbraced : ("\x7b" ++ g.text ++ "\x7d").toList =
      '\x7b' :: (hyphenated g.digits ++ ['\x7d']) := by
    rw [String.toList_append, String.toList_append, toList_text]
    rfl
  rw [parse_eq_ok_iff_mem_forms, spellings, filter_text]
  simp only [forms, List.mem_cons, List.not_mem_nil, or_false, ← String.toList_inj,
    String.toList_ofList, hbraced, String.toList_append, toList_text, toList_toLower]

lemma toLower_text (g : Guid) : g.text.toLower = g.text := by
  rw [← String.toList_inj, toList_toLower, toList_text, hyphenated, Uuid.map_grouped, digits,
    Uuid.map_toLower_digits]

lemma parse_text (g : Guid) : parse g.text = .ok g := by
  rw [parse_eq_ok_iff, toLower_text, spellings]
  exact List.mem_cons_of_mem _ List.mem_cons_self

lemma text_injective {g h : Guid} (heq : g.text = h.text) : g = h := by
  have hparse := parse_text g
  rw [heq, parse_text] at hparse
  cases hparse
  rfl

/-- **The text, the fields and the bytes of an identifier agree.** The text has 32 digits in
lowercase, in groups of 8, 4, 4, 4 and 12 with hyphens between them, and it is read as the
identifier. Whatever else is read as the identifier is the text without hyphens, the text in braces
or the text behind `urn:uuid:`, in any letter case, as the text itself may be. The identifier is
written as sixteen bytes and read from them in front of anything, and they are the bytes of the
text, but for the order of the first four, the next two and the next two. So two identifiers are
the same if their texts are, and if their bytes are. -/
theorem text_fields_wire_agree :
    (∀ g : Guid, (∃ ds, ds.length = 32 ∧ (∀ c ∈ ds, c ∈ "0123456789abcdef".toList) ∧
      g.text.toList = hyphenated ds) ∧ parse g.text = .ok g) ∧
    (∀ (s : String) (g : Guid), parse s = .ok g ↔ s.toLower ∈ g.spellings) ∧
    (∀ g : Guid, g.wire.length = 16 ∧
      (∀ b : Buffer, b.push g.encode = (.ok (), ⟨b.bytes ++ g.wire, b.cursor⟩)) ∧
      ∀ (d : Buffer) (suffix : List UInt8), d.unread = g.wire ++ suffix →
        ∃ d', d.pop reader = (.ok g, d') ∧ d.Took d' g.wire ∧ d'.unread = suffix) ∧
    (∀ g : Guid, (Hex.bytes (g.text.toList.filter (· ≠ '-'))).length = 16 ∧
      g.wire = turned (Hex.bytes (g.text.toList.filter (· ≠ '-')))) ∧
    ∀ g h : Guid, (g = h ↔ g.text = h.text) ∧ (g = h ↔ g.wire = h.wire) := by
  refine ⟨fun g => ⟨⟨g.digits, Uuid.length_digits _, fun c => Uuid.mem_of_mem_digits,
    toList_text g⟩, parse_text g⟩, fun s g => parse_eq_ok_iff, fun g => ⟨length_wire g, fun b => ?_,
    fun d suffix hd => ?_⟩, fun g => ?_, fun g h => ⟨⟨congrArg text, text_injective⟩,
    ⟨congrArg wire, wire_injective⟩⟩⟩
  · exact Buffer.push_eq_ok_iff.mpr ⟨g.wire, g.result_encode, rfl⟩
  · exact reader_exact.pop_of_unread_eq (result_encode _) hd
  · rw [filter_text, bytes_digits, turned_octets]
    exact ⟨by simp [octets], rfl⟩

/-- An identifier in capitals behind a mark, and its bytes among others. -/
theorem text_fields_wire_agree_capitals :
    let g := serverProperties
    let bs : List UInt8 :=
      [0xE2, 0x37, 0xE9, 0x1D, 0xC6, 0x85, 0xA1, 0x40, 0xBD, 0x9D, 0xA6, 0xE2, 0xB7, 0xB7, 0x87, 0xB1]
    let b : Buffer := .mk (9 :: bs ++ [7]) 1
    g.text = "1de937e2-85c6-40a1-bd9d-a6e2b7b787b1" ∧
      "URN:UUID:1DE937E2-85C6-40A1-BD9D-A6E2B7B787B1".toLower ∈ g.spellings ∧
      (∃ b', b.pop reader = (.ok g, b') ∧ b.Took b' bs ∧ b'.unread = [7]) ∧
      ∃ ds, (∀ c ∈ ds, c ∈ "0123456789abcdef".toList) ∧ g.text.toList = hyphenated ds := by
  intro g bs b
  obtain ⟨htext, hspelled, hwire, -, -⟩ := text_fields_wire_agree
  have hbytes : g.wire = bs := by decide
  have hb : b.unread = g.wire ++ [7] := by decide
  have hparse : parse "URN:UUID:1DE937E2-85C6-40A1-BD9D-A6E2B7B787B1" = .ok g := by decide
  obtain ⟨-, -, hread⟩ := hwire g
  obtain ⟨b', hpop, htook, hrest⟩ := hread b [7] hb
  obtain ⟨ds, -, hds, hform⟩ := (htext g).1
  rw [hbytes] at htook
  exact ⟨by decide, (hspelled _ _).mp hparse, ⟨b', hpop, htook, hrest⟩, ds, hds, hform⟩

end StoreRpc.Guid
