import StoreRpc.Proofs.Property.Name
import StoreRpc.Proofs.Wire.PrefixFree
import StoreRpc.Proofs.Request.Checks

/-!
Requests are told apart by their bytes.

The first byte tells the call and thereby the sorts of the arguments, and arguments of one sort
are told apart in front of anything. A filter has no length and no mark at its end, but a complete
one is read back whatever follows.
-/

namespace StoreRpc

/-! ### Arguments -/

def Permission.toOwned (p : Permission) : Permission := ⟨p.flags, p.propvals.map Propval.toOwned⟩

namespace Argument

/-- The values in the argument could have been made from their parts. -/
def WellTyped : (s : Argument) → s.Value → Prop
  | propvals, ps => ∀ p ∈ ps, p.WellTyped
  | permissions, rows => ∀ row ∈ rows, ∀ p ∈ row.propvals, p.WellTyped
  | filter, r => r.WellTyped
  | _, _ => True

/-- No operator in a filter has `null` in the place of one that it counts on. -/
def Complete : (s : Argument) → s.Value → Prop
  | filter, r => ∀ node ∈ r.nodes, ¬ node.Incomplete
  | _, _ => True

/-- The argument as it is seen on the wire: it owns its values, and `null` under a comment is
nothing. -/
def asRead : (s : Argument) → s.Value → s.Value
  | propvals, ps => ps.map Propval.toOwned
  | permissions, rows => rows.map Permission.toOwned
  | filter, r => r.asRead
  | _, v => v

end Argument

/-! ### What is seen on the wire is what is written -/

lemma Encoding.list16_map {α β : Type} {encode : β → Encoding} {encode' : α → Encoding} {f : α → β}
    (h : ∀ a, encode (f a) = encode' a) (as : List α) :
    list16 encode (as.map f) = list16 encode' as := by
  simp [list16, h, Function.comp_def]

lemma Permission.encode_toOwned (p : Permission) : p.toOwned.encode = p.encode :=
  congrArg (Encoding.u8 p.flags ++ ·) (Encoding.list16_map Propval.encode_toOwned p.propvals)

namespace Restriction

lemma isNull_iff {r : Restriction} : r.isNull = true ↔ r = null := by
  cases r <;> simp [isNull]

lemma isNull_asRead (r : Restriction) : r.asRead.isNull = r.isNull := by
  cases r
  case comment ps part =>
    rcases part with _ | part
    · simp [asRead, isNull]
    · cases part <;> simp [asRead, isNull]
  all_goals simp [asRead, isNull]

lemma encode_asRead (r : Restriction) : r.asRead.encode = r.encode := by
  induction r using parts_induction with
  | node r ih =>
    have hall (rs : List Restriction) (h : ∀ r ∈ rs, r.asRead.encode = r.encode) :
        encodeAll (rs.map asRead) = encodeAll rs := by
      rw [encodeAll_eq, encodeAll_eq, List.map_map]
      exact congrArg _ (List.map_congr_left h)
    cases r with
    | null => rw [asRead]
    | and parts => rw [asRead, encode, encode, List.length_map, hall parts ih]
    | or parts => rw [asRead, encode, encode, List.length_map, hall parts ih]
    | not part => rw [asRead, encode, encode, ih part (by simp [parts])]
    | content fuzzy tag p => rw [asRead, encode, encode, Propval.encode_toOwned]
    | property op tag p => rw [asRead, encode, encode, Propval.encode_toOwned]
    | compareTags op tag1 tag2 => rw [asRead]
    | bitmask all tag mask => rw [asRead]
    | size op tag n => rw [asRead]
    | has tag => rw [asRead]
    | subobject object part => rw [asRead, encode, encode, ih part (by simp [parts])]
    | count limit part => rw [asRead, encode, encode, ih part (by simp [parts])]
    | comment ps part =>
      rcases part with _ | part
      · simp [asRead, encode, Function.comp_def]
      · by_cases hnull : part = null
        · simp [hnull, asRead, encode, encodePart, isNull, Function.comp_def]
        · have hpart := ih part (by simp [parts, Option.filter_some, isNull_iff, hnull])
          simp [asRead, encode, encodePart, isNull_asRead, hpart, Function.comp_def]

end Restriction

lemma Argument.encode_asRead (s : Argument) (v : s.Value) : s.encode (s.asRead v) = s.encode v := by
  cases s with
  | propvals => exact Encoding.list16_map Propval.encode_toOwned v
  | permissions => exact Encoding.list16_map Permission.encode_toOwned v
  | filter =>
    change (Restriction.asRead v).encodeOptional = Restriction.encodeOptional v
    rw [Restriction.encodeOptional, Restriction.isNull_asRead, Restriction.encode_asRead]
    rfl
  | _ => rfl

lemma Arguments.encode_map_asRead (sorts : List Argument) (args : Arguments sorts) :
    encode sorts (map Argument.asRead sorts args) = encode sorts args := by
  induction sorts with
  | nil => rfl
  | cons s sorts ih => simp only [map, encode, s.encode_asRead, ih]

/-! ### Arguments are told apart -/

lemma Propval.prefixFree : PrefixFree WellTyped encode toOwned :=
  .of_restores (reader_exact.restores (fun _ => readable_toOwned) encode_toOwned)

lemma Permission.prefixFree :
    PrefixFree (fun p => ∀ q ∈ p.propvals, q.WellTyped) encode toOwned := by
  have hflags : PrefixFree (fun _ => True) .u8 id := .of_exact Exact.u8
  have hfields := hflags.append (Propval.prefixFree.counted .listItems 2)
  intro a b x y s t ha hb hx hy heq
  obtain ⟨hsame, hrest⟩ :=
    hfields (a.flags, a.propvals) (b.flags, b.propvals) x y s t ⟨trivial, ha⟩ ⟨trivial, hb⟩
      hx hy heq
  obtain ⟨hflags, hpropvals⟩ := Prod.ext_iff.mp hsame
  exact ⟨congrArg₂ Permission.mk hflags hpropvals, hrest⟩

namespace Restriction

/-- A complete filter is read back in front of anything. -/
lemma run_scan_encode {r : Restriction} (hr : r.WellTyped) (hnull : r ≠ null)
    (hcomplete : ∀ node ∈ r.nodes, ¬ node.Incomplete) {x : List UInt8}
    (hx : r.encode.result = .ok x) (s : List UInt8) :
    scan.run (x ++ s) = (.ok (some r.asRead), s) := by
  obtain ⟨fill, hfill, hrun⟩ := fills_encode r hr hx
  have hgaps : r.gaps = 0 := (gaps_eq_zero_iff r).mpr ⟨hnull, hcomplete⟩
  have hrow : (scanRow 1).run (x ++ s) = (.ok (some [r.asRead]), s) := by
    rw [hrun 0 s, hgaps, run_map, scanRow_zero]
    exact congrArg (fun row => (Except.ok (some row), s)) (hfill hgaps [])
  rw [run_scan, hrow]
  rfl

lemma prefixFree : PrefixFree (fun r => r.WellTyped ∧ ∀ node ∈ r.nodes, ¬ node.Incomplete)
    encodeOptional asRead := by
  rintro a b _ _ s t ⟨ha, hacomplete⟩ ⟨hb, hbcomplete⟩ hleft hright heq
  obtain ⟨f, x, hf, hx, rfl⟩ := Encoding.result_append_eq_ok_iff.mp hleft
  obtain ⟨g, y, hg, hy, rfl⟩ := Encoding.result_append_eq_ok_iff.mp hright
  rw [List.append_assoc, List.append_assoc] at heq
  have hflags : PrefixFree (fun _ => True) .flag id := .flag
  obtain ⟨hflag, heq⟩ := hflags (!a.isNull) (!b.isNull) f g _ _ trivial trivial hf hg heq
  have hnull : a = null ↔ b = null := by
    rw [← isNull_iff, ← isNull_iff, Bool.not_inj hflag]
  by_cases hanull : a = null
  · obtain rfl := hnull.mp hanull
    subst hanull
    rw [hx] at hy
    cases hy
    exact ⟨rfl, List.append_cancel_left heq⟩
  · have hsame := run_scan_encode ha hanull hacomplete hx s
    rw [heq, run_scan_encode hb (mt hnull.mpr hanull) hbcomplete hy t, Prod.mk.injEq,
      Except.ok.injEq, Option.some.injEq] at hsame
    exact ⟨hsame.1.symm, hsame.2.symm⟩

end Restriction

lemma Argument.prefixFree (s : Argument) :
    PrefixFree (fun v => s.WellTyped v ∧ s.Complete v) s.encode s.asRead := by
  cases s with
  | byte => exact .of_exact Exact.u8
  | short => exact .of_exact Exact.u16
  | long => exact .of_exact Exact.u32
  | longLong => exact .of_exact Exact.u64
  | flag => exact .flag
  | text => exact .of_exact Exact.text
  | tags => exact .counted_exact Exact.u32 .listItems 2
  | messages => exact .counted_exact Exact.u64 .listItems 4
  | names => exact .counted_exact PropertyName.reader_exact .listItems 2
  | propvals => exact (Propval.prefixFree.counted .listItems 2).imp (fun _ h => h.1) fun _ _ h => h
  | permissions =>
    exact (Permission.prefixFree.counted .listItems 2).imp (fun _ h => h.1) fun _ _ h => h
  | filter => exact Restriction.prefixFree

lemma Arguments.prefixFree (sorts : List Argument) :
    PrefixFree (All (fun s v => s.WellTyped v ∧ s.Complete v) sorts) (encode sorts)
      (map Argument.asRead sorts) := by
  induction sorts with
  | nil =>
    intro a b x y s t _ _ hx hy heq
    cases hx
    cases hy
    exact ⟨rfl, heq⟩
  | cons s sorts ih => exact s.prefixFree.append ih

/-! ### Requests are told apart -/

lemma Call.id_injective : Function.Injective id := by
  intro c d
  cases c <;> cases d <;> decide

/-- Arguments of one call. -/
lemma Call.make_eq_of_encode {c d : Call} {args : Arguments c.signature.sorts}
    {args' : Arguments d.signature.sorts} {x y s t : List UInt8} (hcall : c = d)
    (hargs : Arguments.All (fun s v => s.WellTyped v ∧ s.Complete v) _ args)
    (hargs' : Arguments.All (fun s v => s.WellTyped v ∧ s.Complete v) _ args')
    (hx : (Arguments.encode _ args).result = .ok x)
    (hy : (Arguments.encode _ args').result = .ok y) (heq : x ++ s = y ++ t) :
    Maker.apply _ c.signature.make (Arguments.map Argument.asRead _ args) =
      Maker.apply _ d.signature.make (Arguments.map Argument.asRead _ args') ∧ s = t := by
  subst hcall
  obtain ⟨hsame, hrest⟩ := Arguments.prefixFree _ args args' x y s t hargs hargs' hx hy heq
  exact ⟨congrArg _ hsame, hrest⟩

namespace Request

/-- All values in the request could have been made from their parts. -/
def WellTyped (r : Request) : Prop :=
  Arguments.All Argument.WellTyped r.call.signature.sorts r.arguments

/-- No operator in a filter of the request has `null` in the place of one that it counts on. -/
def Complete (r : Request) : Prop :=
  Arguments.All Argument.Complete r.call.signature.sorts r.arguments

/-- The request as it is seen on the wire. -/
def asRead (r : Request) : Request :=
  Maker.apply r.call.signature.sorts r.call.signature.make
    (Arguments.map Argument.asRead r.call.signature.sorts r.arguments)

/-- What is seen of a request is written in the same way. -/
lemma encode_asRead (r : Request) : r.asRead.encode = r.encode := by
  have hcall : r.asRead.call = r.call := by cases r <;> rfl
  have harguments : r.asRead.encodeArguments =
      Arguments.encode _ (Arguments.map Argument.asRead _ r.arguments) := by
    cases r <;>
      simp [asRead, Maker.apply, Arguments.map, encodeArguments, Arguments.encode, Argument.encode,
        arguments, call, Call.signature, Encoding.append_assoc]
    rfl
  rw [encode, encode, hcall, harguments, Arguments.encode_map_asRead, encodeArguments_eq]

/-- The first byte tells the call. -/
lemma call_eq_of_encode {r r' : Request} {x y s t : List UInt8} (hr : r.encode.result = .ok x)
    (hr' : r'.encode.result = .ok y) (heq : x ++ s = y ++ t) :
    r.call = r'.call ∧ ∃ x' y', r.encodeArguments.result = .ok x' ∧
      r'.encodeArguments.result = .ok y' ∧ x' ++ s = y' ++ t := by
  obtain ⟨c, x', hc, hx, rfl⟩ := Encoding.result_append_eq_ok_iff.mp hr
  obtain ⟨d, y', hd, hy, rfl⟩ := Encoding.result_append_eq_ok_iff.mp hr'
  rw [List.append_assoc, List.append_assoc] at heq
  have hids : PrefixFree (fun _ => True) .u8 id := .of_exact Exact.u8
  obtain ⟨hid, heq⟩ := hids r.call.id r'.call.id c d _ _ trivial trivial hc hd heq
  exact ⟨Call.id_injective hid, x', y', hx, hy, heq⟩

lemma prefixFree :
    PrefixFree (fun r => r.WellTyped ∧ r.Complete) encode fun r => (r.call, r.asRead) := by
  rintro r r' x y s t ⟨hr, hcomplete⟩ ⟨hr', hcomplete'⟩ hleft hright heq
  obtain ⟨hcall, x', y', hx, hy, heq⟩ := call_eq_of_encode hleft hright heq
  rw [encodeArguments_eq] at hx hy
  obtain ⟨hsame, hrest⟩ :=
    Call.make_eq_of_encode hcall (hr.and hcomplete) (hr'.and hcomplete') hx hy heq
  exact ⟨Prod.ext hcall hsame, hrest⟩

/-- **Requests are told apart by their bytes, and none is cut short in silence.** Requests with
complete filters write the same bytes if and only if they make the same call with the same
arguments, but for who owns the values and for `null` under a comment. Any request can be written
if and only if its texts have no NUL and its counts are within their limits. -/
theorem push_unambiguous :
    (∀ (r r' : Request) (b out out' : Buffer), r.WellTyped → r'.WellTyped →
      r.Complete → r'.Complete →
      b.push r.encode = (.ok (), out) → b.push r'.encode = (.ok (), out') →
        (out = out' ↔ r.call = r'.call ∧ r.asRead = r'.asRead)) ∧
    ∀ (r : Request) (b : Buffer),
      (b.push r.encode).1 = .ok () ↔ ∀ check ∈ r.checks, check.Passes := by
  refine ⟨fun r r' b out out' hr hr' hcomplete hcomplete' hpush hpush' => ?_, fun r b => ?_⟩
  · constructor
    · rintro rfl
      obtain ⟨x, hx, rfl⟩ := Buffer.push_eq_ok_iff.mp hpush
      obtain ⟨y, hy, hout⟩ := Buffer.push_eq_ok_iff.mp hpush'
      obtain rfl : x = y := List.append_cancel_left (congrArg Buffer.bytes hout)
      obtain ⟨hsame, -⟩ := prefixFree r r' x x [] [] ⟨hr, hcomplete⟩ ⟨hr', hcomplete'⟩ hx hy rfl
      exact Prod.ext_iff.mp hsame
    · rintro ⟨-, hsame⟩
      have hencode : r.encode = r'.encode := by rw [← r.encode_asRead, hsame, r'.encode_asRead]
      rw [hencode, hpush'] at hpush
      exact (congrArg Prod.snd hpush).symm
  · refine Iff.trans ?_ r.encode_checked
    rw [Buffer.push]
    cases r.encode.failure <;> simp

/-- Filters that differ in a borrowed text and in `null` under a comment, and one with a text that
cannot be written. -/
theorem push_unambiguous_comment :
    let value (s : String) (owned : Bool) : Propval := ⟨0x3001001F, .wideString, .string ⟨s, owned⟩⟩
    let load (p : Propval) (part : Option Restriction) : Request :=
      .loadContentTable "h" 1 2 "" 0 (.not (.comment [p] part))
    let out : Buffer := .ofBytes [0x28, 0x68, 0, 1, 0, 0, 0, 2, 0, 0, 0, 0, 0, 0, 0, 0, 0, 1, 2, 10,
      1, 0x1F, 0, 0x01, 0x30, 0x61, 0, 0, 0]
    Buffer.empty.push (load (value "a" false) (some .null)).encode = (.ok (), out) ∧
      Buffer.empty.push (load (value "a" true) none).encode = (.ok (), out) ∧
      (load (value "a" false) (some .null)).asRead = (load (value "a" true) none).asRead ∧
      (Buffer.empty.push (load (value "a\x00" true) none).encode).1 ≠ .ok () := by
  intro value load out
  have hvalue (owned : Bool) : (value "a" owned).WellTyped := by cases owned <;> decide
  have hwell : (load (value "a" false) (some .null)).WellTyped ∧
      (load (value "a" true) none).WellTyped := by
    simp [WellTyped, Arguments.All, Argument.WellTyped, arguments, call, Call.signature, load,
      Restriction.WellTyped, Restriction.nodes_eq, Restriction.parts, Restriction.propvals,
      Restriction.isNull, hvalue]
  have hcomplete : (load (value "a" false) (some .null)).Complete ∧
      (load (value "a" true) none).Complete := by
    simp [Complete, Arguments.All, Argument.Complete, arguments, call, Call.signature, load,
      Restriction.nodes_eq, Restriction.parts, Restriction.Incomplete, Restriction.isNull]
  have hpush : Buffer.empty.push (load (value "a" false) (some .null)).encode = (.ok (), out) := by
    decide
  have hpush' : Buffer.empty.push (load (value "a" true) none).encode = (.ok (), out) := by decide
  obtain ⟨hsame, hwritten⟩ := push_unambiguous
  have hread :=
    ((hsame _ _ _ _ _ hwell.1 hwell.2 hcomplete.1 hcomplete.2 hpush hpush').mp rfl).2
  refine ⟨hpush, hpush', hread, fun hok => ?_⟩
  have hmem : .text "a\x00" ∈ (load (value "a\x00" true) none).checks := by
    simp [checks, Arguments.collect, Argument.checks, arguments, call, Call.signature, load, value,
      Restriction.checks, Restriction.nodes_eq, Restriction.parts, Restriction.ownChecks,
      Propval.checks, Payload.checks]
  exact (hwritten _ _).mp hok _ hmem (by decide)

end Request

end StoreRpc
