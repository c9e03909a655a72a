import StoreRpc.Proofs.Restriction.Grammar

/-!
Which filters can be read back.

`null` writes nothing, so that a node which counts on a filter and got `null` takes the next one
in its place. One filter less follows than is due, wherever that happens and whatever comes after
it. A comment alone tells whether there is a filter under it, and may go without.
-/

namespace StoreRpc.Restriction

/-! ### The filters under a filter -/

/-- The filters that are written under this one. -/
def parts : Restriction → List Restriction
  | and parts => parts
  | or parts => parts
  | not part => [part]
  | subobject _ part => [part]
  | comment _ part => (part.filter (!·.isNull)).toList
  | count _ part => [part]
  | _ => []

lemma sizeOf_lt_of_mem_parts {r part : Restriction} (h : part ∈ r.parts) :
    sizeOf part < sizeOf r := by
  cases r <;> simp only [parts, List.not_mem_nil, List.mem_singleton, Option.mem_toList] at h
  case and | or =>
    have hlt := List.sizeOf_lt_of_mem h
    simp only [and.sizeOf_spec, or.sizeOf_spec]
    omega
  case comment ps part' =>
    obtain ⟨rfl, -⟩ := Option.filter_eq_some_iff.mp h
    simp only [comment.sizeOf_spec, Option.some.sizeOf_spec]
    omega
  case not | subobject | count =>
    subst h
    simp only [not.sizeOf_spec, subobject.sizeOf_spec, count.sizeOf_spec]
    omega

/-- The filter and all that stand under it. -/
def nodes (r : Restriction) : List Restriction :=
  r :: (r.parts.attach.map fun part => part.1.nodes).flatten
  termination_by sizeOf r
  decreasing_by exact sizeOf_lt_of_mem_parts part.2

lemma nodes_eq (r : Restriction) : r.nodes = r :: (r.parts.map nodes).flatten := by
  rw [nodes, List.attach_map_val]

lemma mem_nodes_self (r : Restriction) : r ∈ r.nodes := by
  rw [nodes_eq]
  exact List.mem_cons_self

lemma forall_mem_nodes {r : Restriction} {P : Restriction → Prop} :
    (∀ node ∈ r.nodes, P node) ↔ P r ∧ ∀ part ∈ r.parts, ∀ node ∈ part.nodes, P node := by
  rw [nodes_eq, List.forall_mem_cons, List.forall_mem_flatten, List.forall_mem_map]

/-- What follows from the filters written under a filter for the filter holds of all filters. -/
theorem parts_induction {motive : Restriction → Prop}
    (node : ∀ r, (∀ part ∈ r.parts, motive part) → motive r) (r : Restriction) : motive r :=
  node r fun part _ => parts_induction node part
  termination_by sizeOf r
  decreasing_by exact sizeOf_lt_of_mem_parts ‹_›

/-- An operator that has `null` in the place of a filter. -/
def Incomplete : Restriction → Prop
  | and parts => null ∈ parts
  | or parts => null ∈ parts
  | not part => part = null
  | subobject _ part => part = null
  | count _ part => part = null
  | _ => False

/-- The values in a node itself. -/
def propvals : Restriction → List Propval
  | content _ _ p => [p]
  | property _ _ p => [p]
  | comment ps _ => ps
  | _ => []

/-- All values in the filter can have been made from their parts. -/
def WellTyped (r : Restriction) : Prop := ∀ node ∈ r.nodes, ∀ p ∈ node.propvals, p.WellTyped

/-- What a reader makes of the filter: it owns the values, and `null` under a comment is nothing. -/
def asRead : Restriction → Restriction
  | null => null
  | and parts => and (parts.map asRead)
  | or parts => or (parts.map asRead)
  | not part => not part.asRead
  | content fuzzy tag p => content fuzzy tag p.toOwned
  | property op tag p => property op tag p.toOwned
  | compareTags op tag1 tag2 => compareTags op tag1 tag2
  | bitmask all tag mask => bitmask all tag mask
  | size op tag n => size op tag n
  | has tag => has tag
  | subobject object part => subobject object part.asRead
  | comment ps none => comment (ps.map Propval.toOwned) none
  | comment ps (some null) => comment (ps.map Propval.toOwned) none
  | comment ps (some part) => comment (ps.map Propval.toOwned) (some part.asRead)
  | count limit part => count limit part.asRead

/-! ### Nodes and what stands under them -/

/-- The node on top, of a filter that has one. -/
def head? : Restriction → Option Head
  | null => none
  | and parts => some (.and parts.length)
  | or parts => some (.or parts.length)
  | not _ => some .not
  | content fuzzy tag p => some (.content fuzzy tag p)
  | property op tag p => some (.property op tag p)
  | compareTags op tag1 tag2 => some (.compareTags op tag1 tag2)
  | bitmask all tag mask => some (.bitmask all tag mask)
  | size op tag n => some (.size op tag n)
  | has tag => some (.has tag)
  | subobject object _ => some (.subobject object)
  | comment ps part => some (.comment ps (part.any (!·.isNull)))
  | count limit _ => some (.count limit)

namespace Head

def encode : Head → Encoding
  | and n => .u8 0x00 ++ .count .listItems 4 n
  | or n => .u8 0x01 ++ .count .listItems 4 n
  | not => .u8 0x02
  | content fuzzy tag p => .u8 0x03 ++ .u32 fuzzy ++ .u32 tag ++ p.encode
  | property op tag p => .u8 0x04 ++ op.encode ++ .u32 tag ++ p.encode
  | compareTags op tag1 tag2 => .u8 0x05 ++ op.encode ++ .u32 tag1 ++ .u32 tag2
  | bitmask all tag mask => .u8 0x06 ++ .flag (!all) ++ .u32 tag ++ .u32 mask
  | size op tag n => .u8 0x07 ++ op.encode ++ .u32 tag ++ .u32 n
  | has tag => .u8 0x08 ++ .u32 tag
  | subobject object => .u8 0x09 ++ .u32 object
  | comment ps follows =>
    commentHeader ps.length ++ .all (ps.map Propval.encode) ++ .flag follows
  | count limit => .u8 0x0b ++ .u32 limit

def propvals : Head → List Propval
  | content _ _ p => [p]
  | property _ _ p => [p]
  | comment ps _ => ps
  | _ => []

/-- The same node, which owns its values. -/
def toOwned : Head → Head
  | content fuzzy tag p => content fuzzy tag p.toOwned
  | property op tag p => property op tag p.toOwned
  | comment ps follows => comment (ps.map Propval.toOwned) follows
  | h => h

@[simp] lemma arity_toOwned (h : Head) : h.toOwned.arity = h.arity := by
  cases h <;> rfl

end Head

section Parts

variable {r : Restriction} {h : Head}

lemma encodeAll_eq (rs : List Restriction) : encodeAll rs = .all (rs.map encode) := by
  induction rs with
  | nil => rfl
  | cons r rest ih => rw [encodeAll, ih, List.map_cons, Encoding.all_cons]

/-- A filter is written as its node and the filters under it. -/
lemma encode_of_head? (hh : r.head? = some h) :
    r.encode = h.encode ++ .all (r.parts.map encode) := by
  cases r <;> cases hh
  case and => rw [encode, encodeAll_eq]; rfl
  case or => rw [encode, encodeAll_eq]; rfl
  case comment ps part =>
    cases part with
    | none => simp [encode, encodePart, Head.encode, parts]
    | some part =>
      cases hn : part.isNull <;>
        simp [encode, encodePart, Head.encode, parts, Option.filter_some, hn, Encoding.append_assoc]
  all_goals simp [encode, Head.encode, parts, Encoding.append_assoc]

lemma propvals_of_head? (hh : r.head? = some h) : r.propvals = h.propvals := by
  cases r <;> cases hh <;> rfl

lemma length_parts_of_head? (hh : r.head? = some h) : r.parts.length = h.arity := by
  cases r <;> cases hh
  case comment ps part =>
    cases part with
    | none => rfl
    | some part => cases hn : part.isNull <;> simp [parts, Option.filter_some, Head.arity, hn]
  all_goals rfl

lemma asRead_of_head? (hh : r.head? = some h) :
    r.asRead = h.toOwned.build (r.parts.map asRead) := by
  cases r <;> cases hh
  case comment ps part =>
    rcases part with _ | part
    · simp [asRead, Head.toOwned, Head.build, parts]
    · cases part <;> simp [asRead, Head.toOwned, Head.build, parts, Option.filter_some, isNull]
  all_goals simp [asRead, Head.toOwned, Head.build, parts]

/-- The filters under a comment are never `null`. -/
lemma incomplete_iff : r.Incomplete ↔ null ∈ r.parts := by
  cases r
  case comment ps part =>
    rcases part with _ | part
    · simp [Incomplete, parts]
    · cases part <;> simp [Incomplete, parts, Option.filter_some, isNull]
  all_goals simp [Incomplete, parts, eq_comm]

end Parts

/-! ### Reading nodes -/

/-- Reads a value off the front bytes, whatever follows them. -/
def Reads {α : Type} (m : Scanner α) (front : List UInt8) (a : α) : Prop :=
  ∀ rest, m.run (front ++ rest) = (.ok (some a), rest)

namespace Reads

variable {α β : Type} {m : Scanner α} {f : α → Scanner β} {x y : List UInt8} {a : α} {b : β}

lemma bind (hm : Reads m x a) (hf : Reads (f a) y b) : Reads (m >>= f) (x ++ y) b := by
  intro rest
  rw [List.append_assoc]
  exact run_bind_eq_ok_iff.mpr ⟨a, y ++ rest, hm (y ++ rest), hf rest⟩

/-- The last of the reads. -/
lemma last (hm : Reads m x a) (hf : f a = pure b) : Reads (m >>= f) x b := by
  have hpure : Reads (f a) [] b := fun rest => by rw [hf]; rfl
  simpa only [List.append_nil] using hm.bind hpure

lemma liftM {good : α → Prop} {encode : α → Encoding} {r : Reader α} (h : ExactOn good encode r)
    (ha : good a) (hx : (encode a).result = .ok x) : Reads (liftM r) x a := fun rest =>
  run_liftM_eq_ok_iff.mpr ((h a _ rest).mpr ⟨ha, x, hx, rfl⟩)

lemma u8 {v : UInt8} (hx : (Encoding.u8 v).result = .ok x) : Reads Reader.u8 x v :=
  liftM Exact.u8.on trivial hx

lemma u32 {v : UInt32} (hx : (Encoding.u32 v).result = .ok x) : Reads Reader.u32 x v :=
  liftM Exact.u32.on trivial hx

lemma propval {p : Propval} (hp : p.WellTyped) (hx : p.encode.result = .ok x) :
    Reads Propval.reader x p.toOwned :=
  liftM Propval.reader_exact (Propval.readable_toOwned hp) (by rw [Propval.encode_toOwned, hx])

lemma comparison {op : Comparison} (hx : op.encode.result = .ok x) :
    Reads scanComparison x op := by
  have hcode : Reads Reader.u8 x op.code := u8 hx
  refine hcode.last ?_
  cases op <;> rfl

lemma flag {v : Bool} (hx : (Encoding.flag v).result = .ok x) : Reads scanFlag x v := by
  have hcode : Reads Reader.u8 x (if v then 1 else 0) := u8 (by cases v <;> exact hx)
  refine hcode.last ?_
  cases v <;> rfl

lemma propvals {ps : List Propval} {n : Nat} (hn : ps.length = n) (hps : ∀ p ∈ ps, p.WellTyped)
    (hx : (Encoding.all (ps.map Propval.encode)).result = .ok x) :
    Reads (Reader.counted Propval.reader n) x (ps.map Propval.toOwned) := by
  intro rest
  rw [run_liftM_eq_ok_iff]
  refine Propval.reader_exact.counted.mpr ⟨by simpa using hn, ?_, x, ?_, rfl⟩
  · intro p hp
    obtain ⟨q, hq, rfl⟩ := List.mem_map.mp hp
    exact Propval.readable_toOwned (hps q hq)
  · simpa [Function.comp_def] using hx

lemma count {what : Counted} {n : Nat} (hx : (Encoding.count what 4 n).result = .ok x) :
    ∃ v : UInt32, v.toNat = n ∧ Reads Reader.u32 x v := by
  obtain ⟨hn, rfl⟩ := Encoding.result_count_eq_ok_iff.mp hx
  have hv : (UInt32.ofNat n).toNat = n := UInt32.toNat_ofNat_of_lt hn
  exact ⟨.ofNat n, hv, u32 (by rw [Encoding.result_u32, hv])⟩

/-- A node is read off what it was written to. -/
lemma head {h : Head} (hps : ∀ p ∈ h.propvals, p.WellTyped) (hx : h.encode.result = .ok x) :
    Reads scanHead x h.toOwned := by
  cases h <;>
    simp only [Head.encode, Encoding.append_assoc, Encoding.result_append_eq_ok_iff] at hx
  case and n =>
    obtain ⟨_, _, hcode, hn, rfl⟩ := hx
    obtain ⟨v, rfl, hv⟩ := count hn
    exact (u8 hcode).bind (hv.last rfl)
  case or n =>
    obtain ⟨_, _, hcode, hn, rfl⟩ := hx
    obtain ⟨v, rfl, hv⟩ := count hn
    exact (u8 hcode).bind (hv.last rfl)
  case not => exact (u8 hx).last rfl
  case content =>
    obtain ⟨_, _, hcode, ⟨_, _, hfuzzy, ⟨_, _, htag, hp, rfl⟩, rfl⟩, rfl⟩ := hx
    have hp := propval (hps _ (List.mem_singleton_self _)) hp
    exact (u8 hcode).bind ((u32 hfuzzy).bind ((u32 htag).bind (hp.last rfl)))
  case property =>
    obtain ⟨_, _, hcode, ⟨_, _, hop, ⟨_, _, htag, hp, rfl⟩, rfl⟩, rfl⟩ := hx
    have hp := propval (hps _ (List.mem_singleton_self _)) hp
    exact (u8 hcode).bind ((comparison hop).bind ((u32 htag).bind (hp.last rfl)))
  case compareTags =>
    obtain ⟨_, _, hcode, ⟨_, _, hop, ⟨_, _, htag, htag', rfl⟩, rfl⟩, rfl⟩ := hx
    exact (u8 hcode).bind ((comparison hop).bind ((u32 htag).bind ((u32 htag').last rfl)))
  case bitmask all tag mask =>
    obtain ⟨_, _, hcode, ⟨_, _, hall, ⟨_, _, htag, hmask, rfl⟩, rfl⟩, rfl⟩ := hx
    refine (u8 hcode).bind ((flag hall).bind ((u32 htag).bind ((u32 hmask).last ?_)))
    rw [Bool.not_not]
    rfl
  case size =>
    obtain ⟨_, _, hcode, ⟨_, _, hop, ⟨_, _, htag, hn, rfl⟩, rfl⟩, rfl⟩ := hx
    exact (u8 hcode).bind ((comparison hop).bind ((u32 htag).bind ((u32 hn).last rfl)))
  case has =>
    obtain ⟨_, _, hcode, htag, rfl⟩ := hx
    exact (u8 hcode).bind ((u32 htag).last rfl)
  case subobject =>
    obtain ⟨_, _, hcode, hobject, rfl⟩ := hx
    exact (u8 hcode).bind ((u32 hobject).last rfl)
  case comment ps follows =>
    obtain ⟨_, _, hheader, ⟨_, _, hvalues, hfollows, rfl⟩, rfl⟩ := hx
    unfold commentHeader at hheader
    split at hheader
    · rename_i hn
      obtain ⟨_, _, hcode, hcount, rfl⟩ := Encoding.result_append_eq_ok_iff.mp hheader
      have hcount' : (UInt8.ofNat ps.length).toNat = ps.length :=
        UInt8.toNat_ofNat_of_lt (Nat.lt_succ_of_le hn.2)
      have hne : UInt8.ofNat ps.length ≠ 0 := fun h => by
        rw [h] at hcount'
        exact absurd hn.1 (by rw [← hcount']; decide)
      rw [List.append_assoc]
      refine (u8 hcode).bind ((u8 hcount).bind ?_)
      rw [if_neg hne]
      exact (propvals hcount'.symm hps hvalues).bind ((flag hfollows).last rfl)
    · cases hheader
  case count =>
    obtain ⟨_, _, hcode, hlimit, rfl⟩ := hx
    exact (u8 hcode).bind ((u32 hlimit).last rfl)

end Reads

/-! ### Gaps -/

/-- How many places of filters have `null` in them. -/
def gaps (r : Restriction) : Nat := r.nodes.countP isNull

@[simp] lemma gaps_null : null.gaps = 1 := by
  simp [gaps, nodes_eq, parts, isNull]

/-- How many gaps there are in a row of filters. -/
def gapsAll (rs : List Restriction) : Nat := (rs.map nodes).flatten.countP isNull

lemma gapsAll_cons (r : Restriction) (rs : List Restriction) :
    gapsAll (r :: rs) = r.gaps + gapsAll rs := by
  rw [gapsAll, List.map_cons, List.flatten_cons, List.countP_append]
  rfl

lemma gaps_of_head? {r : Restriction} {h : Head} (hh : r.head? = some h) :
    r.gaps = gapsAll r.parts := by
  have hr : ¬ r.isNull = true := by cases r <;> simp_all [head?, isNull]
  rw [gaps, nodes_eq, List.countP_cons_of_neg hr]
  rfl

lemma head?_eq_none_iff {r : Restriction} : r.head? = none ↔ r = null := by
  cases r <;> simp [head?]

lemma gaps_eq_zero_iff_forall {r : Restriction} : r.gaps = 0 ↔ ∀ node ∈ r.nodes, node ≠ null := by
  rw [gaps, List.countP_eq_zero]
  refine forall₂_congr fun node _ => ?_
  cases node <;> simp [isNull]

/-- Gaps are where an operator is incomplete, or at the very top. -/
lemma gaps_eq_zero_iff (r : Restriction) :
    r.gaps = 0 ↔ r ≠ null ∧ ∀ node ∈ r.nodes, ¬ node.Incomplete := by
  induction r using parts_induction with
  | node r ih =>
    have hparts : (∀ part ∈ r.parts, ∀ node ∈ part.nodes, node ≠ null) ↔
        null ∉ r.parts ∧ ∀ part ∈ r.parts, ∀ node ∈ part.nodes, ¬ node.Incomplete := by
      simp only [← gaps_eq_zero_iff_forall]
      constructor
      · intro h
        refine ⟨fun hnull => ?_, fun part hpart => ((ih part hpart).mp (h part hpart)).2⟩
        exact ((ih null hnull).mp (h null hnull)).1 rfl
      · rintro ⟨hnull, h⟩ part hpart
        exact (ih part hpart).mpr ⟨fun hn => hnull (hn ▸ hpart), h part hpart⟩
    rw [gaps_eq_zero_iff_forall, forall_mem_nodes, forall_mem_nodes, hparts, incomplete_iff]

/-! ### Rows with gaps -/

/-- Where some filters are due, the bytes hold them but for gaps. The filters that fill the gaps
are read from what follows, and without gaps these are the filters that were due. -/
def Fills (front : List UInt8) (due gaps : Nat) (filters : List Restriction) : Prop :=
  ∃ fill : List Restriction → List Restriction,
    (gaps = 0 → ∀ row, fill row = filters ++ row) ∧
    ∀ n rest, (scanRow (due + n)).run (front ++ rest) = (fill <$> scanRow (gaps + n)).run rest

namespace Fills

variable {x y : List UInt8} {k m l n : Nat} {as bs : List Restriction}

lemma nil : Fills [] 0 0 [] := by
  refine ⟨id, fun _ _ => rfl, fun n rest => ?_⟩
  rw [id_map, List.nil_append]

lemma null : Fills [] 1 1 [null] := by
  refine ⟨id, fun h => absurd h Nat.one_ne_zero, fun n rest => ?_⟩
  rw [id_map, List.nil_append]

/-- The gaps in front are filled from behind. -/
lemma append (hx : Fills x k m as) (hy : Fills y l n bs) :
    Fills (x ++ y) (k + l) (m + n) (as ++ bs) := by
  -- Behind `x` its gaps are due, then what `y` holds: `y` is read with the gaps of `x` in its row.
  obtain ⟨f, hf, hrunf⟩ := hx
  obtain ⟨g, hg, hrung⟩ := hy
  refine ⟨f ∘ g, fun h row => ?_, fun i rest => ?_⟩
  · obtain ⟨hm, hn⟩ := Nat.add_eq_zero_iff.mp h
    rw [Function.comp_apply, hg hn, hf hm, List.append_assoc]
  · have hrow := hrung (m + i) rest
    rw [List.append_assoc, Nat.add_assoc, hrunf, run_map, Nat.add_left_comm, hrow]
    rw [run_map, run_map, Nat.add_left_comm, Nat.add_assoc]
    rcases (scanRow (m + (n + i))).run rest with ⟨_ | _ | row, rest⟩ <;> rfl

/-- The node asks for the filters under it. -/
lemma node {h : Head} (hx : Reads scanHead x h) (hy : Fills y h.arity m as)
    (has : as.length = h.arity) : Fills (x ++ y) 1 m [h.build as] := by
  obtain ⟨f, hf, hrunf⟩ := hy
  refine ⟨h.close ∘ f, fun hm row => ?_, fun n rest => ?_⟩
  · rw [Function.comp_apply, hf hm, Head.close, List.take_left' has, List.drop_left' has]
    rfl
  · rw [List.append_assoc, Nat.add_comm 1 n, scanRow_succ, run_bind, hx (y ++ rest)]
    change (h.close <$> scanRow (h.arity + n)).run (y ++ rest) = _
    rw [run_map, hrunf, run_map, run_map]
    rcases (scanRow (m + n)).run rest with ⟨_ | _ | row, rest⟩ <;> rfl

/-- Filters in a row. -/
lemma all {rs : List Restriction}
    (h : ∀ r ∈ rs, ∀ x, r.encode.result = .ok x → Fills x 1 r.gaps [r.asRead])
    (hx : (Encoding.all (rs.map encode)).result = .ok x) :
    Fills x rs.length (gapsAll rs) (rs.map asRead) := by
  induction rs generalizing x with
  | nil =>
    cases hx
    exact nil
  | cons r rest ih =>
    obtain ⟨y, z, hy, hz, rfl⟩ := Encoding.result_all_cons_eq_ok_iff.mp hx
    have hrest := ih (fun r hr => h r (List.mem_cons_of_mem _ hr)) hz
    have hr := (h r List.mem_cons_self y hy).append hrest
    rw [List.map_cons, gapsAll_cons, List.length_cons, Nat.add_comm]
    exact hr

end Fills

/-- The invariant of reading: what a filter was written to fills one place, but for its gaps. -/
lemma fills_encode (r : Restriction) (hr : r.WellTyped) {x : List UInt8}
    (hx : r.encode.result = .ok x) : Fills x 1 r.gaps [r.asRead] := by
  induction r using parts_induction generalizing x with
  | node r ih =>
    cases hh : r.head? with
    | none =>
      obtain rfl := head?_eq_none_iff.mp hh
      rw [encode] at hx
      cases hx
      rw [gaps_null, asRead]
      exact .null
    | some h =>
      obtain ⟨hself, hparts⟩ := forall_mem_nodes.mp hr
      rw [encode_of_head? hh] at hx
      obtain ⟨y, z, hy, hz, rfl⟩ := Encoding.result_append_eq_ok_iff.mp hx
      rw [propvals_of_head? hh] at hself
      have hz := Fills.all (fun part hpart _ => ih part hpart (hparts part hpart)) hz
      have hlength : (r.parts.map asRead).length = h.toOwned.arity := by
        rw [List.length_map, length_parts_of_head? hh, Head.arity_toOwned]
      rw [length_parts_of_head? hh, ← Head.arity_toOwned] at hz
      rw [gaps_of_head? hh, asRead_of_head? hh]
      exact .node (.head hself hy) hz hlength

/-! ### Which filters can be read -/

/-- A filter takes no bytes only if there is none. -/
lemma encode_eq_nil_iff {r : Restriction} {x : List UInt8} (hr : r.WellTyped)
    (hx : r.encode.result = .ok x) : x = [] ↔ r = null := by
  cases hh : r.head? with
  | none =>
    obtain rfl := head?_eq_none_iff.mp hh
    rw [encode] at hx
    cases hx
    simp [Encoding.empty, Encoding.bytes]
  | some h =>
    have hself := (forall_mem_nodes.mp hr).1
    rw [encode_of_head? hh] at hx
    rw [propvals_of_head? hh] at hself
    obtain ⟨y, z, hy, hz, rfl⟩ := Encoding.result_append_eq_ok_iff.mp hx
    have hlength := length_lt_of_scanHead (Reads.head hself hy z)
    constructor
    · intro hnil
      rw [hnil] at hlength
      cases hlength
    · rintro rfl
      cases hh

/-- **Complete filters can be read, and no others.** A filter without `null` in the place of one
that an operator counts on is read back in front of anything. Any other one, by itself, has its
reader run out of bytes. -/
theorem scan_push {r : Restriction} {out : Buffer} (hr : r.WellTyped)
    (hout : Buffer.empty.push r.encode = (.ok (), out)) :
    (out.bytes = [] ↔ r = null) ∧
    (r ≠ null → (∀ node ∈ r.nodes, ¬ node.Incomplete) →
      ∀ suffix, scan.run (out.bytes ++ suffix) = (.ok (some r.asRead), suffix)) ∧
    (r ≠ null → (∃ node ∈ r.nodes, node.Incomplete) →
      scan.run out.bytes = (.error (.underflow 1 0), [])) := by
  obtain ⟨x, hx, rfl⟩ := Buffer.push_eq_ok_iff.mp hout
  obtain ⟨fill, hfill, hrun⟩ := fills_encode r hr hx
  refine ⟨encode_eq_nil_iff hr hx, fun hnull hcomplete suffix => ?_, fun hnull hincomplete => ?_⟩
  · have hgaps : r.gaps = 0 := (gaps_eq_zero_iff r).mpr ⟨hnull, hcomplete⟩
    have hrow : (scanRow 1).run (x ++ suffix) = (.ok (some [r.asRead]), suffix) := by
      rw [hrun 0 suffix, hgaps, run_map, scanRow_zero]
      exact congrArg (fun row => (Except.ok (some row), suffix)) (hfill hgaps [])
    change scan.run (x ++ suffix) = _
    rw [run_scan, hrow]
    rfl
  · have hgaps : r.gaps ≠ 0 := fun hgaps => by
      obtain ⟨node, hnode, hmissing⟩ := hincomplete
      exact ((gaps_eq_zero_iff r).mp hgaps).2 node hnode hmissing
    obtain ⟨g, hg⟩ := Nat.exists_eq_succ_of_ne_zero hgaps
    have hrow : (scanRow 1).run (x ++ []) = (.error (.underflow 1 0), []) := by
      rw [hrun 0 [], hg, run_map, run_scanRow_nil]
      rfl
    change scan.run x = _
    rw [← List.append_nil x, run_scan, hrow]
    rfl

/-- A filter with a comment on nothing, and one that lacks an alternative. -/
theorem scan_push_comment :
    let r : Restriction := and [not (has 7), comment [⟨0x0E080003, .long, .long 5⟩] (some null)]
    let bs : List UInt8 :=
      [0, 2, 0, 0, 0, 2, 8, 7, 0, 0, 0, 10, 1, 3, 0, 8, 0x0E, 5, 0, 0, 0, 0]
    let gap : Restriction := or [null, has 7]
    let gapBytes : List UInt8 := [1, 2, 0, 0, 0, 8, 7, 0, 0, 0]
    Buffer.empty.push r.encode = (.ok (), .ofBytes bs) ∧
      scan.run (bs ++ [9]) = (.ok (some r.asRead), [9]) ∧
      r.asRead = and [not (has 7), comment [⟨0x0E080003, .long, .long 5⟩] none] ∧
      Buffer.empty.push gap.encode = (.ok (), .ofBytes gapBytes) ∧
      scan.run gapBytes = (.error (.underflow 1 0), []) := by
  intro r bs gap gapBytes
  have hp : Propval.WellTyped ⟨0x0E080003, .long, .long 5⟩ := by decide
  have hr : r.WellTyped := by simpa [r, WellTyped, nodes_eq, parts, propvals, isNull] using hp
  have hpush : Buffer.empty.push r.encode = (.ok (), .ofBytes bs) := rfl
  have hcomplete : ∀ node ∈ r.nodes, ¬ node.Incomplete := by
    simp [r, nodes_eq, parts, Incomplete, isNull]
  have hgap : gap.WellTyped := by simp [gap, WellTyped, nodes_eq, parts, propvals]
  have hgapPush : Buffer.empty.push gap.encode = (.ok (), .ofBytes gapBytes) := rfl
  have hread := (scan_push hr hpush).2.1 (by simp [r]) hcomplete [9]
  have hincomplete : ∃ node ∈ gap.nodes, node.Incomplete :=
    ⟨gap, mem_nodes_self gap, by simp [gap, Incomplete]⟩
  have hstuck := (scan_push hgap hgapPush).2.2 (by simp [gap]) hincomplete
  refine ⟨hpush, hread, ?_, hgapPush, hstuck⟩
  simp [r, asRead]
  rfl

end StoreRpc.Restriction
