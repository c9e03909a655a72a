import StoreRpc.Proofs.Store.NewFolder

/-!
The change of a new folder, as it is told to the server.

A folder is created with the key of a change, and with the same key behind its size as the list of
the changes before it. The key is the GUID of the domain and 48 bits of the number, so that both can
be read off it again.
-/

namespace StoreRpc

open Procedure (Event Runs)

/-! ### What stands in a request -/

/-- Each of the encodings that follow one another stands in what is written. -/
lemma Encoding.infix_of_mem {e : Encoding} {es : List Encoding} {bs : List UInt8} (he : e ∈ es)
    (h : (all es).result = .ok bs) : ∃ x, e.result = .ok x ∧ x <:+: bs := by
  induction es generalizing bs with
  | nil => cases he
  | cons e' es ih =>
    obtain ⟨x, y, hx, hy, rfl⟩ := result_all_cons_eq_ok_iff.mp h
    obtain rfl | he := List.mem_cons.mp he
    · exact ⟨x, hx, (List.prefix_append x y).isInfix⟩
    · obtain ⟨z, hz, hinfix⟩ := ih he hy
      exact ⟨z, hz, hinfix.trans (List.suffix_append x y).isInfix⟩

/-- The properties of a new folder stand in the request that creates it. -/
lemma Request.infix_of_createFolder {home : String} {codePage : UInt32} {ps : List Propval}
    {p : Propval} {payload : List UInt8} (hp : p ∈ ps)
    (h : (createFolder home codePage ps).encode.result = .ok payload) :
    ∃ x, p.encode.result = .ok x ∧ x <:+: payload := by
  simp only [encode, encodeArguments, Encoding.list16, Encoding.result_append_eq_ok_iff] at h
  obtain ⟨call, _, -, ⟨front, _, -, ⟨count, items, -, hitems, rfl⟩, rfl⟩, rfl⟩ := h
  obtain ⟨x, hx, hinfix⟩ := Encoding.infix_of_mem (List.mem_map_of_mem hp) hitems
  refine ⟨x, hx, hinfix.trans ?_⟩
  rw [← List.append_assoc, ← List.append_assoc]
  exact (List.suffix_append _ items).isInfix

namespace Folder

/-! ### What stands in a key -/

section Key

variable (domain : UInt32) (number : UInt64)

/-- The domain is the word in front. -/
lemma ofLe_take_changeKey : Word.ofLe ((changeKey domain number).take 4) = domain.toNat := by
  have hfront : (changeKey domain number).take 4 = Word.le 4 domain.toNat := by
    rw [changeKey, domainKey, List.append_assoc]
    exact List.take_left' (Word.length_le ..)
  have hbound : domain.toNat < Word.bound 4 := domain.toNat_lt
  rw [hfront, Word.ofLe_le, Nat.mod_eq_of_lt hbound]

/-- The number stands behind the GUID, with the most significant byte first. -/
lemma ofLe_drop_changeKey :
    Word.ofLe ((changeKey domain number).drop 16).reverse = number.toNat % 2 ^ 48 := by
  have hback : (changeKey domain number).drop 16 = (Word.le 6 (number.toNat % 2 ^ 48)).reverse :=
    List.drop_left' (by simp [domainKey])
  rw [hback, List.reverse_reverse, Word.ofLe_le]
  exact Nat.mod_mod ..

lemma changeKey_injective {domain domain' : UInt32} {number number' : UInt64}
    (hnumber : number.toNat < 2 ^ 48) (hnumber' : number'.toNat < 2 ^ 48)
    (h : changeKey domain number = changeKey domain' number') :
    domain = domain' ∧ number = number' := by
  constructor
  · refine UInt32.toNat.inj ?_
    rw [← ofLe_take_changeKey domain number, h, ofLe_take_changeKey]
  · refine UInt64.toNat.inj ?_
    rw [← Nat.mod_eq_of_lt hnumber, ← ofLe_drop_changeKey domain number, h, ofLe_drop_changeKey,
      Nat.mod_eq_of_lt hnumber']

end Key

/-! ### The properties that tell the key -/

/-- The properties tell this key, and it behind its size as the only change before. -/
structure Tells (key : List UInt8) (ps : List Propval) : Prop where
  length : key.length = 22
  changeKey : ps.filter (fun p => p.tag = Tag.changeKey) =
    [⟨Tag.changeKey, .binary, .binary ⟨key, true⟩⟩]
  predecessors : ps.filter (fun p => p.tag = Tag.predecessorChangeList) =
    [⟨Tag.predecessorChangeList, .binary, .binary ⟨22 :: key, true⟩⟩]

/-- A folder of the domain was asked for with these properties, after this number was told. -/
def Asked (domain : UInt32) (number : UInt64) (ps : List Propval) : Prop :=
  ∃ home name container comment T out, Runs (create home domain name container comment) T out ∧
    ⟨.send (.allocateChangeNumber home), .ok number⟩ ∈ T ∧
    .createFolder home 0 ps ∈ T.filterMap Event.request?

section Properties

variable (domain : UInt32) (name container comment : String) (number now : UInt64)

lemma changeKey_mem : ⟨Tag.changeKey, .binary, .binary ⟨changeKey domain number, true⟩⟩ ∈
    newProperties domain name container comment number now := by
  simp [newProperties, commonProperties]

lemma predecessors_mem :
    ⟨Tag.predecessorChangeList, .binary, .binary ⟨22 :: changeKey domain number, true⟩⟩ ∈
      newProperties domain name container comment number now := by
  simp [newProperties, commonProperties]

lemma tells_newProperties :
    Tells (changeKey domain number) (newProperties domain name container comment number now) where
  length := length_changeKey domain number
  changeKey := filter_tag _ _ _ _ _ _ (changeKey_mem domain name container comment number now)
  predecessors :=
    filter_tag _ _ _ _ _ _ (predecessors_mem domain name container comment number now)

end Properties

/-- The encoding of a binary property whose tag names its type. -/
lemma result_encode_binary {tag : UInt32} {v : Held (List UInt8)} {bs : List UInt8}
    (htag : PropType.codeOfTag tag ≠ 0)
    (h : (Propval.encode ⟨tag, .binary, .binary v⟩).result = .ok bs) :
    bs = Word.le 4 tag.toNat ++ Word.le 4 v.content.length ++ v.content := by
  simp only [Propval.encode, if_neg htag, Encoding.append_empty, Propval.encodePayload,
    Propval.encodeBinary, Encoding.result_append_eq_ok_iff, Encoding.result_u32,
    Encoding.result_count_eq_ok_iff, Encoding.result_raw] at h
  obtain ⟨_, _, ⟨⟩, ⟨_, _, ⟨-, rfl⟩, ⟨⟩, rfl⟩, rfl⟩ := h
  exact (List.append_assoc ..).symm

/-- The server refuses to create the folder. -/
lemma runs_create_refused (home : String) (domain : UInt32) (name container comment : String)
    (number : UInt64) (now : Int64) (why : Error) :
    Runs (create home domain name container comment)
      [⟨.send (.allocateChangeNumber home), .ok number⟩, ⟨.now, now⟩,
        ⟨.send (.createFolder home 0
          (newProperties domain name container comment number (Filetime.ofUnix now))),
          .error why⟩] (.error why) := by
  unfold create
  simp only [properties_eq]
  refine Procedure.runs_send_bind_iff.mpr (.inr ⟨number, _, rfl, ?_⟩)
  refine Procedure.runs_now_bind_iff.mpr ⟨now, _, rfl, ?_⟩
  exact Procedure.runs_send_bind_iff.mpr (.inl ⟨why, rfl, rfl⟩)

lemma Asked.tells {domain : UInt32} {number : UInt64} {ps : List Propval}
    (h : Asked domain number ps) : Tells (changeKey domain number) ps := by
  obtain ⟨home, name, container, comment, T, out, hruns, hnumber, hps⟩ := h
  obtain ⟨now, hrequests⟩ := (runs_create hruns).asks hnumber
  rw [hrequests] at hps
  obtain rfl : ps = newProperties domain name container comment number now := by
    simpa [plan] using hps
  exact tells_newProperties domain name container comment number now

namespace Tells

variable {key : List UInt8} {ps : List Propval} {p : Propval}

lemma payload_of_changeKey (h : Tells key ps) (hp : p ∈ ps) (htag : p.tag = Tag.changeKey) :
    p.payload = .binary ⟨key, true⟩ := by
  have hmem : p ∈ ps.filter fun p => p.tag = Tag.changeKey :=
    List.mem_filter.mpr ⟨hp, decide_eq_true htag⟩
  rw [h.changeKey, List.mem_singleton] at hmem
  rw [hmem]

lemma payload_of_predecessors (h : Tells key ps) (hp : p ∈ ps)
    (htag : p.tag = Tag.predecessorChangeList) : p.payload = .binary ⟨22 :: key, true⟩ := by
  have hmem : p ∈ ps.filter fun p => p.tag = Tag.predecessorChangeList :=
    List.mem_filter.mpr ⟨hp, decide_eq_true htag⟩
  rw [h.predecessors, List.mem_singleton] at hmem
  rw [hmem]

/-- Other keys are told by other payloads. -/
lemma same_eq_false {key' : List UInt8} {ps' : List Propval} {q : Propval} (h : Tells key ps)
    (h' : Tells key' ps') (hkey : key ≠ key') (hp : p ∈ ps) (hq : q ∈ ps') (htag : q.tag = p.tag)
    (hp' : p.tag = Tag.changeKey ∨ p.tag = Tag.predecessorChangeList) :
    p.payload.same q.payload = false := by
  obtain hp' | hp' := hp'
  · rw [h.payload_of_changeKey hp hp', h'.payload_of_changeKey hq (htag.trans hp')]
    exact beq_false_of_ne hkey
  · rw [h.payload_of_predecessors hp hp', h'.payload_of_predecessors hq (htag.trans hp')]
    exact beq_false_of_ne fun heq => hkey (List.cons.inj heq).2

end Tells

/-- **The key of a new folder tells its domain and its number.** Once a number was told, the request
that creates the folder has one key of a change and one list of the changes before it. The key is
the GUID of the domain and 48 bits of the number, most significant byte first; the list is the key
behind its size. The domain and a number of 48 bits can be read off the key, and folders of other
domains or with other numbers have other keys and lists. -/
theorem change_key_identifies :
    (∀ (home : String) (domain : UInt32) (name container comment : String) (number : UInt64)
      (T : List Event) (out : Except Error UInt64),
      Runs (create home domain name container comment) T out →
      ⟨.send (.allocateChangeNumber home), .ok number⟩ ∈ T →
        ∃ guid ps, (Guid.ofDomain domain).encode.result = .ok guid ∧
          changeKey domain number = guid ++ (Word.le 6 (number.toNat % 2 ^ 48)).reverse ∧
          T.filterMap Event.request? = plan home ps ∧ Tells (changeKey domain number) ps ∧
          ∀ payload, (Request.createFolder home 0 ps).encode.result = .ok payload →
            Word.le 4 Tag.changeKey.toNat ++ Word.le 4 22 ++ changeKey domain number
                <:+: payload ∧
              Word.le 4 Tag.predecessorChangeList.toNat ++ Word.le 4 23 ++
                22 :: changeKey domain number <:+: payload) ∧
    (∀ (domain : UInt32) (number : UInt64), number.toNat < 2 ^ 48 →
      Word.ofLe ((changeKey domain number).take 4) = domain.toNat ∧
        Word.ofLe ((changeKey domain number).drop 16).reverse = number.toNat) ∧
    ∀ (domain domain' : UInt32) (number number' : UInt64) (ps ps' : List Propval),
      Asked domain number ps → Asked domain' number' ps' →
      number.toNat < 2 ^ 48 → number'.toNat < 2 ^ 48 → (domain, number) ≠ (domain', number') →
        ∀ p ∈ ps, ∀ q ∈ ps', q.tag = p.tag →
          p.tag = Tag.changeKey ∨ p.tag = Tag.predecessorChangeList →
            p.payload.same q.payload = false := by
  refine ⟨fun home domain name container comment number T out hruns hnumber => ?_,
    fun domain number hnumber => ?_,
    fun domain domain' number number' ps ps' h h' hnumber hnumber' hne p hp q hq => ?_⟩
  · obtain ⟨now, hrequests⟩ := (runs_create hruns).asks hnumber
    refine ⟨domainKey domain, _, by rw [Guid.result_encode, wire_ofDomain], rfl, hrequests,
      tells_newProperties domain name container comment number now, fun payload hpayload => ?_⟩
    obtain ⟨x, hx, hkey⟩ := Request.infix_of_createFolder
      (changeKey_mem domain name container comment number now) hpayload
    obtain ⟨y, hy, hpredecessors⟩ := Request.infix_of_createFolder
      (predecessors_mem domain name container comment number now) hpayload
    rw [result_encode_binary (by decide) hx, length_changeKey] at hkey
    rw [result_encode_binary (by decide) hy, List.length_cons, length_changeKey] at hpredecessors
    exact ⟨hkey, hpredecessors⟩
  · have hback := ofLe_drop_changeKey domain number
    rw [Nat.mod_eq_of_lt hnumber] at hback
    exact ⟨ofLe_take_changeKey domain number, hback⟩
  · have hkey : changeKey domain number ≠ changeKey domain' number' := fun heq =>
      hne (Prod.ext_iff.mpr (changeKey_injective hnumber hnumber' heq))
    exact h.tells.same_eq_false h'.tells hkey hp hq

/-- Folders of two domains, with the same number and the same name. -/
theorem change_key_identifies_domains :
    let key : List UInt8 := [1, 0, 0, 0, 0xFB, 0x0A, 0xF6, 0x7D, 0x91, 0x92, 0x49, 0x88, 0x6A,
      0xA7, 0x38, 0xCE, 0, 0, 0, 0, 1, 7]
    (∃ T ps payload, Runs (create "/d" 1 "n" "" "") T (.error (.status ⟨2⟩)) ∧
      T.filterMap Event.request? = plan "/d" ps ∧ Tells key ps ∧
      (Request.createFolder "/d" 0 ps).encode.result = .ok payload ∧
      Word.le 4 Tag.changeKey.toNat ++ Word.le 4 22 ++ key <:+: payload) ∧
    Word.ofLe (key.take 4) = 1 ∧ Word.ofLe (key.drop 16).reverse = 263 ∧
    ∃ ps ps', Asked 1 263 ps ∧ Asked 2 263 ps' ∧ ∀ p ∈ ps, ∀ q ∈ ps', q.tag = p.tag →
      p.tag = Tag.changeKey ∨ p.tag = Tag.predecessorChangeList →
        p.payload.same q.payload = false := by
  intro key
  have hkey : changeKey 1 263 = key := by decide
  have hruns (domain : UInt32) :=
    runs_create_refused "/d" domain "n" "" "" 263 0 (.status ⟨2⟩)
  have hasked (domain : UInt32) :
      Asked domain 263 (newProperties domain "n" "" "" 263 (Filetime.ofUnix 0)) :=
    ⟨_, _, _, _, _, _, hruns domain, List.mem_cons_self, by simp [Event.request?]⟩
  obtain ⟨hcreate, hrecover, hapart⟩ := change_key_identifies
  obtain ⟨-, ps, -, -, hrequests, htells, hpayload⟩ :=
    hcreate _ _ _ _ _ _ _ _ (hruns 1) List.mem_cons_self
  cases hrequests
  obtain ⟨hfront, hback⟩ := hrecover 1 263 (by decide)
  rw [hkey] at htells hpayload hfront hback
  exact ⟨⟨_, _, _, hruns 1, rfl, htells, rfl, (hpayload _ rfl).1⟩, hfront, hback, _, _,
    hasked 1, hasked 2, hapart 1 2 263 263 _ _ (hasked 1) (hasked 2) (by decide) (by decide)
      (by decide)⟩

end Folder

end StoreRpc
