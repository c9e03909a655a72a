import Mathlib.Data.List.Nodup
import StoreRpc.Proofs.Guid.Counter
import StoreRpc.Proofs.Guid.Wire
import StoreRpc.Proofs.Property.RoundTrip
import StoreRpc.Proofs.Store.Transcript
import StoreRpc.Store.Folder

/-!
The properties of a new folder, and how it is created.

The properties are of the types that their tags name, so that there is nothing to refuse: a folder
is created by two requests, and the second one tells the number that the first one brought.
-/

namespace StoreRpc.Folder

/-! ### The change -/

/-- The GUID of a domain on the wire. -/
def domainKey (domain : UInt32) : List UInt8 :=
  Word.le 4 domain.toNat ++
    [0xFB, 0x0A, 0xF6, 0x7D, 0x91, 0x92, 0x49, 0x88, 0x6A, 0xA7, 0x38, 0xCE]

/-- The change of a domain's object: the domain, and 48 bits of the number with the most significant
byte first. -/
def changeKey (domain : UInt32) (number : UInt64) : List UInt8 :=
  domainKey domain ++ (Word.le 6 (number.toNat % 2 ^ 48)).reverse

section Change

variable (domain : UInt32) (number : UInt64)

lemma wire_ofDomain : (Guid.ofDomain domain).wire = domainKey domain := by
  have hmid : Word.le 2 0x0AFB = [0xFB, 0x0A] := by decide
  have hhigh : Word.le 2 0x7DF6 = [0xF6, 0x7D] := by decide
  simp [Guid.wire, Guid.ofDomain, hmid, hhigh, domainKey]

lemma length_changeKey : (changeKey domain number).length = 22 := by
  simp [changeKey, domainKey]

lemma result_encodeBare_changeOf :
    (changeOf domain number).encodeBare.result = .ok (changeKey domain number) := by
  have hsize : Xid.minSize ≤ 22 ∧ (22 : UInt8) ≤ Xid.maxSize := by decide
  have hbytes : (Word.le 8 (Counter.ofValue number).toNat).take 6 =
      (Word.le 6 (number.toNat % 2 ^ 48)).reverse := by
    have hbound : 2 ^ 48 = Word.bound 6 := rfl
    rw [hbound, Word.le_mod, Counter.le_ofValue]
    exact List.take_left' (by simp)
  rw [Xid.encodeBare, changeOf, if_pos hsize, changeKey, ← hbytes, ← wire_ofDomain]
  exact Encoding.result_append (Guid.result_encode _) (Encoding.result_raw _)

lemma result_encode_changeOf :
    (changeOf domain number).encode.result = .ok (22 :: changeKey domain number) := by
  rw [Xid.encode, Encoding.u8_eq_raw]
  exact Encoding.result_append (Encoding.result_raw [22]) (result_encodeBare_changeOf domain number)

end Change

/-! ### The properties -/

section Properties

variable (domain : UInt32) (name container comment : String) (number now : UInt64)

/-- What is told of every new folder. -/
def commonProperties : List Propval :=
  [⟨Tag.parentFolderId, .longLong, .longLong (PublicFolder.id PublicFolder.ipmSubtree)⟩,
    ⟨Tag.folderType, .long, .long genericType⟩,
    ⟨Tag.displayName, .wideString, textOf name⟩,
    ⟨Tag.comment, .wideString, textOf comment⟩,
    ⟨Tag.creationTime, .fileTime, .longLong now⟩,
    ⟨Tag.lastModificationTime, .fileTime, .longLong now⟩,
    ⟨Tag.changeNumber, .longLong, .longLong number⟩,
    ⟨Tag.changeKey, .binary, .binary ⟨changeKey domain number, true⟩⟩,
    ⟨Tag.predecessorChangeList, .binary, .binary ⟨22 :: changeKey domain number, true⟩⟩]

/-- What is told of a new folder, and of what it contains if that is known. -/
def newProperties : List Propval :=
  commonProperties domain name comment number now ++
    if container = "" then [] else [⟨Tag.containerClass, .wideString, textOf container⟩]

lemma nodup_tags :
    ((newProperties domain name container comment number now).map Propval.tag).Nodup := by
  unfold newProperties commonProperties
  split_ifs <;> simp only [List.map_append, List.map_cons, List.map_nil] <;> decide

/-- No two of the properties have the same tag. -/
lemma filter_tag {p : Propval}
    (hp : p ∈ newProperties domain name container comment number now) :
    (newProperties domain name container comment number now).filter (fun q => q.tag = p.tag) =
      [p] := by
  have hnodup := nodup_tags domain name container comment number now
  have hsame : ∀ q ∈ newProperties domain name container comment number now,
      decide (q.tag = p.tag) = decide (q = p) := fun q hq =>
    decide_eq_decide.mpr ⟨fun htag => List.inj_on_of_nodup_map hnodup hq hp htag,
      congrArg Propval.tag⟩
  rw [List.filter_congr hsame, List.filter_eq,
    List.count_eq_one_of_mem (List.Nodup.of_map _ hnodup) hp, List.replicate_one]

lemma property_eq {tag : UInt32} {type : PropType} {v : Payload}
    (htag : PropType.codeOfTag tag = type.code) (hkind : type.accepts v.kind) :
    property tag v = .ok ⟨tag, type, v⟩ := by
  have hmade : Propval.ofTag tag v = .ok ⟨tag, type, v⟩ :=
    Propval.withType_eq_ok_iff.mpr ⟨⟨.inr htag, hkind⟩, rfl, htag.symm, rfl⟩
  rw [property, hmade]
  rfl

/-- Values of the types that their tags name can be made. -/
lemma mapM_property {ps : List Propval}
    (h : ∀ p ∈ ps, PropType.codeOfTag p.tag = p.type.code ∧
      p.type.accepts p.payload.kind) :
    (ps.map fun p => (p.tag, p.payload)).mapM (fun (tag, v) => property tag v) = .ok ps := by
  induction ps with
  | nil => rfl
  | cons p ps ih =>
    obtain ⟨⟨htag, hkind⟩, hrest⟩ := List.forall_mem_cons.mp h
    have hfirst : property p.tag p.payload = .ok p := property_eq htag hkind
    simp only [List.map_cons, List.mapM_cons, hfirst, ih hrest]
    rfl

lemma properties_eq : properties domain name container comment number now =
    .ok (newProperties domain name container comment number now) := by
  have hkey : binaryOf (changeOf domain number).encodeBare =
      .ok (.binary ⟨changeKey domain number, true⟩) := by
    rw [binaryOf, result_encodeBare_changeOf]
    rfl
  have hpredecessors : binaryOf (changeOf domain number).encode =
      .ok (.binary ⟨22 :: changeKey domain number, true⟩) := by
    rw [binaryOf, result_encode_changeOf]
    rfl
  have htyped : ∀ p ∈ commonProperties domain name comment number now,
      PropType.codeOfTag p.tag = p.type.code ∧ p.type.accepts p.payload.kind := by
    simp only [commonProperties, List.forall_mem_cons]
    exact ⟨⟨rfl, rfl⟩, ⟨rfl, rfl⟩, ⟨rfl, rfl⟩, ⟨rfl, rfl⟩, ⟨rfl, rfl⟩, ⟨rfl, rfl⟩, ⟨rfl, rfl⟩,
      ⟨rfl, rfl⟩, ⟨rfl, rfl⟩, by simp⟩
  have hcommon := mapM_property htyped
  simp only [commonProperties, List.map_cons, List.map_nil] at hcommon
  have hclass : property Tag.containerClass (textOf container) =
      .ok ⟨Tag.containerClass, .wideString, textOf container⟩ := property_eq rfl rfl
  have hbind {α β : Type} (a : α) (f : α → Except Error β) : (Except.ok a >>= f) = f a := rfl
  unfold properties newProperties
  simp only [hkey, hpredecessors, hbind, hcommon, hclass]
  split_ifs <;> rfl

end Properties

/-! ### The requests -/

open Procedure (Event Runs)

/-- How a folder is created: the number of a change is asked for, and then the folder with it. -/
inductive Creates (home : String) (domain : UInt32) (name container comment : String) :
    List Event → Except Error UInt64 → Prop
  | noNumber (why : Error) : Creates home domain name container comment
      [⟨.send (.allocateChangeNumber home), .error why⟩] (.error why)
  | refused (number : UInt64) (now : Int64) (why : Error) :
    Creates home domain name container comment
      [⟨.send (.allocateChangeNumber home), .ok number⟩, ⟨.now, now⟩,
        ⟨.send (.createFolder home 0
          (newProperties domain name container comment number (Filetime.ofUnix now))),
          .error why⟩] (.error why)
  | created (number : UInt64) (now : Int64) (folder : UInt64) (line : LogLine) :
    Creates home domain name container comment
      [⟨.send (.allocateChangeNumber home), .ok number⟩, ⟨.now, now⟩,
        ⟨.send (.createFolder home 0
          (newProperties domain name container comment number (Filetime.ofUnix now))),
          .ok folder⟩, ⟨.log line, ()⟩] (.ok folder)

lemma runs_create {home : String} {domain : UInt32} {name container comment : String}
    {T : List Event} {out : Except Error UInt64}
    (h : Runs (create home domain name container comment) T out) :
    Creates home domain name container comment T out := by
  unfold create at h
  simp only [properties_eq] at h
  obtain ⟨why, rfl, rfl⟩ | ⟨number, _, rfl, hnow⟩ := Procedure.runs_send_bind_iff.mp h
  · exact .noNumber why
  obtain ⟨now, _, rfl, hcreate⟩ := Procedure.runs_now_bind_iff.mp hnow
  obtain ⟨why, rfl, rfl⟩ | ⟨folder, _, rfl, hlog⟩ := Procedure.runs_send_bind_iff.mp hcreate
  · exact .refused number now why
  obtain ⟨_, rfl, hpure⟩ := Procedure.runs_log_bind_iff.mp hlog
  obtain ⟨rfl, rfl⟩ := Procedure.runs_pure_iff.mp hpure
  exact .created number now folder _

/-- The requests that create a folder. -/
def plan (home : String) (ps : List Propval) : List Request :=
  [.allocateChangeNumber home, .createFolder home 0 ps]

namespace Creates

variable {home : String} {domain : UInt32} {name container comment : String} {T : List Event}
  {out : Except Error UInt64}

lemma requests (h : Creates home domain name container comment T out) :
    ∃ ps, T.filterMap Event.request? <+: plan home ps := by
  cases h with
  | noNumber why => exact ⟨[], _, rfl⟩
  | refused number now why | created number now folder line => exact ⟨_, _, rfl⟩

/-- Once a number was told the folder is asked for, and with this number. -/
lemma asks {home' : String} {number : UInt64}
    (h : Creates home domain name container comment T out)
    (hnumber : (⟨.send (.allocateChangeNumber home'), .ok number⟩ : Event) ∈ T) :
    ∃ now, T.filterMap Event.request? =
      plan home (newProperties domain name container comment number now) := by
  cases h <;> simp only [List.mem_cons, List.not_mem_nil, or_false] at hnumber
  case noNumber why => cases hnumber
  case refused told now why =>
    obtain heq | heq | heq := hnumber <;> cases heq
    exact ⟨_, rfl⟩
  case created told now folder line =>
    obtain heq | heq | heq | heq := hnumber <;> cases heq
    exact ⟨_, rfl⟩

end Creates

end StoreRpc.Folder
