import StoreRpc.Proofs.Wire.Delimited
import StoreRpc.Proofs.Property.Name
import StoreRpc.Property.Problem
import StoreRpc.Property.Propval

/-!
Property values and names are delimited by their bytes.
-/

namespace StoreRpc

open Reader (Delimited)

lemma Reader.Delimited.vector (n : Nat) : Delimited (Reader.vector n) :=
  Delimited.of_map (g := Vector.toList) (fun _ _ h => Vector.toList_inj.mp h) (take n)

lemma Guid.reader_delimited : Delimited Guid.reader :=
  .record <| .bind .u32 fun _ => .bind .u16 fun _ => .bind .u16 fun _ => .bind (.vector 2) fun _ =>
    .bind (.vector 6) fun _ => .pure _

lemma Problem.reader_delimited : Delimited Problem.reader :=
  .record <| .bind .u16 fun _ => .bind .u32 fun _ => .bind .u32 fun _ => .pure _

namespace PropertyName

lemma readText_delimited : Delimited readText := by
  refine .bind .u8 fun declared => .bind .text fun s => ?_
  split
  · exact .pure s
  · exact .fail _

lemma reader_delimited : Delimited reader := by
  refine .bind .u8 fun kind => .bind Guid.reader_delimited fun g => ?_
  split
  · exact Delimited.u32.map _
  · exact readText_delimited.map _
  · exact .fail _

end PropertyName

namespace Propval

lemma readSingle_delimited : Delimited readSingle := Delimited.u32.map _

lemma readDouble_delimited : Delimited readDouble := Delimited.u64.map _

lemma readBinary_delimited : Delimited readBinary := .bind .u32 fun _ => .take _

lemma readPayload_delimited (k : Kind) : Delimited (readPayload k) := by
  cases k with
  | byte => exact Delimited.u8.map _
  | short => exact Delimited.u16.map _
  | long => exact Delimited.u32.map _
  | longLong => exact Delimited.u64.map _
  | float => exact readSingle_delimited.map _
  | double => exact readDouble_delimited.map _
  | string => exact Delimited.text.map _
  | binary => exact readBinary_delimited.map _
  | shorts => exact Delimited.u16.list32.map _
  | longs => exact Delimited.u32.list32.map _
  | longLongs => exact Delimited.u64.list32.map _
  | floats => exact readSingle_delimited.list32.map _
  | doubles => exact readDouble_delimited.list32.map _
  | strings => exact Delimited.text.list32.map _
  | binaries => exact readBinary_delimited.list32.map _

lemma readCode_delimited (tag : UInt32) : Delimited (readCode tag) := by
  unfold readCode
  split
  · exact .u16
  · exact .pure _

lemma readType_delimited (code : UInt16) : Delimited (readType code) := by
  unfold readType
  split
  · exact .fail _
  · split
    · exact .fail _
    · exact .pure _

lemma reader_delimited : Delimited reader :=
  .bind .u32 fun tag => .bind (readCode_delimited tag) fun code =>
    .bind (readType_delimited code) fun (_, kind) => .bind (readPayload_delimited kind) fun _ =>
      .pure _

end Propval

end StoreRpc
