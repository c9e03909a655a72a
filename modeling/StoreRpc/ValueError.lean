import StoreRpc.Guid.Text
import StoreRpc.Property.Type

/-!
Why a value could not be made from its parts.
-/

namespace StoreRpc

inductive ValueError
  /-- The tag or the type does not admit values of this kind. -/
  | typeMismatch (type : PropType) (kind : Kind)
  | unknownType (code : UInt16)
  | guid (input : String) (fault : Uuid.Fault)
  /-- A comment restriction annotates with no property, or with more than 255. -/
  | commentCount (count : Nat)
  deriving DecidableEq, Repr

def ValueError.message : ValueError → String
  | .typeMismatch type kind => "cannot construct " ++ type.name ++ " tag from " ++ kind.name
  | .unknownType code => "unknown property type 0x" ++ Hex.padded 4 code.toNat
  | .guid input fault => "failed to parse guid '" ++ input ++ "': " ++ fault.message
  | .commentCount count => s!"comment restriction needs 1 to 255 propvals, got {count}"

/-- The GUID that a text stands for. -/
def Guid.ofText (s : String) : Except ValueError Guid :=
  (Guid.parse s).mapError (ValueError.guid s)

end StoreRpc
