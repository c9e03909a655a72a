import StoreRpc.Property.Propval

/-!
The content of messages: properties, recipients and attachments, which may hold messages again.

Recipients and attachments are optional on the wire, and an absent set reads as an empty one.
-/

namespace StoreRpc

mutual

inductive Message
  | mk (propvals : List Propval) (recipients : List (List Propval))
    (attachments : List Attachment)

inductive Attachment
  | mk (propvals : List Propval) (embedded : Option Message)

end

namespace Message

def propvals : Message → List Propval
  | mk ps _ _ => ps

/-- One list of properties for each recipient. -/
def recipients : Message → List (List Propval)
  | mk _ rs _ => rs

def attachments : Message → List Attachment
  | mk _ _ as => as

/-- The first value with this tag. -/
def get? (m : Message) (tag : UInt32) : Option Propval := m.propvals.find? (·.tag == tag)

/-- A set that may be absent: a flag, and if it is set a four-byte count and the items. -/
def readOptional {α : Type} (item : Reader α) : Reader (List α) := do
  if ← Reader.flag then Reader.list32 item else return []

/-- An attachment, by the reader of the messages in it. -/
def readAttachment (message : Reader Message) : Reader Attachment := do
  let ps ← Reader.list16 Propval.reader
  if ← Reader.flag then (fun m => .mk ps (some m)) <$> message else return .mk ps none

/-- A message in which others are nested less than `depth` deep. -/
def readWithin : Nat → Reader Message
  | 0 => do
    let n ← Reader.remaining
    .fail (.underflow (n + 1) n)
  | depth + 1 => do
    let ps ← Reader.list16 Propval.reader
    let recipients ← readOptional (Reader.list16 Propval.reader)
    let attachments ← readOptional (readAttachment (readWithin depth))
    return ⟨ps, recipients, attachments⟩

/-- Every nested message takes bytes of its own, so that the bytes there are bound the depth. -/
def reader : Reader Message := do
  let n ← Reader.remaining
  readWithin (n + 1)

theorem reader_apply (bs : List UInt8) : reader bs = readWithin (bs.length + 1) bs := rfl

end Message

namespace Attachment

def propvals : Attachment → List Propval
  | mk ps _ => ps

def embedded : Attachment → Option Message
  | mk _ m => m

/-- An attachment that stands alone. -/
def reader : Reader Attachment := Message.readAttachment Message.reader

end Attachment

end StoreRpc
