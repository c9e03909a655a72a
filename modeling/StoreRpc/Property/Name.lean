import StoreRpc.Guid.Basic

/-!
Named properties, which the server resolves to property ids.

The text of a name travels behind a byte with its length, the closing NUL included, so that it
has at most 254 bytes.
-/

namespace StoreRpc

inductive PropertyName
  | byId (guid : Guid) (id : UInt32)
  | byText (guid : Guid) (text : String)
  deriving DecidableEq, Repr

namespace PropertyName

def guid : PropertyName → Guid
  | byId g _ => g
  | byText g _ => g

def maxLength : Nat := 254

def encode : PropertyName → Encoding
  | byId g id => .u8 0 ++ g.encode ++ .u32 id
  | byText g s =>
    let n := s.utf8ByteSize
    if maxLength < n then .fail (.tooMany .nameBytes n maxLength)
    else .u8 1 ++ g.encode ++ .u8 (UInt8.ofNat n + 1) ++ .text s

/-- A text whose length byte agrees with it. -/
def readText : Reader String := do
  let declared ← Reader.u8
  let s ← Reader.text
  if s.utf8ByteSize + 1 = declared.toNat then pure s
  else .fail (.nameLength declared (s.utf8ByteSize + 1))

def reader : Reader PropertyName := do
  let kind ← Reader.u8
  let g ← Guid.reader
  match kind with
  | 0 => byId g <$> Reader.u32
  | 1 => byText g <$> readText
  | _ => .fail (.nameKind kind)

end PropertyName

end StoreRpc
