import StoreRpc.Text.Hex

/-!
The types of property values.

Each type has a code on the wire and holds values of one kind; several types may share a kind,
and `unspecified` has no values.
-/

namespace StoreRpc

/-- How the values of a property are represented. -/
inductive Kind
  | byte | short | long | longLong | float | double | string | binary
  | shorts | longs | longLongs | floats | doubles | strings | binaries
  deriving DecidableEq, Repr

/-- What a kind is called in error texts. -/
def Kind.name : Kind → String
  | .byte => "u8"
  | .short => "u16"
  | .long => "u32"
  | .longLong => "u64"
  | .float => "f32"
  | .double => "f64"
  | .string => "string"
  | .binary => "binary"
  | .shorts => "u16 array"
  | .longs => "u32 array"
  | .longLongs => "u64 array"
  | .floats => "f32 array"
  | .doubles => "f64 array"
  | .strings => "string array"
  | .binaries => "binary array"

inductive PropType
  | unspecified
  | short | long | float | double | currency | floatingTime
  | error | byte | longLong | string | wideString | fileTime | binary
  | shorts | longs | floats | doubles | currencies | floatingTimes
  | longLongs | strings | wideStrings | binaries
  deriving DecidableEq, Repr

namespace PropType

/-- Every type, by ascending code. -/
def every : List PropType :=
  [unspecified, short, long, float, double, currency, floatingTime, error, byte, longLong,
    string, wideString, fileTime, binary, shorts, longs, floats, doubles, currencies,
    floatingTimes, longLongs, strings, wideStrings, binaries]

def code : PropType → UInt16
  | unspecified => 0x0000
  | short => 0x0002
  | long => 0x0003
  | float => 0x0004
  | double => 0x0005
  | currency => 0x0006
  | floatingTime => 0x0007
  | error => 0x000A
  | byte => 0x000B
  | longLong => 0x0014
  | string => 0x001E
  | wideString => 0x001F
  | fileTime => 0x0040
  | binary => 0x0102
  | shorts => 0x1002
  | longs => 0x1003
  | floats => 0x1004
  | doubles => 0x1005
  | currencies => 0x1006
  | floatingTimes => 0x1007
  | longLongs => 0x1014
  | strings => 0x101E
  | wideStrings => 0x101F
  | binaries => 0x1102

/-- The type with this code. -/
def ofCode? (c : UInt16) : Option PropType := every.find? (·.code == c)

def name : PropType → String
  | unspecified => "UNKNOWN"
  | short => "SHORT"
  | long => "LONG"
  | float => "FLOAT"
  | double => "DOUBLE"
  | currency => "CURRENCY"
  | floatingTime => "FLOATINGTIME"
  | error => "ERROR"
  | byte => "BYTE"
  | longLong => "LONGLONG"
  | string => "STRING"
  | wideString => "WSTRING"
  | fileTime => "FILETIME"
  | binary => "BINARY"
  | shorts => "SHORT ARRAY"
  | longs => "LONG ARRAY"
  | floats => "FLOAT ARRAY"
  | doubles => "DOUBLE ARRAY"
  | currencies => "CURRENCY ARRAY"
  | floatingTimes => "FLOATINGTIME ARRAY"
  | longLongs => "LONGLONG ARRAY"
  | strings => "STRING ARRAY"
  | wideStrings => "WSTRING ARRAY"
  | binaries => "BINARY ARRAY"

/-- The kind in which values of the type are read. -/
def kind? : PropType → Option Kind
  | unspecified => none
  | byte => some .byte
  | short => some .short
  | long | error => some .long
  | longLong | currency | fileTime => some .longLong
  | float => some .float
  | double | floatingTime => some .double
  | string | wideString => some .string
  | binary => some .binary
  | shorts => some .shorts
  | longs => some .longs
  | longLongs | currencies => some .longLongs
  | floats => some .floats
  | doubles | floatingTimes => some .doubles
  | strings | wideStrings => some .strings
  | binaries => some .binaries

/-- Whether a value of the kind may be given to the type. -/
def accepts (t : PropType) (k : Kind) : Bool :=
  match k, t with
  | .byte, byte => true
  | .short, short => true
  | .long, long | .long, error => true
  | .longLong, longLong | .longLong, currency | .longLong, fileTime => true
  | .float, float => true
  | .double, double | .double, floatingTime => true
  | .string, string | .string, wideString => true
  | .binary, binary => true
  | .shorts, shorts => true
  | .longs, longs => true
  | .longLongs, longLongs | .longLongs, currencies => true
  | .floats, floats => true
  | .doubles, doubles | .doubles, floatingTimes => true
  | .strings, strings | .strings, wideStrings => true
  | .binaries, binaries => true
  | _, _ => false

/-- What may be given to a type is what is read for it. -/
theorem accepts_iff {t : PropType} {k : Kind} : t.accepts k = true ↔ t.kind? = some k := by
  cases k <;> cases t <;> simp [accepts, kind?]

/-- The code bit of the types that hold several values. -/
def multiple : UInt16 := 0x1000

/-- Whether values are counted on the wire. -/
def isArray (t : PropType) : Bool := t == binary || t.code &&& multiple != 0

/-- The type code in the low half of a property tag. -/
def codeOfTag (tag : UInt32) : UInt16 := tag.toUInt16

@[simp] theorem ofCode?_code (t : PropType) : ofCode? t.code = some t := by
  cases t <;> rfl

theorem code_of_ofCode? {c : UInt16} {t : PropType} (h : ofCode? c = some t) : t.code = c := by
  simpa using List.find?_some h

/-- The name of the type with this code. -/
def nameOfCode (c : UInt16) : String := ((ofCode? c).map name).getD "UNKNOWN"

end PropType

end StoreRpc
