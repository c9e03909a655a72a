import StoreRpc.Property.Propval

/-!
Filters that the server evaluates when it loads a table.

A restriction is written in pre-order, each node as a byte for its kind and its fields. `null` is
no filter and writes nothing, so that a request has to say whether one follows.
-/

namespace StoreRpc

/-- How two values are compared. -/
inductive Comparison
  | lt | le | gt | ge | eq | ne | regex | member
  deriving DecidableEq, Repr

namespace Comparison

def code : Comparison → UInt8
  | lt => 0x00
  | le => 0x01
  | gt => 0x02
  | ge => 0x03
  | eq => 0x04
  | ne => 0x05
  | regex => 0x06
  | member => 0x64

def encode (c : Comparison) : Encoding := .u8 c.code

end Comparison

/-! ### How closely a text has to match -/

namespace Fuzzy

def fullString : UInt32 := 0
def substring : UInt32 := 1
def startsWith : UInt32 := 2
def ignoreCase : UInt32 := 0x10000
def ignoreNonSpace : UInt32 := 0x20000
def loose : UInt32 := 0x40000

end Fuzzy

inductive Restriction
  /-- No filter. -/
  | null
  | and (parts : List Restriction)
  | or (parts : List Restriction)
  | not (part : Restriction)
  /-- A text matches to the fuzzy level. -/
  | content (fuzzy : UInt32) (tag : UInt32) (propval : Propval)
  | property (op : Comparison) (tag : UInt32) (propval : Propval)
  | compareTags (op : Comparison) (tag1 tag2 : UInt32)
  /-- All bits of the mask are set, or any of them. -/
  | bitmask (all : Bool) (tag mask : UInt32)
  | size (op : Comparison) (tag bytes : UInt32)
  /-- The property is there at all. -/
  | has (tag : UInt32)
  | subobject (object : UInt32) (part : Restriction)
  /-- An optional filter with 1 to 255 properties that the server ignores. -/
  | comment (propvals : List Propval) (part : Option Restriction)
  | count (limit : UInt32) (part : Restriction)

namespace Restriction

instance : Inhabited Restriction := ⟨null⟩

def isNull : Restriction → Bool
  | null => true
  | _ => false

/-! ### Making restrictions -/

/-- The tag, or if it is 0 that of the value. -/
def tagOr (tag : UInt32) (p : Propval) : UInt32 := if tag = 0 then p.tag else tag

/-- A match against a text. The tag 0 stands for that of the value. -/
def matching (fuzzy : UInt32) (tag : UInt32) (p : Propval) : Restriction :=
  content fuzzy (tagOr tag p) p

/-- A comparison with a value. The tag 0 stands for that of the value. -/
def comparing (op : Comparison) (tag : UInt32) (p : Propval) : Restriction :=
  property op (tagOr tag p) p

/-- An annotated restriction. No filter is the same as none given. -/
def annotated (propvals : List Propval) (part : Option Restriction) :
    Except ValueError Restriction :=
  if propvals.isEmpty ∨ 255 < propvals.length then .error (.commentCount propvals.length)
  else .ok (comment propvals (part.filter (!·.isNull)))

/-! ### On the wire -/

/-- The count of a comment's properties, from 1 to 255. -/
def commentHeader (n : Nat) : Encoding :=
  if 1 ≤ n ∧ n ≤ 255 then .u8 0x0a ++ .u8 (UInt8.ofNat n) else .fail (.commentCount n)

mutual

def encode : Restriction → Encoding
  | null => .empty
  | and parts => .u8 0x00 ++ .count .listItems 4 parts.length ++ encodeAll parts
  | or parts => .u8 0x01 ++ .count .listItems 4 parts.length ++ encodeAll parts
  | not part => .u8 0x02 ++ encode part
  | content fuzzy tag p => .u8 0x03 ++ .u32 fuzzy ++ .u32 tag ++ p.encode
  | property op tag p => .u8 0x04 ++ op.encode ++ .u32 tag ++ p.encode
  | compareTags op tag1 tag2 => .u8 0x05 ++ op.encode ++ .u32 tag1 ++ .u32 tag2
  | bitmask all tag mask => .u8 0x06 ++ .flag (!all) ++ .u32 tag ++ .u32 mask
  | size op tag n => .u8 0x07 ++ op.encode ++ .u32 tag ++ .u32 n
  | has tag => .u8 0x08 ++ .u32 tag
  | subobject object part => .u8 0x09 ++ .u32 object ++ encode part
  | comment propvals part =>
    commentHeader propvals.length ++ .all (propvals.map Propval.encode) ++ encodePart part
  | count limit part => .u8 0x0b ++ .u32 limit ++ encode part

def encodeAll : List Restriction → Encoding
  | [] => .empty
  | r :: rest => encode r ++ encodeAll rest

/-- A byte that tells whether a filter follows, and the filter. -/
def encodePart : Option Restriction → Encoding
  | none => .flag false
  | some r => if r.isNull then .flag false else .flag true ++ encode r

end

/-- A byte that tells whether there is a filter, and the filter. -/
def encodeOptional (r : Restriction) : Encoding := .flag (!r.isNull) ++ r.encode

/-! ### Equality -/

mutual

/-- Equality with properties compared as values. -/
def same : Restriction → Restriction → Bool
  | null, null => true
  | and a, and b => sameAll a b
  | or a, or b => sameAll a b
  | not a, not b => same a b
  | content f a p, content g b q => f == g && a == b && p.same q
  | property o a p, property o' b q => o == o' && a == b && p.same q
  | compareTags o a b, compareTags o' a' b' => o == o' && a == a' && b == b'
  | bitmask l a m, bitmask l' a' m' => l == l' && a == a' && m == m'
  | size o a n, size o' a' m => o == o' && a == a' && n == m
  | has a, has b => a == b
  | subobject o a, subobject o' b => o == o' && same a b
  | comment ps a, comment qs b => Payload.sameAll Propval.same ps qs && samePart a b
  | count n a, count m b => n == m && same a b
  | _, _ => false

def sameAll : List Restriction → List Restriction → Bool
  | [], [] => true
  | a :: as, b :: bs => same a b && sameAll as bs
  | _, _ => false

def samePart : Option Restriction → Option Restriction → Bool
  | none, none => true
  | some a, some b => same a b
  | _, _ => false

end

end Restriction

end StoreRpc
