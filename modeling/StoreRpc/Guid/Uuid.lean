import StoreRpc.Text.Hex
import StoreRpc.Wire.Word

/-!
The sixteen bytes that a text of 32 digits stands for.

The text is in lowercase and with hyphens. It is read in that form, without hyphens, in braces or
after `urn:uuid:`, in any letter case; `fault` says what is wrong with any other text.
-/

namespace StoreRpc

@[ext]
structure Uuid where
  bytes : Vector UInt8 16
  deriving DecidableEq, Repr

namespace Uuid

/-! ### Fields -/

/-- The bytes of three numbers, the most significant one first, and of what is behind them. -/
def ofFields (low : UInt32) (mid high : UInt16) (tail : Vector UInt8 8) : Uuid where
  bytes := ⟨((Word.le 4 low.toNat).reverse ++ ((Word.le 2 mid.toNat).reverse ++
    ((Word.le 2 high.toNat).reverse ++ tail.toList))).toArray, by simp⟩

/-- The number of these bytes, the most significant one first. -/
def number (bs : List UInt8) : Nat := Word.ofLe bs.reverse

/-- The three numbers and what is behind them. -/
def fields (u : Uuid) : UInt32 × UInt16 × UInt16 × Vector UInt8 8 :=
  let bs := u.bytes.toList
  (.ofNat (number (bs.take 4)), .ofNat (number ((bs.drop 4).take 2)),
    .ofNat (number ((bs.drop 6).take 2)), u.bytes.drop 8)

/-! ### Writing -/

/-- The bytes in groups. -/
def text (u : Uuid) : String :=
  let bs := u.bytes.toList
  "-".intercalate [Hex.ofBytes (bs.take 4), Hex.ofBytes ((bs.drop 4).take 2),
    Hex.ofBytes ((bs.drop 6).take 2), Hex.ofBytes ((bs.drop 8).take 2), Hex.ofBytes (bs.drop 10)]

/-! ### Reading -/

/-- The bytes with these digits, of which every two are one. -/
def ofDigits (ds : List Char) : Uuid where
  bytes := .ofFn fun i => UInt8.ofNat ((Hex.value? ((ds.drop (2 * i)).take 2)).getD 0)

def isHex (c : Char) : Bool := (Hex.digit? c).isSome

/-- The digits of the form without hyphens. -/
def plainDigits? (cs : List Char) : Option (List Char) :=
  if cs.length = 32 ∧ cs.all isHex then some cs else none

/-- The digits of the form with hyphens, in groups of 8, 4, 4, 4 and 12. -/
def hyphenatedDigits? (cs : List Char) : Option (List Char) :=
  let ds := cs.take 8 ++ (cs.drop 9).take 4 ++ (cs.drop 14).take 4 ++ (cs.drop 19).take 4
    ++ cs.drop 24
  if cs.length = 36 ∧ [8, 13, 18, 23].all (cs[·]? = some '-') ∧ ds.all isHex then some ds
  else none

/-- What follows `urn:uuid:` in any letter case. -/
def afterUrn? (cs : List Char) : Option (List Char) :=
  if (cs.take 9).map Char.toLower = "urn:uuid:".toList then some (cs.drop 9) else none

/-- What stands between braces. -/
def insideBraces? (cs : List Char) : Option (List Char) :=
  if 2 ≤ cs.length ∧ cs.head? = some '\x7b' ∧ cs.getLast? = some '\x7d' then
    some (cs.drop 1).dropLast
  else none

/-- The 32 digits of a text in one of the four forms. -/
def digits? (cs : List Char) : Option (List Char) :=
  plainDigits? cs
    <|> hyphenatedDigits? cs
    <|> ((insideBraces? cs).bind hyphenatedDigits?)
    <|> ((afterUrn? cs).bind hyphenatedDigits?)

/-! ### What is wrong with a text -/

inductive Fault
  | length (found : Nat)
  | character (c : Char) (index : Nat)
  | groupCount (found : Nat)
  | groupLength (group expected found : Nat)
  deriving DecidableEq, Repr

def Fault.message : Fault → String
  | .length found => s!"invalid length: found {found}"
  | .character c i => "invalid character: found `" ++ c.toString ++ s!"` at {i}"
  | .groupCount found => s!"invalid group count: expected 5, found {found}"
  | .groupLength group expected found =>
    s!"invalid group length in group {group}: expected {expected}, found {found}"

def byteLength (cs : List Char) : Nat := cs.foldr (fun c n => c.utf8Size + n) 0

/-- The byte offsets of the hyphens among digits and hyphens, or the first other character. -/
def hyphens (offset : Nat) : List Char → Except (Char × Nat) (List Nat)
  | [] => .ok []
  | c :: rest =>
    if c = '-' then (hyphens (offset + 1) rest).map (offset :: ·)
    else if isHex c then hyphens (offset + 1) rest
    else .error (c, offset)

/-- Where each of the first four groups begins and how long it is. -/
def groups : List (Nat × Nat) := [(0, 8), (9, 4), (14, 4), (19, 4)]

/-- The first group, from `i` on, whose hyphen is not where it belongs. -/
def groupFault? (i : Nat) : List (Nat × Nat) → List Nat → Option Fault
  | (start, size) :: rest, h :: hs =>
    if h = start + size then groupFault? (i + 1) rest hs
    else some (.groupLength i size (h - start))
  | _, _ => none

/-- What is wrong with the part `cs` of a text of `size` bytes that begins `skipped` bytes into
it. Unless a form with hyphens is already `expected`, a text without any has a wrong length. -/
def faultIn (size skipped : Nat) (expected : Bool) (cs : List Char) : Fault :=
  match hyphens 0 cs with
  | .error (c, i) => .character c (skipped + i)
  | .ok hs =>
    if hs.isEmpty && !expected then .length size
    else if hs.length ≠ 4 then .groupCount (hs.length + 1)
    else (groupFault? 0 groups hs).getD (.groupLength 4 12 (size - 24))

/-- What is wrong with a text that is in none of the forms. Braces and `urn:uuid:` around 36
bytes are taken off first. -/
def fault (cs : List Char) : Fault :=
  let size := byteLength cs
  let framed? :=
    if size = 36 then some cs
    else if size = 38 then insideBraces? cs
    else if size = 45 then afterUrn? cs
    else none
  match framed? with
  | some inner => faultIn 36 0 true inner
  | none =>
    if size = 0 ∨ 45 < size then .length size
    else match insideBraces? cs with
      | some inner => faultIn size 1 true inner
      | none =>
        match afterUrn? cs with
        | some inner => faultIn size 9 true inner
        | none => faultIn size 0 false cs

/-- The bytes that a text stands for. -/
def parse (s : String) : Except Fault Uuid :=
  match digits? s.toList with
  | some ds => .ok (ofDigits ds)
  | none => .error (fault s.toList)

end Uuid

end StoreRpc
