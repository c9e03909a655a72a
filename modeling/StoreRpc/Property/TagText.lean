import StoreRpc.Text.Hex

/-!
The text of a property tag.

A tag is written with eight hexadecimal digits behind `0x`. It is read with any number of digits
behind any number of marks, those in lowercase first, and an optional sign.
-/

namespace StoreRpc.Tag

def text (tag : UInt32) : String := "0x" ++ Hex.padded 8 tag.toNat

/-- What is wrong with the digits of a tag. -/
inductive Fault
  | empty
  | digit
  | tooLarge
  deriving DecidableEq, Repr

def Fault.message : Fault → String
  | empty => "cannot parse integer from empty string"
  | digit => "invalid digit found in string"
  | tooLarge => "number too large to fit in target type"

/-- What is left after every leading `0` with this letter. -/
def dropMarks (letter : Char) : List Char → List Char
  | a :: b :: rest => if a = '0' ∧ b = letter then dropMarks letter rest else a :: b :: rest
  | cs => cs

/-- The number that begins with `n` and goes on with these digits. -/
def extend (n : Nat) : List Char → Except Fault Nat
  | [] => .ok n
  | c :: rest =>
    match Hex.digit? c with
    | none => .error .digit
    | some d => if 16 * n + d < UInt32.size then extend (16 * n + d) rest else .error .tooLarge

/-- A number of 32 bits behind an optional sign. -/
def number : List Char → Except Fault Nat
  | [] => .error .empty
  | c :: rest =>
    if c = '+' then (if rest = [] then .error .digit else extend 0 rest)
    else extend 0 (c :: rest)

/-- The tag that a text stands for. -/
def parse (s : String) : Except Fault UInt32 :=
  (number (dropMarks 'X' (dropMarks 'x' s.toList))).map UInt32.ofNat

/-- What is said of a text that stands for no tag. -/
def complaint (s : String) (fault : Fault) : String :=
  "invalid tag '" ++ s ++ "': " ++ fault.message

end StoreRpc.Tag
