import StoreRpc.Text.Visible
import StoreRpc.Text.Hex

/-!
Text in double quotes, with escapes for what would not show.
-/

namespace StoreRpc.Text

/-- A character as it stands between double quotes. -/
def escaped (c : Char) : String :=
  if c = '\x00' then "\\0"
  else if c = '\t' then "\\t"
  else if c = '\r' then "\\r"
  else if c = '\n' then "\\n"
  else if c = '"' then "\\\""
  else if c = '\\' then "\\\\"
  else if isVisible c then c.toString
  else "\\u\x7b" ++ String.ofList (Hex.digits c.toNat) ++ "\x7d"

def quoted (s : String) : String := "\"" ++ String.join (s.toList.map escaped) ++ "\""

end StoreRpc.Text
