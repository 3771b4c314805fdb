import ChatRelay.Text.Invisible

/-!
# Quoted text

A text inside an error message stands between double quotes, with every character that would be
lost or misread written as an escape: `\0`, `\t`, `\r`, `\n`, `\"`, `\\`, and `\u` with the number in
braces for a character that does not show by itself.

- `escapeChar`: one character inside the quotes.
- `quoted`: a text between quotes.
-/

namespace ChatRelay.Text

/-- The lower-case hexadecimal digits of a number. -/
def hexDigits (n : Nat) : String := String.ofList (Nat.toDigits 16 n)

/-- One character inside quotes. -/
def escapeChar (c : Char) : String :=
  if c = '\x00' then "\\0"
  else if c = '\t' then "\\t"
  else if c = '\r' then "\\r"
  else if c = '\n' then "\\n"
  else if c = '"' then "\\\""
  else if c = '\\' then "\\\\"
  else if isInvisible c then "\\u\x7b" ++ hexDigits c.toNat ++ "\x7d"
  else c.toString

/-- `text` between double quotes. -/
def quoted (text : String) : String :=
  "\"" ++ text.toList.foldl (fun out c => out ++ escapeChar c) "" ++ "\""

end ChatRelay.Text
