import StagedSynthesis.Text.Printable
import StagedSynthesis.Text.Joined

/-!
# Quoted text

Text between double quotes for log messages and error reports, with everything that could be
mistaken written as an escape.
-/

namespace StagedSynthesis.Text

/-- A number in lower-case hexadecimal digits. -/
def hexadecimal (number : Nat) : String :=
  String.ofList (Nat.toDigits 16 number)

/-- One character of quoted text. The quote, the backslash and the common control characters have
escapes of two characters, and every other unprintable character is written by its code point. -/
def quotedChar (c : Char) : String :=
  if c = '"' then "\\\""
  else if c = '\\' then "\\\\"
  else if c = '\t' then "\\t"
  else if c = '\n' then "\\n"
  else if c = '\r' then "\\r"
  else if c.toNat = 0 then "\\0"
  else if isPrintable c then c.toString
  else "\\u\x7b" ++ hexadecimal c.toNat ++ "\x7d"

/-- A text between double quotes. -/
def quoted (text : String) : String :=
  "\"" ++ joined "" (text.toList.map quotedChar) ++ "\""

end StagedSynthesis.Text
