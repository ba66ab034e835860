import VcpuPinning.Text.Hidden

/-!
# Quoted text

`quoted` writes a text between double quotes for a message: quotes, backslashes and the common
controls have an escape of one letter, and a character that is not shown as itself is written by
its number. A single quote stands for itself.
-/

namespace VcpuPinning.Text

/-- One character of a quoted text. -/
def quotedChar (c : Char) : List Char :=
  if c = '"' then ['\\', '"']
  else if c = '\\' then ['\\', '\\']
  else if c = '\n' then ['\\', 'n']
  else if c = '\r' then ['\\', 'r']
  else if c = '\t' then ['\\', 't']
  else if c = '\x00' then ['\\', '0']
  else if isHidden c then ['\\', 'u', '\x7b'] ++ Nat.toDigits 16 c.toNat ++ ['\x7d']
  else [c]

/-- A text in double quotes. -/
def quoted (s : String) : String :=
  String.ofList ('"' :: (s.toList.flatMap quotedChar ++ ['"']))

end VcpuPinning.Text
