import FlashIdent.Text.CharSet.Escaped
import FlashIdent.Text.Hex

/-!
# Quoted text on one line

A text between double quotes in which nothing breaks the line: quotes, backslashes, line ends, tabs and the
zero character have two-character escapes, and a character without a picture of its own is shown by its number
in hexadecimal.
-/

namespace FlashIdent.Text.Quoted

def escape (c : Char) : List Char :=
  if c = '"' then ['\\', '"']
  else if c = '\\' then ['\\', '\\']
  else if c = '\n' then ['\\', 'n']
  else if c = '\r' then ['\\', 'r']
  else if c = '\t' then ['\\', 't']
  else if c = Char.ofNat 0 then ['\\', '0']
  else if CharSet.escaped.contains c then
    ['\\', 'u', '\x7b'] ++ Hex.padded .small 1 c.toNat ++ ['\x7d']
  else [c]

def encode (s : String) : String :=
  String.ofList ('"' :: s.toList.flatMap escape ++ ['"'])

end FlashIdent.Text.Quoted
