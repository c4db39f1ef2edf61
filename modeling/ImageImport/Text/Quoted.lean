import ImageImport.Text.Digits
import ImageImport.Text.Visible

/-!
Contract: a text between double quotes, readable in a diagnostic line.

Owns: the escapes. Quote, backslash, tab, line feed, carriage return and NUL have short ones; any
other character that cannot stand as itself is written by its code point.
-/

namespace ImageImport.Text

def quotedChar (c : Char) : List Char :=
  if c = '"' then ['\\', '"']
  else if c = '\\' then ['\\', '\\']
  else if c = '\t' then ['\\', 't']
  else if c = '\n' then ['\\', 'n']
  else if c = '\r' then ['\\', 'r']
  else if c.toNat = 0 then ['\\', '0']
  else if isVisible c then [c]
  else ['\\', 'u', '\x7b'] ++ numeral 16 c.toNat ++ ['\x7d']

def quoted (text : String) : String :=
  String.ofList (['"'] ++ text.toList.flatMap quotedChar ++ ['"'])

end ImageImport.Text
