import Mustache.Text.Visible

namespace Mustache.Text

def numbered (c : Char) : List Char :=
  ['\\', 'u', '\x7b'] ++ Nat.toDigits 16 c.toNat ++ ['\x7d']

def quoteChar (c : Char) : List Char :=
  if c = '"' then ['\\', '"']
  else if c = '\\' then ['\\', '\\']
  else if c = '\n' then ['\\', 'n']
  else if c = '\r' then ['\\', 'r']
  else if c = '\t' then ['\\', 't']
  else if c.toNat = 0 then ['\\', '0']
  else if isVisible c then [c]
  else numbered c

def quoteChars (chars : List Char) : List Char := chars.flatMap quoteChar

def quoted (text : String) : String := "\"" ++ String.ofList (quoteChars text.toList) ++ "\""

end Mustache.Text
