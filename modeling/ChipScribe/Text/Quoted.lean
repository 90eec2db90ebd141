import ChipScribe.Text.Hex
import ChipScribe.Text.Printable

/-!
Quoted text for messages.  Characters that cannot be seen, or that would join
the one before them, are written as escapes.
-/

namespace ChipScribe.Text

def unicodeEscape (c : Char) : List Char :=
  ['\\', 'u', '\x7b'] ++ (lowerHex c.toNat).toList ++ ['\x7d']

def escape (c : Char) : List Char :=
  if c == '\x00' then ['\\', '0']
  else if c == '\t' then ['\\', 't']
  else if c == '\r' then ['\\', 'r']
  else if c == '\n' then ['\\', 'n']
  else if c == '"' then ['\\', '"']
  else if c == '\\' then ['\\', '\\']
  else if ' ' ≤ c && c ≤ '~' then [c]
  else if extendsPrevious c || !isPrintable c then unicodeEscape c
  else [c]

def quoted (s : String) : String :=
  String.ofList ('"' :: s.toList.flatMap escape ++ ['"'])

end ChipScribe.Text
