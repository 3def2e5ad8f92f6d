import MarkupSplice.Text.Blank
import MarkupSplice.Text.PrintTable

/-!
# Texts in quotes

A text is shown between double quotes, with a backslash in front of quotes and
backslashes, and with the code point in place of what could not be seen.
-/
namespace MarkupSplice.Text

def quoteChar (c : Char) : List Char :=
  if c = '\t' then ['\\', 't']
  else if c = '\r' then ['\\', 'r']
  else if c = '\n' then ['\\', 'n']
  else if c = '"' then ['\\', '"']
  else if c = '\\' then ['\\', '\\']
  else if c = '\x00' then ['\\', '0']
  else if inRanges extending c.toNat || inRanges unprintable c.toNat then
    ['\\', 'u', '\x7b'] ++ Nat.toDigits 16 c.toNat ++ ['\x7d']
  else [c]

def quote (s : String) : String := String.ofList ('"' :: s.toList.flatMap quoteChar ++ ['"'])

end MarkupSplice.Text
