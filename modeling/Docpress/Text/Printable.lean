import Docpress.Text.PrintableTable
import Docpress.Text.WhiteSpace

/-!
Quoted text for listings: what would not show, or would change what stands before it, is escaped.
-/

namespace Docpress.Text

/-- A character of quoted text as it is written. -/
def escapePrintableChar (c : Char) : List Char :=
  if c == '"' then ['\\', '"']
  else if c == '\\' then ['\\', '\\']
  else if c == '\x00' then ['\\', '0']
  else if c == '\t' then ['\\', 't']
  else if c == '\n' then ['\\', 'n']
  else if c == '\r' then ['\\', 'r']
  else if inRanges unprintableRanges c then
    ['\\', 'u', '\x7b'] ++ Nat.toDigits 16 c.toNat ++ ['\x7d']
  else [c]

/-- Text between quotes, with what cannot be printed escaped. -/
def quotePrintable (text : String) : String :=
  String.ofList ('"' :: text.toList.flatMap escapePrintableChar ++ ['"'])

end Docpress.Text
