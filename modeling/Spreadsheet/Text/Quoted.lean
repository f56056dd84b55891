import Spreadsheet.Text.Printable

/-!
# Quoted text

Text inside messages stands in quotes, on one line and in printable characters
only. Apostrophes are the quotes, unless the text holds an apostrophe and no
double quote.
-/

set_option autoImplicit false

namespace Spreadsheet.Text

/-- The last `width` hexadecimal digits of a number, in lower case. -/
def hexDigits : Nat → Nat → List Char
  | 0, _ => []
  | width + 1, n => hexDigits width (n / 16) ++ [Nat.digitChar (n % 16)]

def quoteFor (cs : List Char) : Char :=
  if cs.contains '\'' && !cs.contains '"' then '"' else '\''

def quoteChar (quote c : Char) : List Char :=
  if c = quote || c = '\\' then ['\\', c]
  else if c = '\n' then ['\\', 'n']
  else if c = '\r' then ['\\', 'r']
  else if c = '\t' then ['\\', 't']
  else if isPrintable c then [c]
  else if c.toNat < 0x100 then '\\' :: 'x' :: hexDigits 2 c.toNat
  else if c.toNat < 0x10000 then '\\' :: 'u' :: hexDigits 4 c.toNat
  else '\\' :: 'U' :: hexDigits 8 c.toNat

def quoted (cs : List Char) : List Char :=
  quoteFor cs :: cs.flatMap (quoteChar (quoteFor cs)) ++ [quoteFor cs]

/-- A text in quotes, on one line and in printable characters only. -/
def quote (s : String) : String :=
  String.ofList (quoted s.toList)

/-- How an octet is written inside quotes: as the ASCII character that it is, or in
hexadecimal digits. -/
def quoteOctet (quote : Char) (octet : UInt8) : List Char :=
  if octet.toNat < 0x80 then quoteChar quote (Char.ofNat octet.toNat)
  else '\\' :: 'x' :: hexDigits 2 octet.toNat

/-- Octets in quotes, with a mark in front that tells them from text. -/
def quotedOctets (octets : List UInt8) : List Char :=
  let quote := quoteFor (octets.map fun octet => Char.ofNat octet.toNat)
  'b' :: quote :: octets.flatMap (quoteOctet quote) ++ [quote]

end Spreadsheet.Text
