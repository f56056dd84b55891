/-!
# Base64

Octets as text: four digits to the base 64 write three octets. Equals signs fill up the last
four. Characters that are no digits mean nothing.
-/

set_option autoImplicit false

namespace Spreadsheet.Text.Base64

def digitValue? (c : Char) : Option Nat :=
  if 'A' ≤ c ∧ c ≤ 'Z' then some (c.toNat - 'A'.toNat)
  else if 'a' ≤ c ∧ c ≤ 'z' then some (c.toNat - 'a'.toNat + 26)
  else if '0' ≤ c ∧ c ≤ '9' then some (c.toNat - '0'.toNat + 52)
  else if c = '+' then some 62
  else if c = '/' then some 63
  else none

/-- The octets that the rest of a text writes. Of the present four signs, `place` digits were
read and `fills` signs behind them that fill up; `left` are the bits that belong to the next
octet. Where the four are complete by filling, the text ends. -/
def decodeFrom (place left fills : Nat) : List Char → Option (List UInt8)
  | [] => if place = 0 then some [] else none
  | c :: rest =>
    if c = '=' ∧ 2 ≤ place then
      if 4 ≤ place + fills + 1 then some [] else decodeFrom place left (fills + 1) rest
    else
      match digitValue? c with
      | none => decodeFrom place left fills rest
      | some value =>
        match place with
        | 0 => decodeFrom 1 value 0 rest
        | 1 => (decodeFrom 2 (value % 16) 0 rest).map ((left * 4 + value / 16).toUInt8 :: ·)
        | 2 => (decodeFrom 3 (value % 4) 0 rest).map ((left * 16 + value / 4).toUInt8 :: ·)
        | _ => (decodeFrom 0 0 0 rest).map ((left * 64 + value).toUInt8 :: ·)

/-- The octets that a text writes, if its last four signs are complete. -/
def decode? (cs : List Char) : Option (List UInt8) := decodeFrom 0 0 0 cs

end Spreadsheet.Text.Base64
