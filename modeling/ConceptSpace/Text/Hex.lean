/-! Characters written by their numbers in hexadecimal digits. -/
namespace ConceptSpace.Text

def hexDigit? (c : Char) : Option Nat :=
  if '0' ≤ c && c ≤ '9' then some (c.toNat - '0'.toNat)
  else if 'a' ≤ c && c ≤ 'f' then some (c.toNat - 'a'.toNat + 10)
  else if 'A' ≤ c && c ≤ 'F' then some (c.toNat - 'A'.toNat + 10)
  else none

def hexNumber? (width : Nat) (text : List Char) : Option (Nat × List Char) := do
  let digits ← (text.take width).mapM hexDigit?
  if digits.length == width then some (digits.foldl (fun n d => n * 16 + d) 0, text.drop width)
  else none

def codePoint? (width : Nat) (text : List Char) : Option (Char × List Char) := do
  let (n, rest) ← hexNumber? width text
  if n.isValidChar then some (Char.ofNat n, rest) else none

end ConceptSpace.Text
