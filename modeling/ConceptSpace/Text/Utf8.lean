/-! Texts from bytes that need not be valid UTF-8.
Bytes that begin a character but do not finish it, as many as could stand in one, and bytes that begin
none each become one replacement character. -/
namespace ConceptSpace.Text

structure Continuation where
  length : Nat
  low : Nat := 0x80
  high : Nat := 0xBF

def continuation? (first : Nat) : Option Continuation :=
  if first < 0x80 then some { length := 0 }
  else if first < 0xC2 then none
  else if first < 0xE0 then some { length := 1 }
  else if first == 0xE0 then some { length := 2, low := 0xA0 }
  else if first == 0xED then some { length := 2, high := 0x9F }
  else if first < 0xF0 then some { length := 2 }
  else if first == 0xF0 then some { length := 3, low := 0x90 }
  else if first < 0xF4 then some { length := 3 }
  else if first == 0xF4 then some { length := 3, high := 0x8F }
  else none

def continuing : (length low high : Nat) → List UInt8 → Nat
  | 0, _, _, _ => 0
  | _ + 1, _, _, [] => 0
  | n + 1, low, high, b :: rest =>
    if low ≤ b.toNat && b.toNat ≤ high then 1 + continuing n 0x80 0xBF rest else 0

def replacement : String := "\ufffd"

def utf8Pieces : List UInt8 → List String
  | [] => []
  | b :: rest =>
    let n := match continuation? b.toNat with
      | some c => continuing c.length c.low c.high rest
      | none => 0
    (String.fromUTF8? ⟨(b :: rest.take n).toArray⟩).getD replacement :: utf8Pieces (rest.drop n)
termination_by bytes => bytes.length
decreasing_by simp only [List.length_cons, List.length_drop]; omega

def ofUtf8 (bytes : List UInt8) : String := String.join (utf8Pieces bytes)

end ConceptSpace.Text
