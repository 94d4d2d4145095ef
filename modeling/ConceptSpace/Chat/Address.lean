import ConceptSpace.Text.Split

/-! What a request line names: the path and the query of an address, with the characters that may not
stand there written as escapes. Steps that lead to the same place or up are taken out of the path. -/
namespace ConceptSpace.Address

def hexDigit (n : Nat) : Char :=
  if n < 10 then Char.ofNat ('0'.toNat + n) else Char.ofNat ('A'.toNat + n - 10)

def escaped (c : Char) : List Char :=
  (String.singleton c).toUTF8.toList.flatMap fun b =>
    ['%', hexDigit (b.toNat / 16), hexDigit (b.toNat % 16)]

def isPlain (c : Char) : Bool := 32 < c.toNat && c.toNat < 127

def isPathChar (c : Char) : Bool :=
  isPlain c && !(['"', '#', '<', '>', '?', '\x7b', '\x7d'].contains c) && c.toNat != 96

def isQueryChar (c : Char) : Bool := isPlain c && !(['"', '#', '<', '>', '\''].contains c)

def encode (isKept : Char → Bool) (text : List Char) : List Char :=
  text.flatMap fun c => if isKept c then [c] else escaped c

def withPoints : List Char → List Char
  | '%' :: '2' :: c :: rest =>
    if c == 'e' || c == 'E' then '.' :: withPoints rest else '%' :: '2' :: withPoints (c :: rest)
  | c :: rest => c :: withPoints rest
  | [] => []

def resolve (done : List (List Char)) : List (List Char) → List (List Char)
  | [] => done.reverse
  | step :: rest =>
    let points := withPoints step
    if points == ['.'] then resolve (if rest.isEmpty then [] :: done else done) rest
    else if points == ['.', '.'] then
      resolve (if rest.isEmpty then [] :: done.drop 1 else done.drop 1) rest
    else resolve (step :: done) rest

def path (text : List Char) : List Char :=
  let steps := (Text.splitChars (fun c => c == '/' || c == '\\') text).drop 1
  if steps.isEmpty then ['/']
  else (resolve [] steps).flatMap fun step => '/' :: encode isPathChar step

def target? (text : String) : Option String :=
  let chars := (text.toList.filter fun c => c != '\t' && c != '\n' && c != '\r').takeWhile (· != '#')
  match chars with
  | [] => some "/"
  | c :: _ =>
    if c == '/' || c == '\\' || c == '?' then
      let query := chars.dropWhile (· != '?')
      some (String.ofList (path (chars.takeWhile (· != '?'))
        ++ if query.isEmpty then [] else '?' :: encode isQueryChar (query.drop 1)))
    else none

end ConceptSpace.Address
