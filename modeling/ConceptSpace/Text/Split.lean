/-! Texts cut at separators. -/
namespace ConceptSpace.Text

def splitChars (isSeparator : Char → Bool) : List Char → List (List Char)
  | [] => [[]]
  | c :: rest =>
    match splitChars isSeparator rest with
    | [] => [[]]
    | piece :: pieces => if isSeparator c then [] :: piece :: pieces else (c :: piece) :: pieces

def splitAt (separator : Char) (text : String) : List String :=
  (splitChars (· == separator) text.toList).map String.ofList

end ConceptSpace.Text
