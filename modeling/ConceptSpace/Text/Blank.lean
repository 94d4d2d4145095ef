import ConceptSpace.Text.CodeRange

/-! White space under Unicode, and texts freed of it at their ends. -/
namespace ConceptSpace.Text

def blankRanges : List CodeRange := [
  (0x9, 0xd), (0x20, 0x20), (0x85, 0x85), (0xa0, 0xa0), (0x1680, 0x1680), (0x2000, 0x200a),
  (0x2028, 0x2029), (0x202f, 0x202f), (0x205f, 0x205f), (0x3000, 0x3000)]

def isBlank (c : Char) : Bool := CodeRange.covers blankRanges c

def trimStartChars (text : List Char) : List Char := text.dropWhile isBlank

def trimEndChars (text : List Char) : List Char := (text.reverse.dropWhile isBlank).reverse

def trimChars (text : List Char) : List Char := trimEndChars (trimStartChars text)

def trimEnd (text : String) : String := String.ofList (trimEndChars text.toList)

def trim (text : String) : String := String.ofList (trimChars text.toList)

def isBlankText (text : String) : Bool := text.toList.all isBlank

end ConceptSpace.Text
