/-! The library of vectors that a query is compared with, in file order.
The shape of an entry is checked when it is compared, not here. -/
namespace ConceptSpace

structure LibraryEntry where
  id : String
  vector : List Float
  layer : Option String := none
  deriving Repr

abbrev Library := List LibraryEntry

def Library.get? (library : Library) (id : String) : Option LibraryEntry :=
  library.find? (·.id == id)

structure MissionProfile where
  keywords : List String
  deriving DecidableEq, Repr

end ConceptSpace
