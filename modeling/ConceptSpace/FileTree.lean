import ConceptSpace.Fault
import ConceptSpace.Text.Split

/-! The files that a run can see, as a value.
A path is followed name by name from the working directory or from the root; every name but the last
must be that of a directory. Directories exist by themselves or because something lies in them. -/
namespace ConceptSpace

inductive FileEntry where
  | file (content : ByteArray)
  | directory

structure FileTree where
  entries : List (List String × FileEntry)

namespace FileTree

def empty : FileTree := ⟨[]⟩

def root : List String := ["/"]

def names (path : String) : List String :=
  let steps := Text.splitAt '/' path
  (if steps.head? == some "" then root else []) ++ steps.filter fun name => name != "" && name != "."

def write (t : FileTree) (path : String) (entry : FileEntry) : FileTree :=
  ⟨(names path, entry) :: t.entries⟩

def remove (t : FileTree) (path : String) : FileTree :=
  let place := names path
  let others := t.entries.filter (·.1 != place)
  ⟨if place.length ≤ 1 then others else (place.dropLast, .directory) :: others⟩

def isAbove (place : List String) : Bool := place == root || place.all (· == "..")

def parent (place : List String) : List String :=
  if place == root then root else if isAbove place then place ++ [".."] else place.dropLast

def entry? (t : FileTree) (place : List String) : Option FileEntry :=
  if isAbove place then some .directory
  else
    match t.entries.find? (·.1 == place) with
    | some found => some found.2
    | none => if t.entries.any fun e => place.isPrefixOf e.1 then some .directory else none

def nameLimit : Nat := 255

def pathLimit : Nat := 4095

def follow (t : FileTree) (place : List String) : List String → Except FileFault FileEntry
  | [] =>
    match t.entry? place with
    | some found => .ok found
    | none => .error .missing
  | name :: rest =>
    match t.entry? place with
    | none => .error .missing
    | some (.file _) => .error .notADirectory
    | some .directory =>
      if name == "" || name == "." then t.follow place rest
      else if name == ".." then t.follow (parent place) rest
      else if nameLimit < name.utf8ByteSize then .error .nameTooLong
      else t.follow (place ++ [name]) rest

def lookup (t : FileTree) (path : String) : Except FileFault FileEntry :=
  if path.toList.contains '\x00' then .error .nulInName
  else if pathLimit < path.utf8ByteSize then .error .nameTooLong
  else
    match Text.splitAt '/' path with
    | [""] => .error .missing
    | "" :: steps => t.follow root steps
    | steps => t.follow [] steps

def exists? (t : FileTree) (path : String) : Bool := (t.lookup path).isOk

def readText (t : FileTree) (path : String) : Except FileFault String := do
  match ← t.lookup path with
  | .directory => .error .isADirectory
  | .file content =>
    match String.fromUTF8? content with
    | some text => .ok text
    | none => .error .notUtf8

end FileTree

def extension? (path : String) : Option String :=
  match (FileTree.names path).getLast? with
  | none => none
  | some name =>
    if name == ".." then none
    else
      match (Text.splitAt '.' name).reverse with
      | last :: before => if (String.intercalate "." before.reverse).isEmpty then none else some last
      | [] => none

end ConceptSpace
