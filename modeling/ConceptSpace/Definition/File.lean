import ConceptSpace.Definition.Decode

/-! Definition files. -/
namespace ConceptSpace.Definition

def contents (decode : Source → Option α) (files : FileTree) (path : String) : Except Fault α :=
  match files.readText path with
  | .error cause => .error (.file path cause)
  | .ok text =>
    match (Source.read? path text).bind decode with
    | some content => .ok content
    | none => .error (.file path .undecodable)

end ConceptSpace.Definition
