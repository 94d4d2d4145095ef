import ConceptSpace.Document.Json
import ConceptSpace.Document.Yaml.Reading
import ConceptSpace.FileTree

/-! What definition files are written as. The extension of the name says whether a file is YAML; any
other is JSON. -/
namespace ConceptSpace.Definition

inductive Source where
  | json (document : Document)
  | yaml (file : Yaml.File)

namespace Source

def isYaml (path : String) : Bool :=
  (extension? path).any fun extension => ["yaml", "yml"].contains (extension.map Char.toLower)

def read? (path text : String) : Option Source :=
  if isYaml path then (Yaml.read? text).map .yaml else (Json.read? text).map .json

def decode? (decode : {ν : Type} → Reading ν → ν → Option α) : Source → Option α
  | .json document => decode Document.reading document
  | .yaml file => decode file.reading file.root

def strictly? (decode : {ν : Type} → Reading ν → ν → Option α) : Source → Option α
  | .json document => decode Document.reading document
  | .yaml file => if file.denotes then decode file.strictReading file.root else none

end Source

end ConceptSpace.Definition
