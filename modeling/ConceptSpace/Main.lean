import ConceptSpace.CommandLine

/-! The program: reads the files that a run consults, runs it, and prints what it answers. -/
namespace ConceptSpace

def entryAt? (path : String) : IO (Option FileEntry) := do
  try
    return some (.file (← IO.FS.readBinFile path))
  catch
    | .noFileOrDirectory _ _ _ => return none
    | .inappropriateType _ _ _ => return some .directory
    | _ => return none

def gather (environment : Environment) (args : List String) (files : FileTree) : IO FileTree :=
  (CommandLine.consulted files environment args).foldlM (fun files path => do
    if files.exists? path then return files
    match ← entryAt? path with
    | some entry => return files.write path entry
    | none => return files) files

def variablesSet : IO Environment := do
  let names := Settings.pathVariable :: CommandLine.keyVariable
    :: Settings.names.map fun name => "MEANING__" ++ name.map Char.toUpper
  let values ← names.mapM fun name => do return (name, ← IO.getEnv name)
  return values.filterMap fun v => v.2.map (v.1, ·)

def noService : ChatService := fun _ => .error "no connection"

end ConceptSpace

open ConceptSpace in
def main (args : List String) : IO UInt32 := do
  let environment ← variablesSet
  let files ← gather environment args .empty
  let files ← gather environment args files
  let files ← gather environment args files
  let answer := CommandLine.run noService files environment ⟨0, ""⟩ args
  IO.print answer.output
  IO.eprint answer.errors
  return answer.exit.toUInt32
