import CallMarkup.CommandLine.Outcome
import CallMarkup.CommandLine.Walk

/-!
# The program

Reads what the paths of a request lead to, and prints the answer.
-/

namespace CallMarkup.CommandLine

/-- The content of a file that can be read and is UTF-8. -/
def readContent (file : IO.FS.DirEntry) : IO (Option Text) := do
  try
    let bytes ← IO.FS.readBinFile file.path
    return (String.fromUTF8? bytes).map String.toList
  catch _ =>
    return none

def kindOf (metadata : IO IO.FS.Metadata) : IO (Option IO.FS.FileType) := do
  try
    return some (← metadata).type
  catch _ =>
    return none

def listing? (directory : IO.FS.DirEntry) : IO (Option (List IO.FS.DirEntry)) := do
  try
    return some (← directory.path.readDir).toList
  catch _ =>
    return none

/-- What stands at a place of a known kind.  Below a directory only the files that the
job selects are read. -/
partial def entryAt (job : Job) (names : List Text) (place : IO.FS.DirEntry) :
    Option IO.FS.FileType → IO Entry
  | some .dir => do
    let some places ← listing? place | return .directory false []
    let entries ← places.mapM fun place => do
      let name := place.fileName.toList
      let entry ← entryAt job (names ++ [name]) place (← kindOf place.path.symlinkMetadata)
      return (name, entry)
    return .directory true entries
  | some .file => do
    let isRead := names.isEmpty || job.selects ⟨names, none⟩
    return .file (← if isRead then readContent place else pure none)
  | _ => return .other

def targetOf (job : Job) (path : Text) : IO (Option Target) := do
  let place : IO.FS.DirEntry := ⟨← IO.currentDir, String.ofList path⟩
  return (← entryAt job [] place (← kindOf place.path.metadata)).target?

def targetsOf : Request → IO (List (Text × Option Target))
  | .run job => (job.path :: job.config.toList).mapM fun path => do
      return (path, ← targetOf job path)
  | .help | .version => return []

end CallMarkup.CommandLine

open CallMarkup CallMarkup.CommandLine in
def main (arguments : List String) : IO UInt32 := do
  let words := arguments.map String.toList
  let targets ← match Request.ofWords words with
    | .ok request => targetsOf request
    | .error _ => pure []
  let outcome := answer words fun path => (targets.lookup path).join
  IO.print (String.ofList outcome.output)
  for diagnostic in outcome.diagnostics do
    IO.eprintln s!"{diagnostic.code}: {diagnostic.display}"
  if let some complaint := outcome.complaint then
    IO.eprintln complaint
  return outcome.status.exitCode.toUInt32
