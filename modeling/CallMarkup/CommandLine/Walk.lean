import CallMarkup.CommandLine.FileTree

/-!
# Walks

What stands at a place of a file system is a file, a directory or something that is
never read.  A walk passes through a directory and all directories below it, and
meets the files there.  Directories that cannot be listed are passed over.
-/

namespace CallMarkup.CommandLine

/-- What stands at a place of a file system. -/
inductive Entry
  /-- A file.  One that cannot be read, or whose bytes are not UTF-8, has no content. -/
  | file (content : Option Text)
  /-- A directory with what is in it. -/
  | directory (listable : Bool) (entries : List (Text × Entry))
  /-- Nothing at all, or neither a file nor a directory. -/
  | other

/-- A file of a directory, seen from the directory above. -/
def TreeFile.within (directory : Text) (file : TreeFile) : TreeFile :=
  { file with names := directory :: file.names }

namespace Entry

mutual

/-- The files that a walk meets, by the names that lead to them. -/
def walk : Entry → List TreeFile
  | .file content => [⟨[], content⟩]
  | .directory listable entries => if listable then walkEach entries else []
  | .other => []

def walkEach : List (Text × Entry) → List TreeFile
  | [] => []
  | (name, entry) :: entries => entry.walk.map (·.within name) ++ walkEach entries

end

/-- What a command works on when a path leads to an entry. -/
def target? : Entry → Option Target
  | .file content => some (.file content)
  | .directory listable entries => some (.directory (walk (.directory listable entries)))
  | .other => none

end Entry

end CallMarkup.CommandLine
