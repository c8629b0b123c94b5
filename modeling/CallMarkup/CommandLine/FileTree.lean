import CallMarkup.Text

/-!
# Files and directories

A command works on what a path leads to: a file, or all files below a
directory.  A file tree is a set of files by their names from the top; its
directories are those that hold a file.
-/

namespace CallMarkup.CommandLine

/-- A file by the names that lead to it.  A file whose bytes are not UTF-8 has
no content. -/
structure TreeFile where
  names : List Text
  content : Option Text
  deriving DecidableEq

/-- Whether a file may stand before another one when files are ordered by their
names from the top. -/
def TreeFile.mayPrecede (first second : TreeFile) : Bool :=
  !List.lex second.names first.names fun one other => List.lex one other (· < ·)

inductive Target
  | file (content : Option Text)
  /-- A directory with the files below it. -/
  | directory (files : List TreeFile)
  deriving DecidableEq

/-- The extension of a file name: what follows its last dot, unless nothing
comes before this dot. -/
def extension? (name : Text) : Option Text :=
  match (pieces '.' name).reverse with
  | ending :: beginning :: earlier =>
    if earlier = [] ∧ beginning = [] then none else some ending
  | _ => none

/-- The path of a file below the one of a directory. -/
def below (directory : Text) (names : List Text) : Text :=
  let between := if directory.getLast? = some '/' then [] else ['/']
  directory ++ between ++ joinWith ['/'] names

structure FileTree where
  files : List TreeFile := []
  deriving DecidableEq

namespace FileTree

/-- What stands at a place, given by the names that lead to it. -/
def target? (tree : FileTree) (names : List Text) : Option Target :=
  match tree.files.find? (·.names = names) with
  | some file => some (.file file.content)
  | none =>
    let inside := tree.files.filterMap fun file =>
      if names <+: file.names then some { file with names := file.names.drop names.length }
      else none
    if inside = [] ∧ names ≠ [] then none else some (.directory inside)

/-- The place to which further names lead from a directory.  Two dots lead to
the directory above, if it belongs to the tree. -/
def follow? (tree : FileTree) (place : List Text) : List Text → Option (List Text)
  | [] => some place
  | name :: names =>
    match tree.target? place with
    | some (.directory _) =>
      if name = [] ∨ name = ['.'] then tree.follow? place names
      else if name = ['.', '.'] then
        if place = [] then none else tree.follow? place.dropLast names
      else tree.follow? (place ++ [name]) names
    | _ => none

/-- What a path leads to from the top of the tree.  No absolute path leads into
it. -/
def lookUp (tree : FileTree) (path : Text) : Option Target :=
  if path.head? = some '/' then none
  else (tree.follow? [] (pieces '/' path)).bind tree.target?

end FileTree

end CallMarkup.CommandLine
