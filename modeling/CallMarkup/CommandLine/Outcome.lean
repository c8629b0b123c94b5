import CallMarkup.CommandLine.FileTree
import CallMarkup.CommandLine.Listing
import CallMarkup.CommandLine.Request
import CallMarkup.Config.Read
import CallMarkup.Document.Findings

/-!
# Outcomes

A request is answered from what its paths lead to, so the answer depends on
nothing else.  Files are read in the order of their paths and up to the first
one that is no text.
-/

namespace CallMarkup.CommandLine

inductive Status
  | success
  /-- The files were read, and something is wrong with them. -/
  | findings
  /-- The command could not be carried out. -/
  | failure
  deriving DecidableEq

/-- The number by which a status is told to the caller. -/
def Status.exitCode : Status → Nat
  | .success => 0
  | .findings => 1
  | .failure => 2

structure Outcome where
  status : Status
  output : Text := []
  diagnostics : List Diagnostic := []
  /-- What kept the command from being carried out, apart from what the
  diagnostics say. -/
  complaint : Option String := none
  deriving DecidableEq

structure SourceFile where
  path : Text
  content : Option Text
  deriving DecidableEq

namespace Job

/-- Whether a file below a directory is to be read. -/
def selects (job : Job) (file : TreeFile) : Bool :=
  job.extensions.isEmpty ||
    match file.names.getLast?.bind extension? with
    | some found => job.extensions.any fun wanted => wanted.dropWhile (· = '.') = found
    | none => false

/-- The files to read.  A file that is named itself is read whatever its
extension, and a path that leads nowhere stands for no file. -/
def files (job : Job) : Option Target → List SourceFile
  | none => []
  | some (.file content) => [⟨job.path, content⟩]
  | some (.directory files) =>
    let chosen := (files.filter job.selects).mergeSort TreeFile.mayPrecede
    chosen.map fun file => ⟨below job.path file.names, file.content⟩

end Job

/-- The contents of the files before the first one that is no text, and the
path of this one. -/
def readable : List SourceFile → List (Text × Text) × Option Text
  | [] => ([], none)
  | ⟨path, none⟩ :: _ => ([], some path)
  | ⟨path, some content⟩ :: files =>
    let (contents, unreadable) := readable files
    ((path, content) :: contents, unreadable)

/-- What is said of a file that is no text. -/
def unreadableComplaint (path : Text) : String :=
  s!"Cannot read '{String.ofList path}'"

def scan (grammar : Grammar) (files : List SourceFile) : Outcome :=
  let (contents, unreadable) := readable files
  let lines := contents.flatMap fun (path, text) => listing grammar path text
  match unreadable with
  | some path =>
    { status := .failure, output := lines, complaint := some (unreadableComplaint path) }
  | none =>
    let units := contents.flatMap fun (_, text) => grammar.units text
    { status := .success, output := lines ++ summary units.length files.length 0 }

def check (grammar : Grammar) (files : List SourceFile) : Outcome :=
  let (contents, unreadable) := readable files
  let diagnostics := contents.flatMap fun (path, text) => grammar.check path text
  match unreadable with
  | some path =>
    { status := .failure, diagnostics, complaint := some (unreadableComplaint path) }
  | none =>
    let units := contents.flatMap fun (_, text) => grammar.units text
    { status := if diagnostics = [] then .success else .findings
      output := summary units.length files.length diagnostics.length
      diagnostics }

/-- The notation of a configuration file.  Only a file with the extension of
JSON is read as such. -/
def configFormat (path : Text) : ConfigFormat :=
  match (pieces '/' path).getLast?.bind extension? with
  | some ending => if ending.map Char.toLower = "json".toList then .json else .yaml
  | none => .yaml

def loadConfig (path : Text) : Option Target → Except Diagnostic Config
  | some (.file (some text)) =>
    (Config.ofText (configFormat path) text).mapError (·.report (configFormat path))
  | _ => .error { category := .config, message := unreadableComplaint path }

def Job.loadConfig (job : Job) (lookUp : Text → Option Target) : Except Diagnostic Config :=
  match job.config with
  | none => .ok {}
  | some path => CommandLine.loadConfig path (lookUp path)

def Job.run (job : Job) (lookUp : Text → Option Target) : Outcome :=
  match job.loadConfig lookUp with
  | .error diagnostic => { status := .failure, diagnostics := [diagnostic] }
  | .ok config =>
    let files := job.files (lookUp job.path)
    match job.command with
    | .scan => scan config.grammar files
    | .check => check config.grammar files

/-- The name and the number of this release. -/
def versionLine : Text :=
  "shorthand 0.1.0\n".toList

def usage : Text :=
  ("Find and check \x7b\x7bshorthand|units\x7d\x7d in text files.\n\n" ++
    "Usage: shorthand [--config FILE] [-v] scan PATH [--ext LIST]\n" ++
    "       shorthand [--config FILE] [-v] check PATH [--ext LIST]\n").toList

def answer (words : List Text) (lookUp : Text → Option Target) : Outcome :=
  match Request.ofWords words with
  | .error fault => { status := .failure, complaint := some fault.message }
  | .ok .help => { status := .success, output := usage }
  | .ok .version => { status := .success, output := versionLine }
  | .ok (.run job) => job.run lookUp

end CallMarkup.CommandLine
