import CallMarkup.Text

/-!
# Requests

The words of a command line say which command to run on which path.  Options
that concern every command may stand before or after its name; an option given
after the name wins over one given before it.  Words are read from left to
right, and the first word that cannot be read decides the answer.
-/

namespace CallMarkup.CommandLine

inductive Command
  /-- List all units. -/
  | scan
  /-- Report what is wrong. -/
  | check
  deriving DecidableEq

def Command.named? (name : Text) : Option Command :=
  if name = "scan".toList then some .scan
  else if name = "check".toList then some .check
  else none

/-- A command with everything it needs to know. -/
structure Job where
  command : Command
  /-- A file, or a directory to search. -/
  path : Text
  /-- The extensions of the files to read in a directory; all files when there
  are none. -/
  extensions : List Text := []
  /-- The file with the configuration. -/
  config : Option Text := none
  verbosity : Nat := 0
  deriving DecidableEq

inductive Request
  | run (job : Job)
  | help
  | version
  deriving DecidableEq

inductive UsageFault
  | missingCommand
  | unknownCommand (name : Text)
  | missingPath
  | unexpected (word : Text)
  | missingValue (option : Text)
  | repeatedOption (option : Text)
  deriving DecidableEq

def UsageFault.message : UsageFault → String
  | .missingCommand => "a command is required"
  | .unknownCommand name => s!"unrecognized command '{String.ofList name}'"
  | .missingPath => "a path is required"
  | .unexpected word => s!"unexpected argument '{String.ofList word}'"
  | .missingValue option => s!"a value is required for '{String.ofList option}'"
  | .repeatedOption option => s!"'{String.ofList option}' cannot be used multiple times"

/-- The roles of words. -/
inductive Word
  /-- An option by its long name, with a value if one is attached. -/
  | long (name : Text) (value : Option Text)
  /-- Options by their letters. -/
  | short (letters : Text)
  /-- Everything after it is plain. -/
  | terminator
  | plain (text : Text)
  deriving DecidableEq

/-- The role of a word.  A single hyphen is a plain word. -/
def Word.ofText : Text → Word
  | ['-', '-'] => .terminator
  | '-' :: '-' :: option =>
    let name := option.takeWhile (· ≠ '=')
    match option.drop name.length with
    | _ :: value => .long name (some value)
    | [] => .long name none
  | '-' :: c :: letters => .short (c :: letters)
  | text => .plain text

/-- What has been read of a command line. -/
structure Reading where
  command : Option Command := none
  path : Option Text := none
  extensions : List Text := []
  /-- The configuration named since the command, or at all when there is no
  command yet. -/
  config : Option Text := none
  /-- The configuration named before the command. -/
  outerConfig : Option Text := none
  verbosity : Nat := 0
  deriving DecidableEq

namespace Reading

def withCommand (reading : Reading) (command : Command) : Reading :=
  { reading with command := some command, config := none, outerConfig := reading.config }

def takesValue (reading : Reading) (name : Text) : Bool :=
  name = "config".toList || name = "ext".toList && reading.command.isSome

/-- Takes in an option that has a value.  Lists of extensions add up, while
there is one configuration only. -/
def withValue (reading : Reading) (name value : Text) : Except UsageFault Reading :=
  if name = "ext".toList then
    .ok { reading with extensions := reading.extensions ++ pieces ',' value }
  else if value = [] then .error (.missingValue name)
  else if reading.config.isSome then .error (.repeatedOption name)
  else .ok { reading with config := some value }

/-- Takes in the path of a command.  There is one only. -/
def withPath (reading : Reading) (path : Text) : Except UsageFault Reading :=
  if path = [] then .error .missingPath
  else if reading.path.isSome then .error (.unexpected path)
  else .ok { reading with path := some path }

def finish (reading : Reading) : Except UsageFault Request :=
  match reading.command, reading.path with
  | none, _ => .error .missingCommand
  | some _, none => .error .missingPath
  | some command, some path =>
    .ok (.run
      { command, path
        extensions := reading.extensions
        config := reading.config.or reading.outerConfig
        verbosity := reading.verbosity })

/-- The letters of the options without a value. -/
def letter? (name : Text) : Option Char :=
  [("verbose", 'v'), ("help", 'h'), ("version", 'V')].lookup (String.ofList name)

/-- Takes in options by their letters.  Some letters decide the request at
once. -/
def withLetters (reading : Reading) : Text → Except UsageFault (Reading ⊕ Request)
  | [] => .ok (.inl reading)
  | letter :: letters =>
    if letter = 'v' then
      { reading with verbosity := reading.verbosity + 1 }.withLetters letters
    else if letter = 'h' then .ok (.inr .help)
    else if letter = 'V' ∧ reading.command = none then .ok (.inr .version)
    else .error (.unexpected ['-', letter])

/-- Reads words none of which is an option. -/
def readPlain (reading : Reading) : List Text → Except UsageFault Request
  | [] => reading.finish
  | word :: words => do
    if reading.command = none then throw (.unexpected word)
    (← reading.withPath word).readPlain words

/-- Reads the words after a request for help, which may name a command. -/
def readHelp : List Text → Except UsageFault Request
  | [] => .ok .help
  | [name] =>
    if name = "help".toList ∨ (Command.named? name).isSome then .ok .help
    else .error (.unknownCommand name)
  | _ :: word :: _ => .error (.unknownCommand word)

def readWords (reading : Reading) : List Text → Except UsageFault Request
  | [] => reading.finish
  | word :: words =>
    match Word.ofText word with
    | .terminator => reading.readPlain words
    | .short letters => do
      match ← reading.withLetters letters with
      | .inl reading => reading.readWords words
      | .inr request => return request
    | .long name (some value) =>
      if reading.takesValue name then do (← reading.withValue name value).readWords words
      else .error (.unexpected word)
    | .long name none =>
      if reading.takesValue name then
        match words with
        | [] => .error (.missingValue name)
        | next :: words =>
          match Word.ofText next with
          | .plain value => do (← reading.withValue name value).readWords words
          | _ => .error (.missingValue name)
      else
        match letter? name with
        | none => .error (.unexpected word)
        | some letter => do
          match ← reading.withLetters [letter] with
          | .inl reading => reading.readWords words
          | .inr request => return request
    | .plain text =>
      match reading.command, Command.named? text with
      | some _, _ => do (← reading.withPath text).readWords words
      | none, some command => (reading.withCommand command).readWords words
      | none, none =>
        if text = "help".toList then readHelp words else .error (.unknownCommand text)

end Reading

def Request.ofWords (words : List Text) : Except UsageFault Request :=
  Reading.readWords {} words

end CallMarkup.CommandLine
