import TemplateFile.Text.Search
import TemplateFile.Tree.SourceFile

namespace TemplateFile

/-!
# Arguments of the command line

The arguments are read from left to right, and the first thing that is wrong
with them, or the first call for help, decides.  An argument that begins with a
hyphen is an option or a cluster of short flags, except a hyphen alone, which
is a file; after two hyphens everything is a file.  No flag may be given twice
and at least one file has to be named.
-/

/-- What the program is asked to do. -/
structure Options where
  kind : FileKind
  quiet : Bool
  dump : Bool
  inputs : List String
deriving DecidableEq, Repr

/-- What is wrong with the arguments. -/
inductive UsageFault where
  | unknownOption (argument : String)
  | repeatedOption (option : String)
  | missingValue (option : String)
  | invalidValue (option value : String)
  | unwantedValue (argument : String)
  | emptyInput
  | noInput
deriving DecidableEq, Repr

namespace UsageFault

/-- The message about the fault. -/
def message : UsageFault -> String
  | unknownOption argument => "unexpected argument '" ++ argument ++ "' found"
  | repeatedOption option => "the argument '" ++ option ++ "' cannot be used multiple times"
  | missingValue option => "a value is required for '" ++ option ++ "' but none was supplied"
  | invalidValue option value => "invalid value '" ++ value ++ "' for '" ++ option ++ "'"
  | unwantedValue argument => "unexpected value in '" ++ argument ++ "'"
  | emptyInput => "a file name must not be empty"
  | noInput => "no files were named"

end UsageFault

/-- Why the reading of arguments ends without options. -/
inductive Halt where
  | help
  | version
  | misuse (fault : UsageFault)
deriving DecidableEq, Repr

/-- The options that take no value. -/
inductive Flag where
  | quiet
  | dump
  | help
  | version
deriving DecidableEq, Repr

namespace Flag

/-- The flag with a long name. -/
def ofName? (name : String) : Option Flag :=
  if name = "quiet" then some quiet
  else if name = "dump" then some dump
  else if name = "help" then some help
  else if name = "version" then some version
  else none

/-- The flag with a short name. -/
def ofLetter? (letter : Char) : Option Flag :=
  if letter = 'q' then some quiet
  else if letter = 'h' then some help
  else if letter = 'V' then some version
  else none

end Flag

/-- The file kind with a given name among the arguments. -/
def FileKind.ofArgument? (value : String) : Option FileKind :=
  if value = "source" then some .source
  else if value = "dependency" then some .dependency
  else if value = "indirect" then some .indirectDependency
  else none

/-- How the next argument is to be read. -/
inductive ArgumentMode where
  | option
  | kindValue
  | inputOnly
deriving DecidableEq, Repr

/-- What the arguments read so far have said. -/
structure ArgumentReader where
  mode : ArgumentMode
  kind : Option FileKind
  quiet : Bool
  dump : Bool
  inputs : List String
deriving DecidableEq, Repr

namespace ArgumentReader

/-- Nothing has been said yet. -/
def start : ArgumentReader := ⟨.option, none, false, false, []⟩

/-- Stop because of a fault. -/
def refuse {Value : Type} (fault : UsageFault) : Except Halt Value := .error (.misuse fault)

/-- Give a flag. -/
def raise (reader : ArgumentReader) : Flag -> Except Halt ArgumentReader
  | .quiet => if reader.quiet then refuse (.repeatedOption "--quiet") else .ok { reader with quiet := true }
  | .dump => if reader.dump then refuse (.repeatedOption "--dump") else .ok { reader with dump := true }
  | .help => .error .help
  | .version => .error .version

/-- Give the file kind. -/
def setKind (reader : ArgumentReader) (value : String) : Except Halt ArgumentReader :=
  if reader.kind.isSome then refuse (.repeatedOption "--kind")
  else
    match FileKind.ofArgument? value with
    | some kind => .ok { reader with kind := some kind, mode := .option }
    | none => refuse (.invalidValue "--kind" value)

/-- Name a file. -/
def addInput (reader : ArgumentReader) (input : String) : Except Halt ArgumentReader :=
  if input = "" then refuse .emptyInput else .ok { reader with inputs := reader.inputs ++ [input] }

/-- Read an option with a long name, which stands after two hyphens and before
an equals sign, if there is one. -/
def readLong (reader : ArgumentReader) (argument : String) (text : List Char) : Except Halt ArgumentReader :=
  match Text.cutAt? ['='] text with
  | some (name, value) =>
      if String.ofList name = "kind" then reader.setKind (String.ofList value)
      else if (Flag.ofName? (String.ofList name)).isSome then refuse (.unwantedValue argument)
      else refuse (.unknownOption argument)
  | none =>
      if String.ofList text = "kind" then .ok { reader with mode := .kindValue }
      else
        match Flag.ofName? (String.ofList text) with
        | some flag => reader.raise flag
        | none => refuse (.unknownOption argument)

/-- Read a cluster of short flags, one letter after the other. -/
def readShort (reader : ArgumentReader) (argument : String) (letters : List Char) : Except Halt ArgumentReader :=
  letters.foldlM
    (fun reader letter =>
      match Flag.ofLetter? letter with
      | some flag => reader.raise flag
      | none => refuse (.unknownOption argument))
    reader

/-- Whether an argument begins like an option.  A hyphen alone does not. -/
def looksLikeOption (argument : String) : Bool :=
  match argument.toList with
  | '-' :: _ :: _ => true
  | _ => false

/-- Read one argument. -/
def read (reader : ArgumentReader) (argument : String) : Except Halt ArgumentReader :=
  match reader.mode with
  | .inputOnly => reader.addInput argument
  | .kindValue =>
      if looksLikeOption argument then refuse (.missingValue "--kind") else reader.setKind argument
  | .option =>
      match argument.toList with
      | ['-', '-'] => .ok { reader with mode := .inputOnly }
      | '-' :: '-' :: text => reader.readLong argument text
      | '-' :: letter :: letters => reader.readShort argument (letter :: letters)
      | _ => reader.addInput argument

/-- The options, when there are no more arguments. -/
def finish (reader : ArgumentReader) : Except Halt Options :=
  if reader.mode = .kindValue then refuse (.missingValue "--kind")
  else if reader.inputs = [] then refuse .noInput
  else .ok ⟨reader.kind.getD .source, reader.quiet, reader.dump, reader.inputs⟩

end ArgumentReader

namespace Options

/-- The options that the arguments ask for. -/
def ofArguments (arguments : List String) : Except Halt Options := do
  let reader ← arguments.foldlM ArgumentReader.read ArgumentReader.start
  reader.finish

end Options

end TemplateFile
