/-!
# Options

The arguments of a command line are options and plain texts. An option has a long
name after two hyphens and may have a letter after one; letters may share a
hyphen. An option that takes a value has it after an equals sign, right after its
letter, or as the next argument, which then may not look like an option. Two
hyphens alone end the options, and a hyphen alone is a plain text.

## Main definitions

* `CommandOption`: The options that there are.
* `UsageError`: What is wrong with a command line.
* `Argument`: An option with its value, a plain text or a fault.
* `readArguments`: What some texts mean where some options are known.
-/

namespace Questionnaire

namespace CommandLine

/-- The options that there are. -/
inductive CommandOption
  | verbose
  | quiet
  | help
  | version
  | outFolder
  | console
  | compact
  | indent
  | language
deriving DecidableEq, Repr

namespace CommandOption

/-- The letter of an option. -/
def letter? : CommandOption → Option Char
  | verbose => some 'v'
  | quiet => some 'q'
  | help => some 'h'
  | version => some 'V'
  | outFolder => some 'o'
  | language => some 'l'
  | console | compact | indent => none

/-- The long name of an option. -/
def longName : CommandOption → String
  | verbose => "verbose"
  | quiet => "quiet"
  | help => "help"
  | version => "version"
  | outFolder => "out-dir"
  | console => "stdout"
  | compact => "compact"
  | indent => "indent"
  | language => "lang"

/-- Whether an option has a value. -/
def takesValue : CommandOption → Bool
  | outFolder | indent | language => true
  | verbose | quiet | help | version | console | compact => false

/-- Whether an option may be given several times. -/
def isCounted : CommandOption → Bool
  | verbose => true
  | _ => false

end CommandOption

/-- What is wrong with a command line. -/
inductive UsageError
  | unknownOption (text : String)
  | unknownCommand (name : String)
  | unexpectedText (text : String)
  | missingCommand
  | missingInput
  | missingOption (option : CommandOption)
  | missingValue (option : CommandOption)
  | unwantedValue (option : CommandOption)
  | invalidValue (option : CommandOption) (value : String)
  | repeated (option : CommandOption)
  | conflict (option other : CommandOption)
deriving DecidableEq, Repr

namespace UsageError

/-- An option between quotation marks. -/
def shown (option : CommandOption) : String :=
  "'--" ++ option.longName ++ "'"

/-- What is wrong with a command line, in words. -/
def message : UsageError → String
  | unknownOption text => "unknown option '" ++ text ++ "'"
  | unknownCommand name => "unknown command '" ++ name ++ "'"
  | unexpectedText text => "unexpected argument '" ++ text ++ "'"
  | missingCommand => "a command is required"
  | missingInput => "an input is required"
  | missingOption option => "the option " ++ shown option ++ " is required"
  | missingValue option => "a value is required for " ++ shown option
  | unwantedValue option => "the option " ++ shown option ++ " takes no value"
  | invalidValue option value => "invalid value '" ++ value ++ "' for " ++ shown option
  | repeated option => "the option " ++ shown option ++ " is given several times"
  | conflict option other =>
    "the options " ++ shown option ++ " and " ++ shown other ++ " exclude each other"

end UsageError

/-- What an argument of a command line means. -/
inductive Argument
  | option (o : CommandOption) (value : String)
  | plain (text : String)
  | fault (e : UsageError)
deriving DecidableEq, Repr

/-- Whether an argument looks like options: it begins with a hyphen and goes on. -/
def looksLikeOption : List Char → Bool
  | '-' :: _ :: _ => true
  | _ => false

/-- The arguments that some letters after a hyphen mean, and an option that still
    waits for its value. -/
def readLetters (known : List CommandOption) :
    List Char → List Argument × Option CommandOption
  | [] => ([], none)
  | c :: rest =>
    match known.find? fun o => o.letter? == some c with
    | none => ([.fault (.unknownOption (String.ofList ['-', c]))], none)
    | some o =>
      if o.takesValue then
        match rest with
        | [] => ([], some o)
        | '=' :: value => ([.option o (String.ofList value)], none)
        | value => ([.option o (String.ofList value)], none)
      else
        let (arguments, waiting) := readLetters known rest
        (.option o "" :: arguments, waiting)

/-- The argument that a long name after two hyphens means, with its value after an
    equals sign, and an option that still waits for its value. -/
def readLongName (known : List CommandOption) (name : List Char) (value : Option (List Char)) :
    List Argument × Option CommandOption :=
  match known.find? fun o => o.longName.toList == name, value with
  | none, _ => ([.fault (.unknownOption (String.ofList ('-' :: '-' :: name)))], none)
  | some o, none => if o.takesValue then ([], some o) else ([.option o ""], none)
  | some o, some value =>
    if o.takesValue then ([.option o (String.ofList value)], none)
    else ([.fault (.unwantedValue o)], none)

/-- What a text that looks like options means. -/
def readOptionText (known : List CommandOption) (text : List Char) :
    List Argument × Option CommandOption :=
  match text with
  | '-' :: '-' :: rest =>
    match rest.dropWhile (· != '=') with
    | [] => readLongName known rest none
    | _ :: value => readLongName known (rest.takeWhile (· != '=')) (some value)
  | '-' :: letters => readLetters known letters
  | _ => ([.plain (String.ofList text)], none)

/-- What some texts mean after an option that waits for its value, if there is one. A
    fault ends the arguments only for the reader of this list. -/
def readArgumentsAfter (known : List CommandOption) :
    Option CommandOption → List String → List Argument
  | none, [] => []
  | some o, [] => [.fault (.missingValue o)]
  | some o, text :: rest =>
    if looksLikeOption text.toList then [.fault (.missingValue o)]
    else .option o text :: readArgumentsAfter known none rest
  | none, text :: rest =>
    if !looksLikeOption text.toList then .plain text :: readArgumentsAfter known none rest
    else if text = "--" then rest.map .plain
    else
      let (arguments, waiting) := readOptionText known text.toList
      arguments ++ readArgumentsAfter known waiting rest

/-- What some texts mean where some options are known. -/
def readArguments (known : List CommandOption) (texts : List String) : List Argument :=
  readArgumentsAfter known none texts

end CommandLine

end Questionnaire
