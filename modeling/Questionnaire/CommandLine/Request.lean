import Questionnaire.CommandLine.Option
import Questionnaire.Files.Path
import Questionnaire.Json.Printer
import Questionnaire.Notice
import Questionnaire.Number.Integer

/-!
# Requests

What a user may ask for: to convert spreadsheets, to list the languages of one, to
print its translations to a language, or to be told the version or the usage. A
command line begins with options that are about the log, then comes the name of
a command, and then the options and inputs of the command, among which those
about the log may stand again. What is said about the log after the name of the
command counts more than what is said before.

## Main definitions

* `Target`: Where documents go.
* `Command`: What is to be done.
* `Request`: What a command line asks for.
* `Request.ofArguments`: The request of a command line.
-/

namespace Questionnaire

namespace CommandLine

/-- Where documents go. -/
inductive Target
  | console
  /-- A file beside the spreadsheet. -/
  | beside
  /-- A file in a folder. -/
  | folder (path : Path)
deriving DecidableEq, Repr

/-- What is to be done. -/
inductive Command
  | convert (inputs : List Path) (target : Target) (style : Json.Style)
  | languages (input : Path)
  | translate (input : Path) (language : String)
deriving DecidableEq, Repr

/-- What a command line asks for. -/
inductive Request
  /-- A command, with the least urgent level that the log shows. -/
  | run (threshold : Level) (command : Command)
  | version
  | help
  | refused (error : UsageError)
deriving DecidableEq, Repr

/-- The options and plain texts of a command line, or the request that ends reading. -/
structure Given where
  /-- The options with their values, the last one first. -/
  options : List (CommandOption × String)
  /-- The plain texts, the last one first. -/
  texts : List String
deriving DecidableEq, Repr

namespace Given

/-- How often an option is given. -/
def count (g : Given) (o : CommandOption) : Nat :=
  (g.options.filter fun entry => entry.1 == o).length

/-- Whether an option is given. -/
def has (g : Given) (o : CommandOption) : Bool :=
  g.options.any fun entry => entry.1 == o

/-- The value of an option. -/
def value? (g : Given) (o : CommandOption) : Option String :=
  (g.options.find? fun entry => entry.1 == o).map Prod.snd

/-- Whether an option can have a value. -/
def admits (o : CommandOption) (value : String) : Bool :=
  match o with
  | .outFolder => !value.isEmpty
  | .indent => (Number.readNatural? value.toList).isSome
  | _ => true

/-- What is given after one more argument. Asking for the version or for help ends
    reading, as an error does. -/
def add (g : Given) : Argument → Except Request Given
  | .fault e => .error (.refused e)
  | .plain text => .ok { g with texts := text :: g.texts }
  | .option .version _ => .error .version
  | .option .help _ => .error .help
  | .option o value =>
    if !o.isCounted && g.has o then .error (.refused (.repeated o))
    else if !admits o value then .error (.refused (.invalidValue o value))
    else .ok { g with options := (o, value) :: g.options }

/-- What some texts give where some options are known. -/
def ofTexts (known : List CommandOption) (texts : List String) : Except Request Given :=
  (readArguments known texts).foldlM add ⟨[], []⟩

/-- Two options that exclude each other must not both be given. -/
def exclude (g : Given) (o other : CommandOption) : Except Request Unit :=
  if g.has o && g.has other then .error (.refused (.conflict o other)) else .ok ()

/-- The plain texts as inputs. None of them may be empty. -/
def inputs (g : Given) : Except Request (List Path) :=
  if g.texts.any String.isEmpty || g.texts.isEmpty then .error (.refused .missingInput)
  else .ok g.texts.reverse

/-- The only plain text as an input. -/
def input (g : Given) : Except Request Path := do
  match ← g.inputs with
  | [input] => return input
  | _ :: second :: _ => .error (.refused (.unexpectedText second))
  | [] => .error (.refused .missingInput)

/-- Where documents go. -/
def target (g : Given) : Target :=
  if g.has .console then .console
  else match g.value? .outFolder with
    | some folder => .folder folder
    | none => .beside

/-- How documents are laid out. -/
def style (g : Given) : Json.Style :=
  if g.has .compact then .compact
  else match (g.value? .indent).bind fun value => Number.readNatural? value.toList with
    | some n => .blanks n
    | none => .tabs

end Given

/-- The options about the log. -/
def logOptions : List CommandOption :=
  [.verbose, .quiet]

/-- The least urgent level that the log shows, by what is said before and after the
    name of the command. -/
def threshold (before after : Given) : Level :=
  if before.has .quiet || after.has .quiet then .error
  else
    match if after.has .verbose then after.count .verbose else before.count .verbose with
    | 0 => .warning
    | 1 => .information
    | _ => .detail

/-- The command of a name, with what stands after it. -/
def readCommand (name : String) (texts : List String) : Except Request (Given × Command) :=
  match name with
  | "convert" => do
    let g ← Given.ofTexts (logOptions ++ [.help, .outFolder, .console, .compact, .indent]) texts
    g.exclude .quiet .verbose
    g.exclude .outFolder .console
    g.exclude .compact .indent
    return (g, .convert (← g.inputs) g.target g.style)
  | "languages" => do
    let g ← Given.ofTexts (logOptions ++ [.help]) texts
    g.exclude .quiet .verbose
    return (g, .languages (← g.input))
  | "translate" => do
    let g ← Given.ofTexts (logOptions ++ [.help, .language]) texts
    g.exclude .quiet .verbose
    let input ← g.input
    match g.value? .language with
    | some language => return (g, .translate input language)
    | none => .error (.refused (.missingOption .language))
  | _ => .error (.refused (.unknownCommand name))

/-- The request for help, about a command if one is named. -/
def helpRequest : List String → Request
  | [] | ["help"] | ["convert"] | ["languages"] | ["translate"] => .help
  | name :: _ => .refused (.unknownCommand name)

/-- Whether a text is an option before the name of the command. -/
def leads (text : String) : Bool :=
  looksLikeOption text.toList && text != "--"

/-- The request of a command line, or the one that ended reading. -/
def readRequest (texts : List String) : Except Request Request := do
  let before ← Given.ofTexts (logOptions ++ [.help, .version]) (texts.takeWhile leads)
  match texts.dropWhile leads with
  | [] => .error (.refused .missingCommand)
  | "help" :: rest => return helpRequest rest
  | name :: rest =>
    let (after, command) ← readCommand name rest
    before.exclude .quiet .verbose
    return .run (threshold before after) command

/-- The request of a command line. -/
def Request.ofArguments (texts : List String) : Request :=
  match readRequest texts with
  | .ok request | .error request => request

end CommandLine

end Questionnaire
