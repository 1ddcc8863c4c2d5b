import HtmlTemplate.CommandLine.Options

/-!
# The command

`Command.run` converts a page as the options say: it reads the page, converts it and delivers the
result, in this order, and stops at the first of these that fails. Warnings about the page are
printed in any case, unless the options leave remarks out. How a page is converted is a parameter,
a `Converter`. What else it needs from the outside is a `Host`, whose files and streams may fail, so
the command can be run on real files as well as on a model of them. `Command.main` also answers
requests for help and the version.
-/

namespace HtmlTemplate.CommandLine

/-- Why a file or a stream cannot be read or written. -/
inductive FileError where
  | notFound
  | permissionDenied
  | notDirectory
  | isDirectory
  | nameTooLong
  | noSpace
  | brokenPipe
  /-- Any other reason, in the words of the system. -/
  | other (text : String)
  deriving DecidableEq

/-- The wording of an error, with its number. -/
def FileError.message : FileError → String
  | .notFound => "No such file or directory (os error 2)"
  | .permissionDenied => "Permission denied (os error 13)"
  | .notDirectory => "Not a directory (os error 20)"
  | .isDirectory => "Is a directory (os error 21)"
  | .nameTooLong => "File name too long (os error 36)"
  | .noSpace => "No space left on device (os error 28)"
  | .brokenPipe => "Broken pipe (os error 32)"
  | .other text => text

/-- Why the command fails. -/
inductive CommandError where
  | file (error : FileError)
  | conversion (error : ConversionError)
  deriving DecidableEq

/-- The wording of an error. -/
def CommandError.message : CommandError → String
  | .file error => "I/O error: " ++ error.message
  | .conversion error => error.message

/-- How the bytes of a page are converted, given the name of its root. -/
abbrev Converter := List UInt8 → String → Conversion

/-- Converts pages that are in one of the standard encodings. -/
def Converter.standard (eastern : Encoding.EastAsianDecoder := Encoding.asciiOnly) : Converter :=
  fun page root => (Page.ofBytes page eastern).convert root

/-- What the command needs from the outside. -/
structure Host (m : Type → Type) where
  /-- Reads standard input to its end. -/
  readInput : m (Except FileError (List UInt8))
  readFile : String → m (Except FileError (List UInt8))
  writeFile : String → List UInt8 → m (Except FileError Unit)
  /-- Prints a text on standard output, and sees to it that all of it is out. -/
  print : String → m (Except FileError Unit)

/-- How the command ends: its exit code and what it prints. -/
structure Outcome where
  code : Nat := 0
  /-- The text that is out. A text at which standard output failed may be out in part and is not
  counted. -/
  stdout : String := ""
  stderr : String := ""
  deriving DecidableEq

namespace Outcome

/-- The warnings among notices, unless they are to be left out. -/
def warnings (quiet : Bool) (notices : List Notice) : String :=
  if quiet then "" else Notice.warnings notices

/-- The end of a command that fails, with what it printed before. -/
def failure (warned : String) (error : CommandError) : Outcome :=
  { code := 1, stderr := warned ++ "error: " ++ error.message ++ "\n" }

/-- The remark on nodes that were left out. -/
def remark (quiet : Bool) (skipped : Nat) : String :=
  if quiet || skipped == 0 then ""
  else "note: " ++ toString skipped ++ " node(s) without a DSL form were left out\n"

end Outcome

namespace Command

variable {m : Type → Type} [Monad m]

/-- Reads the page. -/
def readPage (host : Host m) (input : String) : m (Except FileError (List UInt8)) :=
  if input = "-" then host.readInput else host.readFile input

/-- Delivers a result: to a file as it is, or to standard output with a line break behind it. Gives
what was printed. -/
def deliver (host : Host m) (output : Option String) (content : String) :
    m (Except FileError String) := do
  match output with
  | none => return (← host.print (content ++ "\n")).map fun _ => content ++ "\n"
  | some path => return (← host.writeFile path content.toByteArray.data.toList).map fun _ => ""

/-- Converts a page as the options say. -/
def run (host : Host m) (convert : Converter) (options : Options) : m Outcome := do
  match ← readPage host options.input with
  | .error error => return .failure "" (.file error)
  | .ok bytes =>
    let conversion := convert bytes options.root
    let warned := Outcome.warnings options.quiet conversion.notices
    match conversion.result with
    | .error error => return .failure warned (.conversion error)
    | .ok rendering =>
      match ← deliver host options.output rendering.content with
      | .error error => return .failure warned (.file error)
      | .ok stdout =>
        return { stdout,
                 stderr := warned ++ Outcome.remark options.quiet rendering.skipped.length }

/-- The name and the version of the command. -/
def versionText : String := "tagscribe 0.1.0\n"

/-- The help text. -/
def helpText : String :=
  "Convert an HTML page into templating DSL source\n\n" ++
  "Usage: tagscribe [OPTIONS] [INPUT]\n\n" ++
  "Arguments:\n" ++
  "  [INPUT]  Input HTML file, or - for stdin [default: -]\n\n" ++
  "Options:\n" ++
  "  -o, --output <OUTPUT>  Output file (defaults to stdout)\n" ++
  "  -r, --root <TAG>       Tag of the element to convert (first match in document order) " ++
    "[default: " ++ defaultRoot ++ "]\n" ++
  "  -q, --quiet            Suppress warnings about skipped nodes\n" ++
  "  -h, --help             Print help\n" ++
  "  -V, --version          Print version\n\n" ++
  "EXAMPLES:\n" ++
  "    tagscribe page.html                 Print DSL for the whole page\n" ++
  "    tagscribe page.html -o page.ml      Write DSL to a file\n" ++
  "    curl -s URL | tagscribe --root body Convert only the body\n"

/-- Prints a text that was asked for. The command succeeds even if standard output fails. -/
def answer (host : Host m) (text : String) : m Outcome := do
  match ← host.print text with
  | .ok () => return { stdout := text }
  | .error _ => return {}

/-- Does what the arguments ask for. -/
def main (host : Host m) (arguments : List String) : m Outcome :=
  match Request.ofArguments arguments with
  | .convert options => run host .standard options
  | .showHelp => answer host helpText
  | .showVersion => answer host versionText
  | .refuse misuse =>
    return { code := 2,
             stderr := "error: " ++ misuse.message ++ "\n\nFor more information, try '--help'.\n" }

end Command

end HtmlTemplate.CommandLine
