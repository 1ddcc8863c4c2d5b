import HtmlTemplate.Conversion

/-!
# Command line options

`Request.ofArguments` reads the arguments of the command. Options may be written in a long form with
the value behind an equals sign or as the next argument, or in a short form, where several may share
one hyphen and a value follows at once or as the next argument. The first argument that asks for the
help text or the version, or that is wrong, decides.
-/

namespace HtmlTemplate.CommandLine

/-- What a conversion is asked to do. -/
structure Options where
  /-- The page, or `-` for standard input. -/
  input : String := "-"
  /-- Where the result goes, if not to standard output. -/
  output : Option String := none
  /-- The element to convert. -/
  root : String := defaultRoot
  /-- Whether remarks are left out. -/
  quiet : Bool := false
  deriving DecidableEq

/-- What is wrong with the arguments. -/
inductive Misuse where
  | unknownOption (argument : String)
  | missingValue (option : String)
  | unexpectedValue (option : String)
  | repeated (option : String)
  | unexpectedArgument (argument : String)
  deriving DecidableEq

/-- The wording of what is wrong. -/
def Misuse.message : Misuse → String
  | .unknownOption argument => "unexpected argument '" ++ argument ++ "' found"
  | .missingValue option => "a value is required for '" ++ option ++ "' but none was supplied"
  | .unexpectedValue option => "unexpected value for '" ++ option ++ "' found"
  | .repeated option => "the argument '" ++ option ++ "' cannot be used multiple times"
  | .unexpectedArgument argument => "unexpected argument '" ++ argument ++ "' found"

/-- What the arguments ask for. -/
inductive Request where
  | convert (options : Options)
  | showHelp
  | showVersion
  | refuse (misuse : Misuse)
  deriving DecidableEq

namespace Request

/-- The arguments read so far. -/
structure Given where
  input : Option String := none
  output : Option String := none
  root : Option String := none
  quiet : Bool := false

/-- The options that the arguments give, and the defaults of the others. -/
def Given.options (given : Given) : Options :=
  { input := given.input.getD "-", output := given.output, root := given.root.getD defaultRoot,
    quiet := given.quiet }

/-- The options that take a value. -/
inductive Valued where
  | output
  | root

/-- The long form of an option. -/
def Valued.text : Valued → String
  | .output => "--output"
  | .root => "--root"

/-- How an argument was read. -/
inductive Step where
  | next (given : Given)
  /-- The next argument is the value of an option. -/
  | value (option : Valued) (given : Given)
  | stop (request : Request)

/-- Sets an option, which may be done once. -/
def setValue (given : Given) (option : Valued) (value : String) : Step :=
  match option with
  | .output =>
    if given.output.isSome then .stop (.refuse (.repeated option.text))
    else .next { given with output := some value }
  | .root =>
    if given.root.isSome then .stop (.refuse (.repeated option.text))
    else .next { given with root := some value }

/-- Sets the option that leaves remarks out, which may be done once. -/
def setQuiet (given : Given) : Step :=
  if given.quiet then .stop (.refuse (.repeated "--quiet"))
  else .next { given with quiet := true }

/-- Sets the page, which may be done once. -/
def setInput (given : Given) (argument : String) : Step :=
  if given.input.isSome then .stop (.refuse (.unexpectedArgument argument))
  else .next { given with input := some argument }

/-- Reads an option with two hyphens, given its name and the value behind an equals sign. -/
def readLong (given : Given) (argument name : String) (value : Option String) : Step :=
  let flag (step : Step) : Step :=
    if value.isSome then .stop (.refuse (.unexpectedValue argument)) else step
  let valued (option : Valued) : Step :=
    match value with
    | some value => setValue given option value
    | none => .value option given
  match name with
  | "output" => valued .output
  | "root" => valued .root
  | "quiet" => flag (setQuiet given)
  | "help" => flag (.stop .showHelp)
  | "version" => flag (.stop .showVersion)
  | _ => .stop (.refuse (.unknownOption argument))

/-- Reads the options that share a hyphen. -/
def readShort (given : Given) : List Char → Step
  | [] => .next given
  | 'q' :: letters =>
    if given.quiet then setQuiet given else readShort { given with quiet := true } letters
  | 'h' :: _ => .stop .showHelp
  | 'V' :: _ => .stop .showVersion
  | 'o' :: letters => valued .output letters
  | 'r' :: letters => valued .root letters
  | letter :: _ => .stop (.refuse (.unknownOption (String.ofList ['-', letter])))
where
  /-- Reads the value that follows a letter, if it does. -/
  valued (option : Valued) : List Char → Step
    | [] => .value option given
    | '=' :: value => setValue given option (String.ofList value)
    | value => setValue given option (String.ofList value)

/-- Whether an argument is written like an option. -/
def looksLikeOption (argument : String) : Bool :=
  argument.toList.head? == some '-' && argument != "-"

/-- Reads an argument. -/
def readArgument (given : Given) (argument : String) : Step :=
  match argument.toList with
  | '-' :: '-' :: text =>
    let (name, value) := text.span (· ≠ '=')
    readLong given argument (String.ofList name)
      (if value.isEmpty then none else some (String.ofList value.tail))
  | '-' :: letter :: letters => readShort given (letter :: letters)
  | _ => setInput given argument

/-- Reads the arguments behind `--`, none of which is an option. -/
def readPlain (given : Given) : List String → Request
  | [] => .convert given.options
  | argument :: arguments =>
    match setInput given argument with
    | .next given => readPlain given arguments
    | .value option _ => .refuse (.missingValue option.text)
    | .stop request => request

/-- Reads arguments in order. -/
def readArguments (given : Given) : List String → Request
  | [] => .convert given.options
  | argument :: arguments =>
    if argument = "--" then readPlain given arguments
    else match readArgument given argument with
      | .next given => readArguments given arguments
      | .stop request => request
      | .value option given =>
        match arguments with
        | [] => .refuse (.missingValue option.text)
        | value :: arguments =>
          if looksLikeOption value then .refuse (.missingValue option.text)
          else match setValue given option value with
            | .next given => readArguments given arguments
            | .value option _ => .refuse (.missingValue option.text)
            | .stop request => request

/-- What the arguments of the command ask for. -/
def ofArguments (arguments : List String) : Request :=
  readArguments {} arguments

end Request

end HtmlTemplate.CommandLine
