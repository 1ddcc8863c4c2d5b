import HtmlTemplate.Dom.Node

/-!
# Notices

Reading and rendering a page never fail on what the page says; what was left out or repaired on the
way is reported as a list of `Notice` values. `Notice.line` is the one place that words them.
-/

namespace HtmlTemplate

/-- How far a page is laid out by the rules of old browsers. -/
inductive CompatMode where
  | noQuirks
  | limitedQuirks
  | quirks
  deriving DecidableEq

/-- The word for a mode in reports. -/
def CompatMode.word : CompatMode → String
  | .noQuirks => "NoQuirks"
  | .limitedQuirks => "LimitedQuirks"
  | .quirks => "Quirks"

/-- How urgent a notice is. -/
inductive Severity where
  | warning
  | debug
  deriving DecidableEq

/-- The word that starts the line of a notice. -/
def Severity.word : Severity → String
  | .warning => "WARN"
  | .debug => "DEBUG"

/-- Something worth telling about a page. -/
inductive Notice where
  /-- A node has no form in the template language and was left out. -/
  | skipped (id : NodeId) (kind : Kind)
  /-- A link names no node. -/
  | dangling (link : Link)
  /-- A rendering is complete, with the length of its text and the number of nodes left out. -/
  | rendered (bytes skipped : Nat)
  /-- A page asks for the rules of old browsers. -/
  | compatibility (mode : CompatMode)
  /-- The markup of a page was repaired. -/
  | repaired (faults : Nat)
  /-- A token was misplaced in a table. -/
  | misplaced
  /-- A page is not UTF-8 and was read in the encoding that it declares. -/
  | declaredEncoding (name : String)
  /-- A page is not UTF-8 and declares no known encoding. -/
  | defaultEncoding
  deriving DecidableEq

namespace Notice

/-- How urgent a notice is. -/
def severity : Notice → Severity
  | .skipped .. | .dangling .. | .misplaced => .warning
  | _ => .debug

/-- The number by which reports name a link; an absent link has the largest number of 32 bits. -/
def linkNumber (link : Link) : Nat :=
  link.getD 4294967295

/-- The wording of a notice. -/
def message : Notice → String
  | .skipped id kind => "skipping " ++ kind.word ++ " node " ++ toString id ++ ": no DSL equivalent"
  | .dangling link =>
    "skipping dangling node reference ArenaNodeId(" ++ toString (linkNumber link) ++ ")"
  | .rendered bytes omitted =>
    "serialized " ++ toString bytes ++ " bytes of DSL, skipped " ++ toString omitted ++ " nodes"
  | .compatibility mode => "document parsed in " ++ mode.word ++ " mode"
  | .repaired faults => "html parser recovered from " ++ toString faults ++ " markup errors"
  | .misplaced => "foster parenting not implemented"
  | .declaredEncoding name => "input is not UTF-8, decoding as " ++ name
  | .defaultEncoding => "input is not UTF-8 and declares no charset, decoding as windows-1252"

/-- A notice as one line of a report. -/
def line (notice : Notice) : String :=
  notice.severity.word ++ " " ++ notice.message

/-- The part of the program that a notice comes from, as reports name it. -/
def origin : Notice → String
  | .skipped .. | .dangling .. | .rendered .. => "tagscribe::dsl::serialize"
  | .compatibility .. | .repaired .. => "tagscribe::dom::tree_sink"
  | .misplaced => "html5ever::tree_builder"
  | .declaredEncoding .. | .defaultEncoding => "tagscribe::util"

/-- A warning as one line on the terminal. -/
def terminalLine (notice : Notice) : String :=
  "[WARN  " ++ notice.origin ++ "] " ++ notice.message ++ "\n"

/-- The warnings among notices, each on a line of its own. -/
def warnings (notices : List Notice) : String :=
  String.join ((notices.filter (·.severity = .warning)).map terminalLine)

end Notice

end HtmlTemplate
