import HtmlTemplate.Markup.Lexer.Tag

/-!
# Reading the text of elements without markup

Inside elements such as `title`, `style` and `script` only the end tag of the element itself is
markup. `Lexer.splitRaw` splits the source before that end tag, and `Lexer.splitScript` does so for
scripts, where an end tag may be hidden in a comment that holds a start tag of a script.
-/

namespace HtmlTemplate.Markup.Lexer

/-- Whether the source starts with `name`, up to the case of letters, as the name of a tag. -/
def startsWithName (name : List Char) (source : List Char) : Bool :=
  (afterWord? name source).any fun rest => rest.head?.any endsName

/-- Whether the source, which follows a `<`, starts the end tag of the element `name`. -/
def startsEndTag (name : List Char) : List Char → Bool
  | '/' :: rest => startsWithName name rest
  | _ => false

/-- The source before the `<` of the end tag of `name`, with what precedes in reverse, and the
source from the end tag's name on. -/
def splitRaw (name before : List Char) : List Char → List Char × Option (List Char)
  | [] => (before.reverse, none)
  | c :: rest =>
    if c = '<' ∧ startsEndTag name rest then (before.reverse, some (rest.drop 1))
    else splitRaw name (c :: before) rest

/-- How deep a place in a script is hidden. The number counts the hyphens right before, up to
two. -/
inductive Hiding where
  | open
  /-- Behind `<!--`. -/
  | comment (hyphens : Nat)
  /-- Behind `<!--` and a start tag of a script; end tags do not end the script here. -/
  | nested (hyphens : Nat)
  deriving DecidableEq

namespace Hiding

/-- How a place is hidden behind another character, which is not `<`. -/
def next (place : Hiding) (c : Char) : Hiding :=
  match place with
  | «open» => «open»
  | comment hyphens =>
    if c = '-' then comment (min 2 (hyphens + 1))
    else if c = '>' ∧ hyphens = 2 then «open»
    else comment 0
  | nested hyphens =>
    if c = '-' then nested (min 2 (hyphens + 1))
    else if c = '>' ∧ hyphens = 2 then «open»
    else nested 0

/-- How a place is hidden behind a `<`, before the given rest. -/
def nextLess (place : Hiding) (name rest : List Char) : Hiding :=
  match place with
  | «open» => if "!--".toList.isPrefixOf rest then comment 0 else «open»
  | comment _ => if startsWithName name rest then nested 0 else comment 0
  | nested _ => if startsEndTag name rest then comment 0 else nested 0

/-- Whether end tags count here. -/
def seesEndTags : Hiding → Bool
  | nested _ => false
  | _ => true

end Hiding

/-- Like `splitRaw`, for a script. -/
def splitScript (name : List Char) (place : Hiding) (before : List Char) :
    List Char → List Char × Option (List Char)
  | [] => (before.reverse, none)
  | c :: rest =>
    if c = '<' then
      if place.seesEndTags && startsEndTag name rest then (before.reverse, some (rest.drop 1))
      else splitScript name (place.nextLess name rest) (c :: before) rest
    else splitScript name (place.next c) (c :: before) rest

end HtmlTemplate.Markup.Lexer
