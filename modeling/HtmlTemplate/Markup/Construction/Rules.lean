import HtmlTemplate.Markup.Construction.Table

/-!
# Choosing the rules

`Build.rule` applies the rules of the mode in force to a token, and `Build.foreignRule` those of
foreign content, which hold inside elements of SVG and MathML. `Build.process` deals with a token
for good: it applies rules as long as the token is to be looked at again. Modes in which blank text
and other text differ get the two apart.
-/

namespace HtmlTemplate.Markup

namespace Build

/-- The rules in a template. The first tag tells what the template holds. -/
def inTemplateRule (token : Token) : Build Outcome := do
  let hold (mode : Mode) : Build Outcome := do
    modify fun c => { c with templateModes := mode :: c.templateModes.tail }
    retry mode token
  match token with
  | .startTag tag =>
    match tag.name with
    | "caption" | "colgroup" | "tbody" | "tfoot" | "thead" => hold .inTable
    | "col" => hold .inColumnGroup
    | "tr" => hold .inTableBody
    | "td" | "th" => hold .inRow
    | name => if headTags.contains name then headTagRule tag else hold .inBody
  | .endTag tag => if tag.name = "template" then templateEndRule else refuse
  | .endOfInput => templateEndOfInputRule
  | _ => inBodyRule token

/-- The rules behind the body. -/
def afterBodyRule (token : Token) : Build Outcome := do
  let other : Build Outcome := do
    fault
    retry .inBody token
  match token with
  | .text characters => if isBlankText characters then inBodyRule token else other
  | .comment text =>
    putCommentIn (← get).root? text
    return .done
  | .startTag tag => if tag.name = "html" then htmlTagRule tag else other
  | .endTag tag =>
    if tag.name = "html" then
      enter .afterAfterBody
      return .done
    else other
  | .endOfInput => return .done
  | _ => other

/-- The rules behind the `html` element. -/
def afterAfterBodyRule (token : Token) : Build Outcome := do
  let other : Build Outcome := do
    fault
    retry .inBody token
  match token with
  | .text characters => if isBlankText characters then inBodyRule token else other
  | .comment text =>
    putCommentIn (some Dom.document) text
    return .done
  | .startTag tag => if tag.name = "html" then htmlTagRule tag else other
  | .endOfInput => return .done
  | _ => other

/-- Deals with what is common to all modes of frames. -/
def framesRule (token : Token) : Build Outcome := do
  match token with
  | .text characters =>
    if isBlankText characters then
      putText characters
      return .done
    else refuse
  | .comment text =>
    putComment text
    return .done
  | .startTag tag =>
    match tag.name with
    | "html" => htmlTagRule tag
    | "noframes" => headTagRule tag
    | _ => refuse
  | .endOfInput => return .done
  | _ => refuse

/-- The rules among frames. -/
def inFramesetRule (token : Token) : Build Outcome := do
  match token with
  | .startTag tag =>
    match tag.name with
    | "frameset" => opened tag
    | "frame" => added tag
    | _ => framesRule token
  | .endTag tag =>
    if tag.name = "frameset" && 1 < (← get).stack.length then
      pop
      if ! (← get).currentIsIn (.html ["frameset"]) then enter .afterFrameset
      return .done
    else refuse
  | _ => framesRule token

/-- The rules behind the frames. -/
def afterFramesetRule (token : Token) : Build Outcome := do
  match token with
  | .endTag tag =>
    if tag.name = "html" then
      enter .afterAfterFrameset
      return .done
    else refuse
  | _ => framesRule token

/-- The rules behind the `html` element of a page with frames. -/
def afterAfterFramesetRule (token : Token) : Build Outcome := do
  match token with
  | .text characters => if isBlankText characters then inBodyRule token else refuse
  | .comment text =>
    putCommentIn (some Dom.document) text
    return .done
  | _ => framesRule token

/-- Applies the rules of a mode. -/
def rule (mode : Mode) (token : Token) : Build Outcome :=
  match mode with
  | .initial => initialRule token
  | .beforeHtml => beforeHtmlRule token
  | .beforeHead => beforeHeadRule token
  | .inHead => inHeadRule token
  | .afterHead => afterHeadRule token
  | .inBody => inBodyRule token
  | .text => textRule token
  | .inTable => inTableRule token
  | .inTableText => inTableTextRule token
  | .inCaption => inCaptionRule token
  | .inColumnGroup => inColumnGroupRule token
  | .inTableBody => inTableBodyRule token
  | .inRow => inRowRule token
  | .inCell => inCellRule token
  | .inTemplate => inTemplateRule token
  | .afterBody => afterBodyRule token
  | .inFrameset => inFramesetRule token
  | .afterFrameset => afterFramesetRule token
  | .afterAfterBody => afterAfterBodyRule token
  | .afterAfterFrameset => afterAfterFramesetRule token

/-- Ends foreign content for a tag of HTML, and applies the rules of the mode to it. -/
def breakOut (token : Token) : Build Outcome := do
  fault
  popTo fun name => name.space == .html || Group.mathText name || Group.svgHtml name
  rule (← get).mode token

/-- Deals with an end tag in foreign content, given the elements that are open further out. The
innermost element is closed that has the name up to case, but from the first HTML element outwards
the rules of the mode apply. -/
def foreignEndRule (tag : Tag) : List NodeId → Build Outcome
  | [] => return .done
  | [_] => return .done
  | id :: outer => do
    let c ← get
    let name := c.name id
    if name.space == .html then rule c.mode (.endTag tag)
    else if Ascii.sameLetters name.localName tag.name then
      modify fun c => { c with stack := outer }
      return .done
    else foreignEndRule tag outer

/-- The rules in foreign content. -/
def foreignRule (token : Token) : Build Outcome := do
  match token with
  | .null =>
    fault
    putText ['\ufffd']
    return .done
  | .text characters =>
    if ! isBlankText characters then forbidFrameset
    putText characters
    return .done
  | .comment text =>
    putComment text
    return .done
  | .startTag tag =>
    if Foreign.breaksOut tag then breakOut token
    else
      let c ← get
      let space := (c.stack.head?.map fun id => (c.name id).space).getD .html
      putForeign space tag
  | .endTag tag =>
    if tag.name = "br" || tag.name = "p" then breakOut token
    else foreignEndRule tag (← get).stack
  | .fault | .doctype _ | .endOfInput => return .done

end Build

namespace Construction

/-- Whether the innermost open element is one of foreign content. -/
def isForeign (c : Construction) : Bool :=
  c.stack.head?.any fun id => (c.name id).space != .html

/-- Whether the rules of foreign content hold for a token. -/
def treatsAsForeign (c : Construction) (token : Token) : Bool :=
  c.stack.head?.any fun id =>
    let name := c.name id
    name.space != .html &&
      match token with
      | .endOfInput => false
      | .text _ | .null => ! (Group.mathText name || Group.svgHtml name)
      | .startTag tag =>
        ! (Group.mathText name && ! ["mglyph", "malignmark"].contains tag.name ||
          Group.svgHtml name ||
          name.space == .mathMl && name.localName == "annotation-xml" && tag.name == "svg")
      | _ => true

end Construction

/-- Whether a mode gets blank text and other text apart. -/
def Mode.separatesBlanks : Mode → Bool
  | .initial | .beforeHtml | .beforeHead | .inHead | .afterHead | .inColumnGroup | .afterBody
  | .inFrameset | .afterFrameset | .afterAfterBody | .afterAfterFrameset => true
  | _ => false

namespace Build

/-- The blank or other text at the front of a text, and the rest. -/
def frontRun : List Char → List Char × List Char
  | [] => ([], [])
  | c :: rest => (c :: rest).span (Ascii.isBlank · == Ascii.isBlank c)

/-- Applies the rules that hold for a token once. What is left of a text comes behind it. -/
def step (token : Token) : Build (Outcome × List Token) := do
  let c ← get
  if c.treatsAsForeign token then return (← foreignRule token, [])
  else match token with
    | .text characters =>
      if c.mode.separatesBlanks then
        let (front, rest) := frontRun characters
        return (← rule c.mode (.text front), Lexer.textToken rest)
      else return (← rule c.mode token, [])
    | _ => return (← rule c.mode token, [])

/-- Deals with tokens, in at most as many steps as given. -/
def steps : Nat → List Token → Build Unit
  | 0, _ => return
  | _, [] => return
  | limit + 1, token :: tokens => do
    match ← step token with
    | (.done, rest) => steps limit (rest ++ tokens)
    | (.again token, rest) => steps limit (token :: rest ++ tokens)

/-- How often a token may have to be looked at: each time either a part of a text is done with, an
element is closed, or one of the few modes before the body is left. -/
def limitFor (token : Token) (c : Construction) : Nat :=
  match token with
  | .text characters => 8 * (characters.length + c.stack.length + 8)
  | _ => 8 * (c.stack.length + c.templateModes.length + 8)

/-- Deals with a token that is neither a declaration nor a fault. -/
def insert (token : Token) : Build Unit := do
  steps (limitFor token (← get)) [token]

/-- Deals with a token. -/
def process (token : Token) : Build Unit := do
  let dropped := (← get).dropLineFeed
  modify fun c => { c with dropLineFeed := false }
  match token with
  | .fault => fault
  | .doctype doctype => doctypeRule doctype
  | .text characters =>
    let kept := if dropped && characters.head? == some '\n' then characters.tail else characters
    if ! kept.isEmpty then insert (.text kept)
  | _ => insert token

end Build

end HtmlTemplate.Markup
