import HtmlTemplate.Markup.Construction.Body

/-!
# Rules in tables

The rules for tables and their parts. What has no place in a table is dealt with by the rules of the
body, and put before the table. The text of a table is collected first, since it is misplaced as a
whole if any of it is not blank.
-/

namespace HtmlTemplate.Markup.Build

/-- Deals with a token by the rules of the body, and puts what is misplaced before the table. -/
def foster (token : Token) : Build Outcome := do
  modify fun c => { c with fostering := true, misplaced := c.misplaced + 1 }
  let outcome ← inBodyRule token
  modify fun c => { c with fostering := false }
  return outcome

/-- Deals with text in a table. -/
def tableTextRule (token : Token) : Build Outcome := do
  let c ← get
  if c.currentIsIn .tableParts then
    modify fun c => { c with returnMode := c.mode }
    retry .inTableText token
  else
    fault
    foster token

/-- The rules for start tags in a table. -/
def tableStartRule (tag : Tag) : Build Outcome := do
  let token := Token.startTag tag
  match tag.name with
  | "caption" =>
    popTo .tableScope
    putMarker
    enter .inCaption
    opened tag
  | "colgroup" =>
    popTo .tableScope
    enter .inColumnGroup
    opened tag
  | "col" =>
    popTo .tableScope
    let _ ← openImplied "colgroup"
    retry .inColumnGroup token
  | "tbody" | "tfoot" | "thead" =>
    popTo .tableScope
    enter .inTableBody
    opened tag
  | "td" | "th" | "tr" =>
    popTo .tableScope
    let _ ← openImplied "tbody"
    retry .inTableBody token
  | "table" =>
    fault
    if (← get).inScope .tableScope ["table"] then
      popThrough (.html ["table"])
      resetMode
      return .again token
    else return .done
  | "style" | "script" | "template" => headTagRule tag
  | "input" =>
    fault
    if isHiddenInput tag then added tag else foster token
  | "form" =>
    fault
    let c ← get
    if c.inTemplate || c.form.isSome then return .done
    else
      let id ← putFor tag
      modify fun c => { c with form := some id }
      return .done
  | _ =>
    fault
    foster token

/-- The end tags that have no place in a table. -/
def tableStrayEnds : List String :=
  ["body", "caption", "col", "colgroup", "html", "tbody", "td", "tfoot", "th", "thead", "tr"]

/-- The rules in a table. -/
def inTableRule (token : Token) : Build Outcome := do
  match token with
  | .text _ | .null => tableTextRule token
  | .comment text =>
    putComment text
    return .done
  | .startTag tag => tableStartRule tag
  | .endTag tag =>
    if tag.name = "table" then
      if (← get).inScope .tableScope ["table"] then
        popThrough (.html ["table"])
        resetMode
        return .done
      else refuse
    else if tag.name = "template" then templateEndRule
    else if tableStrayEnds.contains tag.name then refuse
    else
      fault
      foster token
  | .endOfInput => inBodyRule token
  | .fault | .doctype _ => refuse

/-- Puts the runs of text that were collected in a table before it, each by itself. -/
def fosterText : List (List Char) → Build Unit
  | [] => return
  | run :: runs => do
    let _ ← foster (.text run)
    fosterText runs

/-- Adds the runs of text that were collected in a table. -/
def putRuns : List (List Char) → Build Unit
  | [] => return
  | run :: runs => do
    putText run
    putRuns runs

/-- The rules while the text of a table is collected. -/
def inTableTextRule (token : Token) : Build Outcome := do
  match token with
  | .null => refuse
  | .text characters =>
    modify fun c => { c with tableText := characters :: c.tableText }
    return .done
  | _ =>
    let runs := (← get).tableText.reverse
    modify fun c => { c with tableText := [] }
    if runs.all isBlankText then putRuns runs
    else
      fault
      fosterText runs
    modify fun c => { c with mode := c.returnMode }
    return .again token

/-- The tags that end a caption, a cell or a row from outside. -/
def tableStructureTags : List String :=
  ["caption", "col", "colgroup", "tbody", "td", "tfoot", "th", "thead", "tr"]

/-- Ends the caption that is open. -/
def endCaption (next : Build Outcome) : Build Outcome := do
  if (← get).inScope .tableScope ["caption"] then
    close "caption"
    dropToMarker
    enter .inTable
    next
  else refuse

/-- The rules in a caption. -/
def inCaptionRule (token : Token) : Build Outcome :=
  match token with
  | .startTag tag =>
    if tableStructureTags.contains tag.name then endCaption (return .again token)
    else inBodyRule token
  | .endTag tag =>
    if tag.name = "caption" then endCaption (return .done)
    else if tag.name = "table" then endCaption (return .again token)
    else if tableStrayEnds.contains tag.name then refuse
    else inBodyRule token
  | _ => inBodyRule token

/-- The rules in a group of columns. -/
def inColumnGroupRule (token : Token) : Build Outcome := do
  let ended (outcome : Outcome) : Build Outcome := do
    if (← get).currentIsIn (.html ["colgroup"]) then
      pop
      enter .inTable
      return outcome
    else refuse
  match token with
  | .text characters =>
    if isBlankText characters then
      putText characters
      return .done
    else ended (.again token)
  | .comment text =>
    putComment text
    return .done
  | .startTag tag =>
    match tag.name with
    | "html" => htmlTagRule tag
    | "col" => added tag
    | "template" => templateRule tag
    | _ => ended (.again token)
  | .endTag tag =>
    match tag.name with
    | "colgroup" => ended .done
    | "col" => refuse
    | "template" => templateEndRule
    | _ => ended (.again token)
  | .endOfInput => inBodyRule token
  | _ => ended (.again token)

/-- The rules among rows. -/
def inTableBodyRule (token : Token) : Build Outcome := do
  let ended (outcome : Outcome) : Build Outcome := do
    popTo .rowsContext
    pop
    enter .inTable
    return outcome
  let endedOutside : Build Outcome := do
    if (← get).inScope .tableScope ["table", "tbody", "tfoot"] then ended (.again token)
    else refuse
  match token with
  | .startTag tag =>
    match tag.name with
    | "tr" =>
      popTo .rowsContext
      enter .inRow
      opened tag
    | "th" | "td" =>
      fault
      popTo .rowsContext
      let _ ← openImplied "tr"
      retry .inRow token
    | "caption" | "col" | "colgroup" | "tbody" | "tfoot" | "thead" => endedOutside
    | _ => inTableRule token
  | .endTag tag =>
    match tag.name with
    | "tbody" | "tfoot" | "thead" =>
      if (← get).inScope .tableScope [tag.name] then ended .done else refuse
    | "table" => endedOutside
    | "body" | "caption" | "col" | "colgroup" | "html" | "td" | "th" | "tr" => refuse
    | _ => inTableRule token
  | _ => inTableRule token

/-- The rules in a row. -/
def inRowRule (token : Token) : Build Outcome := do
  let ended (outcome : Outcome) : Build Outcome := do
    if (← get).inScope .tableScope ["tr"] then
      popTo .cellsContext
      pop
      enter .inTableBody
      return outcome
    else refuse
  match token with
  | .startTag tag =>
    match tag.name with
    | "th" | "td" =>
      popTo .cellsContext
      putMarker
      enter .inCell
      opened tag
    | "caption" | "col" | "colgroup" | "tbody" | "tfoot" | "thead" | "tr" => ended (.again token)
    | _ => inTableRule token
  | .endTag tag =>
    match tag.name with
    | "tr" => ended .done
    | "table" => ended (.again token)
    | "tbody" | "tfoot" | "thead" =>
      if (← get).inScope .tableScope [tag.name] then ended (.again token) else refuse
    | "body" | "caption" | "col" | "colgroup" | "html" | "td" | "th" => refuse
    | _ => inTableRule token
  | _ => inTableRule token

/-- The rules in a cell. -/
def inCellRule (token : Token) : Build Outcome := do
  let endCell : Build Unit := do
    impliedEndExcept []
    popThrough .cell
    dropToMarker
    enter .inRow
  match token with
  | .startTag tag =>
    if tableStructureTags.contains tag.name then
      if (← get).inScope .tableScope ["td", "th"] then
        endCell
        return .again token
      else refuse
    else inBodyRule token
  | .endTag tag =>
    match tag.name with
    | "td" | "th" =>
      if (← get).inScope .tableScope [tag.name] then
        close tag.name
        dropToMarker
        enter .inRow
        return .done
      else refuse
    | "body" | "caption" | "col" | "colgroup" | "html" => refuse
    | "table" | "tbody" | "tfoot" | "thead" | "tr" =>
      if (← get).inScope .tableScope [tag.name] then
        endCell
        return .again token
      else refuse
    | _ => inBodyRule token
  | _ => inBodyRule token

end HtmlTemplate.Markup.Build
