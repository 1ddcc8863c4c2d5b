import HtmlTemplate.Markup.Construction

/-!
# Formatting elements

A formatting element, such as `b`, that is cut off by the end of another element is opened again for
the text that follows (`Build.reopenFormatting`), and its end tag may come when blocks inside it are
still open (`Build.adopt`).
-/

namespace HtmlTemplate.Markup.Build

/-- Whether a formatting entry bounds what is to be opened again. -/
def standsOpen (c : Construction) : Option Formatting → Bool
  | none => true
  | some entry => c.stack.contains entry.id

/-- Opens formatting elements anew, in order, and gives their entries, latest first. -/
def reopen : List Formatting → List (Option Formatting) → Build (List (Option Formatting))
  | [], entries => return entries
  | entry :: rest, entries => do
    let id ← openFor entry.tag
    reopen rest (some { entry with id } :: entries)

/-- Opens the latest formatting elements again that are not open any more. -/
def reopenFormatting : Build Unit := do
  let c ← get
  let (lost, kept) := c.formatting.span (! standsOpen c ·)
  let entries ← reopen (lost.reverse.filterMap id) kept
  modify fun c => { c with formatting := entries }

/-- Opens a formatting element. Of equal elements that were opened since the last marker at most the
latest two are kept beside it. -/
def openFormatting (tag : Tag) : Build Outcome := do
  let equals := (← get).recentFormatting.filter (tag.sameElement ·.tag)
  if 3 ≤ equals.length then
    if let some earliest := equals.getLast? then removeFormatting earliest.id
  let id ← openFor tag
  modify fun c => { c with formatting := some { id, tag } :: c.formatting }
  return .done

/-- Opens a formatting element behind those that are opened again. -/
def reopenAndFormat (tag : Tag) : Build Outcome := do
  reopenFormatting
  openFormatting tag

/-- Closes the element of a name unless a special element stands before it. -/
def closeOrdinary (name : String) : Build Unit := do
  let c ← get
  match c.stack.find? fun id => c.isIn (.html [name]) id || c.isIn .special id with
  | none => fault
  | some id =>
    if c.isIn (.html [name]) id then
      impliedEndExcept [name]
      modify fun c => { c with stack := (c.stack.dropWhile (· != id)).tail }
    else fault

/-- Replaces the formatting entry of an element. -/
def replaceFormatting (id : NodeId) (entry : Formatting) : Build Unit :=
  modify fun c => { c with
    formatting := c.formatting.map fun old => if old.any (·.id == id) then some entry else old }

/-- Puts a formatting entry right behind that of an element. -/
def insertFormattingBehind (id : NodeId) (entry : Formatting) : Build Unit :=
  modify fun c => { c with
    formatting := c.formatting.flatMap fun old =>
      if old.any (·.id == id) then [some entry, old] else [old] }

/-- A step of an adoption, outwards from the block to the formatting element. -/
structure Adoption where
  /-- The node to be moved into the next formatting element. -/
  last : NodeId
  /-- The elements that stay open between the block and the formatting element, innermost first. -/
  kept : List NodeId := []
  /-- The innermost formatting element that was made anew. -/
  behind : Option NodeId := none

/-- Makes the formatting elements between the block and the formatting element anew, each around
what comes from further inside. At most three are kept; other elements are closed. -/
def adoptBetween : Nat → List NodeId → Adoption → Build Adoption
  | _, [], state => return state
  | count, node :: outer, state => do
    match (← get).formatting? node with
    | none => adoptBetween (count + 1) outer state
    | some entry =>
      if 3 < count then
        removeFormatting node
        adoptBetween (count + 1) outer state
      else
        let id ← create (.element (.html entry.tag.name) (attributesOf entry.tag))
        replaceFormatting node { entry with id }
        detach state.last
        putAt (.inside (some id)) (.node (some state.last))
        adoptBetween (count + 1) outer
          { last := id, kept := id :: state.kept, behind := state.behind.or (some id) }

/-- Moves the block, with what surrounds it, out of the formatting element, and puts a copy of
the formatting element around the contents of the block. The open elements are given by their
parts: those inside the block, the block, those between it and the formatting element, and those
outside. -/
def adoptBlock (entry : Formatting) (inner : List NodeId) (block : NodeId)
    (between outer : List NodeId) : Build Unit := do
  let state ← adoptBetween 1 between { last := block }
  detach state.last
  putAt (← placeIn outer.head?) (.node (some state.last))
  let copy ← create (.element (.html entry.tag.name) (attributesOf entry.tag))
  modify fun c => { c with draft := c.draft.reparentChildren (some block) (some copy) }
  putAt (.inside (some block)) (.node (some copy))
  match state.behind with
  | none => replaceFormatting entry.id { entry with id := copy }
  | some id =>
    insertFormattingBehind id { entry with id := copy }
    removeFormatting entry.id
  modify fun c => { c with stack := inner ++ copy :: block :: state.kept.reverse ++ outer }

/-- Closes the latest formatting element of a name, in at most the given number of rounds. -/
def adoptRounds (name : String) : Nat → Build Unit
  | 0 => return
  | rounds + 1 => do
    let c ← get
    match c.recentFormatting.find? (·.tag.name == name) with
    | none => closeOrdinary name
    | some entry =>
      if ! c.stack.contains entry.id then
        fault
        removeFormatting entry.id
      else if ! c.inScopeSuch .scope (· == entry.id) then fault
      else
        let (inside, outside) := c.stack.span (· != entry.id)
        let outer := outside.tail
        -- The outermost special element inside the formatting element is the block.
        let (between, blocks) := inside.reverse.span (! c.isIn .special ·)
        match blocks with
        | [] =>
          modify fun c => { c with stack := outer }
          removeFormatting entry.id
        | block :: inner =>
          adoptBlock entry inner.reverse block between.reverse outer
          adoptRounds name rounds

/-- Closes a formatting element whose end tag came. -/
def adopt (name : String) : Build Unit := do
  let c ← get
  match c.stack.head? with
  | some id =>
    if c.isIn (.html [name]) id && (c.formatting? id).isNone then pop
    else adoptRounds name 8
  | none => return

/-- Closes a link that is open when another one starts. -/
def closeLink : Build Unit := do
  let c ← get
  match c.recentFormatting.find? fun entry => c.isIn (.html ["a"]) entry.id with
  | none => return
  | some entry =>
    fault
    adopt "a"
    removeFormatting entry.id
    removeOpen entry.id

end HtmlTemplate.Markup.Build
