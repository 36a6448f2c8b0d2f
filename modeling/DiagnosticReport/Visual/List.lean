import DiagnosticReport.Visual.Basic
import DiagnosticReport.Visual.Item

/-!
# Lists

Bullet lists, numbered lists and checklists.
-/

namespace DiagnosticReport.Visual

/-! ## Plain lists -/

/-- The proses of the items, without blank ones. -/
def listTexts (bindings : Bindings) (s : Section) : List String :=
  ((Item.shown s bindings.primary?).map (Item.prose s)).filter fun text => !Text.isAllBlank text

/-- A list of texts. -/
def listOf (tag : Tag) (styleClass : String) (texts : List String) : Markup :=
  .styled tag styleClass (.concat (texts.map fun text => .plain .li (.text text)))

/-- A list with bullets. -/
def drawBulletList : Drawing := fun bindings s _ =>
  orEmptyState "No items" (listTexts bindings s) (listOf .ul "bullet-list")

/-- A list with numbers. -/
def drawNumberedList : Drawing := fun bindings s _ =>
  orEmptyState "No items" (listTexts bindings s) (listOf .ol "numbered-list")

/-! ## Checklists -/

/-- The words that mark an item as done. -/
def doneWords : List String :=
  ["done", "complete", "completed", "yes", "true"]

/-- The item is done, by the field that the section names. -/
def isDone (s : Section) (item : Json) : Bool :=
  match item.get? ((s.textOption? "checked_field").getD "completed") with
  | some (.bool b) => b
  | some (.string word) => doneWords.contains (Text.lowerAscii word)
  | _ => false

/-- The record is one item with steps: it holds no other list of items, and the section names
none. -/
def isItemWithSteps (s : Section) (record : Json) : Bool :=
  record.isObject && (record.arrayAt? "action_steps").isSome &&
    !((Item.nestedFields.filter (· != "action_steps")).any fun field =>
      (record.arrayAt? field).isSome) &&
    (s.textOption? "items_field").isNone

/-- The items of a checklist. -/
def checklistItems (s : Section) (value : Option Json) : List Json :=
  match value with
  | some record => if isItemWithSteps s record then [record] else Item.all s value
  | .none => []

/-- The mark of an item. -/
def checkMark (isDone : Bool) : String :=
  if isDone then "☑" else "☐"

/-- A mark and a text. -/
def checkLine (mark text : String) : Markup :=
  .styled .span "check" (.text mark) ++ .text (" " ++ text)

/-- The steps of an item, with the mark of the item. -/
def checkSteps (s : Section) (mark : String) (steps : List Json) : Markup :=
  .styled .ul "checklist-steps"
    (.concat (steps.map fun step => .plain .li (checkLine mark (Item.prose s step))))

/-- An item of a checklist, unless its text is blank. An item with steps shows its label. -/
def checkItem? (s : Section) (item : Json) : Option Markup :=
  let isDone := isDone s item
  let mark := checkMark isDone
  let steps := item.arrayAt? "action_steps"
  let text := if steps.isSome then Item.label s item else Item.prose s item
  if Text.isAllBlank text then .none
  else
    some (.styled .li (if isDone then "checklist-item checked" else "checklist-item")
      (checkLine mark text ++ .optional (steps.map (checkSteps s mark))))

/-- A checklist. -/
def drawChecklist : Drawing := fun bindings s _ =>
  let items := Item.limit s (checklistItems s bindings.primary?)
  orEmptyState "No items" (items.filterMap (checkItem? s))
    fun pieces => .styled .ul "checklist" (.concat pieces)

end DiagnosticReport.Visual
