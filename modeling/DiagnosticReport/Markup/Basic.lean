import DiagnosticReport.Text.Escaped

/-!
# Markup

Reports are built as trees of elements and rendered once, in `Markup.render`. Tags and attributes
are closed types and every text is escaped where it is rendered, so no string of a recipe or a
document can open, close or change an element. Only `Markup.verbatim` is written as it stands; it
carries the fragment of a renderer that comes from outside.
-/

namespace DiagnosticReport

/-- The elements of a report. -/
inductive Tag where
  | aside
  /-- A section of the report. -/
  | block
  | circle
  | code
  | div
  | footer
  | g
  | h1
  | h2
  | h3
  | header
  | li
  | line
  | ol
  | p
  | path
  | rect
  | span
  | svg
  | table
  | tbody
  | td
  | text
  | th
  | thead
  | title
  | tr
  | ul
deriving DecidableEq

/-- The name of an element. -/
def Tag.name : Tag → String
  | aside => "aside"
  | block => "section"
  | circle => "circle"
  | code => "code"
  | div => "div"
  | footer => "footer"
  | g => "g"
  | h1 => "h1"
  | h2 => "h2"
  | h3 => "h3"
  | header => "header"
  | li => "li"
  | line => "line"
  | ol => "ol"
  | p => "p"
  | path => "path"
  | rect => "rect"
  | span => "span"
  | svg => "svg"
  | table => "table"
  | tbody => "tbody"
  | td => "td"
  | text => "text"
  | th => "th"
  | thead => "thead"
  | title => "title"
  | tr => "tr"
  | ul => "ul"

/-- The attributes of elements. -/
inductive Attribute where
  | ariaLabel
  | cx
  | cy
  | d
  | dataCount
  | dominantBaseline
  | fill
  | fillOpacity
  | fontSize
  | fontWeight
  | height
  | id
  | r
  | role
  | rx
  | stroke
  | strokeDasharray
  | strokeLinecap
  | strokeWidth
  | style
  | styleClass
  | textAnchor
  | viewBox
  | width
  | x
  | x1
  | x2
  | xmlns
  | y
  | y1
  | y2
deriving DecidableEq

/-- The name of an attribute. -/
def Attribute.name : Attribute → String
  | ariaLabel => "aria-label"
  | cx => "cx"
  | cy => "cy"
  | d => "d"
  | dataCount => "data-count"
  | dominantBaseline => "dominant-baseline"
  | fill => "fill"
  | fillOpacity => "fill-opacity"
  | fontSize => "font-size"
  | fontWeight => "font-weight"
  | height => "height"
  | id => "id"
  | r => "r"
  | role => "role"
  | rx => "rx"
  | stroke => "stroke"
  | strokeDasharray => "stroke-dasharray"
  | strokeLinecap => "stroke-linecap"
  | strokeWidth => "stroke-width"
  | style => "style"
  | styleClass => "class"
  | textAnchor => "text-anchor"
  | viewBox => "viewBox"
  | width => "width"
  | x => "x"
  | x1 => "x1"
  | x2 => "x2"
  | xmlns => "xmlns"
  | y => "y"
  | y1 => "y1"
  | y2 => "y2"

/-- A piece of markup. -/
inductive Markup where
  | empty
  | text (s : String)
  /-- A bullet between two pieces of text. -/
  | bullet
  /-- An element with a body between its tags. -/
  | element (tag : Tag) (attributes : List (Attribute × String)) (body : Markup)
  /-- An element that closes itself. -/
  | leaf (tag : Tag) (attributes : List (Attribute × String))
  | append (first second : Markup)
  /-- Markup that is already rendered. -/
  | verbatim (s : String)

namespace Markup

instance : Append Markup := ⟨append⟩

instance : EmptyCollection Markup := ⟨empty⟩

/-- Pieces of markup one after the other. -/
def concat (pieces : List Markup) : Markup :=
  pieces.foldr append empty

/-- Pieces of markup with another piece between them. -/
def join (between : Markup) : List Markup → Markup
  | [] => empty
  | [piece] => piece
  | piece :: rest => piece ++ between ++ join between rest

/-- A piece of markup that may be missing. -/
def optional : Option Markup → Markup
  | some piece => piece
  | none => empty

/-- An element of a style class. -/
def styled (tag : Tag) (styleClass : String) (body : Markup) : Markup :=
  element tag [(.styleClass, styleClass)] body

/-- An element without attributes. -/
def plain (tag : Tag) (body : Markup) : Markup :=
  element tag [] body

/-- The text of an attribute. -/
def renderAttribute (a : Attribute × String) : String :=
  " " ++ a.1.name ++ "=\"" ++ Text.escape a.2 ++ "\""

/-- The text of attributes. -/
def renderAttributes (attributes : List (Attribute × String)) : String :=
  String.join (attributes.map renderAttribute)

/-- The text of a piece of markup. -/
def render : Markup → String
  | empty => ""
  | text s => Text.escape s
  | bullet => "&bull;"
  | element tag attributes body =>
    "<" ++ tag.name ++ renderAttributes attributes ++ ">" ++ body.render ++ "</" ++ tag.name ++ ">"
  | leaf tag attributes => "<" ++ tag.name ++ renderAttributes attributes ++ "/>"
  | append first second => first.render ++ second.render
  | verbatim s => s

end Markup

end DiagnosticReport
