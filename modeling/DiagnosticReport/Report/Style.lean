import DiagnosticReport.Recipe.Basic

/-!
# Style rules

A stylesheet is a list of chapters, each a comment with groups of rules under it; all rules of a
chapter may be bound to a kind of medium. Braces are written here alone, so they balance.
-/

namespace DiagnosticReport.Style

/-- A style rule: a selector with declarations of properties. -/
structure Rule where
  selector : String
  declarations : List (String × String)
  /-- The rule stands on one line. -/
  compact : Bool

/-- A rule with each declaration on a line of its own. -/
def block (selector : String) (declarations : List (String × String)) : Rule :=
  ⟨selector, declarations, false⟩

/-- A rule on one line. -/
def line (selector : String) (declarations : List (String × String)) : Rule :=
  ⟨selector, declarations, true⟩

/-- A part of a stylesheet. -/
structure Chapter where
  title : String
  media : Option String := none
  groups : List (List Rule)

/-- The text of a declaration. -/
def renderDeclaration (d : String × String) : String :=
  d.1 ++ ": " ++ d.2 ++ ";"

/-- The text of a rule, its lines indented. -/
def Rule.render (indent : String) (rule : Rule) : String :=
  if rule.compact then
    indent ++ rule.selector ++ " \x7b " ++
      String.intercalate " " (rule.declarations.map renderDeclaration) ++ " \x7d\n"
  else
    indent ++ rule.selector ++ " \x7b\n" ++
      String.join (rule.declarations.map fun d =>
        indent ++ "    " ++ renderDeclaration d ++ "\n") ++
      indent ++ "\x7d\n"

/-- The text of groups of rules, with a blank line between them. -/
def renderGroups (indent : String) (groups : List (List Rule)) : String :=
  String.intercalate "\n" (groups.map fun rules => String.join (rules.map (Rule.render indent)))

/-- The text of a chapter. -/
def Chapter.render (chapter : Chapter) : String :=
  "/* " ++ chapter.title ++ " */\n" ++
  match chapter.media with
  | some media =>
    "@media " ++ media ++ " \x7b\n" ++ renderGroups "    " chapter.groups ++ "\x7d\n"
  | none => renderGroups "" chapter.groups

/-- The text of chapters, each after a blank line. -/
def renderChapters (chapters : List Chapter) : String :=
  String.join (chapters.map fun chapter => "\n" ++ chapter.render)

/-- The character could end a declaration or the style element. -/
def isUnsafe (c : Char) : Bool :=
  c == '<' || c == '>' || c == '\x7b' || c == '\x7d' || c == ';' || c == '\\'

/-- A value from outside, without the characters that could end its declaration. -/
def value (raw : String) : String :=
  String.ofList (raw.toList.filter fun c => !isUnsafe c)

end DiagnosticReport.Style
