/-!
# Text in markup

The five characters with a meaning in markup are written as entities, so a text can stand in an
element and in a quoted attribute. They are replaced one after the other, each in the whole text,
and the ampersand first: every entity begins with it.
-/

namespace DiagnosticReport.Text

/-- The characters with a meaning in markup and their entities, in the order of replacement. -/
def entities : List (Char × List Char) :=
  [('&', ['&', 'a', 'm', 'p', ';']),
    ('<', ['&', 'l', 't', ';']),
    ('>', ['&', 'g', 't', ';']),
    ('"', ['&', 'q', 'u', 'o', 't', ';']),
    ('\'', ['&', '#', '3', '9', ';'])]

/-- A text with each occurrence of a character replaced. -/
def replaceChar (c : Char) (replacement : List Char) (cs : List Char) : List Char :=
  cs.flatMap fun x => if x = c then replacement else [x]

/-- A text with all replacements of a table, one after the other. -/
def replaceChars (table : List (Char × List Char)) (cs : List Char) : List Char :=
  table.foldl (fun cs (c, replacement) => replaceChar c replacement cs) cs

/-- A text with entities for the characters that have a meaning in markup. -/
def escape (s : String) : String :=
  String.ofList (replaceChars entities s.toList)

end DiagnosticReport.Text
