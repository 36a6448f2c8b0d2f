import DiagnosticReport.Decimal.Notation
import DiagnosticReport.Json.Coercion
import DiagnosticReport.Markup.Basic
import DiagnosticReport.Scalar

/-!
# Drawing

What the charts share: coordinates with two places, scores without any, and the canvas.
-/

namespace DiagnosticReport

/-- A coordinate with two places; a number that is not finite counts as 0, and no zero has a
sign. -/
def coordinate (x : Float) : String :=
  Decimal.fixedUnsignedZero 2 (if Binary64.isFinite x then x else 0.0)

/-- A score without a fractional part. -/
def roundedText (x : Float) : String :=
  formatNumber (Binary64.round x)

/-- The canvas of a chart with a body on it. -/
def canvas (width height : Float) (kind title : String) (body : Markup) : Markup :=
  let w := coordinate width
  let h := coordinate height
  .element .svg [(.styleClass, "chart " ++ kind), (.xmlns, "http://www.w3.org/2000/svg"),
    (.viewBox, "0 0 " ++ w ++ " " ++ h), (.width, w), (.height, h), (.role, "img"),
    (.ariaLabel, title)] body

/-- A text centred at a place, with further attributes before its colour. -/
def centeredText (x y size fill text : String) (more : List (Attribute × String)) : Markup :=
  .element .text ([(.x, x), (.y, y), (.textAnchor, "middle"), (.fontSize, size)] ++ more ++
    [(.fill, fill)]) (.text text)

end DiagnosticReport
