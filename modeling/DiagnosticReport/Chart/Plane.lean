import DiagnosticReport.Scalar

/-!
# Points of the plane

Points in drawing coordinates, where `y` points down and angles turn clockwise.
-/

namespace DiagnosticReport

/-- A labelled number of a series. -/
structure Datum (α : Type) where
  label : String
  value : α

/-- A point in drawing coordinates. -/
structure Point (α : Type) where
  x : α
  y : α

namespace Point

/-- The point at a distance from a centre, in the direction of an angle in radians. -/
@[specialize] def polar {α : Type} [Circular α] (center : Point α) (radius angle : α) : Point α :=
  ⟨center.x + radius * Circular.cos angle, center.y + radius * Circular.sin angle⟩

/-- The distance of two points. -/
def distance (p q : Point Float) : Float :=
  ((p.x - q.x) * (p.x - q.x) + (p.y - q.y) * (p.y - q.y)).sqrt

end Point

end DiagnosticReport
