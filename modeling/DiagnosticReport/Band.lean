import DiagnosticReport.Binary64
import DiagnosticReport.Text.Blank
import DiagnosticReport.Text.Case

/-!
# Score bands and trajectories

A score from 0 to 100 falls into one of four bands, by inclusive lower bounds of the upper three.
Two scores give a trajectory: more than five points either way count as movement.
-/

namespace DiagnosticReport

/-- A performance tier. -/
inductive Band where
  | critical
  | attention
  | proficiency
  | excellence
deriving DecidableEq

namespace Band

/-- All bands, best first. -/
def all : List Band :=
  [excellence, proficiency, attention, critical]

/-- The name of a band in data and style classes. -/
def name : Band → String
  | critical => "critical"
  | attention => "attention"
  | proficiency => "proficiency"
  | excellence => "excellence"

/-- The name of a band for display. -/
def label : Band → String
  | critical => "Critical"
  | attention => "Attention"
  | proficiency => "Proficiency"
  | excellence => "Excellence"

/-- The fill colour of a band. -/
def color : Band → String
  | critical => "#dc3545"
  | attention => "#ffc107"
  | proficiency => "#0d6efd"
  | excellence => "#28a745"

/-- The style class of a band. -/
def styleClass (band : Band) : String :=
  "band-" ++ band.name

/-- The band that a label names, in any letter case and with blanks around it. -/
def parse? (label : String) : Option Band :=
  let name := Text.lowerAscii (Text.trim label)
  all.find? fun band => band.name == name

end Band

/-- Inclusive lower bounds of the upper three bands. -/
structure Thresholds where
  excellence : Float := 80.0
  proficiency : Float := 60.0
  attention : Float := 40.0

/-- The band of a score; a score that is not finite falls into the lowest. -/
def Thresholds.classify (t : Thresholds) (score : Float) : Band :=
  if !Binary64.isFinite score then .critical
  else if Binary64.lessEq t.excellence score then .excellence
  else if Binary64.lessEq t.proficiency score then .proficiency
  else if Binary64.lessEq t.attention score then .attention
  else .critical

/-- The wording of an overall health score. -/
def healthDescriptor (score : Float) : String :=
  if Binary64.lessEq 85.0 score then "Excellent Health"
  else if Binary64.lessEq 75.0 score then "Good Health"
  else if Binary64.lessEq 65.0 score then "Fair Health"
  else if Binary64.lessEq 50.0 score then "Needs Improvement"
  else "Critical Condition"

/-- The direction of travel between two assessments. -/
inductive Trajectory where
  | improving
  | flat
  | declining
deriving DecidableEq

namespace Trajectory

/-- The trajectory from an earlier score, if there is a finite one, to the current one. -/
def between (current : Float) (previous : Option Float) : Trajectory :=
  match previous.filter Binary64.isFinite with
  | none => flat
  | some previous =>
    let delta := current - previous
    if Binary64.less 5.0 delta then improving
    else if Binary64.less delta (-5.0) then declining
    else flat

/-- The trajectory that a label names, in any letter case and with blanks around it. -/
def parse? (label : String) : Option Trajectory :=
  match Text.lowerAscii (Text.trim label) with
  | "improving" => some improving
  | "flat" | "stable" => some flat
  | "declining" => some declining
  | _ => none

/-- The name of a trajectory for display. -/
def label : Trajectory → String
  | improving => "Improving"
  | flat => "Flat"
  | declining => "Declining"

/-- The name of a trajectory in style classes. -/
def name : Trajectory → String
  | improving => "improving"
  | flat => "flat"
  | declining => "declining"

/-- The arrow of a trajectory. -/
def arrow : Trajectory → String
  | improving => "↑"
  | flat => "→"
  | declining => "↓"

end Trajectory

end DiagnosticReport
