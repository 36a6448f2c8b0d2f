/-!
# Failures with causes

A failure has a summary and a chain of causes, outermost first. One cause has no wording: that a
text is not the JSON that was expected, which the summary around it already says.
-/

namespace DiagnosticReport

/-- A cause of a failure. -/
inductive Cause where
  | stated (message : String)
  /-- A text does not read as JSON of the expected form. -/
  | unreadable

/-- An error with its causes. -/
structure Failure where
  summary : String
  causes : List Cause := []

namespace Cause

/-- The wording of a cause, if it has one. -/
def message? : Cause → Option String
  | stated message => some message
  | unreadable => none

end Cause

namespace Failure

/-- A failure stated by a chain of messages. -/
def ofMessages (summary : String) (causes : List String) : Failure :=
  ⟨summary, causes.map .stated⟩

/-- A failure as the cause of another one. -/
def within (context : String) (failure : Failure) : Failure :=
  ⟨context, .stated failure.summary :: failure.causes⟩

/-- The summary and the wording of all causes. -/
def messages (failure : Failure) : List String :=
  failure.summary :: failure.causes.filterMap Cause.message?

/-- The whole chain in one line. -/
def message (failure : Failure) : String :=
  String.intercalate ": " failure.messages

end Failure

end DiagnosticReport
