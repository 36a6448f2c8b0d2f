import DiagnosticReport.Json.Coercion

/-!
# Filters on items

A filter entry has shorthand keys for scores, codes and types, and the generic triple of a field,
an operator and a value. Each key that is set gives one `Predicate`; an item passes the entry if
it satisfies all of them, so an entry without keys passes every item.
-/

namespace DiagnosticReport

/-- The comparison of a generic filter. -/
inductive Operator where
  | eq
  | ne
  | gt
  | gte
  | lt
  | lte
  | isIn
  | notIn
  | contains
  /-- A name that is no operator; every item passes it. -/
  | unknown
deriving DecidableEq

/-- A filter entry. -/
structure Filter where
  dimensionCodes : Option (List String) := none
  chapterCodes : Option (List String) := none
  kind : Option String := none
  minScore : Option Float := none
  maxScore : Option Float := none
  field : Option String := none
  operator : Option Operator := none
  value : Option Json := none

/-- One condition on an item. -/
inductive Predicate where
  | dimensionCode (codes : List String)
  | chapterCode (codes : List String)
  | kind (name : String)
  | scoreBetween (min max : Option Float)
  | compare (field : String) (operator : Operator) (value : Json)

namespace Operator

/-- The operator of a name. -/
def ofName : String → Operator
  | "eq" => eq
  | "ne" => ne
  | "gt" => gt
  | "gte" => gte
  | "lt" => lt
  | "lte" => lte
  | "in" => isIn
  | "not_in" => notIn
  | "contains" => contains
  | _ => unknown

/-- The name of an operator. -/
def name : Operator → String
  | eq => "eq"
  | ne => "ne"
  | gt => "gt"
  | gte => "gte"
  | lt => "lt"
  | lte => "lte"
  | isIn => "in"
  | notIn => "not_in"
  | contains => "contains"
  | unknown => "unknown"

/-- A comparison of numbers; false unless both values have one. -/
def onNumbers (holds : Float → Float → Bool) (actual : Option Json) (expected : Json) : Bool :=
  match actual.bind Json.number?, expected.number? with
  | some a, some b => holds a b
  | _, _ => false

/-- The value equals an element of the array; none if the expected value is no array. -/
def member? (actual : Option Json) (expected : Json) : Option Bool :=
  expected.asArray?.map fun items => items.any fun item => Json.optionSameAs actual item

/-- The first list of characters occurs in the second. -/
def occursIn (needle : List Char) : List Char → Bool
  | [] => needle.isEmpty
  | c :: cs => needle.isPrefixOf (c :: cs) || occursIn needle cs

/-- An operator between the value of a field, which may be missing, and the value of a filter. -/
def holds (operator : Operator) (actual : Option Json) (expected : Json) : Bool :=
  match operator with
  | eq => Json.optionSameAs actual expected
  | ne => !Json.optionSameAs actual expected
  | gt => onNumbers (fun a b => Binary64.less b a) actual expected
  | gte => onNumbers (fun a b => Binary64.lessEq b a) actual expected
  | lt => onNumbers Binary64.less actual expected
  | lte => onNumbers Binary64.lessEq actual expected
  | isIn => (member? actual expected).getD false
  | notIn => !(member? actual expected).getD false
  | contains =>
    match actual with
    | some value => occursIn expected.text.toList value.text.toList
    | none => false
  | unknown => true

end Operator

namespace Predicate

/-- The text under a key is one of the codes. -/
def codeIn (key : String) (codes : List String) (item : Json) : Bool :=
  match item.stringAt? key with
  | some code => codes.contains code
  | none => false

/-- An item satisfies the condition. -/
def holds (item : Json) : Predicate → Bool
  | dimensionCode codes => codeIn "dimension_code" codes item
  | chapterCode codes => codeIn "chapter_code" codes item
  | kind name => item.stringAt? "type" == some name
  | scoreBetween min max =>
    match item.numberAt? "score_overall" with
    | some score =>
      min.all (fun m => Binary64.lessEq m score) && max.all fun m => Binary64.lessEq score m
    | none => false
  | compare field operator value => operator.holds (item.get? field) value

end Predicate

namespace Filter

/-- The conditions of an entry, one for each key that is set. -/
def predicates (filter : Filter) : List Predicate :=
  (filter.dimensionCodes.map Predicate.dimensionCode).toList ++
  (filter.chapterCodes.map Predicate.chapterCode).toList ++
  (filter.kind.map Predicate.kind).toList ++
  (if filter.minScore.isSome || filter.maxScore.isSome then
    [Predicate.scoreBetween filter.minScore filter.maxScore] else []) ++
  match filter.field, filter.operator with
  | some field, some operator => [Predicate.compare field operator (filter.value.getD .null)]
  | _, _ => []

/-- An item satisfies all conditions of an entry. -/
def passes (filter : Filter) (item : Json) : Bool :=
  filter.predicates.all (Predicate.holds item)

end Filter

end DiagnosticReport
