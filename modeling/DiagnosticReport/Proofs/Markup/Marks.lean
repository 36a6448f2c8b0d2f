import DiagnosticReport.Markup.Basic

/-!
# Reading markup by style classes

What a drawing shows is told by the style classes of its elements. `Markup.collect read` is what
`read` takes from them, in the order in which they stand in the text; `read` sees the style class of
an element and its body.
-/

namespace DiagnosticReport.Markup

variable {α : Type}

/-- What is taken from an element with the given attributes. -/
def readClass (read : String → Markup → Option α) (attributes : List (Attribute × String))
    (body : Markup) : List α :=
  ((attributes.lookup .styleClass).bind (read · body)).toList

/-- What is taken from the elements of a piece of markup, outer ones first. -/
def collect (read : String → Markup → Option α) : Markup → List α
  | empty | text _ | bullet | verbatim _ => []
  | element _ attributes body => readClass read attributes body ++ body.collect read
  | leaf _ attributes => readClass read attributes empty
  | append first second => first.collect read ++ second.collect read

section

variable {read : String → Markup → Option α}

@[simp] theorem collect_empty : empty.collect read = [] := rfl

@[simp] theorem collect_text (s : String) : (text s).collect read = [] := rfl

@[simp] theorem collect_element {tag : Tag} {attributes : List (Attribute × String)}
    {body : Markup} : (element tag attributes body).collect read =
      readClass read attributes body ++ body.collect read := rfl

@[simp] theorem collect_leaf {tag : Tag} {attributes : List (Attribute × String)} :
    (leaf tag attributes).collect read = readClass read attributes empty := rfl

@[simp] theorem collect_append {first second : Markup} :
    (first ++ second).collect read = first.collect read ++ second.collect read := rfl

@[simp] theorem collect_styled {tag : Tag} {styleClass : String} {body : Markup} :
    (styled tag styleClass body).collect read =
      (read styleClass body).toList ++ body.collect read := rfl

@[simp] theorem collect_plain {tag : Tag} {body : Markup} :
    (plain tag body).collect read = body.collect read := rfl

@[simp] theorem collect_optional {piece : Option Markup} :
    (optional piece).collect read = piece.toList.flatMap (collect read) := by
  cases piece <;> simp [optional]

@[simp] theorem collect_concat {pieces : List Markup} :
    (concat pieces).collect read = pieces.flatMap (collect read) := by
  induction pieces with
  | nil => rfl
  | cons piece pieces ih =>
    rw [List.flatMap_cons, ← ih]
    rfl

@[simp] theorem readClass_styleClass {styleClass : String} {rest : List (Attribute × String)}
    {body : Markup} :
    readClass read ((.styleClass, styleClass) :: rest) body = (read styleClass body).toList := rfl

end

/-- Pieces that show one thing each. -/
theorem collect_concat_map {γ : Type} {read : String → Markup → Option α} {draw : γ → Markup}
    {shown : γ → α} (h : ∀ c, (draw c).collect read = [shown c]) (members : List γ) :
    (concat (members.map draw)).collect read = members.map shown := by
  have hcollect : (fun c => (draw c).collect read) = fun c => [shown c] := funext h
  rw [collect_concat, List.flatMap_map, List.map_eq_flatMap, hcollect]

/-- Pieces that show nothing. -/
theorem collect_concat_eq_nil {read : String → Markup → Option α} {pieces : List Markup}
    (h : ∀ piece ∈ pieces, piece.collect read = []) : (concat pieces).collect read = [] := by
  rw [collect_concat]
  exact List.flatMap_eq_nil_iff.2 h

end DiagnosticReport.Markup
