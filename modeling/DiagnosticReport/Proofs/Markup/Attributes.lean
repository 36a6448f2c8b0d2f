import DiagnosticReport.Chart.Drawing
import DiagnosticReport.Proofs.Markup.Rendering
import DiagnosticReport.Proofs.Path.Printing
import DiagnosticReport.Proofs.Text.Escaped
import DiagnosticReport.Recipe.Basic

/-!
# Attributes that need no escape

Only a few attributes hold texts of recipes and documents (`Attribute.holdsText`). If all others
hold plain texts, as numbers and style classes are, markup is rendered as it would be if they were
not escaped at all (`Markup.HasPlainAttributes.render_eq`).
-/

namespace DiagnosticReport

/-- The attribute may hold a text of a recipe or a document. -/
def Attribute.holdsText : Attribute → Bool
  | ariaLabel | fill | id | stroke => true
  | _ => false

namespace Markup

/-- The text of an attribute, escaped only if the attribute may hold any text. -/
def renderAttributeAsIs (a : Attribute × String) : String :=
  " " ++ a.1.name ++ "=\"" ++ (if a.1.holdsText then Text.escape a.2 else a.2) ++ "\""

/-- The text of markup in which no more attributes are escaped than may hold any text. -/
def renderAsIs : Markup → String
  | empty => ""
  | text s => Text.escape s
  | bullet => "&bull;"
  | element tag attributes body =>
    "<" ++ tag.name ++ String.join (attributes.map renderAttributeAsIs) ++ ">" ++ body.renderAsIs ++
      "</" ++ tag.name ++ ">"
  | leaf tag attributes =>
    "<" ++ tag.name ++ String.join (attributes.map renderAttributeAsIs) ++ "/>"
  | append first second => first.renderAsIs ++ second.renderAsIs
  | verbatim s => s

/-- All attributes hold plain texts but for those that may hold any text. -/
def ArePlain (attributes : List (Attribute × String)) : Prop :=
  ∀ a ∈ attributes, a.1.holdsText ∨ Text.IsPlain a.2

/-- The attributes of all elements of the markup are plain. -/
def HasPlainAttributes : Markup → Prop
  | empty | text _ | bullet | verbatim _ => True
  | element _ attributes body => ArePlain attributes ∧ body.HasPlainAttributes
  | leaf _ attributes => ArePlain attributes
  | append first second => first.HasPlainAttributes ∧ second.HasPlainAttributes

theorem ArePlain.map_eq {attributes : List (Attribute × String)} (h : ArePlain attributes) :
    attributes.map renderAttributeAsIs = attributes.map renderAttribute := by
  refine List.map_congr_left fun a ha => ?_
  unfold renderAttributeAsIs renderAttribute
  rcases h a ha with htext | hplain
  · rw [if_pos htext]
  · rw [hplain.escape_eq, ite_self]

/-- Plain attributes are written as they are. -/
theorem HasPlainAttributes.render_eq : ∀ {m : Markup}, m.HasPlainAttributes →
    m.render = m.renderAsIs
  | empty, _ | text _, _ | bullet, _ | verbatim _, _ => rfl
  | element tag attributes body, h => by
    rw [render, renderAsIs, renderAttributes, h.1.map_eq, h.2.render_eq]
  | leaf tag attributes, h => by
    have h : ArePlain attributes := h
    rw [render, renderAsIs, renderAttributes, h.map_eq]
  | append first second, h => by
    rw [render, renderAsIs, h.1.render_eq, h.2.render_eq]

section

@[simp] theorem arePlain_nil : ArePlain [] := List.forall_mem_nil _

@[simp] theorem arePlain_cons {a : Attribute × String} {rest : List (Attribute × String)} :
    ArePlain (a :: rest) ↔ (a.1.holdsText ∨ Text.IsPlain a.2) ∧ ArePlain rest :=
  List.forall_mem_cons

@[simp] theorem arePlain_append {first second : List (Attribute × String)} :
    ArePlain (first ++ second) ↔ ArePlain first ∧ ArePlain second :=
  List.forall_mem_append

@[simp] theorem hasPlainAttributes_empty : empty.HasPlainAttributes := trivial

@[simp] theorem hasPlainAttributes_text (s : String) : (text s).HasPlainAttributes := trivial

@[simp] theorem hasPlainAttributes_bullet : bullet.HasPlainAttributes := trivial

@[simp] theorem hasPlainAttributes_element {tag : Tag} {attributes : List (Attribute × String)}
    {body : Markup} : (element tag attributes body).HasPlainAttributes ↔
      ArePlain attributes ∧ body.HasPlainAttributes := Iff.rfl

@[simp] theorem hasPlainAttributes_leaf {tag : Tag} {attributes : List (Attribute × String)} :
    (leaf tag attributes).HasPlainAttributes ↔ ArePlain attributes := Iff.rfl

@[simp] theorem hasPlainAttributes_append {first second : Markup} :
    (first ++ second).HasPlainAttributes ↔
      first.HasPlainAttributes ∧ second.HasPlainAttributes := Iff.rfl

@[simp] theorem hasPlainAttributes_plain {tag : Tag} {body : Markup} :
    (plain tag body).HasPlainAttributes ↔ body.HasPlainAttributes := by
  simp [plain]

@[simp] theorem hasPlainAttributes_styled {tag : Tag} {styleClass : String} {body : Markup} :
    (styled tag styleClass body).HasPlainAttributes ↔
      Text.IsPlain styleClass ∧ body.HasPlainAttributes := by
  simp [styled, Attribute.holdsText]

@[simp] theorem hasPlainAttributes_concat {pieces : List Markup} :
    (concat pieces).HasPlainAttributes ↔ ∀ piece ∈ pieces, piece.HasPlainAttributes := by
  induction pieces with
  | nil => simp [concat]
  | cons piece pieces ih =>
    rw [List.forall_mem_cons, ← ih]
    rfl

@[simp high] theorem hasPlainAttributes_concat_mapIdx {α : Type} {f : Nat → α → Markup}
    {l : List α} : (concat (l.mapIdx f)).HasPlainAttributes ↔
      ∀ i (h : i < l.length), (f i l[i]).HasPlainAttributes := by
  rw [hasPlainAttributes_concat]
  constructor
  · exact fun h i hi => h _ (List.mem_mapIdx.2 ⟨i, hi, rfl⟩)
  · intro h piece hpiece
    obtain ⟨i, hi, rfl⟩ := List.mem_mapIdx.1 hpiece
    exact h i hi

@[simp] theorem hasPlainAttributes_optional {piece : Option Markup} :
    (optional piece).HasPlainAttributes ↔ ∀ m ∈ piece, m.HasPlainAttributes := by
  cases piece <;> simp [optional]

@[simp] theorem hasPlainAttributes_ite {c : Prop} [Decidable c] {first second : Markup} :
    (if c then first else second).HasPlainAttributes ↔
      (c → first.HasPlainAttributes) ∧ (¬c → second.HasPlainAttributes) := by
  split <;> simp [*]

end

end Markup

/-! ## Plain texts -/

namespace Decimal

theorem isPlain_natText (n : Nat) : Text.IsPlain (natText n) := fun c hc =>
  Text.escapeChar_of_isAlphanum (by
    rw [Char.isAlphanum, Segment.isDigit_of_mem_natText hc, Bool.or_true])

theorem isPlain_plain (d : Decimal) : Text.IsPlain (plain d) := by
  have hdigits : ∀ c ∈ Nat.toDigits 10 d.digits, Text.escapeChar c = [c] := by
    simpa [natText, Text.isPlain_ofList] using isPlain_natText d.digits
  have hzeros (n : Nat) : ∀ c ∈ zeros n, Text.escapeChar c = [c] := by
    intro c hc
    rw [List.eq_of_mem_replicate hc]
    rfl
  have hpadded (n : Nat) : ∀ c ∈ zeros n ++ Nat.toDigits 10 d.digits, Text.escapeChar c = [c] :=
    List.forall_mem_append.2 ⟨hzeros n, hdigits⟩
  unfold plain
  split
  · exact Text.isPlain_ofList.2 (List.forall_mem_append.2 ⟨hdigits, hzeros _⟩)
  · refine Text.isPlain_ofList.2 (List.forall_mem_append.2 ⟨fun c hc => ?_, ?_⟩)
    · exact hpadded _ c (List.mem_of_mem_take hc)
    · exact List.forall_mem_cons.2 ⟨rfl, fun c hc => hpadded _ c (List.mem_of_mem_drop hc)⟩

theorem isPlain_signText (x : Float) : Text.IsPlain (signText x) := by
  unfold signText
  split <;> decide

theorem isPlain_nonFiniteText (x : Float) : Text.IsPlain (nonFiniteText x) := by
  unfold nonFiniteText
  split
  · decide
  · exact (isPlain_signText x).append (by decide)

theorem isPlain_intText (n : Int) : Text.IsPlain (intText n) := by
  cases n with
  | ofNat n => exact isPlain_natText n
  | negSucc n => exact Text.IsPlain.append (by decide) (isPlain_natText _)

theorem isPlain_positional (x : Float) : Text.IsPlain (positional x) := by
  unfold positional
  split
  · exact (isPlain_signText x).append (isPlain_plain _)
  · exact isPlain_nonFiniteText x

theorem isPlain_fixedUnsignedZero (places : Nat) (x : Float) :
    Text.IsPlain (fixedUnsignedZero places x) := by
  unfold fixedUnsignedZero fixed
  split
  · exact isPlain_plain _
  · split
    · exact (isPlain_signText x).append (isPlain_plain _)
    · exact isPlain_nonFiniteText x

end Decimal

/-- A slug has no character that is escaped. -/
theorem isPlain_styleSlug (s : String) : Text.IsPlain (styleSlug s) := by
  intro c hc
  rw [styleSlug, String.toList_ofList, List.mem_map] at hc
  obtain ⟨d, hd, rfl⟩ := hc
  rcases Bool.or_eq_true_iff.1 (List.mem_filter.1 hd).2 with halphanum | hhyphen
  · exact Text.escapeChar_of_isAlphanum (Text.isAlphanum_toLower halphanum)
  · rw [eq_of_beq hhyphen]
    rfl

@[simp] theorem isPlain_coordinate (x : Float) : Text.IsPlain (coordinate x) :=
  Decimal.isPlain_fixedUnsignedZero 2 _

@[simp] theorem isPlain_formatNumber (x : Float) : Text.IsPlain (formatNumber x) := by
  unfold formatNumber
  split
  · decide
  · split
    · exact Decimal.isPlain_intText _
    · exact Decimal.isPlain_positional x

end DiagnosticReport
