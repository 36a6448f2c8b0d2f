import DiagnosticReport.Proofs.Binary64.Value
import DiagnosticReport.Proofs.Visual.Risks

/-!
# Numeric ratings

A number up to 3 is read on the scale to 3 and a larger one on the scale to 5, where the same
number stands for a lower level. So ratings up to 5 are placed in their order except for pairs
across the step from one scale to the other (`Visual.ratings_in_order_iff`): 3 is high and 3.2 is
medium.
-/

namespace DiagnosticReport

open Binary64

/-! ## Words are no numbers -/

namespace Text

theorem toLower_eq_self {c : Char} (h : c.isDigit ∨ c = '.' ∨ c = '-' ∨ c = '+') :
    c.toLower = c := by
  rcases h with h | rfl | rfl | rfl
  · have hcapital : ¬ (c.val ≥ 'A'.val ∧ c.val ≤ 'Z'.val) := by
      simp only [Char.isDigit, Bool.and_eq_true, decide_eq_true_eq] at h
      rintro ⟨hlow, -⟩
      exact absurd (UInt32.le_trans hlow h.2) (by decide)
    exact dif_neg hcapital
  · rfl
  · rfl
  · rfl

end Text

namespace Decimal

theorem readNumber?_of_letter {c : Char} {cs : List Char} (hdigit : c.isDigit = false)
    (hpoint : c ≠ '.') : readNumber? (c :: cs) = none := by
  have hwhole : (c :: cs).takeWhile Char.isDigit = [] := by simp [hdigit]
  have hrest : (c :: cs).dropWhile Char.isDigit = c :: cs := by simp [hdigit]
  unfold readNumber?
  rw [hwhole, hrest]
  dsimp only
  split
  next h => exact absurd (List.cons.inj h).1 hpoint
  next => rfl

/-- A text that is a word in lower case writes no number. -/
theorem read?_of_word {text word : String} {c : Char} {cs : List Char}
    (hword : Text.lowerAscii text = word) (hchars : word.toList = c :: cs)
    (hletter : c.isDigit = false ∧ c ≠ '.' ∧ c ≠ '-' ∧ c ≠ '+')
    (hnamed : word ≠ "inf" ∧ word ≠ "infinity" ∧ word ≠ "nan") : read? text = none := by
  have hlower : text.toList.map Char.toLower = c :: cs := by
    rw [← hchars, ← hword, Text.lowerAscii, String.toList_ofList]
  obtain ⟨d, ds, htext, hd, hds⟩ := List.map_eq_cons_iff.1 hlower
  have hfirst : ¬ (d.isDigit ∨ d = '.' ∨ d = '-' ∨ d = '+') := by
    intro h
    rw [Text.toLower_eq_self h] at hd
    subst hd
    simp [hletter] at h
  rw [not_or, not_or, not_or, Bool.not_eq_true] at hfirst
  obtain ⟨hdigit, hpoint, hminus, hplus⟩ := hfirst
  have hsign : takeSign text.toList = (false, d :: ds) := by
    rw [htext]
    unfold takeSign
    split
    next h => exact absurd (List.cons.inj h).1 hminus
    next h => exact absurd (List.cons.inj h).1 hplus
    next => rfl
  have hsame : String.ofList ((d :: ds).map Char.toLower) = word := by
    rw [← htext, ← hword, Text.lowerAscii]
  unfold read?
  rw [hsign]
  dsimp only
  rw [hsame, readNumber?_of_letter hdigit hpoint, Option.map_eq_none_iff]
  split
  · exact absurd rfl hnamed.1
  · exact absurd rfl hnamed.2.1
  · exact absurd rfl hnamed.2.2
  · rfl

end Decimal

namespace Visual.Level

/-- A text that is a number is no word for a level. -/
theorem ofWord?_of_read? {word : String} {x : Float} (h : Decimal.read? (Text.trim word) = some x) :
    ofWord? word = .none := by
  have hnone {w : String} {c : Char} {cs : List Char} (hword : Text.lowerAscii (Text.trim word) = w)
      (hchars : w.toList = c :: cs) (hletter : c.isDigit = false ∧ c ≠ '.' ∧ c ≠ '-' ∧ c ≠ '+')
      (hnamed : w ≠ "inf" ∧ w ≠ "infinity" ∧ w ≠ "nan") : False := by
    rw [Decimal.read?_of_word hword hchars hletter hnamed] at h
    cases h
  unfold ofWord?
  split <;> first
    | rfl
    | next hword => exact (hnone hword rfl (by decide) (by decide)).elim

/-- A rating that is a number, or the text of one, is rated by it. -/
theorem ofRating?_of_number? {rating : Json} {x : Float} (h : rating.number? = some x) :
    ofRating? (some rating) = ofNumber? x := by
  have hword : rating.asString?.bind ofWord? = .none := by
    cases rating with
    | string word =>
      rw [Json.number?, Option.filter_eq_some_iff] at h
      rw [Json.asString?, Option.bind_some]
      exact ofWord?_of_read? h.1
    | null | bool | number | array | object => rfl
  rw [ofRating?, Option.bind_eq_bind, Option.bind_some, hword, h, Option.bind_some]
  generalize ofNumber? x = level
  rfl

/-! ## Levels of numbers -/

theorem value_bounds : value 2.5 = 5 / 2 ∧ value 3.0 = 3 ∧ value 3.5 = 7 / 2 := by
  have hhalf := value_eq_div (x := 2.5) (n := 5) (d := 2) (by decide) (by decide) (by decide)
  have hthree := value_eq_div (x := 3.0) (n := 3) (d := 1) (by decide) (by decide) (by decide)
  have hseven := value_eq_div (x := 3.5) (n := 7) (d := 2) (by decide) (by decide) (by decide)
  rw [hhalf, hthree, hseven]
  norm_num

/-- The level of a number up to 5, by its exact value. -/
def ofValue (v : ℚ) : Level :=
  if v ≤ 3 then if v < 3 / 2 then low else if v < 5 / 2 then medium else high
  else if v < 7 / 2 then medium else high

theorem ofRounded_floor {v : ℚ} (h : 0 ≤ v) :
    ofRounded ⌊v⌋₊ = if v < 2 then low else if v < 3 then medium else high := by
  have htwo : ⌊v⌋₊ ≤ 1 ↔ v < 2 := by
    rw [Nat.le_iff_lt_add_one, Nat.floor_lt h]
    norm_num
  have hthree : ⌊v⌋₊ < 3 ↔ v < 3 := by
    rw [Nat.floor_lt h]
    norm_num
  simp only [ofRounded, ← htwo, ← hthree]
  split_ifs <;> first | rfl | omega

/-- On the scale to 3 a number is rounded. -/
theorem ofRounded_round {v : ℚ} (hpos : 0 < v) (hscale : v ≤ 3) :
    ofRounded ⌊v + 1 / 2⌋₊ = ofValue v := by
  rw [ofRounded_floor (by linarith), ofValue, if_pos hscale]
  split_ifs <;> first | rfl | linarith

/-- On the scale to 5 a number is rounded to one step less. -/
theorem ofRounded_round_sub_one {v : ℚ} (hscale : 3 < v) :
    ofRounded (⌊v + 1 / 2⌋₊ - 1) = ofValue v := by
  rw [← Nat.floor_sub_one, ofRounded_floor (by linarith), ofValue, if_neg (not_le.2 hscale)]
  split_ifs <;> first | rfl | linarith

/-- The level of a number on the scale is that of its exact value. -/
theorem ofNumber?_eq {x : Float} (hpos : less 0.0 x) (hhigh : lessEq x 5.0) :
    ofNumber? x = some (ofValue (value x)) := by
  have hfinite : isFinite x :=
    isFinite_of_between (by decide) (by decide) (lessEq_of_less hpos) hhigh
  have hvalue : 0 < value x := by rwa [less_iff_value (by decide) hfinite, value_zero] at hpos
  have hsign : isNegative x = false :=
    isNegative_of_rank_pos (rank_zero ▸ value_lt_value_iff.1 (value_zero ▸ hvalue))
  have hzero : lessEq x 0.0 = false := by
    rw [← Bool.not_eq_true, lessEq_iff_value hfinite (by decide), value_zero]
    exact not_le.2 hvalue
  have hscale : lessEq x 3.0 ↔ value x ≤ 3 := by
    rw [lessEq_iff_value hfinite (by decide), value_bounds.2.1]
  unfold ofNumber?
  simp only [hzero, hhigh, hscale, wholeMagnitude_round hsign hfinite, Bool.false_eq_true,
    if_false, if_true]
  split
  next hthree => rw [ofRounded_round hvalue hthree]
  next hthree => rw [ofRounded_round_sub_one (not_le.1 hthree)]

/-! ## Order -/

/-- Two numbers from one scale to the other, the larger of which stands for the lower level. -/
def AcrossScales (x y : Float) : Prop :=
  (lessEq 2.5 x ∧ lessEq x 3.0) ∧ less 3.0 y ∧ less y 3.5

/-- Two numbers are across the scales if the first is at most three and rounded to it, and the
second is above three and rounded down to it. -/
theorem acrossScales_iff {x y : Float} (hx : isFinite x) (hy : isFinite y) :
    AcrossScales x y ↔
      (5 / 2 ≤ value x ∧ value x ≤ 3) ∧ 3 < value y ∧ value y < 7 / 2 := by
  obtain ⟨hlow, hthree, hhigh⟩ := value_bounds
  rw [AcrossScales, lessEq_iff_value (by decide) hx, lessEq_iff_value hx (by decide),
    less_iff_value (by decide) hy, less_iff_value hy (by decide), hlow, hthree, hhigh]

/-- Levels follow the order of two numbers unless they are across the scales. -/
theorem number_ofValue_le_iff {v w : ℚ} (h : v ≤ w) :
    (ofValue v).number ≤ (ofValue w).number ↔
      ¬ ((5 / 2 ≤ v ∧ v ≤ 3) ∧ 3 < w ∧ w < 7 / 2) := by
  by_cases hacross : (5 / 2 ≤ v ∧ v ≤ 3) ∧ 3 < w ∧ w < 7 / 2
  · obtain ⟨⟨hlow, hthree⟩, hstep, hhigh⟩ := id hacross
    have hv : ofValue v = high := by
      rw [ofValue, if_pos hthree, if_neg (by linarith), if_neg (not_lt.2 hlow)]
    have hw : ofValue w = medium := by rw [ofValue, if_neg (not_le.2 hstep), if_pos hhigh]
    rw [hv, hw]
    exact iff_of_false (by decide) (not_not.2 hacross)
  · -- branches out of order contradict `v ≤ w`, apart from the excluded pair
    refine iff_of_true ?_ hacross
    unfold ofValue
    split_ifs <;> first
      | decide
      | linarith
      | exact absurd ⟨⟨not_lt.1 ‹_›, ‹_›⟩, not_le.1 ‹_›, ‹_›⟩ hacross

theorem index_le_iff {l m : Level} : l.index ≤ m.index ↔ l.number ≤ m.number := by
  cases l <;> cases m <;> decide

end Level

/-- **Order of ratings.** Two numeric ratings up to 5 stand for two levels, and the larger one not
for the lower level just if they do not lie across the step from the scale to 3 to the scale to 5.
It is the same for the columns of two risks that have these severities, and for their rows. -/
theorem ratings_in_order_iff {a b : Json} {x y : Float} (hx : a.number? = some x)
    (hy : b.number? = some y) (hpos : less 0.0 x) (hle : lessEq x y) (hhigh : lessEq y 5.0) :
    (∃ l m, Level.ofRating? (some a) = some l ∧ Level.ofRating? (some b) = some m ∧
      (l.number ≤ m.number ↔ ¬ Level.AcrossScales x y)) ∧
    ∀ risk other p q, place? risk = some p → place? other = some q →
      (risk.get? "severity" = some a → other.get? "severity" = some b →
        (p.2.index ≤ q.2.index ↔ ¬ Level.AcrossScales x y)) ∧
      (risk.get? "likelihood" = some a → other.get? "likelihood" = some b →
        (p.1.index ≤ q.1.index ↔ ¬ Level.AcrossScales x y)) := by
  have hxhigh : lessEq x 5.0 := lessEq_trans hle hhigh
  have hypos : less 0.0 y := less_of_less_of_lessEq hpos hle
  have hxfinite : isFinite x :=
    isFinite_of_between (by decide) (by decide) (lessEq_of_less hpos) hxhigh
  have hyfinite : isFinite y :=
    isFinite_of_between (by decide) (by decide) (lessEq_of_less hypos) hhigh
  have ha : Level.ofRating? (some a) = some (Level.ofValue (value x)) := by
    rw [Level.ofRating?_of_number? hx, Level.ofNumber?_eq hpos hxhigh]
  have hb : Level.ofRating? (some b) = some (Level.ofValue (value y)) := by
    rw [Level.ofRating?_of_number? hy, Level.ofNumber?_eq hypos hhigh]
  have horder : (Level.ofValue (value x)).number ≤ (Level.ofValue (value y)).number ↔
      ¬ Level.AcrossScales x y := by
    rw [Level.acrossScales_iff hxfinite hyfinite]
    exact Level.number_ofValue_le_iff ((lessEq_iff_value hxfinite hyfinite).1 hle)
  refine ⟨⟨_, _, ha, hb, horder⟩, fun risk other p q hp hq => ?_⟩
  obtain ⟨hplikelihood, hpseverity⟩ := place?_eq_some_iff.1 hp
  obtain ⟨hqlikelihood, hqseverity⟩ := place?_eq_some_iff.1 hq
  refine ⟨fun hrisk hother => ?_, fun hrisk hother => ?_⟩
  · rw [hrisk, ha, Option.some_inj] at hpseverity
    rw [hother, hb, Option.some_inj] at hqseverity
    rw [← hpseverity, ← hqseverity, Level.index_le_iff, horder]
  · rw [hrisk, ha, Option.some_inj] at hplikelihood
    rw [hother, hb, Option.some_inj] at hqlikelihood
    rw [← hplikelihood, ← hqlikelihood, Level.index_le_iff, horder]

/-- A number and a text on the scales to 3 and to 5 that are in order. -/
theorem ratings_in_order_of_two_and_three :
    let a := Json.number (.int 2)
    let b := Json.string " 3.2 "
    ∃ l m, Level.ofRating? (some a) = some l ∧ Level.ofRating? (some b) = some m ∧
      l.number ≤ m.number := by
  intro a b
  have ha : a.number? = some 2.0 := by decide
  have hb : b.number? = some 3.2 := by decide +kernel
  obtain ⟨⟨l, m, hl, hm, horder⟩, -⟩ :=
    ratings_in_order_iff ha hb (by decide) (by decide) (by decide)
  have hnear : ¬ Level.AcrossScales 2.0 3.2 := by
    rintro ⟨⟨hlow, -⟩, -⟩
    exact absurd hlow (by decide)
  exact ⟨l, m, hl, hm, horder.2 hnear⟩

/-- The higher rating is placed in the lower column: 3 is high, and 3.2 is medium. -/
theorem ratings_out_of_order_across_scales :
    let risk (label : String) (severity : Number) : Json := .object [("label", .string label),
      ("severity", .number severity), ("likelihood", .string "high")]
    let grid := RiskGrid.ofItems { id := "s" } [risk "A" (.int 3), risk "B" (.float 3.2)]
    less 0.0 3.0 ∧ lessEq 3.0 3.2 ∧ lessEq 3.2 5.0 ∧
    (Json.number (.int 3)).number? = some 3.0 ∧ (Json.number (.float 3.2)).number? = some 3.2 ∧
    Level.ofRating? (some (.number (.int 3))) = some .high ∧
    Level.ofRating? (some (.number (.float 3.2))) = some .medium ∧
    (grid.cell .high .high).toList = ["A"] ∧ (grid.cell .high .medium).toList = ["B"] := by
  decide +kernel

end Visual

end DiagnosticReport
