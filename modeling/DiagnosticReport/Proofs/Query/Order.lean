import DiagnosticReport.Proofs.Query.Pipeline

/-!
# Where the order of items is transitive

The order of items is glued together from two orders: two numbers go by their value, and any other
two items by their texts. Reversing a comparison reverses its result, but the glued order is no
preorder, although both of its parts are. It is transitive on items exactly if any two numbers with
a text between them compare as numbers the way they compare as texts
(`SortKey.compareItems_isLE_trans_iff`); for numbers alone, or texts alone, nothing is asked.
-/

namespace DiagnosticReport

open Std

/-! ## Two orders glued together -/

section

variable {α : Type}

/-- The order that compares two members of a class in one way and any other two in another way. -/
def glue (p : α → Bool) (inner outer : α → α → Ordering) (a b : α) : Ordering :=
  if p a ∧ p b then inner a b else outer a b

variable {p : α → Bool} {inner outer : α → α → Ordering} {a b : α}

theorem glue_of_pos (ha : p a) (hb : p b) : glue p inner outer a b = inner a b :=
  if_pos ⟨ha, hb⟩

theorem glue_of_neg_left (ha : ¬ p a) : glue p inner outer a b = outer a b :=
  if_neg fun h => ha h.1

theorem glue_of_neg_right (hb : ¬ p b) : glue p inner outer a b = outer a b :=
  if_neg fun h => hb h.2

/-- An order is transitive upwards on items exactly if it is transitive downwards on them. -/
theorem transitiveOn_iff_isLE_trans {order : α → α → Ordering} [OrientedCmp order]
    {items : List α} :
    TransitiveOn order items ↔ ∀ a ∈ items, ∀ b ∈ items, ∀ c ∈ items,
      (order a b).isLE → (order b c).isLE → (order a c).isLE := by
  have hle (a b : α) : (order a b).isLE ↔ order b a ≠ .lt :=
    Ordering.isLE_iff_ne_gt.trans OrientedCmp.gt_iff_lt.not
  simp only [hle]
  exact ⟨fun h a ha b hb c hc hab hbc => h c hc b hb a ha hbc hab,
    fun h a ha b hb c hc hab hbc => h c hc b hb a ha hbc hab⟩

variable [TransCmp inner] [TransCmp outer] {items : List α}

/-- If the orders agree on two items, they agree on the same items in the other order. -/
theorem agree_comm (h : inner a b = outer a b) : inner b a = outer b a := by
  have hinner : inner b a = (inner a b).swap := OrientedCmp.eq_swap
  rw [hinner, h, ← OrientedCmp.eq_swap]

instance glue_oriented : OrientedCmp (glue p inner outer) where
  eq_swap {a b} := by
    by_cases h : p a ∧ p b
    · rw [glue_of_pos h.1 h.2, glue_of_pos h.2 h.1]
      exact OrientedCmp.eq_swap
    · rw [glue, if_neg h, glue, if_neg fun h' => h h'.symm]
      exact OrientedCmp.eq_swap

/-- If the glued order is transitive, both orders agree on two members of the class that an item
outside of it separates in the outer order. -/
theorem inner_eq_outer_of_transitiveOn (h : TransitiveOn (glue p inner outer) items) {x y t : α}
    (hx : x ∈ items) (hy : y ∈ items) (ht : t ∈ items) (hpx : p x) (hpy : p y) (hpt : ¬ p t)
    (hxt : (outer x t).isLE) (hty : (outer t y).isLE) : inner x y = outer x y := by
  rw [transitiveOn_iff_isLE_trans] at h
  have hinner : (inner x y).isLE := by
    have hxy := h x hx t ht y hy
    rw [glue_of_neg_right hpt, glue_of_neg_left hpt, glue_of_pos hpx hpy] at hxy
    exact hxy hxt hty
  have houter : (outer x y).isLE := TransCmp.isLE_trans hxt hty
  -- both are ties or neither is, since one that points back does so around the third item
  have hback : (inner y x).isLE ↔ (outer y x).isLE := by
    constructor
    · intro hyx
      have hyt := h y hy x hx t ht
      have htx := h t ht y hy x hx
      rw [glue_of_pos hpy hpx, glue_of_neg_right hpt, glue_of_neg_right hpt] at hyt
      rw [glue_of_neg_left hpt, glue_of_pos hpy hpx, glue_of_neg_left hpt] at htx
      exact TransCmp.isLE_trans (hyt hyx hxt) (htx hty hyx)
    · intro hyx
      have hback := h y hy t ht x hx
      rw [glue_of_neg_right hpt, glue_of_neg_left hpt, glue_of_pos hpy hpx] at hback
      exact hback (TransCmp.isLE_trans hyx hxt) (TransCmp.isLE_trans hty hyx)
  by_cases hyx : (outer y x).isLE
  · rw [OrientedCmp.isLE_antisymm hinner (hback.2 hyx), OrientedCmp.isLE_antisymm houter hyx]
  · rw [OrientedCmp.lt_of_not_isLE hyx, OrientedCmp.lt_of_not_isLE fun h => hyx (hback.1 h)]

/-- If both orders agree on any two members of the class that an item outside of it separates in the
outer order, the glued order is transitive. -/
theorem transitiveOn_glue (h : ∀ x ∈ items, ∀ y ∈ items, ∀ t ∈ items, p x → p y → ¬ p t →
      (outer x t).isLE → (outer t y).isLE → inner x y = outer x y) :
    TransitiveOn (glue p inner outer) items := by
  rw [transitiveOn_iff_isLE_trans]
  intro a ha b hb c hc
  have htotal {x y : α} (hxy : ¬ (outer x y).isLE) : (outer y x).isLE :=
    Ordering.isLE_of_eq_lt (OrientedCmp.lt_of_not_isLE hxy)
  by_cases hpb : p b
  · by_cases hpa : p a
    · by_cases hpc : p c
      · rw [glue_of_pos hpa hpb, glue_of_pos hpb hpc, glue_of_pos hpa hpc]
        exact TransCmp.isLE_trans
      · rw [glue_of_pos hpa hpb, glue_of_neg_right hpc, glue_of_neg_right hpc]
        intro hab hbc
        by_contra hac
        have hba := agree_comm (h b hb a ha c hc hpb hpa hpc hbc (htotal hac))
        exact hac (TransCmp.isLE_trans (hba ▸ hab) hbc)
    · rw [glue_of_neg_left hpa, glue_of_neg_left hpa]
      intro hab hbc
      by_cases hpc : p c
      · rw [glue_of_pos hpb hpc] at hbc
        by_contra hac
        have hcb := agree_comm (h c hc b hb a ha hpc hpb hpa (htotal hac) hab)
        exact hac (TransCmp.isLE_trans hab (hcb ▸ hbc))
      · rw [glue_of_neg_right hpc] at hbc
        exact TransCmp.isLE_trans hab hbc
  · rw [glue_of_neg_right hpb, glue_of_neg_left hpb]
    intro hab hbc
    by_cases hac : p a ∧ p c
    · rw [glue_of_pos hac.1 hac.2, h a ha c hc b hb hac.1 hac.2 hpb hab hbc]
      exact TransCmp.isLE_trans hab hbc
    · rw [glue, if_neg hac]
      exact TransCmp.isLE_trans hab hbc

/-- Turning an order around does not make it transitive, nor does it end that. -/
theorem transitiveOn_orient_iff {direction : Direction} {order : α → α → Ordering}
    [OrientedCmp order] {items : List α} :
    TransitiveOn (fun a b => direction.orient (order a b)) items ↔ TransitiveOn order items := by
  cases direction with
  | ascending => exact Iff.rfl
  | descending =>
    have hflip : (fun a b => Direction.orient .descending (order a b)) = flip order := by
      funext a b
      exact OrientedCmp.eq_swap.symm
    rw [hflip]
    exact ⟨TransitiveOn.flip, TransitiveOn.flip⟩

end

/-! ## The order of items -/

namespace SortKey

/-- The ascending order of items by their numbers. -/
def compareRanks (key : SortKey) (a b : Json) : Ordering :=
  compare (key.rankOf a) (key.rankOf b)

/-- The ascending order of items by their texts. -/
def compareTexts (key : SortKey) (a b : Json) : Ordering :=
  compareText (key.textOf a) (key.textOf b)

instance compareRanks_trans (key : SortKey) : TransCmp key.compareRanks :=
  inferInstanceAs (TransCmp (compareOn key.rankOf))

instance compareTexts_trans (key : SortKey) : TransCmp key.compareTexts where
  eq_swap := (inferInstance : OrientedCmp compareText).eq_swap
  isLE_trans := (inferInstance : TransCmp compareText).isLE_trans

/-- Items are compared by two orders glued together on those that are sorted by a number. -/
theorem compareItems_eq_orient_glue (key : SortKey) :
    key.compareItems = fun a b =>
      key.direction.orient (glue key.isNumeric key.compareRanks key.compareTexts a b) := by
  funext a b
  by_cases hab : key.isNumeric a ∧ key.isNumeric b
  · rw [glue_of_pos hab.1 hab.2]
    exact compareItems_eq_compare_rankOf hab.1 hab.2
  · rw [glue, if_neg hab, compareItems, compareValues_of_not_number hab]
    rfl

/-- The order of items is transitive on some of them exactly if any two that are sorted by a number,
and that a third one separates by its text, compare by their numbers as by their texts. -/
theorem transitiveOn_compareItems_iff (key : SortKey) (items : List Json) :
    TransitiveOn key.compareItems items ↔
      ∀ x ∈ items, ∀ y ∈ items, ∀ t ∈ items,
        key.isNumeric x → key.isNumeric y → ¬ key.isNumeric t →
          (key.compareTexts x t).isLE → (key.compareTexts t y).isLE →
            key.compareRanks x y = key.compareTexts x y := by
  rw [compareItems_eq_orient_glue, transitiveOn_orient_iff]
  exact ⟨fun h x hx y hy t ht => inner_eq_outer_of_transitiveOn h hx hy ht, transitiveOn_glue⟩

/-- **Where the order of items is an order.** Reversing a comparison reverses its result. The order
is transitive on items exactly if any two of them that are sorted by a number, and that another one
separates by its text, compare by their numbers as they compare by their texts. Then the sort of the
items does not break down and gives their stable sort. -/
theorem compareItems_isLE_trans_iff (key : SortKey) :
    (∀ a b, key.compareItems b a = (key.compareItems a b).swap) ∧
    ∀ items : List Json,
      let transitive := ∀ a ∈ items, ∀ b ∈ items, ∀ c ∈ items, (key.compareItems a b).isLE →
        (key.compareItems b c).isLE → (key.compareItems a c).isLE
      (transitive ↔ ∀ x ∈ items, ∀ y ∈ items, ∀ t ∈ items,
        key.isNumeric x → key.isNumeric y → ¬ key.isNumeric t →
          (key.compareTexts x t).isLE → (key.compareTexts t y).isLE →
            key.compareRanks x y = key.compareTexts x y) ∧
      (transitive → ∃ sorted, sort? key.compareItems items = some sorted ∧
        IsStableSort key.compareItems items sorted) := by
  refine ⟨fun a b => OrientedCmp.eq_swap, fun items => ?_⟩
  rw [← transitiveOn_iff_isLE_trans]
  exact ⟨key.transitiveOn_compareItems_iff items, fun h =>
    ⟨_, sort?_eq_stableSort h, isStableSort_stableSort h⟩⟩

/-- Items without a value stand at one end, since no number has a text before theirs: they do not
stand between numbers, although the numbers are not in the order of their texts. -/
theorem compareItems_isLE_trans_of_missing :
    let key : SortKey := ⟨"k", .descending⟩
    let item (n : Int) : Json := .object [("k", .number (.int n))]
    let items := [item 7, .object [("k", .null)], item 12, .object []]
    key.compareRanks (item 7) (item 12) = .lt ∧ key.compareTexts (item 7) (item 12) = .gt ∧
      (∀ a ∈ items, ∀ b ∈ items, ∀ c ∈ items, (key.compareItems a b).isLE →
        (key.compareItems b c).isLE → (key.compareItems a c).isLE) ∧
      ∃ sorted, sort? key.compareItems items = some sorted ∧
        IsStableSort key.compareItems items sorted := by
  intro key item items
  obtain ⟨hiff, hsort⟩ := key.compareItems_isLE_trans_iff.2 items
  have htrans := hiff.2 (by decide +kernel)
  exact ⟨by decide +kernel, by decide +kernel, htrans, hsort htrans⟩

/-- A text between two numbers: the text `9` is tied with the number 9, which precedes 10, but it
does not precede 10. Items are left unsorted. -/
theorem compareItems_not_isLE_trans :
    let key : SortKey := ⟨"k", .ascending⟩
    let item (value : Json) : Json := .object [("k", value)]
    let text := item (.string "9")
    let nine := item (.number (.int 9))
    let ten := item (.number (.int 10))
    ((key.compareItems text nine).isLE ∧ (key.compareItems nine ten).isLE ∧
      ¬ (key.compareItems text ten).isLE) ∧
    sort? key.compareItems [ten, text, nine] = some [ten, text, nine] ∧
      key.compareItems nine ten = .lt := by
  intro key item text nine ten
  have htext : key.compareItems text ten = .gt := by decide +kernel
  have hnine : key.compareItems nine text = .eq := by decide +kernel
  have horder : key.compareItems nine ten = .lt := by decide +kernel
  refine ⟨⟨by decide +kernel, by rw [horder]; rfl, by rw [htext]; decide⟩, ?_, horder⟩
  rw [sort?_of_length_le (by decide)]
  simp [stableSort, insertReversed, htext, hnine]

end SortKey

end DiagnosticReport
