import DiagnosticReport.Path
import Mathlib.Data.List.Basic
import Mathlib.Data.List.TakeWhile

/-!
# How the text of a path falls into parts

Reading cuts a text at its first brackets (`Path.bracketParts?_eq_some_iff`) and at its dots
(`Path.segments_append_dot`). A text that is added behind a dot, and that has no brackets and no
line breaks of its own, changes neither the cut at the brackets (`Path.bracketParts?_append`) nor
the segments before the dot.
-/

namespace DiagnosticReport

/-! ## Blanks at the ends -/

namespace Text

/-- The text neither starts nor ends with a blank. -/
def IsTrimmed (cs : List Char) : Prop :=
  (∀ c ∈ cs.head?, ¬ isBlank c) ∧ ∀ c ∈ cs.getLast?, ¬ isBlank c

instance (cs : List Char) : Decidable (IsTrimmed cs) :=
  @instDecidableAnd _ _ (Option.decidableForallMem _) (Option.decidableForallMem _)

theorem dropWhile_isBlank_eq_self {cs : List Char} (h : ∀ c ∈ cs.head?, ¬ isBlank c) :
    cs.dropWhile isBlank = cs := by
  cases cs with
  | nil => rfl
  | cons c cs => exact List.dropWhile_cons_of_neg (h c rfl)

theorem IsTrimmed.trimChars_eq {cs : List Char} (h : IsTrimmed cs) : trimChars cs = cs := by
  have hlast : ∀ c ∈ cs.reverse.head?, ¬ isBlank c := by
    rw [List.head?_reverse]
    exact h.2
  rw [trimChars, dropWhile_isBlank_eq_self h.1, dropWhile_isBlank_eq_self hlast,
    List.reverse_reverse]

/-- A text with trimmed ends is trimmed. -/
theorem IsTrimmed.append {cs ds : List Char} (hcs : IsTrimmed cs) (hds : IsTrimmed ds)
    (hne : cs ≠ []) (hne' : ds ≠ []) (between : List Char) : IsTrimmed (cs ++ between ++ ds) := by
  obtain ⟨c, cs, rfl⟩ := List.exists_cons_of_ne_nil hne
  refine ⟨hcs.1, fun d hd => hds.2 d ?_⟩
  rwa [List.getLast?_append, List.getLast?_eq_some_getLast hne', Option.some_or,
    ← List.getLast?_eq_some_getLast hne'] at hd

end Text

namespace Path

/-! ## Cutting at a character -/

section

variable {c : Char} {cs before after : List Char}

theorem cutAt?_append_cons (h : c ∉ before) (after : List Char) :
    cutAt? c (before ++ c :: after) = some (before, after) := by
  have hpass : ∀ a ∈ before, (a != c) = true := fun a ha => bne_iff_ne.2 fun e => h (e ▸ ha)
  rw [cutAt?, List.dropWhile_append_of_pos hpass, List.takeWhile_append_of_pos hpass,
    List.dropWhile_cons_of_neg (by simp), List.takeWhile_cons_of_neg (by simp), List.append_nil]

theorem cutAt?_eq_none_iff : cutAt? c cs = none ↔ c ∉ cs := by
  constructor
  · intro h hmem
    obtain ⟨before, after, rfl, hbefore⟩ := List.eq_append_cons_of_mem hmem
    rw [cutAt?_append_cons hbefore] at h
    cases h
  · intro h
    have hall : ∀ a ∈ cs, (a != c) = true := fun a ha => bne_iff_ne.2 fun e => h (e ▸ ha)
    rw [cutAt?, List.dropWhile_eq_nil_iff.2 hall]

/-- A cut is made at the first place of the character. -/
theorem cutAt?_eq_some_iff :
    cutAt? c cs = some (before, after) ↔ cs = before ++ c :: after ∧ c ∉ before := by
  constructor
  · intro h
    have hmem : c ∈ cs := by
      by_contra hnot
      rw [cutAt?_eq_none_iff.2 hnot] at h
      cases h
    obtain ⟨front, back, rfl, hfront⟩ := List.eq_append_cons_of_mem hmem
    rw [cutAt?_append_cons hfront] at h
    cases h
    exact ⟨rfl, hfront⟩
  · rintro ⟨rfl, h⟩
    exact cutAt?_append_cons h after

/-- A text without the character does not move the cut. -/
theorem cutAt?_append (cs : List Char) {ds : List Char} (h : c ∉ ds) :
    cutAt? c (cs ++ ds) = (cutAt? c cs).map fun (before, after) => (before, after ++ ds) := by
  cases hcut : cutAt? c cs with
  | none =>
    rw [cutAt?_eq_none_iff] at hcut
    exact cutAt?_eq_none_iff.2 (by simp [hcut, h])
  | some parts =>
    obtain ⟨before, after⟩ := parts
    obtain ⟨rfl, hbefore⟩ := cutAt?_eq_some_iff.1 hcut
    rw [List.append_assoc, List.cons_append, cutAt?_append_cons hbefore]
    rfl

end

/-! ## Cutting at the brackets -/

/-- The first bracket group of a text and what stands around it. -/
theorem bracketParts?_eq_some_iff {cs before inside after : List Char} :
    bracketParts? cs = some (before, inside, after) ↔
      cs = before ++ '[' :: (inside ++ ']' :: after) ∧ '[' ∉ before ∧ ']' ∉ inside ∧
        before ≠ [] ∧ inside ≠ [] ∧ '\n' ∉ after := by
  simp only [bracketParts?, Option.bind_eq_bind, Option.bind_eq_some_iff, Prod.exists,
    cutAt?_eq_some_iff]
  constructor
  · rintro ⟨front, rest, ⟨rfl, hfront⟩, middle, back, ⟨rfl, hmiddle⟩, hparts⟩
    split at hparts
    · cases hparts
    · next hgood =>
      cases hparts
      simp only [Bool.or_eq_true, List.isEmpty_iff, List.contains_iff_mem, not_or] at hgood
      exact ⟨rfl, hfront, hmiddle, hgood.1.1, hgood.1.2, hgood.2⟩
  · rintro ⟨rfl, hbefore, hinside, hne, hne', hafter⟩
    refine ⟨before, _, ⟨rfl, hbefore⟩, inside, after, ⟨rfl, hinside⟩, ?_⟩
    simp [hne, hne', hafter]

theorem bracketParts?_eq_none_of_not_mem {cs : List Char} (h : '[' ∉ cs) :
    bracketParts? cs = none := by
  rw [bracketParts?, cutAt?_eq_none_iff.2 h]
  rfl

/-- A text without brackets and line breaks only adds to what stands after the brackets. -/
theorem bracketParts?_append (cs : List Char) {ds : List Char} (hopen : '[' ∉ ds)
    (hclose : ']' ∉ ds) (hline : '\n' ∉ ds) :
    bracketParts? (cs ++ ds) =
      (bracketParts? cs).map fun (before, inside, after) => (before, inside, after ++ ds) := by
  simp only [bracketParts?, cutAt?_append cs hopen]
  cases cutAt? '[' cs with
  | none => rfl
  | some parts =>
    obtain ⟨before, rest⟩ := parts
    simp only [Option.map_some, Option.bind_eq_bind, Option.bind_some, cutAt?_append rest hclose]
    cases cutAt? ']' rest with
    | none => rfl
    | some parts =>
      obtain ⟨inside, after⟩ := parts
      have hcontains : (after ++ ds).contains '\n' = after.contains '\n' := by
        simp [hline]
      simp only [Option.map_some, Option.bind_some, hcontains]
      split <;> rfl

/-! ## Cutting at the dots -/

theorem pieces_append_dot (cs ds : List Char) :
    pieces (cs ++ '.' :: ds) = pieces cs ++ pieces ds := by
  simp only [pieces, List.splitOn_append_cons_self, List.filter_append, List.map_append]

/-- Segments on both sides of a dot are read apart. -/
theorem segments_append_dot (cs ds : List Char) :
    segments (cs ++ '.' :: ds) = segments cs ++ segments ds := by
  rw [segments, pieces_append_dot, List.map_append]
  rfl

theorem exists_piece_ne_nil {cs : List Char} (h : ∃ c ∈ cs, c ≠ '.') :
    ∃ piece ∈ cs.splitOn '.', piece ≠ [] := by
  induction cs with
  | nil => simp at h
  | cons a cs ih =>
    rw [List.splitOn_cons_eq_if_modifyHead]
    split
    · next hdot =>
      have hrest : ∃ c ∈ cs, c ≠ '.' := by simpa [eq_of_beq hdot] using h
      obtain ⟨piece, hpiece, hne⟩ := ih hrest
      exact ⟨piece, List.mem_cons_of_mem _ hpiece, hne⟩
    · obtain ⟨piece, pieces, hsplit⟩ := List.exists_cons_of_ne_nil (List.splitOn_ne_nil '.' cs)
      rw [hsplit]
      exact ⟨a :: piece, List.mem_cons_self .., List.cons_ne_nil _ _⟩

/-- A text of more than dots has a segment. -/
theorem segments_ne_nil {cs : List Char} (h : ∃ c ∈ cs, c ≠ '.') : segments cs ≠ [] := by
  obtain ⟨piece, hpiece, hne⟩ := exists_piece_ne_nil h
  have hkept : piece ∈ (cs.splitOn '.').filter fun piece => !piece.isEmpty :=
    List.mem_filter.2 ⟨hpiece, by simpa using hne⟩
  exact List.ne_nil_of_mem (List.mem_map_of_mem (List.mem_map_of_mem hkept))

/-! ## Reading -/

/-- What a bracket group selects. -/
def insideBracket (inside : List Char) : Bracket :=
  match cutAt? '=' inside with
  | some (key, value) => .selector ⟨String.ofList key, String.ofList value⟩
  | none => .malformed

/-- A bracket that was found is never taken for a missing one. -/
theorem insideBracket_ne_absent (inside : List Char) : insideBracket inside ≠ .absent := by
  unfold insideBracket
  split <;> exact Bracket.noConfusion

theorem parse_eq (text : String) :
    parse text =
      match bracketParts? (Text.trimChars text.toList) with
      | none => ⟨segments (Text.trimChars text.toList), .absent, []⟩
      | some (before, inside, after) =>
        ⟨segments before, insideBracket inside, segments after⟩ := by
  rw [parse]
  cases bracketParts? (Text.trimChars text.toList) <;> rfl

section

variable {text : String} (htrim : Text.IsTrimmed text.toList)

include htrim

theorem parse_of_bracketParts?_eq_none (h : bracketParts? text.toList = none) :
    parse text = ⟨segments text.toList, .absent, []⟩ := by
  rw [parse_eq, htrim.trimChars_eq, h]

theorem parse_of_bracketParts?_eq_some {before inside after : List Char}
    (h : bracketParts? text.toList = some (before, inside, after)) :
    parse text = ⟨segments before, insideBracket inside, segments after⟩ := by
  rw [parse_eq, htrim.trimChars_eq, h]

end

end Path

end DiagnosticReport
