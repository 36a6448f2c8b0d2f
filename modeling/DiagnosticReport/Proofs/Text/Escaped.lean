import DiagnosticReport.Text.Escaped
import Mathlib.Data.List.Basic

/-!
# Escaped texts

To replace characters one after the other comes to the same as a single pass over the text
(`toList_escape`), as the ampersand is replaced before any entity stands in the text. So an escaped
text is read back by its entities (`unescape_escape`), and every ampersand in it begins one of them
(`escape_faithful`). A text without the five characters stays as it is.
-/

namespace DiagnosticReport.Text

/-! ## One pass -/

/-- The entity of a character, or the character itself. -/
def escapeChar : Char → List Char
  | '&' => ['&', 'a', 'm', 'p', ';']
  | '<' => ['&', 'l', 't', ';']
  | '>' => ['&', 'g', 't', ';']
  | '"' => ['&', 'q', 'u', 'o', 't', ';']
  | '\'' => ['&', '#', '3', '9', ';']
  | c => [c]

/-- A text escaped in a single pass. -/
def escapeOnce (s : String) : String :=
  String.ofList (s.toList.flatMap escapeChar)

section

variable {table : List (Char × List Char)} {c : Char}

theorem replaceChars_nil : replaceChars table [] = [] := by
  induction table with
  | nil => rfl
  | cons entry table ih => exact ih

/-- Each replacement looks at one character at a time, so all of them together do. -/
theorem replaceChars_append (cs ds : List Char) :
    replaceChars table (cs ++ ds) = replaceChars table cs ++ replaceChars table ds := by
  induction table generalizing cs ds with
  | nil => rfl
  | cons entry table ih =>
    have hstep : replaceChar entry.1 entry.2 (cs ++ ds) =
        replaceChar entry.1 entry.2 cs ++ replaceChar entry.1 entry.2 ds := List.flatMap_append
    show replaceChars table (replaceChar entry.1 entry.2 (cs ++ ds)) = _
    rw [hstep, ih]
    rfl

theorem replaceChars_of_not_mem (h : c ∉ table.map Prod.fst) : replaceChars table [c] = [c] := by
  induction table with
  | nil => rfl
  | cons entry table ih =>
    rw [List.map_cons, List.mem_cons, not_or] at h
    have hstep : replaceChar entry.1 entry.2 [c] = [c] := by simp [replaceChar, h.1]
    show replaceChars table (replaceChar entry.1 entry.2 [c]) = [c]
    rw [hstep, ih h.2]

end

/-- A character is written as its entity, or it has none and stays. -/
theorem escapeChar_cases (c : Char) :
    (c, escapeChar c) ∈ entities ∨ c ∉ entities.map Prod.fst ∧ escapeChar c = [c] := by
  unfold escapeChar
  split
  case h_6 hamp hlt hgt hquot hapos =>
    refine .inr ⟨?_, rfl⟩
    simp only [entities, List.map_cons, List.map_nil, List.mem_cons, List.not_mem_nil, or_false,
      not_or]
    exact ⟨hamp, hlt, hgt, hquot, hapos⟩
  all_goals exact .inl (by decide)

/-- The entity of the ampersand is left alone by the replacements that follow. -/
theorem replaceChars_singleton (c : Char) : replaceChars entities [c] = escapeChar c := by
  have hentities : ∀ entry ∈ entities, replaceChars entities [entry.1] = entry.2 := by decide
  rcases escapeChar_cases c with hmem | ⟨hnot, hself⟩
  · exact hentities (c, escapeChar c) hmem
  · rw [replaceChars_of_not_mem hnot, hself]

/-- The single pass treats each character on its own. -/
theorem replaceChars_entities (cs : List Char) :
    replaceChars entities cs = cs.flatMap escapeChar := by
  induction cs with
  | nil => exact replaceChars_nil
  | cons c cs ih =>
    rw [← List.singleton_append, replaceChars_append, replaceChars_singleton, ih]
    rfl

/-- **Five passes are one**: escaping treats each character on its own. -/
theorem toList_escape (s : String) : (escape s).toList = s.toList.flatMap escapeChar := by
  rw [escape, String.toList_ofList, replaceChars_entities]

theorem escape_append (s t : String) : escape (s ++ t) = escape s ++ escape t := by
  apply String.toList_injective
  rw [String.toList_append, toList_escape, toList_escape, toList_escape, String.toList_append,
    List.flatMap_append]

/-! ## Reading back -/

/-- Each of the five entities read as its character, from the left. -/
def unescapeChars : List Char → List Char
  | '&' :: 'a' :: 'm' :: 'p' :: ';' :: rest => '&' :: unescapeChars rest
  | '&' :: 'l' :: 't' :: ';' :: rest => '<' :: unescapeChars rest
  | '&' :: 'g' :: 't' :: ';' :: rest => '>' :: unescapeChars rest
  | '&' :: 'q' :: 'u' :: 'o' :: 't' :: ';' :: rest => '"' :: unescapeChars rest
  | '&' :: '#' :: '3' :: '9' :: ';' :: rest => '\'' :: unescapeChars rest
  | c :: rest => c :: unescapeChars rest
  | [] => []

/-- A text with its entities read. -/
def unescape (s : String) : String :=
  String.ofList (unescapeChars s.toList)

theorem unescapeChars_cons {c : Char} (h : c ≠ '&') (rest : List Char) :
    unescapeChars (c :: rest) = c :: unescapeChars rest := by
  conv_lhs => unfold unescapeChars
  split <;> simp_all

/-- One escaped character is read back in front of any text. -/
theorem unescapeChars_escapeChar_append (c : Char) (rest : List Char) :
    unescapeChars (escapeChar c ++ rest) = c :: unescapeChars rest := by
  unfold escapeChar
  split
  case h_6 hamp _ _ _ _ => exact unescapeChars_cons hamp rest
  all_goals rfl

theorem unescapeChars_flatMap (cs : List Char) : unescapeChars (cs.flatMap escapeChar) = cs := by
  induction cs with
  | nil => rfl
  | cons c cs ih => rw [List.flatMap_cons, unescapeChars_escapeChar_append, ih]

/-- Escaped texts are read back. -/
theorem unescape_escape (s : String) : unescape (escape s) = s := by
  rw [unescape, toList_escape, unescapeChars_flatMap, String.ofList_toList]

/-- Different texts stay different. -/
theorem escape_injective : Function.Injective escape :=
  Function.LeftInverse.injective unescape_escape

/-! ## What an escaped text holds -/

theorem not_special_of_mem_escapeChar {c x : Char} (h : x ∈ escapeChar c) :
    x ≠ '<' ∧ x ≠ '>' ∧ x ≠ '"' ∧ x ≠ '\'' := by
  have hentities : ∀ entry ∈ entities, ∀ x ∈ entry.2,
      x ≠ '<' ∧ x ≠ '>' ∧ x ≠ '"' ∧ x ≠ '\'' := by simp [entities]
  rcases escapeChar_cases c with hmem | ⟨hnot, hself⟩
  · exact hentities (c, escapeChar c) hmem x h
  · rw [hself, List.mem_singleton] at h
    subst h
    simp only [entities, List.map_cons, List.map_nil, List.mem_cons, not_or] at hnot
    exact ⟨hnot.2.1, hnot.2.2.1, hnot.2.2.2.1, hnot.2.2.2.2.1⟩

/-- An escaped text has none of the characters that markup is made of. -/
theorem not_special_of_mem_escape {s : String} {x : Char} (h : x ∈ (escape s).toList) :
    x ≠ '<' ∧ x ≠ '>' ∧ x ≠ '"' ∧ x ≠ '\'' := by
  rw [toList_escape, List.mem_flatMap] at h
  obtain ⟨c, -, hc⟩ := h
  exact not_special_of_mem_escapeChar hc

/-- An ampersand in what is written for a character is the first character of an entity. -/
theorem mem_entities_of_escapeChar_eq {c : Char} {before after : List Char}
    (h : escapeChar c = before ++ '&' :: after) : before = [] ∧ (c, '&' :: after) ∈ entities := by
  have hentities : ∀ entry ∈ entities, '&' ∉ entry.2.tail := by decide
  rcases escapeChar_cases c with hmem | ⟨hnot, hself⟩
  · cases before with
    | nil =>
      rw [List.nil_append] at h
      exact ⟨rfl, h ▸ hmem⟩
    | cons x before =>
      have htail := hentities (c, escapeChar c) hmem
      rw [h] at htail
      exact absurd (List.mem_append_right before (List.mem_cons_self ..)) htail
  · have hamp : '&' ∈ escapeChar c := by rw [h]; simp
    rw [hself, List.mem_singleton] at hamp
    exact absurd (hamp ▸ by decide) hnot

/-- An ampersand in an escaped text begins an entity. -/
theorem exists_entity_prefix {cs before after : List Char}
    (h : cs.flatMap escapeChar = before ++ '&' :: after) :
    ∃ entry ∈ entities, entry.2 <+: '&' :: after := by
  induction cs generalizing before with
  | nil => simp at h
  | cons c cs ih =>
    rw [List.flatMap_cons, List.append_eq_append_iff] at h
    -- the ampersand stands behind what is written for the first character, or in it
    rcases h with ⟨behind, -, hrest⟩ | ⟨inside, hfirst, hrest⟩
    · exact ih hrest
    · cases inside with
      | nil =>
        have hstart : cs.flatMap escapeChar = [] ++ '&' :: after := hrest.symm
        exact ih hstart
      | cons x inside =>
        obtain ⟨rfl, rfl⟩ := List.cons.inj hrest
        obtain ⟨-, hmem⟩ := mem_entities_of_escapeChar_eq hfirst
        exact ⟨_, hmem, List.prefix_append ('&' :: inside) _⟩

/-- **Escaped texts are faithful.** No character of an escaped text begins or ends a tag or a quoted
attribute, and each ampersand in it begins one of the five entities. The replacements one after the
other give what a single pass gives, and the entities are read back as the text: so different texts
are escaped differently, and a text is escaped part by part. -/
theorem escape_faithful :
    (∀ s, ∀ c ∈ (escape s).toList, c ≠ '<' ∧ c ≠ '>' ∧ c ≠ '"' ∧ c ≠ '\'') ∧
    (∀ s before after, (escape s).toList = before ++ '&' :: after →
      ∃ entity ∈ ["&amp;", "&lt;", "&gt;", "&quot;", "&#39;"], entity.toList <+: '&' :: after) ∧
    (∀ s, escape s = escapeOnce s) ∧
    (∀ s, unescape (escape s) = s) ∧
    Function.Injective escape ∧
    ∀ s t, escape (s ++ t) = escape s ++ escape t := by
  have htexts : ∀ entry ∈ entities,
      ∃ entity ∈ ["&amp;", "&lt;", "&gt;", "&quot;", "&#39;"], entity.toList = entry.2 := by decide
  refine ⟨fun s c => not_special_of_mem_escape, ?ampersands, ?once, unescape_escape,
    escape_injective, escape_append⟩
  case ampersands =>
    intro s before after h
    rw [toList_escape] at h
    obtain ⟨entry, hmem, hprefix⟩ := exists_entity_prefix h
    obtain ⟨entity, hentity, hchars⟩ := htexts entry hmem
    exact ⟨entity, hentity, hchars ▸ hprefix⟩
  case once =>
    intro s
    apply String.toList_injective
    rw [toList_escape, escapeOnce, String.toList_ofList]

/-- In the text of an entity the ampersand is escaped, and the entity itself is not read back. -/
theorem escape_faithful_of_entity :
    let s := "<b title=\"&lt;\">"
    let before := "&lt;b title=&quot;".toList
    let after := "amp;lt;&quot;&gt;".toList
    (escape s).toList = before ++ '&' :: after ∧
      (∃ entity ∈ ["&amp;", "&lt;", "&gt;", "&quot;", "&#39;"], entity.toList <+: '&' :: after) ∧
      '&' ∈ (escape s).toList ∧ ('&' ≠ '<' ∧ '&' ≠ '>' ∧ '&' ≠ '"' ∧ '&' ≠ '\'') ∧
      unescape (escape s) = s := by
  intro s before after
  have hsplit : (escape s).toList = before ++ '&' :: after := by decide
  have hmem : '&' ∈ (escape s).toList := by rw [hsplit]; simp
  obtain ⟨hspecial, hampersands, -, hread, -⟩ := escape_faithful
  exact ⟨hsplit, hampersands s before after hsplit, hmem, hspecial s '&' hmem, hread s⟩

/-! ## Texts without entities -/

/-- No character of the text has an entity. -/
def IsPlain (s : String) : Prop :=
  ∀ c ∈ s.toList, escapeChar c = [c]

instance (s : String) : Decidable (IsPlain s) :=
  List.decidableBAll _ _

/-- A plain text is not changed. -/
theorem IsPlain.escape_eq {s : String} (h : IsPlain s) : escape s = s := by
  apply String.toList_injective
  rw [toList_escape, List.flatMap_congr h, List.flatMap_singleton']

@[simp] theorem isPlain_append {s t : String} : IsPlain (s ++ t) ↔ IsPlain s ∧ IsPlain t := by
  simp only [IsPlain, String.toList_append, List.forall_mem_append]

theorem IsPlain.append {s t : String} (hs : IsPlain s) (ht : IsPlain t) : IsPlain (s ++ t) :=
  isPlain_append.2 ⟨hs, ht⟩

theorem isPlain_ofList {cs : List Char} :
    IsPlain (String.ofList cs) ↔ ∀ c ∈ cs, escapeChar c = [c] := by
  rw [IsPlain, String.toList_ofList]

theorem isPlain_intercalate {between : String} {texts : List String} (hbetween : IsPlain between)
    (htexts : ∀ text ∈ texts, IsPlain text) : IsPlain (between.intercalate texts) := by
  induction texts with
  | nil => rw [String.intercalate_nil]; decide
  | cons text texts ih =>
    obtain ⟨htext, htexts⟩ := List.forall_mem_cons.1 htexts
    cases texts with
    | nil => simpa using htext
    | cons next texts =>
      rw [String.intercalate_cons_cons]
      exact (htext.append hbetween).append (ih htexts)

/-- Letters and digits have no entity. -/
theorem escapeChar_of_isAlphanum {c : Char} (h : c.isAlphanum) : escapeChar c = [c] := by
  unfold escapeChar
  split <;> first | rfl | exact absurd h (by decide)

/-- Lower-casing keeps letters and digits. -/
theorem isAlphanum_toLower {c : Char} (h : c.isAlphanum) : c.toLower.isAlphanum := by
  unfold Char.toLower
  split
  · next hupper =>
    -- a capital becomes a small letter
    have hval : 65 ≤ c.toNat ∧ c.toNat ≤ 90 := by
      simpa [UInt32.le_iff_toNat_le] using hupper
    have hlow : 'a'.val ≤ c.val + 32 := by
      simp [UInt32.le_iff_toNat_le]
      omega
    have hhigh : c.val + 32 ≤ 'z'.val := by
      simp [UInt32.le_iff_toNat_le]
      omega
    have hlower : (decide ('a'.val ≤ c.val + 32) && decide (c.val + 32 ≤ 'z'.val)) = true := by
      rw [decide_eq_true hlow, decide_eq_true hhigh, Bool.true_and]
    exact Bool.or_eq_true_iff.2 (.inl (Bool.or_eq_true_iff.2 (.inr hlower)))
  · exact h

end DiagnosticReport.Text
