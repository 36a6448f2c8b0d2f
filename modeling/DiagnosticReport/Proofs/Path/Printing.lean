import DiagnosticReport.Proofs.Path.Reading

/-!
# Printing paths

`Path.toString` writes a path with dots between its segments and its selector in brackets. Reading
gives back a printed path if each of its parts keeps apart from the marks around it
(`Path.IsPrintable`); a path that was read meets most of these conditions from the start
(`Path.isPrintable_parse`).
-/

namespace DiagnosticReport

/-! ## Segments -/

namespace Segment

/-- The digits of a number have its value. -/
theorem digitsValue_toDigits (n : Nat) : Decimal.digitsValue (Nat.toDigits 10 n) = n :=
  Nat.ofDigitChars_ten_toDigits

theorem isDigit_of_mem_natText {n : Nat} {c : Char} (h : c ∈ (Decimal.natText n).toList) :
    c.isDigit := by
  rw [Decimal.natText, String.toList_ofList] at h
  exact Nat.isDigit_of_mem_toDigits (by decide) (by decide) h

/-- An index is a number below 2^64 in its only decimal, the one without needless zeros. -/
theorem index?_eq_some_iff {s : String} {n : Nat} :
    index? s = some n ↔ n < Nat.pow 2 64 ∧ s = Decimal.natText n := by
  simp only [index?]
  constructor
  · intro h
    split at h
    · cases h
    · split at h
      · next hgood =>
        cases h
        simpa using hgood
      · cases h
  · rintro ⟨hsmall, rfl⟩
    have hdigits : (Decimal.natText n).toList = Nat.toDigits 10 n := String.toList_ofList
    have hall : (Decimal.natText n).toList.all Char.isDigit :=
      List.all_eq_true.2 fun c hc => isDigit_of_mem_natText hc
    have hne : (Decimal.natText n).toList.isEmpty = false := by
      rw [hdigits]
      exact List.isEmpty_eq_false_iff.2 Nat.toDigits_ne_nil
    rw [hall, hne, hdigits, digitsValue_toDigits]
    simpa using hsmall

/-- A segment that its text names. -/
inductive IsPrintable : Segment → Prop
  | key {name : String} (ne_empty : name ≠ "") (dotless : '.' ∉ name.toList)
      (not_index : ∀ n < Nat.pow 2 64, name ≠ Decimal.natText n) : IsPrintable (.key name)
  | index {n : Nat} (small : n < Nat.pow 2 64) : IsPrintable (.index n)

/-- A printable segment is read back. -/
theorem IsPrintable.ofString_toString {s : Segment} (h : s.IsPrintable) :
    ofString s.toString = s := by
  cases h with
  | @key name _ _ hindex =>
    have hnone : index? name = none := by
      refine Option.eq_none_iff_forall_ne_some.2 fun n hn => ?_
      obtain ⟨hsmall, hname⟩ := index?_eq_some_iff.1 hn
      exact hindex n hsmall hname
    rw [toString, ofString, hnone]
  | @index n hsmall => rw [toString, ofString, index?_eq_some_iff.2 ⟨hsmall, rfl⟩]

/-- What a segment was read from is printed again. -/
theorem toString_ofString (text : String) : (ofString text).toString = text := by
  unfold ofString
  split
  · next n hn => exact (index?_eq_some_iff.1 hn).2.symm
  · rfl

theorem isPrintable_key {name : String} (hne : name ≠ "") (hdot : '.' ∉ name.toList)
    (h : index? name = none) : (key name).IsPrintable := by
  refine .key hne hdot fun n hsmall hname => ?_
  rw [index?_eq_some_iff.2 ⟨hsmall, hname⟩] at h
  cases h

/-- What a piece without dots is read as is printable. -/
theorem isPrintable_ofString {text : String} (hne : text ≠ "") (hdot : '.' ∉ text.toList) :
    (ofString text).IsPrintable := by
  unfold ofString
  split
  · next n hn => exact .index (index?_eq_some_iff.1 hn).1
  · next hnone => exact isPrintable_key hne hdot hnone

theorem IsPrintable.toString_ne_empty {s : Segment} (h : s.IsPrintable) : s.toString ≠ "" := by
  cases h with
  | key hne => exact hne
  | index => exact fun hempty => Nat.toDigits_ne_nil (String.ofList_eq_empty_iff.1 hempty)

theorem IsPrintable.dot_not_mem {s : Segment} (h : s.IsPrintable) : '.' ∉ s.toString.toList := by
  cases h with
  | key _ hdot => exact hdot
  | index => exact fun hmem => absurd (isDigit_of_mem_natText hmem) (by decide)

end Segment

/-! ## Texts -/

/-- What stands between the brackets. What a malformed group held is lost; any text without an
equals sign stands for it. -/
def Bracket.inside? : Bracket → Option String
  | absent => none
  | selector s => some (s.key ++ "=" ++ s.value)
  | malformed => some "?"

/-- A text in brackets. -/
def bracketed? (inside : Option String) : String :=
  (inside.map fun text => "[" ++ text ++ "]").getD ""

/-- Texts with dots between them. -/
def dotted (texts : List String) : String :=
  String.intercalate "." texts

namespace Path

/-- The text of a path: segments of the remainder have a dot before each of them. -/
def toString (path : Path) : String :=
  dotted (path.base.map Segment.toString) ++ bracketed? path.bracket.inside? ++
    dotted ("" :: path.remainder.map Segment.toString)

/-- A path that its text names. -/
structure IsPrintable (path : Path) : Prop where
  base_ne_nil : path.base ≠ []
  segments : ∀ s ∈ path.base ++ path.remainder, s.IsPrintable
  base : ∀ s ∈ path.base, '[' ∉ s.toString.toList
  /-- A plain path has all its segments in the base. -/
  plain : path.bracket = .absent → path.remainder = []
  key : ∀ s, path.bracket = .selector s → '=' ∉ s.key.toList ∧ ']' ∉ s.key.toList
  value : ∀ s, path.bracket = .selector s → ']' ∉ s.value.toList
  remainder : ∀ s ∈ path.remainder, '\n' ∉ s.toString.toList
  trimmed : Text.IsTrimmed path.toString.toList

/-! ## Reading what was printed -/

theorem toList_dotted (texts : List String) :
    (dotted texts).toList = ['.'].intercalate (texts.map String.toList) :=
  String.toList_intercalate

/-- The pieces of texts with dots between them are the texts that are not empty. -/
theorem pieces_dotted {texts : List String} (hne : texts ≠ [])
    (hdot : ∀ text ∈ texts, '.' ∉ text.toList) :
    pieces (dotted texts).toList = texts.filter (· ≠ "") := by
  have hsplit : (['.'].intercalate (texts.map String.toList)).splitOn '.' =
      texts.map String.toList := by
    refine List.splitOn_intercalate '.' ?_ (by simpa using hne)
    simpa using hdot
  have hkept : (fun text : String => !text.toList.isEmpty) = fun text => decide (text ≠ "") := by
    funext text
    rw [Bool.eq_iff_iff]
    simp
  rw [pieces, toList_dotted, hsplit, List.filter_map, List.map_map]
  simp only [Function.comp_def, String.ofList_toList, List.map_id', hkept]

section

variable {parts : List Segment} (h : ∀ s ∈ parts, s.IsPrintable)

include h

theorem map_ofString_filter :
    ((parts.map Segment.toString).filter (· ≠ "")).map Segment.ofString = parts := by
  have hkept : (parts.map Segment.toString).filter (· ≠ "") = parts.map Segment.toString :=
    List.filter_eq_self.2 (by simpa using fun s hs => (h s hs).toString_ne_empty)
  rw [hkept, List.map_map]
  calc parts.map (Segment.ofString ∘ Segment.toString)
    _ = parts.map id := List.map_congr_left fun s hs => (h s hs).ofString_toString
    _ = parts := List.map_id _

/-- Printable segments are read back from between their dots. -/
theorem segments_dotted (hne : parts ≠ []) :
    Path.segments (dotted (parts.map Segment.toString)).toList = parts := by
  rw [Path.segments, pieces_dotted (by simpa using hne)
    (by simpa using fun s hs => (h s hs).dot_not_mem), map_ofString_filter h]

/-- They are so behind a dot as well. -/
theorem segments_dotted_after :
    Path.segments (dotted ("" :: parts.map Segment.toString)).toList = parts := by
  have hdot : ∀ text ∈ "" :: parts.map Segment.toString, '.' ∉ text.toList := by
    simpa using fun s hs => (h s hs).dot_not_mem
  rw [Path.segments, pieces_dotted (List.cons_ne_nil _ _) hdot,
    List.filter_cons_of_neg (by simp), map_ofString_filter h]

end

/-- A character other than the dot comes from one of the texts. -/
theorem not_mem_dotted {c : Char} (hc : c ≠ '.') {texts : List String}
    (h : ∀ text ∈ texts, c ∉ text.toList) : c ∉ (dotted texts).toList := by
  rw [toList_dotted]
  induction texts with
  | nil => exact List.not_mem_nil
  | cons text rest ih =>
    obtain ⟨htext, hrest⟩ := List.forall_mem_cons.1 h
    cases rest with
    | nil => rwa [List.map_singleton, List.intercalate_singleton]
    | cons next rest =>
      have ih := ih hrest
      rw [List.map_cons] at ih
      rw [List.map_cons, List.map_cons, List.intercalate_cons_cons]
      simp [hc, htext, ih]

/-- What a printable bracket holds is read as that bracket, and ends at its closing bracket. -/
theorem IsPrintable.insideBracket_eq {path : Path} (h : path.IsPrintable) {inside : String}
    (hinside : path.bracket.inside? = some inside) :
    insideBracket inside.toList = path.bracket ∧ ']' ∉ inside.toList ∧ inside.toList ≠ [] := by
  cases hbracket : path.bracket with
  | absent =>
    rw [hbracket] at hinside
    cases hinside
  | malformed =>
    rw [hbracket] at hinside
    cases hinside
    exact ⟨rfl, by decide, by decide⟩
  | selector s =>
    rw [hbracket] at hinside
    cases hinside
    obtain ⟨hequals, hkey⟩ := h.key s hbracket
    have hvalue := h.value s hbracket
    have hlist : (s.key ++ "=" ++ s.value).toList = s.key.toList ++ '=' :: s.value.toList := by
      simp [String.toList_append]
    rw [hlist, insideBracket, cutAt?_append_cons hequals]
    exact ⟨by simp, by simp [hkey, hvalue], by simp⟩

/-- A printable path is read back. -/
theorem IsPrintable.parse_printed {path : Path} (h : path.IsPrintable) :
    parse path.toString = path := by
  obtain ⟨hbase, hremainder⟩ := List.forall_mem_append.1 h.segments
  have hopen : '[' ∉ (dotted (path.base.map Segment.toString)).toList :=
    not_mem_dotted (by decide) (by simpa using h.base)
  have hsegments := segments_dotted hbase h.base_ne_nil
  cases hinside : path.bracket.inside? with
  | none =>
    have habsent : path.bracket = .absent := by
      cases hbracket : path.bracket with
      | absent => rfl
      | _ => rw [hbracket] at hinside; cases hinside
    have hplain := h.plain habsent
    have htext : path.toString = dotted (path.base.map Segment.toString) := by
      rw [toString, hinside, hplain]
      simp [bracketed?, dotted]
    rw [parse_of_bracketParts?_eq_none h.trimmed, htext, hsegments, ← habsent, ← hplain]
    exact bracketParts?_eq_none_of_not_mem (htext ▸ hopen)
  | some inside =>
    obtain ⟨hread, hclose, hne⟩ := h.insideBracket_eq hinside
    have hbefore : (dotted (path.base.map Segment.toString)).toList ≠ [] := by
      intro hnil
      rw [hnil] at hsegments
      exact h.base_ne_nil hsegments.symm
    have hline : '\n' ∉ (dotted ("" :: path.remainder.map Segment.toString)).toList :=
      not_mem_dotted (by decide) (by simpa using h.remainder)
    have hparts : bracketParts? path.toString.toList =
        some ((dotted (path.base.map Segment.toString)).toList, inside.toList,
          (dotted ("" :: path.remainder.map Segment.toString)).toList) := by
      refine bracketParts?_eq_some_iff.2 ⟨?_, hopen, hclose, hbefore, hne, hline⟩
      rw [toString, hinside]
      simp [bracketed?, String.toList_append]
    rw [parse_of_bracketParts?_eq_some h.trimmed hparts, hsegments, hread,
      segments_dotted_after hremainder]

/-! ## Printing what was read -/

/-- The pieces between dots have none. -/
theorem mem_splitOn {a : Char} {cs piece : List Char} (h : piece ∈ cs.splitOn a) :
    a ∉ piece ∧ piece ⊆ cs := by
  induction cs generalizing piece with
  | nil =>
    rw [List.splitOn_nil, List.mem_singleton] at h
    simp [h]
  | cons c cs ih =>
    rw [List.splitOn_cons_eq_if_modifyHead] at h
    split at h
    · rcases List.mem_cons.1 h with rfl | h
      · simp
      · exact ⟨(ih h).1, List.subset_cons_of_subset _ (ih h).2⟩
    · next hne =>
      obtain ⟨first, rest, hsplit⟩ := List.exists_cons_of_ne_nil (List.splitOn_ne_nil a cs)
      rw [hsplit] at h ih
      rcases List.mem_cons.1 h with rfl | h
      · obtain ⟨hnot, hsub⟩ := ih (List.mem_cons_self ..)
        have hc : a ≠ c := fun e => hne (beq_iff_eq.2 e.symm)
        exact ⟨List.not_mem_cons_of_ne_of_not_mem hc hnot, List.cons_subset_cons c hsub⟩
      · obtain ⟨hnot, hsub⟩ := ih (List.mem_cons_of_mem _ h)
        exact ⟨hnot, List.subset_cons_of_subset _ hsub⟩

/-- The segments of a text are printable, and their characters are from the text. -/
theorem mem_segments {cs : List Char} {s : Segment} (h : s ∈ Path.segments cs) :
    s.IsPrintable ∧ s.toString.toList ⊆ cs := by
  obtain ⟨text, htext, rfl⟩ := List.mem_map.1 h
  obtain ⟨piece, hpiece, rfl⟩ := List.mem_map.1 htext
  obtain ⟨hmem, hne⟩ := List.mem_filter.1 hpiece
  obtain ⟨hdot, hsub⟩ := mem_splitOn hmem
  rw [Segment.toString_ofString, String.toList_ofList]
  refine ⟨Segment.isPrintable_ofString ?_ (by rwa [String.toList_ofList]), hsub⟩
  simpa using hne

/-- The texts of a selector stand in its brackets. -/
theorem selector_of_insideBracket {inside : List Char} {s : Selector}
    (h : insideBracket inside = .selector s) :
    '=' ∉ s.key.toList ∧ s.key.toList ⊆ inside ∧ s.value.toList ⊆ inside := by
  unfold insideBracket at h
  split at h
  · next key value hcut =>
    cases h
    obtain ⟨rfl, hkey⟩ := cutAt?_eq_some_iff.1 hcut
    simp only [String.toList_ofList]
    exact ⟨hkey, List.subset_append_left .., fun c hc => by simp [hc]⟩
  · cases h

/-- A path that was read is printable if it has a base, no segment of the base holds a bracket and
the text of the path is trimmed. -/
theorem isPrintable_parse {text : String} (hne : (parse text).base ≠ [])
    (hbase : ∀ s ∈ (parse text).base, '[' ∉ s.toString.toList)
    (htrim : Text.IsTrimmed (parse text).toString.toList) : (parse text).IsPrintable := by
  cases hparts : bracketParts? (Text.trimChars text.toList) with
  | none =>
    have hread : parse text = ⟨segments (Text.trimChars text.toList), .absent, []⟩ := by
      rw [parse_eq, hparts]
    rw [hread] at hne hbase htrim ⊢
    refine ⟨hne, fun s hs => ?_, hbase, fun _ => rfl, nofun, nofun, nofun, htrim⟩
    exact (mem_segments (by simpa using hs)).1
  | some parts =>
    obtain ⟨before, inside, after⟩ := parts
    have hread : parse text = ⟨segments before, insideBracket inside, segments after⟩ := by
      rw [parse_eq, hparts]
    obtain ⟨-, -, hclose, -, -, hline⟩ := bracketParts?_eq_some_iff.1 hparts
    rw [hread] at hne hbase htrim ⊢
    refine ⟨hne, fun s hs => ?_, hbase, fun h => absurd h (insideBracket_ne_absent inside),
      fun s hs => ?_, fun s hs => ?_, fun s hs => ?_, htrim⟩
    · rcases List.mem_append.1 hs with hs | hs
      · exact (mem_segments hs).1
      · exact (mem_segments hs).1
    · obtain ⟨hequals, hkey, -⟩ := selector_of_insideBracket hs
      exact ⟨hequals, fun hmem => hclose (hkey hmem)⟩
    · obtain ⟨-, -, hvalue⟩ := selector_of_insideBracket hs
      exact fun hmem => hclose (hvalue hmem)
    · exact fun hmem => hline ((mem_segments hs).2 hmem)

/-- **Printing and reading paths.** A printable path is read back from its text. So a path that was
read is read again from the text that is printed for it, as soon as it has a base without opening
brackets and the text is trimmed. -/
theorem parse_toString :
    (∀ path : Path, path.IsPrintable → parse path.toString = path) ∧
    ∀ text : String, (parse text).base ≠ [] →
      (∀ s ∈ (parse text).base, '[' ∉ s.toString.toList) →
      Text.IsTrimmed (parse text).toString.toList →
      parse (parse text).toString = parse text :=
  ⟨fun _ h => h.parse_printed, fun _ hne hbase htrim =>
    (isPrintable_parse hne hbase htrim).parse_printed⟩

/-- Keys and values may hold the other marks: a bracket, a dot, a line break, an equals sign. -/
theorem parse_toString_of_marks :
    let path : Path :=
      ⟨[.key "a]", .index 7, .key "01"], .selector ⟨"k[.", "\n=[."⟩, [.key "b[c]", .index 0]⟩
    path.IsPrintable ∧ parse "a].7.01[k[.=\n=[.].b[c].0" = path := by
  intro path
  have h : path.IsPrintable := by
    refine ⟨by simp [path], ?_, by decide, nofun, ?_, ?_, by decide, by decide⟩
    · have hkey : ∀ name ∈ ["a]", "01", "b[c]"], (Segment.key name).IsPrintable := by
        intro name hname
        have hall : ∀ name ∈ ["a]", "01", "b[c]"],
            name ≠ "" ∧ '.' ∉ name.toList ∧ Segment.index? name = none := by decide
        obtain ⟨hne, hdot, hindex⟩ := hall name hname
        exact Segment.isPrintable_key hne hdot hindex
      simp only [path, List.cons_append, List.nil_append, List.forall_mem_cons]
      exact ⟨hkey _ (by simp), .index (by decide), hkey _ (by simp), hkey _ (by simp),
        .index (by decide), nofun⟩
    · rintro s hs
      cases hs
      decide
    · rintro s hs
      cases hs
      decide
  exact ⟨h, parse_toString.1 path h⟩

end Path

end DiagnosticReport
