import DiagnosticReport.Proofs.Path.Reading

/-!
# Paths compose

A path of two parts with a dot between them names what the second part names in the value that the
first one names (`resolvePath?_append`). The first part may carry a bracket group, also one that
selects nothing or is no group at all; the second part is plain.
-/

namespace DiagnosticReport

namespace Path

/-! ## Steps -/

theorem walk?_append (start : Json) (first second : List Segment) :
    walk? start (first ++ second) = (walk? start first).bind fun value => walk? value second :=
  List.foldlM_append ..

theorem resolve?_absent {base : List Segment} (hbase : base ≠ []) (document : Json) :
    resolve? ⟨base, .absent, []⟩ document = walk? document base := by
  rw [resolve?, if_neg (by simpa using hbase)]
  exact Option.bind_fun_some _

/-- More segments at the end of a bracketed path are steps from the value that it names. -/
theorem resolve?_append_remainder (base : List Segment) {bracket : Bracket}
    (hbracket : bracket ≠ .absent) (remainder more : List Segment) (document : Json) :
    resolve? ⟨base, bracket, remainder ++ more⟩ document =
      (resolve? ⟨base, bracket, remainder⟩ document).bind fun value => walk? value more := by
  unfold resolve?
  split
  · rfl
  · cases bracket with
    | absent => exact absurd rfl hbracket
    | malformed => rfl
    | selector s =>
      simp only [Option.bind_eq_bind, Option.bind_assoc, walk?_append]

/-! ## Texts -/

/-- A text that can stand on either side of a dot: trimmed, and more than dots. -/
structure IsPart (cs : List Char) : Prop where
  trimmed : Text.IsTrimmed cs
  named : ∃ c ∈ cs, c ≠ '.'

/-- A text that can be added to a path: a part without brackets and line breaks. -/
structure IsPlain (cs : List Char) : Prop extends IsPart cs where
  no_open : '[' ∉ cs
  no_close : ']' ∉ cs
  no_line_break : '\n' ∉ cs

theorem IsPart.ne_nil {cs : List Char} (h : IsPart cs) : cs ≠ [] :=
  List.ne_nil_of_mem h.named.choose_spec.1

theorem IsPart.segments_ne_nil {cs : List Char} (h : IsPart cs) : segments cs ≠ [] :=
  Path.segments_ne_nil h.named

theorem IsPlain.parse_eq {q : String} (h : IsPlain q.toList) :
    parse q = ⟨segments q.toList, .absent, []⟩ :=
  parse_of_bracketParts?_eq_none h.trimmed (bracketParts?_eq_none_of_not_mem h.no_open)

theorem IsPlain.resolvePath?_eq {q : String} (h : IsPlain q.toList) (document : Json) :
    resolvePath? document q = walk? document (segments q.toList) := by
  rw [resolvePath?, h.parse_eq, resolve?_absent h.segments_ne_nil]

end Path

open DiagnosticReport.Path

/-- **Paths compose.** A path behind a dot is resolved in the value that the path before the dot
names; if there is no such value, the whole path names nothing. -/
theorem resolvePath?_append {p q : String} (hp : IsPart p.toList) (hq : IsPlain q.toList)
    (document : Json) :
    resolvePath? document (p ++ "." ++ q) =
      (resolvePath? document p).bind fun value => resolvePath? value q := by
  have hlist : (p ++ "." ++ q).toList = p.toList ++ '.' :: q.toList := by
    simp [String.toList_append]
  have htrim : Text.IsTrimmed (p ++ "." ++ q).toList := by
    have h := hp.trimmed.append hq.trimmed hp.ne_nil hq.ne_nil ['.']
    rwa [List.append_assoc, List.singleton_append, ← hlist] at h
  -- the dot and the plain path behind it stand after whatever brackets the first path has
  have hopen : '[' ∉ '.' :: q.toList := by simp [hq.no_open]
  have hclose : ']' ∉ '.' :: q.toList := by simp [hq.no_close]
  have hline : '\n' ∉ '.' :: q.toList := by simp [hq.no_line_break]
  have hparts := bracketParts?_append p.toList hopen hclose hline
  rw [← hlist] at hparts
  have hrest : (fun value => resolvePath? value q) = fun value => walk? value (segments q.toList) :=
    funext hq.resolvePath?_eq
  rw [hrest]
  cases hcut : bracketParts? p.toList with
  | none =>
    rw [hcut] at hparts
    rw [resolvePath?, resolvePath?, parse_of_bracketParts?_eq_none htrim hparts,
      parse_of_bracketParts?_eq_none hp.trimmed hcut, hlist, segments_append_dot,
      resolve?_absent (by simp [hp.segments_ne_nil]), resolve?_absent hp.segments_ne_nil,
      walk?_append]
  | some parts =>
    obtain ⟨before, inside, after⟩ := parts
    rw [hcut] at hparts
    rw [resolvePath?, resolvePath?, parse_of_bracketParts?_eq_some htrim hparts,
      parse_of_bracketParts?_eq_some hp.trimmed hcut, segments_append_dot,
      resolve?_append_remainder _ (insideBracket_ne_absent inside)]

/-- A path behind a bracket group steps into the element that the group selects. -/
theorem resolvePath?_append_selected :
    let item (code : String) (score : Int) : Json :=
      .object [("code", .string code), ("score", .number (.int score))]
    let document : Json := .object [("items", .array [item "A" 7, item "B" 9])]
    IsPart "items[code=B]".toList ∧ IsPlain "score".toList ∧
      resolvePath? document ("items[code=B]" ++ "." ++ "score") = some (.number (.int 9)) := by
  intro item document
  have hp : IsPart "items[code=B]".toList := ⟨by decide, 'i', by decide, by decide⟩
  have hq : IsPlain "score".toList :=
    ⟨⟨by decide, 's', by decide, by decide⟩, by decide, by decide, by decide⟩
  refine ⟨hp, hq, ?_⟩
  rw [resolvePath?_append hp hq]
  rfl

end DiagnosticReport
