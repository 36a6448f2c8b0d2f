import DiagnosticReport.Query.Source
import DiagnosticReport.Proofs.Binary64.Whole
import DiagnosticReport.Proofs.Path.Composition
import DiagnosticReport.Proofs.Path.Printing

/-!
# Two ways to select by an integer

A path `xs[k=n]` selects by the text of a field, a source with a filter `eq` by its float. The text
tells all integers apart, the float only those below `2 ^ 53` in magnitude: the path names the first
item that the source finds and that holds `n` itself, so the two agree as long as the first item
found holds no other integer with the float of `n` (`resolvePath?_selecting`).
-/

namespace DiagnosticReport

/-! ## Texts of integers -/

namespace Decimal

theorem natText_inj {m n : Nat} (h : natText m = natText n) : m = n := by
  have hdigits : Nat.toDigits 10 m = Nat.toDigits 10 n := String.ofList_injective h
  rw [← Segment.digitsValue_toDigits m, hdigits, Segment.digitsValue_toDigits]

theorem natText_ne_intText_negSucc (m n : Nat) : natText m ≠ intText (.negSucc n) := by
  intro h
  have hminus : '-' ∈ (intText (.negSucc n)).toList := by simp [intText, String.toList_append]
  rw [← h] at hminus
  exact absurd (Segment.isDigit_of_mem_natText hminus) (by decide)

/-- Different integers have different texts. -/
theorem intText_inj {m n : Int} (h : intText m = intText n) : m = n := by
  cases m with
  | ofNat m =>
    cases n with
    | ofNat n => exact congrArg Int.ofNat (natText_inj h)
    | negSucc n => exact absurd h (natText_ne_intText_negSucc m n)
  | negSucc m =>
    cases n with
    | ofNat n => exact absurd h.symm (natText_ne_intText_negSucc n m)
    | negSucc n =>
      have hrest := congrArg String.toList h
      simp only [intText, String.toList_append, List.append_cancel_left_eq, String.toList_inj]
        at hrest
      exact congrArg Int.negSucc (Nat.succ.inj (natText_inj hrest))

theorem eq_minus_or_isDigit_of_mem_intText {n : Int} {c : Char} (h : c ∈ (intText n).toList) :
    c = '-' ∨ c.isDigit := by
  cases n with
  | ofNat n => exact .inr (Segment.isDigit_of_mem_natText h)
  | negSucc n =>
    simp only [intText, String.toList_append, List.mem_append] at h
    exact h.imp List.mem_singleton.1 Segment.isDigit_of_mem_natText

/-- The text of an integer ends no bracket. -/
theorem close_not_mem_intText (n : Int) : ']' ∉ (intText n).toList := by
  intro hmem
  rcases eq_minus_or_isDigit_of_mem_intText hmem with hminus | hdigit
  · exact absurd hminus (by decide)
  · exact absurd hdigit (by decide)

end Decimal

/-! ## Items with an integer -/

/-- The item has the integer under the key. -/
def Json.holdsInt (key : String) (n : Int) (item : Json) : Bool :=
  match item.get? key with
  | some (.number (.int m)) => m == n
  | _ => false

/-- The filter for items whose number under the key equals an integer. -/
def Filter.equalsInt (key : String) (n : Int) : Filter :=
  { field := some key, operator := some .eq, value := some (.number (.int n)) }

section

variable {key : String} {item : Json} {m n : Int}

theorem Json.holdsInt_eq (h : item.get? key = some (.number (.int m))) :
    item.holdsInt key n = (m == n) := by
  rw [holdsInt, h]

theorem Json.textOf_eq_intText (h : item.get? key = some (.number (.int m))) :
    (textOf (item.get? key) == Decimal.intText n) = (m == n) := by
  rw [h, Bool.eq_iff_iff, beq_iff_eq, beq_iff_eq]
  exact ⟨Decimal.intText_inj, congrArg Decimal.intText⟩

/-- An equality filter compares integers through the floats nearest to them. -/
theorem Filter.passes_equalsInt (h : item.get? key = some (.number (.int m))) :
    (equalsInt key n).passes item =
      (Binary64.rank (Float.ofInt m) == Binary64.rank (Float.ofInt n)) := by
  have hpredicates : (equalsInt key n).predicates = [.compare key .eq (.number (.int n))] := rfl
  rw [passes, hpredicates, List.all_cons, List.all_nil, Bool.and_true]
  show Json.optionSameAs (item.get? key) _ = _
  rw [h]
  rfl

end

/-! ## The path and the source -/

/-- The path that selects by an integer under a key. -/
def Path.selecting (xs key : String) (n : Int) : String :=
  xs ++ "[" ++ key ++ "=" ++ Decimal.intText n ++ "]"

/-- The source that selects by an integer under a key. -/
def DataSource.selecting (id xs key : String) (n : Int) : DataSource :=
  { id := id, origin := xs, pipeline := { filters := [.equalsInt key n] } }

/-- A selecting source keeps all items that pass its filter. -/
theorem DataSource.resolve?_selecting {document : Json} {xs : String} {items : List Json}
    (h : resolvePath? document xs = some (.array items)) (id key : String) (n : Int) :
    (DataSource.selecting id xs key n).resolve? document =
      some (.array (items.filter (Filter.equalsInt key n).passes)) := by
  have hselect : Pipeline.select { filters := [.equalsInt key n] } items =
      items.filter (Filter.equalsInt key n).passes := by
    simp [Pipeline.select]
  show (resolvePath? document xs).map (Pipeline.apply { filters := [.equalsInt key n] }) = _
  rw [h, ← hselect]
  rfl

section

variable {document : Json} {xs key : String} {items : List Json} {n : Int}
variable (htrim : Text.IsTrimmed xs.toList) (hopen : '[' ∉ xs.toList)

include htrim hopen

/-- A path that names something, without brackets, walks over its segments. -/
theorem Path.walk?_of_resolvePath? {value : Json} (h : resolvePath? document xs = some value) :
    segments xs.toList ≠ [] ∧ walk? document (segments xs.toList) = some value := by
  rw [resolvePath?, parse_of_bracketParts?_eq_none htrim (bracketParts?_eq_none_of_not_mem hopen)]
    at h
  have hne : segments xs.toList ≠ [] := by
    intro hnil
    rw [hnil] at h
    cases h
  rw [resolve?_absent hne] at h
  exact ⟨hne, h⟩

variable (hequals : '=' ∉ key.toList) (hclose : ']' ∉ key.toList)

include hequals hclose

theorem Path.parse_selecting (hne : xs.toList ≠ []) (n : Int) :
    parse (selecting xs key n) =
      ⟨segments xs.toList, .selector ⟨key, Decimal.intText n⟩, []⟩ := by
  have hlist : (selecting xs key n).toList =
      xs.toList ++ '[' :: ((key.toList ++ '=' :: (Decimal.intText n).toList) ++ ']' :: []) := by
    simp [selecting, String.toList_append]
  have htrimmed : Text.IsTrimmed (selecting xs key n).toList := by
    have hend : Text.IsTrimmed [']'] := by decide
    have h := htrim.append hend hne (by simp)
      ('[' :: (key.toList ++ '=' :: (Decimal.intText n).toList))
    rw [hlist]
    simpa using h
  have hinside : ']' ∉ key.toList ++ '=' :: (Decimal.intText n).toList := by
    simp [hclose, Decimal.close_not_mem_intText]
  have hparts := bracketParts?_eq_some_iff.2
    ⟨hlist, hopen, hinside, hne, by simp, List.not_mem_nil⟩
  rw [parse_of_bracketParts?_eq_some htrimmed hparts, insideBracket, cutAt?_append_cons hequals]
  simp only [String.ofList_toList]
  rfl

/-- A selecting path finds the first item whose text is that of the integer. -/
theorem Path.resolvePath?_eq_find? (h : resolvePath? document xs = some (.array items))
    (n : Int) :
    resolvePath? document (selecting xs key n) =
      items.find? fun item => Json.textOf (item.get? key) == Decimal.intText n := by
  obtain ⟨hsegments, hwalk⟩ := walk?_of_resolvePath? htrim hopen h
  have hne : xs.toList ≠ [] := by
    intro hnil
    rw [hnil] at hsegments
    exact hsegments rfl
  rw [resolvePath?, parse_selecting htrim hopen hequals hclose hne, resolve?,
    if_neg (by simpa using hsegments)]
  simp only [hwalk, Option.bind_eq_bind, Option.bind_some, Selector.select?]
  exact Option.bind_fun_some _

end

/-! ## The verdicts -/

theorem find?_eq_head?_iff {α : Type} {p : α → Bool} {xs : List α} :
    xs.find? p = xs.head? ↔ ∀ first ∈ xs.head?, p first := by
  constructor
  · intro h first hfirst
    rw [← h] at hfirst
    exact List.find?_some hfirst
  · intro h
    cases xs with
    | nil => rfl
    | cons x xs => exact List.find?_cons_of_pos (h x rfl)

/-- **Selecting by an integer.** Of the items that the source finds, the path names the first one
that holds the integer itself. So it names the first item found if and only if that one holds the
integer, which is so for every integer below `2 ^ 53` in magnitude; then the path names nothing
exactly if the source finds no item. -/
theorem resolvePath?_selecting {document : Json} {xs key : String} {items : List Json}
    (htrim : Text.IsTrimmed xs.toList) (hopen : '[' ∉ xs.toList)
    (hequals : '=' ∉ key.toList) (hclose : ']' ∉ key.toList)
    (harray : resolvePath? document xs = some (.array items))
    (hitems : ∀ item ∈ items, ∃ m : Int, item.get? key = some (.number (.int m)))
    (id : String) (n : Int) :
    ∃ found, (DataSource.selecting id xs key n).resolve? document = some (.array found) ∧
      resolvePath? document (Path.selecting xs key n) = found.find? (Json.holdsInt key n) ∧
      (resolvePath? document (Path.selecting xs key n) = found.head? ↔
        ∀ first ∈ found.head?, first.holdsInt key n) ∧
      (n.natAbs < 2 ^ 53 →
        resolvePath? document (Path.selecting xs key n) = found.head? ∧
        (resolvePath? document (Path.selecting xs key n) = none ↔ found = [])) := by
  -- texts tell integers apart, and what holds the integer passes the filter
  have htexts : ∀ item ∈ items, (Json.textOf (item.get? key) == Decimal.intText n) =
      (item.holdsInt key n && (Filter.equalsInt key n).passes item) := by
    intro item hitem
    obtain ⟨m, hm⟩ := hitems item hitem
    rw [Json.textOf_eq_intText hm, Json.holdsInt_eq hm, Filter.passes_equalsInt hm]
    by_cases hmn : m = n
    · simp [hmn]
    · simp [hmn]
  have hfirst : resolvePath? document (Path.selecting xs key n) =
      (items.filter (Filter.equalsInt key n).passes).find? (Json.holdsInt key n) := by
    rw [Path.resolvePath?_eq_find? htrim hopen hequals hclose harray, ← List.head?_filter,
      ← List.head?_filter, List.filter_filter, List.filter_congr htexts]
  -- an item that passes may hold another integer with the same float, but only a large one
  have hexact (hsmall : n.natAbs < 2 ^ 53) :
      ∀ item ∈ items.filter (Filter.equalsInt key n).passes, item.holdsInt key n := by
    intro item hitem
    obtain ⟨hmem, hpasses⟩ := List.mem_filter.1 hitem
    obtain ⟨m, hm⟩ := hitems item hmem
    rw [Filter.passes_equalsInt hm, beq_iff_eq, Binary64.rank_ofInt_eq_iff hsmall] at hpasses
    rw [Json.holdsInt_eq hm, hpasses, beq_self_eq_true]
  refine ⟨_, DataSource.resolve?_selecting harray id key n, hfirst, ?_, fun hsmall => ?_⟩
  · rw [hfirst]
    exact find?_eq_head?_iff
  · have hhead : resolvePath? document (Path.selecting xs key n) =
        (items.filter (Filter.equalsInt key n).passes).head? := by
      rw [hfirst]
      exact find?_eq_head?_iff.2 fun first hmem => hexact hsmall first (List.mem_of_head? hmem)
    exact ⟨hhead, by rw [hhead, List.head?_eq_none_iff]⟩

/-- Among small integers the path names the first item that the source finds. -/
theorem resolvePath?_selecting_of_small_integers :
    let item (code : Int) (name : String) : Json :=
      .object [("code", .number (.int code)), ("name", .string name)]
    let items : List Json := [item 3 "A", item 7 "B", item 7 "C"]
    let document : Json := .object [("items", .array items)]
    resolvePath? document "items" = some (.array items) ∧
      (∀ item ∈ items, ∃ m : Int, item.get? "code" = some (.number (.int m))) ∧
      ∃ found, (DataSource.selecting "found" "items" "code" 7).resolve? document =
          some (.array found) ∧
        resolvePath? document (Path.selecting "items" "code" 7) = found.head? ∧
        (resolvePath? document (Path.selecting "items" "code" 7) = none ↔ found = []) := by
  intro item items document
  have harray : resolvePath? document "items" = some (.array items) := rfl
  have hitems : ∀ item ∈ items, ∃ m : Int, item.get? "code" = some (.number (.int m)) := by
    simp only [items, List.forall_mem_cons, List.not_mem_nil, false_implies, implies_true, and_true]
    exact ⟨⟨3, rfl⟩, ⟨7, rfl⟩, ⟨7, rfl⟩⟩
  obtain ⟨found, hfound, -, -, hsmall⟩ := resolvePath?_selecting (by decide) (by decide) (by decide)
    (by decide) harray hitems "found" 7
  exact ⟨harray, hitems, found, hfound, hsmall (by decide)⟩

/-- Two integers beyond `2 ^ 53` share a float: the source finds an item that the path misses. -/
theorem resolvePath?_selecting_of_shared_float :
    let item : Json := .object [("k", .number (.int 9007199254740993))]
    let document : Json := .object [("xs", .array [item])]
    (DataSource.selecting "d" "xs" "k" 9007199254740992).resolve? document =
        some (.array [item]) ∧
      resolvePath? document (Path.selecting "xs" "k" 9007199254740992) = none := by
  intro item document
  have harray : resolvePath? document "xs" = some (.array [item]) := rfl
  have hkey : item.get? "k" = some (.number (.int 9007199254740993)) := rfl
  have hpasses : (Filter.equalsInt "k" 9007199254740992).passes item := by
    rw [Filter.passes_equalsInt hkey]
    decide
  have hmisses : ¬ Json.textOf (item.get? "k") == Decimal.intText 9007199254740992 := by
    rw [Json.textOf_eq_intText hkey]
    decide
  refine ⟨?_, ?_⟩
  · rw [DataSource.resolve?_selecting harray, List.filter_cons_of_pos hpasses, List.filter_nil]
  · rw [Path.resolvePath?_eq_find? (by decide) (by decide) (by decide) (by decide) harray,
      List.find?_singleton, if_neg hmisses]

end DiagnosticReport
