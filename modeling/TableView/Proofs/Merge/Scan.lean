import TableView.Merge.Token
import TableView.Proofs.Field.Moves
import TableView.Query

/-!
# Merge tokens of composed texts

A character that neither belongs to a name nor to the sigil separates: the merge tokens of a text
around it are those of its two sides. So the merge tokens of a compiled query are those of its
visible fields, its object and its filter (`mem_tokens_compile`), whatever the order of the fields.

A query cannot be written at all if its row limit is infinite or too long for a number in text. This
is the only way in which writing it fails (`Query.exists_compileWith_iff`), and what limit is
written makes no difference to the merge tokens (`mem_tokens_compileWith_congr`).
-/

namespace TableView

theorem mem_firstOfEach_id (name : String) (names : List String) :
    name ∈ firstOfEach id names ↔ name ∈ names := by
  induction names with
  | nil => simp [firstOfEach]
  | cons first rest ih =>
    by_cases hn : name = first
    · simp [firstOfEach, hn]
    · simp [firstOfEach, hn, ih]

namespace Merge

/-- A character that no merge token extends over. -/
def Separates (c : Char) : Prop := isIdentifier c = false ∧ c ∉ sigil

theorem separates_blank : Separates ' ' := by
  unfold Separates
  decide

theorem separates_comma : Separates ',' := by
  unfold Separates
  decide

private theorem isPrefixOf_append_separator (p a b : List Char) (c : Char) (hc : c ∉ p) :
    p.isPrefixOf (a ++ c :: b) = p.isPrefixOf a := by
  induction p generalizing a with
  | nil => simp
  | cons x p ih =>
    have hx : x ≠ c := fun h ↦ hc (by simp [h])
    have hp : c ∉ p := fun h ↦ hc (List.mem_cons_of_mem _ h)
    cases a with
    | nil => simp [List.isPrefixOf, hx]
    | cons y a => simp [List.isPrefixOf, ih a hp]

private theorem takeWhile_append_separator (a b : List Char) (c : Char)
    (hc : isIdentifier c = false) :
    (a ++ c :: b).takeWhile isIdentifier = a.takeWhile isIdentifier := by
  induction a with
  | nil => simp [hc]
  | cons x a ih => simp only [List.cons_append, List.takeWhile_cons, ih]

private theorem tokenAt?_append_separator (a b : List Char) (c : Char) (hc : Separates c) :
    tokenAt? (a ++ c :: b) = tokenAt? a := by
  unfold tokenAt?
  rw [isPrefixOf_append_separator sigil a b c hc.2]
  split
  · next hp =>
    obtain ⟨rest, rfl⟩ := List.isPrefixOf_iff_prefix.mp hp
    rw [List.append_assoc, List.drop_left, List.drop_left, takeWhile_append_separator rest b c hc.1]
  · rfl

/-- The merge tokens around a separator are those before it and those after it. -/
theorem tokenNames_append_separator (a b : List Char) (c : Char) (hc : Separates c) :
    tokenNames (a ++ c :: b) = tokenNames a ++ tokenNames b := by
  induction a with
  | nil =>
    have h := tokenAt?_append_separator [] b c hc
    rw [List.nil_append] at h ⊢
    rw [tokenNames.eq_2, h]
    rfl
  | cons x a ih =>
    have h := tokenAt?_append_separator (x :: a) b c hc
    simp only [List.cons_append] at h ⊢
    rw [tokenNames, h, tokenNames, ih]
    split <;> rfl

/-- Where the first character of the sigil does not stand no merge token starts. -/
theorem tokenNames_append (before rest : List Char) (plain : '$' ∉ before) :
    tokenNames (before ++ rest) = tokenNames rest := by
  induction before with
  | nil => rfl
  | cons c before ih =>
    have hc : '$' ≠ c := fun he ↦ plain (he ▸ List.mem_cons_self)
    have hn : tokenAt? (c :: (before ++ rest)) = none := by
      simp [tokenAt?, sigil, List.isPrefixOf, hc]
    rw [List.cons_append, tokenNames, hn]
    exact ih fun mem ↦ plain (List.mem_cons_of_mem _ mem)

/-- Without the first character of the sigil there is no merge token. -/
theorem tokenNames_eq_nil (cs : List Char) (h : '$' ∉ cs) : tokenNames cs = [] := by
  simpa [tokenNames] using tokenNames_append cs [] h

theorem mem_tokens_iff (name query : String) :
    name ∈ tokens query ↔ name ∈ tokenNames query.toList :=
  mem_firstOfEach_id _ _

theorem tokens_empty : tokens "" = [] := rfl

/-- The merge tokens of a text of which the characters are given. -/
theorem tokens_ofList (cs : List Char) :
    tokens (String.ofList cs) = firstOfEach id (tokenNames cs) := by
  rw [tokens, String.toList_ofList]

private theorem mem_tokenNames_intercalate (name : String) (texts : List String) :
    name ∈ tokenNames ([',', ' '].intercalate (texts.map String.toList)) ↔
      ∃ t ∈ texts, name ∈ tokens t := by
  induction texts with
  | nil => simp [tokenNames]
  | cons t rest ih =>
    cases rest with
    | nil => simp [mem_tokens_iff]
    | cons u rest =>
      have hi : [',', ' '].intercalate ((t :: u :: rest).map String.toList) =
          t.toList ++ ',' :: ([] ++ ' ' ::
            [',', ' '].intercalate ((u :: rest).map String.toList)) := by
        simp
      rw [hi, tokenNames_append_separator _ _ _ separates_comma,
        tokenNames_append_separator _ _ _ separates_blank, List.mem_append, List.mem_append, ih]
      simp [tokenNames, mem_tokens_iff]

private theorem tokenNames_digits (n : Nat) : tokenNames (toString n).toList = [] := by
  apply tokenNames_eq_nil
  intro h
  rw [Nat.toString_eq_repr, Nat.toList_repr] at h
  have hd := Nat.isDigit_of_mem_toDigits (by decide) (by decide) h
  exact absurd hd (by decide)

private theorem isPossible_iff (object : String) (fields : FieldList) :
    Query.isPossible object fields = true ↔
      object ≠ "" ∧ ∃ n, n ∈ fields.visible.map Field.name := by
  simp only [Query.isPossible, FieldList.anyVisible, FieldList.visible, Bool.and_eq_true,
    decide_eq_true_eq, List.any_eq_true, List.mem_map, List.mem_filter]
  constructor
  · rintro ⟨ho, f, hf⟩
    exact ⟨ho, f.name, f, hf, rfl⟩
  · rintro ⟨ho, _, f, hf, _⟩
    exact ⟨ho, f, hf⟩

/-- The merge tokens of a query are those of its visible fields, its object and its filter; without
an object or a visible field there are none. -/
theorem mem_tokens_compile (name object filter : String) (fields : FieldList) (limit : Nat) :
    name ∈ tokens (Query.compile object fields filter limit) ↔
      Query.isPossible object fields = true ∧
        ((∃ n ∈ fields.visible.map Field.name, name ∈ tokens n) ∨ name ∈ tokens object ∨
          name ∈ tokens filter) := by
  unfold Query.compile
  split
  · next hp =>
    have hq : (Query.text object fields filter limit).toList =
        "SELECT".toList ++ ' ' :: ([',', ' '].intercalate
          ((fields.visible.map Field.name).map String.toList) ++ ' ' :: ("FROM".toList ++ ' ' ::
            (object.toList ++ ' ' :: (filter.toList ++ ' ' :: ("LIMIT".toList ++ ' ' ::
              (toString limit).toList))))) := by
      simp [Query.text]
    rw [mem_tokens_iff, hq]
    simp only [tokenNames_append_separator _ _ _ separates_blank, List.mem_append,
      mem_tokenNames_intercalate, tokenNames_digits,
      tokenNames_eq_nil "SELECT".toList (by decide), tokenNames_eq_nil "FROM".toList (by decide),
      tokenNames_eq_nil "LIMIT".toList (by decide), ← mem_tokens_iff, hp, true_and,
      List.not_mem_nil, false_or, or_false]
  · next hp => simp [hp, tokens_empty]

/-- The order of the fields and the row limit make no difference to the merge tokens. -/
theorem mem_tokens_compile_congr (name object filter : String) {fields others : FieldList}
    (limit other : Nat)
    (same : (others.visible.map Field.name).Perm (fields.visible.map Field.name)) :
    name ∈ tokens (Query.compile object others filter other) ↔
      name ∈ tokens (Query.compile object fields filter limit) := by
  rw [mem_tokens_compile, mem_tokens_compile, isPossible_iff, isPossible_iff]
  simp only [same.mem_iff]

end Merge

/-- Whether a value stands for a row limit that can be written. -/
def RowLimit.Writable (limit : Value) : Prop :=
  ∃ n, RowLimit.ofValue limit = .ok n ∧ Number.digitCount n ≤ Number.maxIntegerDigits

theorem RowLimit.digitCount_standard :
    Number.digitCount standard ≤ Number.maxIntegerDigits := by
  decide

namespace Query

open Number (digitCount maxIntegerDigits)

variable {object filter : String} {fields : FieldList} {limit : Value}

theorem compileWith_of_writable {n : Nat} (h : RowLimit.ofValue limit = .ok n)
    (short : digitCount n ≤ maxIntegerDigits) :
    compileWith object fields filter limit = .ok (compile object fields filter n) := by
  simp only [compileWith, compile, h, if_neg (Nat.not_lt.mpr short)]
  split <;> rfl

/-- A row limit that is a number is written if it has not too many digits. -/
theorem compileWith_of_written {n : Nat} (written : digitCount n ≤ maxIntegerDigits) :
    compileWith object fields filter (.int n) =
      .ok (compile object fields filter (RowLimit.ofInt n)) := by
  refine compileWith_of_writable rfl ?_
  rw [RowLimit.ofInt]
  split
  · exact written
  · exact RowLimit.digitCount_standard

theorem writable_of_compileWith {query : String} (possible : isPossible object fields = true)
    (h : compileWith object fields filter limit = .ok query) : RowLimit.Writable limit := by
  rw [compileWith, if_pos possible] at h
  split at h
  · next n hn =>
    split at h
    · cases h
    · next short => exact ⟨n, hn, Nat.not_lt.mp short⟩
  · cases h
  · cases h

/-- A query that is written is that of some integer limit. -/
theorem exists_compile_of_compileWith {query : String}
    (h : compileWith object fields filter limit = .ok query) :
    ∃ n, query = compile object fields filter n := by
  by_cases possible : isPossible object fields = true
  · obtain ⟨n, hn, short⟩ := writable_of_compileWith possible h
    rw [compileWith_of_writable hn short] at h
    exact ⟨n, (Except.ok.inj h).symm⟩
  · rw [compileWith, if_neg possible] at h
    refine ⟨0, ?_⟩
    rw [compile, if_neg possible]
    exact (Except.ok.inj h).symm

theorem exists_compileWith_iff :
    (∃ query, compileWith object fields filter limit = .ok query) ↔
      (isPossible object fields = true → RowLimit.Writable limit) := by
  constructor
  · rintro ⟨query, h⟩ possible
    exact writable_of_compileWith possible h
  · intro writable
    by_cases possible : isPossible object fields = true
    · obtain ⟨n, hn, short⟩ := writable possible
      exact ⟨_, compileWith_of_writable hn short⟩
    · exact ⟨"", by rw [compileWith, if_neg possible]⟩

end Query

namespace Merge

variable {object filter query : String} {fields : FieldList} {limit : Value}

theorem mem_tokens_compileWith (h : Query.compileWith object fields filter limit = .ok query)
    (possible : Query.isPossible object fields = true) (name : String) :
    name ∈ tokens query ↔
      (∃ f ∈ fields.visible, name ∈ tokens f.name) ∨ name ∈ tokens object ∨
        name ∈ tokens filter := by
  obtain ⟨n, rfl⟩ := Query.exists_compile_of_compileWith h
  have names : (∃ n ∈ fields.visible.map Field.name, name ∈ tokens n) ↔
      ∃ f ∈ fields.visible, name ∈ tokens f.name := by
    constructor
    · rintro ⟨n, mem, h⟩
      obtain ⟨f, visible, rfl⟩ := List.mem_map.mp mem
      exact ⟨f, visible, h⟩
    · rintro ⟨f, visible, h⟩
      exact ⟨f.name, List.mem_map_of_mem visible, h⟩
  rw [mem_tokens_compile, names, possible, eq_self_iff_true, true_and]

/-- Neither a change of the row limit nor one of the fields that leaves names and visibility alone
changes the merge tokens. -/
theorem mem_tokens_compileWith_congr {others : FieldList} {other : Value} {query' : String}
    (h : Query.compileWith object fields filter limit = .ok query)
    (h' : Query.compileWith object others filter other = .ok query')
    (same : others.Restyles fields) (name : String) :
    name ∈ tokens query' ↔ name ∈ tokens query := by
  obtain ⟨n, rfl⟩ := Query.exists_compile_of_compileWith h
  obtain ⟨m, rfl⟩ := Query.exists_compile_of_compileWith h'
  exact mem_tokens_compile_congr name object filter n m same.visible_perm

end Merge

end TableView
