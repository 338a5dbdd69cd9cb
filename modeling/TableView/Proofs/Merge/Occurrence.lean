import Mathlib.Data.List.Infix
import TableView.Merge.Preview
import TableView.Proofs.Number.Text

/-!
# Where placeholders occur

A placeholder occurs where its text stands and its name does not go on. At one place there is at
most one of them (`Placeholder.eq_of_occursAt`). What comes after the next sigil, or after a quote,
has no say in it (`Placeholder.occursAt_append_separator`); so a quoted literal leaves everything
that occurs before it alone. A literal without quotes can only matter where it comes right after a
placeholder or after the sigil of a merge token (`Placeholder.occursAt_append_inert`).
-/

namespace TableView.Merge

/-- No name goes on with the text. -/
def Stops (cs : List Char) : Prop := ∀ c ∈ cs.head?, isIdentifier c = false

theorem stops_nil : Stops [] := fun _ h ↦ nomatch h

theorem stops_cons {c : Char} (h : isIdentifier c = false) (rest : List Char) :
    Stops (c :: rest) := by
  rintro _ ⟨⟩
  exact h

private theorem Stops.of_append {cs more : List Char} (h : Stops (cs ++ more)) : Stops cs := by
  cases cs with
  | nil => exact stops_nil
  | cons c cs => exact stops_cons (h c rfl) cs

private theorem Stops.append {cs : List Char} (h : Stops cs) (some : cs ≠ [])
    (more : List Char) : Stops (cs ++ more) := by
  cases cs with
  | nil => exact absurd rfl some
  | cons c cs => exact stops_cons (h c rfl) (cs ++ more)

theorem occursAt_iff (p cs : List Char) :
    occursAt p cs = true ↔ ∃ rest, cs = p ++ rest ∧ Stops rest := by
  unfold occursAt
  rw [Bool.and_eq_true, List.isPrefixOf_iff_prefix]
  constructor
  · rintro ⟨⟨rest, rfl⟩, stops⟩
    refine ⟨rest, rfl, ?_⟩
    rw [List.drop_left] at stops
    cases rest with
    | nil => exact stops_nil
    | cons c rest => exact stops_cons (by simpa using stops) rest
  · rintro ⟨rest, rfl, stops⟩
    refine ⟨List.prefix_append p rest, ?_⟩
    rw [List.drop_left]
    cases rest with
    | nil => rfl
    | cons c rest => simpa using stops c rfl

private theorem tokenAt?_eq_some_iff (cs name : List Char) :
    tokenAt? cs = some name ↔
      name ≠ [] ∧ (∀ c ∈ name, isIdentifier c = true) ∧ occursAt (sigil ++ name) cs = true := by
  constructor
  · intro h
    unfold tokenAt? at h
    split at h
    · next started =>
      obtain ⟨rest, rfl⟩ := List.isPrefixOf_iff_prefix.mp started
      rw [List.drop_left] at h
      split at h
      · cases h
      · next named =>
        cases h
        refine ⟨named, fun c mem ↦ List.mem_takeWhile_imp mem, ?_⟩
        refine (occursAt_iff _ _).mpr ⟨rest.dropWhile isIdentifier, ?_, ?_⟩
        · rw [List.append_assoc, List.takeWhile_append_dropWhile]
        · intro c head
          have := List.head?_dropWhile_not isIdentifier rest
          rw [Option.mem_def.mp head] at this
          simpa using this
    · cases h
  · rintro ⟨named, identifiers, occurs⟩
    obtain ⟨rest, rfl, stops⟩ := (occursAt_iff _ _).mp occurs
    have started : sigil.isPrefixOf (sigil ++ name ++ rest) = true := by
      rw [List.append_assoc]
      exact List.isPrefixOf_iff_prefix.mpr (List.prefix_append _ _)
    have ended : rest.takeWhile isIdentifier = [] := by
      cases rest with
      | nil => rfl
      | cons c rest => rw [List.takeWhile_cons, stops c rfl, if_neg Bool.false_ne_true]
    rw [tokenAt?, if_pos started, List.append_assoc, List.drop_left,
      List.takeWhile_append_of_pos identifiers, ended, List.append_nil]
    cases name with
    | nil => exact absurd rfl named
    | cons c name => rfl

/-- The names of the merge tokens of a text are those that it reads at some place. -/
theorem mem_tokenNames_iff (name : String) (cs : List Char) :
    name ∈ tokenNames cs ↔
      ∃ before rest, cs = before ++ rest ∧ tokenAt? rest = some name.toList := by
  induction cs with
  | nil =>
    refine iff_of_false (fun h ↦ nomatch h) ?_
    rintro ⟨before, rest, none, read⟩
    rw [(List.append_eq_nil_iff.mp none.symm).2] at read
    cases read
  | cons c cs ih =>
    have later : (∃ before rest, c :: cs = before ++ rest ∧ tokenAt? rest = some name.toList) ↔
        tokenAt? (c :: cs) = some name.toList ∨ name ∈ tokenNames cs := by
      rw [ih]
      constructor
      · rintro ⟨before, rest, same, read⟩
        cases before with
        | nil => exact .inl (same ▸ read)
        | cons d before =>
          cases same
          exact .inr ⟨before, rest, rfl, read⟩
      · rintro (read | ⟨before, rest, rfl, read⟩)
        · exact ⟨[], c :: cs, rfl, read⟩
        · exact ⟨c :: before, rest, rfl, read⟩
    rw [later, tokenNames]
    split
    · next first read =>
      rw [read, List.mem_cons, Option.some.injEq]
      refine or_congr_left ⟨?_, ?_⟩
      · rintro rfl
        exact String.toList_ofList.symm
      · rintro rfl
        exact String.ofList_toList.symm
    · next none => simp [none]

/-! ### Placeholders -/

/-- What can be filled in. -/
inductive Placeholder
  | token (name : String)
  | viewer
  | record
  deriving DecidableEq

namespace Placeholder

/-- The text of a placeholder in a query. -/
def text : Placeholder → List Char
  | token name => sigil ++ name.toList
  | viewer => viewerPlaceholder.toList
  | record => recordPlaceholder.toList

/-- The name of a merge token is one that can be read. -/
def Proper : Placeholder → Prop
  | token name => name.toList ≠ [] ∧ ∀ c ∈ name.toList, isIdentifier c = true
  | viewer | record => True

variable {p q : Placeholder} {cs : List Char}

/-- The text of a placeholder after its first character. -/
def tail (p : Placeholder) : List Char := p.text.tail

theorem text_eq (p : Placeholder) : p.text = '$' :: p.tail := by
  cases p with
  | token name => rfl
  | viewer => rfl
  | record => rfl

theorem text_append (p : Placeholder) (rest : List Char) :
    p.text ++ rest = '$' :: (p.tail ++ rest) := by
  rw [text_eq]
  rfl

/-- The merge token at the start of a text is the one that occurs there. -/
theorem tokenAt?_iff (name : String) :
    tokenAt? cs = some name.toList ↔
      (token name).Proper ∧ occursAt (token name).text cs = true :=
  (tokenAt?_eq_some_iff cs name.toList).trans and_assoc.symm

/-- A placeholder occurs nowhere but at a sigil. -/
theorem occursAt_of_ne {c : Char} (h : c ≠ '$') (rest : List Char) :
    occursAt p.text (c :: rest) = false := by
  rw [Bool.eq_false_iff, Ne, occursAt_iff, text_eq]
  rintro ⟨rest', same, -⟩
  exact h (List.cons.inj same).1

theorem occursAt_cons_iff :
    occursAt p.text ('$' :: cs) = true ↔ ∃ rest, cs = p.tail ++ rest ∧ Stops rest := by
  rw [occursAt_iff, text_eq]
  simp only [List.cons_append, List.cons.injEq, true_and]

private theorem mem_tail {c : Char} (hp : p.Proper) (h : c ∈ p.tail) :
    isIdentifier c = true ∨ c = '.' := by
  have letters : (sigil.tail.all fun c ↦ isIdentifier c || c == '.') = true := by decide
  cases p with
  | token name =>
    have split : (token name).tail = sigil.tail ++ name.toList := rfl
    rw [split] at h
    rcases List.mem_append.mp h with mem | mem
    · simpa using List.all_eq_true.mp letters c mem
    · exact .inl (hp.2 c mem)
  | viewer =>
    have all : viewer.tail.all isIdentifier = true := by decide
    exact .inl (List.all_eq_true.mp all c h)
  | record =>
    have all : record.tail.all isIdentifier = true := by decide
    exact .inl (List.all_eq_true.mp all c h)

/-- There is no sigil inside a placeholder. -/
theorem not_mem_tail (hp : p.Proper) : '$' ∉ p.tail := by
  intro mem
  rcases mem_tail hp mem with identifier | dot
  · cases identifier
  · cases dot

theorem eq_of_occursAt (hp : p.Proper) (hq : q.Proper) (first : occursAt p.text cs = true)
    (second : occursAt q.text cs = true) : p = q := by
  obtain ⟨rest, same, -⟩ := (occursAt_iff _ _).mp first
  obtain ⟨rest', same', -⟩ := (occursAt_iff _ _).mp second
  have comparable : p.text <+: q.text ∨ q.text <+: p.text :=
    List.prefix_or_prefix_of_prefix ⟨rest, same.symm⟩ ⟨rest', same'.symm⟩
  cases p with
  | token name =>
    cases q with
    | token name' =>
      have read := (tokenAt?_iff name).mpr ⟨hp, first⟩
      have read' := (tokenAt?_iff name').mpr ⟨hq, second⟩
      exact congrArg token (String.toList_inj.mp (Option.some.inj (read.symm.trans read')))
    | viewer => simp [text, sigil, viewerPlaceholder] at comparable
    | record => simp [text, sigil, recordPlaceholder] at comparable
  | viewer =>
    cases q with
    | token name' => simp [text, sigil, viewerPlaceholder] at comparable
    | viewer => rfl
    | record => simp [text, viewerPlaceholder, recordPlaceholder] at comparable
  | record =>
    cases q with
    | token name' => simp [text, sigil, recordPlaceholder] at comparable
    | viewer => simp [text, viewerPlaceholder, recordPlaceholder] at comparable
    | record => rfl

/-- What comes after a character that belongs to no placeholder, except as its first one, does not
matter to what occurs before it. -/
theorem occursAt_append_separator (hp : p.Proper) {c : Char} (hc : isIdentifier c = false)
    (dot : c ≠ '.') (body more : List Char) :
    occursAt p.text ('$' :: (body ++ c :: more)) = occursAt p.text ('$' :: body) := by
  have outside : c ∉ p.tail := by
    intro mem
    rcases mem_tail hp mem with identifier | same
    · rw [hc] at identifier
      cases identifier
    · exact dot same
  rw [Bool.eq_iff_iff, occursAt_cons_iff, occursAt_cons_iff]
  constructor
  · rintro ⟨rest, same, stops⟩
    rcases List.append_eq_append_iff.mp same with ⟨as, tail, after⟩ | ⟨bs, rfl, rfl⟩
    · cases as with
      | nil => exact ⟨[], by simpa using tail.symm, stops_nil⟩
      | cons d as =>
        cases after
        exact absurd (tail ▸ List.mem_append_right _ List.mem_cons_self) outside
    · exact ⟨bs, rfl, stops.of_append⟩
  · rintro ⟨bs, rfl, stops⟩
    refine ⟨bs ++ c :: more, List.append_assoc _ _ _, ?_⟩
    by_cases none : bs = []
    · rw [none]
      exact stops_cons hc more
    · exact stops.append none _

end Placeholder

/-! ### Literals without quotes -/

/-- The texts that placeholders start with: for a merge token that is its sigil. -/
def starts : List (List Char) := [sigil, viewerPlaceholder.toList, recordPlaceholder.toList]

/-- No start of a placeholder that has been broken off goes on with the literal. -/
def Inert (literal : List Char) : Prop :=
  ∀ start ∈ starts, ∀ rest, rest <:+ start.tail → rest ≠ [] → ∀ more, ¬ rest <+: literal ++ more

private theorem inert_of_head {c : Char} (h : ∀ start ∈ starts, c ∉ start.tail)
    (literal : List Char) : Inert (c :: literal) := by
  intro start mem rest suffix some more going
  cases rest with
  | nil => exact some rfl
  | cons d rest =>
    obtain ⟨rfl, -⟩ := List.cons_prefix_cons.mp going
    exact h start mem (suffix.subset List.mem_cons_self)

private theorem inert_of_two {c d : Char}
    (h : ∀ start ∈ starts, ¬ [c] <:+ start.tail ∧ ¬ [c, d] <:+: start.tail)
    (literal : List Char) : Inert (c :: d :: literal) := by
  intro start mem rest suffix some more going
  cases rest with
  | nil => exact some rfl
  | cons first rest =>
    obtain ⟨rfl, next⟩ := List.cons_prefix_cons.mp going
    cases rest with
    | nil => exact (h start mem).1 suffix
    | cons second rest =>
      have next' : second :: rest <+: d :: (literal ++ more) := next
      obtain ⟨rfl, -⟩ := List.cons_prefix_cons.mp next'
      have inside : [first, second] <:+: first :: second :: rest := ⟨[], rest, rfl⟩
      exact (h start mem).2 (inside.trans suffix.isInfix)

private theorem inert_of_number {literal : List Char} (h : Number.StartsNumber literal) :
    Inert literal := by
  obtain ⟨c, rest, rfl, number⟩ := h
  refine inert_of_head (fun start mem inside ↦ ?_) rest
  have none : (starts.all fun start ↦ start.tail.all fun c ↦ !c.isDigit && c != '-') = true := by
    decide
  have other := List.all_eq_true.mp (List.all_eq_true.mp none start mem) c inside
  rcases number with isDigit | rfl
  · simp [isDigit] at other
  · simp at other

/-- The literal stands in quotes. -/
def Quoted (literal : String) : Prop := literal.toList.head? = some '\''

instance (literal : String) : Decidable (Quoted literal) :=
  inferInstanceAs (Decidable (literal.toList.head? = some '\''))

private theorem quoted_text (text : String) : Quoted ("'" ++ text ++ "'") := by
  rw [Quoted, String.toList_append, String.toList_append]
  rfl

theorem inert_of_not_quoted (v : Value) (h : ¬ Quoted v.queryLiteral) :
    Inert v.queryLiteral.toList := by
  cases v with
  | null => exact inert_of_head (by decide) _
  | bool b =>
    cases b with
    | true => exact inert_of_two (by decide) _
    | false => exact inert_of_head (by decide) _
  | int n => exact inert_of_number (Number.startsNumber_int n)
  | float x =>
    change Inert x.text.toList
    rcases x.startsNumber_text with number | word | word
    · exact inert_of_number number
    · rw [word]
      exact inert_of_head (by decide) _
    · rw [word]
      exact inert_of_two (by decide) _
  | decimal d =>
    change Inert d.text.toList
    rcases d.startsNumber_text with number | word | word
    · exact inert_of_number number
    · rw [word]
      exact inert_of_two (by decide) _
    · rw [word]
      exact inert_of_head (by decide) _
  | date d => exact absurd (quoted_text _) h
  | bytes content => exact absurd (quoted_text _) h
  | text s => exact absurd (quoted_text _) h
  | list items => exact absurd (quoted_text _) h
  | object entries => exact absurd (quoted_text _) h

/-- The text ends in a placeholder, or in the sigil of a merge token and what may be its name. -/
def EndsInPlaceholder (before : List Char) : Prop :=
  (∃ name : List Char, (∀ c ∈ name, isIdentifier c = true) ∧ sigil ++ name <:+ before) ∨
    viewerPlaceholder.toList <:+ before ∨ recordPlaceholder.toList <:+ before

/-- A text does not end in a placeholder if its last character belongs to none. -/
theorem not_endsInPlaceholder {c : Char} (hc : isIdentifier c = false) (dot : c ≠ '.')
    (before : List Char) : ¬ EndsInPlaceholder (before ++ [c]) := by
  have last {p : List Char} (some : p ≠ []) (ends : p <:+ before ++ [c]) :
      p.getLast? = Option.some c := by
    rw [List.getLast?_eq_some_getLast some, ends.getLast some, List.getLast_concat]
  rintro (⟨name, identifiers, ends⟩ | ends | ends)
  · have some : sigil ++ name ≠ [] := List.cons_ne_nil _ _
    have same := last some ends
    rw [List.getLast?_append] at same
    cases named : name.getLast? with
    | none =>
      rw [named] at same
      cases same
      exact dot rfl
    | some d =>
      rw [named] at same
      cases same
      rw [identifiers c (List.mem_of_getLast? named)] at hc
      cases hc
  · cases last (List.cons_ne_nil _ _) ends
    cases hc
  · cases last (List.cons_ne_nil _ _) ends
    cases hc

namespace Placeholder

variable {p : Placeholder} {literal : List Char}

private theorem endsInPlaceholder_text (hp : p.Proper) (before : List Char) :
    EndsInPlaceholder (before ++ p.text) := by
  cases p with
  | token name => exact .inl ⟨name.toList, hp.2, List.suffix_append _ _⟩
  | viewer => exact .inr (.inl (List.suffix_append _ _))
  | record => exact .inr (.inr (List.suffix_append _ _))

/-- A placeholder that goes on with an inert literal is a merge token, and its name does. -/
private theorem endsInPlaceholder_of_going (hp : p.Proper) (inert : Inert literal)
    {body rest : List Char} (split : p.tail = body ++ rest) (some : rest ≠ []) {more : List Char}
    (going : rest <+: literal ++ more) (before : List Char) :
    EndsInPlaceholder (before ++ '$' :: body) := by
  cases p with
  | token name =>
    have both : sigil.tail ++ name.toList = body ++ rest := split
    rcases List.append_eq_append_iff.mp both with ⟨as, rfl, named⟩ | ⟨bs, start, rfl⟩
    · refine .inl ⟨as, fun c mem ↦ hp.2 c (named ▸ List.mem_append_left _ mem), ?_⟩
      exact List.suffix_append before _
    · by_cases none : bs = []
      · refine .inl ⟨[], fun c mem ↦ (nomatch mem), ?_⟩
        rw [none, List.append_nil] at start
        rw [← start]
        exact List.suffix_append before _
      · have mem : sigil ∈ starts := List.mem_cons_self
        have part : bs <+: literal ++ more := (List.prefix_append bs _).trans going
        exact (inert sigil mem bs ⟨body, start.symm⟩ none more part).elim
  | viewer =>
    have mem : viewerPlaceholder.toList ∈ starts := by simp [starts]
    exact (inert _ mem rest ⟨body, split.symm⟩ some more going).elim
  | record =>
    have mem : recordPlaceholder.toList ∈ starts := by simp [starts]
    exact (inert _ mem rest ⟨body, split.symm⟩ some more going).elim

/-- An inert literal that does not come right after a placeholder does not matter to what occurs
before it. -/
theorem occursAt_append_inert (hp : p.Proper) (inert : Inert literal) {before body : List Char}
    (apart : ¬ EndsInPlaceholder (before ++ '$' :: body)) (more : List Char) :
    occursAt p.text ('$' :: (body ++ (literal ++ more))) = occursAt p.text ('$' :: body) := by
  rw [Bool.eq_iff_iff, occursAt_cons_iff, occursAt_cons_iff]
  constructor
  · rintro ⟨rest, same, stops⟩
    rcases List.append_eq_append_iff.mp same with ⟨as, split, going⟩ | ⟨bs, rfl, rfl⟩
    · by_cases none : as = []
      · exact ⟨[], by rw [split, none, List.append_nil, List.append_nil], stops_nil⟩
      · have part : as <+: literal ++ more := ⟨rest, going.symm⟩
        exact (apart (endsInPlaceholder_of_going hp inert split none part before)).elim
    · exact ⟨bs, rfl, stops.of_append⟩
  · rintro ⟨bs, rfl, stops⟩
    refine ⟨bs ++ (literal ++ more), List.append_assoc _ _ _, ?_⟩
    by_cases none : bs = []
    · rw [none, List.append_nil, ← text_eq] at apart
      exact (apart (endsInPlaceholder_text hp before)).elim
    · exact stops.append none _

end Placeholder

end TableView.Merge
