import TableView.Proofs.Merge.Occurrence
import TableView.Proofs.Merge.Scan

/-!
# Filling all placeholders at once

A query is filled in one placeholder after another, in a text that already holds the literals of the
ones before. A single pass from left to right that fills all placeholders of the query at once is
the same (`fillAll_fillAll`), as long as literals have no sigil and do not come right after a
placeholder without quotes, so that a seam neither makes nor breaks one.
-/

namespace TableView.Merge

/-- A placeholder and what stands for it. -/
structure Filling where
  placeholder : Placeholder
  literal : List Char

/-- The first of some fillings whose placeholder occurs at the start of the text. -/
def fillingAt? (fs : List Filling) (cs : List Char) : Option Filling :=
  fs.find? fun f ↦ occursAt f.placeholder.text cs

/-- Replace the placeholders of some fillings in one pass, leaving out the first `skip` characters,
which belong to the placeholder before. -/
def fillAllFrom (fs : List Filling) : Nat → List Char → List Char
  | _, [] => []
  | skip + 1, _ :: rest => fillAllFrom fs skip rest
  | 0, c :: rest =>
    match fillingAt? fs (c :: rest) with
    | some f => f.literal ++ fillAllFrom fs (f.placeholder.text.length - 1) rest
    | none => c :: fillAllFrom fs 0 rest

/-- The text with the placeholders of some fillings replaced in one pass. -/
def fillAll (fs : List Filling) (cs : List Char) : List Char := fillAllFrom fs 0 cs

variable {fs gs : List Filling} {f g : Filling} {c : Char} {cs rest query : List Char}

theorem occursAt_of_fillingAt? (h : fillingAt? fs cs = some f) :
    f ∈ fs ∧ occursAt f.placeholder.text cs = true :=
  ⟨List.mem_of_find?_eq_some h,
    List.find?_some (p := fun f : Filling ↦ occursAt f.placeholder.text cs) h⟩

theorem fillingAt?_eq_none_iff :
    fillingAt? fs cs = none ↔ ∀ f ∈ fs, occursAt f.placeholder.text cs = false := by
  simp [fillingAt?]

/-! ### The pass, place by place -/

private theorem fillAllFrom_length (fs : List Filling) (before rest : List Char) :
    fillAllFrom fs before.length (before ++ rest) = fillAll fs rest := by
  induction before with
  | nil => rfl
  | cons c before ih => exact ih

theorem fillAll_keep (h : fillingAt? fs (c :: rest) = none) :
    fillAll fs (c :: rest) = c :: fillAll fs rest := by
  rw [fillAll, fillAllFrom, h]
  rfl

theorem fillAll_fill (h : fillingAt? fs (f.placeholder.text ++ rest) = some f) :
    fillAll fs (f.placeholder.text ++ rest) = f.literal ++ fillAll fs rest := by
  rw [Placeholder.text_append] at h ⊢
  rw [fillAll, fillAllFrom, h]
  dsimp only
  rw [Placeholder.text_eq, List.length_cons, Nat.add_sub_cancel, fillAllFrom_length]

/-- Where there is no sigil nothing is replaced. -/
theorem fillAll_append {before : List Char} (plain : '$' ∉ before) (rest : List Char) :
    fillAll fs (before ++ rest) = before ++ fillAll fs rest := by
  induction before with
  | nil => rfl
  | cons c before ih =>
    have other : c ≠ '$' := fun same ↦ plain (same ▸ List.mem_cons_self)
    have none : fillingAt? fs (c :: (before ++ rest)) = none :=
      fillingAt?_eq_none_iff.mpr fun f _ ↦ Placeholder.occursAt_of_ne other _
    rw [List.cons_append, fillAll_keep none, ih fun mem ↦ plain (List.mem_cons_of_mem _ mem)]
    rfl

/-- A text is kept character by character, and placeholder by placeholder. -/
theorem fillAll_induction (fs : List Filling) {P : List Char → Prop} (nil : P [])
    (keep : ∀ c rest, fillingAt? fs (c :: rest) = none → P rest → P (c :: rest))
    (fill : ∀ f rest, fillingAt? fs (f.placeholder.text ++ rest) = some f → P rest →
      P (f.placeholder.text ++ rest)) (cs : List Char) : P cs := by
  induction h : cs.length using Nat.strong_induction_on generalizing cs with
  | _ n ih =>
    cases cs with
    | nil => exact nil
    | cons c rest =>
      cases found : fillingAt? fs (c :: rest) with
      | none =>
        exact keep c rest found (ih rest.length (by simp [← h]) rest rfl)
      | some f =>
        obtain ⟨-, occurs⟩ := occursAt_of_fillingAt? found
        obtain ⟨after, same, -⟩ := (occursAt_iff _ _).mp occurs
        have shorter : after.length < n := by
          rw [← h, same, Placeholder.text_eq, List.length_append, List.length_cons]
          omega
        rw [same] at found ⊢
        exact fill f after found (ih after.length shorter after rfl)

/-! ### Seams -/

/-- Filled in where its placeholder occurs in a query, a literal neither makes nor breaks a
placeholder before it. -/
def Seamless (query : List Char) (f : Filling) : Prop :=
  ∀ before body rest, query = before ++ '$' :: (body ++ rest) →
    occursAt f.placeholder.text rest = true → ∀ p : Placeholder, p.Proper → ∀ more,
      occursAt p.text ('$' :: (body ++ (f.literal ++ more))) = occursAt p.text ('$' :: body)

theorem seamless_of_quoted (query : List Char) (quoted : f.literal.head? = some '\'') :
    Seamless query f := by
  intro before body rest _ _ p hp more
  obtain ⟨inside, literal⟩ := List.head?_eq_some_iff.mp quoted
  rw [literal]
  exact Placeholder.occursAt_append_separator hp (by decide) (by decide) body (inside ++ more)

theorem seamless_of_inert (inert : Inert f.literal)
    (apart : ∀ before rest, query = before ++ rest → occursAt f.placeholder.text rest = true →
      ¬ EndsInPlaceholder before) : Seamless query f := by
  intro before body rest same occurs p hp more
  refine Placeholder.occursAt_append_inert hp inert (apart (before ++ '$' :: body) rest ?_ occurs)
    more
  rw [same, List.append_assoc]
  rfl

/-- A filling can be made together with others. -/
structure Filling.Fits (query : List Char) (f : Filling) : Prop where
  proper : f.placeholder.Proper
  plain : '$' ∉ f.literal
  seamless : Seamless query f

/-- What occurs at a sigil occurs there when the text behind it has been filled in, and nothing
else does. -/
theorem occursAt_fillAll (fits : ∀ f ∈ fs, f.Fits query) {before : List Char}
    (same : query = before ++ '$' :: rest) {p : Placeholder} (hp : p.Proper) :
    occursAt p.text ('$' :: fillAll fs rest) = occursAt p.text ('$' :: rest) := by
  let body := rest.takeWhile (· ≠ '$')
  have plain : '$' ∉ body := fun mem ↦ by simpa using List.mem_takeWhile_imp mem
  have split : rest = body ++ rest.dropWhile (· ≠ '$') :=
    (List.takeWhile_append_dropWhile).symm
  cases after : rest.dropWhile (· ≠ '$') with
  | nil =>
    rw [after] at split
    rw [split, fillAll_append plain]
    rfl
  | cons c tail =>
    have sigil : c = '$' := by
      have := List.head?_dropWhile_not (· ≠ '$') rest
      rw [after] at this
      simpa using this
    subst sigil
    rw [after] at split
    have cut (more : List Char) :
        occursAt p.text ('$' :: (body ++ '$' :: more)) = occursAt p.text ('$' :: body) :=
      Placeholder.occursAt_append_separator hp (by decide) (by decide) body more
    rw [split, fillAll_append plain, cut]
    cases found : fillingAt? fs ('$' :: tail) with
    | none => rw [fillAll_keep found, cut]
    | some f =>
      obtain ⟨mem, occurs⟩ := occursAt_of_fillingAt? found
      obtain ⟨more, start, -⟩ := (occursAt_iff _ _).mp occurs
      rw [split] at same
      rw [start] at found same occurs ⊢
      rw [fillAll_fill found]
      exact (fits f mem).seamless before body _ same occurs p hp _

/-! ### One placeholder after another -/

/-- One more filling counts where no other one has a placeholder. -/
private theorem fillingAt?_append_eq_some (found : fillingAt? (fs ++ [g]) cs = some f) :
    fillingAt? fs cs = some f ∨
      fillingAt? fs cs = none ∧ f = g ∧ occursAt g.placeholder.text cs = true := by
  rw [fillingAt?, List.find?_append] at found
  cases first : fillingAt? fs cs with
  | some f' =>
    rw [fillingAt?] at first
    rw [first] at found
    exact .inl found
  | none =>
    rw [fillingAt?] at first
    rw [first, Option.none_or] at found
    obtain ⟨mem, occurs⟩ := occursAt_of_fillingAt? found
    cases List.mem_singleton.mp mem
    exact .inr ⟨rfl, rfl, occurs⟩

private theorem fillingAt?_single (occurs : occursAt g.placeholder.text cs = true) :
    fillingAt? [g] cs = some g := by
  rw [fillingAt?, List.find?_cons, occurs]

/-- To fill in one more placeholder afterwards is to fill it in with the others. -/
theorem fillAll_fillAll (fits : ∀ f ∈ fs, f.Fits query) (hg : g.placeholder.Proper)
    (before cs : List Char) (same : query = before ++ cs) :
    fillAll [g] (fillAll fs cs) = fillAll (fs ++ [g]) cs := by
  induction cs using fillAll_induction (fs ++ [g]) generalizing before with
  | nil => rfl
  | keep c rest none ih =>
    have unfilled := fillingAt?_eq_none_iff.mp none
    have kept : fillingAt? fs (c :: rest) = Option.none :=
      fillingAt?_eq_none_iff.mpr fun f mem ↦ unfilled f (List.mem_append_left _ mem)
    have later : fillingAt? [g] (c :: fillAll fs rest) = Option.none := by
      refine fillingAt?_eq_none_iff.mpr fun f mem ↦ ?_
      cases List.mem_singleton.mp mem
      have unfilled' := unfilled g (List.mem_append_right _ (List.mem_singleton_self g))
      by_cases sigil : c = '$'
      · subst sigil
        rw [occursAt_fillAll fits same hg, unfilled']
      · exact Placeholder.occursAt_of_ne sigil _
    rw [fillAll_keep kept, fillAll_keep later, fillAll_keep none,
      ih (before ++ [c]) (by rw [same, List.append_assoc]; rfl)]
  | fill f rest found ih =>
    have ih' := ih (before ++ f.placeholder.text) (by rw [same, List.append_assoc])
    rw [fillAll_fill found]
    rcases fillingAt?_append_eq_some found with first | ⟨first, rfl, occurs⟩
    · rw [fillAll_fill first, fillAll_append (fits f (occursAt_of_fillingAt? first).1).plain, ih']
    · -- No other placeholder starts inside this one, so it is still there to be filled in.
      rw [Placeholder.text_append] at first occurs same
      have inner : fillAll fs (f.placeholder.tail ++ rest) =
          f.placeholder.tail ++ fillAll fs rest :=
        fillAll_append (Placeholder.not_mem_tail hg) rest
      have still := occursAt_fillAll fits same hg
      rw [occurs, inner, ← Placeholder.text_append] at still
      rw [Placeholder.text_append, fillAll_keep first, inner, ← Placeholder.text_append,
        fillAll_fill (fillingAt?_single still), ih']

end TableView.Merge
