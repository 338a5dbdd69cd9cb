import Mathlib.Data.Nat.Find
import TableView.Proofs.Field.Names
import TableView.Proofs.Merge.Occurrence
import TableView.Proofs.Merge.Scan

/-!
# Places of merge tokens

The merge tokens of a query are read in one pass from left to right, each token as a whole. Since
there is no sigil inside a token, it makes no difference that the pass leaves out the characters of
the tokens it has read (`namesFrom_eq`). A name is found exactly where its placeholder would be
filled in, and the distinct names come in the order of the first place of each (`tokens_places`).
-/

namespace TableView.Merge

/-- The names that are read from left to right, leaving out the first `skip` characters, which
belong to the token before. -/
def namesFrom : Nat → List Char → List String
  | _, [] => []
  | skip + 1, _ :: rest => namesFrom skip rest
  | 0, c :: rest =>
    match tokenAt? (c :: rest) with
    | some name => String.ofList name :: namesFrom (sigil.length + name.length - 1) rest
    | none => namesFrom 0 rest

/-- Behind the first character of a token that is read no other one starts. -/
private theorem tokenNames_drop {c : Char} {rest name : List Char}
    (read : tokenAt? (c :: rest) = some name) :
    tokenNames (rest.drop (sigil.length + name.length - 1)) = tokenNames rest := by
  have read' : tokenAt? (c :: rest) = some (String.ofList name).toList := by
    rw [String.toList_ofList, read]
  obtain ⟨proper, occurs⟩ := (Placeholder.tokenAt?_iff _).mp read'
  obtain ⟨more, same, -⟩ := (occursAt_iff _ _).mp occurs
  rw [Placeholder.text_append] at same
  obtain ⟨-, rfl⟩ := List.cons.inj same
  have size : sigil.length + name.length - 1 =
      (Placeholder.token (String.ofList name)).tail.length := by
    rw [Placeholder.tail, Placeholder.text, String.toList_ofList, List.length_tail,
      List.length_append]
  rw [size, List.drop_left]
  exact (tokenNames_append _ _ (Placeholder.not_mem_tail proper)).symm

/-- Leaving out the tokens that were read makes no difference. -/
theorem namesFrom_eq (skip : Nat) (cs : List Char) :
    namesFrom skip cs = tokenNames (cs.drop skip) := by
  induction cs generalizing skip with
  | nil => simp [namesFrom, tokenNames]
  | cons c rest ih =>
    cases skip with
    | succ skip => exact ih skip
    | zero =>
      rw [List.drop_zero]
      cases read : tokenAt? (c :: rest) with
      | some name => simp only [namesFrom, tokenNames, read, ih, tokenNames_drop read]
      | none => simp only [namesFrom, tokenNames, read, ih, List.drop_zero]

/-! ### Places -/

/-- The merge token of a name stands at the place, and the name does not go on. -/
def StandsAt (cs : List Char) (name : String) (place : Nat) : Prop :=
  occursAt (tokenText name).toList (cs.drop place) = true

instance (cs : List Char) (name : String) (place : Nat) : Decidable (StandsAt cs name place) :=
  inferInstanceAs (Decidable (_ = true))

/-- The merge token of a name stands at the place and at none before it. -/
def FirstAt (cs : List Char) (name : String) (place : Nat) : Prop :=
  StandsAt cs name place ∧ ∀ i < place, ¬ StandsAt cs name i

variable {c : Char} {cs : List Char} {name : String}

/-- The merge token that is read at the start of a text is the one that stands there. -/
theorem standsAt_zero_iff : tokenAt? cs = some name.toList ↔
    (Placeholder.token name).Proper ∧ StandsAt cs name 0 := by
  rw [Placeholder.tokenAt?_iff, StandsAt, tokenText, String.toList_append, String.toList_ofList]
  rfl

theorem mem_tokenNames_iff_standsAt : name ∈ tokenNames cs ↔
    (Placeholder.token name).Proper ∧ ∃ place, StandsAt cs name place := by
  rw [mem_tokenNames_iff]
  constructor
  · rintro ⟨before, rest, rfl, read⟩
    obtain ⟨proper, stands⟩ := standsAt_zero_iff.mp read
    refine ⟨proper, before.length, ?_⟩
    rw [StandsAt, List.drop_left]
    exact stands
  · rintro ⟨proper, place, stands⟩
    exact ⟨cs.take place, cs.drop place, (List.take_append_drop place cs).symm,
      standsAt_zero_iff.mpr ⟨proper, stands⟩⟩

theorem exists_firstAt (h : name ∈ tokenNames cs) : ∃ place, FirstAt cs name place := by
  have some := (mem_tokenNames_iff_standsAt.mp h).2
  exact ⟨Nat.find some, Nat.find_spec some, fun i earlier ↦ Nat.find_min some earlier⟩

/-- A name that is not read at the start of a text comes first where it does in the rest. -/
private theorem FirstAt.cons {place : Nat} (h : FirstAt cs name place)
    (none : ¬ StandsAt (c :: cs) name 0) : FirstAt (c :: cs) name (place + 1) := by
  refine ⟨h.1, fun i earlier ↦ ?_⟩
  cases i with
  | zero => exact none
  | succ i => exact h.2 i (Nat.lt_of_succ_lt_succ earlier)

/-- One name comes before another one: its first place does. -/
def ComesBefore (cs : List Char) (first second : String) : Prop :=
  ∃ i j, FirstAt cs first i ∧ FirstAt cs second j ∧ i < j

private theorem ComesBefore.cons {first second : String} (h : ComesBefore cs first second)
    (none : ¬ StandsAt (c :: cs) first 0) (none' : ¬ StandsAt (c :: cs) second 0) :
    ComesBefore (c :: cs) first second := by
  obtain ⟨i, j, hi, hj, earlier⟩ := h
  exact ⟨i + 1, j + 1, hi.cons none, hj.cons none', Nat.succ_lt_succ earlier⟩

/-- What stands at the start of a text is read there, if it can be read at all. -/
private theorem not_standsAt_zero {read : Option (List Char)} (start : tokenAt? (c :: cs) = read)
    (h : name ∈ tokenNames cs) (other : read ≠ some name.toList) :
    ¬ StandsAt (c :: cs) name 0 := by
  intro stands
  have proper := (mem_tokenNames_iff_standsAt.mp h).1
  exact other (start.symm.trans (standsAt_zero_iff.mpr ⟨proper, stands⟩))

/-- Distinct names are kept in the order of their first places. -/
theorem pairwise_comesBefore (cs : List Char) :
    (firstOfEach id (tokenNames cs)).Pairwise (ComesBefore cs) := by
  induction cs with
  | nil => exact .nil
  | cons c cs ih =>
    rw [tokenNames]
    split
    · next name read =>
      have here : StandsAt (c :: cs) (String.ofList name) 0 := by
        refine (standsAt_zero_iff.mp ?_).2
        rw [String.toList_ofList, read]
      -- The name read here is not kept again, and all others come later.
      have later : ∀ other ∈ (firstOfEach id (tokenNames cs)).filter (id · != String.ofList name),
          other ∈ tokenNames cs ∧ ¬ StandsAt (c :: cs) other 0 := by
        intro other mem
        obtain ⟨kept, differs⟩ := List.mem_filter.mp mem
        have mem' := (mem_firstOfEach_id _ _).mp kept
        refine ⟨mem', not_standsAt_zero read mem' fun same ↦ ?_⟩
        rw [Option.some.inj same, String.ofList_toList] at differs
        exact absurd rfl (bne_iff_ne.mp differs)
      refine List.pairwise_cons.mpr ⟨fun other mem ↦ ?_, ?_⟩
      · obtain ⟨mem', none⟩ := later other mem
        obtain ⟨place, first⟩ := exists_firstAt mem'
        exact ⟨0, place + 1, ⟨here, fun i earlier ↦ absurd earlier (Nat.not_lt_zero i)⟩,
          first.cons none, Nat.succ_pos place⟩
      · refine (ih.filter _).imp_of_mem fun mem mem' earlier ↦ ?_
        exact earlier.cons (later _ mem).2 (later _ mem').2
    · next none =>
      refine ih.imp_of_mem fun mem mem' earlier ↦ ?_
      have absent := fun other (h : other ∈ firstOfEach id (tokenNames cs)) ↦
        not_standsAt_zero none ((mem_firstOfEach_id other _).mp h) (Option.some_ne_none _).symm
      exact earlier.cons (absent _ mem) (absent _ mem')

/-- Whatever the query, its merge tokens are the distinct names that one pass over it reads. A name
is one of them exactly if it is a name and its placeholder occurs somewhere in the query, and they
are in the order of the first places where their placeholders occur. -/
theorem tokens_places (query : String) :
    tokens query = firstOfEach id (namesFrom 0 query.toList) ∧
    (tokens query).Nodup ∧
    (∀ name, name ∈ tokens query ↔ (name ≠ "" ∧ ∀ c ∈ name.toList, isIdentifier c = true) ∧
      ∃ place, StandsAt query.toList name place) ∧
    (tokens query).Pairwise (ComesBefore query.toList) := by
  have pass : namesFrom 0 query.toList = tokenNames query.toList := namesFrom_eq 0 _
  refine ⟨by rw [pass, tokens], ?_, fun name ↦ ?_, pairwise_comesBefore _⟩
  · have distinct := nodup_map_firstOfEach id (tokenNames query.toList)
    rwa [List.map_id] at distinct
  · have named : name.toList ≠ [] ↔ name ≠ "" := not_congr String.toList_eq_nil_iff
    rw [mem_tokens_iff, mem_tokenNames_iff_standsAt, ← named]
    rfl

end TableView.Merge
