import Mathlib.Data.List.Basic
import TableView.Schema.Reader

/-!
# What checks take and where they overflow

A member that is present is read by its check, whatever its default, and a list of documents by the
check of one of them (`list_map`). A check overflows exactly where one of its parts does: no part of
a document hides the overflow of another, however many faults it has.
-/

namespace TableView.Schema

variable {α β : Type}

/-! ### Documents that fit -/

theorem withDefault_of_member {m : Entries Value} {persisted other : String} {v : Value}
    {check : Value → Check α} {a : α} (fallback : α) (hv : member? m persisted other = some v)
    (ha : check v = .ok a) : withDefault m persisted other fallback check = .ok a := by
  rw [withDefault, hv]
  dsimp only
  rw [ha]
  rfl

theorem required_of_member {m : Entries Value} {persisted other : String} {v : Value}
    {check : Value → Check α} {a : α} (hv : member? m persisted other = some v)
    (ha : check v = .ok a) : required m persisted other check = .ok a := by
  rw [required, hv]
  dsimp only
  rw [ha]
  rfl

theorem string_text (s : String) : string (.text s) = .ok s := rfl

theorem integer_int (n : Int) : integer (.int n) = .ok n := rfl

theorem boolean_bool (b : Bool) : boolean (.bool b) = .ok b := rfl

theorem optional_ofText? (s : Option String) : optional string (.ofText? s) = .ok s := by
  cases s with
  | none => rfl
  | some s => rfl

private theorem listFrom_map {check : Value → Check α} {doc : α → Value}
    (h : ∀ a, check (doc a) = .ok a) (items : List α) (start : Nat) :
    Check.listFrom check start (items.map doc) = .ok items := by
  induction items generalizing start with
  | nil => rfl
  | cons a rest ih =>
    rw [List.map_cons, Check.listFrom, h, ih]
    rfl

/-- A list of documents is read as the things they are the documents of. -/
theorem list_map {check : Value → Check α} {doc : α → Value} (h : ∀ a, check (doc a) = .ok a)
    (items : List α) : list check (.list (items.map doc)) = .ok items :=
  listFrom_map h items 0

namespace Check

theorem map_eq_ok {f : α → β} {c : Check α} {b : β} (h : f <$> c = ok b) :
    ∃ a, c = ok a ∧ f a = b := by
  cases c with
  | ok a => exact ⟨a, rfl, ok.inj h⟩
  | rejected faults => nomatch h
  | overflow message => nomatch h

theorem seq_eq_ok {f : Check (α → β)} {c : Check α} {b : β} (h : f <*> c = ok b) :
    ∃ g a, f = ok g ∧ c = ok a ∧ g a = b := by
  cases f with
  | overflow message => nomatch h
  | ok g =>
    cases c with
    | ok a => exact ⟨g, a, rfl, rfl, ok.inj h⟩
    | rejected faults => nomatch h
    | overflow message => nomatch h
  | rejected first =>
    cases c with
    | ok a => nomatch h
    | rejected faults => nomatch h
    | overflow message => nomatch h

theorem under_eq_ok {step : Step} {c : Check α} {a : α} (h : c.under step = ok a) : c = ok a := by
  cases c with
  | ok b => exact h
  | rejected faults => nomatch h
  | overflow message => nomatch h

end Check

/-- A member that is read is the default or comes out of its check. -/
theorem of_withDefault {m : Entries Value} {persisted other : String} {fallback a : α}
    {check : Value → Check α} (h : withDefault m persisted other fallback check = .ok a) :
    a = fallback ∨ ∃ v, check v = .ok a := by
  unfold withDefault at h
  split at h
  · next v _ => exact .inr ⟨v, Check.under_eq_ok h⟩
  · exact .inl (Check.ok.inj h).symm

/-! ### Overflow -/

namespace Check

/-- Whether a check ended for a number without an integer part. -/
def overflows : Check α → Bool
  | overflow _ => true
  | _ => false

theorem overflows_iff (c : Check α) : c.overflows = true ↔ ∃ message, c = overflow message := by
  cases c with
  | ok a => simp [overflows]
  | rejected faults => simp [overflows]
  | overflow message => simp [overflows]

@[simp] theorem overflows_ok (a : α) : (ok a).overflows = false := rfl

@[simp] theorem overflows_rejected (faults : List Fault) :
    (rejected faults : Check α).overflows = false := rfl

@[simp] theorem overflows_fault (kind : FaultKind) :
    (fault kind : Check α).overflows = false := rfl

@[simp] theorem overflows_map (f : α → β) (c : Check α) : (f <$> c).overflows = c.overflows := by
  cases c with
  | ok a => rfl
  | rejected faults => rfl
  | overflow message => rfl

@[simp] theorem overflows_seq (f : Check (α → β)) (c : Check α) :
    (f <*> c).overflows = (f.overflows || c.overflows) := by
  cases f with
  | overflow message => rfl
  | ok f =>
    cases c with
    | ok a => rfl
    | rejected faults => rfl
    | overflow message => rfl
  | rejected first =>
    cases c with
    | ok a => rfl
    | rejected faults => rfl
    | overflow message => rfl

@[simp] theorem overflows_under (step : Step) (c : Check α) :
    (c.under step).overflows = c.overflows := by
  cases c with
  | ok a => rfl
  | rejected faults => rfl
  | overflow message => rfl

theorem overflows_listFrom {check : β → Check α} (h : ∀ b, (check b).overflows = false)
    (items : List β) (start : Nat) : (listFrom check start items).overflows = false := by
  induction items generalizing start with
  | nil => rfl
  | cons b rest ih =>
    have first : (map List.cons (under (.index start) (check b))).overflows = false :=
      (overflows_map _ _).trans ((overflows_under _ _).trans (h b))
    exact (overflows_seq _ _).trans (by rw [first, ih]; rfl)

end Check

@[simp] theorem overflows_withDefault (m : Entries Value) (persisted other : String) (fallback : α)
    (check : Value → Check α) : (withDefault m persisted other fallback check).overflows =
      (member? m persisted other).any fun v ↦ (check v).overflows := by
  unfold withDefault
  cases member? m persisted other with
  | none => rfl
  | some v => exact Check.overflows_under _ _

@[simp] theorem overflows_required (m : Entries Value) (persisted other : String)
    (check : Value → Check α) : (required m persisted other check).overflows =
      (member? m persisted other).any fun v ↦ (check v).overflows := by
  unfold required
  cases member? m persisted other with
  | none => rfl
  | some v => exact Check.overflows_under _ _

@[simp] theorem overflows_string (v : Value) : (string v).overflows = false := by
  cases v <;> rfl

theorem overflows_optional {check : Value → Check α} (h : ∀ v, (check v).overflows = false)
    (v : Value) : (optional check v).overflows = false := by
  unfold optional
  split
  · rfl
  · exact (Check.overflows_map _ _).trans (h _)

@[simp] theorem overflows_integer (v : Value) : (integer v).overflows = false := by
  cases v with
  | float x =>
    cases x with
    | finite negative significand exponent =>
      simp only [integer]
      split
      · rfl
      · rfl
    | infinite negative => rfl
    | nan => rfl
  | text s =>
    simp only [integer, integerText]
    split
    · rfl
    · split
      · rfl
      · rfl
  | _ => rfl

@[simp] theorem overflows_boolean (v : Value) : (boolean v).overflows = false := by
  unfold boolean
  dsimp only
  repeat' split
  all_goals rfl

@[simp] theorem overflows_choice (named? : String → Option α) (v : Value) :
    (choice named? v).overflows = false := by
  unfold choice
  repeat' split
  all_goals rfl

theorem overflows_list {check : Value → Check α} (h : ∀ v, (check v).overflows = false)
    (v : Value) : (list check v).overflows = false := by
  cases v with
  | list items => exact Check.overflows_listFrom h items 0
  | _ => rfl

theorem overflows_object {check : Entries Value → Check α} (h : ∀ m, (check m).overflows = false)
    (kind : FaultKind) (v : Value) : (object kind check v).overflows = false := by
  cases v with
  | object m => exact h m
  | _ => rfl

end TableView.Schema
