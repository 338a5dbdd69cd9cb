import TableView.Config.Reader
import TableView.Proofs.Schema.Check

/-!
# What becomes of an input that is read as a configuration

Whatever the input is, the reading gives a configuration with a positive row limit, or refuses the
input as one that cannot be parsed, unless the row limit of the document is an infinite number
(`read_documented_iff`). A text is taken to be nested less deeply than what reads it can follow. The
check of the row limit is the only one that overflows, so no fault in any other member brings the
overflow about or prevents it (`overflows_ofMembers`).
-/

namespace TableView

open Number Schema

namespace RowLimit

/-- Whether a value is an infinite number. -/
def isInfinite : Value → Bool
  | .float (.infinite _) => true
  | .decimal (.infinite _) => true
  | _ => false

theorem overflows_ofValue (v : Value) : (ofValue v).overflows = isInfinite v := by
  cases v with
  | float x =>
    cases x with
    | finite negative significand exponent => rfl
    | infinite negative => rfl
    | nan => rfl
  | decimal d =>
    cases d with
    | finite negative coefficient exponent => rfl
    | infinite negative => rfl
    | nan => rfl
  | _ => rfl

theorem ofInt_pos (n : Int) : 0 < ofInt n := by
  unfold ofInt
  split
  · next h => exact Int.pos_iff_toNat_pos.mp h
  · decide

private theorem getD_ofInt_pos (n : Option Int) : 0 < (n.map ofInt).getD standard := by
  cases n with
  | none => decide
  | some n => exact ofInt_pos n

/-- Every number that is taken for a row limit is positive. -/
theorem pos_of_ofValue {v : Value} {n : Nat} (h : ofValue v = .ok n) : 0 < n := by
  cases v with
  | int k =>
    cases h
    exact ofInt_pos k
  | bool b =>
    cases h
    exact ofInt_pos _
  | float x =>
    cases x with
    | finite negative significand exponent =>
      cases h
      exact ofInt_pos _
    | infinite negative => nomatch h
    | nan =>
      cases h
      decide
  | decimal d =>
    cases d with
    | finite negative coefficient exponent =>
      cases h
      exact ofInt_pos _
    | infinite negative => nomatch h
    | nan =>
      cases h
      decide
  | text s =>
    cases h
    exact getD_ofInt_pos _
  | bytes content =>
    cases h
    exact getD_ofInt_pos _
  | _ =>
    cases h
    decide

end RowLimit

theorem SavedField.overflows_ofValue (kind : FaultKind) (v : Value) :
    (ofValue kind v).overflows = false := by
  refine overflows_object (fun m ↦ ?_) kind v
  simp [overflows_optional overflows_string, overflows_optional overflows_boolean]

theorem DisplayOptions.overflows_ofValue (kind : FaultKind) (v : Value) :
    (ofValue kind v).overflows = false := by
  refine overflows_object (fun m ↦ ?_) kind v
  simp

theorem ViewState.overflows_ofValue (kind : FaultKind) (v : Value) :
    (ofValue kind v).overflows = false := by
  refine overflows_object (fun m ↦ ?_) kind v
  simp [overflows_optional overflows_string]

namespace Config

/-- Whether the members of a configuration give an infinite number for the row limit. -/
def infiniteLimit (m : Entries Value) : Bool :=
  (member? m "limit" "row_limit").any RowLimit.isInfinite

/-- No member of a configuration overflows but the row limit, and that only if it is infinite. -/
theorem overflows_ofMembers (kind : FaultKind) (m : Entries Value) :
    (ofMembers kind m).overflows = infiniteLimit m := by
  simp [ofMembers, infiniteLimit, overflows_list (SavedField.overflows_ofValue kind),
    overflows_optional overflows_string, RowLimit.overflows_ofValue,
    DisplayOptions.overflows_ofValue, ViewState.overflows_ofValue]

theorem limit_pos_of_ofMembers {kind : FaultKind} {m : Entries Value} {c : Config}
    (h : ofMembers kind m = .ok c) : 0 < c.limit := by
  obtain ⟨_, viewState, h₈, -, rfl⟩ := Check.seq_eq_ok h
  obtain ⟨_, display, h₇, -, rfl⟩ := Check.seq_eq_ok h₈
  obtain ⟨_, sortDirection, h₆, -, rfl⟩ := Check.seq_eq_ok h₇
  obtain ⟨_, sortField, h₅, -, rfl⟩ := Check.seq_eq_ok h₆
  obtain ⟨_, limit, h₄, hl, rfl⟩ := Check.seq_eq_ok h₅
  obtain ⟨_, filter, h₃, -, rfl⟩ := Check.seq_eq_ok h₄
  obtain ⟨_, fields, h₂, -, rfl⟩ := Check.seq_eq_ok h₃
  obtain ⟨_, object, h₁, -, rfl⟩ := Check.seq_eq_ok h₂
  obtain ⟨version, -, rfl⟩ := Check.map_eq_ok h₁
  change 0 < limit
  rcases of_withDefault hl with rfl | ⟨v, hv⟩
  · exact (by decide : 0 < RowLimit.standard)
  · exact RowLimit.pos_of_ofValue hv

/-! ### Inputs of every kind -/

/-- Whether an input holds an object: as a text or a byte string that is JSON, or as it is. -/
def Holds (m : Entries Value) : Value → Prop
  | .text s => Json.read s = .ok (.object m)
  | .bytes content => (Text.decodeBytes content).bind Json.readDecoded = .ok (.object m)
  | v => v = .object m

/-- Whether an input holds a configuration whose row limit is infinite. -/
def Unbounded (v : Value) : Prop :=
  ∃ m, Holds m v ∧ infiniteLimit m = true

/-- A reading as it is documented: it gives a configuration with a positive row limit, or the input
is refused as one that cannot be parsed. -/
def Documented (outcome : Except Failure Config) : Prop :=
  (∃ c, outcome = .ok c ∧ 0 < c.limit) ∨
    ∃ e, outcome = .error (.engine e) ∧ e.family = .configParse

theorem read_of_holds {m : Entries Value} {v : Value} (h : Holds m v) :
    read v = ofPayload (.object m) := by
  cases v with
  | null => nomatch h
  | text s =>
    have parsed : Json.read s = .ok (.object m) := h
    rw [read, parsed, ofJson]
  | bytes content =>
    have parsed : (Text.decodeBytes content).bind Json.readDecoded = .ok (.object m) := h
    rw [read, parsed, ofJson]
  | object entries =>
    cases h
    rfl
  | _ => nomatch h

/-- Only an object is anything but refused. -/
private theorem ofPayload_of_ne_object {v : Value} (h : ∀ m, v ≠ .object m) :
    ofPayload v = .error (.engine .payloadNotObject) := by
  cases v with
  | object m => exact absurd rfl (h m)
  | _ => rfl

private theorem ofJson_of_ne_object {parsed : Except String Value}
    (h : ∀ m, parsed ≠ .ok (.object m)) :
    ∃ e, ofJson parsed = .error (.engine e) ∧ e.family = .configParse := by
  cases parsed with
  | error message => exact ⟨_, rfl, rfl⟩
  | ok v => exact ⟨_, ofPayload_of_ne_object fun m hm ↦ h m (hm ▸ rfl), rfl⟩

/-- An input that holds no object is refused. -/
theorem read_of_not_holds {v : Value} (h : ∀ m, ¬ Holds m v) :
    ∃ e, read v = .error (.engine e) ∧ e.family = .configParse := by
  cases v with
  | null => exact ⟨_, rfl, rfl⟩
  | text s => exact ofJson_of_ne_object h
  | bytes content => exact ofJson_of_ne_object h
  | object m => exact absurd rfl (h m)
  | _ => exact ⟨_, rfl, rfl⟩

/-- Every configuration that is read has a positive row limit. -/
theorem limit_pos_of_read {v : Value} {c : Config} (h : read v = .ok c) : 0 < c.limit := by
  by_cases holds : ∃ m, Holds m v
  · obtain ⟨m, hm⟩ := holds
    rw [read_of_holds hm, ofPayload] at h
    split at h
    · next hc =>
      cases h
      exact limit_pos_of_ofMembers hc
    · nomatch h
    · nomatch h
  · obtain ⟨e, refused, -⟩ := read_of_not_holds (not_exists.mp holds)
    rw [refused] at h
    nomatch h

private theorem documented_ofPayload {m : Entries Value} (h : infiniteLimit m = false) :
    Documented (ofPayload (.object m)) := by
  have settled := overflows_ofMembers .modelType m
  rw [h] at settled
  rw [ofPayload]
  cases hc : ofMembers .modelType m with
  | ok c => exact .inl ⟨c, rfl, limit_pos_of_ofMembers hc⟩
  | rejected faults => exact .inr ⟨_, rfl, rfl⟩
  | overflow message =>
    rw [hc] at settled
    exact Bool.noConfusion settled

private theorem overflow_ofPayload {m : Entries Value} (h : infiniteLimit m = true) :
    ∃ message, ofPayload (.object m) = .error (.overflow message) := by
  obtain ⟨message, hc⟩ :=
    (Check.overflows_iff _).mp ((overflows_ofMembers .modelType m).trans h)
  exact ⟨message, by rw [ofPayload, hc]⟩

private theorem overflow_not_documented (message : String) :
    ¬ Documented (.error (.overflow message)) := by
  rintro (⟨c, h, -⟩ | ⟨e, h, -⟩)
  · nomatch h
  · nomatch h

private theorem overflow_of_unbounded {v : Value} (h : Unbounded v) :
    ∃ message, read v = .error (.overflow message) := by
  obtain ⟨m, holds, infinite⟩ := h
  rw [read_of_holds holds]
  exact overflow_ofPayload infinite

private theorem documented_of_bounded {v : Value} (h : ¬ Unbounded v) : Documented (read v) := by
  by_cases holds : ∃ m, Holds m v
  · obtain ⟨m, hm⟩ := holds
    rw [read_of_holds hm]
    exact documented_ofPayload (Bool.eq_false_iff.mpr fun infinite ↦ h ⟨m, hm, infinite⟩)
  · exact .inr (read_of_not_holds (not_exists.mp holds))

/-- Every input is read as documented, with a configuration or a refusal, exactly if it does not
hold a configuration with an infinite row limit; and such a one overflows. -/
theorem read_documented_iff (v : Value) :
    (Documented (read v) ↔ ¬ Unbounded v) ∧
      ((∃ message, read v = .error (.overflow message)) ↔ Unbounded v) := by
  have apart (message : String) (overflow : read v = .error (.overflow message)) :
      ¬ Documented (read v) := overflow ▸ overflow_not_documented message
  refine ⟨⟨fun documented unbounded ↦ ?_, documented_of_bounded⟩,
    ⟨fun ⟨message, overflow⟩ ↦ ?_, overflow_of_unbounded⟩⟩
  · obtain ⟨message, overflow⟩ := overflow_of_unbounded unbounded
    exact apart message overflow documented
  · by_contra bounded
    exact apart message overflow (documented_of_bounded bounded)

/-- The text of an object that gives an infinite row limit overflows. -/
theorem exists_read_not_documented : ∃ text, ¬ Documented (read (.text text)) := by
  refine ⟨"\x7b\"limit\":Infinity\x7d", ?_⟩
  have overflow : read (.text "\x7b\"limit\":Infinity\x7d") =
      .error (.overflow "cannot convert float infinity to integer") := by
    decide +kernel
  rw [overflow]
  exact overflow_not_documented _

end Config

end TableView
