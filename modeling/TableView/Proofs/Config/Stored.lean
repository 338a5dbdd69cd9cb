import TableView.Config.Reader
import TableView.Proofs.Json.Document
import TableView.Proofs.Schema.Check

/-!
# Stored configurations

The stored text of a configuration is read as the configuration in the current version
(`read_print_current`). The way there and back has two halves: the text is read as the document that
was written (`Json.read_print`), because this document is plain, and the document is read member by
member, because every check takes what is written for it and changes nothing
(`ofPayload_toValue`). A row limit has to be positive, or the check puts the standard one in its
place, and it must not have more digits than an integer in text may have.
-/

namespace TableView

open Number Schema

theorem SavedField.ofValue_toValue (kind : FaultKind) (s : SavedField) :
    ofValue kind s.toValue = .ok s := by
  have sortable : optional boolean ((s.sortable.map Value.bool).getD .null) = .ok s.sortable := by
    rcases s.sortable with _ | b
    · rfl
    · rfl
  simp only [ofValue, toValue, object]
  rw [required_of_member rfl (string_text s.name),
    withDefault_of_member none rfl (optional_ofText? s.label),
    withDefault_of_member true rfl (boolean_bool s.visible),
    withDefault_of_member none rfl sortable]
  rfl

theorem DisplayOptions.ofValue_toValue (kind : FaultKind) (d : DisplayOptions) :
    ofValue kind d.toValue = .ok d := by
  simp only [ofValue, toValue, object]
  rw [withDefault_of_member false rfl (boolean_bool d.recordCount),
    withDefault_of_member false rfl (boolean_bool d.search),
    withDefault_of_member false rfl (boolean_bool d.refresh)]
  rfl

theorem FieldFilter.named?_name (f : FieldFilter) : named? f.name = some f := by
  cases f with
  | all => rfl
  | selected => rfl
  | unselected => rfl

theorem ViewState.ofValue_toValue (kind : FaultKind) (s : ViewState) :
    ofValue kind s.toValue = .ok s := by
  have filter : choice FieldFilter.named? (.text s.fieldFilter.name) = .ok s.fieldFilter := by
    rw [choice, FieldFilter.named?_name]
  simp only [ofValue, toValue, object]
  rw [withDefault_of_member .all rfl filter,
    withDefault_of_member none rfl (optional_ofText? s.contextObject),
    withDefault_of_member none rfl (optional_ofText? s.contextLabel),
    withDefault_of_member none rfl (optional_ofText? s.searchTerm),
    withDefault_of_member none rfl (optional_ofText? s.contextRecord)]
  rfl

/-- A positive number is its own row limit. -/
theorem RowLimit.ofValue_int {n : Nat} (hn : 0 < n) : ofValue (.int n) = .ok n := by
  rw [ofValue, ofInt, if_pos (Int.natCast_pos.mpr hn), Int.toNat_natCast]

namespace Config

private theorem choice_direction (d : Direction) :
    (choice Direction.named? ∘ prepareDirection) (.text d.name) = .ok d := by
  cases d with
  | ascending => decide +kernel
  | descending => decide +kernel

/-- The document of a configuration is read as the configuration, if its row limit is positive. -/
theorem ofPayload_toValue (c : Config) (positive : 0 < c.limit) : ofPayload c.toValue = .ok c := by
  have text (s : String) : (string ∘ ifNull (.text "")) (.text s) = .ok s := rfl
  have display : (DisplayOptions.ofValue .modelType ∘ ifNull (.object [])) c.display.toValue =
      .ok c.display := DisplayOptions.ofValue_toValue .modelType c.display
  have viewState : (ViewState.ofValue .modelType ∘ ifNull (.object [])) c.viewState.toValue =
      .ok c.viewState := ViewState.ofValue_toValue .modelType c.viewState
  simp only [toValue, ofPayload, ofMembers]
  rw [withDefault_of_member 1 rfl (integer_int c.version),
    withDefault_of_member "" rfl (text c.object),
    withDefault_of_member [] rfl (list_map (SavedField.ofValue_toValue .modelType) c.fields),
    withDefault_of_member "" rfl (text c.filter),
    withDefault_of_member RowLimit.standard rfl (RowLimit.ofValue_int positive),
    withDefault_of_member none rfl (optional_ofText? c.sortField),
    withDefault_of_member .ascending rfl (choice_direction c.sortDirection),
    withDefault_of_member .plain rfl display, withDefault_of_member .initial rfl viewState]
  rfl

/-! ### The document as a text -/

private theorem plain_ofText? (s : Option String) : Json.Plain (.ofText? s) := by
  cases s with
  | none => trivial
  | some s => trivial

private theorem plain_field (s : SavedField) : Json.Plain s.toValue := by
  have distinct : ["fieldName", "label", "visible", "sortable"].Nodup := by decide
  have sortable : Json.Plain ((s.sortable.map Value.bool).getD .null) := by
    rcases s.sortable with _ | b
    · trivial
    · trivial
  exact ⟨distinct, trivial, plain_ofText? s.label, trivial, sortable, trivial⟩

private theorem plain_fields (fields : List SavedField) :
    Json.PlainItems (fields.map SavedField.toValue) := by
  induction fields with
  | nil => trivial
  | cons s rest ih => exact ⟨plain_field s, ih⟩

private theorem plain_display (d : DisplayOptions) : Json.Plain d.toValue := by
  have distinct : ["showRecordCount", "showSearch", "showRefresh"].Nodup := by decide
  exact ⟨distinct, trivial, trivial, trivial, trivial⟩

private theorem plain_viewState (s : ViewState) : Json.Plain s.toValue := by
  have distinct : ["fieldVisibilityFilter", "contextObjectName", "contextObjectLabel",
    "contextSearchTerm", "contextRecordId"].Nodup := by decide
  exact ⟨distinct, trivial, plain_ofText? _, plain_ofText? _, plain_ofText? _, plain_ofText? _,
    trivial⟩

private theorem plain_current (c : Config) (digits : digitCount c.limit ≤ maxIntegerDigits) :
    Json.Plain c.current.toValue := by
  have distinct : ["schemaVersion", "objectApiName", "fields", "whereClause", "limit",
    "defaultSortField", "defaultSortDirection", "displayOptions", "viewState"].Nodup := by decide
  have version : digitCount currentVersion.natAbs ≤ maxIntegerDigits := by decide
  exact ⟨distinct, version, trivial, plain_fields c.fields, trivial, digits,
    plain_ofText? c.sortField, trivial, plain_display c.display, plain_viewState c.viewState,
    trivial⟩

/-- The stored text of a configuration is the text of its document. -/
theorem read_print (c : Config) (digits : digitCount c.limit ≤ maxIntegerDigits) :
    read (.text c.print) = ofPayload c.current.toValue := by
  rw [read, print, Json.read_print _ (plain_current c digits)]
  rfl

/-- A configuration with a positive row limit is read from its stored text as it was written, in the
current version. -/
theorem read_print_current (c : Config) (positive : 0 < c.limit)
    (digits : digitCount c.limit ≤ maxIntegerDigits) : read (.text c.print) = .ok c.current := by
  rw [read_print c digits]
  exact ofPayload_toValue c.current positive

/-- A configuration of the first version, with texts outside of ASCII and a field that has neither a
label nor a sortable flag. -/
def handwritten : Config :=
  ⟨1, "Größe", [⟨"Id", none, true, none⟩, ⟨"Name", some "\t\"𝔑\" 🙂", false, some false⟩],
    "WHERE Id <> '\\'", 10000000000000000000000, some "Id", .descending, ⟨true, false, true⟩,
    ⟨.unselected, some "Account", none, some "", none⟩⟩

theorem handwritten_read : 0 < handwritten.limit ∧
    digitCount handwritten.limit ≤ maxIntegerDigits ∧
    read (.text handwritten.print) = .ok handwritten.current := by
  have positive : 0 < handwritten.limit := by decide
  have digits : digitCount handwritten.limit ≤ maxIntegerDigits := by decide +kernel
  exact ⟨positive, digits, read_print_current handwritten positive digits⟩

end Config

end TableView
