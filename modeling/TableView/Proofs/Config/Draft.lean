import TableView.Proofs.Config.Reading
import TableView.Proofs.Store.Saved

/-!
# What the schemas of new configurations and changes admit

A name that is accepted is stored trimmed and not blank; only the name of a new configuration is
bounded. Whatever document a new configuration or a change is read from, its names are such names
and its configuration has a positive row limit (`NewConfig.valid_of_ofValue`,
`ConfigChange.valid_of_ofValue`), and so has what is built to save a draft.
-/

namespace TableView

open Schema

namespace Schema

variable {α β : Type}

theorem object_eq_ok {kind : FaultKind} {check : Entries Value → Check α} {v : Value} {a : α}
    (h : object kind check v = .ok a) : ∃ m, v = .object m ∧ check m = .ok a := by
  cases v with
  | object m => exact ⟨m, rfl, h⟩
  | _ => nomatch h

theorem of_required {m : Entries Value} {persisted other : String} {a : α}
    {check : Value → Check α} (h : required m persisted other check = .ok a) :
    ∃ v, check v = .ok a := by
  have inner := Check.under_eq_ok h
  split at inner
  · next v _ => exact ⟨v, inner⟩
  · nomatch inner

theorem optional_eq_some {check : Value → Check α} {v : Value} {a : α}
    (h : optional check v = .ok (some a)) : check v = .ok a := by
  unfold optional at h
  split at h
  · nomatch h
  · obtain ⟨b, hb, same⟩ := Check.map_eq_ok h
    rw [hb, Option.some.inj same]

namespace Check

theorem withFaults_eq_ok {faults : List Fault} {c : Check α} {a : α}
    (h : withFaults faults c = ok a) : c = ok a := by
  unfold withFaults at h
  split at h
  · exact h
  · obtain ⟨f, b, hf, -, -⟩ := seq_eq_ok (f := (rejected faults : Check (α → α))) h
    nomatch hf

theorem andThen_eq_ok {c : Check α} {next : α → Check β} {b : β} (h : c.andThen next = ok b) :
    ∃ a, c = ok a ∧ next a = ok b := by
  cases c with
  | ok a => exact ⟨a, rfl, h⟩
  | rejected faults => nomatch h
  | overflow message => nomatch h

end Check

end Schema

/-! ### Names -/

theorem nonBlankName_eq_self_iff {name : String} : nonBlankName name = .ok name ↔
    Text.isBlankText name = false ∧ Text.trim name = name := by
  unfold nonBlankName
  split
  · next blank => exact iff_of_false nofun fun h ↦ absurd (blank.symm.trans h.1) nofun
  · next shown =>
    rw [Check.ok.injEq]
    exact (and_iff_right (Bool.eq_false_iff.mpr shown)).symm

theorem boundedName_eq_self_iff {name : String} : boundedName name = .ok name ↔
    nonBlankName name = .ok name ∧ name.length ≤ maxNameLength := by
  unfold boundedName nonBlankName
  split
  · exact iff_of_false nofun fun h ↦ nomatch h.1
  · split
    · next long =>
      refine iff_of_false nofun fun ⟨same, short⟩ ↦ ?_
      rw [Check.ok.inj same] at long
      exact absurd long (Nat.not_lt.mpr short)
    · next short =>
      refine ⟨fun same ↦ ⟨same, ?_⟩, And.left⟩
      rw [Check.ok.inj same] at short
      exact Nat.not_lt.mp short

theorem SavedConfig.Valid.trimmed {entry : SavedConfig} (valid : entry.Valid) :
    Text.trim entry.name = entry.name :=
  (nonBlankName_eq_self_iff.mp (boundedName_eq_self_iff.mp valid.name).1).2

theorem nonBlankName_of_nonBlankName {s name : String} (h : nonBlankName s = .ok name) :
    nonBlankName name = .ok name := by
  cases eq_trim_of_nonBlankName h
  unfold nonBlankName at h
  split at h
  · nomatch h
  · next shown =>
    exact nonBlankName_eq_self_iff.mpr
      ⟨Text.isBlankText_trim (Bool.eq_false_iff.mpr shown), Text.trim_trim s⟩

/-! ### New configurations and changes -/

/-- A new configuration as its schema admits it. -/
structure NewConfig.Valid (n : NewConfig) : Prop where
  name : boundedName n.name = .ok n.name
  limit : 0 < n.config.limit

/-- A change as its schema admits it: a name is not blank, but it may be too long to be read
back. -/
structure ConfigChange.Valid (change : ConfigChange) : Prop where
  name : ∀ name ∈ change.name, nonBlankName name = .ok name
  limit : ∀ c ∈ change.config, 0 < c.limit

instance (n : NewConfig) : Decidable n.Valid :=
  decidable_of_iff (boundedName n.name = .ok n.name ∧ 0 < n.config.limit)
    ⟨fun h ↦ ⟨h.1, h.2⟩, fun h ↦ ⟨h.name, h.limit⟩⟩

instance (change : ConfigChange) : Decidable change.Valid :=
  decidable_of_iff ((∀ name ∈ change.name, nonBlankName name = .ok name) ∧
    ∀ c ∈ change.config, 0 < c.limit) ⟨fun h ↦ ⟨h.1, h.2⟩, fun h ↦ ⟨h.name, h.limit⟩⟩

theorem Config.limit_pos_of_ofValue {kind : FaultKind} {v : Value} {c : Config}
    (h : ofValue kind v = .ok c) : 0 < c.limit := by
  obtain ⟨m, -, hm⟩ := object_eq_ok h
  exact limit_pos_of_ofMembers hm

theorem NewConfig.valid_of_ofValue {top nested : FaultKind} {v : Value} {n : NewConfig}
    (h : ofValue top nested v = .ok n) : n.Valid := by
  obtain ⟨m, -, hm⟩ := object_eq_ok h
  obtain ⟨_, createdBy, h₃, -, rfl⟩ := Check.seq_eq_ok (Check.withFaults_eq_ok hm)
  obtain ⟨_, config, h₂, hc, rfl⟩ := Check.seq_eq_ok h₃
  obtain ⟨_, description, h₁, -, rfl⟩ := Check.seq_eq_ok h₂
  obtain ⟨name, hn, rfl⟩ := Check.map_eq_ok h₁
  obtain ⟨given, checked⟩ := of_required hn
  obtain ⟨s, -, bounded⟩ := Check.andThen_eq_ok checked
  obtain ⟨document, read⟩ := of_required hc
  exact ⟨boundedName_of_boundedName bounded, Config.limit_pos_of_ofValue read⟩

theorem ConfigChange.valid_of_ofValue {top nested : FaultKind} {v : Value} {change : ConfigChange}
    (h : ofValue top nested v = .ok change) : change.Valid := by
  obtain ⟨m, -, hm⟩ := object_eq_ok h
  obtain ⟨_, config, h₂, hc, rfl⟩ := Check.seq_eq_ok (Check.withFaults_eq_ok hm)
  obtain ⟨_, description, h₁, -, rfl⟩ := Check.seq_eq_ok h₂
  obtain ⟨name, hn, rfl⟩ := Check.map_eq_ok h₁
  refine ⟨fun given mem ↦ ?_, fun c mem ↦ ?_⟩
  · cases mem
    obtain absent | ⟨document, checked⟩ := of_withDefault hn
    · nomatch absent
    · obtain ⟨s, -, shown⟩ := Check.andThen_eq_ok (optional_eq_some checked)
      exact nonBlankName_of_nonBlankName shown
  · cases mem
    obtain absent | ⟨document, read⟩ := of_withDefault hc
    · nomatch absent
    · exact Config.limit_pos_of_ofValue (optional_eq_some read)

/-! ### Drafts that are saved -/

namespace Store

theorem valid_of_newOf {c : Config} {name description : Option String} {n : NewConfig}
    (h : newOf c name description = .ok n) (positive : 0 < c.limit) : n.Valid := by
  obtain ⟨trimmed, hn, rfl⟩ := Check.map_eq_ok h
  have bounded := Check.under_eq_ok hn
  cases name with
  | none => nomatch bounded
  | some s => exact ⟨boundedName_of_boundedName bounded, positive⟩

theorem valid_of_changeOf {c : Config} {name description : Option String} {change : ConfigChange}
    (h : changeOf c name description = .ok change) (positive : 0 < c.limit) : change.Valid := by
  obtain ⟨given, hn, rfl⟩ := Check.map_eq_ok h
  refine ⟨fun trimmed mem ↦ ?_, fun config mem ↦ ?_⟩
  · cases mem
    have checked := Check.under_eq_ok hn
    cases name with
    | none => nomatch checked
    | some s =>
      obtain ⟨shown, hs, same⟩ := Check.map_eq_ok checked
      cases same
      exact nonBlankName_of_nonBlankName hs
  · cases mem
    exact positive

end Store

end TableView
