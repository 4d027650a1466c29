/-
Placard/Proofs/Selected.lean

Which diagrams of the gallery are selected by their names.

A selection fails at the first name that no diagram has (`Gallery.select_eq_error_iff`).  If there
is no such name, the diagrams are those of the gallery whose names are on the list
(`Gallery.select_of_known`): a filter of the gallery, so that they come in its order, and one that
only asks whether a name is on the list.
-/
import Placard.Command
import Placard.Proofs.Job

namespace Placard

namespace Gallery

variable {wanted other : List String} {name : String} {chosen : List Diagram}

/-- No two diagrams have one name. -/
theorem nodup_names : names.Nodup := by decide

theorem find?_unknown_eq_none_iff :
    (wanted.find? fun name => !names.contains name) = none ↔ ∀ name ∈ wanted, name ∈ names := by
  simp only [List.find?_eq_none, Bool.not_eq_true, Bool.not_eq_false', List.contains_iff_mem]

theorem find?_unknown_eq_some_iff :
    (wanted.find? fun name => !names.contains name) = some name ↔
      ∃ before after, wanted = before ++ name :: after ∧ (∀ b ∈ before, b ∈ names) ∧
        name ∉ names := by
  rw [List.find?_eq_some_iff_append]
  simp only [Bool.not_eq_true', Bool.not_not, List.contains_iff_mem, ← Bool.not_eq_true]
  constructor
  · rintro ⟨hname, before, after, hwanted, hbefore⟩
    exact ⟨before, after, hwanted, hbefore, hname⟩
  · rintro ⟨before, after, hwanted, hbefore, hname⟩
    exact ⟨hname, before, after, hwanted, hbefore⟩

/-! ### How a selection ends -/

/-- The error is the first name that no diagram has. -/
theorem select_eq_error_iff : select wanted = .error name ↔
    ∃ before after, wanted = before ++ name :: after ∧ (∀ b ∈ before, b ∈ names) ∧
      name ∉ names := by
  rw [← find?_unknown_eq_some_iff]
  unfold select
  cases wanted.find? fun name => !names.contains name with
  | some first =>
    rw [Except.error.injEq, Option.some.injEq]
  | none =>
    dsimp only
    split
    · exact ⟨nofun, nofun⟩
    · exact ⟨nofun, nofun⟩

/-- Without names everything is selected, and else what is named. -/
theorem select_of_known (h : ∀ name ∈ wanted, name ∈ names) : select wanted =
    .ok (all.filter fun d => wanted.isEmpty || wanted.contains d.name) := by
  unfold select
  rw [find?_unknown_eq_none_iff.mpr h]
  dsimp only
  cases wanted with
  | nil => rfl
  | cons first rest => rfl

theorem known_of_select (h : select wanted = .ok chosen) : ∀ name ∈ wanted, name ∈ names := by
  cases hfind : wanted.find? fun name => !names.contains name with
  | none => exact find?_unknown_eq_none_iff.mp hfind
  | some name =>
    have herror := select_eq_error_iff.mpr (find?_unknown_eq_some_iff.mp hfind)
    cases h.symm.trans herror

theorem select_sublist (h : select wanted = .ok chosen) : chosen.Sublist all := by
  rw [select_of_known (known_of_select h)] at h
  cases h
  exact List.filter_sublist

theorem mem_select_iff (h : select wanted = .ok chosen) (d : Diagram) (hd : d ∈ all) :
    d ∈ chosen ↔ wanted = [] ∨ d.name ∈ wanted := by
  rw [select_of_known (known_of_select h)] at h
  cases h
  rw [List.mem_filter, Bool.or_eq_true, List.isEmpty_iff, List.contains_iff_mem]
  exact and_iff_right hd

/-- Lists with the same names select the same. -/
theorem select_congr (hsame : ∀ name, name ∈ wanted ↔ name ∈ other)
    (h : select wanted = .ok chosen) : select other = .ok chosen := by
  have hknown : ∀ name ∈ other, name ∈ names := fun name hname =>
    known_of_select h name ((hsame name).mpr hname)
  rw [select_of_known (known_of_select h)] at h
  rw [select_of_known hknown, ← h]
  congr 1
  refine List.filter_congr fun d _ => ?_
  have hempty : wanted = [] ↔ other = [] := by
    simp only [List.eq_nil_iff_forall_not_mem, hsame]
  rw [Bool.eq_iff_iff]
  simp only [Bool.or_eq_true, List.isEmpty_iff, List.contains_iff_mem, hsame, hempty]

/-! ### What a run makes of it -/

/-- The report gives the names of the gallery. -/
theorem chain_unknownDiagram (name : String) :
    (RunError.unknownDiagram name).chain = ["unknown diagram '" ++ name ++
      "' (available: architecture, security_model, control_plane, leak_detection)"] := by
  have hnames : "' (available: " ++ (String.intercalate ", " names ++ ")") =
      "' (available: architecture, security_model, control_plane, leak_detection)" := by decide
  rw [← hnames, ← String.append_assoc, ← String.append_assoc]
  rfl

/-- A run whose settings can be read reports the unknown name. -/
theorem prepare_of_unknown {s : Surroundings} {files : Files} {o : Options} {config : Config}
    {told : List Notice} (hconfig : Command.loadConfig s files o = .ok (config, told))
    (h : select o.only = .error name) :
    Command.prepare s files o = .error (.unknownDiagram name) := by
  refine Except.bind_eq_error.mpr (.inr ⟨(config, told), Except.mapError_eq_ok.mpr hconfig, ?_⟩)
  refine Except.bind_eq_error.mpr (.inl ?_)
  rw [h]
  rfl

/-- **Selection by name.**  A selection fails if and only if some name on the list is that of no
diagram, and the error is the first such name; a run reports it together with the names that there
are.  Otherwise the diagrams of the gallery are selected whose names are on the list, all of them
for an empty one, each of them once and in the order of the gallery.  Neither the order of the names
nor their repetition makes a difference. -/
theorem select_picks_named (wanted : List String) :
    names = ["architecture", "security_model", "control_plane", "leak_detection"] ∧
    ((∃ name, select wanted = .error name) ↔ ∃ name ∈ wanted, name ∉ names) ∧
    (∀ name, select wanted = .error name ↔
      ∃ before after, wanted = before ++ name :: after ∧ (∀ b ∈ before, b ∈ names) ∧
        name ∉ names) ∧
    ((∀ name ∈ wanted, name ∈ names) → ∃ chosen, select wanted = .ok chosen ∧
      chosen.Sublist all ∧ (chosen.map (·.name)).Nodup ∧
      ∀ d ∈ all, d ∈ chosen ↔ wanted = [] ∨ d.name ∈ wanted) ∧
    (∀ other, (∀ name, name ∈ wanted ↔ name ∈ other) →
      ∀ chosen, select wanted = .ok chosen ↔ select other = .ok chosen) ∧
    ∀ s files o config told name, Command.loadConfig s files o = .ok (config, told) →
      o.only = wanted → select wanted = .error name →
      Command.prepare s files o = .error (.unknownDiagram name) ∧
      (RunError.unknownDiagram name).chain = ["unknown diagram '" ++ name ++
        "' (available: architecture, security_model, control_plane, leak_detection)"] := by
  refine ⟨rfl, ?_, fun _ => select_eq_error_iff, fun hknown => ?_, fun other hsame chosen => ?_, ?_⟩
  · constructor
    · rintro ⟨name, h⟩
      obtain ⟨before, after, rfl, -, hname⟩ := select_eq_error_iff.mp h
      exact ⟨name, List.mem_append_right _ List.mem_cons_self, hname⟩
    · rintro ⟨name, hmem, hname⟩
      cases h : select wanted with
      | error first => exact ⟨first, rfl⟩
      | ok chosen => exact absurd (known_of_select h name hmem) hname
  · have h := select_of_known hknown
    exact ⟨_, h, select_sublist h, ((select_sublist h).map _).nodup nodup_names, mem_select_iff h⟩
  · exact ⟨select_congr hsame, select_congr fun name => (hsame name).symm⟩
  · rintro s files o config told name hconfig rfl h
    exact ⟨prepare_of_unknown hconfig h, chain_unknownDiagram name⟩

/-- Two names, one of them twice and both in another order than that of the gallery; and two names
that no diagram has. -/
theorem select_picks_named_in_other_order :
    (∃ chosen, select ["security_model", "architecture", "security_model"] = .ok chosen ∧
      chosen.map (·.name) = ["architecture", "security_model"] ∧
      select ["architecture", "security_model"] = .ok chosen) ∧
    select ["architecture", "tea", "coffee"] = .error "tea" ∧
    Command.prepare { home := "/" } ⟨[], []⟩ { only := ["architecture", "tea", "coffee"] } =
      .error (.unknownDiagram "tea") := by
  obtain ⟨-, -, -, hpick, hsame, -⟩ :=
    select_picks_named ["security_model", "architecture", "security_model"]
  obtain ⟨-, -, herror, -, -, hrun⟩ := select_picks_named ["architecture", "tea", "coffee"]
  have htea : select ["architecture", "tea", "coffee"] = .error "tea" :=
    (herror "tea").mpr ⟨["architecture"], ["coffee"], rfl, by decide, by decide⟩
  obtain ⟨chosen, hchosen, -⟩ := hpick (by decide)
  refine ⟨⟨chosen, hchosen, ?_, (hsame _ ?_ chosen).mp hchosen⟩, htea, ?_⟩
  · cases hchosen
    rfl
  · intro name
    grind
  · exact (hrun { home := "/" } ⟨[], []⟩ { only := ["architecture", "tea", "coffee"] } _ _ _ rfl
      rfl htea).1

end Gallery

end Placard
