/-
Placard/Proofs/Slots.lean

The fields of a record and its plain form.

The slots of a record are its fields in the order of the record, each with the value that stands for
it when it is left out and with the plain form of a value in it.  The plain form of a table has
these fields and no others, and none of them is left out that has a default.  So a field under a
name that is not known changes nothing (`Slots.plain_put_unknown`), to write a default is to leave
the field out (`Slots.plain_put_default`), and both hold for records inside of a field as well
(`Slots.plain_onField`).
-/
import Mathlib.Data.List.Nodup
import Placard.Proofs.Fields

namespace Placard.Document

/-! ### Entries put in and taken out -/

namespace Entries

theorem lookup_cons (name : String) (v : Value) (rest : Entries) (other : String) :
    List.lookup other ((name, v) :: rest) =
      if other = name then some v else rest.lookup other := by
  rw [List.lookup_cons]
  by_cases h : other = name
  · rw [if_pos h, beq_iff_eq.mpr h]
  · rw [if_neg h, beq_eq_false_iff_ne.mpr h]

theorem lookup_insert (name : String) (v : Value) (entries : Entries) (other : String) :
    (entries.insert name v).lookup other =
      if other = name then some v else entries.lookup other := by
  induction entries with
  | nil => exact lookup_cons name v [] other
  | cons e rest ih =>
    obtain ⟨n, w⟩ := e
    unfold insert
    split
    · -- the earlier value of this name is replaced
      rename_i hn
      subst hn
      rw [lookup_cons, lookup_cons]
      split <;> rfl
    · split
      · rw [lookup_cons]
      · rename_i hn _
        rw [lookup_cons, ih, lookup_cons]
        by_cases h : other = n
        · rw [if_pos h, if_pos h, if_neg (h ▸ hn)]
        · rw [if_neg h, if_neg h]

/-- The entries without those of one name. -/
def without (entries : Entries) (name : String) : Entries := entries.filter fun e => e.1 != name

theorem lookup_without_of_ne {entries : Entries} {name other : String} (h : other ≠ name) :
    (entries.without name).lookup other = entries.lookup other :=
  lookup_filter_ne h

theorem lookup_without (entries : Entries) (name : String) :
    (entries.without name).lookup name = none := by
  refine List.lookup_eq_none_iff.mpr fun e he => ?_
  rw [bne_comm]
  exact (List.mem_filter.mp he).2

theorem narrow_of_mem {entries : Entries} (h : Value.Narrow (.table entries)) :
    ∀ e ∈ entries, e.2.Narrow := by
  replace h : entriesWithin _ _ entries = true := h
  induction entries with
  | nil => exact List.forall_mem_nil _
  | cons e rest ih =>
    rw [entriesWithin, Bool.and_eq_true] at h
    exact List.forall_mem_cons.mpr ⟨h.1, ih h.2⟩

theorem mem_insert {entries : Entries} {name : String} {v : Value} {e : String × Value}
    (h : e ∈ entries.insert name v) : e = (name, v) ∨ e ∈ entries := by
  induction entries with
  | nil => exact .inl (List.mem_singleton.mp h)
  | cons d rest ih =>
    obtain ⟨n, w⟩ := d
    unfold insert at h
    split at h
    · exact (List.mem_cons.mp h).imp_right (List.mem_cons_of_mem _)
    · split at h
      · exact List.mem_cons.mp h
      · rcases List.mem_cons.mp h with rfl | h
        · exact .inr List.mem_cons_self
        · exact (ih h).imp_right (List.mem_cons_of_mem _)

theorem narrow_insert {entries : Entries} {name : String} {v : Value}
    (h : Value.Narrow (.table entries)) (hv : v.Narrow) :
    Value.Narrow (.table (entries.insert name v)) := by
  refine Value.narrow_table fun e he => ?_
  rcases mem_insert he with rfl | he
  · exact hv
  · exact narrow_of_mem h e he

theorem narrow_without {entries : Entries} (name : String) (h : Value.Narrow (.table entries)) :
    Value.Narrow (.table (entries.without name)) :=
  Value.narrow_table fun e he => narrow_of_mem h e (List.mem_filter.mp he).1

end Entries

/-! ### Changes to a value -/

namespace Value

/-- What a table has under a name. -/
def field? (v : Value) (name : String) : Option Value :=
  match v with
  | .table entries => entries.lookup name
  | _ => none

/-- Puts a field into a table. -/
def put (v : Value) (name : String) (w : Value) : Value :=
  match v with
  | .table entries => .table (Entries.insert name w entries)
  | v => v

/-- Takes a field out of a table. -/
def drop (v : Value) (name : String) : Value :=
  match v with
  | .table entries => .table (Entries.without entries name)
  | v => v

/-- Changes one member of a list. -/
def onItem (v : Value) (i : Nat) (change : Value → Value) : Value :=
  match v with
  | .list items => .list (items.modify i change)
  | v => v

/-- The list of what is made of the members of a list. -/
def each (plain : Value → Value) : Value → Value
  | .list items => .list (items.map plain)
  | v => v

variable {v w : Value} {name other : String}

theorem narrow_cons {rest : List Value} :
    Narrow (.list (v :: rest)) ↔ v.Narrow ∧ Narrow (.list rest) :=
  Bool.and_eq_true_iff

theorem field?_put_of_ne (h : other ≠ name) : (v.put name w).field? other = v.field? other := by
  cases v with
  | table entries => exact (Entries.lookup_insert name w entries other).trans (if_neg h)
  | _ => rfl

theorem field?_drop_of_ne (h : other ≠ name) : (v.drop name).field? other = v.field? other := by
  cases v with
  | table entries => exact Entries.lookup_without_of_ne h
  | _ => rfl

theorem narrow_put (hv : v.Narrow) (hw : w.Narrow) : (v.put name w).Narrow := by
  cases v with
  | table entries => exact Entries.narrow_insert hv hw
  | _ => exact hv

theorem narrow_drop (hv : v.Narrow) : (v.drop name).Narrow := by
  cases v with
  | table entries => exact Entries.narrow_without name hv
  | _ => exact hv

@[simp] theorem onItem_self (v : Value) (i : Nat) : v.onItem i (fun w => w) = v := by
  cases v with
  | list items => exact congrArg list (List.modify_id i items)
  | _ => rfl

theorem narrow_onItem {change : Value → Value} (hchange : ∀ v, v.Narrow → (change v).Narrow)
    (i : Nat) (hv : v.Narrow) : (v.onItem i change).Narrow := by
  cases v with
  | list items =>
    show Narrow (.list (items.modify i change))
    induction items generalizing i with
    | nil =>
      rw [List.modify_nil]
      exact hv
    | cons w rest ih =>
      obtain ⟨hw, hrest⟩ := narrow_cons.mp hv
      cases i with
      | zero =>
        rw [List.modify_zero_cons]
        exact narrow_cons.mpr ⟨hchange w hw, hrest⟩
      | succ i =>
        rw [List.modify_succ_cons]
        exact narrow_cons.mpr ⟨hw, ih i hrest⟩
  | _ => exact hv

/-- Two changes of a member come to the same, if what is made of the member does. -/
theorem each_onItem {plain first second : Value → Value}
    (h : ∀ v, plain (first v) = plain (second v)) (i : Nat) (v : Value) :
    (v.onItem i first).each plain = (v.onItem i second).each plain := by
  cases v with
  | list items =>
    show Value.list ((items.modify i first).map plain) = .list ((items.modify i second).map plain)
    rw [Value.list.injEq]
    induction items generalizing i with
    | nil => rw [List.modify_nil, List.modify_nil]
    | cons w rest ih =>
      cases i with
      | zero =>
        rw [List.modify_zero_cons, List.modify_zero_cons, List.map_cons, List.map_cons, h]
      | succ i =>
        rw [List.modify_succ_cons, List.modify_succ_cons, List.map_cons, List.map_cons, ih]
  | _ => rfl

end Value

/-! ### Slots -/

/-- Something is read off the value. -/
def Decoder.Takes {α : Type} (d : Decoder α) (s : Source) (v : Value) : Prop := ∃ a, d s v = .ok a

/-- A field of a record. -/
structure Slot where
  name : String
  /-- the values that are read -/
  takes : Source → Value → Prop
  /-- the value that stands for the field when it is left out -/
  default? : Option Value
  /-- the plain form of a value of the field -/
  plain : Value → Value

namespace Slot

/-- A field that has to be there. -/
def field {α : Type} (name : String) (d : Decoder α) (plain : Value → Value) : Slot :=
  ⟨name, d.Takes, none, plain⟩

/-- A field that may be left out. -/
def fieldOr {α : Type} (name : String) (d : Decoder α) (default : Value)
    (plain : Value → Value) : Slot :=
  ⟨name, d.Takes, some default, plain⟩

/-- An option. -/
def fieldIf {α : Type} (name : String) (d : Decoder α) (plain : Value → Value) : Slot :=
  fieldOr name (Decoder.optional d) .null plain

/-- What the field may be: a value that is read or, if there is a default, nothing. -/
def Fits (f : Slot) (s : Source) : Option Value → Prop
  | some v => f.takes s v
  | none => f.default?.isSome

end Slot

abbrev Slots := List Slot

namespace Slots

def names (slots : Slots) : List String := slots.map (·.name)

/-- What may be left out, with the value that stands for it. -/
def defaults (slots : Slots) : Entries := slots.filterMap fun f => f.default?.map (f.name, ·)

/-- The fields as they are in a table: only those of the record, and with their defaults. -/
def fields (slots : Slots) (entries : Entries) : Fields :=
  slots.map fun f => (f.name, ((entries.lookup f.name).or f.default?).map f.plain)

/-- The fields as they are in a list. -/
def plainItems : Slots → List Value → List Value
  | f :: rest, v :: items => f.plain v :: plainItems rest items
  | _, items => items

/-- The plain form of a record. -/
def plain (slots : Slots) : Value → Value
  | .table entries => .table (slots.fields entries).entries
  | .list items => .list (slots.plainItems items)
  | v => v

/-- Changes a field of a list. -/
def onListed : Slots → String → (Value → Value) → List Value → List Value
  | f :: rest, name, change, v :: items =>
    if f.name = name then change v :: items else v :: onListed rest name change items
  | _, _, _, items => items

/-- Changes a field of a record, which is a table or a list. -/
def onField (slots : Slots) (v : Value) (name : String) (change : Value → Value) : Value :=
  match v with
  | .table entries => .table (entries.map fun e => if e.1 = name then (e.1, change e.2) else e)
  | .list items => .list (slots.onListed name change items)
  | v => v

variable {slots : Slots} {entries : Entries} {name other : String} {v w : Value}

theorem mem_defaults {e : String × Value} :
    e ∈ slots.defaults ↔ ∃ f ∈ slots, f.name = e.1 ∧ f.default? = some e.2 := by
  rw [defaults, List.mem_filterMap]
  refine exists_congr fun f => and_congr_right fun _ => ?_
  obtain ⟨n, v⟩ := e
  rw [Option.map_eq_some_iff]
  constructor
  · rintro ⟨v, hv, h⟩
    obtain ⟨rfl, rfl⟩ := Prod.mk.inj h
    exact ⟨rfl, hv⟩
  · rintro ⟨rfl, hv⟩
    exact ⟨v, hv, rfl⟩

theorem ne_of_not_mem_names (hname : name ∉ slots.names) {f : Slot} (hf : f ∈ slots) :
    f.name ≠ name := by
  rintro rfl
  exact hname (List.mem_map_of_mem hf)

theorem eq_of_name (hnames : slots.names.Nodup) {f g : Slot} (hf : f ∈ slots) (hg : g ∈ slots)
    (h : f.name = g.name) : f = g :=
  List.inj_on_of_nodup_map hnames hf hg h

theorem isSome_default (hnames : slots.names.Nodup) {e : String × Value} (he : e ∈ slots.defaults)
    {f : Slot} (hf : f ∈ slots) (hname : f.name = e.1) : f.default?.isSome := by
  obtain ⟨g, hg, hgname, hdefault⟩ := mem_defaults.mp he
  obtain rfl := eq_of_name hnames hf hg (hname.trans hgname.symm)
  rw [hdefault]
  rfl

/-! ### Plain forms -/

theorem names_fields : (slots.fields entries).map (·.1) = slots.names := by
  rw [fields, names, List.map_map]
  rfl

theorem lookup_fields (hnames : slots.names.Nodup) {f : Slot} (hf : f ∈ slots) :
    (slots.fields entries).entries.lookup f.name =
      ((entries.lookup f.name).or f.default?).map f.plain :=
  Fields.lookup_entries (names_fields ▸ hnames)
    (f := (f.name, ((entries.lookup f.name).or f.default?).map f.plain))
    (List.mem_map_of_mem hf)

theorem length_plainItems (slots : Slots) (items : List Value) :
    (slots.plainItems items).length = items.length := by
  induction slots generalizing items with
  | nil => rfl
  | cons f rest ih =>
    cases items with
    | nil => rfl
    | cons v items => exact congrArg (· + 1) (ih items)

/-- Tables are plainly the same if they have plainly the same under the names of the slots. -/
theorem plain_congr {more : Entries} (h : ∀ f ∈ slots,
    ((more.lookup f.name).or f.default?).map f.plain =
      ((entries.lookup f.name).or f.default?).map f.plain) :
    slots.plain (.table more) = slots.plain (.table entries) := by
  have hfields : slots.fields more = slots.fields entries :=
    List.map_congr_left fun f hf => by rw [h f hf]
  rw [plain, plain, hfields]

/-- A field under a name that is not known changes nothing. -/
theorem plain_put_unknown (hname : name ∉ slots.names) :
    slots.plain (v.put name w) = slots.plain v := by
  cases v with
  | table entries =>
    refine plain_congr fun f hf => ?_
    rw [Entries.lookup_insert, if_neg (ne_of_not_mem_names hname hf)]
  | _ => rfl

theorem plain_drop_unknown (hname : name ∉ slots.names) :
    slots.plain (v.drop name) = slots.plain v := by
  cases v with
  | table entries =>
    refine plain_congr fun f hf => ?_
    rw [Entries.lookup_without_of_ne (ne_of_not_mem_names hname hf)]
  | _ => rfl

/-- To write a default is to leave the field out. -/
theorem plain_put_default (hnames : slots.names.Nodup) {e : String × Value}
    (he : e ∈ slots.defaults) : slots.plain (v.put e.1 e.2) = slots.plain (v.drop e.1) := by
  obtain ⟨f, hf, hname, hdefault⟩ := mem_defaults.mp he
  cases v with
  | table entries =>
    refine plain_congr fun g hg => ?_
    by_cases hne : g.name = e.1
    · obtain rfl := eq_of_name hnames hg hf (hne.trans hname.symm)
      rw [hne, Entries.lookup_insert, if_pos rfl, Entries.lookup_without, hdefault]
      rfl
    · rw [Entries.lookup_insert, if_neg hne, Entries.lookup_without_of_ne hne]
  | _ => rfl

/-! ### Changes inside of a field -/

theorem lookup_map_if (change : Value → Value) (entries : Entries) :
    (entries.map fun e => if e.1 = name then (e.1, change e.2) else e).lookup other =
      (entries.lookup other).map fun v => if other = name then change v else v := by
  induction entries with
  | nil => rfl
  | cons e rest ih =>
    obtain ⟨n, v⟩ := e
    rw [Entries.lookup_cons, apply_ite (Option.map _), ← ih, List.map_cons]
    by_cases hn : n = name
    · rw [if_pos hn, Entries.lookup_cons]
      by_cases ho : other = n
      · rw [if_pos ho, if_pos ho, Option.map_some, if_pos (ho.trans hn)]
      · rw [if_neg ho, if_neg ho]
    · rw [if_neg hn, Entries.lookup_cons]
      by_cases ho : other = n
      · rw [if_pos ho, if_pos ho, Option.map_some, if_neg (ho ▸ hn)]
      · rw [if_neg ho, if_neg ho]

theorem field?_onField_of_ne {change : Value → Value} (h : other ≠ name) :
    (slots.onField v name change).field? other = v.field? other := by
  cases v with
  | table entries =>
    refine (lookup_map_if change entries).trans ?_
    simp only [if_neg h, Option.map_id']
    rfl
  | _ => rfl

theorem onListed_self (slots : Slots) (name : String) (items : List Value) :
    slots.onListed name (fun w => w) items = items := by
  induction slots generalizing items with
  | nil => cases items <;> rfl
  | cons f rest ih =>
    cases items with
    | nil => rfl
    | cons v items =>
      rw [onListed, ih]
      exact ite_self _

@[simp] theorem onField_self (slots : Slots) (v : Value) (name : String) :
    slots.onField v name (fun w => w) = v := by
  cases v with
  | table entries => simp [onField]
  | list items => exact congrArg Value.list (onListed_self slots name items)
  | _ => rfl

theorem narrow_onField {change : Value → Value} (hchange : ∀ v, v.Narrow → (change v).Narrow)
    (slots : Slots) (name : String) (hv : v.Narrow) : (slots.onField v name change).Narrow := by
  cases v with
  | table entries =>
    refine Value.narrow_table (List.forall_mem_map.mpr fun e he => ?_)
    have hnarrow := Entries.narrow_of_mem hv e he
    split
    · exact hchange e.2 hnarrow
    · exact hnarrow
  | list items =>
    show Value.Narrow (.list (slots.onListed name change items))
    induction slots generalizing items with
    | nil => cases items <;> exact hv
    | cons f rest ih =>
      cases items with
      | nil => exact hv
      | cons v items =>
        obtain ⟨hfirst, hitems⟩ := Value.narrow_cons.mp hv
        rw [onListed]
        split
        · exact Value.narrow_cons.mpr ⟨hchange v hfirst, hitems⟩
        · exact Value.narrow_cons.mpr ⟨hfirst, ih items hitems⟩
  | _ => exact hv

/-- Two changes of a field come to the same, if what they make of it is plainly the same. -/
theorem plain_onField {first second : Value → Value}
    (h : ∀ f ∈ slots, f.name = name → ∀ v, f.plain (first v) = f.plain (second v)) (v : Value) :
    slots.plain (slots.onField v name first) = slots.plain (slots.onField v name second) := by
  cases v with
  | table entries =>
    refine plain_congr fun f hf => ?_
    rw [lookup_map_if, lookup_map_if]
    cases entries.lookup f.name with
    | none => rfl
    | some w =>
      by_cases hname : f.name = name
      · simp only [Option.map_some, if_pos hname, Option.some_or, h f hf hname]
      · simp only [Option.map_some, if_neg hname]
  | list items =>
    show Value.list (slots.plainItems (slots.onListed name first items)) =
      .list (slots.plainItems (slots.onListed name second items))
    rw [Value.list.injEq]
    induction slots generalizing items with
    | nil => cases items <;> rfl
    | cons f rest ih =>
      obtain ⟨hf, hrest⟩ := List.forall_mem_cons.mp h
      cases items with
      | nil => rfl
      | cons w items =>
        rw [onListed, onListed]
        by_cases hname : f.name = name
        · rw [if_pos hname, if_pos hname, plainItems, plainItems, hf hname]
        · rw [if_neg hname, if_neg hname, plainItems, plainItems, ih hrest]
  | _ => rfl

end Slots

end Placard.Document
