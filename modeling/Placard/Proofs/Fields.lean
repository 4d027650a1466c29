/-
Placard/Proofs/Fields.lean

Reading back the fields of a record.

`Spells r s fields a` says that the named values `fields`, in the order of the record `r`, are what
`a` is written with; it is built up in the same way as the record.  From it both forms of the record
are read: a table that has these values under their names, in any order and among other entries
(`Spells.decode_table`), and a list of the values in which only the last fields may be missing
(`Spells.decode_list`).
-/
import Placard.Document.Decoder

namespace Placard.Document

/-- Named values in order, some of which may be left out. -/
abbrev Fields := List (String × Option Value)

/-- What is written for an option: if there is nothing, either `null` or nothing at all. -/
def Value.option? {α : Type} (asNull : Bool) (write : α → Value) : Option α → Option Value
  | some a => some (write a)
  | none => if asNull then some .null else none

@[simp] theorem Value.option?_false {α : Type} (write : α → Value) (o : Option α) :
    option? false write o = o.map write := by
  cases o <;> rfl

namespace Fields

/-- The values that are there. -/
def values (fields : Fields) : List Value := fields.filterMap (·.2)

/-- The values that are there, under their names. -/
def entries (fields : Fields) : Entries := fields.filterMap fun f => f.2.map (f.1, ·)

/-- What is left out comes last. -/
def Closed (fields : Fields) : Prop :=
  fields.Pairwise fun f g => f.2 = none → g.2 = none

variable {fields : Fields} {name : String}

theorem values_append (fields more : Fields) :
    values (fields ++ more) = fields.values ++ more.values :=
  List.filterMap_append

theorem values_eq_nil (h : ∀ f ∈ fields, f.2 = none) : fields.values = [] :=
  List.filterMap_eq_nil_iff.mpr h

theorem lookup_entries_of_fresh (h : name ∉ fields.map (·.1)) :
    fields.entries.lookup name = none := by
  refine List.lookup_eq_none_iff.mpr fun e he => ?_
  obtain ⟨f, hf, hfe⟩ := List.mem_filterMap.mp he
  obtain ⟨v, -, rfl⟩ := Option.map_eq_some_iff.mp hfe
  apply bne_iff_ne.mpr
  rintro rfl
  exact h (List.mem_map_of_mem hf)

/-- A field is found under its name, or missed if it is left out, as the names differ. -/
theorem lookup_entries (hnames : (fields.map (·.1)).Nodup) {f : String × Option Value}
    (hf : f ∈ fields) : fields.entries.lookup f.1 = f.2 := by
  induction fields with
  | nil => cases hf
  | cons g rest ih =>
    obtain ⟨n, value⟩ := g
    obtain ⟨hfresh, hrest⟩ : n ∉ rest.map (·.1) ∧ (rest.map (·.1)).Nodup :=
      List.nodup_cons.mp hnames
    rcases List.mem_cons.mp hf with rfl | hlater
    · cases value with
      | none =>
        show (entries rest).lookup n = none
        exact lookup_entries_of_fresh hfresh
      | some v => simp [entries]
    · -- an earlier field has another name
      have hne : (f.1 == n) = false := by
        apply beq_eq_false_iff_ne.mpr
        rintro rfl
        exact hfresh (List.mem_map_of_mem hlater)
      rw [← ih hrest hlater]
      cases value with
      | none => rfl
      | some v => simp [entries, List.lookup_cons, hne]

end Fields

/-- The entries have the fields under their names, and nothing there for what is left out. -/
def Entries.Have (entries : Entries) (fields : Fields) : Prop :=
  ∀ f ∈ fields, entries.lookup f.1 = f.2

/-- The entries have nothing else. -/
def Entries.Only (entries : Entries) (fields : Fields) : Prop :=
  ∀ e ∈ entries, (e.1, some e.2) ∈ fields

theorem Fields.only_entries {fields all : Fields} (hall : all ⊆ fields) :
    Entries.Only all.entries fields := by
  intro e he
  obtain ⟨f, hf, hfe⟩ := List.mem_filterMap.mp he
  obtain ⟨v, hv, rfl⟩ := Option.map_eq_some_iff.mp hfe
  exact hall (hv ▸ hf)

theorem Fields.have_entries {fields all : Fields} (hall : fields ⊆ all)
    (hnames : (all.map (·.1)).Nodup) : Entries.Have all.entries fields :=
  fun _ hf => lookup_entries hnames (hall hf)

/-- An entry under another name does not count. -/
theorem Entries.lookup_filter_ne {entries : Entries} {name other : String} (h : name ≠ other) :
    (entries.filter fun e => e.1 != other).lookup name = entries.lookup name := by
  induction entries with
  | nil => rfl
  | cons e rest ih =>
    obtain ⟨n, v⟩ := e
    by_cases hn : n = other
    · subst hn
      simp [ih, List.lookup_cons, beq_eq_false_iff_ne.mpr h]
    · simp [hn, List.lookup_cons, ih]

/-! ### Simple values -/

namespace Decoder

theorem pixel_integer (s : Source) (p : Pixel) : pixel s (.integer p.val) = .ok p := by
  simp [pixel, Pixel.ofInt?, p.least_le, p.le_greatest]

theorem number_number (s : Source) (x : Float) : number s (.number x) = .ok x := rfl

theorem text_text (s : Source) (words : String) : text s (.text words) = .ok words := rfl

/-- From every source `d` reads back what `write` writes, which is never `null`. -/
structure Reads {α : Type} (d : Decoder α) (write : α → Value) : Prop where
  decode : ∀ s a, d s (write a) = .ok a
  ne_null : ∀ a, write a ≠ .null

/-- As an option, the value is something because it is not `null`. -/
theorem Reads.optional {α : Type} {d : Decoder α} {write : α → Value} (h : d.Reads write)
    (s : Source) (a : α) : Decoder.optional d s (write a) = .ok (some a) := by
  unfold Decoder.optional
  split
  · rename_i hnull
    exact absurd hnull (h.ne_null a)
  · rw [h.decode]
    rfl

/-- A list is read back if all of its members are. -/
theorem Reads.list {α : Type} {d : Decoder α} {write : α → Value} (h : d.Reads write)
    (s : Source) (as : List α) : Decoder.list d s (.list (as.map write)) = .ok as := by
  show (as.map write).mapM (d s) = .ok as
  induction as with
  | nil => rfl
  | cons a rest ih =>
    rw [List.map_cons, List.mapM_cons, h.decode, ih]
    rfl

theorem reads_text : Reads text .text := ⟨fun _ _ => rfl, fun _ => Value.noConfusion⟩

theorem reads_path : Reads path .text := ⟨fun _ _ => rfl, fun _ => Value.noConfusion⟩

end Decoder

/-! ### Integers of at most 64 bits -/

/-- The value can be held until its reader is known. -/
def Value.Narrow (v : Value) : Prop := Decoder.isNarrow v = true

namespace Value

@[simp] theorem narrow_text (words : String) : Narrow (.text words) := rfl

@[simp] theorem narrow_number (x : Float) : Narrow (.number x) := rfl

@[simp] theorem narrow_pixel (p : Pixel) : Narrow (.integer p.val) := by
  have hleast := p.least_le
  have hgreatest := p.le_greatest
  simp only [Narrow, Decoder.isNarrow, integersWithin, Bool.and_eq_true, decide_eq_true_eq]
  omega

theorem narrow_list {items : List Value} (h : ∀ v ∈ items, Narrow v) : Narrow (.list items) := by
  show itemsWithin _ _ items = true
  induction items with
  | nil => rfl
  | cons v rest ih =>
    obtain ⟨hv, hrest⟩ := List.forall_mem_cons.mp h
    rw [itemsWithin, Bool.and_eq_true]
    exact ⟨hv, ih hrest⟩

theorem narrow_list_map {α : Type} {write : α → Value} (h : ∀ a, (write a).Narrow)
    (as : List α) : Narrow (.list (as.map write)) :=
  narrow_list (List.forall_mem_map.mpr fun a _ => h a)

theorem narrow_table {entries : Entries} (h : ∀ e ∈ entries, Narrow e.2) :
    Narrow (.table entries) := by
  show entriesWithin _ _ entries = true
  induction entries with
  | nil => rfl
  | cons e rest ih =>
    obtain ⟨he, hrest⟩ := List.forall_mem_cons.mp h
    rw [entriesWithin, Bool.and_eq_true]
    exact ⟨he, ih hrest⟩

end Value

namespace Fields

/-- All values that are there are narrow. -/
def Narrow (fields : Fields) : Prop := ∀ f ∈ fields, ∀ v ∈ f.2, Value.Narrow v

theorem narrow_values {fields : Fields} (h : fields.Narrow) : ∀ v ∈ fields.values, v.Narrow := by
  intro v hv
  obtain ⟨f, hf, hfv⟩ := List.mem_filterMap.mp hv
  exact h f hf v hfv

end Fields

theorem Value.narrow_option? {α : Type} {write : α → Value} (h : ∀ a, (write a).Narrow)
    (asNull : Bool) (o : Option α) (v : Value) (hv : option? asNull write o = some v) :
    v.Narrow := by
  cases o with
  | some a =>
    obtain rfl : write a = v := Option.some.inj hv
    exact h a
  | none =>
    cases asNull with
    | true =>
      obtain rfl : Value.null = v := Option.some.inj hv
      rfl
    | false => cases hv

theorem Decoder.held_of_narrow {α : Type} (d : Decoder α) {v : Value} (h : v.Narrow) (s : Source) :
    d.held s v = d s.hold v :=
  if_pos h

/-! ### Records -/

/-- Reading a record and then changing its form. -/
theorem Record.decode_map {α β : Type} (r : Record α) (f : α → β) (title : String) (s : Source)
    (v : Value) : (r.map f).decode title s v = (r.decode title s v).map f := by
  cases v with
  | table entries =>
    show ((r.ofTable s entries).map f).mapError Defects.first =
      ((r.ofTable s entries).mapError Defects.first).map f
    cases r.ofTable s entries <;> rfl
  | list items =>
    have hread : (r.map f).ofList s 0 items =
        (r.ofList s 0 items).map fun read => (f read.1, read.2) := by
      show (r.ofList s 0 items >>= _) = _
      cases r.ofList s 0 items <;> rfl
    show (r.map f).decodeList title s items = (r.decodeList title s items).map f
    unfold decodeList
    rw [hread]
    cases r.ofList s 0 items with
    | error e => cases e <;> rfl
    | ok read =>
      simp only [Except.map]
      cases s.surplus? read.2.1 items.length <;> rfl
  | _ => rfl

/-- The fields, in the order of the record, are what the value is written with. -/
inductive Spells (s : Source) : {α : Type} → Record α → Fields → α → Prop
  | field {α : Type} {name : String} {d : Decoder α} {v : Value} {a : α} :
      d s v = .ok a → Spells s (.field name d) [(name, some v)] a
  | fieldOr {α : Type} {name : String} {d : Decoder α} {default : α} {v : Value} {a : α} :
      d s v = .ok a → Spells s (.fieldOr name d default) [(name, some v)] a
  /-- a field that is left out has its default -/
  | omitted {α : Type} {name : String} {d : Decoder α} {default : α} :
      Spells s (.fieldOr name d default) [(name, none)] default
  | both {α β : Type} {a : Record α} {b : Record β} {fields more : Fields} {x : α} {y : β} :
      Spells s a fields x → Spells s b more y → Spells s (a.both b) (fields ++ more) (x, y)
  | map {α β : Type} {r : Record α} {fields : Fields} {a : α} (f : α → β) :
      Spells s r fields a → Spells s (r.map f) fields (f a)

namespace Spells

variable {α : Type} {s : Source} {r : Record α} {fields : Fields} {a : α}

/-- An option is written as its value or, if there is none, in one of the ways to write nothing. -/
theorem fieldIf {name : String} {d : Decoder α} {write : α → Value} (h : d.Reads write)
    (asNull : Bool) (o : Option α) :
    Spells s (.fieldIf name d) [(name, Value.option? asNull write o)] o := by
  cases o with
  | some a => exact .fieldOr (h.optional s a)
  | none =>
    cases asNull with
    | true => exact .fieldOr rfl
    | false => exact .omitted

/-- Off a table the fields are read by their names. -/
theorem ofTable (h : Spells s r fields a) {entries : Entries}
    (hentries : entries.Have fields) : r.ofTable s entries = .ok a := by
  induction h with
  | field hd =>
    unfold Record.field
    simp only [hentries _ List.mem_cons_self, hd]
    rfl
  | fieldOr hd =>
    unfold Record.fieldOr
    simp only [hentries _ List.mem_cons_self, hd]
    rfl
  | omitted =>
    unfold Record.fieldOr
    simp only [hentries _ List.mem_cons_self]
  | both ha hb iha ihb =>
    obtain ⟨hfields, hmore⟩ := List.forall_mem_append.mp hentries
    simp only [Record.both, iha hfields, ihb hmore]
  | map f hr ih =>
    simp only [Record.map, ih hentries]
    rfl

/-- Off a list the fields are read one by one.  Nothing may follow a field that is left out, so the
rest of the list is made of fields as well. -/
theorem ofList (h : Spells s r fields a) (used : Nat) (rest : Fields)
    (hclosed : Fields.Closed (fields ++ rest)) :
    r.ofList s used (Fields.values (fields ++ rest)) =
      .ok (a, used + fields.values.length, rest.values) := by
  induction h generalizing used rest with
  | field hd =>
    unfold Record.field
    simp only [Fields.values, List.cons_append, List.filterMap_cons, hd]
    rfl
  | fieldOr hd =>
    unfold Record.fieldOr
    simp only [Fields.values, List.cons_append, List.filterMap_cons, hd]
    rfl
  | omitted =>
    -- the list has ended
    have hrest : rest.values = [] :=
      Fields.values_eq_nil fun f hf => (List.pairwise_cons.mp hclosed).1 f hf rfl
    rw [Fields.values_append, hrest]
    rfl
  | @both α β r₁ r₂ first second x y ha hb iha ihb =>
    rw [List.append_assoc] at hclosed ⊢
    have hsecond : Fields.Closed (second ++ rest) := (List.pairwise_append.mp hclosed).2.1
    show (r₁.ofList s used _ >>= fun p => r₂.ofList s p.2.1 p.2.2 >>= fun q =>
      .ok ((p.1, q.1), q.2.1, q.2.2)) = _
    rw [iha used _ hclosed]
    show (r₂.ofList s (used + first.values.length) _ >>= _) = _
    rw [ihb _ _ hsecond, Fields.values_append first second, List.length_append, ← Nat.add_assoc]
    rfl
  | map f hr ih =>
    unfold Record.map
    simp only [ih used rest hclosed]
    rfl

/-- A table in which the fields are under their names. -/
theorem decode_table (h : Spells s r fields a) (title : String) {entries : Entries}
    (hentries : entries.Have fields) : r.decode title s (.table entries) = .ok a := by
  show (r.ofTable s entries).mapError Defects.first = _
  rw [h.ofTable hentries]
  rfl

/-- The list of these fields. -/
theorem decode_list (h : Spells s r fields a) (title : String) (hclosed : fields.Closed) :
    r.decode title s (.list fields.values) = .ok a := by
  have hread := h.ofList 0 [] (by rwa [List.append_nil])
  have hused : s.surplus? (0 + fields.values.length) fields.values.length = none := by
    simp [Source.surplus?]
  rw [List.append_nil] at hread
  show r.decodeList title s fields.values = _
  unfold Record.decodeList
  simp only [hread, hused]

end Spells

/-- A record that is written as a table is read back. -/
theorem Decoder.Reads.ofTable {α : Type} {r : Record α} {fields : α → Fields} {write : α → Value}
    (hspells : ∀ s a, Spells s r (fields a) a)
    (hwrite : ∀ a, ∃ entries : Entries, write a = .table entries ∧ entries.Have (fields a))
    (title : String) : Reads (r.decode title) write where
  decode s a := by
    obtain ⟨entries, h, hentries⟩ := hwrite a
    rw [h]
    exact (hspells s a).decode_table title hentries
  ne_null a := by
    obtain ⟨entries, h, -⟩ := hwrite a
    rw [h]
    exact Value.noConfusion

/-- A record that is written as a list is read back. -/
theorem Decoder.Reads.ofList {α : Type} {r : Record α} {fields : α → Fields}
    (hspells : ∀ s a, Spells s r (fields a) a) (hclosed : ∀ a, (fields a).Closed)
    (title : String) : Reads (r.decode title) fun a => .list (fields a).values :=
  ⟨fun s a => (hspells s a).decode_list title (hclosed a), fun _ => Value.noConfusion⟩

end Placard.Document
