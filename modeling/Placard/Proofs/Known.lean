/-
Placard/Proofs/Known.lean

What the reader of a record looks at.

`Knows r slots` says that the slots are those of the record `r`; it is built up in the same way as
the record.  From it follows that a value and its plain form are read alike (`Knows.regards`), and
hence any two values that have one plain form; and that something is read off a table if all of its
fields fit (`Knows.takes_table`).
-/
import Placard.Proofs.Job
import Placard.Proofs.Slots

namespace Placard.Document

/-! ### Readers that look at plain forms only -/

/-- A value and its plain form are read alike. -/
structure Decoder.Regards {α : Type} (d : Decoder α) (plain : Value → Value) : Prop where
  decode : ∀ s v, d s (plain v) = d s v
  null_iff : ∀ v, plain v = .null ↔ v = .null

namespace Decoder.Regards

variable {α : Type} {d : Decoder α} {plain : Value → Value}

theorem whole (d : Decoder α) : d.Regards id := ⟨fun _ _ => rfl, fun _ => Iff.rfl⟩

theorem list (h : d.Regards plain) : (Decoder.list d).Regards (Value.each plain) where
  decode s v := by
    cases v with
    | list items =>
      show (items.map plain).mapM (d s) = items.mapM (d s)
      induction items with
      | nil => rfl
      | cons v rest ih => rw [List.map_cons, List.mapM_cons, List.mapM_cons, h.decode, ih]
    | _ => rfl
  null_iff v := by cases v <;> simp [Value.each]

theorem optional (h : d.Regards plain) : (Decoder.optional d).Regards plain where
  decode s v := by
    by_cases hv : v = .null
    · rw [(h.null_iff v).mpr hv, hv]
    · have hplain : plain v ≠ .null := mt (h.null_iff v).mp hv
      have hsome : ∀ w, w ≠ .null → Decoder.optional d s w = (d s w).map some := by
        intro w hw
        cases w with
        | null => exact absurd rfl hw
        | _ => rfl
      rw [hsome _ hplain, hsome _ hv, h.decode]
  null_iff := h.null_iff

end Decoder.Regards

/-! ### What is read -/

theorem Decoder.held_eq_ok {α : Type} {d : Decoder α} {s : Source} {v : Value} {a : α} :
    d.held s v = .ok a ↔ v.Narrow ∧ d s.hold v = .ok a := by
  unfold held Value.Narrow refuse
  split
  · rename_i hv
    exact (and_iff_right hv).symm
  · rename_i hv
    exact ⟨nofun, fun h => absurd h.1 hv⟩

theorem Decoder.pixel_eq_ok {s : Source} {v : Value} {p : Pixel} :
    pixel s v = .ok p ↔ v = .integer p.val := by
  constructor
  · intro h
    cases v with
    | integer n =>
      unfold pixel at h
      dsimp only at h
      cases hn : Pixel.ofInt? n with
      | none =>
        rw [hn] at h
        cases h
      | some q =>
        rw [hn] at h
        obtain rfl : q = p := Except.ok.inj h
        rw [Pixel.ofInt?_eq_some_iff.mp hn]
    | _ => cases h
  · rintro rfl
    exact pixel_integer s p

/-- As an option a value is read if it is `null` or read anyway. -/
theorem Decoder.takes_optional {α : Type} {d : Decoder α} {s : Source} {v : Value} :
    (optional d).Takes s v ↔ v = .null ∨ d.Takes s v := by
  by_cases hv : v = .null
  · subst hv
    exact ⟨fun _ => .inl rfl, fun _ => ⟨none, rfl⟩⟩
  · have hsome : optional d s v = (d s v).map some := by
      unfold optional
      split
      · exact absurd rfl hv
      · rfl
    simp only [Takes, hsome, Except.map_eq_ok, hv, false_or]
    exact ⟨fun ⟨_, a, ha, _⟩ => ⟨a, ha⟩, fun ⟨a, ha⟩ => ⟨some a, a, ha, rfl⟩⟩

namespace Record

variable {α β : Type} {s : Source} {entries : Entries} {name : String} {d : Decoder α}

theorem ofTable_field {a : α} : (field name d).ofTable s entries = .ok a ↔
    ∃ v, entries.lookup name = some v ∧ d s v = .ok a := by
  unfold field
  dsimp only
  cases entries.lookup name with
  | none => simp
  | some v => simp [Except.mapError_eq_ok]

theorem ofTable_fieldOr {default a : α} : (fieldOr name d default).ofTable s entries = .ok a ↔
    entries.lookup name = none ∧ default = a ∨
      ∃ v, entries.lookup name = some v ∧ d s v = .ok a := by
  unfold fieldOr
  dsimp only
  cases entries.lookup name with
  | none => simp
  | some v => simp [Except.mapError_eq_ok]

theorem ofTable_both {r₁ : Record α} {r₂ : Record β} {p : α × β} :
    (r₁.both r₂).ofTable s entries = .ok p ↔
      r₁.ofTable s entries = .ok p.1 ∧ r₂.ofTable s entries = .ok p.2 := by
  unfold both
  dsimp only
  cases r₁.ofTable s entries <;> cases r₂.ofTable s entries <;> simp [Prod.ext_iff]

theorem ofTable_map {r : Record α} {f : α → β} {b : β} :
    (r.map f).ofTable s entries = .ok b ↔ ∃ a, r.ofTable s entries = .ok a ∧ f a = b := by
  unfold map
  exact Except.map_eq_ok

theorem decode_table_eq_ok {r : Record α} {title : String} {a : α} :
    r.decode title s (.table entries) = .ok a ↔ r.ofTable s entries = .ok a :=
  Except.mapError_eq_ok

theorem of_decode_map {r : Record α} {f : α → β} {title : String} {v : Value} {b : β}
    (h : (r.map f).decode title s v = .ok b) : ∃ a, f a = b := by
  rw [decode_map] at h
  obtain ⟨a, -, hb⟩ := Except.map_eq_ok.mp h
  exact ⟨a, hb⟩

theorem of_decodeTable_map {r : Record α} {f : α → β} {b : β}
    (h : (r.map f).decodeTable s entries = .ok b) :
    ∃ a, r.ofTable s entries = .ok a ∧ f a = b :=
  ofTable_map.mp (Except.mapError_eq_ok.mp h)

end Record

/-- The slots are those of the record. -/
inductive Knows : {α : Type} → Record α → Slots → Prop
  | field {α : Type} {name : String} {d : Decoder α} {plain : Value → Value} :
      d.Regards plain → Knows (.field name d) [.field name d plain]
  | fieldOr {α : Type} {name : String} {d : Decoder α} {default : α} {plain : Value → Value}
      {v : Value} : d.Regards plain → (∀ s, d s v = .ok default) →
      Knows (.fieldOr name d default) [.fieldOr name d v plain]
  | both {α β : Type} {a : Record α} {b : Record β} {slots more : Slots} :
      Knows a slots → Knows b more → Knows (a.both b) (slots ++ more)
  | map {α β : Type} {r : Record α} {slots : Slots} (f : α → β) :
      Knows r slots → Knows (r.map f) slots

namespace Knows

variable {α : Type} {r : Record α} {slots : Slots}

theorem fieldIf {name : String} {d : Decoder α} {plain : Value → Value} (h : d.Regards plain) :
    Knows (.fieldIf name d) [.fieldIf name d plain] :=
  .fieldOr h.optional fun _ => rfl

theorem ofTable (h : Knows r slots) (s : Source) {entries plainEntries : Entries}
    (hplain : ∀ f ∈ slots,
      plainEntries.lookup f.name = ((entries.lookup f.name).or f.default?).map f.plain) :
    r.ofTable s plainEntries = r.ofTable s entries := by
  induction h with
  | @field α name d plain hd =>
    have hlookup := hplain _ List.mem_cons_self
    unfold Record.field
    unfold Slot.field at hlookup
    dsimp only at hlookup ⊢
    rw [hlookup]
    cases entries.lookup name with
    | none => rfl
    | some v =>
      show (d s (plain v)).mapError _ = (d s v).mapError _
      rw [hd.decode]
  | @fieldOr α name d default plain w hd hdefault =>
    have hlookup := hplain _ List.mem_cons_self
    unfold Record.fieldOr
    unfold Slot.fieldOr at hlookup
    dsimp only at hlookup ⊢
    rw [hlookup]
    cases entries.lookup name with
    | none =>
      show (d s (plain w)).mapError _ = .ok default
      rw [hd.decode, hdefault]
      rfl
    | some v =>
      show (d s (plain v)).mapError _ = (d s v).mapError _
      rw [hd.decode]
  | both ha hb iha ihb =>
    obtain ⟨hslots, hmore⟩ := List.forall_mem_append.mp hplain
    simp only [Record.both, iha hslots, ihb hmore]
  | map f hr ih => simp only [Record.map, ih hplain]

/-- Off a list of plain items the same is read as off the list itself, and what is left over are
the plain items of what is left over there. -/
theorem ofList (h : Knows r slots) (s : Source) (used : Nat) (items : List Value) (more : Slots) :
    r.ofList s used (Slots.plainItems (slots ++ more) items) =
      (r.ofList s used items).map fun read => (read.1, read.2.1, more.plainItems read.2.2) := by
  induction h generalizing used items more with
  | @field α name d plain hd =>
    cases items with
    | nil => rfl
    | cons v rest =>
      show ((d s (plain v)).mapError ListDefect.wrong >>= fun a =>
          pure (a, used + 1, more.plainItems rest)) =
        ((d s v).mapError ListDefect.wrong >>= fun a => pure (a, used + 1, rest)).map _
      rw [hd.decode]
      cases d s v <;> rfl
  | @fieldOr α name d default plain w hd hdefault =>
    cases items with
    | nil =>
      -- nothing is left for the slots after this one, whatever they are
      cases more <;> rfl
    | cons v rest =>
      show ((d s (plain v)).mapError ListDefect.wrong >>= fun a =>
          pure (a, used + 1, more.plainItems rest)) =
        ((d s v).mapError ListDefect.wrong >>= fun a => pure (a, used + 1, rest)).map _
      rw [hd.decode]
      cases d s v <;> rfl
  | @both α β a b first second ha hb iha ihb =>
    rw [List.append_assoc]
    show (a.ofList s used _ >>= fun p => b.ofList s p.2.1 p.2.2 >>= fun q =>
        .ok ((p.1, q.1), q.2.1, q.2.2)) =
      (a.ofList s used items >>= fun p => b.ofList s p.2.1 p.2.2 >>= fun q =>
        .ok ((p.1, q.1), q.2.1, q.2.2)).map _
    rw [iha]
    cases a.ofList s used items with
    | error e => rfl
    | ok read =>
      show (b.ofList s read.2.1 ((second ++ more).plainItems read.2.2) >>= _) =
        (b.ofList s read.2.1 read.2.2 >>= _).map _
      rw [ihb]
      cases b.ofList s read.2.1 read.2.2 <;> rfl
  | @map α β r slots f hr ih =>
    show (r.ofList s used _ >>= fun p => .ok (f p.1, p.2.1, p.2.2)) =
      (r.ofList s used items >>= fun p => .ok (f p.1, p.2.1, p.2.2)).map _
    rw [ih]
    cases r.ofList s used items <;> rfl

/-- A record looks at the plain form of its fields only, in both of its forms. -/
theorem regards (h : Knows r slots) (hnames : slots.names.Nodup) (title : String) :
    (r.decode title).Regards slots.plain where
  decode s v := by
    cases v with
    | table entries =>
      show (r.ofTable s (slots.fields entries).entries).mapError Defects.first =
        (r.ofTable s entries).mapError Defects.first
      rw [h.ofTable s fun f hf => Slots.lookup_fields hnames hf]
    | list items =>
      have hread := h.ofList s 0 items []
      rw [List.append_nil] at hread
      show r.decodeList title s (slots.plainItems items) = r.decodeList title s items
      unfold Record.decodeList
      rw [hread, Slots.length_plainItems]
      cases r.ofList s 0 items <;> rfl
    | _ => rfl
  null_iff v := by cases v <;> simp [Slots.plain]

/-- Something is read off a table if every field fits. -/
theorem takes_table (h : Knows r slots) (title : String) (s : Source) (entries : Entries) :
    (r.decode title).Takes s (.table entries) ↔
      ∀ f ∈ slots, f.Fits s (entries.lookup f.name) := by
  simp only [Decoder.Takes, Record.decode_table_eq_ok]
  induction h with
  | @field α name d plain hd =>
    simp only [Record.ofTable_field, List.forall_mem_singleton, Slot.field]
    cases entries.lookup name with
    | none => simp [Slot.Fits]
    | some v => simp [Slot.Fits, Decoder.Takes]
  | @fieldOr α name d default plain w hd hdefault =>
    simp only [Record.ofTable_fieldOr, List.forall_mem_singleton, Slot.fieldOr]
    cases entries.lookup name with
    | none => simp [Slot.Fits]
    | some v => simp [Slot.Fits, Decoder.Takes]
  | both ha hb iha ihb =>
    simp only [Record.ofTable_both, List.forall_mem_append, ← iha, ← ihb, Prod.exists,
      exists_and_left, exists_and_right]
  | map f hr ih =>
    simp only [Record.ofTable_map, ← ih]
    exact ⟨fun ⟨_, a, ha, _⟩ => ⟨a, ha⟩, fun ⟨a, ha⟩ => ⟨f a, a, ha, rfl⟩⟩

/-- If a field has a default, it does no harm to take it out. -/
theorem takes_drop (h : Knows r slots) {title name : String}
    (hname : ∀ f ∈ slots, f.name = name → f.default?.isSome) {s : Source} {v : Value}
    (hv : (r.decode title).Takes s v) : (r.decode title).Takes s (v.drop name) := by
  cases v with
  | table entries =>
    refine (h.takes_table title s _).mpr fun f hf => ?_
    by_cases hne : f.name = name
    · subst hne
      rw [Entries.lookup_without]
      exact hname f hf rfl
    · rw [Entries.lookup_without_of_ne hne]
      exact (h.takes_table title s entries).mp hv f hf
  | _ => exact hv

/-- A field may be changed into another value that is read. -/
theorem takes_onField (h : Knows r slots) {title name : String} {change : Value → Value}
    {s : Source} (hname : ∀ f ∈ slots, f.name = name → ∀ v, f.takes s v → f.takes s (change v))
    {entries : Entries} (hv : (r.decode title).Takes s (.table entries)) :
    (r.decode title).Takes s (slots.onField (.table entries) name change) := by
  refine (h.takes_table title s _).mpr fun f hf => ?_
  have hfits := (h.takes_table title s entries).mp hv f hf
  rw [Slots.lookup_map_if]
  cases hlookup : entries.lookup f.name with
  | none =>
    rw [hlookup] at hfits
    exact hfits
  | some v =>
    rw [hlookup] at hfits
    by_cases hne : f.name = name
    · rw [Option.map_some, if_pos hne]
      exact hname f hf hne v hfits
    · rw [Option.map_some, if_neg hne]
      exact hfits

end Knows

end Placard.Document
