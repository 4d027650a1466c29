/-
Placard/Proofs/Tree.lean

What a tree of files holds after a change.

`Files.at?` tells what is at a location; two trees with the same answers everywhere are the same
for every operation.  A tree is changed by `Files.put`, at one location (`Files.at?_put`).  A
walk still finds its way in a tree where no directory is lost and nothing is missing
(`Files.walk_mono`).
-/
import Placard.Proofs.Job

namespace Placard.Files

variable {f g : Files} {l m : Location} {e : Entry}

/-! ### Entries -/

theorem lookup_map_replace (entries : List (Location × Entry)) (l m : Location) (e : Entry) :
    (entries.map fun p => if p.1 = l then (l, e) else p).lookup m =
      if m = l then (entries.lookup l).map fun _ => e else entries.lookup m := by
  induction entries with
  | nil => simp
  | cons p rest ih =>
    obtain ⟨k, old⟩ := p
    by_cases hk : k = l
    · subst hk
      by_cases hm : m = k
      · simp [hm]
      · have hne : (m == k) = false := beq_eq_false_iff_ne.mpr hm
        rw [if_neg hm] at ih
        simp [List.lookup_cons, hne, hm, ih]
    · by_cases hm : m = l
      · subst hm
        have hne : (m == k) = false := beq_eq_false_iff_ne.mpr (Ne.symm hk)
        rw [if_pos rfl] at ih
        simp [List.lookup_cons, hk, hne, ih]
      · rw [if_neg hm] at ih
        simp [List.lookup_cons, hk, hm, ih]

theorem at?_root (f : Files) : f.at? [] = some .directory := rfl

theorem at?_of_ne (f : Files) (h : l ≠ []) : f.at? l = f.entries.lookup l := by
  rw [at?, if_neg h]

/-- A change at one location is seen there and nowhere else. -/
theorem at?_put (f : Files) (hl : l ≠ []) (e : Entry) (m : Location) :
    (f.put l e).at? m = if m = l then some e else f.at? m := by
  by_cases hm : m = []
  · subst hm
    rw [at?_root, if_neg (Ne.symm hl), at?_root]
  · rw [at?_of_ne _ hm, at?_of_ne _ hm]
    cases hold : f.entries.lookup l with
    | some old =>
      -- the entry is replaced at its place
      have hput : f.put l e =
          { f with entries := f.entries.map fun p => if p.1 = l then (l, e) else p } := by
        simp [put, hold]
      rw [hput, lookup_map_replace, hold]
      rfl
    | none =>
      -- a new entry comes last, and is not hidden by an earlier one
      have hput : f.put l e = { f with entries := f.entries ++ [(l, e)] } := by
        simp [put, hold]
      rw [hput, List.lookup_append]
      by_cases hml : m = l
      · subst hml
        simp [hold]
      · have hne : (m == l) = false := beq_eq_false_iff_ne.mpr hml
        simp [hml, hne, List.lookup_cons]

theorem here_put (f : Files) (l : Location) (e : Entry) : (f.put l e).here = f.here := by
  unfold put
  split
  · rfl
  · rfl

/-! ### Paths to directories -/

/-- The path leads to the directory at `l`. -/
def LeadsTo (f : Files) (path : String) (l : Location) : Prop :=
  f.walk (f.start path) (pathParts path) = .ok l ∧ f.at? l = some .directory

theorem LeadsTo.unique {path : String} (hl : f.LeadsTo path l) (hm : f.LeadsTo path m) :
    l = m := by
  have h : Except.ok l = Except.ok m := hl.1.symm.trans hm.1
  exact Except.ok.inj h

/-- One name of a walk: the walk is in a directory, and where it goes on something is. -/
theorem walk_cons_eq_ok {name : String} {rest : List String} :
    f.walk l (name :: rest) = .ok m ↔
      f.at? l = some .directory ∧
        ((name = "." ∧ f.walk l rest = .ok m) ∨
          (name ≠ "." ∧ name = ".." ∧ f.walk l.dropLast rest = .ok m) ∨
          (name ≠ "." ∧ name ≠ ".." ∧ name.utf8ByteSize ≤ nameLimit ∧
            (∃ e, f.at? (l ++ [name]) = some e) ∧ f.walk (l ++ [name]) rest = .ok m)) := by
  rw [walk]
  constructor
  · intro h
    cases hl : f.at? l with
    | none => rw [hl] at h; cases h
    | some e =>
      rw [hl] at h
      cases e with
      | file content => cases h
      | directory =>
        refine ⟨rfl, ?_⟩
        dsimp only at h
        by_cases hdot : name = "."
        · rw [if_pos hdot] at h
          exact .inl ⟨hdot, h⟩
        rw [if_neg hdot] at h
        by_cases hdots : name = ".."
        · rw [if_pos hdots] at h
          exact .inr (.inl ⟨hdot, hdots, h⟩)
        rw [if_neg hdots] at h
        by_cases hlong : nameLimit < name.utf8ByteSize
        · rw [if_pos hlong] at h
          cases h
        rw [if_neg hlong] at h
        cases hnext : f.at? (l ++ [name]) with
        | none => rw [hnext] at h; cases h
        | some e =>
          rw [hnext] at h
          exact .inr (.inr ⟨hdot, hdots, Nat.le_of_not_lt hlong, ⟨e, rfl⟩, h⟩)
  · rintro ⟨hl, hnext⟩
    rw [hl]
    show (if name = "." then f.walk l rest else _) = _
    rcases hnext with ⟨hdot, h⟩ | ⟨hdot, hdots, h⟩ | ⟨hdot, hdots, hshort, ⟨e, he⟩, h⟩
    · rw [if_pos hdot, h]
    · rw [if_neg hdot, if_pos hdots, h]
    · rw [if_neg hdot, if_neg hdots, if_neg (Nat.not_lt.mpr hshort), he]
      exact h

/-- A walk that finds its way still finds it where more is. -/
theorem walk_mono {names : List String}
    (hdirectory : ∀ k, f.at? k = some .directory → g.at? k = some .directory)
    (hsome : ∀ k e, f.at? k = some e → ∃ e', g.at? k = some e')
    (h : f.walk l names = .ok m) : g.walk l names = .ok m := by
  induction names generalizing l with
  | nil => exact h
  | cons name rest ih =>
    rw [walk_cons_eq_ok] at h ⊢
    obtain ⟨hl, hnext⟩ := h
    refine ⟨hdirectory l hl, ?_⟩
    rcases hnext with ⟨hdot, h⟩ | ⟨hdot, hdots, h⟩ | ⟨hdot, hdots, hshort, ⟨e, he⟩, h⟩
    · exact .inl ⟨hdot, ih h⟩
    · exact .inr (.inl ⟨hdot, hdots, ih h⟩)
    · exact .inr (.inr ⟨hdot, hdots, hshort, hsome _ e he, ih h⟩)

/-- Two walks in a row are one. -/
theorem walk_append (f : Files) (l : Location) (a b : List String) :
    f.walk l (a ++ b) = f.walk l a >>= fun k => f.walk k b := by
  induction a generalizing l with
  | nil => rfl
  | cons name rest ih =>
    rw [List.cons_append, walk, walk]
    cases f.at? l with
    | none => rfl
    | some e =>
      cases e with
      | file content => rfl
      | directory =>
        dsimp only
        by_cases hdot : name = "."
        · rw [if_pos hdot, if_pos hdot, ih]
        rw [if_neg hdot, if_neg hdot]
        by_cases hdots : name = ".."
        · rw [if_pos hdots, if_pos hdots, ih]
        rw [if_neg hdots, if_neg hdots]
        by_cases hlong : nameLimit < name.utf8ByteSize
        · rw [if_pos hlong, if_pos hlong]
          rfl
        rw [if_neg hlong, if_neg hlong]
        cases f.at? (l ++ [name]) with
        | none => rfl
        | some e => exact ih _

theorem walk_append_eq_ok {a b : List String} : f.walk l (a ++ b) = .ok m ↔
    ∃ k, f.walk l a = .ok k ∧ f.walk k b = .ok m := by
  rw [walk_append, Except.bind_eq_ok]

end Placard.Files
