/-
Placard/Proofs/Tones.lean

Overrides of a palette, tone by tone.

A palette is put together in a loop over the tones: where a tone has a setting, its color is
replaced, or the setting is reported if it names no color (`Override.step`).  One step changes the
color of its own tone only (`Override.color_step`), so that a run over any tones leaves each of them
with the color of its own setting (`Override.color_foldl`).  Over all tones that is the palette
`Override.theme`, and the reports are `Override.refusals`.
-/
import Mathlib.Data.List.Nodup
import Placard.Config.File
import Placard.Proofs.Hexadecimal

namespace Placard

/-! ### Tones -/

theorem Tone.nodup_all : Tone.all.Nodup := by decide

theorem Tone.mem_all (t : Tone) : t ∈ Tone.all := by
  cases t with
  | status s => cases s <;> decide
  | _ => decide

namespace Theme

/-- The theme with another color for one tone. -/
def put (theme : Theme) (t : Tone) (c : Color) : Theme :=
  ofTones fun u => if u = t then c else theme.color u

theorem color_put (theme : Theme) (t : Tone) (c : Color) (u : Tone) :
    (theme.put t c).color u = if u = t then c else theme.color u :=
  color_ofTones _ u

/-- A theme is given by the colors of the tones. -/
theorem ext_color {a b : Theme} (h : ∀ t, a.color t = b.color t) : a = b := by
  have hcolors : ∀ theme : Theme, ofTones theme.color = theme := fun _ => rfl
  rw [← hcolors a, ← hcolors b, funext h]

theorem alpha_standard (t : Tone) : (standard.color t).a = 1 := by
  cases t with
  | status s => cases s <;> rfl
  | _ => rfl

end Theme

/-! ### Single settings -/

theorem Color.exists_ofBytes_of_mem_names : ∀ e ∈ names, ∃ r g b, e.2 = ofBytes r g b := by
  simp only [names, List.forall_mem_cons]
  exact ⟨⟨_, _, _, rfl⟩, ⟨_, _, _, rfl⟩, ⟨_, _, _, rfl⟩, ⟨_, _, _, rfl⟩, ⟨_, _, _, rfl⟩,
    ⟨_, _, _, rfl⟩, ⟨_, _, _, rfl⟩, List.forall_mem_nil _⟩

namespace ColorSpec

variable {spec : ColorSpec} {c : Color}

/-- Every color that a setting may mean is made of three bytes, and so has no transparency. -/
theorem exists_ofBytes_of_resolve (h : spec.resolve = .ok c) :
    ∃ r g b, c = Color.ofBytes r g b := by
  cases spec with
  | rgb r g b => exact ⟨r, g, b, (Except.ok.inj h).symm⟩
  | name text =>
    unfold resolve at h
    dsimp only at h
    split at h
    · split at h
      · rename_i hc
        obtain ⟨r, g, b, -, rfl⟩ := Color.ofHex?_eq_some_iff.mp hc
        exact ⟨r, g, b, (Except.ok.inj h).symm⟩
      · cases h
    · split at h
      · rename_i hc
        obtain ⟨before, after, hnames, -⟩ := List.lookup_eq_some_iff.mp hc
        exact Except.ok.inj h ▸ Color.exists_ofBytes_of_mem_names _
          (hnames ▸ List.mem_append_right before List.mem_cons_self)
      · cases h

/-- What a tone without a setting, or with one, is shown in, and what is reported: without a setting
and with one that names no color it is the fallback. -/
inductive Gives (fallback : Color) : Option ColorSpec → Color → Option ColorRefusal → Prop
  | unset : Gives fallback none fallback none
  | valid {setting : ColorSpec} {meant : Color} :
    setting.resolve = .ok meant → Gives fallback (some setting) meant none
  | invalid {setting : ColorSpec} {refusal : ColorRefusal} :
    setting.resolve = .error refusal → Gives fallback (some setting) fallback (some refusal)

/-- The color that a setting leaves a tone with. -/
def pick (setting : Option ColorSpec) (fallback : Color) : Color :=
  match setting with
  | some spec => spec.colorOr fallback
  | none => fallback

theorem gives_pick (setting : Option ColorSpec) (fallback : Color) :
    Gives fallback setting (pick setting fallback) (setting.bind refusal?) := by
  cases setting with
  | none => exact .unset
  | some spec =>
    show Gives fallback (some spec) (spec.colorOr fallback) spec.refusal?
    unfold colorOr refusal?
    cases h : spec.resolve with
    | ok c => exact .valid h
    | error e => exact .invalid h

/-- Applied a second time, a setting changes nothing. -/
theorem pick_pick (setting : Option ColorSpec) (fallback : Color) :
    pick setting (pick setting fallback) = pick setting fallback := by
  cases setting with
  | none => rfl
  | some spec =>
    show spec.colorOr (spec.colorOr fallback) = spec.colorOr fallback
    unfold colorOr
    cases spec.resolve <;> rfl

theorem Gives.alpha {fallback : Color} {setting : Option ColorSpec} {refusal : Option ColorRefusal}
    (h : Gives fallback setting c refusal) (hfallback : fallback.a = 1) : c.a = 1 := by
  cases h with
  | unset => exact hfallback
  | valid hc =>
    obtain ⟨r, g, b, rfl⟩ := exists_ofBytes_of_resolve hc
    rfl
  | invalid he => exact hfallback

end ColorSpec

/-! ### The loop -/

namespace Override

open ColorSpec

/-- The report on the setting of a tone. -/
def refusal? (o : Override) (t : Tone) : Option ColorRefusal := (o.spec? t).bind ColorSpec.refusal?

/-- How far the loop has come: the palette, and what was reported. -/
@[ext] structure Progress where
  theme : Theme
  refused : List ColorRefusal := []

/-- Applies the setting of one tone. -/
def step (o : Override) (p : Progress) (t : Tone) : Progress :=
  match o.spec? t with
  | none => p
  | some spec => ⟨p.theme.put t (spec.colorOr (p.theme.color t)), p.refused ++ spec.refusal?.toList⟩

variable (o : Override) (p : Progress) (t u : Tone)

theorem color_step : (o.step p t).theme.color u =
    if u = t then pick (o.spec? t) (p.theme.color t) else p.theme.color u := by
  unfold step
  cases o.spec? t with
  | none =>
    show p.theme.color u = if u = t then p.theme.color t else p.theme.color u
    split
    · rename_i h
      rw [h]
    · rfl
  | some spec => exact Theme.color_put _ _ _ _

theorem refused_step : (o.step p t).refused = p.refused ++ (o.refusal? t).toList := by
  unfold step refusal?
  cases o.spec? t with
  | none => exact (List.append_nil _).symm
  | some spec => rfl

/-- A run over some tones leaves each of them with the color of its own setting. -/
theorem color_foldl (ts : List Tone) : (ts.foldl o.step p).theme.color u =
    if u ∈ ts then pick (o.spec? u) (p.theme.color u) else p.theme.color u := by
  induction ts generalizing p with
  | nil => rfl
  | cons t rest ih =>
    rw [List.foldl_cons, ih, color_step]
    by_cases hut : u = t
    · subst hut
      simp only [if_true, List.mem_cons_self, pick_pick, ite_self]
    · simp only [hut, if_false, List.mem_cons, false_or]

theorem refused_foldl (ts : List Tone) :
    (ts.foldl o.step p).refused = p.refused ++ ts.filterMap o.refusal? := by
  induction ts generalizing p with
  | nil => exact (List.append_nil _).symm
  | cons t rest ih =>
    rw [List.foldl_cons, ih, refused_step, List.append_assoc]
    cases h : o.refusal? t with
    | none => rw [List.filterMap_cons_none h]; rfl
    | some e => rw [List.filterMap_cons_some h]; rfl

/-! ### The palette -/

theorem color_theme : o.theme.color t = pick (o.spec? t) (Theme.standard.color t) :=
  Theme.color_ofTones _ t

theorem refusals_eq : o.refusals = Tone.all.filterMap o.refusal? := rfl

/-- In whatever order the tones are visited, the palette is the same. -/
theorem theme_foldl {ts : List Tone} (h : ∀ t, t ∈ ts) :
    (ts.foldl o.step ⟨.standard, []⟩).theme = o.theme :=
  Theme.ext_color fun t => by rw [color_foldl, if_pos (h t), color_theme]

/-- The whole loop. -/
theorem foldl_all : Tone.all.foldl o.step ⟨.standard, []⟩ = ⟨o.theme, o.refusals⟩ := by
  ext1
  · exact o.theme_foldl Tone.mem_all
  · exact o.refused_foldl ⟨.standard, []⟩ Tone.all

variable {o}

/-- The reports on the other tones are the same before and after. -/
theorem refusals_split {changed : Override} {t : Tone}
    (h : ∀ u, u ≠ t → changed.spec? u = o.spec? u) : ∃ before after,
      o.refusals = before ++ (o.refusal? t).toList ++ after ∧
        changed.refusals = before ++ (changed.refusal? t).toList ++ after := by
  obtain ⟨before, after, hall⟩ := List.append_of_mem t.mem_all
  have hsplit : ∀ o : Override, o.refusals =
      before.filterMap o.refusal? ++ (o.refusal? t).toList ++ after.filterMap o.refusal? := by
    intro o
    rw [refusals_eq, hall, List.filterMap_append, List.filterMap_cons]
    cases o.refusal? t <;> simp
  have hsame : ∀ {ts : List Tone}, t ∉ ts →
      ts.filterMap changed.refusal? = ts.filterMap o.refusal? := by
    intro ts ht
    refine List.filterMap_congr fun u hu => ?_
    rw [refusal?, refusal?, h u (ne_of_mem_of_not_mem hu ht)]
  -- every tone is visited once
  obtain ⟨hafter, hbefore⟩ : t ∉ after ∧ t ∉ before := by
    have hnodup := hall ▸ Tone.nodup_all
    rw [List.nodup_middle, List.nodup_cons, List.mem_append, not_or] at hnodup
    exact hnodup.1.symm
  refine ⟨_, _, hsplit o, ?_⟩
  rw [hsplit changed, hsame hbefore, hsame hafter]

/-- **Overrides are independent.**  The color of a tone and the report on it are decided by its own
setting: the standard color without one, the color meant, or the standard color and one report.  The
reports are listed in the order of the tones, each of which occurs once.  Changing the setting of
one tone changes the color of no other one, and nothing in the list but the report on that tone.  No
color is transparent.  Applying the settings one after the other leads to the same palette and
reports, to the palette even in any other order of the tones.  With the style of a run the reports
are told as warnings, after what is told of the fonts. -/
theorem overrides_are_independent (o : Override) :
    (∀ t, Gives (Theme.standard.color t) (o.spec? t) (o.theme.color t) (o.refusal? t)) ∧
    (∀ (other : Override) t, other.spec? t = o.spec? t →
      other.theme.color t = o.theme.color t ∧ other.refusal? t = o.refusal? t) ∧
    (o.refusals = Tone.all.filterMap o.refusal? ∧ Tone.all.Nodup ∧ ∀ t, t ∈ Tone.all) ∧
    (∀ (changed : Override) t, (∀ u, u ≠ t → changed.spec? u = o.spec? u) →
      (∀ u, u ≠ t → changed.theme.color u = o.theme.color u) ∧
      ∃ before after, o.refusals = before ++ (o.refusal? t).toList ++ after ∧
        changed.refusals = before ++ (changed.refusal? t).toList ++ after) ∧
    (∀ t, (o.theme.color t).a = 1) ∧
    Tone.all.foldl o.step ⟨.standard, []⟩ = ⟨o.theme, o.refusals⟩ ∧
    (∀ ts : List Tone, (∀ t, t ∈ ts) → (ts.foldl o.step ⟨.standard, []⟩).theme = o.theme) ∧
    ∀ (c : Config) (files : Files) (installed : List String), c.palette = o →
      (c.style files installed).1.theme = o.theme ∧
      (c.style files installed).2 =
        (Typography.choose files installed c.fonts.candidates c.fonts.sizes).2 ++
          o.refusals.map .colorRefused ∧
      ∀ r ∈ o.refusals, (Notice.colorRefused r).level = .warn := by
  have hgives : ∀ t, Gives (Theme.standard.color t) (o.spec? t) (o.theme.color t) (o.refusal? t) :=
    fun t => o.color_theme t ▸ gives_pick _ _
  have hown : ∀ (other : Override) t, other.spec? t = o.spec? t →
      other.theme.color t = o.theme.color t ∧ other.refusal? t = o.refusal? t := by
    intro other t h
    rw [color_theme, color_theme, refusal?, refusal?, h]
    exact ⟨rfl, rfl⟩
  refine ⟨hgives, hown, ⟨rfl, Tone.nodup_all, Tone.mem_all⟩, fun changed t h => ⟨?_, ?_⟩,
    fun t => ?_, o.foldl_all, fun ts hts => o.theme_foldl hts, ?_⟩
  · exact fun u hu => (hown changed u (h u hu)).1
  · exact refusals_split h
  · exact (hgives t).alpha (Theme.alpha_standard t)
  · rintro c files installed rfl
    exact ⟨rfl, rfl, fun _ _ => rfl⟩

/-- Two texts that name no color, and a color in between.  Once the first one is mended, the second
one is still reported and the color is the same. -/
theorem overrides_are_independent_of_mended_background :
    let o : Override :=
      { background := some (.name "#12"), info := some (.rgb 1 2 3)
        elevated := some (.name "mauve") }
    let mended := { o with background := some (.name "White") }
    (∀ u, u ≠ .background → mended.spec? u = o.spec? u) ∧
    o.refusals = [.notHex "#12", .unknownName "mauve"] ∧ mended.refusals = [.unknownName "mauve"] ∧
    mended.theme.color (.status .info) = o.theme.color (.status .info) ∧
    Gives (Theme.standard.color (.status .elevated)) (some (.name "mauve")) Color.orange
      (some (.unknownName "mauve")) := by
  intro o mended
  have hothers : ∀ u, u ≠ .background → mended.spec? u = o.spec? u := by
    intro u hu
    cases u with
    | background => exact absurd rfl hu
    | status s => cases s <;> rfl
    | _ => rfl
  obtain ⟨hgives, -, -, hchange, -⟩ := overrides_are_independent o
  obtain ⟨hcolors, -⟩ := hchange mended .background hothers
  exact ⟨hothers, by decide, by decide, hcolors _ (by decide), hgives (.status .elevated)⟩

end Override

end Placard
