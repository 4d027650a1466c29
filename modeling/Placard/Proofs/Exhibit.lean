/-
Placard/Proofs/Exhibit.lean

The gallery under any settings.

Where the device refuses nothing and the canvas has an area, a drawing succeeds if and only if each
of its shapes can be drawn (`Diagram.draw_eq_ok_iff`), which is a matter of the numbers that the
shapes are given by and not of style or canvas.  Settings that were loaded have a canvas in range,
so it is enough to look at the numbers in the gallery once (`Gallery.fitsIn_of_mem`).  They are
compared with the standard canvas there; what lies in it lies in every larger one.
-/
import Placard.Gallery
import Placard.Proofs.Settled
import Placard.Proofs.Warned

namespace Placard

/-! ### Shapes and diagrams that fit -/

/-- The shape can be drawn, and has an extent that lies in `area`. -/
structure Shape.FitsIn (area : Rect) (t : Shape) : Prop where
  drawable : t.Drawable
  inside : ∃ r, t.extent? = some r ∧ area.contains r = true

instance (area : Rect) (t : Shape) : Decidable (t.FitsIn area) :=
  decidable_of_iff (t.Drawable ∧ t.extent?.any area.contains = true)
    ⟨fun ⟨drawable, inside⟩ => ⟨drawable, (Option.any_eq_true _ _).mp inside⟩,
      fun ⟨drawable, inside⟩ => ⟨drawable, (Option.any_eq_true _ _).mpr inside⟩⟩

namespace Diagram

variable {style : Style} {size : CanvasSize} {d : Diagram} {s : Session} {area : Rect}

theorem draw_eq_ok_iff (ha : size.area = .ok area) (hs : s.device.refusing = none) :
    (d.draw style size s).1 = .ok () ↔ ∀ t ∈ d.shapes, t.Drawable := by
  rw [draw_of_area ha hs, Except.mapError_eq_ok, Shape.planAll, Trace.outcome_all_eq_ok,
    List.forall_mem_map]
  exact forall₂_congr fun _ _ => Shape.plan_ok_iff_drawable

theorem outside_of_fitsIn (h : ∀ t ∈ d.shapes, t.FitsIn area) : d.outside area = [] := by
  refine List.eq_nil_iff_forall_not_mem.mpr fun i hi => ?_
  obtain ⟨t, ht, hleaves⟩ := mem_outside_iff.mp hi
  obtain ⟨r, hr, hinside⟩ := (h t (List.mem_of_getElem? ht)).inside
  rw [leaves, hr, Option.any_some, hinside] at hleaves
  cases hleaves

end Diagram

/-! ### The gallery -/

namespace Gallery

/-- The standard canvas. -/
def standardArea : Rect := ⟨0, 0, 1536, 1024, by decide, by decide, by decide, by decide⟩

theorem area_standard : CanvasSize.area {} = .ok standardArea := rfl

theorem fitsIn_of_mem : ∀ d ∈ all, ∀ t ∈ d.shapes, t.FitsIn standardArea := by decide +kernel

/-- **The gallery is drawn under any settings.**  With settings that were loaded from a file, or
taken where there is no file, every diagram of the gallery is drawn without an error on a device
that refuses nothing, whatever typeface is found and whatever was drawn before.  If the canvas is
at least as large as the standard one, there is no warning of any of its shapes. -/
theorem drawn_under_any_settings {files : Files} {path : String} {config : Config}
    {notices : List Notice}
    (h : Config.load files path = .ok (config, notices) ∨
      Config.loadIfThere files path = .ok (config, notices))
    (filesThen : Files) (installed : List String) {s : Session}
    (hs : s.device.refusing = none) : ∀ d ∈ all,
      let drawing := d.draw (config.style filesThen installed).1 config.canvas s
      drawing.1 = .ok () ∧
        (1536 ≤ config.canvas.width.val → 1024 ≤ config.canvas.height.val →
          drawing.2.notices = s.notices) := by
  intro d hd drawing
  have hrange : ∀ setting : Config.Setting, setting.InRange config :=
    h.elim Config.inRange_of_load Config.inRange_of_loadIfThere
  obtain ⟨area, ha⟩ : ∃ area, config.canvas.area = .ok area := by
    have hwidth := (hrange .width).1
    have hheight := (hrange .height).1
    exact CanvasSize.area_of_pos (by omega) (by omega)
  refine ⟨(Diagram.draw_eq_ok_iff ha hs).mpr fun t ht => (fitsIn_of_mem d hd t ht).drawable,
    fun hwidth hheight => ?_⟩
  have hstandard : d.outside standardArea = [] := Diagram.outside_of_fitsIn (fitsIn_of_mem d hd)
  have hlarger : area.contains standardArea = true :=
    CanvasSize.area_contains area_standard ha hwidth hheight
  have hnone : d.outside area = [] :=
    List.sublist_nil.mp (hstandard ▸ Diagram.outside_sublist hlarger d)
  show (d.draw _ config.canvas s).2.notices = s.notices
  rw [Diagram.draw_of_area ha hs]
  show s.notices ++ d.warnings config.canvas area = s.notices
  rw [Diagram.warnings, hnone, List.map_nil, List.append_nil]

/-- A file with a canvas that is too wide, titles that are too large, and another background. -/
theorem drawn_under_any_settings_of_file :
    let text := "[canvas]\nwidth = 9000\n\n[fonts]\ntitle_size = 1000\n\n" ++
      "[theme]\nbackground = \"white\"\n"
    let files : Files :=
      ⟨["home"], [(["home"], .directory), (["home", "config.toml"], .file text.toUTF8)]⟩
    ∃ config notices, Config.load files "config.toml" = .ok (config, notices) ∧
      config.canvas.words = "8192x1024" ∧ config.palette.background = some (.name "white") ∧
      ∀ d ∈ all,
        let drawing := d.draw (config.style files ["Inter"]).1 config.canvas { files }
        drawing.1 = .ok () ∧ drawing.2.notices = [] := by
  intro text files
  have hread : (Config.load files "config.toml").toOption.map (fun r =>
      (r.1.canvas, r.1.palette.background)) = some (⟨8192, 1024⟩, some (.name "white")) := by
    decide +kernel
  cases hload : Config.load files "config.toml" with
  | error e =>
    rw [hload] at hread
    cases hread
  | ok r =>
    rw [hload] at hread
    obtain ⟨hcanvas, hbackground⟩ := Prod.mk.inj (Option.some.inj hread)
    refine ⟨r.1, r.2, rfl, by rw [hcanvas]; decide, hbackground, fun d hd => ?_⟩
    have hs : ({ files } : Session).device.refusing = none := rfl
    obtain ⟨hdrawn, hquiet⟩ := drawn_under_any_settings (.inl hload) files ["Inter"] hs d hd
    exact ⟨hdrawn, hquiet (by rw [hcanvas]; decide) (by rw [hcanvas]; decide)⟩

end Gallery

end Placard
