/-
Placard/Proofs/Settled.lean

Settings brought into range.

A `Config.Setting` is one of the six sizes of the settings: the two of the canvas and those of the
fonts in the four roles.  `Setting.Brought` says what becomes of each: it stays if it is in range, and
is moved to the nearer limit otherwise, NaN to the lower one.  It is proved for one size of either
kind (`settleCanvas_brought`, `settleFont_brought`), together with the rule that a change and
nothing else is reported (`Told`).  The list of corrections is put together from these six reports.
Sizes in range stay, so that a second time nothing is changed (`settle_of_inRange`), and a canvas
in range is never empty.
-/
import Placard.Config.File
import Placard.Proofs.Composition
import Placard.Proofs.Order

namespace Placard

namespace Config

/-- A correction is reported if and only if something was changed. -/
inductive Told (same : Prop) (correction : Correction) : Option Correction → Prop
  | same : same → Told same correction none
  | changed : ¬ same → Told same correction (some correction)

/-- Of several reports those are left that tell of a change. -/
theorem filterMap_of_told {α : Type} {same : α → Prop} [DecidablePred same]
    {correction : α → Correction} {report? : α → Option Correction}
    (h : ∀ a, Told (same a) (correction a) (report? a)) (settings : List α) :
    settings.filterMap report? = (settings.filter fun a => ¬ same a).map correction := by
  induction settings with
  | nil => rfl
  | cons a rest ih =>
    have ha := h a
    cases hreport : report? a with
    | none =>
      rw [hreport] at ha
      cases ha with
      | same hsame =>
        rw [List.filterMap_cons_none hreport, ih, List.filter_cons_of_neg (by simpa using hsame)]
    | some e =>
      rw [hreport] at ha
      cases ha with
      | changed hchanged =>
        rw [List.filterMap_cons_some hreport, ih,
          List.filter_cons_of_pos (by simpa using hchanged), List.map_cons]

/-! ### Sizes of the canvas -/

/-- What becomes of a width or height. -/
def CanvasBrought (old new : Pixel) : Prop :=
  old.val < 64 ∧ new.val = 64 ∨
  (64 ≤ old.val ∧ old.val ≤ 8192) ∧ new = old ∨
  8192 < old.val ∧ new.val = 8192

theorem settleCanvas_of_inRange (setting : String) {p : Pixel} (hl : 64 ≤ p.val)
    (hu : p.val ≤ 8192) : settleCanvas setting p = (p, none) :=
  if_pos ⟨hl, hu⟩

theorem settleCanvas_brought (setting : String) (p : Pixel) :
    CanvasBrought p (settleCanvas setting p).1 ∧
    Told ((settleCanvas setting p).1 = p) (.canvasSize setting p) (settleCanvas setting p).2 := by
  by_cases hp : 64 ≤ p.val ∧ p.val ≤ 8192
  · rw [settleCanvas_of_inRange setting hp.1 hp.2]
    exact ⟨.inr (.inl ⟨hp, rfl⟩), .same rfl⟩
  · have hsettled : settleCanvas setting p =
        (Pixel.clamp (max 64 (min p.val 8192)), some (.canvasSize setting p)) := if_neg hp
    have hval : (Pixel.clamp (max 64 (min p.val 8192))).val = max 64 (min p.val 8192) :=
      Pixel.val_clamp_of_mem (by omega) (by omega)
    rw [hsettled]
    refine ⟨?_, .changed fun h => ?_⟩
    · unfold CanvasBrought
      rw [hval]
      omega
    · have := congrArg Pixel.val h
      rw [hval] at this
      omega

/-! ### Sizes of fonts -/

/-- What becomes of a font size. -/
def FontBrought (old new : Float) : Prop :=
  (old < 6 ∨ old.isNaN = true) ∧ new = 6 ∨
  (6 ≤ old ∧ old ≤ 200) ∧ new = old ∨
  200 < old ∧ new = 200

/-- Whole numbers are compared with the limits as numbers. -/
theorem ofNat_inRange {n : ℕ} (hl : 6 ≤ n) (hu : n ≤ 200) :
    6 ≤ Float.ofNat n ∧ Float.ofNat n ≤ 200 := by
  have hn := value?_ofNat (n := n) (by omega)
  constructor
  · exact (Exact.le_iff (value?_ofNat (n := 6) (by decide)) hn).mpr (by exact_mod_cast hl)
  · exact (Exact.le_iff hn (value?_ofNat (n := 200) (by decide))).mpr (by exact_mod_cast hu)

theorem leastFont_inRange : (6 : Float) ≤ 6 ∧ (6 : Float) ≤ 200 :=
  ofNat_inRange (n := 6) le_rfl (by decide)

theorem greatestFont_inRange : (6 : Float) ≤ 200 ∧ (200 : Float) ≤ 200 :=
  ofNat_inRange (n := 200) (by decide) le_rfl

theorem settleFont_of_inRange (setting : String) {x : Float} (hl : 6 ≤ x) (hu : x ≤ 200) :
    settleFont setting x = (x, none) := by
  obtain ⟨hx, -⟩ := Exact.isNaN_of_le hu
  unfold settleFont
  rw [if_neg (by rw [hx]; exact Bool.false_ne_true)]
  exact if_pos ⟨hl, hu⟩

theorem settleFont_brought (setting : String) (x : Float) :
    FontBrought x (settleFont setting x).1 ∧
    Told ((settleFont setting x).1 = x) (.fontSize setting x) (settleFont setting x).2 := by
  by_cases hx : 6 ≤ x ∧ x ≤ 200
  · rw [settleFont_of_inRange setting hx.1 hx.2]
    exact ⟨.inr (.inl ⟨hx, rfl⟩), .same rfl⟩
  -- both limits are in range, and so neither of them is `x`
  have hleast : (6 : Float) ≠ x := by
    rintro rfl
    exact hx leastFont_inRange
  have hgreatest : (200 : Float) ≠ x := by
    rintro rfl
    exact hx greatestFont_inRange
  by_cases hnan : x.isNaN = true
  · have hsettled : settleFont setting x = (6, some (.fontSize setting x)) := if_pos hnan
    rw [hsettled]
    exact ⟨.inl ⟨.inr hnan, rfl⟩, .changed hleast⟩
  have hsettled : settleFont setting x = (limitTo x 6 200, some (.fontSize setting x)) := by
    unfold settleFont
    rw [if_neg hnan]
    exact if_neg hx
  rw [hsettled]
  by_cases hlow : x < 6
  · have hlimit : limitTo x 6 200 = 6 := if_pos hlow
    rw [hlimit]
    exact ⟨.inl ⟨.inl hlow, rfl⟩, .changed hleast⟩
  · -- neither NaN nor below the range nor in it
    have hnumber : x.isNaN = false := Bool.eq_false_iff.mpr hnan
    have hge : 6 ≤ x :=
      (Exact.not_lt_iff hnumber (Exact.isNaN_of_le leastFont_inRange.1).1).mp hlow
    have hhigh : 200 < x := by
      by_contra hle
      have hnumber' := (Exact.isNaN_of_le greatestFont_inRange.2).1
      exact hx ⟨hge, (Exact.not_lt_iff hnumber' hnumber).mp hle⟩
    have hlimit : limitTo x 6 200 = 200 := by
      unfold limitTo
      rw [if_neg hlow, if_pos hhigh]
    rw [hlimit]
    exact ⟨.inr (.inr ⟨hhigh, rfl⟩), .changed hgreatest⟩

/-! ### All sizes -/

/-- A size that has a range. -/
inductive Setting where
  | width
  | height
  | font (role : Role)

namespace Setting

/-- All sizes in their order. -/
def all : List Setting :=
  [.width, .height, .font .title, .font .heading, .font .body, .font .caption]

/-- The size is in range. -/
def InRange (c : Config) : Setting → Prop
  | width => 64 ≤ c.canvas.width.val ∧ c.canvas.width.val ≤ 8192
  | height => 64 ≤ c.canvas.height.val ∧ c.canvas.height.val ≤ 8192
  | font role => 6 ≤ c.fonts.sizes.size role ∧ c.fonts.sizes.size role ≤ 200

instance (c : Config) : (s : Setting) → Decidable (s.InRange c)
  | width => inferInstanceAs (Decidable (_ ∧ _))
  | height => inferInstanceAs (Decidable (_ ∧ _))
  | font _ => inferInstanceAs (Decidable (_ ∧ _))

/-- The size was brought into range. -/
def Brought (old new : Config) : Setting → Prop
  | width => CanvasBrought old.canvas.width new.canvas.width
  | height => CanvasBrought old.canvas.height new.canvas.height
  | font role => FontBrought (old.fonts.sizes.size role) (new.fonts.sizes.size role)

/-- The size was not changed. -/
def Same (old new : Config) : Setting → Prop
  | width => new.canvas.width = old.canvas.width
  | height => new.canvas.height = old.canvas.height
  | font role => new.fonts.sizes.size role = old.fonts.sizes.size role

/-- The correction of the size, which tells what it was before. -/
def correction (c : Config) : Setting → Correction
  | width => .canvasSize "width" c.canvas.width
  | height => .canvasSize "height" c.canvas.height
  | font role => .fontSize (role.name ++ "_size") (c.fonts.sizes.size role)

/-- What is reported of the size. -/
def report? (c : Config) : Setting → Option Correction
  | width => (settleCanvas "width" c.canvas.width).2
  | height => (settleCanvas "height" c.canvas.height).2
  | font role => (settleFont (role.name ++ "_size") (c.fonts.sizes.size role)).2

theorem inRange_of_brought {old new : Config} {s : Setting} (h : s.Brought old new) :
    s.InRange new := by
  have hcanvas : ∀ {p q : Pixel}, CanvasBrought p q → 64 ≤ q.val ∧ q.val ≤ 8192 := by
    rintro p q (⟨-, hq⟩ | ⟨hp, rfl⟩ | ⟨-, hq⟩)
    · omega
    · exact hp
    · omega
  have hfont : ∀ {x y : Float}, FontBrought x y → 6 ≤ y ∧ y ≤ 200 := by
    rintro x y (⟨-, rfl⟩ | ⟨hx, rfl⟩ | ⟨-, rfl⟩)
    · exact leastFont_inRange
    · exact hx
    · exact greatestFont_inRange
  cases s with
  | width => exact hcanvas h
  | height => exact hcanvas h
  | font role => exact hfont h

end Setting

/-- Each size is brought into range, and a change of it is reported. -/
theorem settle_brought (c : Config) (s : Setting) :
    s.Brought c c.settle.1 ∧ Told (s.Same c c.settle.1) (s.correction c) (s.report? c) := by
  cases s with
  | width => exact settleCanvas_brought "width" c.canvas.width
  | height => exact settleCanvas_brought "height" c.canvas.height
  | font role =>
    cases role with
    | title => exact settleFont_brought "title_size" c.fonts.sizes.title
    | heading => exact settleFont_brought "heading_size" c.fonts.sizes.heading
    | body => exact settleFont_brought "body_size" c.fonts.sizes.body
    | caption => exact settleFont_brought "caption_size" c.fonts.sizes.caption

theorem settle_corrections (c : Config) :
    c.settle.2 = Setting.all.filterMap (Setting.report? c) ++
      if c.fonts.candidates.isEmpty then [.noCandidates] else [] := by
  -- the reports are listed in the order of the sizes, the one about the candidates at the end
  have hsizes : c.settle.2 = (Setting.all.map (Setting.report? c) ++
      [if c.fonts.candidates.isEmpty then some Correction.noCandidates else none]).filterMap id :=
    rfl
  rw [hsizes, List.filterMap_append, List.filterMap_map]
  cases c.fonts.candidates.isEmpty <;> rfl

/-- If all sizes are in range, then nothing is changed, and only missing candidates are reported. -/
theorem settle_of_inRange {c : Config} (h : ∀ s : Setting, s.InRange c) :
    c.settle = (c, if c.fonts.candidates.isEmpty then [.noCandidates] else []) := by
  have hwidth := settleCanvas_of_inRange "width" (h .width).1 (h .width).2
  have hheight := settleCanvas_of_inRange "height" (h .height).1 (h .height).2
  have hfont : ∀ role setting, settleFont setting (c.fonts.sizes.size role) =
      (c.fonts.sizes.size role, none) := fun role setting =>
    settleFont_of_inRange setting (h (.font role)).1 (h (.font role)).2
  have htitle := hfont .title "title_size"
  have hheading := hfont .heading "heading_size"
  have hbody := hfont .body "body_size"
  have hcaption := hfont .caption "caption_size"
  simp only [FontSizes.size] at htitle hheading hbody hcaption
  unfold settle
  rw [hwidth, hheight, htitle, hheading, hbody, hcaption]
  cases c.fonts.candidates.isEmpty <;> rfl

/-! ### Settings that were read -/

section

variable {files : Files} {path : String} {c : Config} {notices : List Notice}

/-- What is read from a file is settled, and all corrections are told. -/
theorem exists_settled_of_load (h : load files path = .ok (c, notices)) :
    ∃ read : Config, c = read.settle.1 ∧
      notices = read.settle.2.map .correction ++ [.configLoaded path] := by
  unfold load at h
  obtain ⟨text, -, h⟩ := Except.bind_eq_ok.mp h
  split at h
  · obtain ⟨read, -, h⟩ := Except.bind_eq_ok.mp h
    cases h
    exact ⟨read, rfl, rfl⟩
  · cases h

theorem inRange_standard (s : Setting) : s.InRange {} := by
  cases s with
  | width => decide
  | height => decide
  | font role =>
    cases role with
    | title => exact ofNat_inRange (n := 58) (by decide) (by decide)
    | heading => exact ofNat_inRange (n := 28) (by decide) (by decide)
    | body => exact ofNat_inRange (n := 24) (by decide) (by decide)
    | caption => exact ofNat_inRange (n := 20) (by decide) (by decide)

theorem inRange_of_load (h : load files path = .ok (c, notices)) (s : Setting) : s.InRange c := by
  obtain ⟨read, rfl, -⟩ := exists_settled_of_load h
  exact Setting.inRange_of_brought (settle_brought read s).1

theorem inRange_of_loadIfThere (h : loadIfThere files path = .ok (c, notices)) (s : Setting) :
    s.InRange c := by
  unfold loadIfThere at h
  split at h
  · exact inRange_of_load h s
  · cases h
    exact inRange_standard s

/-- A canvas in range is made, unless the device refuses a call. -/
theorem create_of_inRange (h : ∀ s : Setting, s.InRange c) (d : Device) (background : Color)
    (fault : Fault) : (d.run (Canvas.create c.canvas background)).1 ≠ .error (.geometry fault) := by
  have hwidth : 0 < c.canvas.width.val := by have := (h .width).1; omega
  have hheight : 0 < c.canvas.height.val := by have := (h .height).1; omega
  obtain ⟨area, ha⟩ := CanvasSize.area_of_pos hwidth hheight
  intro hfault
  -- it did not end with a refused call, so it ended as planned
  have hrun : (d.run (Canvas.create c.canvas background)).1 ≠ .error .device := by
    rw [hfault]
    exact fun h => nomatch h
  rw [(Canvas.follows_create c.canvas background).run_of_not_refused hrun,
    Canvas.plan_of_ok ha] at hfault
  cases hfault

end

open Classical in
/-- **Settings are brought into range.**  Settling leaves every size in range as it is and moves
every other one to the nearer limit, NaN to the lower one; nothing else is changed.  There is one
warning for each size that was changed, with its old value and in the order of the sizes, and one
last warning if and only if there are no candidates.  A second time nothing is changed.  What is
read from a file, or taken where there is no file, is settled, and a canvas of this size is never
refused for its geometry. -/
theorem settle_brings_into_range (c : Config) :
    (∀ s : Setting, s.InRange c.settle.1 ∧ s.Brought c c.settle.1) ∧
    (c.settle.1.directory = c.directory ∧ c.settle.1.palette = c.palette ∧
      c.settle.1.fonts.candidates = c.fonts.candidates) ∧
    c.settle.2 = (Setting.all.filter fun s => ¬ s.Same c c.settle.1).map (Setting.correction c) ++
      (if c.fonts.candidates = [] then [.noCandidates] else []) ∧
    (∀ e ∈ c.settle.2, (Notice.correction e).level = .warn) ∧
    c.settle.1.settle = (c.settle.1, if c.fonts.candidates = [] then [.noCandidates] else []) ∧
    (∀ files path loaded notices, load files path = .ok (loaded, notices) →
      ∃ read : Config, loaded = read.settle.1 ∧
        notices = read.settle.2.map .correction ++ [.configLoaded path]) ∧
    ∀ files path loaded notices,
      load files path = .ok (loaded, notices) ∨ loadIfThere files path = .ok (loaded, notices) →
      ∀ (d : Device) (background : Color) (fault : Fault),
        (d.run (Canvas.create loaded.canvas background)).1 ≠ .error (.geometry fault) := by
  have hinRange : ∀ s : Setting, s.InRange c.settle.1 := fun s =>
    Setting.inRange_of_brought (settle_brought c s).1
  have hempty : (if c.fonts.candidates.isEmpty then [Correction.noCandidates] else []) =
      if c.fonts.candidates = [] then [.noCandidates] else [] := by
    simp only [List.isEmpty_iff]
  refine ⟨fun s => ⟨hinRange s, (settle_brought c s).1⟩, ⟨rfl, rfl, rfl⟩, ?_, fun _ _ => rfl, ?_,
    fun _ _ _ _ => exists_settled_of_load, ?_⟩
  · rw [settle_corrections, filterMap_of_told fun s => (settle_brought c s).2, hempty]
  · rw [settle_of_inRange hinRange]
    exact congrArg _ hempty
  · rintro files path loaded notices (h | h)
    · exact create_of_inRange (inRange_of_load h)
    · exact create_of_inRange (inRange_of_loadIfThere h)

/-- A file with a canvas that is too narrow, a font size that is no number, and no candidates. -/
theorem settle_brings_into_range_of_file :
    let text := "[canvas]\nwidth = 10\n\n[fonts]\nbody_size = nan\ncandidates = []\n"
    let files : Files :=
      ⟨["home"], [(["home"], .directory), (["home", "config.toml"], .file text.toUTF8)]⟩
    ∃ loaded notices, load files "config.toml" = .ok (loaded, notices) ∧
      loaded.canvas.width.val = 64 ∧
      notices.map Notice.message =
        ["Invalid canvas width 10, clamping to 64-8192 range",
          "Invalid font body_size NaN, using 6.0",
          "No font candidates configured, text will use the built-in font",
          "Loaded config from config.toml"] ∧
      ∀ (background : Color) (fault : Fault),
        (Device.run {} (Canvas.create loaded.canvas background)).1 ≠ .error (.geometry fault) := by
  intro text files
  -- what is read can be computed; that a canvas of this size can be made is the theorem's part
  have hread : ((load files "config.toml").toOption.map fun r =>
      (r.1.canvas.width.val, r.2.map Notice.message)) =
      some (64, ["Invalid canvas width 10, clamping to 64-8192 range",
        "Invalid font body_size NaN, using 6.0",
        "No font candidates configured, text will use the built-in font",
        "Loaded config from config.toml"]) := by decide +kernel
  cases hload : load files "config.toml" with
  | error e =>
    rw [hload] at hread
    cases hread
  | ok r =>
    rw [hload] at hread
    obtain ⟨hwidth, hnotices⟩ := Prod.mk.inj (Option.some.inj hread)
    obtain ⟨-, -, -, -, -, -, hmade⟩ := settle_brings_into_range r.1
    exact ⟨r.1, r.2, rfl, hwidth, hnotices, hmade files "config.toml" r.1 r.2 (.inl hload) {}⟩

end Config

end Placard
