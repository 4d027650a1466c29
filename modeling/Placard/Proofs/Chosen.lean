/-
Placard/Proofs/Chosen.lean

Which candidate is chosen, and what the loader is asked on the way.

A loader may keep a state, so that its answer depends on what it was asked before.  `Refused` is the
relation of a loader that turns down one candidate after the other.  A list of candidates either
begins with refused ones and goes on with one that is accepted, or all of them are refused
(`Candidate.accepted_or_refused`), and the choice is followed through each of the two by induction
on the refusals.  That nothing is asked after the first acceptance is seen by a loader that takes
notes (`Loader.noting`): it is a loader like any other, and its notes are part of its state.
-/
import Placard.Config.File

namespace Placard

namespace Candidate

/-- Something that tries candidates and may change a state of its own. -/
abbrev Loader (σ : Type) := Candidate → StateM σ (Except FontError Face)

variable {σ : Type} {load : Loader σ} {s t u : σ} {c : Candidate} {face : Face} {e : FontError}

/-- The same loader, which also notes what it is asked. -/
def Loader.noting (load : Loader σ) : Loader (σ × List Candidate) := fun c s =>
  let (answer, t) := load c s.1
  (answer, (t, s.2 ++ [c]))

theorem Loader.noting_of_eq {answer : Except FontError Face} (h : load c s = (answer, t))
    (asked : List Candidate) : load.noting c (s, asked) = (answer, (t, asked ++ [c])) := by
  unfold noting
  rw [h]

/-! ### Refusals -/

/-- The loader, which is in the state `s` at first and in `t` in the end, turns down one candidate
after the other, each for the given reason. -/
inductive Refused (load : Loader σ) : σ → List (Candidate × FontError) → σ → Prop
  | nil (s : σ) : Refused load s [] s
  | cons {s t u : σ} {c : Candidate} {e : FontError} {rest : List (Candidate × FontError)} :
      load c s = (.error e, t) → Refused load t rest u → Refused load s ((c, e) :: rest) u

/-- Taking notes makes no difference to what is refused. -/
theorem Refused.noting {refused : List (Candidate × FontError)} (h : Refused load s refused t)
    (asked : List Candidate) :
    Refused load.noting (s, asked) refused (t, asked ++ refused.map (·.1)) := by
  induction h generalizing asked with
  | nil s =>
    rw [List.map_nil, List.append_nil]
    exact .nil _
  | @cons _ _ _ c _ _ hc _ ih =>
    have hrest := ih (asked ++ [c])
    rw [List.append_assoc] at hrest
    exact .cons (Loader.noting_of_eq hc asked) hrest

/-- Either one candidate is accepted, after all before it were refused, or none is. -/
theorem accepted_or_refused (load : Loader σ) (cs : List Candidate) (s : σ) :
    (∃ refused c after t u face, cs = refused.map (·.1) ++ c :: after ∧ Refused load s refused t ∧
      load c t = (.ok face, u)) ∨
    ∃ refused t, cs = refused.map (·.1) ∧ Refused load s refused t := by
  induction cs generalizing s with
  | nil => exact .inr ⟨[], s, rfl, .nil s⟩
  | cons c rest ih =>
    -- a refusal leaves the loader in another state, in which the rest is tried
    cases hc : load c s with
    | mk answer t =>
      cases answer with
      | ok face => exact .inl ⟨[], c, rest, s, t, face, rfl, .nil s, hc⟩
      | error e =>
        rcases ih t with ⟨refused, d, after, u, v, face, rfl, hrefused, hd⟩ |
          ⟨refused, u, rfl, hrefused⟩
        · exact .inl ⟨(c, e) :: refused, d, after, u, v, face, rfl, .cons hc hrefused, hd⟩
        · exact .inr ⟨(c, e) :: refused, u, rfl, .cons hc hrefused⟩

/-! ### The choice -/

theorem chooseWith_cons_of_ok (h : load c s = (.ok face, t)) (rest : List Candidate) :
    (chooseWith load (c :: rest)).run s = ((face, [.chosen c.family]), t) := by
  show (load c >>= _).run s = _
  rw [StateT.run_bind]
  show (load c s >>= _) = _
  rw [h]
  rfl

theorem chooseWith_cons_of_error (h : load c s = (.error e, t)) {rest : List Candidate}
    {trials : List FontTrial} (hrest : (chooseWith load rest).run t = ((face, trials), u)) :
    (chooseWith load (c :: rest)).run s = ((face, .skipped c.family e :: trials), u) := by
  show (load c >>= _).run s = _
  rw [StateT.run_bind]
  show (load c s >>= _) = _
  rw [h]
  show (chooseWith load rest >>= _).run t = _
  rw [StateT.run_bind, hrest]
  rfl

/-- The report of a refusal. -/
def skip (r : Candidate × FontError) : FontTrial := .skipped r.1.family r.2

theorem chooseWith_of_accepted {refused : List (Candidate × FontError)}
    (hrefused : Refused load s refused t) (hc : load c t = (.ok face, u)) (after : List Candidate) :
    (chooseWith load (refused.map (·.1) ++ c :: after)).run s =
      ((face, refused.map skip ++ [.chosen c.family]), u) := by
  induction hrefused with
  | nil s => exact chooseWith_cons_of_ok hc after
  | cons hd _ ih => exact chooseWith_cons_of_error hd (ih hc)

theorem chooseWith_of_refused {refused : List (Candidate × FontError)}
    (hrefused : Refused load s refused t) :
    (chooseWith load (refused.map (·.1))).run s =
      ((.builtin, refused.map skip ++ [.exhausted]), t) := by
  induction hrefused with
  | nil s => rfl
  | cons hd _ ih => exact chooseWith_cons_of_error hd ih

/-- The loader turns down all of the candidates. -/
def AllRefused (load : Loader σ) (s : σ) (cs : List Candidate) : Prop :=
  ∃ refused t, cs = refused.map (·.1) ∧ Refused load s refused t

/-- That the candidates are exhausted is reported if and only if none is accepted. -/
theorem exhausted_mem_iff (load : Loader σ) (cs : List Candidate) (s : σ) :
    .exhausted ∈ ((chooseWith load cs).run s).1.2 ↔ AllRefused load s cs := by
  constructor
  · intro hmem
    rcases accepted_or_refused load cs s with
      ⟨refused, c, after, t, u, face, rfl, hrefused, hc⟩ | hall
    · rw [chooseWith_of_accepted hrefused hc] at hmem
      simp [skip] at hmem
    · exact hall
  · rintro ⟨refused, t, rfl, hrefused⟩
    rw [chooseWith_of_refused hrefused]
    exact List.mem_append_right _ (List.mem_singleton_self _)

/-- The choice among the files and families that are there is made by a loader without a state. -/
theorem choose_eq (files : Files) (installed : List String) (cs : List Candidate) :
    choose files installed cs =
      ((chooseWith (fun c => pure (c.load files installed) : Loader Unit) cs).run ()).1 := by
  induction cs with
  | nil => rfl
  | cons c rest ih =>
    cases hc : c.load files installed with
    | ok face =>
      have hchoose : choose files installed (c :: rest) = (face, [.chosen c.family]) := by
        simp [choose, chooseWith, hc]
      rw [hchoose]
      exact (congrArg Prod.fst (chooseWith_cons_of_ok (congrArg (·, ()) hc) rest)).symm
    | error e =>
      have hchoose : choose files installed (c :: rest) =
          ((choose files installed rest).1,
            .skipped c.family e :: (choose files installed rest).2) := by
        simp [choose, chooseWith, hc]
      rw [hchoose, ih]
      exact (congrArg Prod.fst (chooseWith_cons_of_error (congrArg (·, ()) hc) rfl)).symm

/-! ### What is told -/

/-- What is told of a trial, and how much it matters. -/
def line (t : FontTrial) : Level × String :=
  ((Notice.fontTrial t).level, (Notice.fontTrial t).message)

/-- What is told of a refusal. -/
def skippingLine (r : Candidate × FontError) : Level × String :=
  (.debug, "Skipping font candidate '" ++ r.1.family ++ "': " ++ r.2.message)

theorem lines_of_refused (refused : List (Candidate × FontError)) (t : FontTrial) :
    (refused.map skip ++ [t]).map line = refused.map skippingLine ++ [line t] := by
  rw [List.map_append, List.map_map]
  rfl

/-- **The first accepted candidate is chosen.**  Whatever the loader, and whatever its state, it is
asked for the candidates in order, once for each, up to the first one that it accepts, and for all
of them if it accepts none.  The face is the one it gave then, or else the built-in one, and each
refusal is told before the acceptance, or before the warning that there was none.  For a loader that
never gives the built-in face itself, this face stands for no acceptance.  The choice among the
candidates of the settings is made in this way. -/
theorem first_accepted_is_chosen (load : Loader σ) (cs : List Candidate) (s : σ) :
    let run := (chooseWith load.noting cs).run (s, [])
    (chooseWith load cs).run s = (run.1, run.2.1) ∧
    ((∃ refused c after t u face,
        cs = refused.map (·.1) ++ c :: after ∧ Refused load s refused t ∧
        load c t = (.ok face, u) ∧
        run.1.1 = face ∧ run.2 = (u, refused.map (·.1) ++ [c]) ∧
        run.1.2.map line =
          refused.map skippingLine ++ [(.debug, "Using font '" ++ c.family ++ "'")]) ∨
      ∃ refused t, cs = refused.map (·.1) ∧ Refused load s refused t ∧
        run.1.1 = .builtin ∧ run.2 = (t, cs) ∧
        run.1.2.map line = refused.map skippingLine ++
          [(.warn, "No font candidate could be loaded, using the built-in font")]) ∧
    (.exhausted ∈ run.1.2 ↔ AllRefused load s cs) ∧
    ((∀ c ∈ cs, ∀ t u, load c t ≠ (.ok .builtin, u)) →
      (run.1.1 = .builtin ↔ AllRefused load s cs)) ∧
    ∀ files installed, choose files installed cs =
      ((chooseWith (fun c => pure (c.load files installed) : Loader Unit) cs).run ()).1 := by
  intro run
  have hexhausted := exhausted_mem_iff load cs s
  rcases accepted_or_refused load cs s with
    ⟨refused, c, after, t, u, face, rfl, hrefused, hc⟩ | ⟨refused, t, rfl, hrefused⟩
  · have hplain := chooseWith_of_accepted hrefused hc after
    -- the loader that takes notes turns down the same candidates and accepts the same one
    have hrun : run = ((face, refused.map skip ++ [.chosen c.family]),
        (u, refused.map (·.1) ++ [c])) :=
      chooseWith_of_accepted (hrefused.noting []) (Loader.noting_of_eq hc _) after
    rw [hplain] at hexhausted
    rw [hrun]
    refine ⟨hplain, .inl ⟨refused, c, after, t, u, face, rfl, hrefused, hc, rfl, rfl,
      lines_of_refused refused _⟩, hexhausted, fun hgives => ?_, fun _ _ => choose_eq _ _ _⟩
    have hmem : c ∈ refused.map (·.1) ++ c :: after := by simp
    have hface : face ≠ .builtin := fun h => hgives c hmem t u (h ▸ hc)
    rw [← hexhausted]
    simp [hface, skip]
  · have hplain := chooseWith_of_refused hrefused
    have hrun : run = ((.builtin, refused.map skip ++ [.exhausted]), (t, refused.map (·.1))) :=
      chooseWith_of_refused (hrefused.noting [])
    rw [hplain] at hexhausted
    rw [hrun]
    exact ⟨hplain, .inr ⟨refused, t, rfl, hrefused, rfl, rfl, lines_of_refused refused _⟩,
      hexhausted, fun _ => ⟨fun _ => ⟨refused, t, rfl, hrefused⟩, fun _ => rfl⟩,
      fun _ _ => choose_eq _ _ _⟩

/-- A loader that has to be asked twice: the same candidate is refused at first and accepted then,
and the last one is not tried. -/
theorem first_accepted_is_chosen_at_second_try :
    let load : Loader Nat := fun c tries =>
      (if tries = 0 then .error (.unknownFamily c.family) else .ok (.family c.family), tries + 1)
    let cs : List Candidate := [⟨"Sans", none⟩, ⟨"Sans", none⟩, ⟨"Serif", none⟩]
    let run := (chooseWith load.noting cs).run (0, [])
    run.1.1 = .family "Sans" ∧ run.2 = (2, [⟨"Sans", none⟩, ⟨"Sans", none⟩]) ∧
    ¬ AllRefused load 0 cs := by
  intro load cs run
  have hgives : ∀ c ∈ cs, ∀ t u, load c t ≠ (.ok .builtin, u) := by
    intro c _ t u h
    have hanswer := congrArg Prod.fst h
    by_cases ht : t = 0 <;> simp [load, ht] at hanswer
  obtain ⟨-, -, -, hbuiltin, -⟩ := first_accepted_is_chosen load cs 0
  refine ⟨rfl, rfl, fun hall => ?_⟩
  have hface : run.1.1 = .builtin := (hbuiltin hgives).mpr hall
  cases hface

end Candidate

end Placard
