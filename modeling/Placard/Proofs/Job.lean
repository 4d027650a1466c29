/-
Placard/Proofs/Job.lean

How the parts of a job make up the whole.

A job is a function of the session.  The lemmas of this file say what the pieces that jobs
are written with do to a session, so that later proofs follow a job step by step: `bind`
goes on after a success and stops at an error, and `within` touches nothing but the error.
-/
import Placard.Publish

/-! ### Checks -/

namespace Except

variable {ε δ α β : Type}

/-- Two checks in a row succeed if both of them do. -/
theorem bind_eq_ok {x : Except ε α} {f : α → Except ε β} {b : β} :
    x >>= f = .ok b ↔ ∃ a, x = .ok a ∧ f a = .ok b := by
  cases x with
  | error e =>
    constructor
    · intro h
      cases h
    · rintro ⟨a, ha, -⟩
      cases ha
  | ok a =>
    constructor
    · exact fun h => ⟨a, rfl, h⟩
    · rintro ⟨a', ha, hf⟩
      cases ha
      exact hf

theorem bind_eq_error {x : Except ε α} {f : α → Except ε β} {e : ε} :
    x >>= f = .error e ↔ x = .error e ∨ ∃ a, x = .ok a ∧ f a = .error e := by
  cases x with
  | error e' =>
    constructor
    · intro h
      cases h
      exact .inl rfl
    · rintro (h | ⟨a, ha, -⟩)
      · cases h
        rfl
      · cases ha
  | ok a =>
    constructor
    · exact fun h => .inr ⟨a, rfl, h⟩
    · rintro (h | ⟨a', ha, h⟩)
      · cases h
      · cases ha
        exact h

theorem mapError_eq_ok {x : Except ε α} {f : ε → δ} {a : α} :
    x.mapError f = .ok a ↔ x = .ok a := by
  cases x with
  | error e =>
    constructor
    · intro h
      cases h
    · intro h
      cases h
  | ok b =>
    constructor
    · intro h
      cases h
      rfl
    · intro h
      cases h
      rfl

theorem map_eq_ok {x : Except ε α} {f : α → β} {b : β} :
    x.map f = .ok b ↔ ∃ a, x = .ok a ∧ f a = b := by
  cases x with
  | error e => exact ⟨nofun, fun ⟨_, ha, _⟩ => nomatch ha⟩
  | ok a =>
    constructor
    · intro h
      cases h
      exact ⟨a, rfl, rfl⟩
    · rintro ⟨a', ha, rfl⟩
      cases ha
      rfl

theorem toOption_eq_none_iff {x : Except ε α} : x.toOption = none ↔ ¬ ∃ a, x = .ok a := by
  cases x with
  | error e => exact ⟨fun _ ⟨a, ha⟩ => (by cases ha), fun _ => rfl⟩
  | ok a => exact ⟨fun h => (by cases h), fun h => absurd ⟨a, rfl⟩ h⟩

theorem toOption_eq_some_iff {x : Except ε α} {a : α} : x.toOption = some a ↔ x = .ok a := by
  cases x with
  | error e => exact ⟨fun h => (by cases h), fun h => (by cases h)⟩
  | ok b => exact ⟨fun h => congrArg ok (Option.some.inj h), fun h => congrArg some (ok.inj h)⟩

end Except

namespace Placard

namespace Job

variable {ε δ α β : Type} {s s' : Session}

/-! ### One step after the other -/

/-- After a success the next step starts where the first one ended. -/
theorem bind_of_ok {job : Job ε α} {a : α} (h : job s = (.ok a, s')) (f : α → Job ε β) :
    (job >>= f) s = f a s' := by
  show (match (job s : Except ε α × Session) with | (r, s') => ExceptT.bindCont f r s') = _
  rw [h]
  rfl

/-- After an error nothing more is done. -/
theorem bind_of_error {job : Job ε α} {e : ε} (h : job s = (.error e, s')) (f : α → Job ε β) :
    (job >>= f) s = (.error e, s') := by
  show (match (job s : Except ε α × Session) with | (r, s') => ExceptT.bindCont f r s') = _
  rw [h]
  rfl

/-- A larger job changes the error of a smaller one and leaves its session alone. -/
theorem within_apply (f : δ → ε) (job : Job δ α) (s : Session) :
    within f job s = ((job s).1.mapError f, (job s).2) := by
  show (match (job s : Except δ α × Session) with | (r, s') => (r.mapError f, s')) = _
  rcases job s with ⟨r, s'⟩
  rfl

theorem within_of_ok {f : δ → ε} {job : Job δ α} {a : α} (h : job s = (.ok a, s')) :
    within f job s = (.ok a, s') := by
  rw [within_apply, h]
  rfl

theorem within_of_error {f : δ → ε} {job : Job δ α} {e : δ} (h : job s = (.error e, s')) :
    within f job s = (.error (f e), s') := by
  rw [within_apply, h]
  rfl

/-- A job whose steps leave the files alone leaves them alone. -/
theorem bind_files {job : Job ε α} {f : α → Job ε β} (hjob : ∀ s, (job s).2.files = s.files)
    (hf : ∀ a s, (f a s).2.files = s.files) (s : Session) :
    ((job >>= f) s).2.files = s.files := by
  have hs := hjob s
  rcases h : job s with ⟨e | a, s'⟩
  · rw [bind_of_error h]
    rwa [h] at hs
  · rw [bind_of_ok h, hf a s']
    rwa [h] at hs

/-! ### The basic jobs -/

theorem files_apply (s : Session) : (Job.files : Job ε Files) s = (.ok s.files, s) := rfl

theorem tell_apply (notices : List Notice) (s : Session) :
    (tell notices : Job ε Unit) s = (.ok (), { s with notices := s.notices ++ notices }) := rfl

theorem perform_apply (drawing : Drawing α) (s : Session) :
    perform drawing s =
      ((s.device.run drawing).1, { s with device := (s.device.run drawing).2 }) := rfl

theorem attempt_apply (f : Files → Except FileError α × Files) (s : Session) :
    (attempt f) s = ((f s.files).1, { s with files := (f s.files).2 }) := rfl

theorem change_of_ok {f : Files → Except FileError (α × Files)} {a : α} {files : Files}
    (h : f s.files = .ok (a, files)) : (change f) s = (.ok a, { s with files }) := by
  unfold change
  rw [h]

end Job

end Placard
