/-
Placard/Proofs/Refusal.lean

A job whose device refuses one call.

`Job.StopsWhenRefused R job` compares the run of a job on a device that refuses nothing with
its run on a device that refuses call number `n`.  If the first run makes call number `n` and
that call can fail, then the second run makes the same calls up to and including it, makes no
other, and ends with an error that `R` allows for the call.  In every other case the two runs
are the same.

Jobs that do not touch the device have the property, a drawing that follows a plan has it, and a
job put together from such jobs by `bind` and `within` has it too.  So the law for a whole
diagram (`Diagram.save_refused`) follows the way in which `Diagram.save` is written.
-/
import Placard.Proofs.Plan

namespace Placard

/-- The session in which call number `n` is refused, if that call can fail. -/
def Session.refuse (s : Session) (n : Nat) : Session := { s with device := s.device.refuse n }

namespace Job

variable {ε δ α β : Type}

/-- Refusing call number `n` ends the job right after that call, with an error that `R` allows
for it; where there is no such call, or where it cannot fail, nothing changes. -/
structure StopsWhenRefused (R : Call → ε → Prop) (job : Job ε α) : Prop where
  /-- Without a refusal, calls are only added. -/
  grows : ∀ {s}, s.device.refusing = none →
    ∃ script, (job s).2.device.recording = s.device.recording ++ script
  keeps : ∀ {s}, s.device.refusing = none → (job s).2.device.refusing = none
  refused : ∀ {s n c}, s.device.refusing = none → s.device.recording.length ≤ n →
    (job s).2.device.recording[n]? = some c → c.fallible = true →
    (job (s.refuse n)).2.device.recording = (job s).2.device.recording.take (n + 1) ∧
      ∃ e, (job (s.refuse n)).1 = .error e ∧ R c e
  spared : ∀ {s n}, s.device.refusing = none →
    (∀ c, s.device.recording.length ≤ n → (job s).2.device.recording[n]? = some c →
      c.fallible = false) →
    job (s.refuse n) = ((job s).1, (job s).2.refuse n)

/-- The job neither makes calls nor looks at the device. -/
def Offline (job : Job ε α) : Prop :=
  ∀ s d, job { s with device := d } = ((job s).1, { (job s).2 with device := d })

namespace Offline

theorem device {job : Job ε α} (h : Offline job) (s : Session) :
    (job s).2.device = s.device := by
  have hs := h s s.device
  have : job s = ((job s).1, { (job s).2 with device := s.device }) := hs
  rw [this]

theorem tell (notices : List Notice) : Offline (tell notices : Job ε Unit) := fun _ _ => rfl

theorem pure (a : α) : Offline (Pure.pure a : Job ε α) := fun _ _ => rfl

theorem update (f : Files → Files) : Offline (update f : Job ε Unit) := fun _ _ => rfl

theorem change (f : Files → Except FileError (α × Files)) : Offline (change f) := by
  intro s d
  unfold Job.change
  cases f s.files with
  | error e => rfl
  | ok r => rfl

end Offline

namespace StopsWhenRefused

variable {R : Call → ε → Prop} {s : Session} {n : Nat} {c : Call}

/-- A job that makes no calls is the same whatever is refused. -/
theorem ofOffline {job : Job ε α} (h : Offline job) : StopsWhenRefused R job where
  grows := by
    intro s _
    rw [h.device]
    exact ⟨[], (List.append_nil _).symm⟩
  keeps := by
    intro s hs
    rw [h.device, hs]
  refused := by
    intro s n c _ hn hc _
    -- it makes no call that could be number `n`
    rw [h.device] at hc
    have := (List.getElem?_eq_some_iff.mp hc).1
    omega
  spared := by
    intro s n _ _
    have hd := h s (s.device.refuse n)
    rw [show s.refuse n = { s with device := s.device.refuse n } from rfl, hd]
    rw [← h.device s]
    rfl

/-- A larger error is allowed wherever a smaller one is. -/
theorem mono {S : Call → ε → Prop} {job : Job ε α} (h : StopsWhenRefused R job)
    (hRS : ∀ c e, R c e → S c e) : StopsWhenRefused S job where
  grows := h.grows
  keeps := h.keeps
  refused := by
    intro s n c hs hn hc hf
    obtain ⟨hrec, e, he, hR⟩ := h.refused hs hn hc hf
    exact ⟨hrec, e, he, hRS c e hR⟩
  spared := h.spared

theorem within {S : Call → δ → Prop} {job : Job δ α} (h : StopsWhenRefused S job) (f : δ → ε) :
    StopsWhenRefused (fun c e => ∃ e', S c e' ∧ e = f e') (Job.within f job) where
  grows := by
    intro s hs
    rw [within_apply]
    exact h.grows hs
  keeps := by
    intro s hs
    rw [within_apply]
    exact h.keeps hs
  refused := by
    intro s n c hs hn hc hf
    rw [within_apply] at hc
    obtain ⟨hrec, e', he, hS⟩ := h.refused hs hn hc hf
    rw [within_apply, within_apply, he]
    exact ⟨hrec, f e', rfl, e', hS, rfl⟩
  spared := by
    intro s n hs hc
    rw [within_apply] at hc ⊢
    rw [within_apply, h.spared hs hc]

/-- A call of the first job stays at its place in the recording of both. -/
theorem getElem?_of_lt {job : Job ε α} (h : StopsWhenRefused R job)
    (hs : s.device.refusing = none) (hn : n < s.device.recording.length) :
    (job s).2.device.recording[n]? = s.device.recording[n]? := by
  obtain ⟨script, hscript⟩ := h.grows hs
  rw [hscript, List.getElem?_append_left hn]

theorem take_of_lt {job : Job ε α} (h : StopsWhenRefused R job)
    (hs : s.device.refusing = none) (hn : n < s.device.recording.length) :
    (job s).2.device.recording.take (n + 1) = s.device.recording.take (n + 1) := by
  obtain ⟨script, hscript⟩ := h.grows hs
  rw [hscript, List.take_append_of_le_length hn]

/-- One job after another.  Call number `n` belongs to the first job or to the second one; a
refusal in the first one keeps the second one from starting. -/
theorem bind {job : Job ε α} {f : α → Job ε β} (hjob : StopsWhenRefused R job)
    (hf : ∀ a, StopsWhenRefused R (f a)) : StopsWhenRefused R (job >>= f) where
  grows := by
    intro s hs
    obtain ⟨script, hscript⟩ := hjob.grows hs
    have hkeep := hjob.keeps hs
    rcases hj : job s with ⟨e | a, s₁⟩
    · rw [bind_of_error hj]
      rw [hj] at hscript
      exact ⟨script, hscript⟩
    · rw [hj] at hscript hkeep
      obtain ⟨script', hscript'⟩ := (hf a).grows hkeep
      rw [bind_of_ok hj, hscript', hscript]
      exact ⟨script ++ script', List.append_assoc ..⟩
  keeps := by
    intro s hs
    have hkeep := hjob.keeps hs
    rcases hj : job s with ⟨e | a, s₁⟩
    · rw [bind_of_error hj]
      rwa [hj] at hkeep
    · rw [hj] at hkeep
      rw [bind_of_ok hj]
      exact (hf a).keeps hkeep
  refused := by
    intro s n c hs hn hc hfall
    have hkeep := hjob.keeps hs
    rcases hj : job s with ⟨e | a, s₁⟩
    · -- the first job ends the whole, so the call is one of its own
      rw [bind_of_error hj] at hc ⊢
      have href := hjob.refused hs hn (by rw [hj]; exact hc) hfall
      rw [hj] at href
      obtain ⟨hrec, e', he, hR⟩ := href
      rcases hj' : job (s.refuse n) with ⟨r, s₂⟩
      rw [hj'] at hrec he
      obtain rfl : r = .error e' := he
      rw [bind_of_error hj']
      exact ⟨hrec, e', rfl, hR⟩
    · replace hkeep : s₁.device.refusing = none := by rwa [hj] at hkeep
      rw [bind_of_ok hj] at hc ⊢
      by_cases hlt : n < s₁.device.recording.length
      · -- a call of the first job
        rw [(hf a).getElem?_of_lt hkeep hlt] at hc
        have href := hjob.refused hs hn (by rw [hj]; exact hc) hfall
        rw [hj] at href
        obtain ⟨hrec, e', he, hR⟩ := href
        rcases hj' : job (s.refuse n) with ⟨r, s₂⟩
        rw [hj'] at hrec he
        obtain rfl : r = .error e' := he
        rw [bind_of_error hj', (hf a).take_of_lt hkeep hlt]
        exact ⟨hrec, e', rfl, hR⟩
      · -- a call of the second job: the first one is the same as before
        have hspare := hjob.spared (n := n) hs (by
          intro c' _ hc'
          rw [hj] at hc'
          exact absurd (List.getElem?_eq_some_iff.mp hc').1 hlt)
        rw [hj] at hspare
        rw [bind_of_ok hspare]
        exact (hf a).refused hkeep (Nat.le_of_not_lt hlt) hc hfall
  spared := by
    intro s n hs hc
    have hkeep := hjob.keeps hs
    obtain ⟨script, hscript⟩ := hjob.grows hs
    rcases hj : job s with ⟨e | a, s₁⟩
    · rw [bind_of_error hj] at hc ⊢
      have hspare := hjob.spared hs (by rw [hj]; exact hc)
      rw [hj] at hspare
      rw [bind_of_error hspare]
    · rw [hj] at hkeep hscript
      rw [bind_of_ok hj] at hc ⊢
      have hspare := hjob.spared (n := n) hs (by
        intro c hn hc'
        rw [hj] at hc'
        have hlt := (List.getElem?_eq_some_iff.mp hc').1
        exact hc c hn (by rw [(hf a).getElem?_of_lt hkeep hlt]; exact hc'))
      rw [hj] at hspare
      rw [bind_of_ok hspare]
      refine (hf a).spared hkeep fun c hn => hc c ?_
      rw [hscript, List.length_append] at hn
      omega

/-- A drawing that makes the calls of a script and then gives a result, neither of which depends on
what is refused: the error is that of the device. -/
theorem perform_script {drawing : Drawing α} {script : Device → Script}
    {result : Device → Except DrawError α}
    (hrun : ∀ d, d.run drawing = if (d.perform (script d)).1 then (result d, d.record (script d))
      else (.error .device, (d.perform (script d)).2))
    (hscript : ∀ d n, script (d.refuse n) = script d)
    (hresult : ∀ d n, result (d.refuse n) = result d) :
    StopsWhenRefused (fun c e => (∃ d, c ∈ script d) ∧ c.fallible = true ∧ e = .device)
      (Job.perform drawing) := by
  -- without a refusal, the script is made to its end
  have hplain : ∀ {s : Session}, s.device.refusing = none → Job.perform drawing s =
      (result s.device, { s with device := s.device.record (script s.device) }) := by
    intro s hs
    rw [perform_apply, hrun, Device.perform_of_refusing_none hs]
    rfl
  exact {
    grows := by
      intro s hs
      rw [hplain hs]
      exact ⟨script s.device, Device.recording_record _ _⟩
    keeps := by
      intro s hs
      rw [hplain hs]
      exact hs
    refused := by
      intro s n c hs hn hc hf
      -- the number of the call within the script
      obtain ⟨k, rfl⟩ := Nat.exists_eq_add_of_le hn
      rw [hplain hs] at hc ⊢
      rw [Device.recording_record] at hc ⊢
      rw [List.getElem?_append_right hn, Nat.add_sub_cancel_left] at hc
      have hstop := Device.perform_refuse_of_fallible (d := s.device) hc hf
      have hrefused : (s.refuse (s.device.recording.length + k)).device.run drawing =
          (.error .device, (s.device.record ((script s.device).take (k + 1))).refuse
            (s.device.recording.length + k)) := by
        show (s.device.refuse (s.device.recording.length + k)).run drawing = _
        rw [hrun, hscript, hstop]
        rfl
      rw [perform_apply, hrefused]
      refine ⟨?_, .device, rfl, ⟨s.device, List.mem_of_getElem? hc⟩, hf, rfl⟩
      rw [Device.recording_refuse, Device.recording_record, Nat.add_assoc,
        List.take_length_add_append]
    spared := by
      intro s n hs hc
      rw [hplain hs, Device.recording_record] at hc
      have hgo : (s.device.refuse n).perform (script s.device) =
          (true, (s.device.record (script s.device)).refuse n) := by
        refine Device.perform_refuse_of_spared ?_
        intro k c hk hn
        refine hc c (by omega) ?_
        rw [← hn, List.getElem?_append_right (Nat.le_add_right _ _), Nat.add_sub_cancel_left]
        exact hk
      have hspared : (s.refuse n).device.run drawing =
          (result s.device, (s.device.record (script s.device)).refuse n) := by
        show (s.device.refuse n).run drawing = _
        rw [hrun, hscript, hresult, hgo]
        rfl
      rw [perform_apply, hplain hs, hspared]
      rfl }

/-- Carrying out a plan. -/
theorem perform {drawing : Drawing α} {plan : (Font → Float) → Trace Call α}
    (h : drawing.Follows plan) :
    StopsWhenRefused (fun c e => (∃ ascentOf, c ∈ (plan ascentOf).items) ∧ c.fallible = true ∧
      e = .device) (Job.perform drawing) := by
  refine (@perform_script _ drawing (fun d => (plan d.ascentOf).items)
    (fun d => (plan d.ascentOf).outcome.mapError .geometry) ?_ ?_ ?_).mono ?_
  · intro d
    rw [h d]
    cases hworks : (d.perform (plan d.ascentOf).items).1 with
    | true => exact Device.play_of_works hworks
    | false => exact Device.play_of_refused hworks
  · exact fun _ _ => rfl
  · exact fun _ _ => rfl
  · rintro c e ⟨⟨d, hc⟩, hf, he⟩
    exact ⟨⟨d.ascentOf, hc⟩, hf, he⟩

/-- Encoding an image. -/
theorem perform_encode : StopsWhenRefused (fun c e => c = .writePng ∧ e = .device)
    (Job.perform Drawing.encode) := by
  refine (@perform_script _ Drawing.encode (fun _ => [.writePng])
    (fun d => .ok (d.record [.writePng]).image) ?_ ?_ ?_).mono ?_
  · intro d
    rw [Drawing.run_encode, Device.perform_singleton]
    cases (d.call .writePng).1 with
    | true => rfl
    | false => rfl
  · exact fun _ _ => rfl
  · exact fun _ _ => rfl
  · rintro c e ⟨⟨-, hc⟩, -, he⟩
    exact ⟨List.mem_singleton.mp hc, he⟩

end StopsWhenRefused

end Job

end Placard
