/-
Placard/Proofs/Recording.lean

What a device has recorded after a trace of calls.

`Device.play` performs the calls of a trace and then ends as the trace does.  A device without a
call to refuse records exactly these calls
(`Device.play_of_refusing_none`).  A device that refuses call number `n` differs from it
only if that call is made and can fail: it then records the calls up to and including that
one and nothing else (`Device.perform_refuse_of_fallible`, `Device.perform_refuse_of_spared`).
-/
import Placard.Proofs.Job

namespace Placard

/-- The standard colors, and the built-in face in its standard sizes. -/
def Style.plain : Style := ⟨.standard, ⟨.builtin, {}⟩⟩

/-! ### Steps of composed traces -/

namespace Trace

variable {ι κ α β : Type}

/-- Replaces every step by the steps that it stands for; the first fault ends the whole. -/
def expand (f : ι → Trace κ Unit) (t : Trace ι α) : Trace κ α :=
  t.items.foldr (fun i rest => andThen (f i) fun _ => rest) ⟨[], t.outcome⟩

theorem expand_cons (f : ι → Trace κ Unit) (i : ι) (items : List ι) (r : Except Fault α) :
    expand f ⟨i :: items, r⟩ = (f i).andThen fun _ => expand f ⟨items, r⟩ := rfl

/-- Replacing steps goes part by part. -/
theorem expand_andThen (f : ι → Trace κ Unit) (t : Trace ι α) (g : α → Trace ι β) :
    (t.andThen g).expand f = (t.expand f).andThen fun a => (g a).expand f := by
  obtain ⟨items, r⟩ := t
  induction items with
  | nil =>
    -- only the outcome is left
    cases r with
    | error e => rfl
    | ok a => rfl
  | cons i items ih =>
    rw [expand_cons, andThen_assoc, ← ih]
    cases r with
    | error e => rfl
    | ok a => rfl

theorem expand_all (f : ι → Trace κ Unit) (ts : List (Trace ι Unit)) :
    (all ts).expand f = all (ts.map (expand f)) := by
  induction ts with
  | nil => rfl
  | cons t rest ih => rw [all, expand_andThen, List.map_cons, all, ih]

theorem mem_items_andThen {t : Trace ι α} {f : α → Trace ι β} {i : ι}
    (h : i ∈ (t.andThen f).items) : i ∈ t.items ∨ ∃ a, i ∈ (f a).items := by
  cases ho : t.outcome with
  | error e =>
    rw [andThen_of_error ho] at h
    exact .inl h
  | ok a =>
    rw [andThen_of_ok ho] at h
    exact (List.mem_append.mp h).imp id fun hf => ⟨a, hf⟩

theorem mem_items_all {ts : List (Trace ι Unit)} {i : ι} (h : i ∈ (all ts).items) :
    ∃ t ∈ ts, i ∈ t.items := by
  induction ts with
  | nil => cases h
  | cons t rest ih =>
    rcases mem_items_andThen h with ht | ⟨-, hrest⟩
    · exact ⟨t, List.mem_cons_self, ht⟩
    · obtain ⟨u, hu, hi⟩ := ih hrest
      exact ⟨u, List.mem_cons_of_mem t hu, hi⟩

theorem mem_items_expand {f : ι → Trace κ Unit} {t : Trace ι α} {k : κ}
    (h : k ∈ (t.expand f).items) : ∃ i ∈ t.items, k ∈ (f i).items := by
  obtain ⟨items, r⟩ := t
  induction items with
  | nil => cases h
  | cons i rest ih =>
    rw [expand_cons] at h
    rcases mem_items_andThen h with hi | ⟨-, hrest⟩
    · exact ⟨i, List.mem_cons_self, hi⟩
    · obtain ⟨j, hj, hk⟩ := ih hrest
      exact ⟨j, List.mem_cons_of_mem i hj, hk⟩

end Trace

namespace Device

variable {α β : Type}

/-- The calls made so far, as a list. -/
def recording (d : Device) : List Call := d.calls.toList

theorem length_recording (d : Device) : d.recording.length = d.calls.size :=
  Array.length_toList

/-- The device after some more calls. -/
def record (d : Device) (script : Script) : Device :=
  { d with calls := d.calls ++ script.toArray }

theorem recording_record (d : Device) (script : Script) :
    (d.record script).recording = d.recording ++ script := by
  simp [recording, record]

theorem record_nil (d : Device) : d.record [] = d := by
  simp [record]

theorem record_record (d : Device) (a b : Script) :
    (d.record a).record b = d.record (a ++ b) := by
  simp [record]

/-- A single call is recorded whether it works or not. -/
theorem call_eq_record (d : Device) (c : Call) : (d.call c).2 = d.record [c] := by
  simp [call, record]

/-- Whatever is refused, the calls that are recorded are the first ones of the script. -/
theorem perform_eq_record (d : Device) (script : Script) :
    ∃ made, made <+: script ∧ (d.perform script).2 = d.record made := by
  induction script generalizing d with
  | nil => exact ⟨[], List.prefix_rfl, (record_nil d).symm⟩
  | cons c rest ih =>
    cases h : (d.call c).1 with
    | true =>
      obtain ⟨made, hmade, hrest⟩ := ih (d.call c).2
      refine ⟨c :: made, List.cons_prefix_cons.mpr ⟨rfl, hmade⟩, ?_⟩
      rw [perform_cons_of_works h, hrest, call_eq_record, record_record]
      rfl
    | false =>
      refine ⟨[c], ⟨rest, rfl⟩, ?_⟩
      rw [perform_cons_of_refused h, call_eq_record]

/-- Performs the calls of a trace; unless one of them is refused, it ends as the trace does. -/
def play (d : Device) (t : Trace Call α) : Except DrawError α × Device :=
  match d.perform t.items with
  | (false, d) => (.error .device, d)
  | (true, d) => (t.outcome.mapError .geometry, d)

theorem play_device (d : Device) (t : Trace Call α) : (d.play t).2 = (d.perform t.items).2 := by
  unfold play
  split
  · rename_i h
    rw [h]
  · rename_i h
    rw [h]

theorem perform_singleton (d : Device) (c : Call) :
    d.perform [c] = ((d.call c).1, d.record [c]) := by
  cases h : (d.call c).1 with
  | true => rw [perform_cons_of_works h, perform, call_eq_record]
  | false => rw [perform_cons_of_refused h, call_eq_record]

theorem call_of_infallible {c : Call} (h : c.fallible = false) (d : Device) :
    (d.call c).1 = true := by
  simp [call, h]

/-- Calls that cannot fail are all made. -/
theorem perform_of_infallible {script : Script} (h : ∀ c ∈ script, c.fallible = false)
    (d : Device) : d.perform script = (true, d.record script) := by
  induction script generalizing d with
  | nil => rw [record_nil, perform]
  | cons c rest ih =>
    obtain ⟨hc, hrest⟩ := List.forall_mem_cons.mp h
    rw [perform_cons_of_works (call_of_infallible hc d), ih hrest, call_eq_record, record_record]
    rfl

/-! ### Without a call to refuse -/

theorem play_of_refusing_none {d : Device} (h : d.refusing = none) (t : Trace Call α) :
    d.play t = (t.outcome.mapError .geometry, d.record t.items) := by
  rw [play, perform_of_refusing_none h]
  rfl

/-! ### When no call was refused -/

/-- A script that worked to its end is recorded as a whole. -/
theorem perform_of_works {d : Device} {script : Script} (h : (d.perform script).1 = true) :
    (d.perform script).2 = d.record script := by
  induction script generalizing d with
  | nil => rw [perform, record_nil]
  | cons c rest ih =>
    cases hc : (d.call c).1 with
    | true =>
      rw [perform_cons_of_works hc] at h ⊢
      rw [ih h, call_eq_record, record_record]
      rfl
    | false =>
      rw [perform_cons_of_refused hc] at h
      cases h

/-- A trace that was not ended by a refused call ends as it says, and all of its calls are
recorded. -/
theorem play_of_not_refused {d : Device} {t : Trace Call α} (h : (d.play t).1 ≠ .error .device) :
    d.play t = (t.outcome.mapError .geometry, d.record t.items) := by
  unfold play at h ⊢
  split at h
  · exact absurd rfl h
  · rename_i hworks
    have hrecord := perform_of_works (show (d.perform t.items).1 = true by rw [hworks])
    rw [hworks] at hrecord
    exact congrArg _ hrecord

theorem not_refused {d : Device} (h : d.refusing = none) (t : Trace Call α) :
    (d.play t).1 ≠ .error .device := by
  rw [play_of_refusing_none h]
  cases t.outcome with
  | error e => exact fun he => nomatch he
  | ok a => exact fun he => nomatch he

/-! ### With a call to refuse -/

/-- The device that refuses call number `n`, if that call can fail. -/
def refuse (d : Device) (n : Nat) : Device := { d with refusing := some n }

theorem recording_refuse (d : Device) (n : Nat) : (d.refuse n).recording = d.recording := rfl

theorem record_refuse (d : Device) (n : Nat) (script : Script) :
    (d.refuse n).record script = (d.record script).refuse n := rfl

/-- One call on a device that refuses call number `n`: it works unless it can fail and is call
number `n`. -/
theorem call_refuse (d : Device) (n : Nat) (c : Call) :
    (d.refuse n).call c = (!(c.fallible && n == d.recording.length), (d.record [c]).refuse n) := by
  rw [← record_refuse, ← call_eq_record, length_recording]
  rfl

/-- A script whose call number `k` is refused: what comes after that call is not made. -/
theorem perform_refuse_of_fallible {d : Device} {script : Script} {k : Nat} {c : Call}
    (hk : script[k]? = some c) (hc : c.fallible = true) :
    (d.refuse (d.recording.length + k)).perform script =
      (false, (d.record (script.take (k + 1))).refuse (d.recording.length + k)) := by
  induction script generalizing d k with
  | nil => cases hk
  | cons x rest ih =>
    cases k with
    | zero =>
      obtain rfl : x = c := Option.some.inj hk
      have hx : ((d.refuse (d.recording.length + 0)).call x).1 = false := by
        rw [call_refuse]; simp [hc]
      rw [perform_cons_of_refused hx, call_refuse]
      rfl
    | succ k =>
      have hx : ((d.refuse (d.recording.length + (k + 1))).call x).1 = true := by
        rw [call_refuse]; simp
      -- the rest is performed with one more call behind it
      have hn : d.recording.length + (k + 1) = (d.record [x]).recording.length + k := by
        rw [recording_record, List.length_append, List.length_singleton]; omega
      rw [perform_cons_of_works hx, call_refuse, hn, ih (by simpa using hk), record_record]
      rfl

/-- A script none of whose calls is refused is performed to its end. -/
theorem perform_refuse_of_spared {d : Device} {script : Script} {n : Nat}
    (h : ∀ k c, script[k]? = some c → d.recording.length + k = n → c.fallible = false) :
    (d.refuse n).perform script = (true, (d.record script).refuse n) := by
  induction script generalizing d with
  | nil => rw [record_nil, perform]
  | cons x rest ih =>
    have hx : ((d.refuse n).call x).1 = true := by
      rw [call_refuse]
      by_cases hn : n = d.recording.length
      · simp [h 0 x rfl hn.symm]
      · simp [hn]
    have hrest : ∀ k c, rest[k]? = some c → (d.record [x]).recording.length + k = n →
        c.fallible = false := by
      intro k c hk hn
      rw [recording_record, List.length_append, List.length_singleton] at hn
      exact h (k + 1) c (by simpa using hk) (by omega)
    rw [perform_cons_of_works hx, call_refuse, ih hrest, record_record]
    rfl

end Device

end Placard
