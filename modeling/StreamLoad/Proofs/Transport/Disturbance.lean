import StreamLoad.Proofs.Transport.Writing

/-!
# Attempts that stop the writing

An attempt stops the writing when it is fatal or when it is an interruption that
comes for ever. Where no attempt does so, writing goes on to its end.
-/

namespace StreamLoad

/-- The writing goes on behind an attempt: it is not fatal, and behind the
numbered faults it does not fail at all. -/
structure Script.Passes (script : Script) (attempt : Nat) : Prop where
  calm : script.fatalAt attempt = none
  finite : script.horizon ≤ attempt -> script.faultAt attempt = none

/-- A script that takes all bytes in the end lets every attempt pass. -/
theorem Script.TakesAll.passes
    {script : Script}
    (takesAll : script.TakesAll)
    (attempt : Nat) : script.Passes attempt := by
  refine ⟨takesAll.calm attempt, ?_⟩
  intro beyond
  cases fault : script.faultAt attempt with
  | none => rfl
  | some error =>
      by_cases interruption : error.kind = .interrupted
      · exact absurd takesAll.settles
          (not_settles_of_interruption beyond fault interruption)
      · have fatal := fatalAt_of_fault fault interruption
        rw [takesAll.calm attempt] at fatal
        cases fatal

namespace Stream

/-- Some attempt between two moments of a stream has stopped the writing. -/
def Disturbed (before after : Stream) : Prop :=
  ∃ attempt, before.attempts ≤ attempt ∧ attempt < after.attempts ∧
    ¬before.script.Passes attempt

/-- The disturbance is the attempt that comes next. -/
theorem disturbed_refuse
    {stream : Stream}
    (stops : ¬stream.script.Passes stream.attempts) :
    stream.Disturbed stream.refuse :=
  ⟨stream.attempts, Nat.le_refl _, Nat.lt_succ_self _, stops⟩

/-- A disturbance may come later. -/
theorem Disturbed.of_later
    {before middle after : Stream}
    (wrote : before.WroteOnly middle)
    (disturbed : middle.Disturbed after) : before.Disturbed after := by
  obtain ⟨attempt, started, ended, stops⟩ := disturbed
  rw [wrote.script] at stops
  exact ⟨attempt, Nat.le_trans wrote.attempts started, ended, stops⟩

/-- No stream is disturbed that takes all bytes in the end. -/
theorem not_disturbed_of_takesAll
    {before : Stream}
    (takesAll : before.script.TakesAll)
    (after : Stream) : ¬before.Disturbed after := by
  rintro ⟨attempt, _, _, stops⟩
  exact stops (takesAll.passes attempt)

/-- Writing that does not come to its end has been disturbed. -/
theorem disturbed_of_writeAll
    {bytes : List UInt8}
    {stream after : Stream}
    {stop : Stop TransportError}
    (failed : stream.writeAll bytes = (.error stop, after)) :
    stream.Disturbed after := by
  fun_induction writeAll bytes stream with
  | case1 stream => cases failed
  | case2 stream byte more error fault interruption within hypothesis =>
      exact .of_later (.refuse stream) (hypothesis failed)
  | case3 stream byte more error fault interruption beyond =>
      cases failed
      apply disturbed_refuse
      intro passes
      have absent := passes.finite (Nat.le_of_not_lt beyond)
      rw [fault] at absent
      cases absent
  | case4 stream byte more error fault lasting =>
      cases failed
      apply disturbed_refuse
      intro passes
      have fatal := Script.fatalAt_of_fault fault lasting
      rw [passes.calm] at fatal
      cases fatal
  | case5 stream byte more fault nothing =>
      cases failed
      apply disturbed_refuse
      intro passes
      have fatal := Script.fatalAt_of_acceptedPart fault byte more
      rw [nothing, passes.calm] at fatal
      cases fatal
  | case6 stream byte more fault first part accepted hypothesis =>
      exact .of_later (.accept stream _) (hypothesis failed)

end Stream
end StreamLoad
