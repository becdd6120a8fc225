import StreamLoad.Proofs.Transport.Dictation

/-!
# Streams that take writes alike

Writing depends on how a stream takes writes and on what was tried before, and
never on what comes back or on how closing goes. So the same writing on two
streams that differ in nothing else ends in the same way, and leaves them
alike.
-/

namespace StreamLoad

/-- The scripts take writes in the same way. They may close differently. -/
structure Script.WritesAlike (first second : Script) : Prop where
  writeCap : second.writeCap = first.writeCap
  writeFaults : second.writeFaults = first.writeFaults
  failFrom : second.failFrom = first.failFrom

namespace Script.WritesAlike

variable {first second : Script}

theorem refl (script : Script) : script.WritesAlike script := ⟨rfl, rfl, rfl⟩

theorem symm (alike : first.WritesAlike second) : second.WritesAlike first :=
  ⟨alike.writeCap.symm, alike.writeFaults.symm, alike.failFrom.symm⟩

theorem trans
    {third : Script}
    (alike : first.WritesAlike second)
    (alikeToo : second.WritesAlike third) : first.WritesAlike third :=
  ⟨alikeToo.writeCap.trans alike.writeCap,
    alikeToo.writeFaults.trans alike.writeFaults,
    alikeToo.failFrom.trans alike.failFrom⟩

theorem faultAt_eq (alike : first.WritesAlike second) :
    second.faultAt = first.faultAt := by
  funext attempt
  simp only [faultAt, alike.writeFaults, alike.failFrom]

theorem acceptedPart_eq (alike : first.WritesAlike second) :
    second.acceptedPart = first.acceptedPart := by
  funext bytes
  simp only [acceptedPart, alike.writeCap]

theorem horizon_eq (alike : first.WritesAlike second) :
    second.horizon = first.horizon := by
  simp only [horizon, alike.writeFaults]

theorem fatalAt_eq (alike : first.WritesAlike second) :
    second.fatalAt = first.fatalAt := by
  funext attempt
  simp only [fatalAt, alike.faultAt_eq, alike.writeCap]

end Script.WritesAlike

namespace Stream

/-- The streams take writes in the same way and have been written to in the
same way. What comes back on them may differ. -/
structure WritesAlike (first second : Stream) : Prop where
  script : first.script.WritesAlike second.script
  attempts : second.attempts = first.attempts
  accepted : second.accepted = first.accepted

/-- Two operations end with the same result and leave streams that are
alike. -/
inductive EndAlike
    {Value Failure : Type} :
    Except Failure Value × Stream -> Except Failure Value × Stream -> Prop
  | intro
      {first second : Stream}
      (result : Except Failure Value)
      (alike : first.WritesAlike second) :
      EndAlike (result, first) (result, second)

namespace WritesAlike

variable {first second : Stream}

theorem refl (stream : Stream) : stream.WritesAlike stream :=
  ⟨.refl stream.script, rfl, rfl⟩

theorem sent_eq (alike : first.WritesAlike second) :
    second.sent = first.sent := by
  rw [sent, alike.accepted, sent]

theorem refuse (alike : first.WritesAlike second) :
    first.refuse.WritesAlike second.refuse :=
  ⟨alike.script, congrArg (· + 1) alike.attempts, alike.accepted⟩

theorem accept (alike : first.WritesAlike second) (bytes : List UInt8) :
    (first.accept bytes).WritesAlike (second.accept bytes) :=
  ⟨alike.script, congrArg (· + 1) alike.attempts,
    congrArg (·.push bytes) alike.accepted⟩

theorem symm (alike : first.WritesAlike second) : second.WritesAlike first :=
  ⟨alike.script.symm, alike.attempts.symm, alike.accepted.symm⟩

theorem trans
    {third : Stream}
    (alike : first.WritesAlike second)
    (alikeToo : second.WritesAlike third) : first.WritesAlike third :=
  ⟨alike.script.trans alikeToo.script,
    alikeToo.attempts.trans alike.attempts,
    alikeToo.accepted.trans alike.accepted⟩

theorem unbroken
    (alike : first.WritesAlike second)
    (unbroken : first.Unbroken) : second.Unbroken := by
  refine ⟨?_, ?_⟩
  · intro start error failure
    rw [alike.script.failFrom] at failure
    exact unbroken.settles start error failure
  · intro attempt earlier
    rw [alike.attempts] at earlier
    rw [alike.script.fatalAt_eq]
    exact unbroken.calm attempt earlier

end WritesAlike

/-- Writing ends alike on streams that take writes alike. -/
theorem endAlike_writeAll
    {first second : Stream}
    (bytes : List UInt8)
    (alike : first.WritesAlike second) :
    EndAlike (first.writeAll bytes) (second.writeAll bytes) := by
  fun_induction writeAll bytes first generalizing second with
  | case1 stream =>
      rw [writeAll]
      exact .intro _ alike
  | case2 stream byte more error fault interruption within hypothesis =>
      rw [writeAll.eq_2 second, alike.script.faultAt_eq, alike.attempts, fault]
      dsimp only
      rw [if_pos interruption, alike.script.horizon_eq, if_pos within]
      exact hypothesis alike.refuse
  | case3 stream byte more error fault interruption beyond =>
      rw [writeAll.eq_2 second, alike.script.faultAt_eq, alike.attempts, fault]
      dsimp only
      rw [if_pos interruption, alike.script.horizon_eq, if_neg beyond]
      exact .intro _ alike.refuse
  | case4 stream byte more error fault lasting =>
      rw [writeAll.eq_2 second, alike.script.faultAt_eq, alike.attempts, fault]
      dsimp only
      rw [if_neg lasting]
      exact .intro _ alike.refuse
  | case5 stream byte more fault nothing =>
      rw [writeAll.eq_2 second, alike.script.faultAt_eq, alike.attempts, fault,
        alike.script.acceptedPart_eq]
      simp only [nothing]
      exact .intro _ alike.refuse
  | case6 stream byte more fault first part accepted hypothesis =>
      rw [writeAll.eq_2 second, alike.script.faultAt_eq, alike.attempts, fault,
        alike.script.acceptedPart_eq]
      simp only [accepted]
      exact hypothesis (alike.accept _)

theorem endAlike_writeTexts
    {first second : Stream}
    (texts : List (List UInt8))
    (alike : first.WritesAlike second) :
    EndAlike (first.writeTexts texts) (second.writeTexts texts) := by
  induction texts generalizing first second with
  | nil => exact .intro _ alike
  | cons text texts hypothesis =>
      have written := endAlike_writeAll text alike
      rw [writeTexts, writeTexts]
      generalize first.writeAll text = outcome at written ⊢
      generalize second.writeAll text = other at written ⊢
      cases written with
      | intro result later =>
          cases result with
          | error stop => exact .intro _ later
          | ok => exact hypothesis later

end Stream

/-- Carrying out a dictation ends alike on streams that take writes alike. -/
theorem Dictation.endAlike_carryOut
    {Value : Type}
    {first second : Stream}
    (dictation : Dictation Value)
    (alike : first.WritesAlike second) :
    Stream.EndAlike (dictation.carryOut first) (dictation.carryOut second) := by
  have written := Stream.endAlike_writeTexts dictation.texts alike
  unfold carryOut
  generalize first.writeTexts dictation.texts = outcome at written ⊢
  generalize second.writeTexts dictation.texts = other at written ⊢
  cases written with
  | intro result later =>
      cases result with
      | error stop => exact .intro _ later
      | ok => cases dictation.ending <;> exact .intro _ later

end StreamLoad
