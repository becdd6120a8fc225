import StreamLoad.Transport.Stream

/-!
# How writing ends

An attempt of a script is fatal when it fails by something else than an
interruption or accepts nothing. Writing bytes, and writing texts one behind
the other, ends in one of three ways: everything is accepted and no attempt
was fatal; the first fatal attempt is the last one and a proper part of the
bytes is accepted; or interruptions go on for ever.
-/

namespace StreamLoad

namespace Script

/-- The error by which an attempt ends the writing, if it does. -/
def fatalAt (script : Script) (attempt : Nat) : Option TransportError :=
  match script.faultAt attempt with
  | some error => if error.kind = .interrupted then none else some error
  | none => if script.writeCap = some 0 then some .writeZero else none

/-- Attempts are not interrupted for ever. -/
def Settles (script : Script) : Prop :=
  ∀ start error, script.failFrom = some (start, error) ->
    error.kind ≠ .interrupted

/-- Every byte is taken in the end: no attempt is fatal, and attempts are not
interrupted for ever. -/
structure TakesAll (script : Script) : Prop where
  settles : script.Settles
  calm : ∀ attempt, script.fatalAt attempt = none

theorem fatalAt_of_interruption
    {script : Script}
    {attempt : Nat}
    {error : TransportError}
    (fault : script.faultAt attempt = some error)
    (interruption : error.kind = .interrupted) :
    script.fatalAt attempt = none := by
  simp [fatalAt, fault, interruption]

theorem fatalAt_of_fault
    {script : Script}
    {attempt : Nat}
    {error : TransportError}
    (fault : script.faultAt attempt = some error)
    (lasting : error.kind ≠ .interrupted) :
    script.fatalAt attempt = some error := by
  simp [fatalAt, fault, lasting]

/-- A script takes everything in the end when it takes something each time and
only fails by numbered interruptions. -/
theorem takesAll_of_interruptions
    {script : Script}
    (positive : script.writeCap ≠ some 0)
    (interrupted : ∀ fault ∈ script.writeFaults, fault.2.kind = .interrupted)
    (numbered : script.failFrom = none) : script.TakesAll := by
  refine ⟨?_, ?_⟩
  · intro start error lasting
    rw [numbered] at lasting
    cases lasting
  · intro attempt
    cases fault : script.faultAt attempt with
    | none => simp [fatalAt, fault, positive]
    | some error =>
        apply fatalAt_of_interruption fault
        unfold faultAt at fault
        rw [numbered] at fault
        cases found : script.writeFaults.lookup attempt with
        | none => simp [found] at fault
        | some entry =>
            obtain ⟨before, behind, listed, -⟩ :=
              List.lookup_eq_some_iff.mp found
            simp only [found, Option.some.injEq] at fault
            subst fault
            apply interrupted (attempt, entry)
            simp [listed]

theorem takesAll_reliable : reliable.TakesAll :=
  takesAll_of_interruptions (by decide) (by decide) rfl

/-- An attempt that does not fail is fatal exactly when it accepts nothing. -/
theorem fatalAt_of_acceptedPart
    {script : Script}
    {attempt : Nat}
    (fault : script.faultAt attempt = none)
    (byte : UInt8)
    (more : List UInt8) :
    script.fatalAt attempt =
      match script.acceptedPart (byte :: more) with
      | [] => some .writeZero
      | _ :: _ => none := by
  unfold fatalAt acceptedPart
  rw [fault]
  cases script.writeCap with
  | none => rfl
  | some cap => cases cap <;> simp

theorem acceptedPart_begun (script : Script) (bytes : List UInt8) :
    script.acceptedPart bytes <+: bytes := by
  unfold acceptedPart
  cases script.writeCap with
  | none => exact List.prefix_rfl
  | some cap => exact List.take_prefix cap bytes

theorem lookup_eq_none_of_horizon_le
    {script : Script}
    {attempt : Nat}
    (beyond : script.horizon ≤ attempt) :
    script.writeFaults.lookup attempt = none := by
  unfold horizon at beyond
  generalize script.writeFaults = faults at beyond ⊢
  induction faults with
  | nil => rfl
  | cons fault faults hypothesis =>
      rw [List.foldr_cons, Nat.max_le] at beyond
      rw [List.lookup_cons, beq_false_of_ne (by omega)]
      exact hypothesis beyond.2

/-- Behind the numbered faults an interruption is one of those that go on. -/
theorem not_settles_of_interruption
    {script : Script}
    {attempt : Nat}
    {error : TransportError}
    (beyond : script.horizon ≤ attempt)
    (fault : script.faultAt attempt = some error)
    (interruption : error.kind = .interrupted) :
    ¬script.Settles := by
  intro settles
  unfold faultAt at fault
  rw [lookup_eq_none_of_horizon_le beyond] at fault
  cases failure : script.failFrom with
  | none => simp [failure] at fault
  | some entry =>
      obtain ⟨start, lasting⟩ := entry
      have notInterrupted := settles start lasting failure
      simp only [failure] at fault
      split at fault
      · cases fault
        exact notInterrupted interruption
      · cases fault

end Script

namespace Stream

/-- Between two moments of a stream nothing has happened but writing. -/
structure WroteOnly (before after : Stream) : Prop where
  script : after.script = before.script
  incoming : after.incoming = before.incoming
  readCount : after.readCount = before.readCount
  closeCount : after.closeCount = before.closeCount
  attempts : before.attempts ≤ after.attempts

namespace WroteOnly

theorem refl (stream : Stream) : stream.WroteOnly stream :=
  ⟨rfl, rfl, rfl, rfl, Nat.le_refl _⟩

theorem trans
    {before middle after : Stream}
    (first : before.WroteOnly middle)
    (second : middle.WroteOnly after) : before.WroteOnly after :=
  ⟨second.script.trans first.script, second.incoming.trans first.incoming,
    second.readCount.trans first.readCount,
    second.closeCount.trans first.closeCount,
    Nat.le_trans first.attempts second.attempts⟩

theorem refuse (stream : Stream) : stream.WroteOnly stream.refuse :=
  ⟨rfl, rfl, rfl, rfl, Nat.le_succ _⟩

theorem accept (stream : Stream) (bytes : List UInt8) :
    stream.WroteOnly (stream.accept bytes) :=
  ⟨rfl, rfl, rfl, rfl, Nat.le_succ _⟩

end WroteOnly

/-- No attempt to write so far was fatal, and attempts are not interrupted for
ever. -/
structure Unbroken (stream : Stream) : Prop where
  settles : stream.script.Settles
  calm : ∀ attempt < stream.attempts, stream.script.fatalAt attempt = none

theorem Unbroken.of_takesAll
    {stream : Stream}
    (takesAll : stream.script.TakesAll) : stream.Unbroken :=
  ⟨takesAll.settles, fun attempt _ => takesAll.calm attempt⟩

/-- No attempt from a moment on is fatal, up to the attempt of some number. -/
def CalmUntil (before : Stream) (bound : Nat) : Prop :=
  ∀ attempt, before.attempts ≤ attempt -> attempt < bound ->
    before.script.fatalAt attempt = none

theorem CalmUntil.refl (stream : Stream) :
    stream.CalmUntil stream.attempts := by
  intro attempt fromStart beforeStart
  exact absurd beforeStart (Nat.not_lt.mpr fromStart)

theorem CalmUntil.trans
    {before middle : Stream}
    {bound : Nat}
    (first : before.CalmUntil middle.attempts)
    (wrote : before.WroteOnly middle)
    (second : middle.CalmUntil bound) : before.CalmUntil bound := by
  intro attempt fromStart beforeBound
  rcases Nat.lt_or_ge attempt middle.attempts with earlier | later
  · exact first attempt fromStart earlier
  · rw [← wrote.script]
    exact second attempt later beforeBound

/-- An attempt that is not fatal by itself. -/
theorem CalmUntil.step
    {stream : Stream}
    (calm : stream.script.fatalAt stream.attempts = none) :
    stream.CalmUntil (stream.attempts + 1) := by
  intro attempt fromStart beforeNext
  rw [show attempt = stream.attempts by omega]
  exact calm

/-- How the writing of some bytes ends: with all of them accepted, cut off by
the first fatal attempt, or in interruptions without end. -/
inductive Writing (before : Stream) (bytes : List UInt8) :
    Except (Stop TransportError) Unit -> Stream -> Prop
  | whole
      {after : Stream}
      (wrote : before.WroteOnly after)
      (calm : before.CalmUntil after.attempts)
      (sent : after.sent = before.sent ++ bytes) :
      Writing before bytes (.ok ()) after
  | cut
      {after : Stream}
      {error : TransportError}
      {last : Nat}
      (accepted missing : List UInt8)
      (wrote : before.WroteOnly after)
      (started : before.attempts ≤ last)
      (calm : before.CalmUntil last)
      (fatal : before.script.fatalAt last = some error)
      (ended : after.attempts = last + 1)
      (sent : after.sent = before.sent ++ accepted)
      (split : bytes = accepted ++ missing)
      (proper : missing ≠ []) :
      Writing before bytes (.error (.failed error)) after
  | interrupted
      {after : Stream}
      (accepted missing : List UInt8)
      (wrote : before.WroteOnly after)
      (unsettled : ¬before.script.Settles)
      (sent : after.sent = before.sent ++ accepted)
      (split : bytes = accepted ++ missing)
      (proper : missing ≠ []) :
      Writing before bytes (.error (.halted .endless)) after

namespace Writing

theorem nothing (stream : Stream) : Writing stream [] (.ok ()) stream :=
  .whole (.refl stream) (.refl stream) (by simp)

/-- Writing that begins by writing a part whole ends as the rest does. -/
theorem after_whole
    {before middle after : Stream}
    {second : List UInt8}
    {result : Except (Stop TransportError) Unit}
    (first : List UInt8)
    (wrote : before.WroteOnly middle)
    (calm : before.CalmUntil middle.attempts)
    (sent : middle.sent = before.sent ++ first)
    (rest : Writing middle second result after) :
    Writing before (first ++ second) result after := by
  cases rest with
  | whole laterWrote laterCalm laterSent =>
      exact .whole (wrote.trans laterWrote) (calm.trans wrote laterCalm)
        (by rw [laterSent, sent, List.append_assoc])
  | cut accepted missing laterWrote started laterCalm fatal ended laterSent
      split proper =>
      refine .cut (first ++ accepted) missing (wrote.trans laterWrote)
        (Nat.le_trans wrote.attempts started)
        (calm.trans wrote laterCalm) ?_ ended ?_ ?_ proper
      · rw [← wrote.script, fatal]
      · rw [laterSent, sent, List.append_assoc]
      · rw [split, List.append_assoc]
  | interrupted accepted missing laterWrote unsettled laterSent split
      proper =>
      refine .interrupted (first ++ accepted) missing
        (wrote.trans laterWrote) ?_ ?_ ?_ proper
      · rw [← wrote.script]
        exact unsettled
      · rw [laterSent, sent, List.append_assoc]
      · rw [split, List.append_assoc]

/-- Writing that does not come to the end of a part goes no further. -/
theorem before_rest
    {before after : Stream}
    {first : List UInt8}
    {stop : Stop TransportError}
    (part : Writing before first (.error stop) after)
    (second : List UInt8) :
    Writing before (first ++ second) (.error stop) after := by
  cases part with
  | cut accepted missing wrote started calm fatal ended sent split proper =>
      refine .cut accepted (missing ++ second) wrote started calm fatal ended
        sent ?_
        (List.append_ne_nil_of_left_ne_nil proper second)
      rw [split, List.append_assoc]
  | interrupted accepted missing wrote unsettled sent split proper =>
      refine .interrupted accepted (missing ++ second) wrote unsettled sent ?_
        (List.append_ne_nil_of_left_ne_nil proper second)
      rw [split, List.append_assoc]

/-- What is accepted is a beginning of the bytes. -/
theorem exists_accepted
    {before after : Stream}
    {bytes : List UInt8}
    {result : Except (Stop TransportError) Unit}
    (writing : Writing before bytes result after) :
    ∃ accepted, after.sent = before.sent ++ accepted ∧ accepted <+: bytes := by
  cases writing with
  | whole wrote calm sent => exact ⟨bytes, sent, List.prefix_rfl⟩
  | cut accepted missing wrote started calm fatal ended sent split proper =>
      exact ⟨accepted, sent, split ▸ List.prefix_append accepted missing⟩
  | interrupted accepted missing wrote unsettled sent split proper =>
      exact ⟨accepted, sent, split ▸ List.prefix_append accepted missing⟩

/-- Writing does nothing but write. -/
theorem wroteOnly
    {before after : Stream}
    {bytes : List UInt8}
    {result : Except (Stop TransportError) Unit}
    (writing : Writing before bytes result after) :
    before.WroteOnly after := by
  cases writing with
  | whole wrote => exact wrote
  | cut _ _ wrote => exact wrote
  | interrupted _ _ wrote => exact wrote

/-- Writing goes well exactly when all of the bytes are accepted. -/
theorem eq_ok_iff_sent
    {before after : Stream}
    {bytes : List UInt8}
    {result : Except (Stop TransportError) Unit}
    (writing : Writing before bytes result after) :
    result = .ok () ↔ after.sent = before.sent ++ bytes := by
  cases writing with
  | whole wrote calm sent => exact iff_of_true rfl sent
  | cut accepted missing wrote started calm fatal ended sent split proper =>
      simp [sent, split, proper]
  | interrupted accepted missing wrote unsettled sent split proper =>
      simp [sent, split, proper]

/-- A stream that takes everything accepts all of the bytes. -/
theorem whole_of_takesAll
    {before after : Stream}
    {bytes : List UInt8}
    {result : Except (Stop TransportError) Unit}
    (writing : Writing before bytes result after)
    (takesAll : before.script.TakesAll) :
    result = .ok () ∧ after.sent = before.sent ++ bytes := by
  cases writing with
  | whole wrote calm sent => exact ⟨rfl, sent⟩
  | cut accepted missing wrote started calm fatal ended sent split proper =>
      rw [takesAll.calm] at fatal
      cases fatal
  | interrupted accepted missing wrote unsettled sent split proper =>
      exact absurd takesAll.settles unsettled

/-- Writing that leaves the stream unbroken has written all of the bytes. -/
theorem whole_of_unbroken
    {before after : Stream}
    {bytes : List UInt8}
    {result : Except (Stop TransportError) Unit}
    (writing : Writing before bytes result after)
    (unbroken : after.Unbroken) :
    result = .ok () ∧ after.sent = before.sent ++ bytes := by
  cases writing with
  | whole wrote calm sent => exact ⟨rfl, sent⟩
  | @cut after error last accepted missing wrote started calm fatal ended sent
      split proper =>
      have harmless := unbroken.calm last (ended ▸ Nat.lt_succ_self last)
      rw [wrote.script, fatal] at harmless
      cases harmless
  | interrupted accepted missing wrote unsettled sent split proper =>
      exact absurd (wrote.script ▸ unbroken.settles) unsettled

end Writing

/-- Writing bytes ends in one of the three ways. -/
theorem writing_writeAll (bytes : List UInt8) (stream : Stream) :
    Writing stream bytes (stream.writeAll bytes).1
      (stream.writeAll bytes).2 := by
  fun_induction writeAll bytes stream with
  | case1 stream => exact .nothing stream
  | case2 stream byte more error fault interruption within hypothesis =>
      exact .after_whole [] (.refuse stream)
        (.step (Script.fatalAt_of_interruption fault interruption))
        (List.append_nil _).symm hypothesis
  | case3 stream byte more error fault interruption beyond =>
      exact .interrupted [] (byte :: more) (.refuse stream)
        (Script.not_settles_of_interruption (Nat.le_of_not_lt beyond) fault
          interruption)
        (List.append_nil _).symm rfl (List.cons_ne_nil byte more)
  | case4 stream byte more error fault lasting =>
      exact .cut [] (byte :: more) (.refuse stream) (Nat.le_refl _)
        (.refl stream) (Script.fatalAt_of_fault fault lasting) rfl
        (List.append_nil _).symm rfl (List.cons_ne_nil byte more)
  | case5 stream byte more fault nothing =>
      have fatal := Script.fatalAt_of_acceptedPart fault byte more
      rw [nothing] at fatal
      exact .cut [] (byte :: more) (.refuse stream) (Nat.le_refl _)
        (.refl stream) fatal rfl (List.append_nil _).symm rfl
        (List.cons_ne_nil byte more)
  | case6 stream byte more fault first part accepted hypothesis =>
      have calm := Script.fatalAt_of_acceptedPart fault byte more
      have isPrefix := stream.script.acceptedPart_begun (byte :: more)
      rw [accepted] at calm isPrefix
      have writing := Writing.after_whole (first :: part)
        (.accept stream _) (.step calm) (sent_accept stream _) hypothesis
      rw [List.prefix_iff_eq_append.mp isPrefix] at writing
      exact writing

/-- An attempt that fails by no interruption ends the writing. -/
theorem writeAll_of_fault
    {stream : Stream}
    {bytes : List UInt8}
    {error : TransportError}
    (nonempty : bytes ≠ [])
    (fault : stream.script.faultAt stream.attempts = some error)
    (lasting : error.kind ≠ .interrupted) :
    stream.writeAll bytes = (.error (.failed error), stream.refuse) := by
  obtain ⟨byte, more, rfl⟩ := List.exists_cons_of_ne_nil nonempty
  rw [writeAll, fault]
  dsimp only
  rw [if_neg lasting]

/-- An attempt that does not fail and accepts all of the bytes is the only
one. -/
theorem writeAll_of_acceptedPart
    {stream : Stream}
    {bytes : List UInt8}
    (nonempty : bytes ≠ [])
    (whole : stream.script.acceptedPart bytes = bytes)
    (calm : stream.script.faultAt stream.attempts = none) :
    stream.writeAll bytes = (.ok (), stream.accept bytes) := by
  obtain ⟨byte, more, rfl⟩ := List.exists_cons_of_ne_nil nonempty
  rw [writeAll, calm]
  dsimp only
  rw [whole]
  dsimp only
  rw [List.drop_length, writeAll]

/-- Without a limit an attempt that does not fail takes all of the bytes. -/
theorem writeAll_of_accepted
    {stream : Stream}
    {bytes : List UInt8}
    (nonempty : bytes ≠ [])
    (uncapped : stream.script.writeCap = none)
    (calm : stream.script.faultAt stream.attempts = none) :
    stream.writeAll bytes = (.ok (), stream.accept bytes) := by
  apply writeAll_of_acceptedPart nonempty _ calm
  unfold Script.acceptedPart
  rw [uncapped]

/-- Write texts one behind the other, up to the first that fails. -/
def writeTexts : List (List UInt8) -> Stream ->
    Except (Stop TransportError) Unit × Stream
  | [], stream => (.ok (), stream)
  | text :: texts, stream =>
      match stream.writeAll text with
      | (.error stop, after) => (.error stop, after)
      | (.ok (), after) => writeTexts texts after

theorem writeTexts_append
    (first second : List (List UInt8))
    (stream : Stream) :
    stream.writeTexts (first ++ second) =
      match stream.writeTexts first with
      | (.error stop, after) => (.error stop, after)
      | (.ok (), after) => after.writeTexts second := by
  induction first generalizing stream with
  | nil => rfl
  | cons text texts hypothesis =>
      rw [List.cons_append, writeTexts, writeTexts]
      rcases stream.writeAll text with ⟨stop | ⟨⟩, after⟩
      · rfl
      · exact hypothesis after

/-- Writing texts ends like writing all of their bytes. -/
theorem writing_writeTexts (texts : List (List UInt8)) (stream : Stream) :
    Writing stream texts.flatten (stream.writeTexts texts).1
      (stream.writeTexts texts).2 := by
  induction texts generalizing stream with
  | nil => exact .nothing stream
  | cons text texts hypothesis =>
      have first := writing_writeAll text stream
      rw [List.flatten_cons, writeTexts]
      rcases written : stream.writeAll text with ⟨stop | ⟨⟩, after⟩
      · rw [written] at first
        exact first.before_rest texts.flatten
      · rw [written] at first
        cases first with
        | whole wrote calm sent =>
            exact .after_whole text wrote calm sent (hypothesis after)

end Stream
end StreamLoad
