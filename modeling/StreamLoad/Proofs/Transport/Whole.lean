import StreamLoad.Proofs.Transport.Dictation

/-!
# Streams that take each write whole

When no attempt fails and a write of any size up to some bound is accepted at
once, the writes on a stream are the texts that were dictated, one for one.
-/

namespace StreamLoad

/-- No attempt fails, and one write accepts as many bytes as a bound says. -/
structure Script.TakesWhole (script : Script) (largest : Nat) : Prop where
  calm : ∀ attempt, script.faultAt attempt = none
  room : ∀ cap, script.writeCap = some cap -> largest ≤ cap

namespace Script

theorem TakesWhole.acceptedPart
    {script : Script}
    {largest : Nat}
    (takesWhole : script.TakesWhole largest)
    {bytes : List UInt8}
    (small : bytes.length ≤ largest) : script.acceptedPart bytes = bytes := by
  unfold Script.acceptedPart
  cases limited : script.writeCap with
  | none => rfl
  | some cap =>
      apply List.take_of_length_le
      exact Nat.le_trans small (takesWhole.room cap limited)

end Script

namespace Stream

/-- The stream after some texts have been accepted, each in one attempt. -/
def acceptAll (stream : Stream) (texts : List (List UInt8)) : Stream :=
  texts.foldl accept stream

@[simp] theorem acceptAll_nil (stream : Stream) :
    stream.acceptAll [] = stream := rfl

@[simp] theorem acceptAll_cons
    (stream : Stream)
    (text : List UInt8)
    (texts : List (List UInt8)) :
    stream.acceptAll (text :: texts) =
      (stream.accept text).acceptAll texts := rfl

theorem wroteOnly_acceptAll (stream : Stream) (texts : List (List UInt8)) :
    stream.WroteOnly (stream.acceptAll texts) := by
  induction texts generalizing stream with
  | nil => exact .refl stream
  | cons text texts hypothesis =>
      exact (WroteOnly.accept stream text).trans (hypothesis _)

@[simp] theorem toList_accepted_acceptAll
    (stream : Stream)
    (texts : List (List UInt8)) :
    (stream.acceptAll texts).accepted.toList =
      stream.accepted.toList ++ texts := by
  induction texts generalizing stream with
  | nil => simp
  | cons text texts hypothesis => simp [hypothesis, accept]

@[simp] theorem attempts_acceptAll
    (stream : Stream)
    (texts : List (List UInt8)) :
    (stream.acceptAll texts).attempts = stream.attempts + texts.length := by
  induction texts generalizing stream with
  | nil => rfl
  | cons text texts hypothesis =>
      rw [acceptAll_cons, hypothesis, List.length_cons]
      simp only [accept]
      omega

/-- Texts that are not empty and small enough are written one for one. -/
theorem writeTexts_of_takesWhole
    {stream : Stream}
    {largest : Nat}
    {texts : List (List UInt8)}
    (takesWhole : stream.script.TakesWhole largest)
    (fits : ∀ text ∈ texts, 1 ≤ text.length ∧ text.length ≤ largest) :
    stream.writeTexts texts = (.ok (), stream.acceptAll texts) := by
  induction texts generalizing stream with
  | nil => rfl
  | cons text texts hypothesis =>
      obtain ⟨⟨nonempty, small⟩, others⟩ := List.forall_mem_cons.mp fits
      have written : stream.writeAll text = (.ok (), stream.accept text) :=
        writeAll_of_acceptedPart (List.ne_nil_of_length_pos nonempty)
          (takesWhole.acceptedPart small) (takesWhole.calm _)
      rw [writeTexts, written]
      exact hypothesis takesWhole others

end Stream

/-- A dictation of such texts is carried out one for one. -/
theorem Dictation.carryOut_of_takesWhole
    {Value : Type}
    {dictation : Dictation Value}
    {stream : Stream}
    {largest : Nat}
    (takesWhole : stream.script.TakesWhole largest)
    (fits : ∀ text ∈ dictation.texts,
      1 ≤ text.length ∧ text.length ≤ largest) :
    dictation.carryOut stream =
      (dictation.ending.mapError .halted,
        stream.acceptAll dictation.texts) := by
  unfold carryOut
  rw [Stream.writeTexts_of_takesWhole takesWhole fits]
  cases dictation.ending <;> rfl

end StreamLoad
