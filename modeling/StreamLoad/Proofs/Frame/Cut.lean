import StreamLoad.Proofs.Frame.Receiver

/-!
# Frames cut off anywhere

The bytes of frames are read back as these frames, whatever their bodies look
like. When the bytes are cut off at some position, the frames that end up to
there are read, and the reading ends between two frames, inside a header with
the number of bytes that are left, or inside the body of the next data frame.
No cut makes a frame or an unknown command appear.
-/

namespace StreamLoad

namespace Frame

/-- The position at which the frame of some index ends. -/
def endOf (frames : List Frame) (index : Nat) : Nat :=
  (encodeAll (frames.take (index + 1))).length

theorem length_encodeAll_le_of_begun
    {first frames : List Frame}
    (begun : first <+: frames) :
    (encodeAll first).length ≤ (encodeAll frames).length := by
  obtain ⟨rest, rfl⟩ := begun
  rw [encodeAll_append, List.length_append]
  exact Nat.le_add_right _ _

/-- A frame ends inside the frames in front of a cut exactly when it is one of
them. -/
theorem lt_length_iff_endOf_le
    {whole later : List Frame}
    {part : List UInt8}
    {ending : ReceptionEnd}
    {cut index : Nat}
    (left : (encodeAll (whole ++ later)).take cut = encodeAll whole ++ part)
    (cutOff : CutOff later part ending)
    (inside : index < (whole ++ later).length) :
    index < whole.length ↔ endOf (whole ++ later) index ≤ cut := by
  have lengths := congrArg List.length left
  rw [List.length_take, List.length_append] at lengths
  constructor
  · intro before
    have begun : (whole ++ later).take (index + 1) <+: whole := by
      rw [List.take_append_of_le_length before]
      exact List.take_prefix _ _
    have bound := length_encodeAll_le_of_begun begun
    unfold endOf
    omega
  · intro ends
    refine Nat.lt_of_not_le fun behind => ?_
    cases later with
    | nil =>
        rw [List.append_nil] at inside
        omega
    | cons next later =>
        have short := cutOff.length_lt
        -- The frame at the index lies behind the cut with the next frame.
        have begun : whole ++ [next] <+:
            (whole ++ next :: later).take (index + 1) := by
          apply List.prefix_take_iff.mpr
          refine ⟨⟨later, by simp⟩, ?_⟩
          rw [List.length_append, List.length_singleton]
          omega
        have bound := length_encodeAll_le_of_begun begun
        have total := length_encodeAll_le_of_begun
          (List.take_prefix (index + 1) (whole ++ next :: later))
        have last : (encodeAll (whole ++ [next])).length =
            (encodeAll whole).length + next.encode.length := by
          rw [encodeAll_append, List.length_append]
          simp [encodeAll]
        unfold endOf at ends
        omega

end Frame

namespace Reception

/-- What is received of frames whose bytes are cut off: the frames that end up
to the cut, a count of them, and behind them what the cut leaves of the
next. -/
structure FromCut
    (reception : Reception)
    (frames : List Frame)
    (cut count : Nat) : Prop where
  received : reception.frames = frames.take count
  whole : ∀ index < frames.length,
    index < count ↔ Frame.endOf frames index ≤ cut
  ending : Frame.CutOff (frames.drop count)
    (((Frame.encodeAll frames).take cut).drop
      (Frame.encodeAll (frames.take count)).length) reception.ending
  known : ∀ tag, reception.ending ≠ .insideHeader (.unknownCommand tag)

theorem fromCut_receive
    {frames : List Frame}
    (wellFormed : ∀ frame ∈ frames, frame.WellFormed)
    (cut : Nat) :
    ∃ count ≤ frames.length,
      (receive ((Frame.encodeAll frames).take cut)).FromCut frames cut
        count := by
  obtain ⟨whole, later, part, ending, rfl, left, cutOff, received⟩ :=
    exists_receive_of_begun wellFormed
      (List.take_prefix cut (Frame.encodeAll frames))
  have taken : (whole ++ later).take whole.length = whole := List.take_left
  refine ⟨whole.length, ?_, ?_⟩
  · rw [List.length_append]
    exact Nat.le_add_right _ _
  · rw [received]
    refine ⟨taken.symm, ?_, ?_, ?_⟩
    · intro index inside
      exact Frame.lt_length_iff_endOf_le left cutOff inside
    · rw [taken, left, List.drop_left, List.drop_left]
      exact cutOff
    · rintro tag unknown
      dsimp only at unknown
      cases cutOff <;> cases unknown

end Reception

/-- Frames are their own framing: a receiver reads them back from their bytes
and from no more of them than it has, wherever these are cut off. -/
theorem receive_encodeAll_and_take
    {frames : List Frame}
    (wellFormed : ∀ frame ∈ frames, frame.WellFormed) :
    receive (Frame.encodeAll frames) = { frames, ending := .complete } ∧
      ∀ cut, ∃ count ≤ frames.length,
        (receive ((Frame.encodeAll frames).take cut)).FromCut frames cut
          count :=
  ⟨receive_encodeAll wellFormed, Reception.fromCut_receive wellFormed⟩

namespace Frame

/-- A data frame whose body reads like a shutdown, a hangup with a length, and
a data frame without a body. -/
def deceptive : List Frame :=
  [{ header := { Header.data 7 26 with kind := 9 }
     body := Header.shutdown.encode },
    .bare { Header.hangup with length := 5 },
    .bare (Header.data 8 0)]

theorem receive_deceptive :
    (∀ frame ∈ deceptive, frame.WellFormed) ∧
      receive (encodeAll deceptive) =
        { frames := deceptive, ending := .complete } ∧
      ∀ cut, ∃ count ≤ deceptive.length,
        (receive ((encodeAll deceptive).take cut)).FromCut deceptive cut
          count := by
  have wellFormed : ∀ frame ∈ deceptive, frame.WellFormed := by decide
  exact ⟨wellFormed, receive_encodeAll_and_take wellFormed⟩

end Frame
end StreamLoad
