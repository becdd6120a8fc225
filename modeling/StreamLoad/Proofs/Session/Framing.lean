import StreamLoad.Proofs.Frame.Receiver
import StreamLoad.Proofs.Session.Transcript
import StreamLoad.Session.Conversation

/-!
# The headers a request writes

Every request has the headers that it writes when nothing goes wrong: a stream
that of its data, a run those of all streams and the hangup. Whatever is
dictated for a request is a beginning of frames with these headers, and a
stream whose letters are all drawn is dictated as whole frames, counted or
not.
-/

namespace StreamLoad

namespace Frame

/-- The bytes are those of frames with some headers: behind each header comes
the body that it announces. -/
def WholeBy (bytes : List UInt8) (headers : List Header) : Prop :=
  ∃ frames,
    (∀ frame ∈ frames, frame.WellFormed) ∧
      frames.map Frame.header = headers ∧
      bytes = encodeAll frames

/-- The bytes are a beginning of frames whose headers are the first of some:
only the last of these may come without the whole body that it announces. -/
def BegunBy (bytes : List UInt8) (headers : List Header) : Prop :=
  ∃ frames,
    (∀ frame ∈ frames, frame.WellFormed) ∧
      frames.map Frame.header <+: headers ∧
      bytes <+: encodeAll frames

namespace WholeBy

theorem nil : WholeBy [] [] :=
  ⟨[], List.forall_mem_nil _, rfl, rfl⟩

theorem single
    {frame : Frame}
    (wellFormed : frame.WellFormed) :
    WholeBy frame.encode [frame.header] :=
  ⟨[frame], List.forall_mem_singleton.mpr wellFormed, rfl,
    (List.append_nil _).symm⟩

theorem of_bodyless
    {header : Header}
    (bodyless : header.bodyLength = 0) :
    WholeBy header.encode [header] := by
  have wellFormed : (bare header).WellFormed := bodyless.symm
  have whole := single wellFormed
  rwa [encode_bare] at whole

theorem append
    {first second : List UInt8}
    {headers later : List Header}
    (whole : WholeBy first headers)
    (next : WholeBy second later) :
    WholeBy (first ++ second) (headers ++ later) := by
  obtain ⟨frames, wellFormed, rfl, rfl⟩ := whole
  obtain ⟨others, othersWellFormed, rfl, rfl⟩ := next
  refine ⟨frames ++ others, ?_, List.map_append, ?_⟩
  · exact List.forall_mem_append.mpr ⟨wellFormed, othersWellFormed⟩
  · rw [encodeAll_append]

theorem append_begunBy
    {first second : List UInt8}
    {headers later : List Header}
    (whole : WholeBy first headers)
    (next : BegunBy second later) :
    BegunBy (first ++ second) (headers ++ later) := by
  obtain ⟨frames, wellFormed, rfl, rfl⟩ := whole
  obtain ⟨others, othersWellFormed, listed, begun⟩ := next
  refine ⟨frames ++ others, ?_, ?_, ?_⟩
  · exact List.forall_mem_append.mpr ⟨wellFormed, othersWellFormed⟩
  · rw [List.map_append]
    exact (List.prefix_append_right_inj _).mpr listed
  · rw [encodeAll_append]
    exact (List.prefix_append_right_inj _).mpr begun

theorem begunBy
    {bytes : List UInt8}
    {headers : List Header}
    (whole : WholeBy bytes headers) : BegunBy bytes headers := by
  obtain ⟨frames, wellFormed, rfl, rfl⟩ := whole
  exact ⟨frames, wellFormed, List.prefix_rfl, List.prefix_rfl⟩

end WholeBy

namespace BegunBy

theorem append_right
    {bytes : List UInt8}
    {headers : List Header}
    (begun : BegunBy bytes headers)
    (later : List Header) : BegunBy bytes (headers ++ later) := by
  obtain ⟨frames, wellFormed, listed, whole⟩ := begun
  exact ⟨frames, wellFormed, listed.trans (List.prefix_append _ _), whole⟩

theorem of_begun
    {part bytes : List UInt8}
    {headers : List Header}
    (begun : BegunBy bytes headers)
    (isPrefix : part <+: bytes) : BegunBy part headers := by
  obtain ⟨frames, wellFormed, listed, whole⟩ := begun
  exact ⟨frames, wellFormed, listed, isPrefix.trans whole⟩

/-- Too few bytes behind a header are a beginning of its frame. -/
theorem of_part
    {header : Header}
    {part : List UInt8}
    (short : part.length ≤ header.bodyLength) :
    BegunBy (header.encode ++ part) [header] := by
  obtain ⟨body, wellFormed, begun⟩ := exists_of_part short
  exact (WholeBy.single wellFormed).begunBy.of_begun begun

end BegunBy
end Frame

namespace Stream

/-- Between two moments of a stream a beginning of frames with some headers has
been written, and all of them if the writing is complete. -/
def WroteFrames
    (before after : Stream)
    (headers : List Header)
    (complete : Prop) : Prop :=
  ∃ written,
    after.sent = before.sent ++ written ∧
      Frame.BegunBy written headers ∧
      (complete -> Frame.WholeBy written headers)

namespace WroteFrames

variable {before middle after : Stream}
variable {headers later : List Header}
variable {complete : Prop}

/-- Writing the bytes of frames is complete only if all of them are taken. -/
theorem of_writing
    {bytes : List UInt8}
    {result : Except (Stop TransportError) Unit}
    (writing : before.Writing bytes result after)
    (begun : Frame.BegunBy bytes headers)
    (whole : complete -> result = .ok () ∧ Frame.WholeBy bytes headers) :
    before.WroteFrames after headers complete := by
  cases result with
  | ok =>
      cases writing with
      | whole wrote calm sent =>
          exact ⟨bytes, sent, begun, fun finished => (whole finished).2⟩
  | error stop =>
      obtain ⟨written, sent, part⟩ := writing.exists_accepted
      refine ⟨written, sent, begun.of_begun part, fun finished => ?_⟩
      cases (whole finished).1

theorem of_writing_bare
    {header : Header}
    {result : Except (Stop TransportError) Unit}
    (bodyless : header.bodyLength = 0)
    (writing : before.Writing header.encode result after) :
    before.WroteFrames after [header] (result = .ok ()) := by
  have whole := Frame.WholeBy.of_bodyless bodyless
  exact .of_writing writing whole.begunBy fun taken => ⟨taken, whole⟩

theorem of_sent_eq
    (wrote : before.WroteFrames middle headers complete)
    (same : after.sent = middle.sent) :
    before.WroteFrames after headers complete := by
  obtain ⟨written, sent, begun, whole⟩ := wrote
  exact ⟨written, same.trans sent, begun, whole⟩

theorem imp
    {stricter : Prop}
    (wrote : before.WroteFrames after headers complete)
    (implies : stricter -> complete) :
    before.WroteFrames after headers stricter := by
  obtain ⟨written, sent, begun, whole⟩ := wrote
  exact ⟨written, sent, begun, fun finished => whole (implies finished)⟩

theorem append_right
    (wrote : before.WroteFrames after headers complete)
    (later : List Header) :
    before.WroteFrames after (headers ++ later) False := by
  obtain ⟨written, sent, begun, _⟩ := wrote
  exact ⟨written, sent, begun.append_right later, False.elim⟩

theorem append
    {stricter : Prop}
    (first : before.WroteFrames middle headers complete)
    (finished : complete)
    (second : middle.WroteFrames after later stricter) :
    before.WroteFrames after (headers ++ later) stricter := by
  obtain ⟨written, sent, _, whole⟩ := first
  obtain ⟨more, moreSent, begun, moreWhole⟩ := second
  refine ⟨written ++ more, ?_, (whole finished).append_begunBy begun, ?_⟩
  · rw [moreSent, sent, List.append_assoc]
  · intro both
    exact (whole finished).append (moreWhole both)

end WroteFrames
end Stream

namespace Dictation

variable {Value Next : Type}

/-- What is dictated is a beginning of frames with some headers, and it is all
of them when the dictation goes on. -/
structure Framed
    (dictation : Dictation Value)
    (headers : List Header) : Prop where
  begun : Frame.BegunBy dictation.bytes headers
  whole : ∀ value, dictation.ending = .ok value ->
    Frame.WholeBy dictation.bytes headers

namespace Framed

theorem silent (ending : Except Halt Value) :
    (Dictation.silent ending).Framed [] :=
  ⟨Frame.WholeBy.nil.begunBy, fun _ _ => .nil⟩

theorem andThen
    {first : Dictation Value}
    {next : Value -> Dictation Next}
    {headers later : List Header}
    (framed : first.Framed headers)
    (nextFramed : ∀ value, (next value).Framed later) :
    (first.andThen next).Framed (headers ++ later) := by
  cases ended : first.ending with
  | error halt =>
      obtain ⟨bytes, ending⟩ := Dictation.andThen_of_error ended next
      refine ⟨?_, ?_⟩
      · rw [bytes]
        exact framed.begun.append_right later
      · intro value goesOn
        rw [ending] at goesOn
        cases goesOn
  | ok value =>
      obtain ⟨bytes, ending⟩ := Dictation.andThen_of_ok ended next
      have whole := framed.whole value ended
      refine ⟨?_, ?_⟩
      · rw [bytes]
        exact whole.append_begunBy (nextFramed value).begun
      · intro result goesOn
        rw [bytes]
        rw [ending] at goesOn
        exact whole.append ((nextFramed value).whole result goesOn)

theorem text_bare
    {header : Header}
    (bodyless : header.bodyLength = 0) :
    (Dictation.text header.encode).Framed [header] := by
  have whole := Frame.WholeBy.of_bodyless bodyless
  have bytes : (Dictation.text header.encode).bytes = header.encode :=
    List.append_nil _
  exact ⟨bytes ▸ whole.begunBy, fun _ _ => bytes ▸ whole⟩

end Framed
end Dictation

namespace Session

variable {Source : Type}

/-- The header of the stream at an index, unless asking for it is a fault. -/
def streamHeaders (session : Session Source) (index : UInt64) : List Header :=
  (session.streamHeader index).toOption.toList

/-- The headers of a number of streams, beginning at an index. -/
def streamHeadersFrom
    (session : Session Source)
    (count index : Nat) : List Header :=
  (List.range' index count).flatMap fun index =>
    session.streamHeaders (UInt64.ofNat index)

/-- The headers that a request writes when nothing goes wrong. -/
def headersOf (session : Session Source) : Request -> List Header
  | .streamId _ => []
  | .sendStream index => session.streamHeaders index
  | .run => session.streamHeadersFrom session.plan.size 0 ++ [.hangup]
  | .hangup => [.hangup]
  | .shutdown => [.shutdown]

theorem bodyLength_of_streamHeader
    {session : Session Source}
    {index : UInt64}
    {header : Header}
    (found : session.streamHeader index = .ok header) :
    header.bodyLength = header.length.toNat := by
  unfold streamHeader at found
  split at found
  next => cases found
  next =>
    split at found
    next => cases found
    next =>
      cases found
      rfl

variable [WordSource Source]

/-- A stream is dictated as a beginning of its frame, and as the whole of it
unless a letter is never drawn, even when it cannot be counted any more. -/
theorem framed_bytes_dictateStream
    (session : Session Source)
    (index : UInt64)
    (progress : Progress Source) :
    Frame.BegunBy (session.dictateStream index progress).bytes
        (session.streamHeaders index) ∧
      ((session.dictateStream index progress).ending ≠ .error .endless ->
        Frame.WholeBy (session.dictateStream index progress).bytes
          (session.streamHeaders index)) := by
  unfold streamHeaders
  cases found : session.streamHeader index with
  | error fault =>
      rw [dictateStream_of_fault found progress]
      exact ⟨Frame.WholeBy.nil.begunBy, fun _ => .nil⟩
  | ok header =>
      have announced := bodyLength_of_streamHeader found
      cases drawn : letters header.length.toNat progress.source with
      | none =>
          obtain ⟨bytes, ending⟩ := dictateStream_of_no_letters found drawn
          have short := length_yielded_le header.length.toNat progress.source
          rw [← announced] at short
          refine ⟨(Frame.BegunBy.of_part short).of_begun ?_, ?_⟩
          · rwa [announced]
          · intro goesOn
            exact absurd ending goesOn
      | some result =>
          obtain ⟨body, rest⟩ := result
          obtain ⟨bytes, _⟩ := dictateStream_of_letters found drawn
          have wellFormed : Frame.WellFormed { header, body } :=
            (length_of_letters drawn).trans announced.symm
          have whole : Frame.WholeBy (header.encode ++ body) [header] :=
            .single wellFormed
          rw [bytes]
          exact ⟨whole.begunBy, fun _ => whole⟩

theorem framed_dictateStream
    (session : Session Source)
    (index : UInt64)
    (progress : Progress Source) :
    (session.dictateStream index progress).Framed
      (session.streamHeaders index) := by
  obtain ⟨begun, whole⟩ :=
    session.framed_bytes_dictateStream index progress
  refine ⟨begun, fun value goesOn => whole ?_⟩
  rw [goesOn]
  rintro ⟨⟩

theorem framed_dictateFrom
    (session : Session Source)
    (count index : Nat)
    (progress : Progress Source) :
    (session.dictateFrom count index progress).Framed
      (session.streamHeadersFrom count index) := by
  unfold streamHeadersFrom
  induction count generalizing index progress with
  | zero => exact .silent _
  | succ count hypothesis =>
      rw [List.range'_succ, List.flatMap_cons]
      exact (session.framed_dictateStream _ progress).andThen fun later =>
        hypothesis (index + 1) later

/-- A run dictates a beginning of the frames of all streams and the hangup. -/
theorem framed_dictation (session : Session Source) :
    session.dictation.Framed (session.headersOf .run) := by
  have streams :=
    session.framed_dictateFrom session.plan.size 0 session.progress
  refine streams.andThen fun progress => ?_
  exact (Dictation.Framed.text_bare rfl).andThen fun _ => .silent _

end Session
end StreamLoad
