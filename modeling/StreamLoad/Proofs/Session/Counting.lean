import Mathlib.Data.List.Forall2
import StreamLoad.Proofs.Session.Rejection
import StreamLoad.Proofs.Session.Summary

/-!
# What a session counts of its streams

Streams are sent in any order, as often as one likes, and a session goes on
whatever becomes of each. It counts a stream and its length when it returns the
length, and otherwise counts nothing, as long as the lengths of what is written
whole fit into a word together. If none of the streams breaks off, the frames of
those that were counted are all that is written, one behind the other.
-/

namespace StreamLoad

/-- A stream that has been sent: its index, and the length that was returned. -/
structure SentStream where
  index : UInt64
  length : UInt64
  deriving DecidableEq, Repr

namespace SentStream

/-- What has been sent by a call that ended in some way. -/
def ofResult
    (index : UInt64) :
    Except (Stop SessionError) UInt64 -> List SentStream
  | .ok length => [{ index, length }]
  | .error _ => []

/-- The lengths of some streams, added up. -/
def total (streams : List SentStream) : Nat :=
  (streams.map fun stream => stream.length.toNat).sum

theorem total_singleton (stream : SentStream) :
    total [stream] = stream.length.toNat :=
  List.sum_singleton

theorem total_append (first second : List SentStream) :
    total (first ++ second) = total first + total second := by
  rw [total, List.map_append, List.sum_append, total, total]

end SentStream

namespace Payload

variable {Source : Type} [WordSource Source]

/-- The dictation of a body is carried out with all of its letters drawn and
written, or it breaks off. -/
theorem carryOut_dictate
    (sizes : List UInt64)
    (source : Source)
    (stream : Stream) :
    (∃ count body rest after,
      letters (sizes.map UInt64.toNat).sum source = some (body, rest) ∧
        after.sent = stream.sent ++ body ∧
        (dictate sizes 0 source).carryOut stream =
          (.ok (count, rest), after)) ∨
    (∃ stop after,
      (Reply.stopped (stop.map .transmit)).Breaks ∧
        (dictate sizes 0 source).carryOut stream = (.error stop, after)) := by
  rcases (dictate sizes 0 source).carryOut_cases stream with
    ⟨after, writing, carried⟩ | ⟨stop, after, writing, carried⟩
  all_goals rw [carried]
  · cases drawn : letters (sizes.map UInt64.toNat).sum source with
    | none =>
        rw [(dictate_of_no_letters 0 drawn).2]
        exact .inr ⟨.halted .endless, after, trivial, rfl⟩
    | some result =>
        obtain ⟨body, rest⟩ := result
        obtain ⟨bytes, ending⟩ := dictate_of_letters 0 drawn
        rw [ending]
        rw [bytes] at writing
        cases writing with
        | whole wrote calm sent =>
            exact .inl ⟨_, body, rest, after, rfl, sent, rfl⟩
  · exact .inr
      ⟨stop, after, Reply.breaks_ofExcept_of_writing .sent writing, rfl⟩

end Payload

namespace Session

variable {Source : Type}

/-- Between two moments of a session some streams have been counted, and
nothing else. -/
structure Counted
    (before after : Session Source)
    (streams : List SentStream) : Prop where
  same : before.SameStreams after
  streamsSent : after.streamsSent = before.streamsSent + streams.length
  bytesSent : after.bytesSent.toNat =
    before.bytesSent.toNat + SentStream.total streams

namespace Counted

theorem nothing (session : Session Source) : session.Counted session [] :=
  ⟨.refl session, rfl, rfl⟩

theorem trans
    {before middle after : Session Source}
    {streams more : List SentStream}
    (first : before.Counted middle streams)
    (second : middle.Counted after more) :
    before.Counted after (streams ++ more) := by
  refine ⟨first.same.trans second.same, ?_, ?_⟩
  · rw [second.streamsSent, first.streamsSent, List.length_append,
      Nat.add_assoc]
  · rw [second.bytesSent, first.bytesSent, SentStream.total_append,
      Nat.add_assoc]

end Counted

/-- A frame is that of a stream that was sent: its header has the id, which is
not wrapped around, and the length that is planned, and the body is as long. -/
structure IsFrameOf
    (session : Session Source)
    (stream : SentStream)
    (frame : Frame) : Prop where
  planned : session.plan.lengths[stream.index.toNat]? = some stream.length
  header : frame.header =
    .data (session.idPrefix + stream.index) stream.length
  id : frame.header.id.toNat =
    session.idPrefix.toNat + stream.index.toNat
  body : frame.body.length = stream.length.toNat

theorem IsFrameOf.of_same
    {before after : Session Source}
    {stream : SentStream}
    {frame : Frame}
    (same : before.SameStreams after)
    (isFrame : after.IsFrameOf stream frame) :
    before.IsFrameOf stream frame := by
  obtain ⟨planned, header, id, body⟩ := isFrame
  rw [same.plan] at planned
  rw [same.idPrefix] at header id
  exact ⟨planned, header, id, body⟩

theorem sendHeader_cases (session : Session Source) (header : Header) :
    (∃ stream,
      stream.sent = session.stream.sent ++ header.encode ∧
        session.sendHeader header = (.ok (), { session with stream })) ∨
    (∃ stop stream,
      (Reply.stopped stop).Breaks ∧
        session.sendHeader header =
          (.error stop, { session with stream })) := by
  have writing := session.stream.writing_writeAll header.encode
  unfold sendHeader
  rcases written : session.stream.writeAll header.encode with
    ⟨stop | ⟨⟩, stream⟩
  all_goals rw [written] at writing
  · exact .inr ⟨_, _, Reply.breaks_ofExcept_of_writing .sent writing, rfl⟩
  · cases writing with
    | whole wrote calm sent => exact .inl ⟨stream, sent, rfl⟩

/-- A session that hangs up reports what it has counted. -/
theorem summary_of_hangup
    {session : Session Source}
    {summary : SessionSummary}
    (succeeded : session.hangup.1 = .ok summary) :
    summary = session.summary := by
  unfold hangup at succeeded
  rcases session.sendHeader_cases .hangup with
    ⟨stream, _, announced⟩ | ⟨stop, stream, _, announced⟩
  all_goals rw [announced] at succeeded
  · have reported := summary_of_conclude succeeded
    exact reported
  · cases succeeded

variable [WordSource Source]

/-- Frames have been drawn and written between two moments of a session, one
for each of some streams, and nothing else. -/
structure Carried
    (before after : Session Source)
    (streams : List SentStream)
    (frames : List Frame) : Prop where
  each : List.Forall₂ before.IsFrameOf streams frames
  sent : after.stream.sent = before.stream.sent ++ Frame.encodeAll frames
  drawn : letters (SentStream.total streams) before.source =
    some (frames.flatMap Frame.body, after.source)

namespace Carried

theorem nothing (session : Session Source) : session.Carried session [] [] :=
  ⟨.nil, (List.append_nil _).symm, rfl⟩

theorem trans
    {before middle after : Session Source}
    {streams more : List SentStream}
    {frames others : List Frame}
    (same : before.SameStreams middle)
    (first : before.Carried middle streams frames)
    (second : middle.Carried after more others) :
    before.Carried after (streams ++ more) (frames ++ others) := by
  refine ⟨?_, ?_, ?_⟩
  · exact List.rel_append first.each
      (second.each.imp fun _ _ => IsFrameOf.of_same same)
  · rw [second.sent, first.sent, Frame.encodeAll_append, List.append_assoc]
  · rw [SentStream.total_append, letters_add, first.drawn]
    dsimp only
    rw [second.drawn, List.flatMap_append]
    rfl

end Carried

/-- Sending a body draws and writes all of its letters, or it breaks off. -/
theorem sendBody_cases (session : Session Source) (length : UInt64) :
    (∃ body source stream,
      letters length.toNat session.source = some (body, source) ∧
        stream.sent = session.stream.sent ++ body ∧
        session.sendBody length =
          (.ok (), { session with source, stream })) ∨
    (∃ stop source stream,
      (Reply.stopped stop).Breaks ∧
        session.sendBody length =
          (.error stop, { session with source, stream })) := by
  have total := session.pageSize.sum_pages length
  have observed := Payload.observed_sendPages (session.pageSize.pages length) 0
    session.source session.stream
  have carried := Payload.carryOut_dictate
    (session.pageSize.pages length).toList session.source session.stream
  rw [total, ← observed] at carried
  unfold sendBody Payload.send
  generalize Payload.sendPages (session.pageSize.pages length) 0
    session.source session.stream = outcome at carried ⊢
  obtain ⟨stop | written, source, stream⟩ := outcome
  · rcases carried with ⟨_, _, _, _, _, _, ⟨⟩⟩ | ⟨_, _, breaks, ⟨⟩⟩
    exact .inr ⟨_, source, stream, breaks, rfl⟩
  · rcases carried with ⟨_, body, _, _, drawn, sent, ⟨⟩⟩ | ⟨_, _, _, ⟨⟩⟩
    exact .inl ⟨body, source, stream, drawn, sent, rfl⟩

/-- The length of the stream at an index, if its header and its body can be
written whole. -/
def writtenLength? (session : Session Source) (index : UInt64) :
    Option UInt64 :=
  match session.streamHeader index with
  | .error _ => none
  | .ok header =>
      match session.sendHeader header with
      | (.error _, _) => none
      | (.ok (), after) =>
          match after.sendBody header.length with
          | (.error _, _) => none
          | (.ok (), _) => some header.length

/-- How the sending of a stream ends, by what has been written whole of it. It
is rejected, or it breaks off, or all of it is written, and then it is counted
unless the bytes that are counted become too many. -/
inductive Sends
    (session : Session Source)
    (index : UInt64) :
    Option UInt64 ->
      Except (Stop SessionError) UInt64 × Session Source -> Prop
  | rejected (rejects : session.Rejects index) :
      Sends session index none
        (.error (.halted (.fault (session.rejection index))), session)
  | broken
      {stop : Stop SessionError}
      {after : Session Source}
      (breaks : (Reply.stopped stop).Breaks)
      (counted : session.Counted after []) :
      Sends session index none (.error stop, after)
  | beyond
      {length : UInt64}
      {after : Session Source}
      (streams : after.streamsSent = session.streamsSent + 1)
      (bytes : after.bytesSent = session.bytesSent)
      (tooMany : 2 ^ 64 ≤ session.bytesSent.toNat + length.toNat) :
      Sends session index (some length)
        (.error (.halted (.fault .addOverflow)), after)
  | sent
      {length : UInt64}
      {after : Session Source}
      {frame : Frame}
      (counted : session.Counted after [{ index, length }])
      (carried : session.Carried after [{ index, length }] [frame]) :
      Sends session index (some length) (.ok length, after)

/-- A stream that is written whole is counted, unless the bytes become too
many. -/
theorem sends_recordSent
    {session : Session Source}
    {index length : UInt64}
    {body : List UInt8}
    {source : Source}
    {stream : Stream}
    (planned : session.plan.lengths[index.toNat]? = some length)
    (room : session.idPrefix.toNat + index.toNat < 2 ^ 64)
    (drawn : letters length.toNat session.source = some (body, source))
    (sent : stream.sent = session.stream.sent ++
      (Header.data (session.idPrefix + index) length).encode ++ body) :
    session.Sends index (some length)
      ({ session with source, stream }.recordSent length) := by
  have idIs : (session.idPrefix + index).toNat =
      session.idPrefix.toNat + index.toNat := by
    rw [UInt64.toNat_add, Nat.mod_eq_of_lt room]
  unfold recordSent checkedAdd
  dsimp only
  rw [wordBound_eq]
  by_cases fits : session.bytesSent.toNat + length.toNat < 2 ^ 64
  · have sum : (session.bytesSent + length).toNat =
        session.bytesSent.toNat + length.toNat := by
      rw [UInt64.toNat_add, Nat.mod_eq_of_lt fits]
    have isFrame : session.IsFrameOf { index, length }
        { header := .data (session.idPrefix + index) length, body } :=
      ⟨planned, rfl, idIs, length_of_letters drawn⟩
    rw [if_pos fits]
    refine .sent ⟨⟨rfl, rfl⟩, rfl, sum⟩ ⟨.cons isFrame .nil, ?_, ?_⟩
    · rw [sent, List.append_assoc]
      exact congrArg _ (List.append_nil _).symm
    · rw [List.flatMap_singleton]
      exact drawn
  · rw [if_neg fits]
    exact .beyond rfl rfl (Nat.le_of_not_lt fits)

theorem sends_sendStream (session : Session Source) (index : UInt64) :
    session.Sends index (session.writtenLength? index)
      (session.sendStream index) := by
  unfold writtenLength? sendStream
  by_cases rejects : session.Rejects index
  · rw [streamHeader_of_rejects rejects]
    exact .rejected rejects
  obtain ⟨length, planned, room, found⟩ := exists_header_of_not_rejects rejects
  rw [found]
  dsimp only
  rcases session.sendHeader_cases (.data (session.idPrefix + index) length)
    with ⟨announced, headerSent, written⟩ | ⟨stop, announced, breaks, written⟩
  all_goals
    rw [written]
    dsimp only
  · rcases sendBody_cases { session with stream := announced } length with
      ⟨body, source, stream, drawn, bodySent, written⟩ |
        ⟨stop, source, stream, breaks, written⟩
    all_goals
      rw [show (Header.data (session.idPrefix + index) length).length =
        length from rfl, written]
      dsimp only
    · refine sends_recordSent planned room drawn ?_
      rw [bodySent, headerSent]
    · exact .broken breaks ⟨⟨rfl, rfl⟩, rfl, rfl⟩
  · exact .broken breaks ⟨⟨rfl, rfl⟩, rfl, rfl⟩

/-- Send the streams at some indices, one after the other, whatever becomes of
each. -/
def sendEach : List UInt64 -> Session Source ->
    List (Except (Stop SessionError) UInt64) × Session Source
  | [], session => ([], session)
  | index :: indices, session =>
      let outcome := session.sendStream index
      let later := sendEach indices outcome.2
      (outcome.1 :: later.1, later.2)

/-- The streams that have been sent, in order. -/
def sentStreams
    (indices : List UInt64)
    (session : Session Source) : List SentStream :=
  (List.zipWith SentStream.ofResult indices
    (sendEach indices session).1).flatten

/-- The lengths of the streams that are written whole, in order. -/
def writtenLengths : List UInt64 -> Session Source -> List UInt64
  | [], _ => []
  | index :: indices, session =>
      (session.writtenLength? index).toList ++
        writtenLengths indices (session.sendStream index).2

/-- The bytes that are counted, and those of the streams that are written whole,
fit into a word together. -/
def HasRoom (session : Session Source) (indices : List UInt64) : Prop :=
  session.bytesSent.toNat +
    ((writtenLengths indices session).map UInt64.toNat).sum < 2 ^ 64

/-- What one call counts and writes when there is room. -/
structure SendsExactly
    (session : Session Source)
    (index : UInt64)
    (outcome : Except (Stop SessionError) UInt64 × Session Source) : Prop where
  counted : session.Counted outcome.2 (SentStream.ofResult index outcome.1)
  carried : ¬(Reply.ofExcept .sent outcome.1).Breaks ->
    ∃ frames,
      session.Carried outcome.2 (SentStream.ofResult index outcome.1) frames

/-- When there is room for some streams, the first of them is counted and
written exactly, and there is room for the others behind it. -/
theorem HasRoom.sendsExactly
    {session : Session Source}
    {index : UInt64}
    {indices : List UInt64}
    (room : session.HasRoom (index :: indices)) :
    session.SendsExactly index (session.sendStream index) ∧
      (session.sendStream index).2.HasRoom indices := by
  have sends := session.sends_sendStream index
  unfold HasRoom writtenLengths at room
  generalize session.writtenLength? index = written at sends room
  generalize session.sendStream index = outcome at sends room ⊢
  cases sends with
  | rejected rejects =>
      exact ⟨⟨.nothing session, fun _ => ⟨[], .nothing session⟩⟩, room⟩
  | broken breaks counted =>
      refine ⟨⟨counted, fun unbroken => absurd breaks unbroken⟩, ?_⟩
      unfold HasRoom
      rw [counted.bytesSent]
      exact room
  | beyond streams bytes tooMany =>
      rw [Option.toList_some, List.singleton_append, List.map_cons,
        List.sum_cons] at room
      omega
  | sent counted carried =>
      refine ⟨⟨counted, fun _ => ⟨_, carried⟩⟩, ?_⟩
      rw [Option.toList_some, List.singleton_append, List.map_cons,
        List.sum_cons] at room
      unfold HasRoom
      rw [counted.bytesSent, SentStream.total_singleton, Nat.add_assoc]
      exact room

theorem counted_sendEach
    {session : Session Source}
    {indices : List UInt64}
    (room : session.HasRoom indices) :
    session.Counted (sendEach indices session).2
      (sentStreams indices session) := by
  induction indices generalizing session with
  | nil => exact .nothing session
  | cons index indices hypothesis =>
      obtain ⟨now, roomLater⟩ := room.sendsExactly
      exact now.counted.trans (hypothesis roomLater)

theorem exists_carried_sendEach
    {session : Session Source}
    {indices : List UInt64}
    (room : session.HasRoom indices)
    (unbroken : ∀ result ∈ (sendEach indices session).1,
      ¬(Reply.ofExcept .sent result).Breaks) :
    ∃ frames,
      session.Carried (sendEach indices session).2
        (sentStreams indices session) frames := by
  induction indices generalizing session with
  | nil => exact ⟨[], .nothing session⟩
  | cons index indices hypothesis =>
      obtain ⟨now, roomLater⟩ := room.sendsExactly
      obtain ⟨first, others⟩ := List.forall_mem_cons.mp unbroken
      obtain ⟨frames, carried⟩ := now.carried first
      obtain ⟨more, carriedLater⟩ := hypothesis roomLater others
      exact ⟨_, carried.trans now.counted.same carriedLater⟩

theorem writtenLengths_append
    (first second : List UInt64)
    (session : Session Source) :
    writtenLengths (first ++ second) session =
      writtenLengths first session ++
        writtenLengths second (sendEach first session).2 := by
  induction first generalizing session with
  | nil => rfl
  | cons index first hypothesis =>
      rw [List.cons_append, writtenLengths, writtenLengths, hypothesis,
        List.append_assoc, sendEach]

theorem HasRoom.of_prefix
    {session : Session Source}
    {earlier indices : List UInt64}
    (room : session.HasRoom indices)
    (upTo : earlier <+: indices) : session.HasRoom earlier := by
  obtain ⟨later, rfl⟩ := upTo
  unfold HasRoom at room ⊢
  rw [writtenLengths_append, List.map_append, List.sum_append] at room
  omega

theorem planned_of_written
    {session : Session Source}
    {index length : UInt64}
    (written : session.writtenLength? index = some length) :
    session.plan.lengths[index.toNat]? = some length := by
  unfold writtenLength? at written
  cases found : session.streamHeader index with
  | error fault =>
      rw [found] at written
      cases written
  | ok header =>
      obtain ⟨_, planned, lengthIs, rfl⟩ := streamHeader_eq_ok_iff.mp found
      rw [found] at written
      dsimp only at written
      split at written
      next => cases written
      next =>
        split at written
        next => cases written
        next =>
          cases written
          exact lengthIs

/-- There is room for streams if there is room for all that is planned at their
indices. -/
theorem hasRoom_of_planned
    {session : Session Source}
    {indices : List UInt64}
    (room : session.bytesSent.toNat +
      (indices.map fun index =>
        session.plan.lengths[index.toNat]?.elim 0 UInt64.toNat).sum <
          2 ^ 64) : session.HasRoom indices := by
  suffices bound : ((writtenLengths indices session).map UInt64.toNat).sum ≤
      (indices.map fun index =>
        session.plan.lengths[index.toNat]?.elim 0 UInt64.toNat).sum from
    Nat.lt_of_le_of_lt (Nat.add_le_add_left bound _) room
  clear room
  induction indices generalizing session with
  | nil => exact Nat.le_refl 0
  | cons index indices hypothesis =>
      have same := (session.continues_sendStream index).sameStreams
      have later := @hypothesis (session.sendStream index).2
      rw [same.plan] at later
      rw [writtenLengths, List.map_append, List.sum_append, List.map_cons,
        List.sum_cons]
      refine Nat.add_le_add ?_ later
      cases written : session.writtenLength? index with
      | none => exact Nat.zero_le _
      | some length =>
          rw [planned_of_written written]
          exact Nat.le_refl _

/-- What a session counts of the streams at some indices, sent one after the
other whatever becomes of each. It counts those whose lengths it returns, and a
hangup or a run that succeeds behind them reports just that, the run with the
whole plan added. If none of them breaks off, all that is written are the frames
of those that were counted. -/
structure CountsExactly
    (session : Session Source)
    (indices : List UInt64) : Prop where
  counted : session.Counted (sendEach indices session).2
    (sentStreams indices session)
  hungUp : ∀ summary,
    (sendEach indices session).2.hangup.1 = .ok summary ->
      summary.Reports session (sentStreams indices session).length
        (SentStream.total (sentStreams indices session))
  ran : session.plan.size ≤ 2 ^ 64 -> ∀ summary,
    (sendEach indices session).2.run.1 = .ok summary ->
      summary.Reports session
        ((sentStreams indices session).length + session.plan.size)
        (SentStream.total (sentStreams indices session) +
          session.plan.letterCount)
  framed : (∀ result ∈ (sendEach indices session).1,
      ¬(Reply.ofExcept .sent result).Breaks) ->
    ∃ frames,
      session.Carried (sendEach indices session).2
        (sentStreams indices session) frames

/-- When there is room for the bytes of some streams, a session counts them
exactly, up to each of them. -/
theorem countsExactly_of_hasRoom
    {session : Session Source}
    {indices earlier : List UInt64}
    (room : session.HasRoom indices)
    (upTo : earlier <+: indices) : session.CountsExactly earlier := by
  have roomBefore := room.of_prefix upTo
  have counted := counted_sendEach roomBefore
  refine ⟨counted, ?_, ?_, exists_carried_sendEach roomBefore⟩
  · intro summary succeeded
    rw [summary_of_hangup succeeded]
    exact ⟨counted.same.idPrefix, counted.streamsSent, counted.bytesSent⟩
  · intro small summary succeeded
    rw [← counted.same.plan] at small
    obtain ⟨idPrefix, streams, bytes⟩ := reports_run small succeeded
    rw [counted.streamsSent, counted.same.plan, Nat.add_assoc] at streams
    rw [counted.bytesSent, counted.same.plan, Nat.add_assoc] at bytes
    exact ⟨idPrefix.trans counted.same.idPrefix, streams, bytes⟩

/-- The torn session goes on counting behind a stream that breaks off and one
that is not planned. -/
theorem torn_countsExactly :
    torn.HasRoom [0, 7, 0, 0] ∧
      [0, 7, 0] <+: ([0, 7, 0, 0] : List UInt64) ∧
      torn.CountsExactly [0, 7, 0] := by
  have room : torn.HasRoom [0, 7, 0, 0] := hasRoom_of_planned (by decide)
  have upTo : [0, 7, 0] <+: ([0, 7, 0, 0] : List UInt64) := ⟨[0], rfl⟩
  exact ⟨room, upTo, countsExactly_of_hasRoom room upTo⟩

end Session
end StreamLoad
