import StreamLoad.Proofs.Session.Delivery
import StreamLoad.Proofs.Session.Frames
import StreamLoad.Proofs.Session.Undisturbed

/-!
# What a session counts

A session counts a stream when all of it has been written, and its length with
it. When it comes to wait for its acknowledgment, it has counted every stream of
its plan, and the receiver has a data frame for each of them. The lengths in the
headers add up to the bytes of the bodies, and to the bytes that were counted.
-/

namespace StreamLoad

namespace Reception

/-- The number of data frames. -/
def streams (reception : Reception) : Nat :=
  reception.frames.countP fun frame => frame.header.command = .data

/-- The lengths that the data frames announce, added up. -/
def announced (reception : Reception) : Nat :=
  ((reception.frames.filter fun frame => frame.header.command = .data).map
    fun frame => frame.header.length.toNat).sum

/-- The number of bytes in the bodies of all frames. -/
def bodyBytes (reception : Reception) : Nat :=
  (reception.frames.map fun frame => frame.body.length).sum

/-- All that was counted has been received, and it adds up: the streams, and the
bytes in their headers and in their bodies. -/
structure AmountsTo
    (reception : Reception)
    (streams bytes : Nat) : Prop where
  complete : reception.ending = .complete
  streams : reception.streams = streams
  announced : reception.announced = bytes
  bodyBytes : reception.bodyBytes = bytes

end Reception

namespace Plan

variable {Source : Type} [WordSource Source]

/-- The frames of some streams, when all letters are drawn. -/
theorem amountsTo_framesFrom
    {lengths : List UInt64}
    {source : Source}
    (yielded : (letters (lengths.map UInt64.toNat).sum source).isSome)
    (idPrefix : UInt64)
    (index : Nat) :
    Reception.AmountsTo
      { frames := framesFrom idPrefix index lengths source ++ [.bare .hangup]
        ending := .complete }
      lengths.length (lengths.map UInt64.toNat).sum := by
  induction lengths generalizing index source with
  | nil => exact ⟨rfl, rfl, rfl, rfl⟩
  | cons length lengths hypothesis =>
      rw [List.map_cons, List.sum_cons] at yielded ⊢
      obtain ⟨⟨allBodies, final⟩, drawn⟩ := Option.isSome_iff_exists.mp yielded
      obtain ⟨body, rest, bodies, first, later, _⟩ :=
        exists_of_letters_add drawn
      obtain ⟨_, streams, announced, bodyBytes⟩ :=
        hypothesis (Option.isSome_of_mem later) (index + 1)
      rw [framesFrom_of_letters first, List.cons_append, List.length_cons]
      have size := length_of_letters first
      have isData : (Header.data (idPrefix + UInt64.ofNat index)
          length).command = .data := rfl
      unfold Reception.streams at streams
      unfold Reception.announced at announced
      unfold Reception.bodyBytes at bodyBytes
      refine ⟨rfl, ?_, ?_, ?_⟩
      · unfold Reception.streams
        rw [List.countP_cons_of_pos (by simp [isData]), streams]
      · unfold Reception.announced
        rw [List.filter_cons_of_pos (by simp [isData]), List.map_cons,
          List.sum_cons, announced]
        rfl
      · unfold Reception.bodyBytes
        rw [List.map_cons, List.sum_cons, bodyBytes, size]

end Plan

/-- The summary is that of a session which has counted some streams and bytes
more. -/
structure SessionSummary.Reports
    {Source : Type}
    (summary : SessionSummary)
    (session : Session Source)
    (streams bytes : Nat) : Prop where
  idPrefix : summary.idPrefix = session.idPrefix
  streams : summary.streams = session.streamsSent + streams
  bytes : summary.bytes.toNat = session.bytesSent.toNat + bytes

namespace Session

variable {Source : Type} [WordSource Source]

/-- A dictation that goes on to its end is the transcript, with every stream
counted. -/
theorem dictated_of_ending
    {session : Session Source}
    {progress : Progress Source}
    (small : session.plan.size ≤ 2 ^ 64)
    (ending : session.dictation.ending = .ok progress) :
    session.plan.YieldedBy session.source ∧
      session.dictation.bytes =
        session.plan.transcript session.idPrefix session.source ∧
      progress.streamsSent = session.streamsSent + session.plan.size ∧
      progress.bytesSent.toNat =
        session.bytesSent.toNat + session.plan.letterCount := by
  obtain ⟨other, streams, same⟩ := Dictation.exists_of_andThen_eq_ok ending
  cases same
  rcases dictation_cases small with ⟨_, _, bytes, yielded⟩ | ⟨_, halted, _⟩
  · refine ⟨yielded, bytes, ?_⟩
    cases streamsDictated_plan small with
    | done later body ending drawn counted summed whole =>
        rw [streams] at ending
        cases ending
        exact ⟨counted, summed⟩
    | halted halt ending =>
        rw [streams] at ending
        cases ending
  · rw [ending] at halted
    cases halted

/-- A session that neither halts nor fails by a write has written its
dictation to the end and waits for its acknowledgment. -/
theorem exists_progress_of_run
    {session : Session Source}
    (unhalted : ∀ halt, session.run.1 ≠ .error (.halted halt))
    (written : ∀ error, session.run.1 ≠ .error (.failed (.transmit error))) :
    ∃ progress after,
      session.dictation.ending = .ok progress ∧
        session.RanWhole after ∧
        session.run = (session.resume progress after).conclude := by
  rcases session.run_cases with ⟨after, _, ran⟩ | ⟨stop, after, _, ran⟩
  · have result := ran.result
    cases ending : session.dictation.ending with
    | error halt =>
        rw [ending] at result
        exact absurd (congrArg Prod.fst result) (unhalted halt)
    | ok progress =>
        rw [ending] at result
        exact ⟨progress, after, rfl, ran, result⟩
  · cases stop with
    | failed error => exact absurd (congrArg Prod.fst ran) (written error)
    | halted halt => exact absurd (congrArg Prod.fst ran) (unhalted halt)

/-- A run that succeeds reports what has been counted before, and the whole of
its plan. -/
theorem reports_run
    {session : Session Source}
    {summary : SessionSummary}
    (small : session.plan.size ≤ 2 ^ 64)
    (succeeded : session.run.1 = .ok summary) :
    summary.Reports session session.plan.size session.plan.letterCount := by
  have unhalted : ∀ halt, session.run.1 ≠ .error (.halted halt) := by
    rw [succeeded]
    nofun
  have written : ∀ error,
      session.run.1 ≠ .error (.failed (.transmit error)) := by
    rw [succeeded]
    nofun
  obtain ⟨progress, after, ending, _, result⟩ :=
    exists_progress_of_run unhalted written
  obtain ⟨_, _, counted, summed⟩ := dictated_of_ending small ending
  rw [result] at succeeded
  rw [summary_of_conclude succeeded]
  exact ⟨rfl, counted, summed⟩

/-- A session that neither halts nor fails by a write, however its hangup is
answered, has had all of its plan received. If it succeeds, it reports just
that. -/
theorem amountsTo_run
    {session : Session Source}
    (small : session.plan.size ≤ 2 ^ 64)
    (unsent : session.stream.sent = [])
    (uncounted : session.streamsSent = 0)
    (unsummed : session.bytesSent = 0)
    (unhalted : ∀ halt, session.run.1 ≠ .error (.halted halt))
    (written : ∀ error, session.run.1 ≠ .error (.failed (.transmit error))) :
    (receive session.run.2.sent).AmountsTo session.plan.size
        session.plan.letterCount ∧
      ∀ summary, session.run.1 = .ok summary ->
        summary.streams = session.plan.size ∧
          summary.bytes.toNat = session.plan.letterCount := by
  obtain ⟨progress, after, ending, ran, _⟩ :=
    exists_progress_of_run unhalted written
  obtain ⟨yielded, bytes, _, _⟩ := dictated_of_ending small ending
  refine ⟨?_, ?_⟩
  · rw [ran.sent_run, unsent, List.nil_append, bytes,
      Plan.receive_transcript yielded]
    exact Plan.amountsTo_framesFrom yielded session.idPrefix 0
  · intro summary succeeded
    obtain ⟨_, streams, bytes⟩ := reports_run small succeeded
    rw [uncounted, Nat.zero_add] at streams
    rw [unsummed, UInt64.toNat_zero, Nat.zero_add] at bytes
    exact ⟨streams, bytes⟩

end Session
end StreamLoad
