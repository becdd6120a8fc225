import StreamLoad.Proofs.Session.Alike
import StreamLoad.Proofs.Session.Frames

/-!
# What goes out when no write fails

A session none of whose writes fails sends all that it dictates. Unless an id
or the sum of the lengths is too large, these are the frames of the streams
whose letters are all drawn, and the hangup behind the last of them. In front
of a letter that is never drawn only a part of a frame goes out; how large it
is depends on the size of a page, but it is received as no frame.
-/

namespace StreamLoad

/-- The frames that a session completes when no write fails: those of its
streams, and the hangup if all letters are drawn. -/
def Plan.completed
    {Source : Type} [WordSource Source]
    (plan : Plan)
    (idPrefix : UInt64)
    (source : Source) : List Frame :=
  plan.frames idPrefix source ++
    if (letters plan.letterCount source).isSome then
      [.bare .hangup]
    else
      []

namespace Session

variable {Source : Type}

/-- A count that is too large is a fault. -/
theorem exists_fault_of_record
    {progress : Progress Source}
    {length : UInt64}
    {halt : Halt}
    (recorded : progress.record length = .error halt) :
    ∃ fault, halt = .fault fault := by
  unfold Progress.record at recorded
  split at recorded
  next fault _ =>
    cases recorded
    exact ⟨fault, rfl⟩
  next => cases recorded

theorem room_of_streamHeader
    {session : Session Source}
    {index : Nat}
    {length : UInt64}
    {lengths : List UInt64}
    {header : Header}
    (small : session.plan.size ≤ 2 ^ 64)
    (suffix : session.plan.lengths.drop index = length :: lengths)
    (found : session.streamHeader (UInt64.ofNat index) = .ok header) :
    session.idPrefix.toNat + index < 2 ^ 64 := by
  rw [streamHeader_of_drop small suffix] at found
  split at found
  next within => exact within
  next => cases found

variable [WordSource Source]

/-- A dictation of streams that does not fault dictates their frames: all of
them, or those in front of a letter that is never drawn and behind them a part
that is received as no frame. There is room for their ids. -/
inductive StreamsFramed
    (session : Session Source)
    (lengths : List UInt64)
    (index : Nat)
    (progress : Progress Source)
    (dictation : Dictation (Progress Source)) : Prop
  | whole
      (later : Progress Source)
      (ending : dictation.ending = .ok later)
      (drawn : (letters (lengths.map UInt64.toNat).sum
        progress.source).isSome)
      (bytes : dictation.bytes = Frame.encodeAll
        (Plan.framesFrom session.idPrefix index lengths progress.source))
      (room : session.idPrefix.toNat + index +
        (Plan.framesFrom session.idPrefix index lengths
          progress.source).length ≤ 2 ^ 64)
  | broken
      (part : List UInt8)
      (ending : dictation.ending = .error .endless)
      (endless : letters (lengths.map UInt64.toNat).sum progress.source = none)
      (bytes : dictation.bytes = Frame.encodeAll
        (Plan.framesFrom session.idPrefix index lengths progress.source) ++
          part)
      (unread : (receive part).frames = [])
      (room : session.idPrefix.toNat + index +
        (Plan.framesFrom session.idPrefix index lengths
          progress.source).length ≤ 2 ^ 64)

/-- A stream that is dictated and counted, and the streams behind it. -/
theorem StreamsFramed.cons
    {session : Session Source}
    {length : UInt64}
    {lengths : List UInt64}
    {index : Nat}
    {progress middle : Progress Source}
    {first : Dictation (Progress Source)}
    {next : Progress Source -> Dictation (Progress Source)}
    {body : List UInt8}
    (bytes : first.bytes =
      (Header.data (session.idPrefix + UInt64.ofNat index) length).encode ++
        body)
    (ending : first.ending = .ok middle)
    (drawn : letters length.toNat progress.source =
      some (body, middle.source))
    (rest : session.StreamsFramed lengths (index + 1) middle (next middle)) :
    session.StreamsFramed (length :: lengths) index progress
      (first.andThen next) := by
  obtain ⟨allBytes, finalEnding⟩ := Dictation.andThen_of_ok ending next
  have frames := Plan.framesFrom_of_letters drawn session.idPrefix index lengths
  cases rest with
  | whole later laterEnding laterDrawn laterBytes room =>
      refine .whole later (finalEnding.trans laterEnding) ?_ ?_ ?_
      · rw [List.map_cons, List.sum_cons, letters_add, drawn]
        simpa using laterDrawn
      · rw [allBytes, bytes, laterBytes, frames]
        rfl
      · rw [frames, List.length_cons]
        omega
  | broken part laterEnding endless laterBytes unread room =>
      refine .broken part (finalEnding.trans laterEnding) ?_ ?_ unread ?_
      · rw [List.map_cons, List.sum_cons, letters_add, drawn]
        simpa using endless
      · rw [allBytes, bytes, laterBytes, frames, Frame.encodeAll_cons,
          Frame.encode]
        simp only [List.append_assoc]
      · rw [frames, List.length_cons]
        omega

/-- A letter that is never drawn breaks the dictation off inside a body. -/
theorem StreamsFramed.of_no_letters
    {session : Session Source}
    {length : UInt64}
    {lengths : List UInt64}
    {index : Nat}
    {progress : Progress Source}
    {first : Dictation (Progress Source)}
    (begun : first.bytes <+:
      (Header.data (session.idPrefix + UInt64.ofNat index) length).encode ++
        yielded length.toNat progress.source)
    (ending : first.ending = .error .endless)
    (endless : letters length.toNat progress.source = none)
    (room : session.idPrefix.toNat + index ≤ 2 ^ 64)
    (next : Progress Source -> Dictation (Progress Source)) :
    session.StreamsFramed (length :: lengths) index progress
      (first.andThen next) := by
  obtain ⟨allBytes, finalEnding⟩ := Dictation.andThen_of_error ending next
  have frames : Plan.framesFrom session.idPrefix index (length :: lengths)
      progress.source = [] := by
    rw [Plan.framesFrom, endless]
  refine .broken first.bytes finalEnding ?_ ?_ ?_ ?_
  · rw [List.map_cons, List.sum_cons, letters_add, endless]
  · rw [allBytes, frames]
    rfl
  · have few := length_yielded_lt endless
    obtain ⟨body, wellFormed, isPart⟩ := Frame.exists_of_part
      (show (yielded length.toNat progress.source).length ≤
        (Header.data (session.idPrefix + UInt64.ofNat index)
          length).bodyLength from Nat.le_of_lt few)
    have short := begun.length_le
    have bodyLength : body.length = length.toNat := wellFormed
    rw [List.length_append] at short
    obtain ⟨ending, received, _⟩ := exists_receive_of_short wellFormed
      (begun.trans isPart) (by
        rw [Frame.encode, List.length_append]
        dsimp only
        omega) []
    rw [received]
  · rw [frames]
    exact room

theorem streamsFramed_dictateFrom
    {session : Session Source}
    (small : session.plan.size ≤ 2 ^ 64)
    {lengths : List UInt64}
    {index : Nat}
    (progress : Progress Source)
    (suffix : session.plan.lengths.drop index = lengths)
    (room : session.idPrefix.toNat + index ≤ 2 ^ 64)
    (unfaulted : ∀ fault,
      (session.dictateFrom lengths.length index progress).ending ≠
        .error (.fault fault)) :
    session.StreamsFramed lengths index progress
      (session.dictateFrom lengths.length index progress) := by
  induction lengths generalizing index progress with
  | nil => exact .whole progress rfl rfl rfl room
  | cons length lengths hypothesis =>
      have laterSuffix := drop_succ_of_drop_eq_cons suffix
      rw [List.length_cons, dictateFrom] at unfaulted ⊢
      cases found : session.streamHeader (UInt64.ofNat index) with
      | error fault =>
          rw [dictateStream_of_fault found progress] at unfaulted
          exact absurd rfl (unfaulted fault)
      | ok header =>
          have roomForId := room_of_streamHeader small suffix found
          obtain rfl := streamHeader_eq_ok small suffix found
          cases drawn : letters length.toNat progress.source with
          | none =>
              obtain ⟨begun, ending⟩ :=
                dictateStream_of_no_letters found drawn
              exact .of_no_letters begun ending drawn room _
          | some result =>
              obtain ⟨body, rest⟩ := result
              obtain ⟨bytes, ending⟩ := dictateStream_of_letters found drawn
              cases recorded : Progress.record
                  { progress with source := rest } length with
              | error halt =>
                  obtain ⟨fault, rfl⟩ := exists_fault_of_record recorded
                  exact absurd (Dictation.andThen_of_error
                    (ending.trans recorded) _).2 (unfaulted fault)
              | ok middle =>
                  obtain ⟨source, _, _⟩ := Progress.record_eq_ok recorded
                  obtain rfl : middle.source = rest := source
                  have counted := ending.trans recorded
                  rw [(Dictation.andThen_of_ok counted _).2] at unfaulted
                  exact .cons bytes counted drawn
                    (hypothesis middle laterSuffix roomForId unfaulted)

theorem frames_receive_hangup :
    (receive Header.hangup.encode).frames = [.bare .hangup] := by
  have wellFormed : ∀ frame ∈ [Frame.bare .hangup], frame.WellFormed := by
    decide
  have bytes : Frame.encodeAll [.bare .hangup] = Header.hangup.encode := by
    simp [Frame.encodeAll]
  rw [← bytes, receive_encodeAll wellFormed]

/-- A session whose dictation does not fault dictates the frames that it
completes when no write fails. A letter that is never drawn keeps it from
ending. -/
theorem frames_receive_dictation
    {session : Session Source}
    (small : session.plan.size ≤ 2 ^ 64)
    (unfaulted : ∀ fault, session.dictation.ending ≠ .error (.fault fault)) :
    (receive session.dictation.bytes).frames =
        session.plan.completed session.idPrefix session.source ∧
      session.idPrefix.toNat +
        (session.plan.frames session.idPrefix session.source).length ≤
          2 ^ 64 ∧
      (¬session.plan.YieldedBy session.source ->
        session.dictation.ending = .error .endless) := by
  have wellFormed : ∀ frame ∈
      session.plan.frames session.idPrefix session.source,
      frame.WellFormed := by
    intro frame member
    exact Plan.wellFormed_of_mem_frames frame (List.mem_append_left _ member)
  have dictated : ∀ fault,
      (session.dictateFrom session.plan.lengths.length 0
        session.progress).ending ≠ .error (.fault fault) := by
    intro fault ending
    exact unfaulted fault (Dictation.andThen_of_error ending _).2
  have streams := streamsFramed_dictateFrom small session.progress
    (show session.plan.lengths.drop 0 = session.plan.lengths from rfl)
    (Nat.le_of_lt session.idPrefix.toNat_lt) dictated
  have sameSource : session.progress.source = session.source := rfl
  unfold Plan.completed Plan.YieldedBy Plan.letterCount
  cases streams with
  | whole later ending drawn bytes room =>
      rw [sameSource] at drawn
      have all : session.dictation.bytes =
          Frame.encodeAll (session.plan.frames session.idPrefix
            session.source) ++ Header.hangup.encode := by
        have continued := (Dictation.andThen_of_ok ending fun progress =>
          (Dictation.text Header.hangup.encode).andThen fun _ =>
            .silent (.ok progress)).1
        rw [bytes] at continued
        exact continued
      refine ⟨?_, room, fun endless => absurd drawn endless⟩
      rw [all, frames_receive_encodeAll_append wellFormed,
        frames_receive_hangup, if_pos drawn]
  | broken part ending endless bytes unread room =>
      rw [sameSource] at endless
      have stopped := Dictation.andThen_of_error ending fun progress =>
        (Dictation.text Header.hangup.encode).andThen fun _ =>
          .silent (.ok progress)
      have all : session.dictation.bytes =
          Frame.encodeAll (session.plan.frames session.idPrefix
            session.source) ++ part := stopped.1.trans bytes
      have never : ¬(letters (session.plan.lengths.map UInt64.toNat).sum
          session.source).isSome := by
        intro drawn
        rw [endless] at drawn
        cases drawn
      refine ⟨?_, room, fun _ => stopped.2⟩
      rw [all, frames_receive_encodeAll_append wellFormed, unread,
        if_neg never]

/-- A session none of whose writes fails sends all that it dictates, and halts
if the dictation does. -/
theorem dictated_of_unbroken
    {session : Session Source}
    (unbroken : session.run.2.Unbroken) :
    session.run.2.sent = session.stream.sent ++ session.dictation.bytes ∧
      ∀ halt, session.dictation.ending = .error halt ->
        session.run.1 = .error (.halted halt) := by
  have ran := session.run_eq
  rcases session.dictation.carryOut_cases session.stream with
    ⟨after, writing, carried⟩ | ⟨stop, after, writing, carried⟩
  all_goals rw [carried] at ran
  · cases ending : session.dictation.ending with
    | error halt =>
        rw [ending] at ran
        rw [ran] at unbroken ⊢
        refine ⟨(writing.whole_of_unbroken unbroken).2, ?_⟩
        rintro _ ⟨⟩
        rfl
    | ok progress =>
        rw [ending] at ran
        change session.run = (session.resume progress after).conclude at ran
        have concluded := (session.resume progress after).writesAlike_conclude
        rw [ran] at unbroken ⊢
        have before := concluded.symm.unbroken unbroken
        refine ⟨?_, nofun⟩
        rw [concluded.sent_eq]
        exact (writing.whole_of_unbroken before).2
  · rw [ran] at unbroken
    cases (writing.whole_of_unbroken unbroken).1

end Session
end StreamLoad
