import StreamLoad.Proofs.Payload.Paging
import StreamLoad.Proofs.Session.Summary
import StreamLoad.Proofs.Transport.Whole

/-!
# The writes of a session

On a stream that takes each write whole, a run writes for each stream of its
plan the header in one write and the body in pages, and then the hangup header
in one more. How many writes there are, and of which sizes, follows from the
plan and the size of a page; the source only decides which letters are in them.
-/

namespace StreamLoad

/-- The writes of a frame: its header, and its body in pages. -/
def Frame.writes (pageSize : PageSize) (frame : Frame) : List (List UInt8) :=
  frame.header.encode ::
    (pageSize.writeSizes frame.body.length).splitLengths frame.body

/-- The writes of a frame put together are its code. -/
theorem Frame.flatten_writes (pageSize : PageSize) (frame : Frame) :
    (frame.writes pageSize).flatten = frame.encode := by
  rw [writes, List.flatten_cons, List.flatten_splitLengths]
  · rfl
  · rw [PageSize.sum_writeSizes]

/-- The sizes of the writes for the streams of some lengths. -/
def PageSize.streamSizes
    (pageSize : PageSize)
    (lengths : List UInt64) : List Nat :=
  lengths.flatMap fun length =>
    Header.size :: pageSize.writeSizes length.toNat

namespace Plan

/-- The sizes of all writes for a plan and the hangup behind it. -/
def writeSizes (plan : Plan) (pageSize : PageSize) : List Nat :=
  pageSize.streamSizes plan.lengths ++ [Header.size]

/-- Every write is a header or a page, so none is empty. -/
theorem bounds_of_mem_writeSizes
    {plan : Plan}
    {pageSize : PageSize}
    {size : Nat}
    (member : size ∈ plan.writeSizes pageSize) :
    1 ≤ size ∧ size ≤ max Header.size pageSize.bytes.toNat := by
  have header : 1 ≤ Header.size := by decide
  rcases List.mem_append.mp member with streams | hangup
  · obtain ⟨length, _, inside⟩ := List.mem_flatMap.mp streams
    rcases List.mem_cons.mp inside with rfl | page
    · omega
    · have bounds := PageSize.bounds_of_mem_writeSizes page
      omega
  · obtain rfl := List.mem_singleton.mp hangup
    omega

variable {Source : Type} [WordSource Source]

/-- When all letters are drawn, there is a frame for each stream of a plan. -/
theorem exists_frame_of_yielded
    {plan : Plan}
    {source : Source}
    (yielded : plan.YieldedBy source)
    (idPrefix : UInt64)
    {index : Nat}
    {length : UInt64}
    (planned : plan.lengths[index]? = some length) :
    ∃ body,
      (plan.frames idPrefix source)[index]? =
          some { header := .data (idPrefix + UInt64.ofNat index) length
                 body } ∧
        body.length = length.toNat ∧
        ∀ letter ∈ body, IsLetter letter := by
  have count := (transcriptFrom_eq_encodeAll yielded idPrefix 0).1
  have inside := (List.getElem?_eq_some_iff.mp planned).1
  obtain ⟨frame, found⟩ :
      ∃ frame, (plan.frames idPrefix source)[index]? = some frame :=
    ⟨_, List.getElem?_eq_getElem (count ▸ inside)⟩
  obtain ⟨other, alike, header, measured, letters⟩ := getElem?_framesFrom found
  rw [planned] at alike
  cases alike
  obtain ⟨_, body⟩ := frame
  rw [Nat.zero_add] at header
  subst header
  exact ⟨body, found, measured, letters⟩

end Plan

namespace Session

variable {Source : Type} [WordSource Source]

theorem sized_dictateStream
    {session : Session Source}
    {index : UInt64}
    {header : Header}
    (found : session.streamHeader index = .ok header)
    (progress : Progress Source) :
    (session.dictateStream index progress).Sized
      (Header.size :: session.pageSize.writeSizes header.length.toNat) := by
  have announced := Dictation.Sized.text header.encode
  have body := Payload.sized_dictate
    (session.pageSize.pages header.length).toList 0 progress.source
  rw [Header.length_encode] at announced
  rw [Pages.map_toNat_toList] at body
  have counted := body.andThen fun written _ => Dictation.Sized.silent
    ({ progress with source := written.2 }.record header.length)
  rw [List.append_nil] at counted
  unfold dictateStream
  rw [found]
  exact announced.andThen fun _ _ => counted

/-- The sizes of the writes for streams depend on nothing but their lengths and
the size of a page. -/
theorem sized_dictateFrom
    {session : Session Source}
    (small : session.plan.size ≤ 2 ^ 64)
    {lengths : List UInt64}
    {index : Nat}
    (progress : Progress Source)
    (suffix : session.plan.lengths.drop index = lengths) :
    (session.dictateFrom lengths.length index progress).Sized
      (session.pageSize.streamSizes lengths) := by
  induction lengths generalizing index progress with
  | nil => exact .silent _
  | cons length lengths hypothesis =>
      have laterSuffix := drop_succ_of_drop_eq_cons suffix
      rw [List.length_cons, dictateFrom]
      cases found : session.streamHeader (UInt64.ofNat index) with
      | error fault =>
          rw [dictateStream_of_fault found progress]
          exact .halted _ _
      | ok header =>
          obtain rfl := streamHeader_eq_ok small suffix found
          exact (sized_dictateStream found progress).andThen
            fun later _ => hypothesis later laterSuffix

theorem sized_dictation
    {session : Session Source}
    (small : session.plan.size ≤ 2 ^ 64) :
    session.dictation.Sized (session.plan.writeSizes session.pageSize) := by
  have streams := sized_dictateFrom small session.progress
    (show session.plan.lengths.drop 0 = session.plan.lengths from rfl)
  apply streams.andThen
  intro _ _
  exact (Dictation.Sized.text _).andThen fun _ _ => .silent _

/-- A stream that is dictated to its end has had all letters of its body
drawn, and its writes are those of its frame. -/
theorem texts_dictateStream
    {session : Session Source}
    {index : UInt64}
    {header : Header}
    {progress later : Progress Source}
    (found : session.streamHeader index = .ok header)
    (ending : (session.dictateStream index progress).ending = .ok later) :
    ∃ body,
      letters header.length.toNat progress.source =
          some (body, later.source) ∧
        (session.dictateStream index progress).texts =
          Frame.writes session.pageSize { header, body } := by
  cases drawn : letters header.length.toNat progress.source with
  | none =>
      rw [(dictateStream_of_no_letters found drawn).2] at ending
      cases ending
  | some result =>
      obtain ⟨body, rest⟩ := result
      rw [(dictateStream_of_letters found drawn).2] at ending
      obtain rfl : later.source = rest := (Progress.record_eq_ok ending).1
      refine ⟨body, rfl, ?_⟩
      have length := length_of_letters drawn
      have total := session.pageSize.sum_pages header.length
      have pages := (session.pageSize.pages header.length).map_toNat_toList
      rw [← total] at drawn
      have dictated := (Payload.dictate_of_letters 0 drawn).2
      unfold dictateStream Frame.writes
      rw [found]
      dsimp only
      rw [Dictation.texts_text_andThen,
        Dictation.texts_andThen_of_ok dictated,
        Payload.texts_dictate_of_letters 0 drawn, pages, length]
      exact congrArg _ (List.append_nil _)

/-- Streams that are dictated to the end of the last are written as the frames
of their plan. -/
theorem texts_dictateFrom
    {session : Session Source}
    (small : session.plan.size ≤ 2 ^ 64)
    {lengths : List UInt64}
    {index : Nat}
    {progress later : Progress Source}
    (suffix : session.plan.lengths.drop index = lengths)
    (ending : (session.dictateFrom lengths.length index progress).ending =
      .ok later) :
    (session.dictateFrom lengths.length index progress).texts =
      (Plan.framesFrom session.idPrefix index lengths progress.source).flatMap
        (Frame.writes session.pageSize) := by
  induction lengths generalizing index progress with
  | nil => rfl
  | cons length lengths hypothesis =>
      have laterSuffix := drop_succ_of_drop_eq_cons suffix
      rw [List.length_cons, dictateFrom] at ending ⊢
      obtain ⟨middle, first, rest⟩ := Dictation.exists_of_andThen_eq_ok ending
      cases found : session.streamHeader (UInt64.ofNat index) with
      | error fault =>
          rw [dictateStream_of_fault found progress] at first
          cases first
      | ok header =>
          obtain rfl := streamHeader_eq_ok small suffix found
          obtain ⟨body, drawn, texts⟩ := texts_dictateStream found first
          change letters length.toNat progress.source = _ at drawn
          rw [Dictation.texts_andThen_of_ok first, texts,
            hypothesis laterSuffix rest, Plan.framesFrom_of_letters drawn,
            List.flatMap_cons]

theorem texts_dictation
    {session : Session Source}
    {progress : Progress Source}
    (small : session.plan.size ≤ 2 ^ 64)
    (ending : session.dictation.ending = .ok progress) :
    session.dictation.texts =
      (session.plan.frames session.idPrefix session.source ++
        [Frame.bare .hangup]).flatMap (Frame.writes session.pageSize) := by
  obtain ⟨later, streams, _⟩ := Dictation.exists_of_andThen_eq_ok ending
  have frames := texts_dictateFrom small
    (show session.plan.lengths.drop 0 = session.plan.lengths from rfl) streams
  unfold dictation
  rw [Dictation.texts_andThen_of_ok streams, List.flatMap_append]
  refine congrArg₂ _ frames ?_
  simp [Frame.writes, Frame.bare, Dictation.silent]

/-- With room for its ids and its sum and letters without end, a session
dictates every stream and counts it. -/
theorem exists_progress_of_yielded
    {session : Session Source}
    (ids : session.idPrefix.toNat + session.plan.size ≤ 2 ^ 64)
    (total : session.bytesSent.toNat + session.plan.letterCount < 2 ^ 64)
    (yielded : session.plan.YieldedBy session.source) :
    ∃ progress, session.dictation.ending = .ok progress := by
  have small : session.plan.size ≤ 2 ^ 64 :=
    Nat.le_trans (Nat.le_add_left _ _) ids
  rcases dictation_cases small with ⟨progress, ending, _⟩ | ⟨_, _, _, cause⟩
  · exact ⟨progress, ending⟩
  · rcases cause with ⟨_, broken⟩ | idBound | sumBound
    · exact absurd yielded broken
    · exact absurd ids (Nat.not_le.mpr idBound)
    · exact absurd total (Nat.not_lt.mpr sumBound)

/-- Otherwise it waits for a letter for ever. -/
theorem ending_of_not_yielded
    {session : Session Source}
    (ids : session.idPrefix.toNat + session.plan.size ≤ 2 ^ 64)
    (total : session.bytesSent.toNat + session.plan.letterCount < 2 ^ 64)
    (broken : ¬session.plan.YieldedBy session.source) :
    session.dictation.ending = .error .endless := by
  have small : session.plan.size ≤ 2 ^ 64 :=
    Nat.le_trans (Nat.le_add_left _ _) ids
  rcases dictation_cases small with
    ⟨_, _, _, yielded⟩ | ⟨halt, ending, _, cause⟩
  · exact absurd yielded broken
  · rcases cause with ⟨rfl, _⟩ | idBound | sumBound
    · exact ending
    · exact absurd ids (Nat.not_le.mpr idBound)
    · exact absurd total (Nat.not_lt.mpr sumBound)

/-- A session whose wait ends with a byte reports what it has sent. -/
theorem conclude_of_arrival
    {Source : Type}
    {session : Session Source}
    {value : UInt8}
    (arrives : (session.stream.awaitByte session.ackTimeout).1 =
      .byte value) :
    session.conclude.1 = .ok session.summary := by
  rw [conclude_eq, arrives]
  rfl

/-- On a stream that takes each write whole, a run carries out its dictation
text by text and goes on as that says. -/
theorem run_of_takesWhole
    {session : Session Source}
    (small : session.plan.size ≤ 2 ^ 64)
    (takesWhole : session.stream.script.TakesWhole
      (max Header.size session.pageSize.bytes.toNat)) :
    session.run =
      match session.dictation.ending with
      | .error halt =>
          (.error (.halted halt),
            session.stream.acceptAll session.dictation.texts)
      | .ok progress =>
          (session.resume progress
            (session.stream.acceptAll session.dictation.texts)).conclude := by
  have fits : ∀ text ∈ session.dictation.texts,
      1 ≤ text.length ∧
        text.length ≤ max Header.size session.pageSize.bytes.toNat := by
    intro text member
    apply Plan.bounds_of_mem_writeSizes
    exact (sized_dictation small).begun.subset (List.mem_map_of_mem member)
  rw [run_eq, Dictation.carryOut_of_takesWhole takesWhole fits]
  cases session.dictation.ending <;> rfl

/-- So its writes are the texts of its dictation, one for one. -/
theorem writesAlike_run_of_takesWhole
    {session : Session Source}
    (small : session.plan.size ≤ 2 ^ 64)
    (takesWhole : session.stream.script.TakesWhole
      (max Header.size session.pageSize.bytes.toNat)) :
    (session.stream.acceptAll session.dictation.texts).WritesAlike
      session.run.2 := by
  rw [run_of_takesWhole small takesWhole]
  cases session.dictation.ending with
  | error halt => exact .refl _
  | ok progress =>
      exact writesAlike_conclude
        (session.resume progress
          (session.stream.acceptAll session.dictation.texts))

end Session

/-- A run on a new connection has written a plan page by page: its writes are
those of a frame for each stream and of the hangup, and it reports all of the
plan. Their sizes do not depend on the source. -/
structure Plan.SentByPage
    {Source : Type} [WordSource Source]
    (plan : Plan)
    (idPrefix : UInt64)
    (source : Source)
    (pageSize : PageSize)
    (outcome : Except (Stop SessionError) SessionSummary × Stream) :
    Prop where
  writes :
    outcome.2.accepted.toList =
      (plan.frames idPrefix source ++ [Frame.bare .hangup]).flatMap
        (Frame.writes pageSize)
  attempts : outcome.2.attempts = outcome.2.accepted.size
  sizes :
    outcome.2.accepted.toList.map List.length = plan.writeSizes pageSize
  count : (plan.frames idPrefix source).length = plan.size
  frames :
    ∀ (index : Nat) (length : UInt64), plan.lengths[index]? = some length ->
      ∃ body,
        (plan.frames idPrefix source)[index]? =
            some { header := .data (idPrefix + UInt64.ofNat index) length
                   body } ∧
          body.length = length.toNat ∧
          ∀ letter ∈ body, IsLetter letter
  reported : ∃ total : UInt64,
    outcome.1 = .ok { idPrefix, streams := plan.size, bytes := total } ∧
      total.toNat = plan.letterCount

/-- All in all, the frames of the plan and the hangup have been sent. -/
theorem Plan.SentByPage.sent_eq
    {Source : Type} [WordSource Source]
    {plan : Plan}
    {idPrefix : UInt64}
    {source : Source}
    {pageSize : PageSize}
    {outcome : Except (Stop SessionError) SessionSummary × Stream}
    (byPage : plan.SentByPage idPrefix source pageSize outcome) :
    outcome.2.sent =
      Frame.encodeAll
        (plan.frames idPrefix source ++ [Frame.bare .hangup]) := by
  rw [Stream.sent, byPage.writes, Frame.encodeAll]
  generalize plan.frames idPrefix source ++ [Frame.bare .hangup] = frames
  induction frames with
  | nil => rfl
  | cons frame frames hypothesis =>
      rw [List.flatMap_cons, List.flatten_append, Frame.flatten_writes,
        hypothesis, List.flatMap_cons]

namespace Session

variable {Source : Type} [WordSource Source]

/-- On a new connection, a run has made a write for each text of its
dictation and no other attempt. -/
theorem accepted_run_of_takesWhole
    {session : Session Source}
    {script : Script}
    {incoming : List ReadItem}
    (fresh : session.stream = .start script incoming)
    (small : session.plan.size ≤ 2 ^ 64)
    (takesWhole : script.TakesWhole
      (max Header.size session.pageSize.bytes.toNat)) :
    session.run.2.accepted.toList = session.dictation.texts ∧
      session.run.2.attempts = session.run.2.accepted.size := by
  have alike := writesAlike_run_of_takesWhole small (fresh ▸ takesWhole)
  have accepted : session.run.2.accepted.toList = session.dictation.texts := by
    rw [alike.accepted, Stream.toList_accepted_acceptAll, fresh]
    simp [Stream.start]
  refine ⟨accepted, ?_⟩
  rw [alike.attempts, Stream.attempts_acceptAll, ← Array.length_toList,
    accepted, fresh]
  simp [Stream.start]

/-- A session started on a stream that takes each write whole and acknowledges
the hangup sends its plan by page, if its source yields all letters. -/
theorem sentByPage_run
    {script : Script}
    {incoming : List ReadItem}
    {idPrefix : UInt64}
    {plan : Plan}
    {source : Source}
    {options : SessionOptions}
    {session : Session Source}
    {value : UInt8}
    (started : start (.start script incoming) idPrefix plan source options =
      .ok session)
    (ids : idPrefix.toNat + plan.size ≤ 2 ^ 64)
    (total : plan.letterCount < 2 ^ 64)
    (takesWhole : script.TakesWhole
      (max Header.size session.pageSize.bytes.toNat))
    (acknowledged :
      ((Stream.start script incoming).awaitByte options.ackTimeout).1 =
        .byte value)
    (yielded : plan.YieldedBy source) :
    plan.SentByPage idPrefix source session.pageSize session.run := by
  obtain ⟨fresh, rfl, rfl, rfl, _, limit, unsent, noBytes⟩ :=
    startedWith_of_start started
  have small : session.plan.size ≤ 2 ^ 64 :=
    Nat.le_trans (Nat.le_add_left _ _) ids
  have fits : session.bytesSent.toNat + session.plan.letterCount < 2 ^ 64 := by
    simpa [noBytes] using total
  obtain ⟨progress, ending⟩ := exists_progress_of_yielded ids fits yielded
  obtain ⟨_, _, counted, summed⟩ := dictated_of_ending small ending
  obtain ⟨accepted, attempts⟩ :=
    accepted_run_of_takesWhole fresh small takesWhole
  let waiting := session.resume progress
    (session.stream.acceptAll session.dictation.texts)
  have incomingKept : waiting.stream.incoming = incoming := by
    change (session.stream.acceptAll session.dictation.texts).incoming = _
    rw [(session.stream.wroteOnly_acceptAll _).incoming, fresh]
    rfl
  have arrives :
      (waiting.stream.awaitByte waiting.ackTimeout).1 = .byte value := by
    change (Stream.awaitFrom session.ackTimeout .zero
      waiting.stream.incoming).1 = _
    rw [incomingKept, limit]
    exact acknowledged
  have reported : session.run.1 = .ok waiting.summary := by
    rw [run_of_takesWhole small (fresh ▸ takesWhole), ending]
    exact conclude_of_arrival arrives
  refine
    { writes := by rw [accepted, texts_dictation small ending]
      attempts
      sizes := by rw [accepted, (sized_dictation small).whole progress ending]
      count :=
        (Plan.transcriptFrom_eq_encodeAll yielded session.idPrefix 0).1
      frames := fun index length planned =>
        Plan.exists_frame_of_yielded yielded session.idPrefix planned
      reported := ⟨progress.bytesSent, ?_, by simpa [noBytes] using summed⟩ }
  rw [reported]
  simp [waiting, summary, resume, counted, unsent]

/-- If a letter is never drawn, the session waits for it for ever, behind the
first writes of the same sizes. -/
theorem waiting_run
    {script : Script}
    {incoming : List ReadItem}
    {idPrefix : UInt64}
    {plan : Plan}
    {source : Source}
    {options : SessionOptions}
    {session : Session Source}
    (started : start (.start script incoming) idPrefix plan source options =
      .ok session)
    (ids : idPrefix.toNat + plan.size ≤ 2 ^ 64)
    (total : plan.letterCount < 2 ^ 64)
    (takesWhole : script.TakesWhole
      (max Header.size session.pageSize.bytes.toNat))
    (broken : ¬plan.YieldedBy source) :
    session.run.1 = .error (.halted .endless) ∧
      session.run.2.accepted.toList.map List.length <+:
        plan.writeSizes session.pageSize := by
  obtain ⟨fresh, rfl, rfl, rfl, _, _, _, noBytes⟩ :=
    startedWith_of_start started
  have small : session.plan.size ≤ 2 ^ 64 :=
    Nat.le_trans (Nat.le_add_left _ _) ids
  have fits : session.bytesSent.toNat + session.plan.letterCount < 2 ^ 64 := by
    simpa [noBytes] using total
  have ending := ending_of_not_yielded ids fits broken
  have accepted := (accepted_run_of_takesWhole fresh small takesWhole).1
  refine ⟨?_, ?_⟩
  · rw [run_of_takesWhole small (fresh ▸ takesWhole), ending]
  · rw [accepted]
    exact (sized_dictation small).begun

/-- Whatever the source, the prefix, the plan and the size of a page, a session
on a stream that takes each write whole and acknowledges the hangup sends its
plan by page, or waits for a letter that is never drawn. A page that cannot be
held in memory keeps the session from being started. -/
theorem sentByPage_of_takesWhole
    {script : Script}
    {incoming : List ReadItem}
    {idPrefix : UInt64}
    {plan : Plan}
    {value : UInt8}
    (options : SessionOptions)
    (source : Source)
    (page : 1 ≤ options.pageSize.toNat)
    (ids : idPrefix.toNat + plan.size ≤ 2 ^ 64)
    (total : plan.letterCount < 2 ^ 64)
    (takesWhole : script.TakesWhole
      (max Header.size options.pageSize.toNat))
    (acknowledged :
      ((Stream.start script incoming).awaitByte options.ackTimeout).1 =
        .byte value) :
    (∃ session : Session Source,
      start (.start script incoming) idPrefix plan source options =
          .ok session ∧
        session.pageSize.bytes = options.pageSize ∧
        (plan.YieldedBy source ->
          plan.SentByPage idPrefix source session.pageSize session.run) ∧
        (¬plan.YieldedBy source ->
          session.run.1 = .error (.halted .endless) ∧
            session.run.2.accepted.toList.map List.length <+:
              plan.writeSizes session.pageSize)) ∨
      (2 ^ 63 ≤ options.pageSize.toNat ∧
        start (.start script incoming) idPrefix plan source options =
          .error .capacityOverflow) := by
  rcases PageSize.ofBytes_cases page with
    ⟨pageSize, found⟩ | ⟨large, overflow⟩
  · obtain ⟨session, started⟩ :=
      exists_start (.start script incoming) idPrefix plan source found
    have bytes :=
      PageSize.bytes_of_ofBytes (startedWith_of_start started).pageSize
    rw [← bytes] at takesWhole
    exact .inl ⟨session, started, bytes,
      sentByPage_run started ids total takesWhole acknowledged,
      waiting_run started ids total takesWhole⟩
  · refine .inr ⟨large, ?_⟩
    unfold start
    rw [overflow]

/-- Bodies of three bytes, of none and of two go out in pages of two, over a
stream that takes no more than a header at once, acknowledges late and cannot be
closed. -/
theorem sentByPage_smallPages :
    (⟨[3, 0, 2]⟩ : Plan).YieldedBy (KeyStream.seeded 7) ∧
      ∃ session : Session KeyStream,
        start
            (.start
              { Script.reliable with
                writeCap := some Header.size
                closeError := some (.ofKind .brokenPipe) }
              [.delay 3, .byte 9])
            5 ⟨[3, 0, 2]⟩ (.seeded 7)
            { pageSize := 2, ackTimeout := some (.ofMilliseconds 4) } =
          .ok session ∧
        session.run.1 = .ok { idPrefix := 5, streams := 3, bytes := 5 } ∧
        session.run.2.accepted.toList.map List.length =
          [26, 2, 1, 26, 26, 2, 26] := by
  have yielded : (⟨[3, 0, 2]⟩ : Plan).YieldedBy (KeyStream.seeded 7) :=
    isSome_letters_of_accepted (by decide +kernel)
  have takesWhole : ({ Script.reliable with
      writeCap := some Header.size
      closeError := some (.ofKind .brokenPipe) } : Script).TakesWhole
        (max Header.size 2) := by
    refine ⟨fun attempt => rfl, ?_⟩
    intro cap limited
    cases limited
    decide
  obtain ⟨session, started, bytes, sent, _⟩ | ⟨large, _⟩ :=
    sentByPage_of_takesWhole
      { pageSize := 2, ackTimeout := some (.ofMilliseconds 4) }
      (KeyStream.seeded 7) (by decide)
      (show (5 : UInt64).toNat + (⟨[3, 0, 2]⟩ : Plan).size ≤ 2 ^ 64 by decide)
      (by decide) takesWhole
      (show (Stream.awaitByte _ (.start _ [.delay 3, .byte 9])).1 = .byte 9
        from rfl)
  · have byPage := sent yielded
    obtain ⟨total, reported, summed⟩ := byPage.reported
    obtain rfl : total = 5 := UInt64.toNat_inj.mp summed
    refine ⟨yielded, session, started, reported, ?_⟩
    rw [byPage.sizes]
    unfold Plan.writeSizes PageSize.streamSizes PageSize.writeSizes
    rw [bytes]
    rfl
  · exact absurd large (by decide)

end Session
end StreamLoad
