import Mathlib.Data.List.Forall2
import StreamLoad.Proofs.Run.Barrier
import StreamLoad.Proofs.Run.CompletionOrder
import StreamLoad.Proofs.Session.Alike

/-!
# Workers do not disturb each other

What comes back to one worker behind its hangup changes nothing but how that
worker ends. Every connection of the run carries the same bytes, its own and
the one of the shutdown as well, every other worker ends in the same way, and
so does the shutdown.
-/

namespace StreamLoad

/-- Two attempts to connect fail alike, or meet counterparts that take writes
alike. -/
inductive MetAlike :
    Except TransportError Counterpart ->
      Except TransportError Counterpart -> Prop
  | unmet (cause : TransportError) : MetAlike (.error cause) (.error cause)
  | met
      {first second : Counterpart}
      (alike : first.script.WritesAlike second.script) :
      MetAlike (.ok first) (.ok second)

/-- In a run the networks differ at most in what comes back to one worker and
to the shutdown, and in how their connections close. -/
structure Network.AlikeBut
    (settings : Settings)
    (worker : Nat)
    (first second : Network) : Prop where
  siblings : ∀ index < settings.workers.toNat, index ≠ worker ->
    second (.worker (UInt64.ofNat index)) (settings.firstId index) =
      first (.worker (UInt64.ofNat index)) (settings.firstId index)
  own : MetAlike
    (first (.worker (UInt64.ofNat worker)) (settings.firstId worker))
    (second (.worker (UInt64.ofNat worker)) (settings.firstId worker))
  terminator : MetAlike (first .terminator 0) (second .terminator 0)

/-- Servers that react alike to all hangups but those of one worker. -/
theorem Server.alikeBut
    {settings : Settings}
    {worker : Nat}
    {first second : Server}
    (sound : settings.Sound)
    (inside : worker < settings.workers.toNat)
    (alike : ∀ firstId, firstId ≠ settings.firstId worker ->
      second.reaction firstId = first.reaction firstId) :
    Network.AlikeBut settings worker (Peer.listening first).network
      (Peer.listening second).network := by
  refine ⟨?_, .met (.refl _), .met (.refl _)⟩
  intro index indexInside different
  have apart : settings.firstId index ≠ settings.firstId worker := by
    intro same
    have positive := sound.maxStreams
    have room := sound.room indexInside
    have roomToo := sound.room inside
    have words := congrArg UInt64.toNat same
    rw [Settings.firstId, Settings.firstId,
      UInt64.toNat_ofNat_of_lt' (by unfold UInt64.size; omega),
      UInt64.toNat_ofNat_of_lt' (by unfold UInt64.size; omega)] at words
    exact different (sound.ids_inj positive positive
      (congrArg (· + 0) words)).1
  simp only [Peer.network, Peer.connect, alike _ apart]

namespace WorkerEnd

/-- How a worker ends that has sent its hangup: with its summary when a byte
comes back, and else by what comes back in place of it. -/
inductive HungUp
    (limit : Option Duration)
    (summary : SessionSummary) : WorkerEnd -> Prop
  | acknowledged : HungUp limit summary (.returned (.ok summary))
  | closed : HungUp limit summary (.returned (.error .ackClosed))
  | failed (cause : TransportError) :
      HungUp limit summary (.returned (.error (.ackRead cause)))
  | expired
      {bound : Duration}
      (limited : limit = some bound) :
      HungUp limit summary (.returned (.error (.ackTimeout bound)))
  | endless : HungUp limit summary .endless

/-- Two ends of a worker are the same, or both come behind its hangup. -/
inductive AlikeToHangup (limit : Option Duration) :
    WorkerEnd -> WorkerEnd -> Prop
  | same (ending : WorkerEnd) : AlikeToHangup limit ending ending
  | hungUp
      {first second : WorkerEnd}
      {summary : SessionSummary}
      (hungUp : HungUp limit summary first)
      (hungUpToo : HungUp limit summary second) :
      AlikeToHangup limit first second

theorem isAborted_of_hungUp
    {limit : Option Duration}
    {summary : SessionSummary}
    {ending : WorkerEnd}
    (hungUp : HungUp limit summary ending) : ending.isAborted = false := by
  cases hungUp <;> rfl

theorem AlikeToHangup.isAborted_eq
    {limit : Option Duration}
    {first second : WorkerEnd}
    (alike : AlikeToHangup limit first second) :
    second.isAborted = first.isAborted := by
  cases alike with
  | same => rfl
  | hungUp hungUp hungUpToo =>
      rw [isAborted_of_hungUp hungUp, isAborted_of_hungUp hungUpToo]

end WorkerEnd

/-- A session that concludes ends as one that has sent its hangup. -/
theorem Session.hungUp_conclude
    {Source : Type}
    (session : Session Source) :
    WorkerEnd.HungUp session.ackTimeout session.summary
      (.ofSession session.conclude.1) := by
  rw [conclude_eq]
  rcases session.stream.awaitByte session.ackTimeout with ⟨arrival, after⟩
  cases arrival with
  | byte value => exact .acknowledged
  | closed => exact .closed
  | failed error =>
      by_cases ended : error.kind = .unexpectedEof
      · simpa only [Arrival.verdict, if_pos ended] using .closed
      · simpa only [Arrival.verdict, if_neg ended] using .failed error
  | expired =>
      cases limited : session.ackTimeout with
      | none => exact .endless
      | some bound => exact .expired rfl
  | never => exact .endless

/-- Two runs of a session over streams that take writes alike write alike and
end alike up to the hangup. -/
theorem Session.alikeToHangup_run
    {Source : Type} [WordSource Source]
    {session : Session Source}
    {stream : Stream}
    (alike : session.stream.WritesAlike stream) :
    session.run.2.WritesAlike (session.withStream stream).run.2 ∧
      (WorkerEnd.ofSession session.run.1).AlikeToHangup session.ackTimeout
        (.ofSession (session.withStream stream).run.1) := by
  rcases session.run_withStream alike with
    ended | ⟨progress, after, afterToo, alike, ran, ranToo⟩
  · generalize session.run = outcome at ended ⊢
    generalize (session.withStream stream).run = other at ended ⊢
    cases ended with
    | intro result later => exact ⟨later, .same _⟩
  · rw [ran, ranToo]
    have wrote := (session.resume progress after).writesAlike_conclude
    have wroteToo := (session.resume progress afterToo).writesAlike_conclude
    exact ⟨wrote.symm.trans (alike.trans wroteToo),
      .hungUp (session.resume progress after).hungUp_conclude
        (session.resume progress afterToo).hungUp_conclude⟩

/-- Two records of a worker differ at most in what came back behind its
hangup. -/
structure WorkerRecord.AlikeToHangup
    (limit : Option Duration)
    (first second : WorkerRecord) : Prop where
  worker : second.worker = first.worker
  idPrefix : second.idPrefix = first.idPrefix
  plan : second.plan = first.plan
  connection : Option.Rel Stream.WritesAlike first.connection
    second.connection
  ending : first.ending.AlikeToHangup limit second.ending

/-- Two records of the shutdown differ at most in what came back, which is
never read. -/
structure TerminatorRecord.Alike (first second : TerminatorRecord) : Prop where
  connection : Option.Rel Stream.WritesAlike first.connection
    second.connection
  ending : second.ending = first.ending

/-- A relation that is reflexive stays so for values that may be missing. -/
theorem optionRel_refl
    {Value : Type}
    {related : Value -> Value -> Prop}
    (reflexive : ∀ value, related value value)
    (value : Option Value) : Option.Rel related value value := by
  cases value with
  | none => exact .none
  | some value => exact .some (reflexive value)

theorem WorkerRecord.AlikeToHangup.refl
    (limit : Option Duration)
    (record : WorkerRecord) : record.AlikeToHangup limit record :=
  ⟨rfl, rfl, rfl, optionRel_refl .refl record.connection, .same record.ending⟩

namespace Settings

variable {Source : Type}

/-- The shutdown ends alike when it meets counterparts that take writes
alike. -/
theorem alike_runTerminator
    {settings : Settings}
    {first second : Network}
    (source : Source)
    (met : MetAlike (first .terminator 0) (second .terminator 0)) :
    (settings.runTerminator first source).Alike
      (settings.runTerminator second source) := by
  unfold runTerminator
  generalize first .terminator 0 = attempt at met ⊢
  generalize second .terminator 0 = other at met ⊢
  cases met with
  | unmet cause => exact ⟨.none, rfl⟩
  | @met counterpart another alike =>
      have streams : counterpart.stream.WritesAlike another.stream :=
        ⟨alike, rfl, rfl⟩
      dsimp only
      rw [Session.start_withStream counterpart.stream another.stream]
      cases started : Session.start counterpart.stream 0 .empty source
        settings.sessionOptions with
      | error fault => exact ⟨.some streams, rfl⟩
      | ok session =>
          have fresh := Session.startedWith_of_start started
          rw [← fresh.stream] at streams
          have ended := session.endAlike_shutdown streams
          dsimp only [Except.map]
          generalize session.shutdown = outcome at ended ⊢
          generalize (session.withStream another.stream).shutdown = outcomeToo
            at ended ⊢
          cases ended with
          | intro result later => exact ⟨.some later, rfl⟩

variable [WordSource Source]

/-- A worker does the same up to its hangup when it meets counterparts that
take writes alike. -/
theorem alikeToHangup_runWorker
    {settings : Settings}
    {announced : Bool}
    {first second : Network}
    {worker idPrefix : UInt64}
    {source : Source}
    (met : MetAlike (first (.worker worker) idPrefix)
      (second (.worker worker) idPrefix)) :
    (settings.runWorker announced first worker idPrefix source).AlikeToHangup
      settings.ackTimeout
      (settings.runWorker announced second worker idPrefix source) := by
  unfold runWorker
  dsimp only
  rcases Plan.draw settings.limits source with ⟨halt | plan, later⟩
  · cases halt <;> exact .refl _ _
  · dsimp only
    cases announce announced plan with
    | error fault => exact .refl _ _
    | ok =>
        generalize first (.worker worker) idPrefix = attempt at met ⊢
        generalize second (.worker worker) idPrefix = other at met ⊢
        cases met with
        | unmet cause => exact .refl _ _
        | @met counterpart another alike =>
            have streams : counterpart.stream.WritesAlike another.stream :=
              ⟨alike, rfl, rfl⟩
            dsimp only
            rw [Session.start_withStream counterpart.stream another.stream]
            cases started : Session.start counterpart.stream idPrefix plan
              later settings.sessionOptions with
            | error fault =>
                exact ⟨rfl, rfl, rfl, .some streams, .same _⟩
            | ok session =>
                have fresh := Session.startedWith_of_start started
                rw [← fresh.stream] at streams
                obtain ⟨wrote, ended⟩ := Session.alikeToHangup_run streams
                rw [fresh.ackTimeout] at ended
                exact ⟨rfl, rfl, rfl, .some wrote, ended⟩

end Settings

/-- Two outcomes are the same, or belong to a worker that has sent its hangup in
both runs. -/
structure Outcome.AlikeBut
    (limit : Option Duration)
    (affected : UInt64)
    (first second : Outcome) : Prop where
  worker : second.worker = first.worker
  idPrefix : second.idPrefix = first.idPrefix
  result : second.result = first.result ∨
    first.worker = affected ∧ ∃ summary,
      WorkerEnd.HungUp limit summary (.returned first.result) ∧
        WorkerEnd.HungUp limit summary (.returned second.result)

/-- Two reports tell the same of all workers but one. -/
structure Report.AlikeBut
    (limit : Option Duration)
    (affected : UInt64)
    (first second : Report) : Prop where
  outcomes : List.Forall₂ (Outcome.AlikeBut limit affected) first.outcomes
    second.outcomes
  aborted : second.aborted = first.aborted
  shutdownSent : second.shutdownSent = first.shutdownSent

/-- Two runs end in the same way, or finish with reports that tell the same of
all workers but one. A report whose counts need more than 64 bits finishes its
run with a fault if someone looks at them. -/
inductive RunEnd.AlikeBut
    (watched : Event -> Bool)
    (limit : Option Duration)
    (affected : UInt64) : RunEnd -> RunEnd -> Prop
  | same (ending : RunEnd) : AlikeBut watched limit affected ending ending
  | reported
      {first second : Report}
      (alike : first.AlikeBut limit affected second) :
      AlikeBut watched limit affected (first.finish watched)
        (second.finish watched)

theorem Outcome.AlikeBut.refl
    (limit : Option Duration)
    (affected : UInt64)
    (outcome : Outcome) : outcome.AlikeBut limit affected outcome :=
  ⟨rfl, rfl, .inl rfl⟩

/-- A worker that has sent its hangup and ends at all returns. -/
theorem WorkerEnd.HungUp.exists_returned
    {limit : Option Duration}
    {summary : SessionSummary}
    {ending : WorkerEnd}
    (hungUp : HungUp limit summary ending)
    (ends : ending ≠ .endless) : ∃ result, ending = .returned result := by
  cases hungUp with
  | endless => exact absurd rfl ends
  | acknowledged => exact ⟨_, rfl⟩
  | closed => exact ⟨_, rfl⟩
  | failed cause => exact ⟨_, rfl⟩
  | expired limited => exact ⟨_, rfl⟩

/-- Workers that are alike up to the hangup have outcomes that are. -/
theorem WorkerRecord.AlikeToHangup.outcome
    {limit : Option Duration}
    {first second : WorkerRecord}
    (alike : first.AlikeToHangup limit second)
    (ends : first.ending ≠ .endless)
    (endsToo : second.ending ≠ .endless) :
    Option.Rel (Outcome.AlikeBut limit first.worker)
      (first.arrival?.bind Report.Arrival.outcome?)
      (second.arrival?.bind Report.Arrival.outcome?) := by
  obtain ⟨owner, idPrefix, plan, connection, ending⟩ := first
  obtain ⟨_, _, _, connectionToo, endingToo⟩ := second
  obtain ⟨rfl, rfl, rfl, _, alikeEnds⟩ := alike
  cases alikeEnds with
  | same => exact optionRel_refl (Outcome.AlikeBut.refl limit _) _
  | hungUp hungUp hungUpToo =>
      obtain ⟨result, rfl⟩ := hungUp.exists_returned ends
      obtain ⟨resultToo, rfl⟩ := hungUpToo.exists_returned endsToo
      exact .some ⟨rfl, rfl, .inr ⟨rfl, _, hungUp, hungUpToo⟩⟩

/-- Runs end alike whose reports and shutdowns are alike. -/
theorem Report.AlikeBut.runEnd
    {limit : Option Duration}
    {worker : UInt64}
    {first second : Report}
    {terminator terminatorToo : Option TerminatorRecord}
    (alike : first.AlikeBut limit worker second)
    (terminators : Option.Rel TerminatorRecord.Alike terminator
      terminatorToo)
    (watched : Event -> Bool) :
    RunEnd.AlikeBut watched limit worker (first.runEnd watched terminator)
      (second.runEnd watched terminatorToo) := by
  cases terminators with
  | none => exact .reported alike
  | @some left right same =>
      unfold Report.runEnd
      dsimp only
      rw [same.ending]
      rcases left.ending with (error | fault | ⟨⟩) | ⟨⟩
      · exact .same _
      · exact .same _
      · exact .same _
      · exact .reported ⟨alike.outcomes, alike.aborted, rfl⟩

namespace Schedule

/-- Tasks whose connections are alike send the same. -/
theorem flatMap_bytes_of_alike
    {first second : Option Stream}
    (alike : Option.Rel Stream.WritesAlike first second) :
    (connectionActions second).flatMap Action.bytes =
      (connectionActions first).flatMap Action.bytes := by
  rw [flatMap_bytes_connectionActions, flatMap_bytes_connectionActions]
  cases alike with
  | none => rfl
  | some alike => exact alike.sent_eq

/-- Workers that are alike up to the hangup send the same. -/
theorem flatMap_bytes_workerActions
    {limit : Option Duration}
    {first second : WorkerRecord}
    (alike : first.AlikeToHangup limit second) :
    (workerActions second).flatMap Action.bytes =
      (workerActions first).flatMap Action.bytes := by
  rw [workerActions, workerActions, alike.plan]
  cases first.plan with
  | none => rfl
  | some plan => exact flatMap_bytes_of_alike alike.connection

end Schedule

namespace Scenario

open Schedule

variable {Source : Type}

/-- The run over another network. -/
def withNetwork
    (scenario : Scenario Source)
    (network : Network) : Scenario Source :=
  { scenario with network }

variable {scenario : Scenario Source}
variable {network : Network}
variable {worker : Nat}

theorem alike_terminator?
    (alike : Network.AlikeBut scenario.settings worker scenario.network
      network) :
    Option.Rel TerminatorRecord.Alike
      (scenario.settings.terminator? scenario.network scenario.sourceOf)
      (scenario.settings.terminator? network scenario.sourceOf) := by
  unfold Settings.terminator?
  cases scenario.settings.shutdown with
  | true => exact .some (Settings.alike_runTerminator _ alike.terminator)
  | false => exact .none

variable [WordSource Source]

/-- A worker that is told nothing else does nothing else. -/
theorem record_withNetwork_of_sibling
    {index : Nat}
    (alike : Network.AlikeBut scenario.settings worker scenario.network network)
    (inside : index < scenario.settings.workers.toNat)
    (different : index ≠ worker) :
    (scenario.withNetwork network).record index = scenario.record index := by
  have met := alike.siblings index inside different
  unfold record withNetwork Settings.workerRecord Settings.runWorker
  dsimp only
  rw [met]

theorem alikeToHangup_record
    (alike : Network.AlikeBut scenario.settings worker scenario.network
      network) :
    (scenario.record worker).AlikeToHangup scenario.settings.ackTimeout
      ((scenario.withNetwork network).record worker) :=
  Settings.alikeToHangup_runWorker alike.own

/-- The reports of both runs tell the same of all workers but one. -/
theorem alikeBut_collect
    (alike : Network.AlikeBut scenario.settings worker scenario.network network)
    (ends : ∀ index < scenario.settings.workers.toNat,
      (scenario.record index).ending ≠ .endless)
    (endsToo : ∀ index < scenario.settings.workers.toNat,
      ((scenario.withNetwork network).record index).ending ≠ .endless) :
    (Report.collect scenario.arrivals).AlikeBut scenario.settings.ackTimeout
      (UInt64.ofNat worker)
      (Report.collect (scenario.withNetwork network).arrivals) := by
  have workers : (scenario.withNetwork network).settings.workers =
      scenario.settings.workers := rfl
  rw [collect_arrivals, collect_arrivals, workers]
  refine ⟨?_, ?_, rfl⟩
  · have pairs : List.Forall₂
        (fun left right =>
          left = right ∧ left < scenario.settings.workers.toNat)
        (List.range scenario.settings.workers.toNat)
        (List.range scenario.settings.workers.toNat) :=
      List.forall₂_same.mpr fun index member =>
        ⟨rfl, List.mem_range.mp member⟩
    refine List.rel_filterMap ?_ pairs
    rintro index _ ⟨rfl, inside⟩
    by_cases own : index = worker
    · subst own
      have owner : (scenario.record index).worker = UInt64.ofNat index :=
        (Settings.runWorker_worked _ _ _ _ _ _).owner.1
      rw [← owner]
      exact (alikeToHangup_record alike).outcome (ends _ inside)
        (endsToo _ inside)
    · unfold outcome?
      rw [record_withNetwork_of_sibling alike inside own]
      exact optionRel_refl (.refl _ _) _
  · apply List.countP_congr
    intro index member
    have inside := List.mem_range.mp member
    by_cases own : index = worker
    · subst own
      rw [(alikeToHangup_record alike).ending.isAborted_eq]
    · rw [record_withNetwork_of_sibling alike inside own]

/-- Both runs end in the same way, but for what they report of one worker. -/
theorem alikeBut_ending_run
    {list : List (UInt64 × UInt64)}
    (assigns : scenario.settings.assignments = .ok list)
    (alike : Network.AlikeBut scenario.settings worker scenario.network network)
    (ends : ∀ index < scenario.settings.workers.toNat,
      (scenario.record index).ending ≠ .endless)
    (endsToo : ∀ index < scenario.settings.workers.toNat,
      ((scenario.withNetwork network).record index).ending ≠ .endless) :
    RunEnd.AlikeBut scenario.watched scenario.settings.ackTimeout
      (UInt64.ofNat worker) scenario.run.ending
      (scenario.withNetwork network).run.ending := by
  have ran := Settings.run_of_arrivals assigns (map_arrival?_of_ends ends)
  have ranToo : (scenario.withNetwork network).run = _ :=
    Settings.run_of_arrivals assigns (map_arrival?_of_ends endsToo)
  rw [run, ran, ranToo]
  exact (alikeBut_collect alike ends endsToo).runEnd (alike_terminator? alike)
    scenario.watched

/-- A schedule that has joined every worker has done all that each of them
does. -/
theorem actionsBy_worker_of_allJoined
    {state : State}
    {index : Nat}
    (holds : scenario.Holds state)
    (all : scenario.AllJoined state)
    (inside : index < scenario.settings.workers.toNat) :
    state.actionsBy (.worker index) =
      workerActions (scenario.record index) := by
  rw [← all.count] at inside
  have taskHolds := holds.tasks index _ (List.getElem?_eq_getElem inside)
  have done := holds.ended_of_allJoined all _ (List.getElem_mem inside)
  have acted := taskHolds.acted
  rw [done.2.1, List.append_nil, taskHolds.record_eq] at acted
  exact acted

/-- Every worker of a run whose workers all end has an end to report. -/
theorem arrives_of_ends
    {state : State}
    (holds : scenario.Holds state)
    (ends : ∀ index < scenario.settings.workers.toNat,
      (scenario.record index).ending ≠ .endless) :
    ∀ task ∈ state.tasks, task.record.arrival?.isSome := by
  intro task member
  obtain ⟨index, found⟩ := List.mem_iff_getElem?.mp member
  have taskHolds := holds.tasks index task found
  rw [taskHolds.record_eq]
  exact WorkerRecord.isSome_arrival? (ends index taskHolds.inside)

/-- When both runs have come to their ends, everyone has sent the same. -/
theorem sentBy_withNetwork
    {list : List (UInt64 × UInt64)}
    {before after : State}
    (assigns : scenario.settings.assignments = .ok list)
    (alike : Network.AlikeBut scenario.settings worker scenario.network network)
    (ends : ∀ index < scenario.settings.workers.toNat,
      (scenario.record index).ending ≠ .endless)
    (endsToo : ∀ index < scenario.settings.workers.toNat,
      ((scenario.withNetwork network).record index).ending ≠ .endless)
    (completed : scenario.Completed before)
    (completedToo : (scenario.withNetwork network).Completed after)
    (actor : Actor) : after.sentBy actor = before.sentBy actor := by
  have holds := holds_of_reachable completed.1
  have holdsToo := holds_of_reachable completedToo.1
  obtain ⟨all, last⟩ := allJoined_of_stuck holds assigns
    (arrives_of_ends holds ends) completed.2
  obtain ⟨allToo, lastToo⟩ := allJoined_of_stuck holdsToo assigns
    (arrives_of_ends holdsToo endsToo) completedToo.2
  unfold State.sentBy
  cases actor with
  | terminator =>
      have terminators := alike_terminator? alike
      rw [last, lastToo]
      dsimp only [withNetwork]
      generalize scenario.settings.terminator? scenario.network
        scenario.sourceOf = terminator at terminators ⊢
      generalize scenario.settings.terminator? network scenario.sourceOf =
        terminatorToo at terminators ⊢
      cases terminators with
      | none => rfl
      | some same => exact flatMap_bytes_of_alike same.connection
  | worker index =>
      rcases Nat.lt_or_ge index scenario.settings.workers.toNat with
        inside | beyond
      · rw [actionsBy_worker_of_allJoined holds all inside,
          actionsBy_worker_of_allJoined holdsToo allToo inside]
        by_cases own : index = worker
        · subst own
          exact flatMap_bytes_workerActions (alikeToHangup_record alike)
        · rw [record_withNetwork_of_sibling alike inside own]
      · rw [holds.idle index (all.count ▸ beyond),
          holdsToo.idle index (allToo.count ▸ beyond)]

/-- One worker is isolated from the rest of a run: over another network every
other worker has the same record and the shutdown does the same. In all
schedules that come to their ends everyone sends the same bytes, and the runs
end in the same way but for what they report of the one worker. -/
structure Isolates
    (scenario : Scenario Source)
    (worker : Nat)
    (network : Network) : Prop where
  siblings : ∀ index < scenario.settings.workers.toNat, index ≠ worker ->
    (scenario.withNetwork network).record index = scenario.record index
  own : (scenario.record worker).AlikeToHangup scenario.settings.ackTimeout
    ((scenario.withNetwork network).record worker)
  terminator : Option.Rel TerminatorRecord.Alike
    (scenario.settings.terminator? scenario.network scenario.sourceOf)
    (scenario.settings.terminator? network scenario.sourceOf)
  sent : ∀ before after, scenario.Completed before ->
    (scenario.withNetwork network).Completed after ->
      ∀ actor, after.sentBy actor = before.sentBy actor
  ended : ∀ (before after : State) (ending endingToo : RunEnd),
    scenario.Completed before ->
      (scenario.withNetwork network).Completed after ->
        before.phase = .finished ending -> after.phase = .finished endingToo ->
          RunEnd.AlikeBut scenario.watched scenario.settings.ackTimeout
            (UInt64.ofNat worker) ending endingToo
  ran : RunEnd.AlikeBut scenario.watched scenario.settings.ackTimeout
    (UInt64.ofNat worker) scenario.run.ending
    (scenario.withNetwork network).run.ending
  completes : (∃ before, scenario.Completed before) ∧
    ∃ after, (scenario.withNetwork network).Completed after

/-- Whatever comes back to one worker behind its hangup, it disturbs nobody
else, as long as every worker ends. -/
theorem isolates_of_alikeBut
    {line : CommandLine}
    {file : SettingsFile}
    (resolved : Settings.resolve line file = .ok scenario.settings)
    (alike : Network.AlikeBut scenario.settings worker scenario.network network)
    (ends : ∀ index < scenario.settings.workers.toNat,
      (scenario.record index).ending ≠ .endless)
    (endsToo : ∀ index < scenario.settings.workers.toNat,
      ((scenario.withNetwork network).record index).ending ≠ .endless) :
    scenario.Isolates worker network := by
  have assigns :=
    Settings.assignments_of_sound (Settings.sound_of_resolve resolved)
  have ran := alikeBut_ending_run assigns alike ends endsToo
  refine ⟨?_, alikeToHangup_record alike, alike_terminator? alike, ?_, ?_, ran,
    scenario.exists_completed,
    (scenario.withNetwork network).exists_completed⟩
  · intro index inside different
    exact record_withNetwork_of_sibling alike inside different
  · intro before after completed completedToo actor
    exact sentBy_withNetwork assigns alike ends endsToo completed completedToo
      actor
  · intro before after ending endingToo completed completedToo finished
      finishedToo
    rw [ending_of_finished (holds_of_reachable completed.1) finished,
      ending_of_finished (holds_of_reachable completedToo.1) finishedToo]
    exact ran

/-- A run of two workers with one stream of one letter each, over a server. -/
def paired (server : Server) : Scenario KeyStream :=
  { settings := { Settings.smallest with workers := 2 }
    watched := fun _ => true
    network := (Peer.listening server).network
    sourceOf := fun _ => .seeded 2 }

/-- A server that closes on the hangup of the second worker. -/
def closing : Server :=
  { reactions := [(10000, .close)], otherwise := .send [1] }

/-- A worker ends that hears a byte or finds the connection closed. -/
theorem ends_paired
    {server : Server}
    {index : Nat}
    (inside : index < 2)
    (hears : (server.reaction ((paired server).settings.firstId index)).incoming
      ∈ [[.byte 1], [.closed]]) :
    ((paired server).record index).ending ≠ .endless := by
  have page : PageSize.ofBytes (paired server).settings.pageSize =
      .ok .standard := by rfl
  have narrow : ((paired server).settings.firstId index).toNat + 1 ≤
      2 ^ 64 := by
    have stride : (paired server).settings.idStride.toNat = 10000 := by rfl
    rw [Settings.firstId, stride,
      UInt64.toNat_ofNat_of_lt' (by unfold UInt64.size; omega)]
    omega
  have met : (paired server).network (.worker (UInt64.ofNat index))
      ((paired server).settings.firstId index) =
        Peer.connect ((paired server).settings.firstId index)
          (.listening server) := by rfl
  have announces : Settings.announce ((paired server).watched .clientRunning)
      ⟨[1]⟩ = .ok () := by rfl
  obtain ⟨session, incoming, _, ran⟩ :=
    Settings.exists_conclude_of_takesAll Settings.draw_smallest
      Settings.yielded_smallest announces narrow (by decide) page met
      Script.takesAll_reliable
  have ended : ((paired server).record index).ending =
      .ofSession session.conclude.1 := congrArg WorkerRecord.ending ran
  change session.stream.incoming = (server.reaction
    ((paired server).settings.firstId index)).incoming at incoming
  rw [ended, Session.conclude_eq]
  unfold Stream.awaitByte
  rw [incoming]
  rcases List.mem_pair.mp hears with byte | closed
  · rw [byte]
    intro endless
    cases endless
  · rw [closed]
    intro endless
    cases endless

theorem isolates_paired :
    Settings.resolve .empty { Settings.smallestFile with workers := some 2 } =
        .ok (paired .obliging).settings ∧
      Network.AlikeBut (paired .obliging).settings 1
        (paired .obliging).network (paired closing).network ∧
      (∀ index < (paired .obliging).settings.workers.toNat,
        ((paired .obliging).record index).ending ≠ .endless) ∧
      (∀ index < (paired closing).settings.workers.toNat,
        ((paired closing).record index).ending ≠ .endless) ∧
      (paired .obliging).Isolates 1 (paired closing).network := by
  have resolved : Settings.resolve .empty
      { Settings.smallestFile with workers := some 2 } =
        .ok (paired .obliging).settings := by rfl
  have ends : ∀ index < (paired .obliging).settings.workers.toNat,
      ((paired .obliging).record index).ending ≠ .endless := by
    intro index inside
    exact ends_paired inside
      (by simp [Server.reaction, Server.obliging, Reaction.incoming])
  have endsToo : ∀ index < (paired closing).settings.workers.toNat,
      ((paired closing).record index).ending ≠ .endless := by
    intro index inside
    obtain rfl | rfl : index = 0 ∨ index = 1 := by
      have bound : index < 2 := inside
      omega
    · exact ends_paired inside (by decide)
    · exact ends_paired inside (by decide)
  have alike : Network.AlikeBut (paired .obliging).settings 1
      (paired .obliging).network (paired closing).network := by
    refine Server.alikeBut (Settings.sound_of_resolve resolved) (by decide) ?_
    intro firstId different
    have apart : firstId ≠ 10000 := different
    simp [Server.reaction, Server.obliging, closing, List.lookup_cons,
      beq_false_of_ne apart]
  exact ⟨resolved, alike, ends, endsToo,
    isolates_of_alikeBut resolved alike ends endsToo⟩

end Scenario
end StreamLoad
