import StreamLoad.Proofs.Run.Reported
import StreamLoad.Proofs.Run.Seeding
import StreamLoad.Proofs.Run.Verdict
import StreamLoad.Proofs.Settings.Precedence

/-!
# How the program exits

The program comes to its end through phases: it reads its settings, chooses its
log filter, and runs. The exit tells of the first phase that matters. Without
settings there is no run, and so no connection. Behind them the run decides, and
the program succeeds only when every worker has succeeded and the shutdown, if
there is to be one, has been sent.
-/

namespace StreamLoad

/-- The settings file of a command line: an empty one unless one is named, and
else the one that is read at the path. -/
inductive CommandLine.Reads
    (line : CommandLine)
    (files : String -> Except TransportError String) : SettingsFile -> Prop
  | unnamed
      (unnamed : line.configPath = none) : line.Reads files .empty
  | named
      {path document : String}
      {file : SettingsFile}
      (named : line.configPath = some path)
      (readable : files path = .ok document)
      (wellFormed : SettingsFile.parse? document = some file) :
      line.Reads files file

namespace CommandLine

variable {line : CommandLine}
variable {files : String -> Except TransportError String}

theorem readSettings_eq_ok_iff {file : SettingsFile} :
    line.readSettings files = .ok file ↔ line.Reads files file := by
  refine ⟨?_, ?_⟩
  · intro read
    unfold readSettings at read
    split at read
    next unnamed =>
      cases read
      exact .unnamed unnamed
    next path named =>
      split at read
      next => cases read
      next document readable =>
        split at read
        next found wellFormed =>
          cases read
          exact .named named readable wellFormed
        next => cases read
  · intro reads
    unfold readSettings
    cases reads with
    | unnamed unnamed => rw [unnamed]
    | named named readable wellFormed =>
        rw [named]
        dsimp only
        rw [readable]
        dsimp only
        rw [wellFormed]

/-- Settings are loaded exactly when the file is read and what it comes to with
the command line keeps every rule. -/
theorem load_eq_ok_iff {settings : Settings} :
    line.load files = .ok settings ↔
      ∃ file,
        line.Reads files file ∧
          settings = Settings.merge line file ∧
          settings.Sound := by
  refine ⟨?_, ?_⟩
  · intro loaded
    unfold load at loaded
    split at loaded
    next => cases loaded
    next file read =>
      exact ⟨file, readSettings_eq_ok_iff.mp read,
        Settings.eq_merge_of_resolve loaded,
        Settings.sound_of_resolve loaded⟩
  · rintro ⟨file, reads, rfl, sound⟩
    unfold load
    rw [readSettings_eq_ok_iff.mpr reads]
    unfold Settings.resolve
    dsimp only
    rw [Settings.violation?_eq_none_iff.mpr sound]

end CommandLine

namespace Surroundings

/-- The run of the program with some settings. Without a log filter nothing is
watched. -/
def scenario
    (surroundings : Surroundings)
    (settings : Settings) : Scenario KeyStream :=
  let watched :=
    match LogFilter.choose surroundings.logFilter settings.logLevel with
    | .ok filter => filter.passes
    | .error _ => fun _ => false
  settings.scenario watched surroundings.network surroundings.entropy

/-- How the program exits that has been started with a command line. -/
structure Exits
    (surroundings : Surroundings)
    (line : CommandLine) : Prop where
  status :
    (surroundings.run.ending = .success ∧
        surroundings.run.ending.status? = some 0) ∨
      (∃ error,
        surroundings.run.ending = .failure error ∧
          surroundings.run.ending.status? = some 1) ∨
      ∃ settings fault,
        line.load surroundings.files = .ok settings ∧
          LogFilter.choose surroundings.logFilter settings.logLevel =
            .error fault ∧
          surroundings.run =
            { ending := .fault fault, run := none, events := [] }
  succeeds : surroundings.run.ending = .success ↔
    ∃ file settings record,
      line.Reads surroundings.files file ∧
        settings = Settings.merge line file ∧
        settings.Sound ∧
        surroundings.run.run = some record ∧
        record.AllSucceed ∧
        record.SendsShutdown settings
  misconfigured : ∀ error,
    line.load surroundings.files = .error error ->
      surroundings.run =
        { ending := .failure (.settings error), run := none, events := [] }
  shutdownFailed : ∀ settings record,
    line.load surroundings.files = .ok settings ->
      surroundings.run.run = some record ->
        ¬record.SendsShutdown settings ->
          ∃ terminator error,
            record.terminator = some terminator ∧
              terminator.ending = .error (.failed error) ∧
              surroundings.run.ending = .failure (.shutdown error)
  workersFailed : ∀ settings record,
    line.load surroundings.files = .ok settings ->
      surroundings.run.run = some record ->
        record.SendsShutdown settings ->
          surroundings.run.ending ≠ .success ->
            ∃ failed,
              1 ≤ failed ∧
                failed = record.failures ∧
                surroundings.run.ending =
                  .failure (.workersFailed failed settings.workers.toNat) ∧
                (ProgramError.workersFailed failed
                    settings.workers.toNat).shape =
                  quoted (toString failed ++ " of " ++
                    toString settings.workers.toNat ++ " workers failed")
  scheduled : ∀ settings record,
    line.load surroundings.files = .ok settings ->
      surroundings.run.run = some record ->
        record = (surroundings.scenario settings).run ∧
          record.workers.length = settings.workers.toNat ∧
          ∀ state ending, (surroundings.scenario settings).Reachable state ->
            state.phase = .finished ending ->
              surroundings.run.ending = ending.programEnd

section Phases

variable {surroundings : Surroundings} {line : CommandLine}

/-- Without settings there is no run. -/
theorem run_of_misconfigured
    {error : SettingsError}
    (accepted : CommandLine.parse surroundings.arguments = .ok line)
    (failed : line.load surroundings.files = .error error) :
    surroundings.run =
      { ending := .failure (.settings error), run := none, events := [] } := by
  unfold run
  rw [accepted]
  dsimp only
  rw [failed]

/-- A log filter that cannot be read without a fault ends the program before the
run. -/
theorem run_of_unfiltered
    {settings : Settings}
    {fault : Fault}
    (accepted : CommandLine.parse surroundings.arguments = .ok line)
    (loaded : line.load surroundings.files = .ok settings)
    (unread : LogFilter.choose surroundings.logFilter settings.logLevel =
      .error fault) :
    surroundings.run =
      { ending := .fault fault, run := none, events := [] } := by
  unfold run
  rw [accepted]
  dsimp only
  rw [loaded]
  dsimp only
  rw [runWith, unread]

/-- A program that has its settings and its log filter exits as its run ends. -/
theorem run_of_choose
    {settings : Settings}
    {filter : LogFilter}
    (accepted : CommandLine.parse surroundings.arguments = .ok line)
    (loaded : line.load surroundings.files = .ok settings)
    (chosen : LogFilter.choose surroundings.logFilter settings.logLevel =
      .ok filter) :
    surroundings.run.run = some (surroundings.scenario settings).run ∧
      surroundings.run.ending =
        (surroundings.scenario settings).run.ending.programEnd := by
  unfold run
  rw [accepted]
  dsimp only
  rw [loaded]
  dsimp only
  unfold runWith scenario
  rw [chosen]
  refine ⟨rfl, ?_⟩
  unfold runFiltered RunEnd.programEnd
  rfl

/-- A program that does not come to its run tells of no worker and no
shutdown. -/
theorem exits_of_unrun
    {ending : ProgramEnd}
    (ran : surroundings.run = { ending, run := none, events := [] })
    (status : (∃ error, ending = .failure error ∧ ending.status? = some 1) ∨
      ∃ settings fault,
        line.load surroundings.files = .ok settings ∧
          LogFilter.choose surroundings.logFilter settings.logLevel =
            .error fault ∧
          ending = .fault fault)
    (misconfigured : ∀ error,
      line.load surroundings.files = .error error ->
        ending = .failure (.settings error)) :
    surroundings.Exits line := by
  have ended : surroundings.run.ending = ending :=
    congrArg ProgramRecord.ending ran
  have unrun : ∀ record, surroundings.run.run ≠ some record := by
    intro record runs
    rw [ran] at runs
    cases runs
  refine
    { status := ?_
      succeeds := iff_of_false ?_ ?_
      misconfigured := ?_
      shutdownFailed := ?_
      workersFailed := ?_
      scheduled := ?_ }
  · rw [ended]
    rcases status with failed | ⟨settings, fault, loaded, unread, rfl⟩
    · exact .inr (.inl failed)
    · exact .inr (.inr ⟨settings, fault, loaded, unread, ran⟩)
  · rw [ended]
    intro succeeds
    rcases status with ⟨_, rfl, _⟩ | ⟨_, _, _, _, rfl⟩ <;> cases succeeds
  · rintro ⟨_, _, record, _, _, _, runs, _⟩
    exact unrun record runs
  · intro error failed
    rw [ran, misconfigured error failed]
  · intro settings record loaded runs
    exact absurd runs (unrun record)
  · intro settings record loaded runs
    exact absurd runs (unrun record)
  · intro settings record loaded runs
    exact absurd runs (unrun record)

theorem exits_of_misconfigured
    {error : SettingsError}
    (accepted : CommandLine.parse surroundings.arguments = .ok line)
    (failed : line.load surroundings.files = .error error) :
    surroundings.Exits line := by
  refine exits_of_unrun (run_of_misconfigured accepted failed)
    (.inl ⟨.settings error, rfl, rfl⟩) ?_
  intro other fails
  rw [failed] at fails
  cases fails
  rfl

theorem exits_of_unfiltered
    {settings : Settings}
    {fault : Fault}
    (accepted : CommandLine.parse surroundings.arguments = .ok line)
    (loaded : line.load surroundings.files = .ok settings)
    (unread : LogFilter.choose surroundings.logFilter settings.logLevel =
      .error fault) :
    surroundings.Exits line := by
  refine exits_of_unrun (run_of_unfiltered accepted loaded unread)
    (.inr ⟨settings, fault, loaded, unread, rfl⟩) ?_
  intro error failed
  rw [loaded] at failed
  cases failed

/-- With settings and a log filter, the exit is that of the run. -/
theorem exits_of_choose
    {settings : Settings}
    {filter : LogFilter}
    (accepted : CommandLine.parse surroundings.arguments = .ok line)
    (loaded : line.load surroundings.files = .ok settings)
    (chosen : LogFilter.choose surroundings.logFilter settings.logLevel =
      .ok filter)
    (ends : ∀ record, surroundings.run.run = some record -> record.Ends) :
    surroundings.Exits line := by
  obtain ⟨ran, ended⟩ := run_of_choose accepted loaded chosen
  obtain ⟨file, reads, merged, sound⟩ := CommandLine.load_eq_ok_iff.mp loaded
  have assigns : (surroundings.scenario settings).settings.assignments = _ :=
    Settings.assignments_of_sound sound
  have exits := Scenario.exitsBy_run assigns (ends _ ran)
  have success := Scenario.programEnd_eq_success_iff assigns (ends _ ran)
  rw [← ended] at exits success
  have only : ∀ other record,
      line.load surroundings.files = .ok other ->
        surroundings.run.run = some record ->
          other = settings ∧ record = (surroundings.scenario settings).run := by
    intro other record alike runs
    rw [loaded] at alike
    rw [ran] at runs
    exact ⟨(Except.ok.inj alike).symm, (Option.some.inj runs).symm⟩
  refine
    { status := exits.status.imp_right .inl
      succeeds := success.trans ?_
      misconfigured := ?_
      shutdownFailed := ?_
      workersFailed := ?_
      scheduled := ?_ }
  · refine ⟨?_, ?_⟩
    · rintro ⟨all, sends⟩
      exact ⟨file, settings, _, reads, merged, sound, ran, all, sends⟩
    · rintro ⟨_, other, record, readsToo, mergedToo, soundToo, runs, all, sends⟩
      obtain ⟨rfl, rfl⟩ := only other record
        (CommandLine.load_eq_ok_iff.mpr ⟨_, readsToo, mergedToo, soundToo⟩) runs
      exact ⟨all, sends⟩
  · intro error failed
    rw [loaded] at failed
    cases failed
  · rintro other record alike runs unsent
    obtain ⟨rfl, rfl⟩ := only other record alike runs
    exact exits.exists_shutdown unsent
  · rintro other record alike runs sends fails
    obtain ⟨rfl, rfl⟩ := only other record alike runs
    obtain ⟨some, ending⟩ := exits.eq_workersFailed sends fails
    exact ⟨_, some, rfl, ending, rfl⟩
  · rintro other record alike runs
    obtain ⟨rfl, rfl⟩ := only other record alike runs
    refine ⟨rfl, ?_, ?_⟩
    · rw [Scenario.workers_run assigns, List.length_map, List.length_range]
      rfl
    · intro state ending reached finished
      rw [ended, Scenario.ending_of_finished
        (Scenario.holds_of_reachable reached) finished]

/-- A program whose command line can be used, and whose run, if it comes to one,
neither meets a fault outside the workers nor goes on for ever, exits as it
should: with success exactly when its settings hold, every worker succeeds and
the shutdown is sent, and else by the first of these that fails. -/
theorem exits_of_accepted
    (accepted : CommandLine.parse surroundings.arguments = .ok line)
    (ends : ∀ record, surroundings.run.run = some record -> record.Ends) :
    surroundings.Exits line := by
  cases loaded : line.load surroundings.files with
  | error error => exact exits_of_misconfigured accepted loaded
  | ok settings =>
      cases chosen : LogFilter.choose surroundings.logFilter
          settings.logLevel with
      | error fault => exact exits_of_unfiltered accepted loaded chosen
      | ok filter => exact exits_of_choose accepted loaded chosen ends

end Phases

/-- The settings of one worker with one stream of one letter, in a file. -/
def smallestDocument : String :=
  "[load]\nworkers = 1\nmax_streams = 1\nmax_stream_length = 1\nseed = 2\n"

/-- A program that is pointed to that file, logs errors only and finds a server
that acknowledges every hangup. -/
def smallest : Surroundings :=
  { arguments := ["--config", "run.toml"]
    files := fun _ => .ok smallestDocument
    logFilter := some "error"
    network := (Peer.listening .obliging).network
    entropy := .seeded }

/-- What its arguments say. -/
def smallestLine : CommandLine :=
  { CommandLine.empty with configPath := some "run.toml" }

theorem reads_smallest :
    smallestLine.Reads smallest.files Settings.smallestFile :=
  .named rfl rfl (by decide +kernel)

theorem sound_smallest : Settings.smallest.Sound :=
  Settings.sound_of_resolve
    (show Settings.resolve smallestLine Settings.smallestFile =
      .ok Settings.smallest from rfl)

/-- Its run. -/
def smallestScenario : Scenario KeyStream :=
  smallest.scenario Settings.smallest

/-- Its worker is acknowledged. -/
theorem exists_returned_smallest :
    ∀ index < smallestScenario.settings.workers.toNat, ∃ summary,
      (smallestScenario.record index).ending = .returned (.ok summary) := by
  intro index inside
  obtain rfl : index = 0 := Nat.lt_one_iff.mp inside
  exact Settings.returned_of_acknowledged Settings.draw_smallest
    Settings.yielded_smallest rfl (by decide) (by decide)
    (show PageSize.ofBytes Settings.smallest.pageSize = .ok .standard from rfl)
    (show smallestScenario.network (.worker 0)
      (Settings.smallest.firstId 0) = _ from rfl)
    Script.takesAll_reliable rfl

/-- Its shutdown is sent, and it ends with a report. -/
theorem run_smallest :
    smallestScenario.run.AllSucceed ∧
      smallestScenario.run.SendsShutdown Settings.smallest ∧
      ∃ report, smallestScenario.run.ending = .finished report := by
  have assigns : smallestScenario.settings.assignments = _ :=
    Settings.assignments_of_sound sound_smallest
  have ends : ∀ index < smallestScenario.settings.workers.toNat,
      (smallestScenario.record index).ending ≠ .endless := by
    intro index inside
    obtain ⟨summary, returned⟩ := exists_returned_smallest index inside
    rw [returned]
    nofun
  have terminated : smallestScenario.terminator.ending = .ok () := by
    obtain ⟨stream, terminator, _⟩ := Settings.runTerminator_of_takesAll
      (KeyStream.seeded 3) (show smallest.network .terminator 0 = _ from rfl)
      Script.takesAll_reliable
      (show PageSize.ofBytes Settings.smallest.pageSize = .ok .standard
        from rfl)
    exact congrArg TerminatorRecord.ending terminator
  refine ⟨?_, ?_, ?_⟩
  · intro worker member
    rw [Scenario.workers_run assigns] at member
    obtain ⟨index, inRange, rfl⟩ := List.mem_map.mp member
    exact exists_returned_smallest index (List.mem_range.mp inRange)
  · exact (Scenario.sendsShutdown_run_iff assigns ends).mpr fun _ => terminated
  · exact Scenario.exists_report_of_ends assigns ends (fun _ => terminated) rfl

theorem exits_smallest :
    CommandLine.parse smallest.arguments = .ok smallestLine ∧
      (∀ record, smallest.run.run = some record -> record.Ends) ∧
      smallest.Exits smallestLine ∧
      smallest.run.ending = .success := by
  have accepted : CommandLine.parse smallest.arguments = .ok smallestLine := by
    rfl
  obtain ⟨filter, chosen⟩ : ∃ filter,
      LogFilter.choose smallest.logFilter Settings.smallest.logLevel =
        .ok filter := ⟨_, rfl⟩
  have loaded : smallestLine.load smallest.files = .ok Settings.smallest :=
    CommandLine.load_eq_ok_iff.mpr ⟨_, reads_smallest, rfl, sound_smallest⟩
  have ran := (run_of_choose accepted loaded chosen).1
  obtain ⟨all, sends, report, finished⟩ := run_smallest
  have ends : ∀ record, smallest.run.run = some record -> record.Ends := by
    intro record runs
    rw [ran] at runs
    obtain rfl := Option.some.inj runs
    change smallestScenario.run.Ends
    rw [RunRecord.Ends, finished]
    exact ⟨nofun, nofun⟩
  have exits := exits_of_accepted accepted ends
  exact ⟨accepted, ends, exits, exits.succeeds.mpr
    ⟨_, _, _, reads_smallest, rfl, sound_smallest, ran, all, sends⟩⟩

end Surroundings
end StreamLoad
