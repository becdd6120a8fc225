import Mathlib.Data.List.Nodup
import StreamLoad.Proofs.Run.Assignment
import StreamLoad.Proofs.Run.Terminator
import StreamLoad.Proofs.Run.Worker

/-!
# What a server receives

A server that takes every byte receives from each worker that returns its data
frames and a hangup, and from the shutdown its header, over as many connections
as there are workers and one for the shutdown. No two data frames of a run
share an id.
-/

namespace StreamLoad

/-- Everyone who connects meets someone who takes every byte. -/
def Network.TakesAll (network : Network) : Prop :=
  ∀ party firstId, ∃ counterpart,
    network party firstId = .ok counterpart ∧ counterpart.script.TakesAll

theorem Peer.takesAll_listening (server : Server) :
    Network.TakesAll (Peer.listening server).network := by
  intro party firstId
  exact ⟨_, rfl, Script.takesAll_reliable⟩

namespace Reception

/-- The ids of the data frames of a connection. -/
def dataIds (reception : Reception) : List UInt64 :=
  (reception.frames.filter fun frame => frame.header.command = .data).map
    fun frame => frame.header.id

/-- A connection carries what a worker is to send: one data frame or more, but
no more than the settings allow, with ids from the worker's first one on, and
a hangup behind them. -/
structure FromWorker
    (reception : Reception)
    (settings : Settings)
    (worker : Nat) : Prop where
  complete : reception.ending = .complete
  frames : ∃ streams : List Frame,
    reception.frames = streams ++ [.bare .hangup] ∧
      1 ≤ streams.length ∧
      streams.length ≤ settings.limits.maxStreams.toNat ∧
      ∀ (index : Nat) (frame : Frame), streams[index]? = some frame ->
        frame.IsStream (worker * settings.idStride.toNat + index)
          settings.limits.maxStreamLength

/-- In front of the hangup every frame of a worker is a data frame. -/
theorem dataIds_of_data
    {streams : List Frame}
    (data : ∀ frame ∈ streams, frame.header.command = .data)
    (ending : ReceptionEnd) :
    dataIds { frames := streams ++ [.bare .hangup], ending } =
      streams.map fun frame => frame.header.id := by
  have kept : streams.filter (fun frame => frame.header.command = .data) =
      streams := by
    apply List.filter_eq_self.mpr
    intro frame member
    exact decide_eq_true (data frame member)
  rw [dataIds, List.filter_append, kept]
  simp [Frame.bare, Header.hangup, Header.control]

/-- The data ids of a worker count up from its first id. -/
theorem FromWorker.getElem?_dataIds
    {reception : Reception}
    {settings : Settings}
    {worker index : Nat}
    {id : UInt64}
    (fromWorker : reception.FromWorker settings worker)
    (found : reception.dataIds[index]? = some id) :
    index < settings.limits.maxStreams.toNat ∧
      id.toNat = worker * settings.idStride.toNat + index := by
  obtain ⟨streams, frames, _, bound, each⟩ := fromWorker.frames
  have data : ∀ frame ∈ streams, frame.header.command = .data := by
    intro frame member
    obtain ⟨place, at_place⟩ := List.mem_iff_getElem?.mp member
    exact (each place frame at_place).command
  obtain ⟨_, ending⟩ := reception
  subst frames
  rw [dataIds_of_data data, List.getElem?_map, Option.map_eq_some_iff] at found
  obtain ⟨frame, placed, rfl⟩ := found
  have inside := (List.getElem?_eq_some_iff.mp placed).1
  exact ⟨Nat.lt_of_lt_of_le inside bound, (each index frame placed).id⟩

theorem FromWorker.nodup_dataIds
    {reception : Reception}
    {settings : Settings}
    {worker : Nat}
    (fromWorker : reception.FromWorker settings worker) :
    reception.dataIds.Nodup := by
  rw [List.nodup_iff_getElem?_ne_getElem?]
  intro first second order inside same
  obtain ⟨id, found⟩ : ∃ id, reception.dataIds[second]? = some id :=
    ⟨_, List.getElem?_eq_getElem inside⟩
  have firstId := (fromWorker.getElem?_dataIds (same.trans found)).2
  have secondId := (fromWorker.getElem?_dataIds found).2
  omega

/-- Two workers share no data id. -/
theorem FromWorker.disjoint_dataIds
    {first second : Reception}
    {settings : Settings}
    {worker other : Nat}
    (sound : settings.Sound)
    (fromWorker : first.FromWorker settings worker)
    (fromOther : second.FromWorker settings other)
    (different : worker ≠ other) :
    first.dataIds.Disjoint second.dataIds := by
  intro id inFirst inSecond
  obtain ⟨index, found⟩ := List.mem_iff_getElem?.mp inFirst
  obtain ⟨otherIndex, otherFound⟩ := List.mem_iff_getElem?.mp inSecond
  obtain ⟨inside, isId⟩ := fromWorker.getElem?_dataIds found
  obtain ⟨otherInside, isOtherId⟩ := fromOther.getElem?_dataIds otherFound
  have same := sound.ids_inj inside otherInside (isId.symm.trans isOtherId)
  exact different same.1

theorem nodup_flatMap_dataIds
    {receptions : List Reception}
    {settings : Settings}
    (sound : settings.Sound)
    (each : ∀ (worker : Nat) (reception : Reception),
      receptions[worker]? = some reception ->
        reception.FromWorker settings worker) :
    (receptions.flatMap dataIds).Nodup := by
  refine List.nodup_flatMap.mpr ⟨?_, ?_⟩
  · intro reception member
    obtain ⟨worker, found⟩ := List.mem_iff_getElem?.mp member
    exact (each worker reception found).nodup_dataIds
  · rw [List.pairwise_iff_getElem]
    intro worker other inside otherInside order
    exact (each worker _ (List.getElem?_eq_getElem inside)).disjoint_dataIds
      sound (each other _ (List.getElem?_eq_getElem otherInside))
      (Nat.ne_of_lt order)

end Reception

namespace Settings

/-- What a server receives over all connections of a run: one connection from
each worker, and one with a shutdown if there is to be one. -/
structure Receives
    (settings : Settings)
    (receptions : List Reception) : Prop where
  count : receptions.length =
    settings.workers.toNat + if settings.shutdown then 1 else 0
  worker : ∀ worker < settings.workers.toNat, ∃ reception,
    receptions[worker]? = some reception ∧
      reception.FromWorker settings worker
  terminator : settings.shutdown = true ->
    receptions[settings.workers.toNat]? =
      some { frames := [.bare .shutdown], ending := .complete }
  distinct : (receptions.flatMap Reception.dataIds).Nodup

/-- The receptions from all workers, and behind them one with a shutdown if
there is to be one. -/
theorem receives_append
    {settings : Settings}
    {receptions ending : List Reception}
    (sound : settings.Sound)
    (count : receptions.length = settings.workers.toNat)
    (each : ∀ (worker : Nat) (reception : Reception),
      receptions[worker]? = some reception ->
        reception.FromWorker settings worker)
    (last : ending =
      if settings.shutdown then
        [{ frames := [.bare .shutdown], ending := .complete }]
      else
        []) :
    settings.Receives (receptions ++ ending) := by
  refine ⟨?_, ?_, ?_, ?_⟩
  · rw [List.length_append, count, last]
    cases settings.shutdown <;> rfl
  · intro worker inside
    rw [← count] at inside
    have found := List.getElem?_eq_getElem inside
    exact ⟨_, (List.getElem?_append_left inside).trans found,
      each worker _ found⟩
  · intro shutdown
    rw [← count, List.getElem?_append_right (Nat.le_refl _), Nat.sub_self,
      last, shutdown]
    rfl
  · have silent : ending.flatMap Reception.dataIds = [] := by
      rw [last]
      cases settings.shutdown <;> rfl
    rw [List.flatMap_append, silent, List.append_nil]
    exact Reception.nodup_flatMap_dataIds sound each

section Run

variable {Source : Type}
variable {settings : Settings}
variable {watched : Event -> Bool}
variable {network : Network}
variable {sourceOf : UInt64 -> Source}

theorem receive_terminator?
    {pageSize : PageSize}
    (takesAll : Network.TakesAll network)
    (page : PageSize.ofBytes settings.pageSize = .ok pageSize) :
    ((settings.terminator? network sourceOf).bind
        TerminatorRecord.connection).toList.map
          (fun stream => receive stream.sent) =
      if settings.shutdown then
        [{ frames := [.bare .shutdown], ending := .complete }]
      else
        [] := by
  obtain ⟨counterpart, met, script⟩ := takesAll .terminator 0
  obtain ⟨stream, record, received⟩ :=
    runTerminator_of_takesAll (sourceOf settings.workers) met script page
  unfold terminator?
  cases settings.shutdown with
  | false => rfl
  | true => simp [record, received]

variable [WordSource Source]

/-- A worker that returns over a network that takes every byte has sent a data
frame for each stream of its plan, with one id after the other. -/
theorem dataIds_of_returned
    {worker idPrefix : UInt64}
    {source later : Source}
    {plan : Plan}
    {record : WorkerRecord}
    {result : Except SessionError SessionSummary}
    (worked : settings.Worked network worker idPrefix source record)
    (takesAll : Network.TakesAll network)
    (drawn : Plan.draw settings.limits source = (.ok plan, later))
    (room : idPrefix.toNat + settings.limits.maxStreams.toNat ≤ 2 ^ 64)
    (returned : record.ending = .returned result) :
    record.connection.map (fun stream => (receive stream.sent).dataIds) =
      some ((List.range plan.size).map
        fun offset => idPrefix + UInt64.ofNat offset) := by
  obtain ⟨planned, _, stream, draws, connected, received, count, _⟩ :=
    receive_of_returned worked (takesAll _ _) room returned
  cases drawn.symm.trans draws
  have data : ∀ frame ∈ plan.frames idPrefix later,
      frame.header.command = .data := by
    intro frame member
    obtain ⟨place, found⟩ := List.mem_iff_getElem?.mp member
    obtain ⟨length, -, header, -⟩ := Plan.getElem?_framesFrom found
    rw [header]
    rfl
  rw [connected, Option.map_some, received, Reception.dataIds_of_data data,
    Plan.frames, Plan.map_id_framesFrom count]
  simp [Plan.size]

/-- A worker that returns over a network that takes every byte has sent what it
is to send. -/
theorem fromWorker_of_returned
    (sound : settings.Sound)
    (takesAll : Network.TakesAll network)
    {worker : Nat}
    (inside : worker < settings.workers.toNat)
    {result : Except SessionError SessionSummary}
    (returned : (settings.workerRecord watched network sourceOf
      worker).ending = .returned result) :
    ∃ stream,
      (settings.workerRecord watched network sourceOf worker).connection =
          some stream ∧
        (receive stream.sent).FromWorker settings worker ∧
        ∃ pageSize, PageSize.ofBytes settings.pageSize = .ok pageSize := by
  have room := sound.room inside
  have positive := sound.maxStreams
  have exact : (settings.firstId worker).toNat =
      worker * settings.idStride.toNat := by
    apply UInt64.toNat_ofNat_of_lt'
    unfold UInt64.size
    omega
  rw [← exact] at room
  obtain ⟨plan, later, stream, drawn, connected, received, count, page⟩ :=
    receive_of_returned (settings.runWorker_worked _ network _ _ _)
      (takesAll _ _) room returned
  have within := (Plan.within_of_draw drawn).1
  refine ⟨stream, connected, ⟨?_, ?_⟩, page⟩
  · rw [received]
  · refine ⟨plan.frames (settings.firstId worker) later, ?_, ?_, ?_, ?_⟩
    · rw [received]
    · rw [count]
      exact within.nonempty
    · rw [count]
      exact within.size
    · intro index frame found
      rw [← exact]
      have fits := within.size
      exact Plan.isStream_of_frames within (by omega) found

/-- The streams of workers that return, in the order of the workers. -/
theorem fromWorker_of_mem_streams
    (sound : settings.Sound)
    (takesAll : Network.TakesAll network)
    (returned : ∀ record ∈
        settings.workerRecords watched network sourceOf,
      ∃ result, record.ending = .returned result) :
    let streams := (settings.workerRecords watched network
      sourceOf).filterMap WorkerRecord.connection
    streams.length = settings.workers.toNat ∧
      ∀ (worker : Nat) (stream : Stream), streams[worker]? = some stream ->
        (receive stream.sent).FromWorker settings worker := by
  intro streams
  have served : ∀ worker < settings.workers.toNat, ∃ stream,
      (settings.workerRecord watched network sourceOf worker).connection =
          some stream ∧
        (receive stream.sent).FromWorker settings worker := by
    intro worker inside
    obtain ⟨result, ends⟩ :=
      returned _ (List.mem_map_of_mem (List.mem_range.mpr inside))
    obtain ⟨stream, connected, fromWorker, _⟩ :=
      fromWorker_of_returned sound takesAll inside ends
    exact ⟨stream, connected, fromWorker⟩
  have connected : (settings.workerRecords watched network sourceOf).map
      WorkerRecord.connection = streams.map some := by
    apply map_eq_map_some_filterMap
    intro record member
    obtain ⟨worker, inRange, rfl⟩ := List.mem_map.mp member
    obtain ⟨stream, found, _⟩ := served worker (List.mem_range.mp inRange)
    exact Option.isSome_of_mem found
  have count : streams.length = settings.workers.toNat := by
    have lengths := congrArg List.length connected
    simpa [workerRecords] using lengths.symm
  refine ⟨count, ?_⟩
  intro worker stream found
  have inside : worker < settings.workers.toNat :=
    count ▸ (List.getElem?_eq_some_iff.mp found).1
  obtain ⟨expected, expects, fromWorker⟩ := served worker inside
  rw [getElem?_of_map_eq_map_some connected, workerRecords,
    List.getElem?_map, List.getElem?_range inside, Option.map_some,
    Option.bind_some, expects] at found
  cases found
  exact fromWorker

/-- What a server receives that takes every byte and lets each worker return:
the frames of every worker on a connection of its own, the shutdown on one more
if there is to be one, and no data id twice. -/
theorem receives_of_returned
    {line : CommandLine}
    {file : SettingsFile}
    (resolved : resolve line file = .ok settings)
    (takesAll : Network.TakesAll network)
    (returned : ∀ record ∈ (settings.run watched network sourceOf).workers,
      ∃ result, record.ending = .returned result) :
    settings.Receives
      ((settings.run watched network sourceOf).connections.map
        fun stream => receive stream.sent) := by
  have sound := sound_of_resolve resolved
  have assigns := assignments_of_sound sound
  rw [workers_run assigns] at returned
  have arrive : (settings.workerRecords watched network sourceOf).map
      WorkerRecord.arrival? =
        ((settings.workerRecords watched network sourceOf).filterMap
          WorkerRecord.arrival?).map some := by
    apply map_eq_map_some_filterMap
    intro record member
    obtain ⟨result, ends⟩ := returned record member
    rw [WorkerRecord.arrival?, ends]
    rfl
  obtain ⟨result, ends⟩ :=
    returned _ (List.mem_map_of_mem (List.mem_range.mpr sound.workers))
  obtain ⟨_, _, _, pageSize, page⟩ :=
    fromWorker_of_returned sound takesAll sound.workers ends
  obtain ⟨count, each⟩ :=
    fromWorker_of_mem_streams sound takesAll returned
  rw [run_of_arrivals assigns arrive, RunRecord.connections, List.map_append]
  refine receives_append sound ?_ ?_ (receive_terminator? takesAll page)
  · rw [List.length_map]
    exact count
  · intro worker reception found
    rw [List.getElem?_map, Option.map_eq_some_iff] at found
    obtain ⟨stream, placed, rfl⟩ := found
    exact each worker stream placed

end Run

/-- A file that asks for three workers, each with up to three streams of up to
three letters. -/
def severalFile : SettingsFile :=
  { SettingsFile.empty with
    workers := some 3
    idStride := some 3
    maxStreams := some 3
    maxStreamLength := some 3
    seed := some 62 }

/-- The settings of three workers with several streams. -/
def several : Settings :=
  { standard with
    workers := 3
    idStride := 3
    limits := { maxStreams := 3, maxStreamLength := 3 }
    seed := some 62 }

/-- The plans of the three workers. -/
def severalPlans : List Plan := [⟨[2, 2]⟩, ⟨[1, 1, 1]⟩, ⟨[2, 1]⟩]

/-- What becomes of the three workers. -/
def severalRecord : Nat -> WorkerRecord :=
  several.workerRecord (fun _ => true) (Peer.listening .obliging).network
    fun worker => KeyStream.seeded (62 + worker)

/-- A run of three workers with several streams. -/
def severalRun : RunRecord :=
  several.run (fun _ => true) (Peer.listening .obliging).network
    fun worker => KeyStream.seeded (62 + worker)

theorem draw_several
    {worker : Nat}
    {plan : Plan}
    (planned : severalPlans[worker]? = some plan) :
    ∃ later,
      Plan.draw several.limits (KeyStream.seeded (62 + UInt64.ofNat worker)) =
          (.ok plan, later) ∧
        plan.YieldedBy later := by
  rcases worker with _ | _ | _ | worker
  all_goals cases planned
  all_goals
    refine ⟨_, Plan.draw_of_accepted ?_ ?_ ?_, isSome_letters_of_accepted ?_⟩
    all_goals decide +kernel

theorem returned_several
    {worker : Nat}
    {plan : Plan}
    (planned : severalPlans[worker]? = some plan) :
    ∃ summary, (severalRecord worker).ending = .returned (.ok summary) := by
  obtain ⟨later, drawn, yielded⟩ := draw_several planned
  have takesAll := Peer.takesAll_listening .obliging
  obtain ⟨counterpart, met, script⟩ :=
    takesAll (.worker (UInt64.ofNat worker)) (several.firstId worker)
  have waits : counterpart.incoming = [.byte 1] := by
    cases met
    rfl
  have page : PageSize.ofBytes several.pageSize = .ok .standard := by rfl
  rcases worker with _ | _ | _ | worker
  all_goals cases planned
  all_goals
    exact returned_of_acknowledged drawn yielded rfl (by decide) (by decide)
      page met script waits

theorem dataIds_several
    {worker : Nat}
    {plan : Plan}
    (planned : severalPlans[worker]? = some plan) :
    (severalRecord worker).connection.map
        (fun stream => (receive stream.sent).dataIds) =
      some ((List.range plan.size).map
        fun offset => several.firstId worker + UInt64.ofNat offset) := by
  obtain ⟨later, drawn, -⟩ := draw_several planned
  obtain ⟨summary, ends⟩ := returned_several planned
  have room : (several.firstId worker).toNat +
      several.limits.maxStreams.toNat ≤ 2 ^ 64 := by
    rcases worker with _ | _ | _ | worker
    all_goals cases planned
    all_goals decide
  exact dataIds_of_returned (several.runWorker_worked _ _ _ _ _)
    (Peer.takesAll_listening .obliging) drawn room ends

/-- Three workers send two, three and two streams, and the ids run on from one
worker to the next. -/
theorem receives_several :
    resolve .empty severalFile = .ok several ∧
      Network.TakesAll (Peer.listening .obliging).network ∧
      (∀ record ∈ severalRun.workers,
        ∃ result, record.ending = .returned result) ∧
      severalRun.workers.map (fun record => record.connection.map
          fun stream => (receive stream.sent).dataIds) =
        [some [0, 1], some [3, 4, 5], some [6, 7]] ∧
      several.Receives
        (severalRun.connections.map fun stream => receive stream.sent) := by
  have resolved : resolve .empty severalFile = .ok several := by rfl
  have takesAll := Peer.takesAll_listening .obliging
  have workers : severalRun.workers = (List.range 3).map severalRecord :=
    workers_run (assignments_of_sound (sound_of_resolve resolved)) _ _ _
  have planned : ∀ worker < 3, ∃ plan,
      severalPlans[worker]? = some plan := by
    intro worker inside
    exact ⟨_, List.getElem?_eq_getElem inside⟩
  have returned : ∀ record ∈ severalRun.workers,
      ∃ result, record.ending = .returned result := by
    rw [workers]
    intro record member
    obtain ⟨worker, inRange, rfl⟩ := List.mem_map.mp member
    obtain ⟨plan, found⟩ := planned worker (List.mem_range.mp inRange)
    obtain ⟨summary, ends⟩ := returned_several found
    exact ⟨.ok summary, ends⟩
  refine ⟨resolved, takesAll, returned, ?_,
    receives_of_returned resolved takesAll returned⟩
  have first := dataIds_several (show severalPlans[0]? = some ⟨[2, 2]⟩ from rfl)
  have second :=
    dataIds_several (show severalPlans[1]? = some ⟨[1, 1, 1]⟩ from rfl)
  have third := dataIds_several (show severalPlans[2]? = some ⟨[2, 1]⟩ from rfl)
  rw [workers, show List.range 3 = [0, 1, 2] from rfl]
  simp only [List.map_cons, List.map_nil, first, second, third]
  rfl

/-- A file that asks for one worker, with one stream of one letter. -/
def smallestFile : SettingsFile :=
  { SettingsFile.empty with
    workers := some 1
    maxStreams := some 1
    maxStreamLength := some 1
    seed := some 2 }

/-- The settings of one worker with one stream of one letter. -/
def smallest : Settings :=
  { standard with
    workers := 1
    limits := { maxStreams := 1, maxStreamLength := 1 }
    seed := some 2 }

theorem draw_smallest :
    Plan.draw smallest.limits (KeyStream.seeded 2) =
      (.ok ⟨[1]⟩, WordSource.skip 4 (KeyStream.seeded 2)) := by
  refine Plan.draw_of_accepted ?_ ?_ ?_
  all_goals decide +kernel

theorem yielded_smallest :
    Plan.YieldedBy ⟨[1]⟩ (WordSource.skip 4 (KeyStream.seeded 2)) := by
  unfold Plan.YieldedBy
  apply isSome_letters_of_accepted
  decide +kernel

end Settings
end StreamLoad
