import Mathlib.Data.List.Nodup
import StreamLoad.Settings.CommandLine

/-!
# What a command line says

The options and flags that arguments give are listed without looking at
whether the arguments are accepted. A command line that is read from accepted
arguments tells just what the list tells: an option has the value that its text
stands for, no option is given twice, and what is not given is left open.
-/

namespace StreamLoad

theorem bind_eq_ok_iff
    {Error First Second : Type}
    {first : Except Error First}
    {next : First -> Except Error Second}
    {second : Second} :
    first >>= next = .ok second ↔
      ∃ value, first = .ok value ∧ next value = .ok second := by
  cases first <;> simp [bind, Except.bind]

namespace CommandLine

/-- The options that arguments give, each with its text. The text of an option
stands in the same argument or in the next one. -/
def valuesIn : List String -> List (ValueOption × String)
  | [] => []
  | argument :: rest =>
      match classify argument with
      | .named (.inl option) (some text) => (option, text) :: valuesIn rest
      | .named (.inl option) none =>
          rest.head?.toList.map (Prod.mk option) ++ valuesIn rest
      | _ => valuesIn rest

/-- The flags that arguments raise. -/
def flagsIn (arguments : List String) : List Flag :=
  arguments.filterMap fun argument =>
    match classify argument with
    | .named (.inr flag) _ => some flag
    | _ => none

/-- The text that arguments give for an option. -/
def textOf (option : ValueOption) (arguments : List String) :
    Option String :=
  (valuesIn arguments).lookup option

/-- A command line has the value that a text stands for at an option; it leaves
the option open when there is no text. -/
def Tells (line : CommandLine) (text : Option String) : ValueOption -> Prop
  | .config => text = line.configPath
  | .host => text = line.host
  | .port => text.map port? = line.port.map some
  | .workers => text.map word? = line.workers.map some
  | .idStride => text.map word? = line.idStride.map some
  | .seed => text.map word? = line.seed.map some
  | .ackTimeout => text.map word? = line.ackTimeout.map some
  | .logLevel => text = line.logLevel

theorem Tells.eq_none
    {line : CommandLine}
    {option : ValueOption}
    {text : Option String}
    (absent : line.Tells none option)
    (tells : line.Tells text option) : text = none := by
  cases text with
  | none => rfl
  | some text =>
      unfold Tells at absent tells
      cases option <;> exact nomatch tells.trans absent.symm

/-- A command line tells what options and flags tell, and no option is there
twice. -/
structure ReadFrom
    (line : CommandLine)
    (values : List (ValueOption × String))
    (flags : List Flag) : Prop where
  tells : ∀ option, line.Tells (values.lookup option) option
  once : (values.map Prod.fst).Nodup
  noShutdown : line.noShutdown = true ↔ .noShutdown ∈ flags

theorem readFrom_empty : empty.ReadFrom [] [] where
  tells option := by cases option <;> simp [Tells, empty]
  once := List.nodup_nil
  noShutdown := by simp [empty]

theorem settle_eq_ok_iff
    {Value : Type}
    {present settled : Option Value}
    {read : Except UsageError Value} :
    settle present read = .ok settled ↔
      present = none ∧ ∃ value, read = .ok value ∧ some value = settled := by
  cases present <;> cases read <;> simp [settle, Except.map]

theorem wellFormed_eq_ok_iff
    {Value : Type}
    {read : Option Value}
    {value : Value} :
    wellFormed read = .ok value ↔ read = some value := by
  cases read <;> simp [wellFormed]

theorem ite_error_eq_ok_iff
    {Error Value : Type}
    {refused : Prop}
    [Decidable refused]
    {error : Error}
    {value result : Value} :
    (if refused then .error error else .ok value) =
        (.ok result : Except Error Value) ↔
      ¬refused ∧ value = result := by
  split <;> simp [*]

/-- One command line comes from another by giving an option a text: the option
was open before, and nothing else changes. -/
structure Given
    (option : ValueOption)
    (text : String)
    (line given : CommandLine) : Prop where
  absent : line.Tells none option
  present : given.Tells (some text) option
  others : ∀ other, other ≠ option ->
    ∀ otherText, line.Tells otherText other -> given.Tells otherText other
  noShutdown : given.noShutdown = line.noShutdown

theorem given_of_give
    {option : ValueOption}
    {text : String}
    {line given : CommandLine}
    (gave : line.give option text = .ok given) :
    Given option text line given := by
  cases option
  all_goals
    simp only [give, bind_eq_ok_iff, settle_eq_ok_iff, wellFormed_eq_ok_iff,
      ite_error_eq_ok_iff, pure, Except.pure, Except.ok.injEq] at gave
    obtain ⟨_, ⟨absent, value, read, rfl⟩, rfl⟩ := gave
    refine { absent := ?_, present := ?_, others := ?_, noShutdown := rfl }
    · simp [Tells, absent]
    · simp [Tells, read]
    · intro other distinct otherText tells
      cases other <;> first | exact tells | exact absurd rfl distinct

namespace ReadFrom

theorem give
    {option : ValueOption}
    {text : String}
    {line given : CommandLine}
    {values : List (ValueOption × String)}
    {flags : List Flag}
    (reads : line.ReadFrom values flags)
    (gave : line.give option text = .ok given) :
    given.ReadFrom (values ++ [(option, text)]) flags := by
  have change := given_of_give gave
  have fresh : values.lookup option = none :=
    change.absent.eq_none (reads.tells option)
  constructor
  case tells =>
    intro other
    rw [List.lookup_append]
    by_cases same : other = option
    case pos =>
      subst same
      simpa [fresh] using change.present
    case neg =>
      simpa [List.lookup_cons, beq_false_of_ne same] using
        change.others other same _ (reads.tells other)
  case once =>
    have absent : option ∉ values.map Prod.fst := by
      intro member
      obtain ⟨entry, inside, rfl⟩ := List.mem_map.mp member
      simpa using List.lookup_eq_none_iff.mp fresh entry inside
    simpa using List.nodup_append_comm.mp
      (List.nodup_cons.mpr ⟨absent, reads.once⟩)
  case noShutdown => rw [change.noShutdown, reads.noShutdown]

theorem raise
    {flag : Flag}
    {line raised : CommandLine}
    {values : List (ValueOption × String)}
    {flags : List Flag}
    (reads : line.ReadFrom values flags)
    (rose : line.raise flag = .ok raised) :
    raised.ReadFrom values (flags ++ [flag]) := by
  cases flag with
  | help => cases rose
  | version => cases rose
  | noShutdown =>
      obtain ⟨_, rfl⟩ := ite_error_eq_ok_iff.mp rose
      refine
        { tells := fun option => ?_, once := reads.once, noShutdown := ?_ }
      · have tells := reads.tells option
        cases option <;> exact tells
      · simp

end ReadFrom

theorem eq_of_classify_eq_plain
    {argument text : String}
    (found : classify argument = .plain text) : text = argument := by
  unfold classify at found
  split at found
  next => cases found
  next =>
    dsimp only at found
    split at found <;> cases found
  next => split at found <;> cases found
  next =>
    cases found
    rfl

namespace Reading

/-- What the pending option adds to the options of a command line. A value that
has not come yet is the next of the remaining arguments. -/
def owed (reading : Reading) (arguments : List String) :
    List (ValueOption × String) :=
  match reading.pending with
  | none => []
  | some { option, value := some text } => [(option, text)]
  | some { option, value := none } =>
      arguments.head?.toList.map (Prod.mk option)

/-- What has been read together with what the remaining arguments give comes
to these options and flags. -/
def ComesTo
    (reading : Reading)
    (arguments : List String)
    (values : List (ValueOption × String))
    (flags : List Flag) : Prop :=
  ∃ settled raised,
    reading.line.ReadFrom settled raised ∧
      settled ++ reading.owed arguments ++ valuesIn arguments = values ∧
      raised ++ flagsIn arguments = flags

theorem readFrom_settlePending
    {reading : Reading}
    {line : CommandLine}
    {settled : List (ValueOption × String)}
    {flags : List Flag}
    (reads : reading.line.ReadFrom settled flags)
    (accepted : reading.settlePending = .ok line)
    (arguments : List String) :
    line.ReadFrom (settled ++ reading.owed arguments) flags := by
  unfold settlePending at accepted
  unfold owed
  split at accepted
  next free =>
    cases accepted
    simpa [free] using reads
  next option text waiting =>
    simpa [waiting] using reads.give accepted
  next => cases accepted

/-- Reading an argument does not change what the arguments come to. -/
theorem ComesTo.readArgument
    {argument : String}
    {rest : List String}
    {reading next : Reading}
    {values : List (ValueOption × String)}
    {flags : List Flag}
    (comes : reading.ComesTo (argument :: rest) values flags)
    (read : reading.readArgument (classify argument) = .ok next)
    (inFront : classify argument ≠ .barrier) :
    next.ComesTo rest values flags := by
  obtain ⟨settled, raised, reads, rfl, rfl⟩ := comes
  have settles (line : CommandLine)
      (accepted : reading.settlePending = .ok line) :
      line.ReadFrom (settled ++ reading.owed (argument :: rest)) raised :=
    readFrom_settlePending reads accepted _
  unfold Reading.readArgument at read
  cases found : classify argument with
  | barrier => exact absurd found inFront
  | unknown => simp [found] at read
  | plain text =>
      cases eq_of_classify_eq_plain found
      simp only [found] at read
      split at read
      next option waiting =>
        cases read
        refine ⟨settled, raised, reads, ?_, ?_⟩
        · simp [owed, waiting, valuesIn, found]
        · simp [flagsIn, found]
      next => cases read
      next => cases read
  | named name attached =>
      cases name with
      | inr flag =>
          cases attached with
          | some _ => simp [found] at read
          | none =>
              simp only [found, bind_eq_ok_iff, pure, Except.pure,
                Except.ok.injEq] at read
              obtain ⟨line, accepted, second, rose, rfl⟩ := read
              refine ⟨_, _, (settles line accepted).raise rose, ?_, ?_⟩
              · simp [owed, valuesIn, found]
              · simp [flagsIn, found]
      | inl option =>
          cases attached with
          | some text =>
              simp only [found, bind_eq_ok_iff, pure, Except.pure,
                Except.ok.injEq] at read
              obtain ⟨line, accepted, second, gave, rfl⟩ := read
              refine ⟨_, _, (settles line accepted).give gave, ?_, ?_⟩
              · simp [owed, valuesIn, found]
              · simp [flagsIn, found]
          | none =>
              simp only [found, bind_eq_ok_iff, pure, Except.pure,
                Except.ok.injEq] at read
              obtain ⟨line, accepted, rfl⟩ := read
              refine ⟨_, _, settles line accepted, ?_, ?_⟩
              · simp [owed, valuesIn, found]
              · simp [flagsIn, found]

theorem ComesTo.readAll
    {arguments : List String}
    {reading : Reading}
    {line : CommandLine}
    {values : List (ValueOption × String)}
    {flags : List Flag}
    (comes : reading.ComesTo arguments values flags)
    (accepted : readAll arguments reading = .ok line) :
    line.ReadFrom values flags := by
  induction arguments generalizing reading with
  | nil =>
      obtain ⟨settled, raised, reads, rfl, rfl⟩ := comes
      simpa [valuesIn, flagsIn] using
        readFrom_settlePending reads accepted []
  | cons argument rest hypothesis =>
      unfold Reading.readAll at accepted
      split at accepted
      next barrier =>
        obtain ⟨settled, raised, reads, rfl, rfl⟩ := comes
        split at accepted
        next last =>
          cases List.isEmpty_iff.mp last
          simpa [valuesIn, flagsIn, barrier] using
            readFrom_settlePending reads accepted [argument]
        next => cases accepted
      next inFront =>
        obtain ⟨next, read, remaining⟩ := bind_eq_ok_iff.mp accepted
        exact hypothesis (comes.readArgument read inFront) remaining

end Reading

/-- A command line tells exactly what its arguments give. -/
theorem readFrom_of_parse
    {arguments : List String}
    {line : CommandLine}
    (parsed : parse arguments = .ok line) :
    line.ReadFrom (valuesIn arguments) (flagsIn arguments) :=
  Reading.ComesTo.readAll ⟨[], [], readFrom_empty, by rfl, by rfl⟩ parsed

end CommandLine
end StreamLoad
