import StreamLoad.Proofs.Transport.Writing

/-!
# Dictations

What is written does not depend on how the stream takes it, only how much of
it is written does. A dictation is what an operation wants to write: texts
one behind the other, and behind the last of them a value or a halt. Carrying
it out on a stream writes the texts up to the first that fails. An operation
that is shown to carry out a dictation needs no other account of its writing.
-/

namespace StreamLoad

/-- Texts to be written, and how it goes on behind the last of them. -/
structure Dictation (Value : Type) where
  texts : List (List UInt8)
  ending : Except Halt Value

namespace Dictation

variable {Value Next : Type}

/-- Nothing is written. -/
def silent (ending : Except Halt Value) : Dictation Value :=
  { texts := [], ending }

/-- A single text. -/
def text (bytes : List UInt8) : Dictation Unit :=
  { texts := [bytes], ending := .ok () }

/-- Dictate something more, unless the first dictation ends in a halt. -/
def andThen
    (first : Dictation Value)
    (next : Value -> Dictation Next) : Dictation Next :=
  match first.ending with
  | .error halt => { texts := first.texts, ending := .error halt }
  | .ok value =>
      { texts := first.texts ++ (next value).texts
        ending := (next value).ending }

/-- All bytes of the dictation. -/
def bytes (dictation : Dictation Value) : List UInt8 :=
  dictation.texts.flatten

@[simp] theorem bytes_silent (ending : Except Halt Value) :
    (silent ending).bytes = [] := rfl

@[simp] theorem ending_silent (ending : Except Halt Value) :
    (silent ending).ending = ending := rfl

@[simp] theorem bytes_text_andThen
    (written : List UInt8)
    (next : Unit -> Dictation Next) :
    ((text written).andThen next).bytes = written ++ (next ()).bytes := rfl

@[simp] theorem ending_text_andThen
    (written : List UInt8)
    (next : Unit -> Dictation Next) :
    ((text written).andThen next).ending = (next ()).ending := rfl

@[simp] theorem texts_text_andThen
    (written : List UInt8)
    (next : Unit -> Dictation Next) :
    ((text written).andThen next).texts = written :: (next ()).texts := rfl

theorem andThen_of_ok
    {first : Dictation Value}
    {value : Value}
    (ending : first.ending = .ok value)
    (next : Value -> Dictation Next) :
    (first.andThen next).bytes = first.bytes ++ (next value).bytes ∧
      (first.andThen next).ending = (next value).ending := by
  simp [andThen, bytes, ending]

theorem texts_andThen_of_ok
    {first : Dictation Value}
    {value : Value}
    (ending : first.ending = .ok value)
    (next : Value -> Dictation Next) :
    (first.andThen next).texts = first.texts ++ (next value).texts := by
  simp [andThen, ending]

/-- A dictation that goes on to its end has gone on behind its first part. -/
theorem exists_of_andThen_eq_ok
    {first : Dictation Value}
    {next : Value -> Dictation Next}
    {result : Next}
    (ending : (first.andThen next).ending = .ok result) :
    ∃ value, first.ending = .ok value ∧ (next value).ending = .ok result := by
  cases earlier : first.ending with
  | error halt => simp [andThen, earlier] at ending
  | ok value => exact ⟨value, rfl, by simpa [andThen, earlier] using ending⟩

theorem andThen_of_error
    {first : Dictation Value}
    {halt : Halt}
    (ending : first.ending = .error halt)
    (next : Value -> Dictation Next) :
    (first.andThen next).bytes = first.bytes ∧
      (first.andThen next).ending = .error halt := by
  simp [andThen, bytes, ending]

/-- The texts of a dictation have given sizes: all of them if it does not halt,
and else the first ones. -/
structure Sized (dictation : Dictation Value) (sizes : List Nat) : Prop where
  begun : dictation.texts.map List.length <+: sizes
  whole : ∀ value, dictation.ending = .ok value ->
    dictation.texts.map List.length = sizes

namespace Sized

theorem silent (ending : Except Halt Value) :
    (Dictation.silent ending).Sized [] :=
  ⟨List.prefix_rfl, fun _ _ => rfl⟩

/-- A dictation that halts before it writes anything may be given any
sizes. -/
theorem halted (halt : Halt) (sizes : List Nat) :
    (Dictation.silent (.error halt) : Dictation Value).Sized sizes :=
  ⟨List.nil_prefix, nofun⟩

theorem text (written : List UInt8) :
    (Dictation.text written).Sized [written.length] :=
  ⟨List.prefix_rfl, fun _ _ => rfl⟩

theorem andThen
    {first : Dictation Value}
    {next : Value -> Dictation Next}
    {sizes later : List Nat}
    (sized : first.Sized sizes)
    (rest : ∀ value, first.ending = .ok value -> (next value).Sized later) :
    (first.andThen next).Sized (sizes ++ later) := by
  cases ending : first.ending with
  | error halt =>
      refine ⟨?_, ?_⟩
      · simpa [Dictation.andThen, ending] using
          sized.begun.trans (List.prefix_append sizes later)
      · simp [Dictation.andThen, ending]
  | ok value =>
      have sizes := sized.whole value ending
      have next := rest value ending
      refine ⟨?_, ?_⟩
      · simpa [Dictation.andThen, ending, sizes] using next.begun
      · intro result ended
        have last := next.whole result
          (by simpa [Dictation.andThen, ending] using ended)
        simp [Dictation.andThen, ending, sizes, last]

end Sized

/-- Write the texts, then go on as the dictation says. -/
def carryOut (dictation : Dictation Value) (stream : Stream) :
    Except (Stop TransportError) Value × Stream :=
  match stream.writeTexts dictation.texts with
  | (.error stop, after) => (.error stop, after)
  | (.ok (), after) =>
      match dictation.ending with
      | .error halt => (.error (.halted halt), after)
      | .ok value => (.ok value, after)

@[simp] theorem carryOut_silent_ok (value : Value) (stream : Stream) :
    (silent (.ok value)).carryOut stream = (.ok value, stream) := rfl

@[simp] theorem carryOut_silent_error (halt : Halt) (stream : Stream) :
    (silent (.error halt) : Dictation Value).carryOut stream =
      (.error (.halted halt), stream) := rfl

theorem carryOut_text (written : List UInt8) (stream : Stream) :
    (text written).carryOut stream = stream.writeAll written := by
  unfold carryOut text
  simp only [Stream.writeTexts]
  rcases stream.writeAll written with ⟨stop | ⟨⟩, after⟩ <;> rfl

theorem carryOut_andThen
    (first : Dictation Value)
    (next : Value -> Dictation Next)
    (stream : Stream) :
    (first.andThen next).carryOut stream =
      match first.carryOut stream with
      | (.error stop, after) => (.error stop, after)
      | (.ok value, after) => (next value).carryOut after := by
  unfold carryOut andThen
  cases first.ending with
  | error halt =>
      rcases stream.writeTexts first.texts with ⟨stop | ⟨⟩, after⟩ <;> rfl
  | ok value =>
      simp only [Stream.writeTexts_append]
      rcases stream.writeTexts first.texts with ⟨stop | ⟨⟩, after⟩ <;> rfl

/-- How carrying out a dictation ends: the texts are written whole and the
dictation goes on, or writing their bytes ends in an error. -/
theorem carryOut_cases (dictation : Dictation Value) (stream : Stream) :
    (∃ after, stream.Writing dictation.bytes (.ok ()) after ∧
      dictation.carryOut stream =
        (dictation.ending.mapError .halted, after)) ∨
    (∃ stop after, stream.Writing dictation.bytes (.error stop) after ∧
      dictation.carryOut stream = (.error stop, after)) := by
  have writing := Stream.writing_writeTexts dictation.texts stream
  unfold carryOut
  rcases written : stream.writeTexts dictation.texts with ⟨stop | ⟨⟩, after⟩
  all_goals rw [written] at writing
  · exact .inr ⟨stop, after, writing, rfl⟩
  · refine .inl ⟨after, writing, ?_⟩
    cases dictation.ending <;> rfl

/-- Carrying out a dictation does nothing but write. -/
theorem wroteOnly_carryOut (dictation : Dictation Value) (stream : Stream) :
    stream.WroteOnly (dictation.carryOut stream).2 := by
  rcases dictation.carryOut_cases stream with
    ⟨after, writing, carried⟩ | ⟨stop, after, writing, carried⟩
  all_goals
    rw [carried]
    exact writing.wroteOnly

end Dictation
end StreamLoad
