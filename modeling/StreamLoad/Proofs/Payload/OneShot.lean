import Mathlib.Data.List.Forall2
import StreamLoad.Proofs.Payload.Deliveries

/-!
# Bodies and one large page

On streams that let the writing go on, the bytes of bodies sent one after the
other are those of one page that holds them all, and the source is left where
filling this page leaves it. Neither the sizes of the pages nor what is in them,
nor how the streams take the writes, make a difference.
-/

namespace StreamLoad

/-- All of a body has been sent: the stream has accepted as many bytes behind
what it had, and there were as many writes as it takes pages to hold them. -/
structure Delivery.Whole
    {Source : Type}
    (delivery : Delivery Source) : Prop where
  grown : delivery.after.stream.sent =
    delivery.before.stream.sent ++ delivery.sent
  length : delivery.sent.length = delivery.total.toNat
  writes : delivery.result =
    .ok ((delivery.total.toNat + delivery.pageBytes - 1) / delivery.pageBytes)

namespace Sender

variable {Source : Type} [WordSource Source]

/-- No attempt of any delivery stops the writing. -/
def Undisturbed (sender : Sender Source) (orders : List Order) : Prop :=
  ∀ delivery ∈ sender.deliverAll orders,
    ¬delivery.before.stream.Disturbed delivery.after.stream

/-- Streams that take all bytes in the end are never disturbed. -/
theorem undisturbed_of_takesAll
    {sender : Sender Source}
    {orders : List Order}
    (first : sender.stream.script.TakesAll)
    (others : ∀ order ∈ orders, ∀ stream, order.stream = some stream ->
      stream.script.TakesAll) : sender.Undisturbed orders := by
  induction orders generalizing sender with
  | nil =>
      intro delivery member
      cases member
  | cons order orders hypothesis =>
      obtain ⟨given, later⟩ := List.forall_mem_cons.mp others
      have takesAll : (sender.equip order).stream.script.TakesAll := by
        cases chosen : order.stream with
        | none =>
            rw [stream_equip, chosen]
            exact first
        | some stream =>
            rw [stream_equip, chosen]
            exact given stream chosen
      have wrote := (sender.equip order).wroteOnly_deliver order.total
      intro delivery member
      rw [deliverAll] at member
      rcases List.mem_cons.mp member with rfl | behind
      · exact Stream.not_disturbed_of_takesAll takesAll _
      · split at behind
        · cases behind
        · exact hypothesis (wrote.script ▸ takesAll) later delivery behind

/-- Every order has been answered in turn by a whole body, these bodies are some
bytes together, and the source is left in some state. -/
structure SendsTogether
    (sender : Sender Source)
    (orders : List Order)
    (bytes : List UInt8)
    (rest : Source) : Prop where
  answers : List.Forall₂ Delivery.Answers (sender.deliverAll orders) orders
  whole : ∀ delivery ∈ sender.deliverAll orders, delivery.Whole
  sent : (sender.deliverAll orders).flatMap Delivery.sent = bytes
  source : (sender.leftBy (sender.deliverAll orders)).source = rest

/-- Sending bodies one after the other does the same as filling one page for all
of them: with its bytes, and in its state of the source, or without an end if
there is none to its filling. Each body is sent as if the page that is used for
it were new. -/
structure SendsAsOnePage
    (sender : Sender Source)
    (orders : List Order) : Prop where
  together : ∀ bytes rest,
    fillPage (Order.bytes orders) sender.source = some (bytes, rest) ->
      sender.SendsTogether orders bytes rest
  endless : fillPage (Order.bytes orders) sender.source = none ->
    ∃ delivery ∈ sender.deliverAll orders,
      delivery.result = .error (.halted .endless)
  fresh : ∀ delivery ∈ sender.deliverAll orders, ∀ filled,
    let other :=
      (delivery.before.withFilled filled).deliver delivery.total
    other.result = delivery.result ∧
      other.after.source = delivery.after.source ∧
      other.after.stream = delivery.after.stream

variable {sender : Sender Source} {total : UInt64}

/-- A delivery that is not disturbed sends the letters of its body. -/
theorem whole_deliver_of_letters
    {body : List UInt8}
    {rest : Source}
    (calm : ¬sender.stream.Disturbed (sender.deliver total).after.stream)
    (drawn : letters total.toNat sender.source = some (body, rest)) :
    (sender.deliver total).Whole ∧ (sender.deliver total).sent = body ∧
      (sender.deliver total).after.source = rest := by
  have sending := sender.sending_deliver total
  generalize result : (sender.deliver total).result = ended at sending
  generalize later : (sender.deliver total).after.source = source at sending
  cases sending with
  | whole drawnToo writing =>
      cases drawn.symm.trans drawnToo
      cases writing with
      | whole wrote calm sent =>
          have isBody := Delivery.sent_eq_of_append sent
          refine ⟨⟨?_, ?_, ?_⟩, isBody, rfl⟩
          · rw [isBody]
            exact sent
          · rw [isBody, length_of_letters drawn]
            rfl
          · rw [result, Nat.zero_add, Pages.length_toList]
            rfl
  | broken index ahead inside drawnAhead writing reached disturbed =>
      exact absurd disturbed calm
  | dry endless => cases drawn.symm.trans endless

/-- A delivery that is not disturbed never ends where the source does not yield
the letters of its body. -/
theorem result_deliver_of_no_letters
    (calm : ¬sender.stream.Disturbed (sender.deliver total).after.stream)
    (endless : letters total.toNat sender.source = none) :
    (sender.deliver total).result = .error (.halted .endless) := by
  have sending := sender.sending_deliver total
  generalize (sender.deliver total).result = ended at sending
  generalize (sender.deliver total).after.source = source at sending
  cases sending with
  | whole drawn writing => cases endless.symm.trans drawn
  | broken index ahead inside drawnAhead writing reached disturbed =>
      exact absurd disturbed calm
  | dry => rfl

theorem Order.bytes_cons (order : Order) (orders : List Order) :
    Order.bytes (order :: orders) =
      order.total.toNat + Order.bytes orders := rfl

variable {orders : List Order}

/-- Behind a body that was sent whole the others follow. -/
theorem deliverAll_cons_of_whole
    {order : Order}
    (whole : ((sender.equip order).deliver order.total).Whole) :
    sender.deliverAll (order :: orders) =
      (sender.equip order).deliver order.total ::
        ((sender.equip order).deliver order.total).after.deliverAll orders := by
  rw [deliverAll]
  have goesOn :
      ((sender.equip order).deliver order.total).isEndless = false := by
    rw [Delivery.isEndless, whole.writes]
  rw [goesOn]
  rfl

/-- The first of the deliveries answers the first of the orders. -/
theorem mem_deliverAll_cons (order : Order) :
    (sender.equip order).deliver order.total ∈
      sender.deliverAll (order :: orders) := by
  rw [deliverAll]
  exact List.mem_cons_self

namespace Undisturbed

variable {order : Order}

theorem first
    (calm : sender.Undisturbed (order :: orders)) :
    ¬(sender.equip order).stream.Disturbed
      ((sender.equip order).deliver order.total).after.stream :=
  calm _ (mem_deliverAll_cons order)

theorem later
    (calm : sender.Undisturbed (order :: orders))
    (whole : ((sender.equip order).deliver order.total).Whole) :
    ((sender.equip order).deliver order.total).after.Undisturbed orders := by
  intro delivery member
  apply calm
  rw [deliverAll_cons_of_whole whole]
  exact List.mem_cons_of_mem _ member

end Undisturbed

/-- Orders whose letters are all drawn are answered by these letters. -/
theorem sendsTogether_of_letters
    {bytes : List UInt8}
    {rest : Source}
    (calm : sender.Undisturbed orders)
    (drawn : letters (Order.bytes orders) sender.source =
      some (bytes, rest)) :
    sender.SendsTogether orders bytes rest := by
  induction orders generalizing sender bytes with
  | nil =>
      cases drawn
      refine ⟨.nil, ?_, rfl, rfl⟩
      intro delivery member
      cases member
  | cons order orders hypothesis =>
      rw [Order.bytes_cons] at drawn
      obtain ⟨body, middle, more, first, second, rfl⟩ :=
        exists_of_letters_add drawn
      obtain ⟨whole, isBody, source⟩ :=
        whole_deliver_of_letters calm.first first
      rw [← source] at second
      have later := hypothesis (calm.later whole) second
      refine ⟨?_, ?_, ?_, ?_⟩
      all_goals rw [deliverAll_cons_of_whole whole]
      · exact .cons (sender.answers_deliver order) later.answers
      · exact List.forall_mem_cons.mpr ⟨whole, later.whole⟩
      · rw [List.flatMap_cons, isBody, later.sent]
      · rw [leftBy_cons, later.source]

/-- Orders for which the letters do not suffice are never all answered. -/
theorem exists_endless_of_no_letters
    (calm : sender.Undisturbed orders)
    (endless : letters (Order.bytes orders) sender.source = none) :
    ∃ delivery ∈ sender.deliverAll orders,
      delivery.result = .error (.halted .endless) := by
  induction orders generalizing sender with
  | nil => cases endless
  | cons order orders hypothesis =>
      rw [Order.bytes_cons, letters_add] at endless
      cases drawn : letters order.total.toNat sender.source with
      | none =>
          exact ⟨_, mem_deliverAll_cons order,
            result_deliver_of_no_letters calm.first drawn⟩
      | some result =>
          obtain ⟨body, middle⟩ := result
          rw [drawn, Option.map_eq_none_iff] at endless
          obtain ⟨whole, _, source⟩ :=
            whole_deliver_of_letters calm.first drawn
          rw [← source] at endless
          obtain ⟨delivery, member, result⟩ :=
            hypothesis (calm.later whole) endless
          rw [deliverAll_cons_of_whole whole]
          exact ⟨delivery, List.mem_cons_of_mem _ member, result⟩

/-- Bodies sent on streams that let the writing go on are one page cut into
pieces. -/
theorem sendsAsOnePage_of_undisturbed
    (calm : sender.Undisturbed orders) : sender.SendsAsOnePage orders where
  together := by
    intro bytes rest filled
    rw [fillPage_eq_letters] at filled
    exact sendsTogether_of_letters calm filled
  endless := by
    intro unfilled
    rw [fillPage_eq_letters] at unfilled
    exact exists_endless_of_no_letters calm unfilled
  fresh := by
    intro delivery member filled
    have same :=
      delivery.before.deliver_withFilled delivery.total filled
    rwa [← eq_deliver_of_mem member] at same

/-- Pages of four bytes, over a stream that takes three bytes at a time and is
interrupted once. -/
def hesitant : Sender KeyStream :=
  { buffer :=
      { pageSize :=
          { bytes := 4, positive := by decide, allocatable := by decide }
        filled := [1, 2] }
    source := .seeded 7
    stream := .start
      { Script.reliable with
        writeCap := some 3
        writeFaults := [(1, .ofKind .interrupted)] } [] }

/-- Five bytes and none, and then six in pages of three bytes over a stream that
takes them one by one. -/
def apart : List Order :=
  [{ total := 5, buffer := none, stream := none },
    { total := 0, buffer := none, stream := none },
    { total := 6
      buffer := some
        { pageSize :=
            { bytes := 3, positive := by decide, allocatable := by decide }
          filled := [] }
      stream := some
        (.start { Script.reliable with writeCap := some 1 } []) }]

theorem takesAll_hesitant : hesitant.stream.script.TakesAll :=
  Script.takesAll_of_interruptions (by decide) (by decide) rfl

theorem sendsAsOnePage_apart :
    hesitant.Undisturbed apart ∧
      hesitant.SendsAsOnePage apart ∧
      ∃ bytes rest, fillPage 11 (KeyStream.seeded 7) = some (bytes, rest) ∧
        hesitant.SendsTogether apart bytes rest := by
  have calm : hesitant.Undisturbed apart := by
    apply undisturbed_of_takesAll takesAll_hesitant
    intro order member stream given
    simp only [apart, List.mem_cons, List.not_mem_nil, or_false] at member
    rcases member with rfl | rfl | rfl
    · cases given
    · cases given
    · cases given
      refine ⟨?_, fun attempt => rfl⟩
      rintro start error ⟨⟩
  have sends := sendsAsOnePage_of_undisturbed calm
  have drawn : (letters 11 (KeyStream.seeded 7)).isSome :=
    isSome_letters_of_accepted (by decide +kernel)
  rw [← fillPage_eq_letters] at drawn
  obtain ⟨⟨bytes, rest⟩, filled⟩ := Option.isSome_iff_exists.mp drawn
  exact ⟨calm, sends, bytes, rest, filled, sends.together bytes rest filled⟩

end Sender
end StreamLoad
