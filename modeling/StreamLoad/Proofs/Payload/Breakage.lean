import Mathlib.Data.List.Chain
import StreamLoad.Proofs.Payload.Deliveries

/-!
# What becomes of a body that breaks off

When a body cannot be sent, the stream has accepted some of its letters, and the
source is behind the page to which the first missing one belongs. The next body
begins with the letters behind this page, and those of the page that were not
accepted are never sent.
-/

namespace StreamLoad

/-- Writing between two moments of a stream has ended at an attempt: the first
fatal one, and the last. -/
structure Stream.StopsAt
    (before after : Stream)
    (last : Nat)
    (error : TransportError) : Prop where
  started : before.attempts ≤ last
  calm : before.CalmUntil last
  fatal : before.script.fatalAt last = some error
  ended : after.attempts = last + 1

/-- A sending that fails has broken off in some page, at the first fatal
attempt. -/
theorem Payload.Sending.exists_broken
    {Source : Type}
    [WordSource Source]
    {pages : Pages}
    {written : Nat}
    {source later : Source}
    {stream after : Stream}
    {error : TransportError}
    (sending : Sending pages written source stream (.error (.failed error))
      later after) :
    (∃ index ahead accepted,
      pages.bytesBefore index < pages.remaining.toNat ∧
        letters (pages.bytesThrough index) source = some (ahead, later) ∧
        accepted <+: ahead ∧
        pages.bytesBefore index ≤ accepted.length ∧
        accepted.length < pages.bytesThrough index ∧
        after.sent = stream.sent ++ accepted) ∧
      ∃ last, stream.StopsAt after last error := by
  cases sending with
  | broken index ahead inside drawn writing reached disturbed =>
      cases writing with
      | cut accepted missing wrote started calm fatal ended sent split
          proper =>
          have missed := List.length_pos_iff.mpr proper
          have length := length_of_letters drawn
          rw [split, List.length_append] at length
          rw [sent, List.length_append] at reached
          exact
            ⟨⟨index, ahead, accepted, inside, drawn,
                split ▸ List.prefix_append accepted missing, by omega,
                by omega, sent⟩,
              _, started, calm, fatal, ended⟩

namespace Delivery

variable {Source : Type} [WordSource Source]

/-- A delivery has broken off in the page of some index. The stream has accepted
the letters in front of the page and a proper part of its own, and the source is
behind all of them. -/
structure BreaksIn
    (delivery : Delivery Source)
    (page : Nat)
    (ahead accepted : List UInt8) : Prop where
  inside : page * delivery.pageBytes < delivery.total.toNat
  drawn :
    letters (min delivery.total.toNat ((page + 1) * delivery.pageBytes))
      delivery.before.source = some (ahead, delivery.after.source)
  begun : accepted <+: ahead
  reached : page * delivery.pageBytes ≤ accepted.length
  short : accepted.length <
    min delivery.total.toNat ((page + 1) * delivery.pageBytes)
  sent : delivery.after.stream.sent = delivery.before.stream.sent ++ accepted

/-- What can be said of a delivery by how it ended: the letters of the body were
sent, or it broke off in one of its pages with the error of the first fatal
attempt, or it never ended because of the source or of the stream. -/
structure Accounted (delivery : Delivery Source) : Prop where
  whole : ∀ writes, delivery.result = .ok writes ->
    ∃ body,
      letters delivery.total.toNat delivery.before.source =
          some (body, delivery.after.source) ∧
        delivery.after.stream.sent = delivery.before.stream.sent ++ body
  failed : ∀ error, delivery.result = .error (.failed error) ->
    (∃ page ahead accepted, delivery.BreaksIn page ahead accepted) ∧
      ∃ last, delivery.before.stream.StopsAt delivery.after.stream last error
  endless : ∀ halt, delivery.result = .error (.halted halt) ->
    halt = .endless ∧
      (letters delivery.total.toNat delivery.before.source = none ∨
        ¬delivery.before.stream.script.Settles)

end Delivery

namespace Sender

variable {Source : Type} [WordSource Source]

/-- Every delivery is accounted for. It is made with what those before it have
left, its source in the state in which they left it, and every order is answered
unless the sending of some body never ends. -/
structure AccountsFor
    (sender : Sender Source)
    (orders : List Order) : Prop where
  accounted : ∀ delivery ∈ sender.deliverAll orders, delivery.Accounted
  threaded : ∀ index order delivery, orders[index]? = some order ->
    (sender.deliverAll orders)[index]? = some delivery ->
      delivery.total = order.total ∧
        delivery.before =
          (sender.leftBy ((sender.deliverAll orders).take index)).equip order
  next : List.IsChain
    (fun earlier later : Delivery Source =>
      later.before.source = earlier.after.source)
    (sender.deliverAll orders)
  answered : (sender.deliverAll orders).length ≤ orders.length
  complete :
    (∀ delivery ∈ sender.deliverAll orders, delivery.isEndless = false) ->
      (sender.deliverAll orders).length = orders.length

/-- Every delivery is accounted for, whatever the stream does to it. -/
theorem accounted_deliver (sender : Sender Source) (total : UInt64) :
    (sender.deliver total).Accounted := by
  have sending := sender.sending_deliver total
  refine ⟨?_, ?_, ?_⟩
  · intro writes result
    rw [result] at sending
    generalize (sender.deliver total).after.source = later at sending ⊢
    cases sending with
    | whole drawn writing =>
        cases writing with
        | whole wrote calm sent => exact ⟨_, drawn, sent⟩
  · intro error result
    rw [result] at sending
    obtain ⟨⟨page, ahead, accepted, inside, drawn, begun, reached, short,
      sent⟩, stops⟩ := sending.exists_broken
    exact ⟨⟨page, ahead, accepted,
      ⟨inside, drawn, begun, reached, short, sent⟩⟩, stops⟩
  · intro halt result
    rw [result] at sending
    generalize (sender.deliver total).after.source = later at sending
    generalize (sender.deliver total).after.stream = after at sending
    cases sending with
    | broken index ahead inside drawn writing reached disturbed =>
        cases writing with
        | interrupted accepted missing wrote unsettled =>
            exact ⟨rfl, .inr unsettled⟩
    | dry endless => exact ⟨rfl, .inl endless⟩

variable {sender : Sender Source} {orders : List Order}

theorem accounted_of_mem
    {delivery : Delivery Source}
    (member : delivery ∈ sender.deliverAll orders) : delivery.Accounted := by
  rw [eq_deliver_of_mem member]
  exact accounted_deliver _ _

theorem before_of_getElem?
    {index : Nat}
    {order : Order}
    {delivery : Delivery Source}
    (asked : orders[index]? = some order)
    (found : (sender.deliverAll orders)[index]? = some delivery) :
    delivery.total = order.total ∧
      delivery.before =
        (sender.leftBy ((sender.deliverAll orders).take index)).equip
          order := by
  induction index generalizing sender orders with
  | zero =>
      cases orders with
      | nil => cases asked
      | cons first orders =>
          cases asked
          cases found
          exact ⟨rfl, rfl⟩
  | succ index hypothesis =>
      cases orders with
      | nil => cases asked
      | cons first orders =>
          rw [deliverAll] at found ⊢
          rw [List.getElem?_cons_succ] at asked found
          rw [List.take_succ_cons, leftBy_cons]
          split at found
          next endless => cases found
          next goesOn =>
            rw [if_neg goesOn]
            exact hypothesis asked found

theorem isChain_deliverAll (sender : Sender Source) (orders : List Order) :
    List.IsChain
      (fun earlier later : Delivery Source =>
        later.before.source = earlier.after.source)
      (sender.deliverAll orders) := by
  induction orders generalizing sender with
  | nil => exact .nil
  | cons order orders hypothesis =>
      rw [deliverAll]
      split
      · exact .singleton _
      · refine List.isChain_cons.mpr ⟨?_, hypothesis _⟩
        intro later first
        cases orders with
        | nil => cases first
        | cons next orders =>
            cases first
            rfl

theorem length_deliverAll_le (sender : Sender Source) (orders : List Order) :
    (sender.deliverAll orders).length ≤ orders.length := by
  induction orders generalizing sender with
  | nil => exact Nat.le_refl 0
  | cons order orders hypothesis =>
      rw [deliverAll, List.length_cons, List.length_cons]
      split
      · exact Nat.succ_le_succ (Nat.zero_le _)
      · exact Nat.succ_le_succ (hypothesis _)

theorem length_deliverAll_of_goesOn
    (goesOn : ∀ delivery ∈ sender.deliverAll orders,
      delivery.isEndless = false) :
    (sender.deliverAll orders).length = orders.length := by
  induction orders generalizing sender with
  | nil => rfl
  | cons order orders hypothesis =>
      rw [deliverAll] at goesOn ⊢
      obtain ⟨first, others⟩ := List.forall_mem_cons.mp goesOn
      rw [if_neg (Bool.eq_false_iff.mp first)] at others ⊢
      rw [List.length_cons, List.length_cons, hypothesis others]

/-- Whatever happens to bodies that are sent one after the other, it is known of
each what the stream has got of it and where the source is behind it. -/
theorem accountsFor_deliverAll
    (sender : Sender Source)
    (orders : List Order) : sender.AccountsFor orders where
  accounted := fun _ => accounted_of_mem
  threaded := fun _ _ _ => before_of_getElem?
  next := isChain_deliverAll sender orders
  answered := length_deliverAll_le sender orders
  complete := length_deliverAll_of_goesOn

end Sender
end StreamLoad
