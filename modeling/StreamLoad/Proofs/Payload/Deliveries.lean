import StreamLoad.Payload.Buffer
import StreamLoad.Proofs.Payload.Sending

/-!
# Bodies sent one after the other

Bodies are sent from one source, each with the page and the stream of the body
before it or with others of its own. What is in a page does not matter: it is
overwritten before it is written. After a body that could not be sent the next
one is sent all the same; only behind one whose sending never ends there is no
other.
-/

namespace StreamLoad

namespace PageBuffer

variable {Source : Type} [WordSource Source]

theorem overwrite_eq_letters
    (slice : List UInt8)
    (source : Source) :
    overwrite slice [] source = letters slice.length source := by
  rw [overwrite_eq_collectLetters, ← fillPage_eq_letters]
  rfl

theorem sendPages_of_none
    {pages : Pages}
    (step : pages.next? = none)
    (written : Nat)
    (buffer : PageBuffer)
    (source : Source)
    (stream : Stream) :
    sendPages pages written buffer source stream =
      (.ok written, buffer, source, stream) := by
  rw [sendPages]
  split
  · rfl
  · next found => simp [step] at found

/-- The front of the page is filled and written, and then the pages behind
it. Nothing else of the page is written. -/
theorem sendPages_of_some
    {pages rest : Pages}
    {size : UInt64}
    (step : pages.next? = some (size, rest))
    (written : Nat)
    (buffer : PageBuffer)
    (source : Source)
    (stream : Stream) :
    sendPages pages written buffer source stream =
      match letters size.toNat source with
      | none => (.error (.halted .endless), buffer, source, stream)
      | some (page, later) =>
          match stream.writeAll page with
          | (.error stop, after) =>
              (.error stop, buffer.refill page, later, after)
          | (.ok (), after) =>
              sendPages rest (written + 1) (buffer.refill page) later
                after := by
  rw [sendPages]
  split
  · next found => simp [step] at found
  · next found =>
      rw [step] at found
      cases found
      rw [overwrite_eq_letters, length_front]
      cases drawn : letters size.toNat source with
      | none => rfl
      | some result =>
          obtain ⟨page, later⟩ := result
          have isPage : (buffer.refill page).front size.toNat = page := by
            rw [← length_of_letters drawn, front_refill]
          dsimp only
          generalize (buffer.refill page).front size.toNat = front at isPage ⊢
          subst isPage
          rfl

/-- Sending out of a page that is kept does what sending does, whatever is in
the page. -/
theorem exists_sendPages_eq
    (pages : Pages)
    (written : Nat)
    (buffer : PageBuffer)
    (source : Source)
    (stream : Stream) :
    ∃ refilled : PageBuffer,
      refilled.pageSize = buffer.pageSize ∧
        sendPages pages written buffer source stream =
          ((Payload.sendPages pages written source stream).1, refilled,
            (Payload.sendPages pages written source stream).2) := by
  fun_induction Payload.sendPages pages written source stream
    generalizing buffer with
  | case1 pages written source stream step =>
      exact ⟨buffer, rfl, sendPages_of_none step written buffer source stream⟩
  | case2 pages written source stream size rest step smaller endless =>
      rw [fillPage_eq_letters] at endless
      refine ⟨buffer, rfl, ?_⟩
      rw [sendPages_of_some step, endless]
  | case3 pages written source stream size rest step smaller page later
      filled stop after failed =>
      rw [fillPage_eq_letters] at filled
      refine ⟨buffer.refill page, rfl, ?_⟩
      rw [sendPages_of_some step, filled]
      dsimp only
      rw [failed]
  | case4 pages written source stream size rest step smaller page later
      filled after accepted hypothesis =>
      rw [fillPage_eq_letters] at filled
      obtain ⟨refilled, samePage, sends⟩ := hypothesis (buffer.refill page)
      refine ⟨refilled, samePage, ?_⟩
      rw [sendPages_of_some step, filled]
      dsimp only
      rw [accepted]
      exact sends

theorem exists_send_eq
    (buffer : PageBuffer)
    (total : UInt64)
    (source : Source)
    (stream : Stream) :
    ∃ refilled : PageBuffer,
      refilled.pageSize = buffer.pageSize ∧
        buffer.send total source stream =
          ((Payload.send buffer.pageSize total source stream).1, refilled,
            (Payload.send buffer.pageSize total source stream).2) :=
  exists_sendPages_eq _ _ _ _ _

end PageBuffer

/-- What a body is sent with: the page that is filled, the source of its
letters, and the stream that it goes to. -/
structure Sender (Source : Type) where
  buffer : PageBuffer
  source : Source
  stream : Stream

/-- A body that is asked for, and from then on another page or another stream,
if they are given. -/
structure Order where
  total : UInt64
  buffer : Option PageBuffer
  stream : Option Stream

/-- The number of bytes of some bodies together. -/
def Order.bytes (orders : List Order) : Nat :=
  (orders.map fun order => order.total.toNat).sum

/-- A body that has been sent or not: what it was to be sent with, its length,
how that ended, and what is left for the next. -/
structure Delivery (Source : Type) where
  before : Sender Source
  total : UInt64
  result : Except (Stop TransportError) Nat
  after : Sender Source

namespace Delivery

variable {Source : Type}

/-- The sending of the body never ends. -/
def isEndless (delivery : Delivery Source) : Bool :=
  match delivery.result with
  | .error (.halted _) => true
  | .error (.failed _) => false
  | .ok _ => false

/-- The bytes that the stream has accepted of the body. -/
def sent (delivery : Delivery Source) : List UInt8 :=
  delivery.after.stream.sent.drop delivery.before.stream.sent.length

/-- The number of bytes in a page. -/
def pageBytes (delivery : Delivery Source) : Nat :=
  delivery.before.buffer.pageSize.bytes.toNat

/-- A delivery answers an order: it has the length and, where they are given,
the page and the stream that were asked for. -/
structure Answers (delivery : Delivery Source) (order : Order) : Prop where
  total : delivery.total = order.total
  buffer : ∀ buffer, order.buffer = some buffer ->
    delivery.before.buffer = buffer
  stream : ∀ stream, order.stream = some stream ->
    delivery.before.stream = stream

theorem sent_eq_of_append
    {delivery : Delivery Source}
    {body : List UInt8}
    (grown : delivery.after.stream.sent =
      delivery.before.stream.sent ++ body) : delivery.sent = body := by
  rw [sent, grown, List.drop_left]

end Delivery

namespace Sender

variable {Source : Type}

/-- Go over to another page and another stream, if they are given. -/
def equip (sender : Sender Source) (order : Order) : Sender Source :=
  { sender with
    buffer := order.buffer.getD sender.buffer
    stream := order.stream.getD sender.stream }

/-- The sender with other bytes in its page. -/
def withFilled (sender : Sender Source) (filled : List UInt8) :
    Sender Source :=
  { sender with buffer := { sender.buffer with filled } }

@[simp] theorem stream_equip (sender : Sender Source) (order : Order) :
    (sender.equip order).stream = order.stream.getD sender.stream := rfl

/-- What is left behind some deliveries. -/
def leftBy (sender : Sender Source) (deliveries : List (Delivery Source)) :
    Sender Source :=
  (deliveries.getLast?.map Delivery.after).getD sender

@[simp] theorem leftBy_cons
    (sender : Sender Source)
    (delivery : Delivery Source)
    (deliveries : List (Delivery Source)) :
    sender.leftBy (delivery :: deliveries) =
      delivery.after.leftBy deliveries := by
  unfold leftBy
  rw [List.getLast?_cons]
  cases deliveries.getLast? <;> rfl

variable [WordSource Source]

/-- Send a body of some length. -/
def deliver (sender : Sender Source) (total : UInt64) : Delivery Source :=
  let sending := sender.buffer.send total sender.source sender.stream
  { before := sender
    total
    result := sending.1
    after :=
      { buffer := sending.2.1
        source := sending.2.2.1
        stream := sending.2.2.2 } }

/-- Send bodies one after the other, up to one whose sending never ends. -/
def deliverAll : List Order -> Sender Source -> List (Delivery Source)
  | [], _ => []
  | order :: orders, sender =>
      let delivery := (sender.equip order).deliver order.total
      delivery ::
        if delivery.isEndless then [] else deliverAll orders delivery.after

/-- What is delivered is delivered by the sender that is there. -/
theorem eq_deliver_of_mem
    {sender : Sender Source}
    {orders : List Order}
    {delivery : Delivery Source}
    (member : delivery ∈ sender.deliverAll orders) :
    delivery = delivery.before.deliver delivery.total := by
  induction orders generalizing sender with
  | nil => cases member
  | cons order orders hypothesis =>
      rw [deliverAll] at member
      rcases List.mem_cons.mp member with rfl | later
      · rfl
      · split at later
        · cases later
        · exact hypothesis later

theorem answers_deliver (sender : Sender Source) (order : Order) :
    ((sender.equip order).deliver order.total).Answers order where
  total := rfl
  buffer := by
    intro buffer given
    change order.buffer.getD sender.buffer = buffer
    rw [given]
    rfl
  stream := by
    intro stream given
    change order.stream.getD sender.stream = stream
    rw [given]
    rfl

/-- A delivery is a sending of the body with pages of the same size. -/
theorem exists_deliver_eq (sender : Sender Source) (total : UInt64) :
    ∃ refilled : PageBuffer,
      refilled.pageSize = sender.buffer.pageSize ∧
        sender.deliver total =
          { before := sender
            total
            result := (Payload.send sender.buffer.pageSize total
              sender.source sender.stream).1
            after :=
              { buffer := refilled
                source := (Payload.send sender.buffer.pageSize total
                  sender.source sender.stream).2.1
                stream := (Payload.send sender.buffer.pageSize total
                  sender.source sender.stream).2.2 } } := by
  obtain ⟨refilled, samePage, sends⟩ :=
    sender.buffer.exists_send_eq total sender.source sender.stream
  refine ⟨refilled, samePage, ?_⟩
  unfold deliver
  rw [sends]

theorem sending_deliver (sender : Sender Source) (total : UInt64) :
    Payload.Sending (sender.buffer.pageSize.pages total) 0 sender.source
      sender.stream (sender.deliver total).result
      (sender.deliver total).after.source
      (sender.deliver total).after.stream := by
  obtain ⟨refilled, _, delivered⟩ := sender.exists_deliver_eq total
  rw [delivered]
  exact Payload.sending_sendPages _ _ _ _

/-- A delivery does nothing on its stream but write. -/
theorem wroteOnly_deliver (sender : Sender Source) (total : UInt64) :
    sender.stream.WroteOnly (sender.deliver total).after.stream := by
  obtain ⟨refilled, _, delivered⟩ := sender.exists_deliver_eq total
  have carried := congrArg Prod.snd (Payload.observed_sendPages
    (sender.buffer.pageSize.pages total) 0 sender.source sender.stream)
  have wrote := Dictation.wroteOnly_carryOut
    (Payload.dictate (sender.buffer.pageSize.pages total).toList 0
      sender.source) sender.stream
  rw [← carried] at wrote
  rw [delivered]
  exact wrote

/-- What is in the page makes no difference to a delivery. -/
theorem deliver_withFilled
    (sender : Sender Source)
    (total : UInt64)
    (filled : List UInt8) :
    ((sender.withFilled filled).deliver total).result =
        (sender.deliver total).result ∧
      ((sender.withFilled filled).deliver total).after.source =
        (sender.deliver total).after.source ∧
      ((sender.withFilled filled).deliver total).after.stream =
        (sender.deliver total).after.stream := by
  obtain ⟨refilled, _, delivered⟩ := sender.exists_deliver_eq total
  obtain ⟨other, _, deliveredToo⟩ :=
    (sender.withFilled filled).exists_deliver_eq total
  rw [delivered, deliveredToo]
  exact ⟨rfl, rfl, rfl⟩

end Sender
end StreamLoad
