import Direlera.Session.Ordering

/-!
# Messages are processed once and in order

An honest client's message `index` carries its index modulo `2 ^ 16`. However its datagrams are
lost, repeated, bundled and reordered, the session processes a run of its messages which starts
at the first one, and what it keeps comes later. The messages of that run are all that have
arrived in a row, unless a datagram which holds message 0 alone starts a new sequence while
messages are pending.
-/

namespace Direlera.Session

open Direlera.Library Direlera.Wire

namespace Inbound

/-! ## Datagrams -/

/-- The loop over the messages of one datagram. -/
def arrivals (sent : Nat → ParsedMessage) : Transducer Inbound Nat Unit where
  step session index := ((), session.processMessage (sent index))

/-- The datagrams of a session, each with the indices of its messages. -/
def datagrams (sent : Nat → ParsedMessage) : Transducer Inbound (List Nat) Unit where
  step session indices := ((), session.processMessages (indices.map sent))

/-- The session after the loop which looks for the start of a sequence. -/
def opened (session : Inbound) (messages : List ParsedMessage) : Inbound :=
  messages.foldl (startSequence messages.length) session

/-- Every message arrives, at its turn in the loop, within the window around the number of
processed messages. -/
def Within (sent : Nat → ParsedMessage) (session : Inbound) (indices : List Nat) : Prop :=
  (arrivals sent).Along (fun session index => InWindow session.handled.length index)
    (session.opened (indices.map sent)) indices

/-- No message finds the buffer full. -/
def Spacious (sent : Nat → ParsedMessage) (session : Inbound) (indices : List Nat) : Prop :=
  (arrivals sent).Along
    (fun session _ => session.pendingMessages.length < maxPendingSessionMessages)
    (session.opened (indices.map sent)) indices

/-- A datagram starts a new sequence while messages are pending. -/
def Forgets (sent : Nat → ParsedMessage) (session : Inbound) (indices : List Nat) : Prop :=
  (∃ index ∈ indices, session.StartsSequence indices.length (sent index)) ∧
    session.pendingMessages.length ≠ 0

/-- The indices which have arrived. -/
def arrived (deliveries : List (List Nat)) : Set Nat :=
  {index | ∃ indices ∈ deliveries, index ∈ indices}

variable {sent : Nat → ParsedMessage} {session : Inbound} {order : Reorder}

theorem final_arrivals (sent : Nat → ParsedMessage) (session : Inbound) (indices : List Nat) :
    (arrivals sent).final session indices = (indices.map sent).foldl processMessage session := by
  induction indices generalizing session with
  | nil => rfl
  | cons index rest ih => exact ih (session.processMessage (sent index))

/-- A datagram looks for the start of a sequence and then takes its messages one by one. -/
theorem step_datagrams (sent : Nat → ParsedMessage) (session : Inbound) (indices : List Nat) :
    ((datagrams sent).step session indices).2 =
      (arrivals sent).final (session.opened (indices.map sent)) indices :=
  (final_arrivals sent _ indices).symm

/-! ## One datagram -/

/-- The first loop keeps the order, with what is pending or without it. -/
theorem Represents.opened (represents : Represents sent session order) (settled : order.Settled)
    (indices : List Nat) :
    ∃ after : Reorder, Represents sent (session.opened (indices.map sent)) after ∧ after.Settled ∧
      (¬ Forgets sent session indices → after = order) := by
  rw [Inbound.opened, startSequences_eq]
  split
  next starts =>
    obtain ⟨message, member, here⟩ := starts
    refine ⟨order.forget, represents.restarted here.2.2, order.settled_forget, ?_⟩
    intro keeps
    obtain ⟨index, listed, rfl⟩ := List.mem_map.mp member
    rw [List.length_map] at here
    have empty : session.pendingMessages.length = 0 := by
      by_contra some_held
      exact keeps ⟨⟨index, listed, here⟩, some_held⟩
    exact Reorder.forget_of_empty (represents.ahead_eq_empty empty)
  next => exact ⟨order, represents, settled, fun _ => rfl⟩

/-- The second loop receives the messages of a datagram when the buffer has room for them. -/
theorem Represents.arrivals (numbered : Numbered sent) (represents : Represents sent session order)
    (settled : order.Settled) {indices : List Nat}
    (within : (arrivals sent).Along (fun session index => InWindow session.handled.length index)
      session indices) :
    ∃ after : Reorder, Represents sent ((Inbound.arrivals sent).final session indices) after ∧
      after.Settled ∧
      ((Inbound.arrivals sent).Along
          (fun session _ => session.pendingMessages.length < maxPendingSessionMessages)
          session indices →
        after.received = order.received ∪ {index | index ∈ indices}) := by
  induction indices generalizing session order with
  | nil => exact ⟨order, represents, settled, fun _ => by simp⟩
  | cons index rest ih =>
      obtain ⟨window, later⟩ := within
      rw [represents.length_handled] at window
      obtain ⟨middle, step, calm, outcome⟩ := represents.processMessage numbered settled window
      obtain ⟨after, final, settles, received⟩ := ih step calm later
      refine ⟨after, final, settles, ?_⟩
      rintro ⟨room, rooms⟩
      rw [received rooms]
      rcases outcome with grown | ⟨full, _⟩
      · rw [grown]
        ext other
        simp only [Set.mem_union, Set.mem_insert_iff, Set.mem_ofPred_eq, List.mem_cons]
        tauto
      · exact absurd full (Nat.not_le_of_lt room)

/-- One datagram. -/
theorem Represents.datagram (numbered : Numbered sent) (represents : Represents sent session order)
    (settled : order.Settled) {indices : List Nat} (within : Within sent session indices) :
    ∃ after : Reorder, Represents sent ((datagrams sent).step session indices).2 after ∧
      after.Settled ∧
      (Spacious sent session indices → ¬ Forgets sent session indices →
        after.received = order.received ∪ {index | index ∈ indices}) := by
  obtain ⟨first, opens, calm, same⟩ := represents.opened settled indices
  obtain ⟨after, final, settles, received⟩ := opens.arrivals numbered calm within
  rw [step_datagrams]
  refine ⟨after, final, settles, ?_⟩
  intro room keeps
  rw [received room, same keeps]

/-! ## Every run -/

/-- The session represents an order in which nothing kept is due. -/
def Ordered (sent : Nat → ParsedMessage) (session : Inbound) : Prop :=
  ∃ order, Represents sent session order ∧ order.Settled

theorem ordered_new (sent : Nat → ParsedMessage) : Ordered sent new :=
  ⟨.fresh, represents_new sent, Reorder.settled_fresh⟩

/-- Whatever happens to the datagrams of an honest client, its messages are handled once and in
order, and what is pending comes later. -/
theorem handled_in_order {sent : Nat → ParsedMessage} (numbered : Numbered sent)
    {deliveries : List (List Nat)} (within : (datagrams sent).Along (Within sent) new deliveries) :
    let session := (datagrams sent).final new deliveries
    session.handled = (List.range session.handled.length).map sent ∧
      session.packetCounter = .ofNat session.handled.length ∧
      ∀ key message, session.pendingMessages.find key = some message →
        ∃ index, session.handled.length < index ∧ key = .ofNat index ∧ message = sent index := by
  intro session
  have ordered : Ordered sent session :=
    (datagrams sent).invariant_along (Ordered sent)
      (fun state indices ⟨order, represents, settled⟩ window => by
        obtain ⟨after, final, settles, _⟩ := represents.datagram numbered settled window
        exact ⟨after, final, settles⟩)
      (ordered_new sent) within
  obtain ⟨order, represents, settled⟩ := ordered
  rw [represents.length_handled]
  refine ⟨represents.handled, represents.counter, ?_⟩
  intro key message found
  obtain ⟨index, held, number, same⟩ := (represents.pending key message).mp found
  exact ⟨index, settled index held, number, same⟩

/-- A message whose payload tells its index. -/
def told (index : Nat) : ParsedMessage := ⟨.ofNat index, 2, 0x08, [.ofNat index]⟩

theorem numbered_told : Numbered told := fun _ => rfl

/-- Message 2 overtakes the others and the second datagram is repeated. -/
theorem handled_in_order_overtaken :
    let session := (datagrams told).final new [[2, 1], [3], [1, 0], [1, 0]]
    (datagrams told).Along (Within told) new [[2, 1], [3], [1, 0], [1, 0]] ∧
      session.handled = (List.range session.handled.length).map told ∧
      session.handled.length = 4 := by
  have within : (datagrams told).Along (Within told) new [[2, 1], [3], [1, 0], [1, 0]] := by
    simp only [Transducer.Along, Within, InWindow]
    decide
  exact ⟨within, (handled_in_order numbered_told within).1, by decide⟩

/-! ## Nothing which arrived is lost -/

/-- A datagram of a run in which messages are within the window and find room, and no
sequence is started over pending messages. -/
def Allowed (sent : Nat → ParsedMessage) (session : Inbound) (indices : List Nat) : Prop :=
  Within sent session indices ∧ Spacious sent session indices ∧ ¬ Forgets sent session indices

/-- The session has received exactly the messages of the datagrams. -/
def Received (sent : Nat → ParsedMessage) (deliveries : List (List Nat)) (session : Inbound) :
    Prop :=
  ∃ order, Represents sent session order ∧ order.Settled ∧ order.received = arrived deliveries

theorem arrived_concat (deliveries : List (List Nat)) (indices : List Nat) :
    arrived (deliveries ++ [indices]) = arrived deliveries ∪ {index | index ∈ indices} := by
  ext index
  simp only [arrived, List.mem_append, List.mem_singleton, Set.mem_ofPred_eq, Set.mem_union]
  constructor
  · rintro ⟨datagram, earlier | rfl, member⟩
    · exact .inl ⟨datagram, earlier, member⟩
    · exact .inr member
  · rintro (⟨datagram, earlier, member⟩ | member)
    · exact ⟨datagram, .inl earlier, member⟩
    · exact ⟨indices, .inr rfl, member⟩

theorem received_new (sent : Nat → ParsedMessage) : Received sent [] new :=
  ⟨.fresh, represents_new sent, Reorder.settled_fresh, by simp [arrived]⟩

theorem received_final (numbered : Numbered sent) {deliveries : List (List Nat)}
    (allowed : (datagrams sent).Along (Allowed sent) new deliveries) :
    Received sent deliveries ((datagrams sent).final new deliveries) := by
  apply (datagrams sent).history_along (Received sent) ?_ (received_new sent) allowed
  rintro prior state indices ⟨order, represents, settled, all⟩ ⟨within, room, keeps⟩
  obtain ⟨after, final, settles, received⟩ := represents.datagram numbered settled within
  exact ⟨after, final, settles, by rw [received room keeps, all, arrived_concat]⟩

/-- Received messages are handled up to the first missing one. -/
theorem Received.handled {deliveries : List (List Nat)} (received : Received sent deliveries session)
    {count : Nat} (missing : FirstMissing (arrived deliveries) count) :
    session.handled = (List.range count).map sent := by
  obtain ⟨order, represents, settled, all⟩ := received
  have next : FirstMissing (arrived deliveries) order.next := all ▸ settled.firstMissing
  rw [missing.unique next]
  exact represents.handled

/-- When no sequence is started over pending messages, the messages handled are the longest run
of those which have arrived, and whatever else brings the same messages has the same outcome. -/
theorem arrived_run_handled {sent : Nat → ParsedMessage} (numbered : Numbered sent)
    {deliveries : List (List Nat)}
    (allowed : (datagrams sent).Along (Allowed sent) new deliveries) :
    (∃ count, FirstMissing (arrived deliveries) count ∧
      ((datagrams sent).final new deliveries).handled = (List.range count).map sent) ∧
    ∀ others, (datagrams sent).Along (Allowed sent) new others →
      arrived others = arrived deliveries →
      ((datagrams sent).final new others).handled =
        ((datagrams sent).final new deliveries).handled := by
  have received := received_final numbered allowed
  obtain ⟨count, missing⟩ : ∃ count, FirstMissing (arrived deliveries) count := by
    obtain ⟨order, _, settled, all⟩ := received
    exact ⟨order.next, all ▸ settled.firstMissing⟩
  have handled := received.handled missing
  constructor
  · exact ⟨count, missing, handled⟩
  · intro others fine same
    rw [handled]
    exact (received_final numbered fine).handled (same ▸ missing)

theorem arrived_run_handled_overtaken :
    (∃ count, FirstMissing (arrived [[2, 1], [3], [1, 0], [5]]) count ∧
      ((datagrams told).final new [[2, 1], [3], [1, 0], [5]]).handled =
        (List.range count).map told) ∧
    ∀ others, (datagrams told).Along (Allowed told) new others →
      arrived others = arrived [[2, 1], [3], [1, 0], [5]] →
      ((datagrams told).final new others).handled =
        ((datagrams told).final new [[2, 1], [3], [1, 0], [5]]).handled := by
  have allowed : (datagrams told).Along (Allowed told) new [[2, 1], [3], [1, 0], [5]] := by
    simp only [Transducer.Along, Allowed, Within, Spacious, Forgets, InWindow]
    decide
  exact arrived_run_handled numbered_told allowed

/-- Message 1 comes first and waits; the datagram with message 0 alone clears it. -/
theorem pending_cleared_by_first_message :
    (datagrams told).Along (fun session indices => Within told session indices ∧
        Spacious told session indices) new [[1], [0]] ∧
      FirstMissing (arrived [[1], [0]]) 2 ∧
      ((datagrams told).final new [[1], [0]]).handled = (List.range 1).map told ∧
      ((datagrams told).final new [[1], [0]]).handled ≠ (List.range 2).map told := by
  refine ⟨?_, ?_, by decide, by decide⟩
  · simp only [Transducer.Along, Within, Spacious, InWindow]
    decide
  · constructor
    · simp only [arrived, Set.mem_ofPred_eq]
      decide
    · simp only [arrived, Set.mem_ofPred_eq]
      decide

end Inbound

end Direlera.Session
