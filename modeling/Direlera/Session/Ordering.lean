import Direlera.Library.KeyedBuffer
import Direlera.Library.Reorder
import Direlera.Library.Transducer
import Direlera.Wire.Parsing

/-!
# The ordering of a session's messages

Each session expects the message number of its counter. A message which comes too early waits
for its turn in a buffer of at most 256 messages, one with an old number is dropped. The
number is the index of the message modulo `2 ^ 16`; within half a range around the counter the
indices can be told apart, and there the session is a `Reorder` over unbounded indices.
-/

namespace Direlera.Session

open Direlera.Library Direlera.Sync Direlera.Wire

/-- The local state of `handle_session` which orders messages, and the messages which
`handle_message` was given so far. -/
structure Inbound where
  packetCounter : UInt16
  pendingMessages : KeyedBuffer UInt16 ParsedMessage
  handled : List ParsedMessage
deriving DecidableEq, Repr

namespace Inbound

/-- `MAX_PENDING_SESSION_MESSAGES`. -/
def maxPendingSessionMessages : Nat := 256

/-- A session which has received nothing. -/
def new : Inbound := ⟨0, .empty, []⟩

/-- `is_future_message`. -/
def isFutureMessage (messageNumber expected : UInt16) : Bool :=
  let distance := messageNumber - expected
  distance ≠ 0 && distance < 0xFFFF / 2

/-- `process_ordered_message`. -/
def processOrderedMessage (session : Inbound) (message : ParsedMessage) : Inbound :=
  { session with
    packetCounter := session.packetCounter + 1
    handled := session.handled ++ [message] }

/-- The `while` loop over the buffer, for at most `bound` messages. -/
def drainWithin : Nat → Inbound → Inbound
  | 0, session => session
  | bound + 1, session =>
      match session.pendingMessages.find session.packetCounter with
      | none => session
      | some message =>
          drainWithin bound (processOrderedMessage
            { session with
              pendingMessages := session.pendingMessages.remove session.packetCounter } message)

/-- The `while` loop; every round removes a message from the buffer. -/
def drain (session : Inbound) : Inbound := drainWithin session.pendingMessages.length session

/-- One round of the loop over the messages of a datagram. -/
def processMessage (session : Inbound) (message : ParsedMessage) : Inbound :=
  if message.messageNumber = session.packetCounter then
    (session.processOrderedMessage message).drain
  else if isFutureMessage message.messageNumber session.packetCounter = true ∧
      session.pendingMessages.length < maxPendingSessionMessages then
    { session with
      pendingMessages := session.pendingMessages.insertNew message.messageNumber message }
  else session

/-- Message number 0 signals the start of a new sequence. -/
def StartsSequence (session : Inbound) (count : Nat) (message : ParsedMessage) : Prop :=
  message.messageNumber = 0 ∧ count = 1 ∧ session.packetCounter = 0

instance (session : Inbound) (count : Nat) (message : ParsedMessage) :
    Decidable (session.StartsSequence count message) :=
  inferInstanceAs (Decidable (_ ∧ _))

/-- One round of the loop which looks for the start of a sequence. -/
def startSequence (count : Nat) (session : Inbound) (message : ParsedMessage) : Inbound :=
  if session.StartsSequence count message then
    { session with packetCounter := 0, pendingMessages := .empty }
  else session

/-- Both loops of `process_packet_in_session` over the parsed messages. -/
def processMessages (session : Inbound) (messages : List ParsedMessage) : Inbound :=
  messages.foldl processMessage (messages.foldl (startSequence messages.length) session)

/-- `process_packet_in_session`; a datagram which does not parse is dropped. -/
def processPacket (session : Inbound) (data : Bytes) : Inbound :=
  match parsePacket data with
  | .ok messages => session.processMessages messages
  | .error _ => session

/-! ## The loop over the buffer -/

/-- The session after the due message of the buffer is processed. -/
def processPending (session : Inbound) (message : ParsedMessage) : Inbound :=
  processOrderedMessage
    { session with
      pendingMessages := session.pendingMessages.remove session.packetCounter } message

theorem length_processPending {session : Inbound} {message : ParsedMessage}
    (due : session.pendingMessages.find session.packetCounter = some message) :
    (session.processPending message).pendingMessages.length < session.pendingMessages.length :=
  KeyedBuffer.length_remove_lt due

/-- More rounds than messages change nothing. -/
theorem drainWithin_of_le {bound : Nat} {session : Inbound}
    (enough : session.pendingMessages.length ≤ bound) :
    drainWithin bound session = session.drain := by
  unfold drain
  induction bound using Nat.strong_induction_on generalizing session with
  | h bound ih =>
      cases length : session.pendingMessages.length with
      | zero =>
          cases bound with
          | zero => rfl
          | succ bound =>
              have nothing := KeyedBuffer.find_of_length_eq_zero length session.packetCounter
              simp only [drainWithin, nothing]
      | succ count =>
          obtain ⟨bound, rfl⟩ : ∃ rest, bound = rest + 1 := ⟨bound - 1, by omega⟩
          rw [drainWithin, drainWithin]
          cases due : session.pendingMessages.find session.packetCounter with
          | none => rfl
          | some message =>
              have shorter := length_processPending due
              dsimp only
              have long : drainWithin bound (session.processPending message) = _ :=
                ih bound (Nat.lt_succ_self _) (by omega)
              have short : drainWithin count (session.processPending message) = _ :=
                ih count (by omega) (by omega)
              exact long.trans short.symm

/-- The loop stops when no message is due, and goes on after one which is. -/
theorem drain_unfold (session : Inbound) :
    session.drain =
      match session.pendingMessages.find session.packetCounter with
      | none => session
      | some message => (session.processPending message).drain := by
  rw [← drainWithin_of_le (Nat.le_succ _), drainWithin]
  cases due : session.pendingMessages.find session.packetCounter with
  | none => rfl
  | some message => exact drainWithin_of_le (length_processPending due).le

theorem length_drain_le (session : Inbound) :
    session.drain.pendingMessages.length ≤ session.pendingMessages.length := by
  induction count : session.pendingMessages.length using Nat.strong_induction_on
    generalizing session with
  | h count ih =>
      rw [drain_unfold]
      cases due : session.pendingMessages.find session.packetCounter with
      | none => exact count.le
      | some message =>
          have shorter := length_processPending due
          have rest := ih _ (count ▸ shorter) (session.processPending message) rfl
          exact rest.trans (count ▸ shorter.le)

/-- A message adds at most one to the buffer. -/
theorem length_processMessage_le (session : Inbound) (message : ParsedMessage) :
    (session.processMessage message).pendingMessages.length ≤
      session.pendingMessages.length + 1 := by
  unfold processMessage
  split
  · exact Nat.le_succ_of_le (length_drain_le _)
  · split
    · exact KeyedBuffer.length_insertNew_le _ _ _
    · exact Nat.le_succ _

/-! ## The loop which looks for the start of a sequence -/

/-- The state in which a new sequence starts. -/
def restarted (session : Inbound) : Inbound :=
  { session with packetCounter := 0, pendingMessages := .empty }

@[simp] theorem startSequence_restarted (count : Nat) (session : Inbound)
    (message : ParsedMessage) : startSequence count session.restarted message = session.restarted := by
  unfold startSequence
  split <;> rfl

@[simp] theorem startSequences_restarted (count : Nat) (session : Inbound)
    (messages : List ParsedMessage) :
    messages.foldl (startSequence count) session.restarted = session.restarted := by
  induction messages with
  | nil => rfl
  | cons message rest ih => rw [List.foldl_cons, startSequence_restarted, ih]

/-- The loop restarts the session when one of the messages starts a sequence. -/
theorem startSequences_eq (count : Nat) (session : Inbound) (messages : List ParsedMessage) :
    messages.foldl (startSequence count) session =
      if ∃ message ∈ messages, session.StartsSequence count message then session.restarted
      else session := by
  induction messages with
  | nil => simp
  | cons message rest ih =>
      rw [List.foldl_cons]
      by_cases starts : session.StartsSequence count message
      · have restarts : startSequence count session message = session.restarted := if_pos starts
        rw [restarts, startSequences_restarted, if_pos ⟨message, List.mem_cons_self, starts⟩]
      · have same : startSequence count session message = session := if_neg starts
        rw [same, ih]
        simp [starts]

/-! ## Indices and message numbers -/

/-- Message `index` carries its index modulo `2 ^ 16`. -/
def Numbered (sent : Nat → ParsedMessage) : Prop :=
  ∀ index, (sent index).messageNumber = .ofNat index

/-- Message `index` arrives within half a range around the next one. -/
def InWindow (next index : Nat) : Prop := next ≤ index + 32769 ∧ index ≤ next + 32766

theorem ofNat_inj_of_near {index other : Nat} (near : index < other + 65536)
    (close : other < index + 65536) :
    UInt16.ofNat index = UInt16.ofNat other ↔ index = other := by
  rw [UInt16.ofNat_eq_iff_mod_eq_toNat, UInt16.toNat_ofNat']
  omega

theorem InWindow.ofNat_inj {next index : Nat} (window : InWindow next index) :
    UInt16.ofNat index = UInt16.ofNat next ↔ index = next := by
  obtain ⟨lower, upper⟩ := window
  exact ofNat_inj_of_near (by omega) (by omega)

/-- Within the window a future number is one of a later message. -/
theorem InWindow.isFutureMessage_iff {next index : Nat} (window : InWindow next index) :
    isFutureMessage (.ofNat index) (.ofNat next) = true ↔ next < index := by
  obtain ⟨lower, upper⟩ := window
  have distance : (UInt16.ofNat index - UInt16.ofNat next).toNat =
      (65536 - next % 65536 + index % 65536) % 65536 := by
    rw [UInt16.toNat_sub, UInt16.toNat_ofNat', UInt16.toNat_ofNat']
  have half : (0xFFFF / 2 : UInt16).toNat = 32767 := rfl
  have zero : (0 : UInt16).toNat = 0 := rfl
  simp only [isFutureMessage, Bool.and_eq_true, decide_eq_true_eq, ne_eq, UInt16.lt_iff_toNat_lt,
    ← UInt16.toNat_inj, half, zero, distance]
  omega

/-! ## The session as a reordering of indices -/

/-- The session has processed and keeps the messages of `order`. -/
structure Represents (sent : Nat → ParsedMessage) (session : Inbound) (order : Reorder) :
    Prop where
  counter : session.packetCounter = .ofNat order.next
  handled : session.handled = (List.range order.next).map sent
  near : ∀ index ∈ order.ahead, order.next ≤ index ∧ index ≤ order.next + 32766
  pending : ∀ key message, session.pendingMessages.find key = some message ↔
    ∃ index ∈ order.ahead, key = .ofNat index ∧ message = sent index

variable {sent : Nat → ParsedMessage} {session : Inbound} {order : Reorder}

theorem represents_new (sent : Nat → ParsedMessage) : Represents sent new .fresh where
  counter := rfl
  handled := rfl
  near := by simp [Reorder.fresh]
  pending := by simp [Reorder.fresh, new]

namespace Represents

theorem length_handled (represents : Represents sent session order) :
    session.handled.length = order.next := by
  rw [represents.handled, List.length_map, List.length_range]

/-- The message in the buffer under the counter is the next one. -/
theorem due (represents : Represents sent session order) {message : ParsedMessage}
    (found : session.pendingMessages.find session.packetCounter = some message) :
    order.next ∈ order.ahead ∧ message = sent order.next := by
  obtain ⟨index, held, number, same⟩ := (represents.pending _ _).mp found
  have near := represents.near index held
  rw [represents.counter] at number
  have next : order.next = index := (ofNat_inj_of_near (by omega) (by omega)).mp number
  subst next
  exact ⟨held, same⟩

/-- Nothing is due when the buffer has nothing under the counter. -/
theorem settled_of_find (represents : Represents sent session order)
    (nothing : session.pendingMessages.find session.packetCounter = none) : order.Settled := by
  intro index held
  have near := represents.near index held
  apply Nat.lt_of_le_of_ne near.1
  rintro rfl
  have found := (represents.pending session.packetCounter (sent order.next)).mpr
    ⟨order.next, held, represents.counter, rfl⟩
  rw [nothing] at found
  cases found

/-- A settled buffer has nothing under the counter. -/
theorem find_of_settled (represents : Represents sent session order) (settled : order.Settled) :
    session.pendingMessages.find session.packetCounter = none := by
  cases found : session.pendingMessages.find session.packetCounter with
  | none => rfl
  | some message =>
      have held := (represents.due found).1
      exact absurd (settled _ held) (Nat.lt_irrefl _)

/-- The next message is processed and the buffer forgets what it has under the counter. -/
theorem advance (represents : Represents sent session order)
    {pendingMessages : KeyedBuffer UInt16 ParsedMessage}
    (forgets : pendingMessages.find session.packetCounter = none)
    (others : ∀ key, key ≠ session.packetCounter →
      pendingMessages.find key = session.pendingMessages.find key) :
    Represents sent
      (processOrderedMessage { session with pendingMessages } (sent order.next)) order.take where
  counter := by
    rw [processOrderedMessage, represents.counter, Reorder.take, UInt16.ofNat_add]
    rfl
  handled := by
    rw [processOrderedMessage, Reorder.take, List.range_succ, List.map_append, represents.handled]
    rfl
  near := by
    rintro index ⟨held, later⟩
    have near := represents.near index held
    have different : index ≠ order.next := later
    simp only [Reorder.take]
    omega
  pending := by
    intro key message
    show pendingMessages.find key = some message ↔ _
    by_cases current : key = session.packetCounter
    · rw [current, forgets]
      constructor
      · intro impossible
        cases impossible
      · rintro ⟨index, ⟨held, later⟩, number, _⟩
        have near := represents.near index held
        rw [represents.counter] at number
        have next : order.next = index := (ofNat_inj_of_near (by omega) (by omega)).mp number
        exact absurd next.symm later
    · rw [others key current, represents.pending key message]
      constructor
      · rintro ⟨index, held, rfl, same⟩
        refine ⟨index, ⟨held, ?_⟩, rfl, same⟩
        rintro rfl
        exact current represents.counter.symm
      · rintro ⟨index, ⟨held, _⟩, number, same⟩
        exact ⟨index, held, number, same⟩

/-- A message which arrives in its turn is processed. -/
theorem processOrdered (represents : Represents sent session order) (settled : order.Settled) :
    Represents sent (session.processOrderedMessage (sent order.next)) order.take :=
  represents.advance (represents.find_of_settled settled) fun _ _ => rfl

/-- A message which is due in the buffer is processed. -/
theorem processPending (represents : Represents sent session order) :
    Represents sent (session.processPending (sent order.next)) order.take :=
  represents.advance (KeyedBuffer.find_remove_self _ _) fun _ different =>
    KeyedBuffer.find_remove_of_ne different

/-- The loop over the buffer takes what is due. -/
theorem drain (represents : Represents sent session order) :
    ∃ after, Represents sent session.drain after ∧ order.Drains after := by
  induction count : session.pendingMessages.length using Nat.strong_induction_on
    generalizing session order with
  | h count ih =>
      rw [drain_unfold]
      cases found : session.pendingMessages.find session.packetCounter with
      | none => exact ⟨order, represents, .refl (represents.settled_of_find found)⟩
      | some message =>
          obtain ⟨held, rfl⟩ := represents.due found
          have shorter := length_processPending found
          obtain ⟨after, final, drains⟩ := ih _ (count ▸ shorter) represents.processPending rfl
          exact ⟨after, final, drains.take held⟩

/-- What the buffer has under the number of an early message is that message. -/
theorem getD_find (represents : Represents sent session order) {index : Nat}
    (early : order.next < index) (near : index ≤ order.next + 32766) :
    (session.pendingMessages.find (.ofNat index)).getD (sent index) = sent index := by
  cases found : session.pendingMessages.find (.ofNat index) with
  | none => rfl
  | some message =>
      obtain ⟨other, held, number, rfl⟩ := (represents.pending _ _).mp found
      have bounds := represents.near other held
      have same : index = other := (ofNat_inj_of_near (by omega) (by omega)).mp number
      rw [same, Option.getD_some]

/-- An early message is kept under its number. -/
theorem insertNew (represents : Represents sent session order) {index : Nat}
    (early : order.next < index) (near : index ≤ order.next + 32766) :
    Represents sent
      { session with
        pendingMessages := session.pendingMessages.insertNew (.ofNat index) (sent index) }
      (order.keep index) where
  counter := represents.counter
  handled := represents.handled
  near := by
    intro other member
    rcases Set.mem_insert_iff.mp member with rfl | held
    · exact ⟨early.le, near⟩
    · exact represents.near other held
  pending := by
    intro key message
    show (session.pendingMessages.insertNew _ _).find key = some message ↔ _
    by_cases mine : key = .ofNat index
    · rw [mine, KeyedBuffer.find_insertNew_self, represents.getD_find early near]
      constructor
      · rintro ⟨⟩
        exact ⟨index, Set.mem_insert index _, rfl, rfl⟩
      · rintro ⟨other, member, number, rfl⟩
        rcases Set.mem_insert_iff.mp member with rfl | held
        · rfl
        · have bounds := represents.near other held
          have same : index = other := (ofNat_inj_of_near (by omega) (by omega)).mp number
          rw [same]
    · rw [KeyedBuffer.find_insertNew_of_ne mine, represents.pending key message]
      constructor
      · rintro ⟨other, held, number, same⟩
        exact ⟨other, Set.mem_insert_of_mem index held, number, same⟩
      · rintro ⟨other, member, number, same⟩
        rcases Set.mem_insert_iff.mp member with rfl | held
        · exact absurd number mine
        · exact ⟨other, held, number, same⟩

/-- Starting a sequence forgets what is kept. -/
theorem restarted (represents : Represents sent session order)
    (counter : session.packetCounter = 0) : Represents sent session.restarted order.forget where
  counter := counter.symm.trans represents.counter
  handled := represents.handled
  near := by simp [Reorder.forget]
  pending := by simp [Reorder.forget, Inbound.restarted]

/-- The session keeps nothing when its buffer is empty. -/
theorem ahead_eq_empty (represents : Represents sent session order)
    (empty : session.pendingMessages.length = 0) : order.ahead = ∅ := by
  apply Set.eq_empty_of_forall_notMem
  intro index held
  have found := (represents.pending (.ofNat index) (sent index)).mpr ⟨index, held, rfl, rfl⟩
  rw [KeyedBuffer.find_of_length_eq_zero empty] at found
  cases found

/-- The buffer is empty when the session keeps nothing. -/
theorem length_eq_zero (represents : Represents sent session order) (empty : order.ahead = ∅) :
    session.pendingMessages.length = 0 := by
  apply KeyedBuffer.length_eq_zero_of_find
  intro key
  cases found : session.pendingMessages.find key with
  | none => rfl
  | some message =>
      obtain ⟨index, held, _⟩ := (represents.pending key message).mp found
      rw [empty] at held
      exact absurd held (Set.notMem_empty index)

/-- The session represents the same order for every history which agrees on what it received. -/
theorem congr (represents : Represents sent session order) {other : Nat → ParsedMessage}
    (agree : ∀ index ∈ order.received, other index = sent index) :
    Represents other session order where
  counter := represents.counter
  handled := by
    rw [represents.handled]
    apply List.map_congr_left
    intro index taken
    exact (agree index (.inl (List.mem_range.mp taken))).symm
  near := represents.near
  pending := by
    intro key message
    rw [represents.pending]
    constructor
    · rintro ⟨index, held, number, rfl⟩
      exact ⟨index, held, number, (agree index (.inr held)).symm⟩
    · rintro ⟨index, held, number, rfl⟩
      exact ⟨index, held, number, agree index (.inr held)⟩

/-- A message carries the number of the counter when it is the next one. -/
theorem number_eq_counter (represents : Represents sent session order) {index : Nat}
    (window : InWindow order.next index) :
    UInt16.ofNat index = session.packetCounter ↔ index = order.next := by
  rw [represents.counter]
  exact window.ofNat_inj

/-- The number of a message is a future one when the message comes after the next one. -/
theorem future_iff (represents : Represents sent session order) {index : Nat}
    (window : InWindow order.next index) :
    isFutureMessage (.ofNat index) session.packetCounter = true ↔ order.next < index := by
  rw [represents.counter]
  exact window.isFutureMessage_iff

/-- One message: it is received, or refused because the buffer is full. -/
theorem processMessage (numbered : Numbered sent) (represents : Represents sent session order)
    (settled : order.Settled) {index : Nat} (window : InWindow order.next index) :
    ∃ after : Reorder, Represents sent (session.processMessage (sent index)) after ∧ after.Settled ∧
      (after.received = insert index order.received ∨
        maxPendingSessionMessages ≤ session.pendingMessages.length ∧ after = order) := by
  have current := represents.number_eq_counter window
  have future := represents.future_iff window
  unfold Inbound.processMessage
  rw [numbered index]
  rcases Nat.lt_trichotomy index order.next with old | rfl | early
  · rw [if_neg (mt current.mp old.ne), if_neg fun kept => old.asymm (future.mp kept.1)]
    exact ⟨order, represents, settled, .inl (Reorder.received_of_lt old).symm⟩
  · rw [if_pos (current.mpr rfl)]
    obtain ⟨after, final, drains⟩ := (represents.processOrdered settled).drain
    exact ⟨after, final, drains.settled, .inl (drains.received.trans (Reorder.received_take order))⟩
  · rw [if_neg (mt current.mp early.ne')]
    by_cases room : session.pendingMessages.length < maxPendingSessionMessages
    · rw [if_pos ⟨future.mpr early, room⟩]
      exact ⟨order.keep index, represents.insertNew early window.2, settled.keep early,
        .inl (Reorder.received_keep order index)⟩
    · rw [if_neg fun kept => room kept.2]
      exact ⟨order, represents, settled, .inr ⟨Nat.le_of_not_lt room, rfl⟩⟩

end Represents

end Inbound

end Direlera.Session
