import Direlera.Lobby.LobbyInvariant

/-!
# Which responses are sent

`sent` lists the deliveries of one send loop, which ends at the first slot whose player
is not registered. A call answers one warming player or whole rounds, so who is sent a
response is decided by the registered slots before it.
-/

namespace Direlera.Lobby

open Direlera.Library Direlera.Sync Direlera.Sync.SimplestGameSync

/-! ## The send loop -/

/-- The deliveries of a send loop. -/
def sent (member : SocketAddr → Option Member) : List (Option TargetOutput) → List Delivery
  | [] => []
  | none :: _ => []
  | some output :: rest =>
      match member output.addr with
      | none => []
      | some recipient => ⟨output.addr, output.frame, recipient.gameId⟩ :: sent member rest

/-- A response reaches a registered recipient if all those before it were sent. -/
theorem mem_sent {member : SocketAddr → Option Member} {outputs : List (Option TargetOutput)}
    {delivery : Delivery} :
    delivery ∈ sent member outputs ↔ ∃ (i : Nat) (output : TargetOutput) (recipient : Member),
      outputs[i]? = some (some output) ∧ member output.addr = some recipient ∧
        delivery = ⟨output.addr, output.frame, recipient.gameId⟩ ∧
          ∀ (j : Nat), j < i → ∃ earlier : TargetOutput,
            outputs[j]? = some (some earlier) ∧ (member earlier.addr).isSome = true := by
  induction outputs with
  | nil => simp [sent]
  | cons first rest ih =>
      cases first with
      | none =>
          simp only [sent, List.not_mem_nil, false_iff]
          rintro ⟨i, output, recipient, here, _, _, before⟩
          cases i with
          | zero => simp at here
          | succ i => simpa using before 0 (Nat.succ_pos i)
      | some output =>
          cases known : member output.addr with
          | none =>
              simp only [sent, known, List.not_mem_nil, false_iff]
              rintro ⟨i, other, recipient, here, registered, _, before⟩
              cases i with
              | zero =>
                  obtain rfl : output = other := by simpa using here
                  simp [known] at registered
              | succ i => simpa [known] using before 0 (Nat.succ_pos i)
          | some recipient =>
              simp only [sent, known, List.mem_cons, ih]
              constructor
              · rintro (rfl | ⟨i, other, reader, here, registered, same, before⟩)
                · exact ⟨0, output, recipient, rfl, known, rfl, by simp⟩
                · refine ⟨i + 1, other, reader, here, registered, same, fun j earlier => ?_⟩
                  cases j with
                  | zero => exact ⟨output, rfl, by simp [known]⟩
                  | succ j => exact before j (Nat.lt_of_succ_lt_succ earlier)
              · rintro ⟨i, other, reader, here, registered, rfl, before⟩
                cases i with
                | zero =>
                    obtain rfl : output = other := by simpa using here
                    exact .inl (by simp [Option.some.inj (known.symm.trans registered)])
                | succ i =>
                    exact .inr ⟨i, other, reader, here, registered, rfl, fun j earlier =>
                      before (j + 1) (Nat.succ_lt_succ earlier)⟩

/-! ## The responses of a call -/

namespace SyncManager

variable {sync : SyncManager}

theorem returned_call (gameId : UInt32) (request : Call) :
    returned (sync.call gameId request).1 =
      (returned ((DelayedGameSync.machine sync.playerCount).step sync.engine request).1).map
        (frame gameId) := by
  change returned (((DelayedGameSync.machine sync.playerCount).step sync.engine request).1.map
    (List.map (frame gameId))) = _
  cases ((DelayedGameSync.machine sync.playerCount).step sync.engine request).1 with
  | error error => rfl
  | ok outputs => rfl

/-- The slots which a call on a settled engine answers. -/
theorem call_slots (settled : sync.engine.Settled) (gameId : UInt32) (request : Call) :
    ∃ rounds, (0 < rounds ↔ sync.engine.completesRound request = true) ∧
      (∀ player message, request = .input player message → rounds ≤ 1) ∧
      (returned (sync.call gameId request).1).map Frame.slot =
        (sync.engine.answeredSlots request rounds).map fun slot => slot.val := by
  obtain ⟨rounds, shape⟩ := settled.call request
  refine ⟨rounds, shape.completes, shape.once, ?_⟩
  rw [returned_call, ← shape.slots]
  simp [frame, Function.comp_def]

/-- The responses of a call belong to its game. -/
theorem call_origin {gameId : UInt32} {request : Call} {response : Frame}
    (member : response ∈ returned (sync.call gameId request).1) : response.origin = gameId := by
  rw [returned_call] at member
  obtain ⟨output, _, rfl⟩ := List.mem_map.mp member
  rfl

/-- Every response belongs to a slot of the engine. -/
theorem call_slot_lt {gameId : UInt32} {request : Call}
    {response : Frame} (member : response ∈ returned (sync.call gameId request).1) :
    response.slot < sync.playerCount := by
  rw [returned_call] at member
  obtain ⟨output, _, rfl⟩ := List.mem_map.mp member
  exact output.playerId.isLt

/-- A call which completes no round answers nobody but a warming player. -/
theorem call_no_round (settled : sync.engine.Settled) (gameId : UInt32) {request : Call}
    (incomplete : sync.engine.completesRound request = false) {response : Frame}
    (member : response ∈ returned (sync.call gameId request).1) :
    (returned (sync.call gameId request).1).map Frame.slot = [response.slot] ∧
      ∃ message, request = .input response.slot message := by
  obtain ⟨rounds, completes, _, slots⟩ := call_slots settled gameId request
  obtain rfl : rounds = 0 := by simpa [incomplete] using completes
  cases warms : sync.engine.warmsUp request with
  | none =>
      simp only [DelayedGameSync.answeredSlots, warms, roundSlots_zero, List.map_nil,
        List.map_eq_nil_iff] at slots
      simp [slots] at member
  | some player =>
      simp only [DelayedGameSync.answeredSlots, warms, List.map_cons, List.map_nil] at slots
      have here : response.slot = player := by
        have mapped := List.mem_map_of_mem (f := Frame.slot) member
        simpa [slots] using mapped
      rw [here]
      exact ⟨slots, DelayedGameSync.warmsUp_eq_some warms⟩

/-- An input which completes a round answers every slot, in order. -/
theorem call_round (settled : sync.engine.Settled) (gameId : UInt32) {player : Nat}
    {message : ClientInput}
    (completes : sync.engine.completesRound (.input player message) = true) :
    (returned (sync.call gameId (.input player message)).1).map Frame.slot =
      List.range sync.playerCount := by
  obtain ⟨rounds, some, once, slots⟩ := call_slots settled gameId (.input player message)
  obtain rfl : rounds = 1 := by
    have atMost := once player message rfl
    have atLeast := some.mpr completes
    omega
  rw [slots, DelayedGameSync.answeredSlots, (DelayedGameSync.warmsUp_of_completes completes).1]
  simp

/-- The slots of the responses of a round are their positions. -/
theorem slot_of_round {frames : List Frame} {count i : Nat} {frame : Frame}
    (round : frames.map Frame.slot = List.range count) (here : frames[i]? = some frame) :
    frame.slot = i ∧ i < count := by
  have mapped := congrArg (fun slots : List Nat => slots[i]?) round
  simp only [List.getElem?_map, here, Option.map_some] at mapped
  have inRange := (List.getElem?_eq_some_iff.mp mapped.symm).1
  rw [List.length_range] at inRange
  rw [List.getElem?_range inRange] at mapped
  exact ⟨Option.some.inj mapped, inRange⟩

end SyncManager

namespace Hall

variable {hall : Hall} {gameId : UInt32} {game : GameInfo} {addr src : SocketAddr}

theorem deliveries_deliver (outputs : List (Option TargetOutput)) :
    (hall.deliver outputs).deliveries = hall.deliveries ++ sent hall.member outputs := by
  induction outputs generalizing hall with
  | nil => simp [deliver, sent]
  | cons first rest ih =>
      cases first with
      | none => simp [deliver, sent]
      | some output =>
          rw [deliver, sent]
          cases hall.member output.addr with
          | none => simp
          | some recipient => simp [send, ih]

/-- A fed input appends the deliveries of its send loop. -/
theorem deliveries_feed {late : SocketAddr → Prop} (ok : game.RoomOk late)
    (here : hall.room gameId = some game) {sync : SyncManager}
    (running : game.syncManager = some sync) (slot : Nat) (input : ClientInput) :
    (hall.feed gameId slot input).deliveries = hall.deliveries ++
      sent hall.member ((returned (sync.call gameId (.input slot input)).1).map game.target) := by
  have serves := (ok.playing sync running).2
  have resolved : ∀ frame ∈ returned (sync.call gameId (.input slot input)).1,
      (game.target frame).isSome = true := by
    intro frame member
    have inRange := SyncManager.call_slot_lt member
    rw [serves.sized] at inRange
    simp [GameInfo.target, inRange]
  unfold Hall.feed
  simp only [here, running]
  cases called : (sync.call gameId (.input slot input)).1 with
  | error error =>
      simp [returned, sent]
      rfl
  | ok frames =>
      rw [called] at resolved
      have all : (frames.all fun frame => (game.target frame).isSome) = true :=
        List.all_eq_true.mpr resolved
      simp only [all, if_true]
      exact deliveries_deliver _

end Hall

end Direlera.Lobby
