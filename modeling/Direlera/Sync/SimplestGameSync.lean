import Direlera.Sync.InputCache
import Direlera.Library.Lockstep
import Direlera.Library.Transducer
import Mathlib.Data.List.FinRange
import Mathlib.Data.Fintype.Basic
import Mathlib.Algebra.BigOperators.Fin
import Mathlib.Algebra.Order.BigOperators.Group.Finset

/-!
# The lockstep combiner

`SimplestGameSync n` is the engine of the source for `n` players; its four
per-player vectors are functions of the slot, so every index is in range by
type. Mutating methods return their result together with the next state.

The two loops of `drain_ready_inputs` are recursions on a bound which the loop
cannot reach: `sendBlocks_unfold` and `drainReadyInputs_unfold` are the loops of
the source. A zero delay makes the inner loop of the source spin forever; every
result about its outputs assumes positive delays.
-/

namespace Direlera.Sync

open Direlera.Library

/-- One frame of one player. -/
abbrev OneInput := Bytes

/-- Client input message. -/
inductive ClientInput where
  | gameData (data : Bytes)
  | gameCache (position : UInt8)
deriving DecidableEq, Repr

/-- Server response message. -/
inductive ServerResponse where
  | gameData (data : Bytes)
  | gameCache (position : UInt8)
deriving DecidableEq, Repr

/-- Error types for game sync operations. -/
inductive GameSyncError where
  | invalidPlayerId (playerId playerCount : Nat)
  | cachePositionNotFound (playerId : Nat) (position : UInt8)
  | bufferInconsistency (message : String)
deriving DecidableEq, Repr

/-- A combined output for one player. -/
structure PlayerOutput (n : Nat) where
  playerId : Fin n
  output : Bytes
deriving DecidableEq, Repr

/-- `slice::chunks`: consecutive pieces of `size` bytes, the last may be shorter.
The bound is the length, since every piece is nonempty. -/
def chunksWithin (size : Nat) : Nat → Bytes → List Bytes
  | 0, _ => []
  | _ + 1, [] => []
  | bound + 1, byte :: rest =>
      (byte :: rest).take size :: chunksWithin size bound ((byte :: rest).drop size)

/-- `slice::chunks`. -/
def chunks (size : Nat) (bytes : Bytes) : List Bytes := chunksWithin size bytes.length bytes

/-- One whole piece. -/
theorem chunks_length {bytes : Bytes} (nonempty : bytes ≠ []) :
    chunks bytes.length bytes = [bytes] := by
  cases bytes with
  | nil => exact absurd rfl nonempty
  | cons byte rest =>
      simp only [chunks, List.length_cons, chunksWithin]
      rw [List.take_of_length_le (by simp), List.drop_of_length_le (by simp)]
      cases rest.length <;> rfl

/-- The core engine: queues, send buffers, delays, drop flags and the learned
size of one frame. -/
structure SimplestGameSync (n : Nat) where
  playerInput : Fin n → List OneInput
  senderBuffer : Fin n → List OneInput
  playerDelays : Fin n → Nat
  droppedPlayers : Fin n → Bool
  gameDataSize : Nat

namespace SimplestGameSync

variable {n : Nat}

/-- `SimplestGameSync::new`. -/
def new (playerDelays : Fin n → Nat) : SimplestGameSync n where
  playerInput := fun _ => []
  senderBuffer := fun _ => []
  playerDelays := playerDelays
  droppedPlayers := fun _ => false
  gameDataSize := 0

/-- The guard of the draining loop: every player has input or is dropped, and
someone has input. -/
def readyToDrain (sync : SimplestGameSync n) : Bool :=
  decide ((∀ i, sync.playerInput i ≠ [] ∨ sync.droppedPlayers i = true) ∧
    ∃ i, sync.playerInput i ≠ [])

/-- One input of each player; an absent input of a dropped player is zeros. -/
def extractInputs (sync : SimplestGameSync n) : List OneInput :=
  (List.finRange n).filterMap fun i =>
    match sync.playerInput i with
    | input :: _ => some input
    | [] => if sync.droppedPlayers i then some (List.replicate sync.gameDataSize 0) else none

/-- The sending loop of one buffer, run at most `bound` times. -/
def sendBlocksWithin (requireLen : Nat) : Nat → List OneInput → List Bytes × List OneInput
  | 0, buffer => ([], buffer)
  | bound + 1, buffer =>
      if requireLen ≤ buffer.length then
        let (outputs, rest) := sendBlocksWithin requireLen bound (buffer.drop requireLen)
        ((buffer.take requireLen).flatten :: outputs, rest)
      else ([], buffer)

/-- Release whole blocks of `requireLen` inputs, flattened. -/
def sendBlocks (requireLen : Nat) (buffer : List OneInput) : List Bytes × List OneInput :=
  sendBlocksWithin requireLen buffer.length buffer

/-- The number of queued inputs. -/
def queuedInputs (sync : SimplestGameSync n) : Nat := ∑ i, (sync.playerInput i).length

/-- The body of the draining loop. -/
def drainRound (sync : SimplestGameSync n) : List (PlayerOutput n) × SimplestGameSync n :=
  let extracted := sync.extractInputs
  let sent := fun pid =>
    sendBlocks (sync.playerDelays pid * n) (sync.senderBuffer pid ++ extracted)
  ((List.finRange n).flatMap fun pid => (sent pid).1.map fun output => ⟨pid, output⟩,
    { sync with
      playerInput := fun i => (sync.playerInput i).tail
      senderBuffer := fun pid => (sent pid).2 })

/-- The draining loop, run at most `bound` times. -/
def drainWithin : Nat → SimplestGameSync n → List (PlayerOutput n) × SimplestGameSync n
  | 0, sync => ([], sync)
  | bound + 1, sync =>
      if sync.readyToDrain then
        let (outputs, next) := sync.drainRound
        let (later, last) := drainWithin bound next
        (outputs ++ later, last)
      else ([], sync)

/-- `SimplestGameSync::drain_ready_inputs`. -/
def drainReadyInputs (sync : SimplestGameSync n) :
    List (PlayerOutput n) × SimplestGameSync n :=
  drainWithin sync.queuedInputs sync

/-- The queueing half of `process_client_input`: split the input by the player's
delay and learn the frame size from the first input. -/
def queueInput (sync : SimplestGameSync n) (player : Fin n) (input : Bytes) :
    SimplestGameSync n :=
  let delay := sync.playerDelays player
  if 0 < delay ∧ input ≠ [] then
    let chunkSize := input.length / delay
    if 0 < chunkSize then
      { sync with
        gameDataSize := if sync.gameDataSize = 0 then chunkSize else sync.gameDataSize
        playerInput := Function.update sync.playerInput player
          (sync.playerInput player ++ chunks chunkSize input) }
    else sync
  else sync

/-- `SimplestGameSync::process_client_input`. -/
def processClientInput (sync : SimplestGameSync n) (playerId : Nat) (input : Bytes) :
    Except GameSyncError (List (PlayerOutput n)) × SimplestGameSync n :=
  if inRange : playerId < n then
    if sync.droppedPlayers ⟨playerId, inRange⟩ then (.ok [], sync)
    else
      let (results, drained) := (sync.queueInput ⟨playerId, inRange⟩ input).drainReadyInputs
      (.ok results, drained)
  else (.error (.invalidPlayerId playerId n), sync)

/-- `SimplestGameSync::mark_player_dropped`. -/
def markPlayerDropped (sync : SimplestGameSync n) (playerId : Nat) :
    Except GameSyncError (List (PlayerOutput n)) × SimplestGameSync n :=
  if inRange : playerId < n then
    let (results, drained) := drainReadyInputs
      { sync with
        droppedPlayers := Function.update sync.droppedPlayers ⟨playerId, inRange⟩ true }
    (.ok results, drained)
  else (.error (.invalidPlayerId playerId n), sync)

/-- `SimplestGameSync::is_player_dropped`. -/
def isPlayerDropped (sync : SimplestGameSync n) (playerId : Nat) : Bool :=
  if inRange : playerId < n then sync.droppedPlayers ⟨playerId, inRange⟩ else false

/-- `SimplestGameSync::all_players_dropped`. -/
def allPlayersDropped (sync : SimplestGameSync n) : Bool :=
  decide (∀ i, sync.droppedPlayers i = true)

/-! ## The loops of the source -/

theorem sendBlocksWithin_of_le {requireLen : Nat} (positive : 0 < requireLen) {bound : Nat}
    {buffer : List OneInput} (enough : buffer.length ≤ bound) :
    sendBlocksWithin requireLen bound buffer = sendBlocks requireLen buffer := by
  unfold sendBlocks
  induction bound using Nat.strong_induction_on generalizing buffer with
  | _ bound ih =>
      cases buffer with
      | nil =>
          cases bound with
          | zero => rfl
          | succ bound => simp [sendBlocksWithin, Nat.not_le.mpr positive]
      | cons input rest =>
          cases bound with
          | zero => simp at enough
          | succ bound =>
              simp only [List.length_cons] at enough
              have shorter : ((input :: rest).drop requireLen).length ≤ rest.length := by
                simp only [List.length_drop, List.length_cons]
                omega
              simp only [sendBlocksWithin, List.length_cons]
              rw [ih bound (by omega) (Nat.le_trans shorter (by omega)),
                ih rest.length (by omega) shorter]

/-- `while buffer.len() >= require_len { .. }`. -/
theorem sendBlocks_unfold {requireLen : Nat} (positive : 0 < requireLen)
    (buffer : List OneInput) :
    sendBlocks requireLen buffer =
      if requireLen ≤ buffer.length then
        ((buffer.take requireLen).flatten :: (sendBlocks requireLen (buffer.drop requireLen)).1,
          (sendBlocks requireLen (buffer.drop requireLen)).2)
      else ([], buffer) := by
  rw [← sendBlocksWithin_of_le positive (Nat.le_succ buffer.length), sendBlocksWithin]
  rw [sendBlocksWithin_of_le positive (by simp)]

/-- A buffer below the requirement is kept. -/
theorem sendBlocks_of_lt {requireLen : Nat} {buffer : List OneInput}
    (short : buffer.length < requireLen) : sendBlocks requireLen buffer = ([], buffer) := by
  rw [sendBlocks_unfold (by omega), if_neg (by omega)]

/-- A buffer of exactly the required length is released whole. -/
theorem sendBlocks_of_eq {requireLen : Nat} (positive : 0 < requireLen)
    {buffer : List OneInput} (exact : buffer.length = requireLen) :
    sendBlocks requireLen buffer = ([buffer.flatten], []) := by
  rw [sendBlocks_unfold positive, if_pos (by omega), List.take_of_length_le (by omega),
    List.drop_of_length_le (by omega), sendBlocks_of_lt (by simpa using positive)]

theorem readyToDrain_iff {sync : SimplestGameSync n} :
    sync.readyToDrain = true ↔
      (∀ i, sync.playerInput i ≠ [] ∨ sync.droppedPlayers i = true) ∧
        ∃ i, sync.playerInput i ≠ [] := by
  simp [readyToDrain]

@[simp] theorem drainRound_playerInput (sync : SimplestGameSync n) (i : Fin n) :
    sync.drainRound.2.playerInput i = (sync.playerInput i).tail := rfl

@[simp] theorem drainRound_droppedPlayers (sync : SimplestGameSync n) :
    sync.drainRound.2.droppedPlayers = sync.droppedPlayers := rfl

@[simp] theorem drainRound_playerDelays (sync : SimplestGameSync n) :
    sync.drainRound.2.playerDelays = sync.playerDelays := rfl

theorem queueInput_playerInput_of_ne {sync : SimplestGameSync n} {player other : Fin n}
    (different : other ≠ player) (input : Bytes) :
    (sync.queueInput player input).playerInput other = sync.playerInput other := by
  unfold queueInput
  dsimp only
  split
  · split
    · exact Function.update_of_ne different ..
    · rfl
  · rfl

@[simp] theorem queueInput_droppedPlayers (sync : SimplestGameSync n) (player : Fin n)
    (input : Bytes) : (sync.queueInput player input).droppedPlayers = sync.droppedPlayers := by
  unfold queueInput
  dsimp only
  split
  · split <;> rfl
  · rfl

/-- Every round consumes a queued input. -/
theorem queuedInputs_drainRound_lt {sync : SimplestGameSync n}
    (ready : sync.readyToDrain = true) : sync.drainRound.2.queuedInputs < sync.queuedInputs := by
  obtain ⟨_, i, nonempty⟩ := readyToDrain_iff.mp ready
  refine Finset.sum_lt_sum (fun j _ => ?_) ⟨i, Finset.mem_univ i, ?_⟩
  · simp
  · have positive := List.length_pos_of_ne_nil nonempty
    simp only [drainRound_playerInput, List.length_tail]
    omega

theorem not_readyToDrain_of_queuedInputs_eq_zero {sync : SimplestGameSync n}
    (empty : sync.queuedInputs = 0) : sync.readyToDrain = false := by
  rw [Bool.eq_false_iff]
  intro ready
  have fewer := queuedInputs_drainRound_lt ready
  omega

theorem drainWithin_of_le {bound : Nat} {sync : SimplestGameSync n}
    (enough : sync.queuedInputs ≤ bound) : drainWithin bound sync = sync.drainReadyInputs := by
  unfold drainReadyInputs
  induction bound using Nat.strong_induction_on generalizing sync with
  | _ bound ih =>
      by_cases ready : sync.readyToDrain = true
      · have fewer := queuedInputs_drainRound_lt ready
        obtain ⟨bound, rfl⟩ : ∃ earlier, bound = earlier + 1 := ⟨bound - 1, by omega⟩
        obtain ⟨queued, same⟩ : ∃ queued, sync.queuedInputs = queued + 1 :=
          ⟨sync.queuedInputs - 1, by omega⟩
        rw [same]
        simp only [drainWithin, ready, if_true]
        rw [ih bound (by omega) (by omega), ih queued (by omega) (by omega)]
      · cases bound with
        | zero => rw [Nat.le_zero.mp enough]
        | succ bound => cases sync.queuedInputs <;> simp [drainWithin, ready]

/-- `while { all_ready && has_any_input } { .. }`. -/
theorem drainReadyInputs_unfold (sync : SimplestGameSync n) :
    sync.drainReadyInputs =
      if sync.readyToDrain then
        (sync.drainRound.1 ++ sync.drainRound.2.drainReadyInputs.1,
          sync.drainRound.2.drainReadyInputs.2)
      else ([], sync) := by
  rw [← drainWithin_of_le (Nat.le_succ sync.queuedInputs), drainWithin]
  by_cases ready : sync.readyToDrain = true
  · have fewer := queuedInputs_drainRound_lt ready
    simp only [ready, if_true]
    rw [drainWithin_of_le (by omega)]
  · simp [ready]

/-- An invariant of the draining loop: what one ready round preserves holds at
the end, where no further round is ready. -/
theorem drainReadyInputs_induction (Holds : List (PlayerOutput n) → SimplestGameSync n → Prop)
    {sync : SimplestGameSync n} (initial : Holds [] sync)
    (round : ∀ outputs state, Holds outputs state → state.readyToDrain = true →
      Holds (outputs ++ state.drainRound.1) state.drainRound.2) :
    Holds sync.drainReadyInputs.1 sync.drainReadyInputs.2 ∧
      sync.drainReadyInputs.2.readyToDrain = false := by
  suffices general : ∀ bound outputs state, state.queuedInputs ≤ bound → Holds outputs state →
      Holds (outputs ++ state.drainReadyInputs.1) state.drainReadyInputs.2 ∧
        state.drainReadyInputs.2.readyToDrain = false by
    simpa using general sync.queuedInputs [] sync (Nat.le_refl _) initial
  intro bound
  induction bound with
  | zero =>
      intro outputs state empty holds
      have idle := not_readyToDrain_of_queuedInputs_eq_zero (Nat.le_zero.mp empty)
      rw [drainReadyInputs_unfold]
      simpa [idle] using holds
  | succ bound ih =>
      intro outputs state enough holds
      rw [drainReadyInputs_unfold]
      by_cases ready : state.readyToDrain = true
      · have fewer := queuedInputs_drainRound_lt ready
        simp only [ready, if_true]
        rw [← List.append_assoc]
        exact ih _ _ (by omega) (round outputs state holds ready)
      · simp only [Bool.not_eq_true] at ready
        simpa [ready] using holds

/-- A call on the engine by a player of the game. -/
inductive SyncOp (n : Nat) where
  | input (player : Fin n) (bytes : Bytes)
  | drop (player : Fin n)
deriving DecidableEq, Repr

/-- The engine as a machine which answers calls. -/
def machine (n : Nat) : Transducer (SimplestGameSync n) (SyncOp n)
    (Except GameSyncError (List (PlayerOutput n))) where
  step sync op :=
    match op with
    | .input player bytes => sync.processClientInput player bytes
    | .drop player => sync.markPlayerDropped player

/-- The outputs addressed to one player, in order. -/
def outputsFor (player : Fin n) (outputs : List (PlayerOutput n)) : List Bytes :=
  (outputs.filter fun output => output.playerId = player).map PlayerOutput.output

/-- The outputs which a call returns. -/
def returned {α : Type} : Except GameSyncError (List α) → List α
  | .ok outputs => outputs
  | .error _ => []

@[simp] theorem outputsFor_nil (player : Fin n) : outputsFor player [] = [] := rfl

@[simp] theorem outputsFor_append (player : Fin n) (first second : List (PlayerOutput n)) :
    outputsFor player (first ++ second) = outputsFor player first ++ outputsFor player second := by
  simp [outputsFor]

/-- Outputs gathered slot by slot give each player its own part. -/
theorem outputsFor_gather (player : Fin n) (parts : Fin n → List Bytes) :
    outputsFor player
        ((List.finRange n).flatMap fun pid => (parts pid).map fun output => ⟨pid, output⟩) =
      parts player := by
  unfold outputsFor
  rw [List.filter_flatMap, List.map_flatMap, ← Lockstep.flatMap_finRange_single player parts]
  refine List.flatMap_congr fun pid _ => ?_
  by_cases same : pid = player
  · simp [same, List.filter_map, Function.comp_def]
  · simp [same, List.filter_map, Function.comp_def]

/-- One round returns to a player exactly the blocks its buffer releases. -/
theorem outputsFor_drainRound (sync : SimplestGameSync n) (player : Fin n) :
    outputsFor player sync.drainRound.1 =
      (sendBlocks (sync.playerDelays player * n)
        (sync.senderBuffer player ++ sync.extractInputs)).1 :=
  outputsFor_gather player fun pid =>
    (sendBlocks (sync.playerDelays pid * n) (sync.senderBuffer pid ++ sync.extractInputs)).1

end SimplestGameSync

end Direlera.Sync
