import Direlera.Sync.StartupSchedule

/-!
# Lockstep never deadlocks

With delay 1 a player's responses are its warmup frames and the common complete frames.
Its accepted inputs are its warmup calls and what it fed, and the complete frames are
the least number fed by a player which is not dropped.
-/

namespace Direlera.Sync.DelayedGameSync

open Direlera.Library Direlera.Library.Lockstep SimplestGameSync

variable {n : Nat}

/-- Every call of a player either warms up or feeds one input. -/
theorem warmups_add_fed (delay : Nat) (inputs : List Bytes) :
    min delay inputs.length + (scheduledFeed delay inputs).length = inputs.length := by
  simp only [scheduledFeed, List.length_append, List.length_take, List.length_drop]
  omega

/-- What is fed was sent. -/
theorem mem_of_mem_scheduledFeed {delay : Nat} {inputs : List Bytes} {bytes : Bytes}
    (member : bytes ∈ scheduledFeed delay inputs) : bytes ∈ inputs := by
  rcases List.mem_append.mp member with early | late
  · exact List.mem_of_mem_take (List.mem_of_mem_take early)
  · exact List.mem_of_mem_drop late

/-- With delay 1 every nonempty input is one chunk. -/
theorem length_chunks_of_delay_one {inputs : List Bytes} (nonempty : ∀ input ∈ inputs, input ≠ []) :
    (inputs.flatMap (inputChunks 1)).length = inputs.length := by
  induction inputs with
  | nil => rfl
  | cons input rest ih =>
      have later := ih fun other member => nonempty other (List.mem_cons_of_mem _ member)
      rw [List.flatMap_cons, List.length_append, later,
        inputChunks_one (nonempty input List.mem_cons_self), List.length_singleton,
        List.length_cons, Nat.add_comm]

/-- An accepted drop is fed. -/
theorem drop_mem_fedOps {delayed : DelayedGameSync n} {ops : List (SyncOp n)} {player : Fin n}
    (member : SyncOp.drop player ∈ ops) : SyncOp.drop player ∈ delayed.fedOps ops := by
  induction ops generalizing delayed with
  | nil => simp at member
  | cons op rest ih =>
      rw [fedOps, List.mem_append]
      rcases List.mem_cons.mp member with rfl | later
      · exact .inl (by simp [fed])
      · exact .inr (ih later)

/-- A drop of a player of the game is accepted. -/
theorem drop_mem_acceptedOps {delayed : DelayedGameSync n} {calls : List Call} {player : Fin n}
    (member : Call.drop player ∈ calls) : SyncOp.drop player ∈ delayed.acceptedOps calls := by
  induction calls generalizing delayed with
  | nil => simp at member
  | cons call rest ih =>
      rw [acceptedOps, List.mem_append]
      rcases List.mem_cons.mp member with rfl | later
      · exact .inl (by simp [accepted])
      · exact .inr (ih later)

section Run

variable {warmups : Fin n → Nat} {disableOutputCache : Bool} {calls : List Call}

/-- The engine's flag, the fed drops and the drops of the run agree. -/
theorem isPlayerDropped_final {delays : Fin n → Nat} (positive : ∀ i, 1 ≤ delays i)
    (player : Fin n) :
    ((machine n).final (start delays warmups disableOutputCache) calls).isPlayerDropped player =
      droppedIn ((start delays warmups false).fedOps
        ((start delays warmups disableOutputCache).acceptedOps calls)) player := by
  obtain ⟨outputs, scheduled, _⟩ := scheduled_calls positive warmups disableOutputCache calls
  have agrees := agrees_run positive ((start delays warmups false).fedOps
    ((start delays warmups disableOutputCache).acceptedOps calls))
  rw [isPlayerDropped, scheduled.sync, ← agrees.dropped]
  simp [SimplestGameSync.isPlayerDropped]

/-- A player whose flag is not set was not dropped by any call. -/
theorem not_dropped_of_flag {delays : Fin n → Nat} (positive : ∀ i, 1 ≤ delays i)
    {player : Fin n}
    (isOpen : ((machine n).final (start delays warmups disableOutputCache)
      calls).isPlayerDropped player = false) : Call.drop player ∉ calls := by
  intro member
  rw [isPlayerDropped_final positive] at isOpen
  have fedHere : SyncOp.drop player ∈ (start delays warmups false).fedOps
      ((start delays warmups disableOutputCache).acceptedOps calls) :=
    drop_mem_fedOps (drop_mem_acceptedOps member)
  simp [droppedIn, fedHere] at isOpen

/-- The payloads of a player which is not dropped: its warmup frames and every complete
frame, while what it sent is its warmup frames and what it fed. -/
theorem length_received (nonempty : ∀ player, ∀ input ∈ resolvedInputs player
      (start (fun _ => 1) warmups disableOutputCache) calls, input ≠ [])
    {player : Fin n} (isOpen : Call.drop player ∉ calls) :
    let fresh := start (fun _ => 1) warmups disableOutputCache
    let feed := (start (fun _ => 1) warmups false).fedOps (fresh.acceptedOps calls)
    (received player ((machine n).outputs fresh calls)).length +
        (chunkStream (fun _ => 1) feed player).length =
      (resolvedInputs player fresh calls).length + completedFrames (fun _ => 1) feed := by
  intro fresh feed
  have positive : ∀ i : Fin n, 1 ≤ (fun _ : Fin n => 1) i := fun _ => Nat.le_refl 1
  obtain ⟨outputs, scheduled, streams⟩ :=
    scheduled_calls positive warmups disableOutputCache calls
  have here := scheduled.players player (drop_not_mem_acceptedOps isOpen)
  have sameInputs : resolvedInputs player fresh calls =
      inputsBeforeDrop player (fresh.acceptedOps calls) := resolvedInputs_eq isOpen
  obtain ⟨sizes, count, _, stream⟩ := here.stream
  have decoded := congrArg List.length
    (client_outputs_received (fun _ => 1) warmups disableOutputCache calls player)
  have sent := congrArg List.length ((agrees_run positive feed).merged.sent player)
  rw [(agrees_run positive feed).sameDelays, List.length_map, List.length_range,
    Nat.div_one] at sent
  rw [Transducer.outputs_length, List.length_map, streams, stream, List.length_append,
    List.length_map, count] at decoded
  have chunks : (chunkStream (fun _ => 1) feed player).length =
      (scheduledFeed (warmups player) (resolvedInputs player fresh calls)).length := by
    rw [chunkStream, here.feed, ← sameInputs]
    exact length_chunks_of_delay_one fun input member =>
      nonempty player input (mem_of_mem_scheduledFeed member)
  have total := warmups_add_fed (warmups player) (resolvedInputs player fresh calls)
  rw [← sameInputs] at decoded
  have combinedLength : (outputsFor player (combined (fun _ => 1) feed)).length =
      completedFrames (fun _ => 1) feed := sent
  rw [decoded, combinedLength, chunks]
  omega

/-- Lockstep never deadlocks. With delays 1 and nonempty accepted inputs, a player which
is not dropped has received at most as many responses as it sent accepted inputs, and
some player which is not dropped, if there is one, has received exactly as many. -/
theorem lockstep_never_deadlocks (nonempty : ∀ player, ∀ input ∈ resolvedInputs player
      (start (fun _ => 1) warmups disableOutputCache) calls, input ≠ []) :
    let fresh := start (fun _ => 1) warmups disableOutputCache
    let isOpen := fun player : Fin n =>
      ((machine n).final fresh calls).isPlayerDropped player = false
    let responses := fun player => (received player ((machine n).outputs fresh calls)).length
    let inputs := fun player => (resolvedInputs player fresh calls).length
    (∀ player, isOpen player → responses player ≤ inputs player) ∧
      ((∃ player, isOpen player) → ∃ player, isOpen player ∧ responses player = inputs player) := by
  intro fresh isOpen responses inputs
  have positive : ∀ i : Fin n, 1 ≤ (fun _ : Fin n => 1) i := fun _ => Nat.le_refl 1
  obtain ⟨feed, feedEq⟩ :
      ∃ feed, feed = (start (fun _ => 1) warmups false).fedOps (fresh.acceptedOps calls) := ⟨_, rfl⟩
  have flag : ∀ player, isOpen player ↔ droppedIn feed player = false := by
    intro player
    rw [feedEq]
    exact Eq.congr_left (isPlayerDropped_final positive player)
  have count : ∀ player, isOpen player →
      responses player + (chunkStream (fun _ => 1) feed player).length =
        inputs player + completed (chunkStream (fun _ => 1) feed) (droppedIn feed) := by
    intro player here
    rw [feedEq]
    exact length_received nonempty (not_dropped_of_flag positive here)
  constructor
  · intro player here
    have within := completed_le_length (chunkStream (fun _ => 1) feed) ((flag player).mp here)
    have total := count player here
    omega
  · rintro ⟨player, here⟩
    obtain ⟨slowest, slowestOpen, exactly⟩ : ∃ slot, droppedIn feed slot = false ∧
        (chunkStream (fun _ => 1) feed slot).length =
          completed (chunkStream (fun _ => 1) feed) (droppedIn feed) :=
      exists_length_eq_completed ⟨player, (flag player).mp here⟩
    have isOpenToo := (flag slowest).mpr slowestOpen
    have total := count slowest isOpenToo
    exact ⟨slowest, isOpenToo, by omega⟩

/-- Two players, one dropped: the other is never behind. -/
theorem lockstep_never_deadlocks_after_drop :
    let fresh := start (fun _ : Fin 2 => 1) (fun _ => 0) false
    let calls : List Call := [.input 0 (.gameData [1]), .drop 1]
    ∃ player : Fin 2, ((machine 2).final fresh calls).isPlayerDropped player = false ∧
      (received player ((machine 2).outputs fresh calls)).length =
        (resolvedInputs player fresh calls).length := by
  refine (lockstep_never_deadlocks ?_).2 ⟨0, rfl⟩
  have resolved : ∀ player : Fin 2, resolvedInputs player (start (fun _ => 1) (fun _ => 0) false)
      [.input 0 (.gameData [1]), .drop 1] = if player = 0 then [[1]] else [] :=
    Fin.forall_fin_two.mpr ⟨rfl, rfl⟩
  intro player input member
  rw [resolved] at member
  split at member
  · simp [List.mem_singleton.mp member]
  · simp at member

end Run

end Direlera.Sync.DelayedGameSync
