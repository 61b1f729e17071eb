import Direlera.Sync.SimplestGameSync

/-!
# Lockstep agreement of the combiner

`chunkStream` is what a player contributed before it was dropped. After every
run the queues hold the unmerged ends of these streams, the send buffers the
frames since each player's last block, and the outputs returned to a player are
the blocks of the common frame stream.
-/

namespace Direlera.Sync.SimplestGameSync

open Direlera.Library Direlera.Library.Lockstep

variable {n : Nat}

/-! ## What a run contributed -/

/-- The chunks of one input: `input.chunks(len / delay)`, nothing when `len < delay`. -/
def inputChunks (delay : Nat) (input : Bytes) : List OneInput :=
  if input.length < delay then [] else chunks (input.length / delay) input

/-- The inputs which a player sent before it was dropped. -/
def inputsBeforeDrop (player : Fin n) : List (SyncOp n) → List Bytes
  | [] => []
  | .input sender bytes :: rest =>
      if sender = player then bytes :: inputsBeforeDrop player rest
      else inputsBeforeDrop player rest
  | .drop dropped :: rest => if dropped = player then [] else inputsBeforeDrop player rest

/-- The chunks which a player contributed before it was dropped. -/
def chunkStream (delays : Fin n → Nat) (ops : List (SyncOp n)) (player : Fin n) :
    List OneInput :=
  (inputsBeforeDrop player ops).flatMap (inputChunks (delays player))

/-- A player was dropped during the run. -/
def droppedIn (ops : List (SyncOp n)) (player : Fin n) : Bool := decide (.drop player ∈ ops)

/-- The chunk size of the first input which produced chunks, 0 before one does;
`closed` are the players whose inputs are ignored. -/
def firstChunkSizeFrom (delays : Fin n → Nat) (closed : Fin n → Bool) : List (SyncOp n) → Nat
  | [] => 0
  | .input player bytes :: rest =>
      if closed player = false ∧ 0 < bytes.length / delays player then
        bytes.length / delays player
      else firstChunkSizeFrom delays closed rest
  | .drop player :: rest => firstChunkSizeFrom delays (Function.update closed player true) rest

/-- The chunk size of the first input of a run which produced chunks. -/
def firstChunkSize (delays : Fin n → Nat) (ops : List (SyncOp n)) : Nat :=
  firstChunkSizeFrom delays (fun _ => false) ops

/-- `F_k`: the chunks of all players at index `k`, zeros where a stream ended. -/
def frameBytes (delays : Fin n → Nat) (ops : List (SyncOp n)) (index : Nat) : Bytes :=
  (frame (List.replicate (firstChunkSize delays ops) 0) (chunkStream delays ops) index).flatten

/-- `K`: the frames which the run completed. -/
def completedFrames (delays : Fin n → Nat) (ops : List (SyncOp n)) : Nat :=
  completed (chunkStream delays ops) (droppedIn ops)

theorem chunks_ne_nil {size : Nat} {bytes : Bytes} (nonempty : bytes ≠ []) :
    chunks size bytes ≠ [] := by
  cases bytes with
  | nil => exact absurd rfl nonempty
  | cons byte rest => simp [chunks, chunksWithin]

theorem inputChunks_eq_nil_iff {delay : Nat} (positive : 0 < delay) {input : Bytes} :
    inputChunks delay input = [] ↔ input.length / delay = 0 := by
  unfold inputChunks
  rw [Nat.div_eq_zero_iff_lt positive]
  by_cases short : input.length < delay
  · simp [short]
  · have nonempty : input ≠ [] := fun empty => short (by simpa [empty] using positive)
    simp [short, chunks_ne_nil nonempty]

/-- With delay 1 a nonempty input is one chunk. -/
theorem inputChunks_one {input : Bytes} (nonempty : input ≠ []) :
    inputChunks 1 input = [input] := by
  have length := List.length_pos_of_ne_nil nonempty
  rw [inputChunks, if_neg (by omega), Nat.div_one, chunks_length nonempty]

/-- A player not yet dropped keeps contributing. -/
theorem inputsBeforeDrop_append_open {player : Fin n} {ops : List (SyncOp n)}
    (isOpen : SyncOp.drop player ∉ ops) (more : List (SyncOp n)) :
    inputsBeforeDrop player (ops ++ more) =
      inputsBeforeDrop player ops ++ inputsBeforeDrop player more := by
  induction ops with
  | nil => rfl
  | cons op rest ih =>
      simp only [List.mem_cons, not_or] at isOpen
      have later := ih isOpen.2
      cases op with
      | input sender bytes =>
          simp only [List.cons_append, inputsBeforeDrop, later]
          split <;> rfl
      | drop other =>
          have different : other ≠ player := fun same => isOpen.1 (by rw [same])
          simp only [List.cons_append, inputsBeforeDrop, different, if_false, later]

/-- Nothing after a player's drop counts. -/
theorem inputsBeforeDrop_append_closed {player : Fin n} {ops : List (SyncOp n)}
    (isClosed : SyncOp.drop player ∈ ops) (more : List (SyncOp n)) :
    inputsBeforeDrop player (ops ++ more) = inputsBeforeDrop player ops := by
  induction ops with
  | nil => simp at isClosed
  | cons op rest ih =>
      cases op with
      | input sender bytes =>
          have later : SyncOp.drop player ∈ rest := by simpa using isClosed
          simp only [List.cons_append, inputsBeforeDrop, ih later]
      | drop other =>
          simp only [List.cons_append, inputsBeforeDrop]
          split
          next => rfl
          next different =>
            refine ih ?_
            rcases List.mem_cons.mp isClosed with same | later
            · exact absurd (SyncOp.drop.inj same).symm different
            · exact later

theorem firstChunkSizeFrom_append (delays : Fin n → Nat) (closed : Fin n → Bool)
    (ops more : List (SyncOp n)) :
    firstChunkSizeFrom delays closed (ops ++ more) =
      if firstChunkSizeFrom delays closed ops = 0 then
        firstChunkSizeFrom delays (fun player => closed player || droppedIn ops player) more
      else firstChunkSizeFrom delays closed ops := by
  induction ops generalizing closed with
  | nil => simp [firstChunkSizeFrom, droppedIn]
  | cons op rest ih =>
      cases op with
      | input sender bytes =>
          simp only [List.cons_append, firstChunkSizeFrom]
          split
          next first => rw [if_neg (by omega)]
          next => simp [ih, droppedIn]
      | drop other =>
          simp only [List.cons_append, firstChunkSizeFrom, ih]
          have sameClosed :
              (fun player => Function.update closed other true player || droppedIn rest player) =
                fun player => closed player || droppedIn (.drop other :: rest) player := by
            funext player
            by_cases same : player = other
            · simp [same, droppedIn]
            · simp [same, droppedIn]
          rw [sameClosed]
          rfl

/-- The effect of one more call on the contributed chunks. -/
theorem chunkStream_concat (delays : Fin n → Nat) (ops : List (SyncOp n)) (op : SyncOp n) :
    chunkStream delays (ops ++ [op]) =
      match op with
      | .input player bytes =>
          if droppedIn ops player then chunkStream delays ops
          else Function.update (chunkStream delays ops) player
            (chunkStream delays ops player ++ inputChunks (delays player) bytes)
      | .drop _ => chunkStream delays ops := by
  funext slot
  by_cases isClosed : SyncOp.drop slot ∈ ops
  · rw [chunkStream, inputsBeforeDrop_append_closed isClosed]
    cases op with
    | drop other => rfl
    | input player bytes =>
        by_cases same : slot = player
        · subst same
          simp [droppedIn, isClosed, chunkStream]
        · simp only
          split <;> simp [same, chunkStream]
  · rw [chunkStream, inputsBeforeDrop_append_open isClosed, List.flatMap_append]
    cases op with
    | drop other => simp [inputsBeforeDrop, chunkStream]
    | input player bytes =>
        by_cases same : slot = player
        · subst same
          simp [droppedIn, isClosed, chunkStream, inputsBeforeDrop]
        · simp only [inputsBeforeDrop, Ne.symm same, if_false, List.flatMap_nil, List.append_nil]
          split <;> simp [same, chunkStream]

theorem droppedIn_concat (ops : List (SyncOp n)) (op : SyncOp n) :
    droppedIn (ops ++ [op]) =
      match op with
      | .input _ _ => droppedIn ops
      | .drop player => Function.update (droppedIn ops) player true := by
  funext slot
  cases op with
  | input player bytes => simp [droppedIn]
  | drop player =>
      by_cases same : slot = player
      · simp [same, droppedIn]
      · simp [same, droppedIn]

theorem firstChunkSize_concat (delays : Fin n → Nat) (ops : List (SyncOp n)) (op : SyncOp n) :
    firstChunkSize delays (ops ++ [op]) =
      match op with
      | .input player bytes =>
          if firstChunkSize delays ops = 0 ∧ droppedIn ops player = false then
            bytes.length / delays player
          else firstChunkSize delays ops
      | .drop _ => firstChunkSize delays ops := by
  unfold firstChunkSize
  rw [firstChunkSizeFrom_append]
  cases op with
  | drop player => by_cases unsized : firstChunkSizeFrom delays (fun _ => false) ops = 0 <;>
      simp [unsized, firstChunkSizeFrom]
  | input player bytes =>
      by_cases unsized : firstChunkSizeFrom delays (fun _ => false) ops = 0
      · by_cases isOpen : droppedIn ops player = false
        · simp only [unsized, isOpen, firstChunkSizeFrom, if_true, Bool.or_false, true_and, and_self]
          split
          next => rfl
          next none => exact (Nat.eq_zero_of_not_pos none).symm
        · simp [unsized, isOpen, firstChunkSizeFrom]
      · simp [unsized]

/-! ## The state of a run -/

/-- The bytes of one released block. -/
def block (pad : OneInput) (streams : Fin n → List OneInput) (delay index : Nat) : Bytes :=
  segment (fun k => (frame pad streams k).flatten) (index * delay) delay

/-- The engine after merging `index` frames of `streams`: the queues hold the
rest, each buffer the frames since its last block, and `outputs` the blocks. -/
structure Merged (pad : OneInput) (streams : Fin n → List OneInput) (index : Nat)
    (outputs : List (PlayerOutput n)) (sync : SimplestGameSync n) : Prop where
  queues : ∀ i, sync.playerInput i = (streams i).drop index
  buffers : ∀ p, sync.senderBuffer p =
    segment (frame pad streams) (index / sync.playerDelays p * sync.playerDelays p)
      (index % sync.playerDelays p)
  sent : ∀ p, outputsFor p outputs =
    (List.range (index / sync.playerDelays p)).map (block pad streams (sync.playerDelays p))

/-- The guard of the loop asks for the next complete frame. -/
theorem Merged.readyToDrain_iff {pad : OneInput} {streams : Fin n → List OneInput} {index : Nat}
    {outputs : List (PlayerOutput n)} {sync : SimplestGameSync n}
    (merged : Merged pad streams index outputs sync) :
    sync.readyToDrain = true ↔ index < completed streams sync.droppedPlayers := by
  rw [SimplestGameSync.readyToDrain_iff, lt_completed_iff]
  simp [merged.queues]

/-- A ready engine extracts exactly the next frame. -/
theorem Merged.extractInputs_eq {pad : OneInput} {streams : Fin n → List OneInput} {index : Nat}
    {outputs : List (PlayerOutput n)} {sync : SimplestGameSync n}
    (merged : Merged pad streams index outputs sync) (ready : sync.readyToDrain = true)
    (padded : pad = List.replicate sync.gameDataSize 0) :
    sync.extractInputs = frame pad streams index := by
  have provided := (SimplestGameSync.readyToDrain_iff.mp ready).1
  unfold extractInputs frame
  rw [← List.filterMap_eq_map]
  refine List.filterMap_congr fun i _ => ?_
  have queue := merged.queues i
  rcases Nat.lt_or_ge index (streams i).length with within | ended
  · rw [List.drop_eq_getElem_cons within] at queue
    simp only [queue, List.getElem?_eq_getElem within, Option.getD_some, Function.comp_apply]
  · rw [List.drop_of_length_le ended] at queue
    have dropped : sync.droppedPlayers i = true := by simpa [queue] using provided i
    simp only [queue, dropped, padded, if_true, List.getElem?_eq_none ended, Option.getD_none,
      Function.comp_apply]

/-- One round merges one frame. -/
theorem Merged.drainRound {pad : OneInput} {streams : Fin n → List OneInput} {index : Nat}
    {outputs : List (PlayerOutput n)} {sync : SimplestGameSync n}
    (merged : Merged pad streams index outputs sync) (ready : sync.readyToDrain = true)
    (padded : pad = List.replicate sync.gameDataSize 0)
    (positive : ∀ p, 0 < sync.playerDelays p) :
    Merged pad streams (index + 1) (outputs ++ sync.drainRound.1) sync.drainRound.2 := by
  have extracted := merged.extractInputs_eq ready padded
  have someone : 0 < n := by
    obtain ⟨_, i, _⟩ := SimplestGameSync.readyToDrain_iff.mp ready
    exact Nat.lt_of_le_of_lt (Nat.zero_le _) i.isLt
  have nextBuffer : ∀ p, sync.senderBuffer p ++ sync.extractInputs =
      segment (frame pad streams) (index / sync.playerDelays p * sync.playerDelays p)
        (index % sync.playerDelays p + 1) := by
    intro p
    rw [merged.buffers, extracted, segment_succ, Nat.mul_comm, Nat.div_add_mod]
  have width : ∀ p, (sync.senderBuffer p ++ sync.extractInputs).length =
      (index % sync.playerDelays p + 1) * n := by
    intro p
    rw [nextBuffer, length_segment (fun k => length_frame pad streams k)]
  refine ⟨fun i => ?_, fun p => ?_, fun p => ?_⟩
  · rw [drainRound_playerInput, merged.queues, List.tail_drop]
  · change (sendBlocks _ (sync.senderBuffer p ++ sync.extractInputs)).2 = _
    rcases succ_div_mod (positive p) index with ⟨inside, sameBlock, next⟩ | ⟨last, nextBlock, next⟩
    · rw [sendBlocks_of_lt (by rw [width]; exact Nat.mul_lt_mul_of_pos_right inside someone)]
      rw [drainRound_playerDelays, sameBlock, next, nextBuffer]
    · rw [sendBlocks_of_eq (Nat.mul_pos (positive p) someone) (by rw [width, last])]
      rw [drainRound_playerDelays, next, segment_zero]
  · rw [outputsFor_append, merged.sent, outputsFor_drainRound, drainRound_playerDelays]
    rcases succ_div_mod (positive p) index with ⟨inside, sameBlock, _⟩ | ⟨last, nextBlock, _⟩
    · rw [sendBlocks_of_lt (by rw [width]; exact Nat.mul_lt_mul_of_pos_right inside someone)]
      rw [sameBlock, List.append_nil]
    · rw [sendBlocks_of_eq (Nat.mul_pos (positive p) someone) (by rw [width, last])]
      rw [nextBuffer, last, nextBlock, List.range_succ, List.map_append, flatten_segment]
      rfl

/-- Draining merges all complete frames. -/
theorem Merged.drainReadyInputs {pad : OneInput} {streams : Fin n → List OneInput} {index : Nat}
    {outputs : List (PlayerOutput n)} {sync : SimplestGameSync n}
    (merged : Merged pad streams index outputs sync)
    (padded : pad = List.replicate sync.gameDataSize 0)
    (positive : ∀ p, 0 < sync.playerDelays p)
    (reachable : index ≤ completed streams sync.droppedPlayers) :
    Merged pad streams (completed streams sync.droppedPlayers)
        (outputs ++ sync.drainReadyInputs.1) sync.drainReadyInputs.2 ∧
      sync.drainReadyInputs.2.playerDelays = sync.playerDelays ∧
      sync.drainReadyInputs.2.droppedPlayers = sync.droppedPlayers ∧
      sync.drainReadyInputs.2.gameDataSize = sync.gameDataSize := by
  obtain ⟨⟨stop, stopped, within, delays, dropped, size⟩, idle⟩ :=
    drainReadyInputs_induction
      (fun later state => ∃ k, Merged pad streams k (outputs ++ later) state ∧
        k ≤ completed streams sync.droppedPlayers ∧ state.playerDelays = sync.playerDelays ∧
        state.droppedPlayers = sync.droppedPlayers ∧ state.gameDataSize = sync.gameDataSize)
      ⟨index, by simpa using merged, reachable, rfl, rfl, rfl⟩
      (fun later state ⟨k, here, _, delays, dropped, size⟩ ready => by
        have before := here.readyToDrain_iff.mp ready
        rw [dropped] at before
        refine ⟨k + 1, ?_, before, delays, dropped, size⟩
        rw [← List.append_assoc]
        exact here.drainRound ready (by rw [padded, size]) (by simpa [delays] using positive))
  have last : stop = completed streams sync.droppedPlayers := by
    refine Nat.le_antisymm within (Nat.le_of_not_lt fun before => ?_)
    rw [← dropped] at before
    simp [stopped.readyToDrain_iff.mpr before] at idle
  exact ⟨last ▸ stopped, delays, dropped, size⟩

/-- Streams and padding may change where no merged frame sees it. -/
theorem Merged.restream {pad pad' : OneInput} {streams streams' : Fin n → List OneInput}
    {index : Nat} {outputs : List (PlayerOutput n)} {sync sync' : SimplestGameSync n}
    (merged : Merged pad streams index outputs sync)
    (same : ∀ k, k < index → frame pad' streams' k = frame pad streams k)
    (queues : ∀ i, sync'.playerInput i = (streams' i).drop index)
    (buffers : sync'.senderBuffer = sync.senderBuffer)
    (delays : sync'.playerDelays = sync.playerDelays) :
    Merged pad' streams' index outputs sync' := by
  refine ⟨queues, fun p => ?_, fun p => ?_⟩
  · rw [buffers, delays, merged.buffers]
    refine segment_congr fun offset below => (same _ ?_).symm
    have split := Nat.div_add_mod' index (sync.playerDelays p)
    omega
  · rw [delays, merged.sent]
    refine List.map_congr_left fun b member => segment_congr fun offset below => ?_
    have within := Nat.mul_le_of_le_div _ _ _ (Nat.succ_le_of_lt (List.mem_range.mp member))
    rw [Nat.succ_mul] at within
    rw [same _ (by omega)]

/-- With a positive delay, queueing appends the chunks and learns the size. -/
theorem queueInput_eq {sync : SimplestGameSync n} {player : Fin n}
    (positive : 0 < sync.playerDelays player) (input : Bytes) :
    sync.queueInput player input =
      { sync with
        gameDataSize :=
          if sync.gameDataSize = 0 then input.length / sync.playerDelays player
          else sync.gameDataSize
        playerInput := Function.update sync.playerInput player
          (sync.playerInput player ++ inputChunks (sync.playerDelays player) input) } := by
  unfold queueInput
  by_cases chunked : 0 < input.length / sync.playerDelays player
  · have long : ¬ input.length < sync.playerDelays player := by
      intro short
      rw [Nat.div_eq_of_lt short] at chunked
      exact Nat.lt_irrefl 0 chunked
    have nonempty : input ≠ [] := fun empty => by simp [empty] at chunked
    simp [positive, nonempty, chunked, inputChunks, long]
  · have none : input.length / sync.playerDelays player = 0 := Nat.eq_zero_of_not_pos chunked
    have empty := (inputChunks_eq_nil_iff positive).mpr none
    have sameSize : (if sync.gameDataSize = 0 then 0 else sync.gameDataSize) =
        sync.gameDataSize := by
      split <;> simp [*]
    simp [none, empty, sameSize]

/-- The engine agrees with the history of its calls. -/
structure Agrees (delays : Fin n → Nat) (ops : List (SyncOp n))
    (results : List (Except GameSyncError (List (PlayerOutput n))))
    (sync : SimplestGameSync n) : Prop where
  answered : ∀ result ∈ results, ∃ outputs, result = .ok outputs
  sameDelays : sync.playerDelays = delays
  dropped : sync.droppedPlayers = droppedIn ops
  size : sync.gameDataSize = firstChunkSize delays ops
  unsized : firstChunkSize delays ops = 0 → ∀ i, chunkStream delays ops i = []
  merged : Merged (List.replicate (firstChunkSize delays ops) 0) (chunkStream delays ops)
    (completedFrames delays ops) (results.flatMap returned) sync

/-- A fresh engine agrees with the empty history. -/
theorem agrees_new (delays : Fin n → Nat) : Agrees delays [] [] (new delays) := by
  have none : completedFrames delays [] = 0 := completed_of_empty _ fun _ => rfl
  refine ⟨by simp, rfl, by funext i; simp [new, droppedIn], rfl, fun _ _ => rfl, ?_⟩
  rw [none]
  exact ⟨fun _ => rfl, fun _ => by simp [new], fun _ => by simp⟩

/-- A drained engine whose streams grew agrees with the longer history. -/
theorem agrees_of_drained {delays : Fin n → Nat} {ops : List (SyncOp n)} {op : SyncOp n}
    {results : List (Except GameSyncError (List (PlayerOutput n)))}
    {before queued : SimplestGameSync n} (positive : ∀ i, 0 < delays i)
    (agrees : Agrees delays ops results before)
    (delaysKept : queued.playerDelays = delays)
    (buffersKept : queued.senderBuffer = before.senderBuffer)
    (dropped : queued.droppedPlayers = droppedIn (ops ++ [op]))
    (size : queued.gameDataSize = firstChunkSize delays (ops ++ [op]))
    (unsized : firstChunkSize delays (ops ++ [op]) = 0 →
      ∀ i, chunkStream delays (ops ++ [op]) i = [])
    (queues : ∀ i, queued.playerInput i =
      (chunkStream delays (ops ++ [op]) i).drop (completedFrames delays ops))
    (same : ∀ k, k < completedFrames delays ops →
      frame (List.replicate (firstChunkSize delays (ops ++ [op])) 0)
          (chunkStream delays (ops ++ [op])) k =
        frame (List.replicate (firstChunkSize delays ops) 0) (chunkStream delays ops) k)
    (reachable : completedFrames delays ops ≤ completedFrames delays (ops ++ [op])) :
    Agrees delays (ops ++ [op]) (results ++ [.ok queued.drainReadyInputs.1])
      queued.drainReadyInputs.2 := by
  have restreamed := agrees.merged.restream same queues buffersKept
    (delaysKept.trans agrees.sameDelays.symm)
  have positiveHere : ∀ p, 0 < queued.playerDelays p := by simpa [delaysKept] using positive
  obtain ⟨merged, delaysSame, droppedSame, sizeSame⟩ :=
    restreamed.drainReadyInputs (by rw [size]) positiveHere (by rw [dropped]; exact reachable)
  refine ⟨?_, delaysSame.trans delaysKept, droppedSame.trans dropped, sizeSame.trans size,
    unsized, ?_⟩
  · intro result member
    rcases List.mem_append.mp member with earlier | last
    · exact agrees.answered result earlier
    · exact ⟨_, List.mem_singleton.mp last⟩
  · rw [dropped] at merged
    simpa [returned, completedFrames] using merged

/-- Every call keeps the agreement. -/
theorem agrees_step {delays : Fin n → Nat} {ops : List (SyncOp n)}
    {results : List (Except GameSyncError (List (PlayerOutput n)))} {sync : SimplestGameSync n}
    (positive : ∀ i, 0 < delays i) (agrees : Agrees delays ops results sync) (op : SyncOp n) :
    Agrees delays (ops ++ [op]) (results ++ [((machine n).step sync op).1])
      ((machine n).step sync op).2 := by
  have streamsNext := chunkStream_concat delays ops op
  have droppedNext := droppedIn_concat ops op
  have sizeNext := firstChunkSize_concat delays ops op
  cases op with
  | drop player =>
      simp only at streamsNext droppedNext sizeNext
      have step : (machine n).step sync (.drop player) =
          (.ok (drainReadyInputs { sync with
              droppedPlayers := Function.update sync.droppedPlayers player true }).1,
            (drainReadyInputs { sync with
              droppedPlayers := Function.update sync.droppedPlayers player true }).2) := by
        simp [machine, markPlayerDropped]
      rw [step]
      refine agrees_of_drained positive agrees agrees.sameDelays rfl (by rw [droppedNext, ← agrees.dropped])
        (by rw [sizeNext]; exact agrees.size) (by rw [sizeNext, streamsNext]; exact agrees.unsized)
        (fun i => by rw [streamsNext]; exact agrees.merged.queues i)
        (fun k _ => by rw [sizeNext, streamsNext]) ?_
      unfold completedFrames
      rw [streamsNext, droppedNext]
      refine completed_mono (fun _ => Nat.le_refl _) fun slot isClosed => ?_
      by_cases same : slot = player
      · simp [same]
      · simpa [same] using isClosed
  | input player bytes =>
      simp only at streamsNext droppedNext sizeNext
      by_cases isClosed : droppedIn ops player = true
      · -- a dropped player's input is skipped, and nothing else became ready
        have step : (machine n).step sync (.input player bytes) = (.ok [], sync) := by
          simp [machine, processClientInput, agrees.dropped, isClosed]
        simp only [isClosed, if_true, Bool.true_eq_false, and_false, if_false] at streamsNext sizeNext
        rw [step]
        have framesNext : completedFrames delays (ops ++ [.input player bytes]) =
            completedFrames delays ops := by
          rw [completedFrames, streamsNext, droppedNext, completedFrames]
        refine ⟨?_, agrees.sameDelays, by rw [droppedNext]; exact agrees.dropped,
          by rw [sizeNext]; exact agrees.size, by rw [sizeNext, streamsNext]; exact agrees.unsized, ?_⟩
        · intro result member
          rcases List.mem_append.mp member with earlier | last
          · exact agrees.answered result earlier
          · exact ⟨[], List.mem_singleton.mp last⟩
        · rw [sizeNext, streamsNext, framesNext]
          simpa [returned] using agrees.merged
      · simp only [Bool.not_eq_true] at isClosed
        have here : 0 < sync.playerDelays player := by rw [agrees.sameDelays]; exact positive player
        have step : (machine n).step sync (.input player bytes) =
            (.ok (drainReadyInputs (sync.queueInput player bytes)).1,
              (drainReadyInputs (sync.queueInput player bytes)).2) := by
          simp [machine, processClientInput, agrees.dropped, isClosed]
        simp only [isClosed, Bool.false_eq_true, if_false, and_true] at streamsNext sizeNext
        have within : completedFrames delays ops ≤ (chunkStream delays ops player).length :=
          completed_le_length _ isClosed
        rw [step, queueInput_eq here]
        refine agrees_of_drained positive agrees agrees.sameDelays rfl
          (by rw [droppedNext]; exact agrees.dropped)
          (by rw [sizeNext, agrees.sameDelays, agrees.size]) ?_ ?_ ?_ ?_
        · intro unsized i
          rw [sizeNext] at unsized
          by_cases first : firstChunkSize delays ops = 0
          · have noChunks := (inputChunks_eq_nil_iff (positive player)).mpr
              (by simpa [first] using unsized)
            rw [streamsNext, noChunks, List.append_nil, Function.update_eq_self]
            exact agrees.unsized first i
          · rw [if_neg first] at unsized
            exact absurd unsized first
        · intro i
          rw [streamsNext, agrees.sameDelays]
          by_cases same : i = player
          · subst same
            simp only [Function.update_self, agrees.merged.queues]
            rw [List.drop_append_of_le_length within]
          · simp only [Function.update_of_ne same, agrees.merged.queues]
        · intro k before
          by_cases first : firstChunkSize delays ops = 0
          · have none : completedFrames delays ops = 0 :=
              completed_of_empty _ (agrees.unsized first)
            omega
          · rw [sizeNext, if_neg first]
            refine frame_congr fun slot => ?_
            rw [streamsNext]
            by_cases same : slot = player
            · subst same
              rw [Function.update_self, List.getElem?_append_left (by omega)]
            · rw [Function.update_of_ne same]
        · unfold completedFrames
          rw [streamsNext, droppedNext]
          refine completed_mono (fun slot => ?_) fun _ closed => closed
          by_cases same : slot = player
          · subst same
            simp
          · simp [same]

/-- The engine agrees with the history of every run. -/
theorem agrees_run {delays : Fin n → Nat} (positive : ∀ i, 0 < delays i)
    (ops : List (SyncOp n)) :
    Agrees delays ops ((machine n).outputs (new delays) ops)
      ((machine n).final (new delays) ops) :=
  (machine n).history_induction (Agrees delays) (agrees_new delays)
    (fun _ _ _ op agrees => agrees_step positive agrees op) ops

/-- Lockstep agreement: every call is answered, the outputs for a player over a
run are the blocks `F_(m*d) .. F_((m+1)*d-1)` for `m < K / d`, and laid end to end
they are a prefix of the frame stream common to all players. -/
theorem lockstep_agreement (delays : Fin n → Nat) (positive : ∀ i, 1 ≤ delays i)
    (ops : List (SyncOp n)) (player : Fin n) :
    (∀ result ∈ (machine n).outputs (new delays) ops, ∃ outputs, result = .ok outputs) ∧
      outputsFor player (((machine n).outputs (new delays) ops).flatMap returned) =
        (List.range (completedFrames delays ops / delays player)).map (fun m =>
          segment (frameBytes delays ops) (m * delays player) (delays player)) ∧
      (outputsFor player (((machine n).outputs (new delays) ops).flatMap returned)).flatten =
        segment (frameBytes delays ops) 0
          (completedFrames delays ops / delays player * delays player) := by
  have agrees := agrees_run positive ops
  have sent := agrees.merged.sent player
  rw [agrees.sameDelays] at sent
  refine ⟨agrees.answered, sent, ?_⟩
  rw [sent]
  exact flatten_blocks _ _ _

/-- Two players with delays 1 and 2: the second receives both frames in one block. -/
theorem lockstep_agreement_unequal_delays :
    outputsFor (1 : Fin 2) (((machine 2).outputs (new ![1, 2])
        [.input 0 [1], .input 1 [3, 4], .input 0 [2]]).flatMap returned) = [[1, 3, 2, 4]] :=
  (lockstep_agreement ![1, 2] (by decide) [.input 0 [1], .input 1 [3, 4], .input 0 [2]] 1).2.1.trans
    (by decide)

end Direlera.Sync.SimplestGameSync
