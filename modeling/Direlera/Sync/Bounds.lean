import Direlera.Sync.Vectors
import Direlera.Sync.Layers

/-!
# Every index is in range

The vectors of a layer keep one length, the number of players: they are tables of functions
of the slot before every call and after it. So no call faults, with delays of at least 1 no
loop runs on, and the errors are exactly those which the first checks return.
-/

namespace Direlera.Sync

open Direlera.Library

variable {n : Nat}

/-- The output over vectors. -/
def PlayerOutput.vectors (raw : PlayerOutput n) : Vectors.PlayerOutput := ⟨raw.playerId, raw.output⟩

/-- The response over vectors. -/
def CachedPlayerOutput.vectors (output : CachedPlayerOutput n) : Vectors.CachedPlayerOutput :=
  ⟨output.playerId, output.response⟩

/-- The report over vectors. -/
def CallReport.vectors (report : CallReport n) : Vectors.CallReport :=
  ⟨report.outputs.map CachedPlayerOutput.vectors, report.cacheOverflowed, report.milestone⟩

/-! ## The combiner -/

/-- Over vectors a buffer is sent the same blocks, and the loop ends. -/
theorem sendBlocks_vectors {requireLen : Nat} (positive : 0 < requireLen) (buffer : List OneInput) :
    Vectors.sendBlocks requireLen buffer =
      some (SimplestGameSync.sendBlocks requireLen buffer) := by
  have general : ∀ bound buffer, buffer.length ≤ bound →
      Vectors.sendBlocksWithin requireLen bound buffer =
        some (SimplestGameSync.sendBlocksWithin requireLen bound buffer) := by
    intro bound
    induction bound with
    | zero =>
        intro buffer empty
        rw [Vectors.sendBlocksWithin, if_neg (by omega)]
        rfl
    | succ bound ih =>
        intro buffer fits
        unfold Vectors.sendBlocksWithin SimplestGameSync.sendBlocksWithin
        by_cases whole : requireLen ≤ buffer.length
        · simp only [whole, if_true, ih (buffer.drop requireLen) (by simp; omega)]
          rfl
        · simp only [whole, if_false]
  exact general buffer.length buffer (Nat.le_refl _)

namespace SimplestGameSync

/-- The combiner over vectors. -/
def vectors (sync : SimplestGameSync n) : Vectors.SimplestGameSync where
  playerInput := List.ofFn sync.playerInput
  senderBuffer := List.ofFn sync.senderBuffer
  playerDelays := List.ofFn sync.playerDelays
  droppedPlayers := List.ofFn sync.droppedPlayers
  gameDataSize := sync.gameDataSize

/-- Delays of at least 1. -/
def Positive (sync : SimplestGameSync n) : Prop := ∀ i, 0 < sync.playerDelays i

variable {sync : SimplestGameSync n}

theorem readyToDrain_vectors (sync : SimplestGameSync n) :
    sync.vectors.readyToDrain = some sync.readyToDrain := by
  have contributes : ∀ i, sync.vectors.contributes (sync.playerInput i, i.val) =
      some (decide (sync.playerInput i ≠ [] ∨ sync.droppedPlayers i = true)) := by
    intro i
    cases queued : sync.playerInput i with
    | nil => simp [Vectors.SimplestGameSync.contributes, vectors]
    | cons input rest => simp [Vectors.SimplestGameSync.contributes]
  have all := allM_zipIdx_ofFn sync.playerInput contributes
  unfold Vectors.SimplestGameSync.readyToDrain
  simp only [show sync.vectors.playerInput = List.ofFn sync.playerInput from rfl, all,
    Option.bind_eq_bind, Option.bind_some]
  refine congrArg some (Bool.eq_iff_iff.mpr ?_)
  rw [readyToDrain_iff]
  simp

/-- Over vectors a round extracts the same inputs. -/
theorem extractInputs_vectors (sync : SimplestGameSync n) :
    sync.vectors.extractInputs =
      some (sync.extractInputs, List.ofFn fun i => (sync.playerInput i).tail) := by
  let padding : Fin n → Option OneInput := fun i =>
    if sync.droppedPlayers i then some (List.replicate sync.gameDataSize 0) else none
  have takes : ∀ i, sync.vectors.takeInput (sync.playerInput i, i.val) =
      some ((sync.playerInput i).head?.or (padding i), (sync.playerInput i).tail) := by
    intro i
    cases queued : sync.playerInput i with
    | nil => simp [Vectors.SimplestGameSync.takeInput, vectors, padding]
    | cons input rest => rfl
  have all := mapM_zipIdx_ofFn sync.playerInput takes
  unfold Vectors.SimplestGameSync.extractInputs
  simp only [show sync.vectors.playerInput = List.ofFn sync.playerInput from rfl, all,
    Option.bind_eq_bind, Option.bind_some]
  refine congrArg some (Prod.ext ?_ ?_)
  · rw [List.ofFn_eq_map, List.filterMap_map]
    refine List.filterMap_congr fun i _ => ?_
    simp only [Function.comp_apply, padding]
    cases sync.playerInput i <;> rfl
  · rw [List.map_ofFn]
    rfl

/-- Over vectors a round is sent the same. -/
theorem sendReady_vectors (positive : sync.Positive) (extracted : List OneInput) :
    sync.vectors.sendReady extracted =
      some ((List.finRange n).flatMap fun pid =>
          (sendBlocks (sync.playerDelays pid * n) (sync.senderBuffer pid ++ extracted)).1.map
            fun output => ⟨pid, output⟩,
        List.ofFn fun pid =>
          (sendBlocks (sync.playerDelays pid * n) (sync.senderBuffer pid ++ extracted)).2) := by
  have sends : ∀ pid, sync.vectors.sendTo extracted (sync.senderBuffer pid, pid.val) =
      some ((sendBlocks (sync.playerDelays pid * n) (sync.senderBuffer pid ++ extracted)).1.map
          fun output => ⟨pid, output⟩,
        (sendBlocks (sync.playerDelays pid * n) (sync.senderBuffer pid ++ extracted)).2) := by
    intro pid
    have delay : sync.vectors.playerDelays[pid.val]? = some (sync.playerDelays pid) :=
      readAt_ofFn _ pid
    have players : sync.vectors.playerDelays.length = n := List.length_ofFn
    simp only [Vectors.SimplestGameSync.sendTo, delay, players, Option.bind_eq_bind,
      Option.bind_some, sendBlocks_vectors (Nat.mul_pos (positive pid) pid.pos)]
  have all := mapM_zipIdx_ofFn sync.senderBuffer sends
  unfold Vectors.SimplestGameSync.sendReady
  simp only [show sync.vectors.senderBuffer = List.ofFn sync.senderBuffer from rfl, all,
    Option.bind_eq_bind, Option.bind_some]
  refine congrArg some (Prod.ext ?_ ?_)
  · rw [List.ofFn_eq_map, List.flatMap_map]
  · rw [List.map_ofFn]
    rfl

theorem drainRound_vectors (positive : sync.Positive) :
    sync.vectors.drainRound =
      some (sync.drainRound.1.map PlayerOutput.vectors, sync.drainRound.2.vectors) := by
  unfold Vectors.SimplestGameSync.drainRound
  simp only [extractInputs_vectors, sendReady_vectors positive, Option.bind_eq_bind,
    Option.bind_some]
  refine congrArg some (Prod.ext ?_ rfl)
  simp only [drainRound, List.map_flatMap, List.map_map]
  rfl

/-- Over vectors draining returns the same, and its loops end. -/
theorem drainReadyInputs_vectors (positive : sync.Positive) :
    sync.vectors.drainReadyInputs =
      some (sync.drainReadyInputs.1.map PlayerOutput.vectors, sync.drainReadyInputs.2.vectors) := by
  have general : ∀ bound (sync : SimplestGameSync n), sync.queuedInputs ≤ bound → sync.Positive →
      Vectors.SimplestGameSync.drainWithin bound sync.vectors =
        some ((drainWithin bound sync).1.map PlayerOutput.vectors,
          (drainWithin bound sync).2.vectors) := by
    intro bound
    induction bound with
    | zero =>
        intro sync empty positive
        have idle := not_readyToDrain_of_queuedInputs_eq_zero (Nat.le_zero.mp empty)
        simp [Vectors.SimplestGameSync.drainWithin, readyToDrain_vectors, idle, drainWithin]
    | succ bound ih =>
        intro sync fits positive
        unfold Vectors.SimplestGameSync.drainWithin drainWithin
        simp only [readyToDrain_vectors, Option.bind_eq_bind, Option.bind_some]
        by_cases ready : sync.readyToDrain = true
        · have fewer := queuedInputs_drainRound_lt ready
          have later := ih sync.drainRound.2 (by omega) positive
          simp only [ready, if_true, drainRound_vectors positive, later, Option.bind_some,
            List.map_append]
        · simp only [ready, Bool.false_eq_true, if_false, List.map_nil]
  have bound : (sync.vectors.playerInput.map List.length).sum = sync.queuedInputs := by
    rw [show sync.vectors.playerInput = List.ofFn sync.playerInput from rfl, List.map_ofFn,
      List.sum_ofFn]
    rfl
  rw [Vectors.SimplestGameSync.drainReadyInputs, bound]
  exact general _ sync (Nat.le_refl _) positive

theorem playerDelays_queueInput (sync : SimplestGameSync n) (player : Fin n) (input : Bytes) :
    (sync.queueInput player input).playerDelays = sync.playerDelays := by
  unfold queueInput
  dsimp only
  split
  · split <;> rfl
  · rfl

theorem playerDelays_drainReadyInputs (sync : SimplestGameSync n) :
    sync.drainReadyInputs.2.playerDelays = sync.playerDelays :=
  (sync.drainReadyInputs_induction
    (fun _ state => state.playerDelays = sync.playerDelays) rfl fun _ _ same _ => same).1

/-- Over vectors an input is queued alike. -/
theorem queueInput_vectors (sync : SimplestGameSync n) (player : Fin n) (input : Bytes) :
    sync.vectors.queueInput player input = some (sync.queueInput player input).vectors := by
  have delay : sync.vectors.playerDelays[player.val]? = some (sync.playerDelays player) :=
    readAt_ofFn _ player
  have queued : sync.vectors.playerInput[player.val]? = some (sync.playerInput player) :=
    readAt_ofFn _ player
  have written : ∀ value, writeAt sync.vectors.playerInput player value =
      some (List.ofFn (Function.update sync.playerInput player value)) :=
    writeAt_ofFn sync.playerInput player
  simp only [Vectors.SimplestGameSync.queueInput, queueInput, delay, queued, written,
    Option.bind_eq_bind, Option.bind_some]
  split
  · split <;> rfl
  · rfl

/-- The answer of the combiner over vectors. -/
def vectorsAnswer (answer : Except GameSyncError (List (PlayerOutput n)) × SimplestGameSync n) :
    Except GameSyncError (List Vectors.PlayerOutput) × Vectors.SimplestGameSync :=
  (answer.1.map (List.map PlayerOutput.vectors), answer.2.vectors)

theorem processClientInput_vectors (positive : sync.Positive) (playerId : Nat) (input : Bytes) :
    sync.vectors.processClientInput playerId input =
      some (vectorsAnswer (sync.processClientInput playerId input)) := by
  have players : sync.vectors.playerInput.length = n := List.length_ofFn
  unfold Vectors.SimplestGameSync.processClientInput processClientInput
  by_cases inRange : playerId < n
  · have flag : sync.vectors.droppedPlayers[playerId]? =
        some (sync.droppedPlayers ⟨playerId, inRange⟩) := readAt_ofFn _ ⟨playerId, inRange⟩
    have queued := queueInput_vectors sync ⟨playerId, inRange⟩ input
    have kept : (sync.queueInput ⟨playerId, inRange⟩ input).Positive := by
      intro i
      rw [playerDelays_queueInput]
      exact positive i
    simp only [players, Nat.not_le.mpr inRange, inRange, if_false, dif_pos, flag,
      Option.bind_eq_bind, Option.bind_some]
    cases sync.droppedPlayers ⟨playerId, inRange⟩ with
    | true => rfl
    | false =>
        simp only [Bool.false_eq_true, if_false, queued, drainReadyInputs_vectors kept,
          Option.bind_some]
        rfl
  · simp only [players, Nat.not_lt.mp inRange, inRange, if_true, dif_neg, not_false_eq_true]
    rfl

theorem markPlayerDropped_vectors (positive : sync.Positive) (playerId : Nat) :
    sync.vectors.markPlayerDropped playerId =
      some (vectorsAnswer (sync.markPlayerDropped playerId)) := by
  have players : sync.vectors.droppedPlayers.length = n := List.length_ofFn
  unfold Vectors.SimplestGameSync.markPlayerDropped markPlayerDropped
  by_cases inRange : playerId < n
  · have written := writeAt_ofFn sync.droppedPlayers ⟨playerId, inRange⟩ true
    have drained := @drainReadyInputs_vectors _ { sync with
      droppedPlayers := Function.update sync.droppedPlayers ⟨playerId, inRange⟩ true } positive
    simp only [Nat.not_le.mpr inRange, inRange, if_false, dif_pos,
      show sync.vectors.droppedPlayers = List.ofFn sync.droppedPlayers from rfl,
      List.length_ofFn, written, Option.bind_eq_bind, Option.bind_some]
    simp only [vectors] at drained ⊢
    rw [drained]
    rfl
  · simp only [players, Nat.not_lt.mp inRange, inRange, if_true, dif_neg, not_false_eq_true]
    rfl

/-- Calls leave the delays as they are. -/
theorem positive_processClientInput (positive : sync.Positive) (playerId : Nat) (input : Bytes) :
    (sync.processClientInput playerId input).2.Positive := by
  unfold processClientInput
  split
  · split
    · exact positive
    · intro i
      dsimp only
      rw [playerDelays_drainReadyInputs, playerDelays_queueInput]
      exact positive i
  · exact positive

theorem positive_markPlayerDropped (positive : sync.Positive) (playerId : Nat) :
    (sync.markPlayerDropped playerId).2.Positive := by
  unfold markPlayerDropped
  split
  · intro i
    dsimp only
    rw [playerDelays_drainReadyInputs]
    exact positive i
  · exact positive

end SimplestGameSync

/-! ## The cache layer -/

/-- Over vectors a message is resolved alike. -/
theorem resolveInput_vectors (caches : Fin n → InputCache) (player : Fin n)
    (message : ClientInput) :
    Vectors.resolveInput (List.ofFn caches) player message =
      some ((resolveInput caches player message).1,
        List.ofFn (resolveInput caches player message).2) := by
  cases message with
  | gameData data =>
      simp only [Vectors.resolveInput, readAt_ofFn, writeAt_ofFn, Option.bind_eq_bind,
        Option.bind_some]
      rfl
  | gameCache position =>
      simp only [Vectors.resolveInput, resolveInput, readAt_ofFn, Option.bind_eq_bind,
        Option.bind_some]
      cases (caches player).get position <;> rfl

namespace CachedGameSync

/-- The cache layer over vectors. -/
def vectors (cached : CachedGameSync n) : Vectors.CachedGameSync where
  sync := cached.sync.vectors
  inputCaches := List.ofFn cached.inputCaches
  outputCaches := List.ofFn cached.outputCaches
  disableOutputCache := cached.disableOutputCache

variable {cached : CachedGameSync n}

theorem makeCachedOutput_vectors (cached : CachedGameSync n) (player : Fin n) (output : Bytes) :
    cached.vectors.makeCachedOutput player output =
      some ((cached.makeCachedOutput player output).1,
        (cached.makeCachedOutput player output).2.vectors) := by
  unfold Vectors.CachedGameSync.makeCachedOutput makeCachedOutput
  have read : cached.vectors.outputCaches[player.val]? = some (cached.outputCaches player) :=
    readAt_ofFn _ player
  have written : ∀ value, writeAt cached.vectors.outputCaches player value =
      some (List.ofFn (Function.update cached.outputCaches player value)) :=
    writeAt_ofFn cached.outputCaches player
  simp only [show cached.vectors.disableOutputCache = cached.disableOutputCache from rfl, read,
    written, Option.bind_eq_bind, Option.bind_some]
  split
  · rfl
  · cases (cached.outputCaches player).find output <;> rfl

theorem cacheOutputs_vectors (cached : CachedGameSync n) (raws : List (PlayerOutput n)) :
    cached.vectors.cacheOutputs (raws.map PlayerOutput.vectors) =
      some ((cached.cacheOutputs raws).1.vectors, (cached.cacheOutputs raws).2.vectors) := by
  induction raws generalizing cached with
  | nil => rfl
  | cons raw rest ih =>
      simp only [List.map_cons, Vectors.CachedGameSync.cacheOutputs, PlayerOutput.vectors,
        makeCachedOutput_vectors, Option.bind_eq_bind, Option.bind_some]
      rw [ih]
      rfl

theorem processClientInput_vectors (positive : cached.sync.Positive) (playerId : Nat)
    (message : ClientInput) :
    cached.vectors.processClientInput playerId message =
      some ((cached.processClientInput playerId message).1.map CallReport.vectors,
        (cached.processClientInput playerId message).2.vectors) := by
  have players : cached.vectors.playerCount = n := List.length_ofFn
  unfold Vectors.CachedGameSync.processClientInput processClientInput
  by_cases inRange : playerId < n
  · have resolved := resolveInput_vectors cached.inputCaches ⟨playerId, inRange⟩ message
    simp only [players, Nat.not_le.mpr inRange, inRange, if_false, dif_pos,
      show cached.vectors.inputCaches = List.ofFn cached.inputCaches from rfl, resolved,
      Option.bind_eq_bind, Option.bind_some]
    cases resolveInput cached.inputCaches ⟨playerId, inRange⟩ message with
    | mk result inputCaches =>
        cases result with
        | error error => rfl
        | ok data =>
            simp only [show cached.vectors.sync = cached.sync.vectors from rfl,
              SimplestGameSync.processClientInput_vectors positive, Option.bind_some,
              SimplestGameSync.vectorsAnswer]
            cases cached.sync.processClientInput playerId data with
            | mk answer sync =>
                cases answer with
                | error error => rfl
                | ok raws =>
                    have converted := cacheOutputs_vectors { cached with inputCaches, sync } raws
                    simp only [vectors, Except.map] at converted ⊢
                    rw [converted]
                    rfl
  · simp only [players, Nat.not_lt.mp inRange, inRange, if_true, dif_neg, not_false_eq_true]
    rfl

theorem markPlayerDropped_vectors (positive : cached.sync.Positive) (playerId : Nat) :
    cached.vectors.markPlayerDropped playerId =
      some ((cached.markPlayerDropped playerId).1.map (List.map CachedPlayerOutput.vectors),
        (cached.markPlayerDropped playerId).2.vectors) := by
  unfold Vectors.CachedGameSync.markPlayerDropped markPlayerDropped
  simp only [show cached.vectors.sync = cached.sync.vectors from rfl,
    SimplestGameSync.markPlayerDropped_vectors positive, Option.bind_eq_bind, Option.bind_some,
    SimplestGameSync.vectorsAnswer]
  cases cached.sync.markPlayerDropped playerId with
  | mk answer sync =>
      cases answer with
      | error error => rfl
      | ok raws =>
          have converted := cacheOutputs_vectors { cached with sync } raws
          simp only [vectors, Except.map] at converted ⊢
          rw [converted]
          rfl

theorem positive_markPlayerDropped (positive : cached.sync.Positive) (playerId : Nat) :
    (cached.markPlayerDropped playerId).2.sync.Positive := by
  rw [markPlayerDropped_eq_convert, sync_convert]
  exact SimplestGameSync.positive_markPlayerDropped positive playerId

end CachedGameSync

/-! ## The startup layer -/

namespace DelayedGameSync

/-- The startup layer over vectors. -/
def vectors (delayed : DelayedGameSync n) : Vectors.DelayedGameSync where
  inner := delayed.inner.vectors
  inputCaches := List.ofFn delayed.inputCaches
  queues := List.ofFn delayed.queues
  warmupSent := List.ofFn delayed.warmupSent
  totalDelays := List.ofFn delayed.totalDelays
  frameSize := delayed.frameSize
  playerCount := n

variable {delayed : DelayedGameSync n}

theorem learnFrameSize_vectors (delayed : DelayedGameSync n) (bytes : Bytes) :
    delayed.vectors.learnFrameSize bytes = (delayed.learnFrameSize bytes).vectors := by
  unfold Vectors.DelayedGameSync.learnFrameSize learnFrameSize
  rw [show delayed.vectors.frameSize = delayed.frameSize from rfl]
  split <;> rfl

theorem processResolved_vectors (positive : delayed.inner.sync.Positive) (player : Fin n)
    (bytes : Bytes) :
    delayed.vectors.processResolved player bytes =
      some ((delayed.processResolved player bytes).1.map CallReport.vectors,
        (delayed.processResolved player bytes).2.vectors) := by
  unfold Vectors.DelayedGameSync.processResolved processResolved
  rw [learnFrameSize_vectors]
  have positiveSized : (delayed.learnFrameSize bytes).inner.sync.Positive := by
    rwa [learnFrameSize_inner]
  generalize delayed.learnFrameSize bytes = sized at positiveSized
  have total : sized.vectors.totalDelays[player.val]? = some (sized.totalDelays player) :=
    readAt_ofFn _ player
  have sent : sized.vectors.warmupSent[player.val]? = some (sized.warmupSent player) :=
    readAt_ofFn _ player
  have saved : sized.vectors.queues[player.val]? = some (sized.queues player) :=
    readAt_ofFn _ player
  have save : ∀ value, writeAt sized.vectors.queues player value =
      some (List.ofFn (Function.update sized.queues player value)) :=
    writeAt_ofFn sized.queues player
  have count : ∀ value, writeAt sized.vectors.warmupSent player value =
      some (List.ofFn (Function.update sized.warmupSent player value)) :=
    writeAt_ofFn sized.warmupSent player
  have feed := fun data => CachedGameSync.processClientInput_vectors positiveSized player.val
    (.gameData data)
  simp only [total, sent, saved, save, count, Option.bind_eq_bind, Option.bind_some,
    show sized.vectors.inner = sized.inner.vectors from rfl,
    CachedGameSync.makeCachedOutput_vectors]
  by_cases warm : sized.warmupSent player < sized.totalDelays player
  · simp only [warm, if_true]
    rfl
  · simp only [warm, if_false]
    cases sized.queues player with
    | cons due rest =>
        simp only [feed, Option.bind_some]
        rfl
    | nil =>
        simp only [feed, Option.bind_some]
        rfl

theorem processClientInput_vectors (positive : delayed.inner.sync.Positive) (playerId : Nat)
    (message : ClientInput) :
    delayed.vectors.processClientInput playerId message =
      some ((delayed.processClientInput playerId message).1.map CallReport.vectors,
        (delayed.processClientInput playerId message).2.vectors) := by
  unfold Vectors.DelayedGameSync.processClientInput processClientInput
  by_cases inRange : playerId < n
  · have resolved := resolveInput_vectors delayed.inputCaches ⟨playerId, inRange⟩ message
    simp only [show delayed.vectors.playerCount = n from rfl, Nat.not_le.mpr inRange, inRange,
      if_false, dif_pos, show delayed.vectors.inputCaches = List.ofFn delayed.inputCaches from rfl,
      resolved, Option.bind_eq_bind, Option.bind_some]
    cases resolveInput delayed.inputCaches ⟨playerId, inRange⟩ message with
    | mk result inputCaches =>
        cases result with
        | error error => rfl
        | ok bytes =>
            exact @processResolved_vectors _ { delayed with inputCaches } positive
              ⟨playerId, inRange⟩ bytes
  · simp only [show delayed.vectors.playerCount = n from rfl, Nat.not_lt.mp inRange, inRange,
      if_true, dif_neg, not_false_eq_true]
    rfl

theorem markPlayerDropped_vectors (positive : delayed.inner.sync.Positive) (playerId : Nat) :
    delayed.vectors.markPlayerDropped playerId =
      some ((delayed.markPlayerDropped playerId).1.map (List.map CachedPlayerOutput.vectors),
        (delayed.markPlayerDropped playerId).2.vectors) := by
  have inner := CachedGameSync.markPlayerDropped_vectors positive playerId
  unfold Vectors.DelayedGameSync.markPlayerDropped markPlayerDropped
  by_cases inRange : playerId < n
  · have cleared := writeAt_ofFn delayed.queues ⟨playerId, inRange⟩ []
    simp only [show delayed.vectors.playerCount = n from rfl, inRange, if_true, dif_pos,
      show delayed.vectors.queues = List.ofFn delayed.queues from rfl, cleared,
      show delayed.vectors.inner = delayed.inner.vectors from rfl, inner, Option.bind_eq_bind,
      Option.bind_some]
    rfl
  · simp only [show delayed.vectors.playerCount = n from rfl, inRange, if_false, dif_neg,
      not_false_eq_true, show delayed.vectors.inner = delayed.inner.vectors from rfl, inner,
      Option.bind_eq_bind, Option.bind_some]
    rfl

/-- Calls leave the delays as they are. -/
theorem positive_step (positive : delayed.inner.sync.Positive) (call : Call) :
    ((machine n).step delayed call).2.inner.sync.Positive := by
  cases call with
  | input playerId message =>
      change (delayed.processClientInput playerId message).2.inner.sync.Positive
      by_cases inRange : playerId < n
      · rw [delayed.processClientInput_resolved ⟨playerId, inRange⟩]
        cases resolveInput delayed.inputCaches ⟨playerId, inRange⟩ message with
        | mk resolved inputCaches =>
            cases resolved with
            | error error => exact positive
            | ok bytes =>
                dsimp only
                rcases sync_processResolved { delayed with inputCaches } ⟨playerId, inRange⟩ bytes
                  with kept | ⟨data, moved⟩
                · rw [kept]
                  exact positive
                · rw [moved]
                  exact SimplestGameSync.positive_processClientInput positive playerId data
      · rw [processClientInput, dif_neg inRange]
        exact positive
  | drop playerId => exact CachedGameSync.positive_markPlayerDropped positive playerId

/-- Over vectors every call is answered alike. -/
theorem step_vectors (positive : delayed.inner.sync.Positive) (call : Call) :
    Vectors.DelayedGameSync.machine.step delayed.vectors call =
      some (((machine n).step delayed call).1.map (List.map CachedPlayerOutput.vectors),
        ((machine n).step delayed call).2.vectors) := by
  cases call with
  | input playerId message =>
      simp only [Vectors.DelayedGameSync.machine, processClientInput_vectors positive,
        Option.bind_eq_bind, Option.bind_some, machine]
      cases (delayed.processClientInput playerId message).1 <;> rfl
  | drop playerId => exact markPlayerDropped_vectors positive playerId

/-- Errors stay errors when the results are mapped. -/
theorem map_eq_error_iff {ε α β : Type} {result : Except ε α} {error : ε} {f : α → β} :
    result.map f = .error error ↔ result = .error error := by
  cases result with
  | error _ => simp [Except.map]
  | ok _ => simp [Except.map]

/-- A resolved input never fails: the layers below find the player in range. -/
theorem processResolved_ok (delayed : DelayedGameSync n) (player : Fin n) (bytes : Bytes) :
    ∃ report, (delayed.processResolved player bytes).1 = .ok report := by
  have combined : ∀ (cached : CachedGameSync n) (data : Bytes),
      ∃ report, (cached.combine player data).1 = .ok report := by
    intro cached data
    simp only [CachedGameSync.combine, SimplestGameSync.processClientInput, player.isLt, dif_pos]
    split
    · exact ⟨_, rfl⟩
    · exact ⟨_, rfl⟩
  rcases Nat.lt_or_ge (delayed.warmupSent player) (delayed.totalDelays player) with warm | warmed
  · rw [processResolved_warming warm]
    exact ⟨_, rfl⟩
  · cases saved : delayed.queues player with
    | cons due rest =>
        rw [processResolved_flushing warmed saved]
        exact combined _ due
    | nil =>
        rw [processResolved_passing warmed saved]
        exact combined _ bytes

/-- An input fails for a player out of range and for an absent position, before anything has
moved. -/
theorem input_error_iff (delayed : DelayedGameSync n) (playerId : Nat) (message : ClientInput)
    (error : GameSyncError) :
    ((delayed.processClientInput playerId message).1 = .error error ↔
        delayed.vectors.Fails (.input playerId message) error) ∧
      ((delayed.processClientInput playerId message).1 = .error error →
        (delayed.processClientInput playerId message).2 = delayed) := by
  by_cases inRange : playerId < n
  · have resolves := delayed.processClientInput_resolved ⟨playerId, inRange⟩ message
    have within : ¬ delayed.vectors.playerCount ≤ playerId := Nat.not_le.mpr inRange
    have own : delayed.vectors.inputCaches[playerId]? =
        some (delayed.inputCaches ⟨playerId, inRange⟩) := readAt_ofFn _ ⟨playerId, inRange⟩
    cases message with
    | gameData data =>
        obtain ⟨report, accepted⟩ := processResolved_ok
          { delayed with
            inputCaches := (resolveInput delayed.inputCaches ⟨playerId, inRange⟩
              (.gameData data)).2 } ⟨playerId, inRange⟩ data
        have answered : (delayed.processClientInput playerId (.gameData data)).1 = .ok report := by
          rw [resolves]
          exact accepted
        rw [answered]
        refine ⟨iff_of_false (by simp) fun fails => ?_, by simp⟩
        cases fails with
        | input _ outOfRange => exact absurd outOfRange within
    | gameCache position =>
        cases held : (delayed.inputCaches ⟨playerId, inRange⟩).get position with
        | some bytes =>
            obtain ⟨report, accepted⟩ :=
              processResolved_ok delayed ⟨playerId, inRange⟩ bytes
            have answered :
                (delayed.processClientInput playerId (.gameCache position)).1 = .ok report := by
              rw [resolves]
              simp only [resolveInput, held]
              exact accepted
            have present : position.toNat < (delayed.inputCaches ⟨playerId, inRange⟩).len :=
              (List.getElem?_eq_some_iff.mp held).1
            rw [answered]
            refine ⟨iff_of_false (by simp) fun fails => ?_, by simp⟩
            cases fails with
            | input _ outOfRange => exact absurd outOfRange within
            | position _ read absent =>
                obtain rfl := Option.some.inj (own.symm.trans read)
                omega
        | none =>
            have answered : delayed.processClientInput playerId (.gameCache position) =
                (.error (.cachePositionNotFound playerId position), delayed) := by
              rw [resolves]
              simp only [resolveInput, held]
            have absent : (delayed.inputCaches ⟨playerId, inRange⟩).len ≤ position.toNat :=
              List.getElem?_eq_none_iff.mp held
            rw [answered]
            refine ⟨⟨fun failed => ?_, fun fails => ?_⟩, fun _ => rfl⟩
            · cases failed
              exact .position inRange own absent
            · cases fails with
              | input _ outOfRange => exact absurd outOfRange within
              | position _ _ _ => rfl
  · have answered : delayed.processClientInput playerId message =
        (.error (.invalidPlayerId playerId n), delayed) := by
      rw [processClientInput, dif_neg inRange]
    rw [answered]
    refine ⟨⟨fun failed => ?_, fun fails => ?_⟩, fun _ => rfl⟩
    · cases failed
      exact .input message (Nat.not_lt.mp inRange)
    · cases fails with
      | input _ _ => rfl
      | position within _ _ => exact absurd within inRange

/-- A drop fails for a player out of range, before anything has moved. -/
theorem drop_error_iff (delayed : DelayedGameSync n) (playerId : Nat) (error : GameSyncError) :
    ((delayed.markPlayerDropped playerId).1 = .error error ↔
        delayed.vectors.Fails (.drop playerId) error) ∧
      ((delayed.markPlayerDropped playerId).1 = .error error →
        (delayed.markPlayerDropped playerId).2 = delayed) := by
  by_cases inRange : playerId < n
  · have answered : ∃ outputs, (delayed.markPlayerDropped playerId).1 = .ok outputs := by
      simp only [markPlayerDropped, CachedGameSync.markPlayerDropped,
        SimplestGameSync.markPlayerDropped, inRange, dif_pos]
      exact ⟨_, rfl⟩
    obtain ⟨outputs, accepted⟩ := answered
    rw [accepted]
    refine ⟨iff_of_false (by simp) fun fails => ?_, by simp⟩
    cases fails with
    | drop outOfRange => exact absurd inRange (Nat.not_lt.mpr outOfRange)
  · have answered : delayed.markPlayerDropped playerId =
        (.error (.invalidPlayerId playerId n), delayed) := by
      simp only [markPlayerDropped, CachedGameSync.markPlayerDropped,
        SimplestGameSync.markPlayerDropped, inRange, dif_neg, not_false_eq_true]
    rw [answered]
    refine ⟨⟨fun failed => ?_, fun fails => ?_⟩, fun _ => rfl⟩
    · cases failed
      exact .drop (Nat.not_lt.mp inRange)
    · cases fails with
      | drop _ => rfl

/-- The errors of calls are those of the first checks, and nothing has moved then. -/
theorem step_error_iff (delayed : DelayedGameSync n) (call : Call) (error : GameSyncError) :
    (((machine n).step delayed call).1 = .error error ↔ delayed.vectors.Fails call error) ∧
      (((machine n).step delayed call).1 = .error error →
        ((machine n).step delayed call).2 = delayed) := by
  cases call with
  | input playerId message =>
      have exact_ := input_error_iff delayed playerId message error
      have same : ((machine n).step delayed (.input playerId message)).1 = .error error ↔
          (delayed.processClientInput playerId message).1 = .error error := map_eq_error_iff
      exact ⟨same.trans exact_.1, fun failed => exact_.2 (same.mp failed)⟩
  | drop playerId => exact drop_error_iff delayed playerId error

end DelayedGameSync

/-- A list is the table of a function of its positions. -/
theorem exists_ofFn {α : Type} {values : List α} (length : values.length = n) :
    ∃ entry : Fin n → α, values = List.ofFn entry := by
  subst length
  exact ⟨values.get, (List.ofFn_get values).symm⟩

/-- From every engine whose delays are at least 1 every run goes through without a fault. The
calls after it do not fault either, fail exactly for players out of range and for absent cache
positions, and a failed call leaves the engine as it was. -/
theorem errors_exact {playerDelays totalDelays : List Nat}
    (positive : ∀ delay ∈ playerDelays, 1 ≤ delay)
    (counted : totalDelays.length = playerDelays.length) (disableOutputCache : Bool)
    (calls : List Call) :
    ∃ start delayed, Vectors.DelayedGameSync.withPlayerDelays
        ((Vectors.CachedGameSync.new playerDelays).withOutputCacheDisabled disableOutputCache)
          totalDelays = some start ∧
      Vectors.DelayedGameSync.machine.final start calls = some delayed ∧
      ∀ call, ∃ result next,
        Vectors.DelayedGameSync.machine.step delayed call = some (result, next) ∧
          (∀ error, result = .error error ↔ delayed.Fails call error) ∧
          ∀ error, result = .error error → next = delayed := by
  obtain ⟨n, length⟩ : ∃ n, playerDelays.length = n := ⟨_, rfl⟩
  obtain ⟨delays, rfl⟩ := exists_ofFn length
  obtain ⟨totals, rfl⟩ := exists_ofFn (counted.trans length)
  have safe : (DelayedGameSync.start delays totals disableOutputCache).inner.sync.Positive :=
    fun i => positive _ (List.mem_ofFn.mpr ⟨i, rfl⟩)
  have started : Vectors.DelayedGameSync.withPlayerDelays
      ((Vectors.CachedGameSync.new (List.ofFn delays)).withOutputCacheDisabled disableOutputCache)
        (List.ofFn totals) =
      some (DelayedGameSync.start delays totals disableOutputCache).vectors := by
    have players : ((Vectors.CachedGameSync.new (List.ofFn delays)).withOutputCacheDisabled
        disableOutputCache).playerCount = n := List.length_ofFn
    rw [Vectors.DelayedGameSync.withPlayerDelays, players, if_pos List.length_ofFn]
    simp only [DelayedGameSync.start, DelayedGameSync.withPlayerDelays, DelayedGameSync.vectors,
      CachedGameSync.vectors, CachedGameSync.withOutputCacheDisabled, CachedGameSync.new,
      SimplestGameSync.vectors, SimplestGameSync.new, List.ofFn_const,
      Vectors.CachedGameSync.withOutputCacheDisabled, Vectors.CachedGameSync.new,
      Vectors.SimplestGameSync.new, List.length_ofFn]
  obtain ⟨reached, safeThen⟩ := Vectors.DelayedGameSync.machine.final_embed
    DelayedGameSync.vectors (fun _ => Except.map (List.map CachedPlayerOutput.vectors))
    (fun state => state.inner.sync.Positive)
    (fun _ call safe => DelayedGameSync.step_vectors safe call)
    (fun _ call safe => DelayedGameSync.positive_step safe call) safe calls
  refine ⟨_, _, started, reached, fun call =>
    ⟨_, _, DelayedGameSync.step_vectors safeThen call, ?_, ?_⟩⟩
  · intro error
    rw [← (DelayedGameSync.step_error_iff _ call error).1]
    exact DelayedGameSync.map_eq_error_iff
  · intro error failed
    rw [(DelayedGameSync.step_error_iff _ call error).2 (DelayedGameSync.map_eq_error_iff.mp failed)]

/-- Two players with delays 1 and 2, of which the first warms up: an absent position, an input of
nobody and a drop of nobody go through. -/
theorem errors_exact_two_players :
    ∃ start delayed, Vectors.DelayedGameSync.withPlayerDelays
        ((Vectors.CachedGameSync.new [1, 2]).withOutputCacheDisabled false) [1, 0] = some start ∧
      Vectors.DelayedGameSync.machine.final start
        [.input 0 (.gameCache 0), .input 2 (.gameData [7]), .drop 3, .input 0 (.gameData [7])] =
          some delayed := by
  obtain ⟨start, delayed, started, reached, -⟩ := errors_exact
    (by decide : ∀ delay ∈ [1, 2], 1 ≤ delay) (rfl : [1, 0].length = [1, 2].length) false
    [.input 0 (.gameCache 0), .input 2 (.gameData [7]), .drop 3, .input 0 (.gameData [7])]
  exact ⟨start, delayed, started, reached⟩

end Direlera.Sync
