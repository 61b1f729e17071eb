import Direlera.Sync.UpstreamCache
import Direlera.Sync.DownstreamCache
import Direlera.Sync.LockstepAgreement

/-!
# The startup layer between the caches

Below the input cache a run is a sequence of resolved inputs and drops, its accepted
operations. The startup layer turns them into the operations fed to the combiner and
into private zero frames. `Scheduled` states in closed form what it has done to each
player which is not dropped; `scheduled_run` says it holds after every run.
-/

namespace Direlera.Sync.DelayedGameSync

open Direlera.Library Direlera.Library.Lockstep SimplestGameSync

variable {n : Nat}

/-! ## Accepted operations -/

/-- A call below the input cache: a resolved input or a drop of a player of the game. -/
def accepted (delayed : DelayedGameSync n) : Call → Option (SyncOp n)
  | .input playerId message =>
      if inRange : playerId < n then
        match (resolveInput delayed.inputCaches ⟨playerId, inRange⟩ message).1 with
        | .ok bytes => some (.input ⟨playerId, inRange⟩ bytes)
        | .error _ => none
      else none
  | .drop playerId => if inRange : playerId < n then some (.drop ⟨playerId, inRange⟩) else none

/-- The accepted operations of a run. -/
def acceptedOps (delayed : DelayedGameSync n) : List Call → List (SyncOp n)
  | [] => []
  | call :: rest =>
      (delayed.accepted call).toList ++ acceptedOps ((machine n).step delayed call).2 rest

/-- What is accepted only depends on the input caches. -/
theorem acceptedOps_congr {left right : DelayedGameSync n}
    (same : left.inputCaches = right.inputCaches) (calls : List Call) :
    left.acceptedOps calls = right.acceptedOps calls := by
  induction calls generalizing left right with
  | nil => rfl
  | cons call rest ih =>
      have here : left.accepted call = right.accepted call := by
        cases call <;> simp [accepted, same]
      have next : ((machine n).step left call).2.inputCaches =
          ((machine n).step right call).2.inputCaches := by
        rw [step_inputCaches, step_inputCaches, same]
      rw [acceptedOps, acceptedOps, here, ih next]

/-- Replace the input caches. -/
def withInputCaches (delayed : DelayedGameSync n) (inputCaches : Fin n → InputCache) :
    DelayedGameSync n :=
  { delayed with inputCaches }

/-- The layer's treatment of an accepted operation, without output caches. -/
def startupStep (delayed : DelayedGameSync n) :
    SyncOp n → Except GameSyncError (List (PlayerOutput n)) × DelayedGameSync n
  | .input player bytes => delayed.plainResolved player bytes
  | .drop player => delayed.plainStep (.drop player)

/-- The startup layer and the combiner as a machine. -/
def startupMachine (n : Nat) : Transducer (DelayedGameSync n) (SyncOp n)
    (Except GameSyncError (List (PlayerOutput n))) where
  step := startupStep

theorem startupStep_withInputCaches (delayed : DelayedGameSync n)
    (inputCaches : Fin n → InputCache) (op : SyncOp n) :
    (delayed.withInputCaches inputCaches).startupStep op =
      ((delayed.startupStep op).1, (delayed.startupStep op).2.withInputCaches inputCaches) := by
  cases op with
  | drop player => rfl
  | input player bytes =>
      have learned : (delayed.withInputCaches inputCaches).learnFrameSize bytes =
          (delayed.learnFrameSize bytes).withInputCaches inputCaches := by
        have sameSize : (delayed.withInputCaches inputCaches).frameSize = delayed.frameSize := rfl
        simp only [learnFrameSize, sameSize]
        split <;> rfl
      simp only [startupStep, plainResolved, learned]
      generalize delayed.learnFrameSize bytes = sized
      have sameQueues : (sized.withInputCaches inputCaches).queues = sized.queues := rfl
      have samePhase : ((sized.withInputCaches inputCaches).warmupSent player <
          (sized.withInputCaches inputCaches).totalDelays player) =
            (sized.warmupSent player < sized.totalDelays player) := rfl
      simp only [samePhase, sameQueues]
      split
      · rfl
      · cases sized.queues player <;> rfl

/-- A call is its accepted operation, or it only fails. -/
theorem plainStep_accepted (delayed : DelayedGameSync n) (call : Call) :
    match delayed.accepted call with
    | some op => ∃ inputCaches, delayed.plainStep call =
        ((delayed.startupStep op).1, (delayed.startupStep op).2.withInputCaches inputCaches)
    | none => ∃ error inputCaches, delayed.plainStep call =
        (.error error, delayed.withInputCaches inputCaches) := by
  cases call with
  | drop playerId =>
      by_cases inRange : playerId < n
      · simp only [accepted, inRange, dif_pos]
        exact ⟨delayed.inputCaches, rfl⟩
      · simp only [accepted, inRange, dif_neg, not_false_eq_true]
        refine ⟨.invalidPlayerId playerId n, delayed.inputCaches, ?_⟩
        simp [plainStep, SimplestGameSync.markPlayerDropped, inRange, withInputCaches]
  | input playerId message =>
      by_cases inRange : playerId < n
      · simp only [accepted, inRange, dif_pos, plainStep]
        cases resolveInput delayed.inputCaches ⟨playerId, inRange⟩ message with
        | mk resolved inputCaches =>
            cases resolved with
            | error error => exact ⟨error, inputCaches, rfl⟩
            | ok bytes =>
                exact ⟨inputCaches,
                  startupStep_withInputCaches delayed inputCaches (.input ⟨playerId, inRange⟩ bytes)⟩
      · simp only [accepted, inRange, dif_neg, not_false_eq_true, plainStep]
        exact ⟨_, delayed.inputCaches, rfl⟩

theorem plainStep_inputCaches (delayed : DelayedGameSync n) (call : Call) :
    (delayed.plainStep call).2.inputCaches = ((machine n).step delayed call).2.inputCaches := by
  rw [step_eq_plainStep, cacheResult_inputCaches]

theorem startupMachine_withInputCaches (delayed : DelayedGameSync n)
    (inputCaches : Fin n → InputCache) (ops : List (SyncOp n)) :
    (startupMachine n).outputs (delayed.withInputCaches inputCaches) ops =
        (startupMachine n).outputs delayed ops ∧
      (startupMachine n).final (delayed.withInputCaches inputCaches) ops =
        ((startupMachine n).final delayed ops).withInputCaches inputCaches := by
  induction ops generalizing delayed with
  | nil => exact ⟨rfl, rfl⟩
  | cons op rest ih =>
      obtain ⟨outputs, final⟩ := ih (delayed.startupStep op).2
      have step : (startupMachine n).step (delayed.withInputCaches inputCaches) op = _ :=
        startupStep_withInputCaches delayed inputCaches op
      simp only [Transducer.outputs_cons, Transducer.final_cons, step]
      exact ⟨congrArg _ outputs, final⟩

/-- Without its output caches a run is the startup layer on the accepted operations. -/
theorem plainMachine_acceptedOps (delayed : DelayedGameSync n) (calls : List Call) :
    ((plainMachine n).outputs delayed calls).flatMap returned =
        ((startupMachine n).outputs delayed (delayed.acceptedOps calls)).flatMap returned ∧
      (plainMachine n).final delayed calls =
        ((startupMachine n).final delayed (delayed.acceptedOps calls)).withInputCaches
          ((plainMachine n).final delayed calls).inputCaches := by
  induction calls generalizing delayed with
  | nil => exact ⟨rfl, rfl⟩
  | cons call rest ih =>
      have step := plainStep_accepted delayed call
      have sameRest := acceptedOps_congr (plainStep_inputCaches delayed call) rest
      obtain ⟨outputs, final⟩ := ih (delayed.plainStep call).2
      rw [sameRest] at outputs final
      simp only [Transducer.outputs_cons, Transducer.final_cons, List.flatMap_cons, acceptedOps]
      change returned (delayed.plainStep call).1 ++
          ((plainMachine n).outputs (delayed.plainStep call).2 rest).flatMap returned = _ ∧
        (plainMachine n).final (delayed.plainStep call).2 rest =
          withInputCaches _ ((plainMachine n).final (delayed.plainStep call).2 rest).inputCaches
      rw [outputs]
      cases shape : delayed.accepted call with
      | none =>
          rw [shape] at step
          obtain ⟨error, inputCaches, failed⟩ := step
          rw [failed] at final ⊢
          obtain ⟨sameOutputs, sameFinal⟩ := startupMachine_withInputCaches delayed inputCaches
            (((machine n).step delayed call).2.acceptedOps rest)
          rw [sameFinal] at final
          simp only [Option.toList_none, List.nil_append, sameOutputs]
          exact ⟨rfl, final⟩
      | some op =>
          rw [shape] at step
          obtain ⟨inputCaches, answered⟩ := step
          rw [answered] at final ⊢
          obtain ⟨sameOutputs, sameFinal⟩ := startupMachine_withInputCaches
            (delayed.startupStep op).2 inputCaches
            (((machine n).step delayed call).2.acceptedOps rest)
          rw [sameFinal] at final
          simp only [Option.toList_some, List.singleton_append, sameOutputs]
          exact ⟨rfl, final⟩

/-! ## What is fed to the combiner -/

/-- The operation which an accepted operation feeds to the combiner, if any. -/
def fed (delayed : DelayedGameSync n) : SyncOp n → Option (SyncOp n)
  | .input player bytes =>
      if delayed.warmupSent player < delayed.totalDelays player then none
      else some (.input player ((delayed.queues player).head?.getD bytes))
  | .drop player => some (.drop player)

/-- The operations fed to the combiner over a run. -/
def fedOps (delayed : DelayedGameSync n) : List (SyncOp n) → List (SyncOp n)
  | [] => []
  | op :: rest => (delayed.fed op).toList ++ fedOps (delayed.startupStep op).2 rest

theorem fedOps_concat (delayed : DelayedGameSync n) (ops : List (SyncOp n)) (op : SyncOp n) :
    delayed.fedOps (ops ++ [op]) =
      delayed.fedOps ops ++ (((startupMachine n).final delayed ops).fed op).toList := by
  induction ops generalizing delayed with
  | nil => simp [fedOps]
  | cons first rest ih =>
      rw [List.cons_append, fedOps, ih, fedOps, List.append_assoc]
      rfl

/-- An accepted input either warms up or feeds the oldest saved input, else itself. -/
theorem startupStep_input_cases (delayed : DelayedGameSync n) (player : Fin n) (bytes : Bytes) :
    let sized := delayed.learnFrameSize bytes
    let due := (delayed.queues player).head?.getD bytes
    (delayed.warmupSent player < delayed.totalDelays player ∧
      delayed.fed (.input player bytes) = none ∧
      delayed.startupStep (.input player bytes) =
        (.ok [⟨player, List.replicate (n * sized.frameSize) 0⟩],
          { sized with
            queues := Function.update delayed.queues player (delayed.queues player ++ [bytes])
            warmupSent :=
              Function.update delayed.warmupSent player (delayed.warmupSent player + 1) })) ∨
    (delayed.totalDelays player ≤ delayed.warmupSent player ∧
      delayed.fed (.input player bytes) = some (.input player due) ∧
      delayed.startupStep (.input player bytes) =
        { sized with
          queues := Function.update delayed.queues player (delayed.queues player).tail }.plainFeed
            player due) := by
  intro sized due
  have sameWarmup := learnFrameSize_warmupSent delayed bytes
  have sameTotals := learnFrameSize_totalDelays delayed bytes
  have sameQueues := learnFrameSize_queues delayed bytes
  have cases := delayed.plainResolved_cases player bytes
  simp only [sameWarmup, sameTotals, sameQueues] at cases
  rcases cases with ⟨warm, step⟩ | ⟨warmed, first, rest, queued, step⟩ | ⟨warmed, queued, step⟩
  · refine .inl ⟨warm, if_pos warm, step.trans ?_⟩
    simp only [sized, sameTotals]
  · refine .inr ⟨warmed, if_neg (Nat.not_lt.mpr warmed), step.trans ?_⟩
    simp only [sized, due, sameWarmup, sameTotals, queued, List.head?_cons, Option.getD_some,
      List.tail_cons]
  · refine .inr ⟨warmed, if_neg (Nat.not_lt.mpr warmed), step.trans ?_⟩
    have unchanged : Function.update delayed.queues player (delayed.queues player).tail =
        sized.queues := by
      rw [sameQueues]
      exact Function.update_eq_iff.mpr ⟨by simp [queued], fun _ _ => rfl⟩
    rw [unchanged]
    simp only [due, queued, List.head?_nil, Option.getD_none]
    rfl

/-- What a player has fed to the combiner after `inputs`: the first `delay` inputs with
a lag of `delay` calls, then every input after the lag. -/
def scheduledFeed (delay : Nat) (inputs : List Bytes) : List Bytes :=
  (inputs.take delay).take (inputs.length - delay) ++ inputs.drop (2 * delay)

/-- The inputs which still wait in the startup queue after `inputs`. -/
def scheduledQueue (delay : Nat) (inputs : List Bytes) : List Bytes :=
  (inputs.take delay).drop (inputs.length - delay)

/-- An input during warmup waits. -/
theorem scheduled_warmup {delay : Nat} {inputs : List Bytes} (warm : inputs.length < delay)
    (bytes : Bytes) :
    scheduledQueue delay (inputs ++ [bytes]) = scheduledQueue delay inputs ++ [bytes] ∧
      scheduledFeed delay (inputs ++ [bytes]) = scheduledFeed delay inputs := by
  have early : inputs.length - delay = 0 := by omega
  have earlyToo : (inputs ++ [bytes]).length - delay = 0 := by simp; omega
  constructor
  · rw [scheduledQueue, scheduledQueue, early, earlyToo, List.take_of_length_le (by simp; omega),
      List.take_of_length_le (by omega)]
    rfl
  · rw [scheduledFeed, scheduledFeed, early, earlyToo, List.drop_of_length_le (by simp; omega),
      List.drop_of_length_le (by omega)]
    rfl

/-- After warmup every input feeds the oldest waiting one, else itself. -/
theorem scheduled_feed {delay : Nat} {inputs : List Bytes} (warmed : delay ≤ inputs.length)
    (bytes : Bytes) :
    scheduledQueue delay (inputs ++ [bytes]) = (scheduledQueue delay inputs).tail ∧
      scheduledFeed delay (inputs ++ [bytes]) =
        scheduledFeed delay inputs ++ [(scheduledQueue delay inputs).head?.getD bytes] := by
  have saved : (inputs ++ [bytes]).take delay = inputs.take delay :=
    List.take_append_of_le_length warmed
  have savedLength : (inputs.take delay).length = delay := by simp [warmed]
  have lag : (inputs ++ [bytes]).length - delay = (inputs.length - delay) + 1 := by simp; omega
  constructor
  · rw [scheduledQueue, scheduledQueue, saved, lag, List.tail_drop]
  · rw [scheduledFeed, scheduledFeed, scheduledQueue, saved, lag]
    rcases Nat.lt_or_ge (inputs.length - delay) delay with waiting | flushed
    · -- catch-up: nothing passes directly yet
      have here : inputs.length - delay < (inputs.take delay).length := by omega
      have nothing : ∀ later : List Bytes, later.length ≤ inputs.length + 1 →
          later.drop (2 * delay) = [] := by
        intro later bounded
        exact List.drop_of_length_le (by omega)
      rw [List.drop_eq_getElem_cons here, List.head?_cons, Option.getD_some,
        nothing (inputs ++ [bytes]) (by simp), nothing inputs (by omega),
        List.append_nil, List.append_nil, List.take_succ_eq_append_getElem here]
    · -- steady: the saved inputs are all flushed
      have whole : ∀ count, delay ≤ count → (inputs.take delay).take count = inputs.take delay :=
        fun count enough => List.take_of_length_le (by omega)
      rw [List.drop_of_length_le (by omega : (inputs.take delay).length ≤ _), List.head?_nil,
        Option.getD_none, whole _ flushed, whole _ (by omega),
        List.drop_append_of_le_length (by omega), List.append_assoc]

/-! ## The layer in closed form -/

/-- The outputs which the combiner alone returns for the fed operations. -/
def combined (delays : Fin n → Nat) (fed : List (SyncOp n)) : List (PlayerOutput n) :=
  ((SimplestGameSync.machine n).outputs (.new delays) fed).flatMap returned

/-- Push contents in order. -/
def pushAll (cache : InputCache) (contents : List Bytes) : InputCache :=
  contents.foldl (fun cache content => (cache.push content).1) cache

/-- A size is the length of an accepted input. -/
def Learned (ops : List (SyncOp n)) (size : Nat) : Prop :=
  ∃ player bytes, SyncOp.input player bytes ∈ ops ∧ size = bytes.length

/-- What the layer has done for a player which is not dropped. -/
structure PlayerScheduled (delays warmups : Fin n → Nat) (ops fed : List (SyncOp n))
    (outputs : List (PlayerOutput n)) (state : DelayedGameSync n) (player : Fin n) : Prop where
  warmup : state.warmupSent player = min (warmups player) (inputsBeforeDrop player ops).length
  queue : state.queues player = scheduledQueue (warmups player) (inputsBeforeDrop player ops)
  isOpen : SyncOp.drop player ∉ fed
  feed : inputsBeforeDrop player fed =
    scheduledFeed (warmups player) (inputsBeforeDrop player ops)
  pushed : state.inner.inputCaches player =
    pushAll .new (scheduledFeed (warmups player) (inputsBeforeDrop player ops))
  stream : ∃ sizes : List Nat,
    sizes.length = min (warmups player) (inputsBeforeDrop player ops).length ∧
      (∀ size ∈ sizes, Learned ops size) ∧
      outputsFor player outputs =
        sizes.map (fun size => List.replicate (n * size) 0) ++
          outputsFor player (combined delays fed)

/-- The layer after the accepted operations `ops`, having fed `fed`. -/
structure Scheduled (delays warmups : Fin n → Nat) (ops fed : List (SyncOp n))
    (outputs : List (PlayerOutput n)) (state : DelayedGameSync n) : Prop where
  totals : state.totalDelays = warmups
  sync : state.inner.sync = (SimplestGameSync.machine n).final (.new delays) fed
  sized : state.frameSize = 0 ∨ Learned ops state.frameSize
  players : ∀ player, SyncOp.drop player ∉ ops →
    PlayerScheduled delays warmups ops fed outputs state player

theorem Learned.append {ops : List (SyncOp n)} {size : Nat} (learned : Learned ops size)
    (more : List (SyncOp n)) : Learned (ops ++ more) size := by
  obtain ⟨player, bytes, member, same⟩ := learned
  exact ⟨player, bytes, List.mem_append_left _ member, same⟩

/-- The frame size after an input is zero or the length of an accepted input. -/
theorem learnFrameSize_learned {ops : List (SyncOp n)} {state : DelayedGameSync n}
    (sized : state.frameSize = 0 ∨ Learned ops state.frameSize) (player : Fin n)
    (bytes : Bytes) :
    Learned (ops ++ [.input player bytes]) (state.learnFrameSize bytes).frameSize := by
  have here : Learned (ops ++ [.input player bytes]) bytes.length :=
    ⟨player, bytes, by simp, rfl⟩
  unfold learnFrameSize
  split
  next => exact here
  next known =>
    rcases sized with zero | learned
    · obtain rfl : bytes = [] := by simpa [zero] using known
      simpa [zero] using here
    · exact learned.append _

theorem combined_concat (delays : Fin n → Nat) (fed : List (SyncOp n)) (op : SyncOp n) :
    combined delays (fed ++ [op]) = combined delays fed ++ returned
      ((SimplestGameSync.machine n).step
        ((SimplestGameSync.machine n).final (.new delays) fed) op).1 := by
  simp [combined, Transducer.outputs_concat]

/-- A player which fed nothing and is not dropped has received nothing. -/
theorem combined_of_nothing_fed {delays : Fin n → Nat} (positive : ∀ i, 1 ≤ delays i)
    {fed : List (SyncOp n)} {player : Fin n} (isOpen : SyncOp.drop player ∉ fed)
    (nothing : inputsBeforeDrop player fed = []) :
    outputsFor player (combined delays fed) = [] := by
  have agrees := agrees_run positive fed
  have openToo : droppedIn fed player = false := by simp [droppedIn, isOpen]
  have empty : (chunkStream delays fed player).length = 0 := by simp [chunkStream, nothing]
  have none : completedFrames delays fed = 0 :=
    Nat.le_zero.mp (empty ▸ completed_le_length _ openToo)
  have sent := agrees.merged.sent player
  rw [none, Nat.zero_div] at sent
  exact sent

/-- Operations of other players change nothing for a player. -/
theorem inputsBeforeDrop_other {player : Fin n} {ops : List (SyncOp n)}
    (isOpen : SyncOp.drop player ∉ ops) {op : SyncOp n}
    (other : ∀ bytes, op ≠ .input player bytes) :
    inputsBeforeDrop player (ops ++ [op]) = inputsBeforeDrop player ops := by
  rw [inputsBeforeDrop_append_open isOpen]
  cases op with
  | drop dropped => simp [inputsBeforeDrop]
  | input sender bytes =>
      have different : sender ≠ player := fun same => other bytes (by rw [same])
      simp [inputsBeforeDrop, different]

/-- A player keeps its schedule when nothing of its own changes and the combiner
answers the fed operation for it. -/
theorem PlayerScheduled.other {delays warmups : Fin n → Nat} {ops fed fedMore : List (SyncOp n)}
    {outputs more : List (PlayerOutput n)} {state next : DelayedGameSync n} {player : Fin n}
    (scheduled : PlayerScheduled delays warmups ops fed outputs state player) {op : SyncOp n}
    (sameInputs : inputsBeforeDrop player (ops ++ [op]) = inputsBeforeDrop player ops)
    (warmup : next.warmupSent player = state.warmupSent player)
    (queue : next.queues player = state.queues player)
    (caches : next.inner.inputCaches player = state.inner.inputCaches player)
    (isOpen : SyncOp.drop player ∉ fed ++ fedMore)
    (sameFeed : inputsBeforeDrop player (fed ++ fedMore) = inputsBeforeDrop player fed)
    (answered : outputsFor player (combined delays (fed ++ fedMore)) =
      outputsFor player (combined delays fed) ++ outputsFor player more) :
    PlayerScheduled delays warmups (ops ++ [op]) (fed ++ fedMore) (outputs ++ more) next player := by
  obtain ⟨sizes, count, learned, stream⟩ := scheduled.stream
  refine ⟨?_, ?_, isOpen, ?_, ?_, sizes, ?_, fun size member => (learned size member).append _, ?_⟩
  · rw [warmup, sameInputs, scheduled.warmup]
  · rw [queue, sameInputs, scheduled.queue]
  · rw [sameFeed, sameInputs, scheduled.feed]
  · rw [caches, sameInputs, scheduled.pushed]
  · rw [sameInputs, count]
  · rw [outputsFor_append, stream, answered, List.append_assoc]

section Steps

variable {delays warmups : Fin n → Nat} {ops fed : List (SyncOp n)}
  {outputs : List (PlayerOutput n)} {state : DelayedGameSync n}

theorem scheduled_start (delays warmups : Fin n → Nat) :
    Scheduled delays warmups [] [] [] (start delays warmups false) := by
  refine ⟨rfl, rfl, .inl rfl, fun player _ => ⟨?_, ?_, by simp, ?_, ?_, [], ?_, by simp, rfl⟩⟩
  · simp [start, withPlayerDelays, inputsBeforeDrop]
  · simp [start, withPlayerDelays, inputsBeforeDrop, scheduledQueue]
  · simp [inputsBeforeDrop, scheduledFeed]
  · simp [start, withPlayerDelays, CachedGameSync.new, CachedGameSync.withOutputCacheDisabled,
      inputsBeforeDrop, scheduledFeed, pushAll]
  · simp [inputsBeforeDrop]

/-- A drop is fed as it is and leaves the other players alone. -/
theorem Scheduled.drop (scheduled : Scheduled delays warmups ops fed outputs state)
    (dropped : Fin n) :
    Scheduled delays warmups (ops ++ [.drop dropped]) (fed ++ [.drop dropped])
      (outputs ++ returned (state.startupStep (.drop dropped)).1)
      (state.startupStep (.drop dropped)).2 := by
  have answered : (state.startupStep (.drop dropped)).1 =
      ((SimplestGameSync.machine n).step
        ((SimplestGameSync.machine n).final (.new delays) fed) (.drop dropped)).1 := by
    rw [← scheduled.sync]
    rfl
  have queues : (state.startupStep (.drop dropped)).2.queues =
      Function.update state.queues dropped [] := by
    simp [startupStep, plainStep]
  refine ⟨scheduled.totals, ?_, scheduled.sized.imp_right (·.append _), fun player isOpen => ?_⟩
  · rw [Transducer.final_concat, ← scheduled.sync]
    rfl
  · simp only [List.mem_append, List.mem_singleton, SyncOp.drop.injEq, not_or] at isOpen
    have here := scheduled.players player isOpen.1
    refine here.other (inputsBeforeDrop_other isOpen.1 (by simp)) rfl ?_ rfl ?_
      (inputsBeforeDrop_other here.isOpen (by simp)) ?_
    · rw [queues, Function.update_of_ne isOpen.2]
    · simp [here.isOpen, isOpen.2]
    · rw [combined_concat, outputsFor_append, answered]

/-- A warmup input is saved and answered by a private zero frame. -/
theorem Scheduled.warmup (positive : ∀ i, 1 ≤ delays i)
    (scheduled : Scheduled delays warmups ops fed outputs state) {sender : Fin n} {bytes : Bytes}
    (next : DelayedGameSync n) (warm : state.warmupSent sender < state.totalDelays sender)
    (totals : next.totalDelays = state.totalDelays) (inner : next.inner = state.inner)
    (size : next.frameSize = (state.learnFrameSize bytes).frameSize)
    (queues : next.queues =
      Function.update state.queues sender (state.queues sender ++ [bytes]))
    (counted : next.warmupSent =
      Function.update state.warmupSent sender (state.warmupSent sender + 1)) :
    Scheduled delays warmups (ops ++ [.input sender bytes]) fed
      (outputs ++ [⟨sender, List.replicate (n * next.frameSize) 0⟩]) next := by
  have learned := learnFrameSize_learned scheduled.sized sender bytes
  rw [← size] at learned
  refine ⟨totals.trans scheduled.totals, inner ▸ scheduled.sync, .inr learned,
    fun player isOpen => ?_⟩
  replace isOpen : SyncOp.drop player ∉ ops := by simpa using isOpen
  have here := scheduled.players player isOpen
  by_cases mine : player = sender
  · subst mine
    have inputs : inputsBeforeDrop player (ops ++ [.input player bytes]) =
        inputsBeforeDrop player ops ++ [bytes] := by
      rw [inputsBeforeDrop_append_open isOpen]
      simp [inputsBeforeDrop]
    have short : (inputsBeforeDrop player ops).length < warmups player := by
      rw [here.warmup, scheduled.totals] at warm
      omega
    obtain ⟨queue, feed⟩ := scheduled_warmup short bytes
    have early : scheduledFeed (warmups player) (inputsBeforeDrop player ops) = [] := by
      rw [scheduledFeed, List.drop_of_length_le (by omega), Nat.sub_eq_zero_of_le (by omega)]
      rfl
    have silent := combined_of_nothing_fed positive here.isOpen (here.feed.trans early)
    obtain ⟨sizes, count, all, stream⟩ := here.stream
    refine ⟨?_, ?_, here.isOpen, ?_, ?_, sizes ++ [next.frameSize], ?_, ?_, ?_⟩
    · rw [counted, Function.update_self, inputs, here.warmup, List.length_append,
        List.length_singleton]
      omega
    · rw [queues, Function.update_self, inputs, here.queue, queue]
    · rw [inputs, feed, here.feed]
    · rw [inner, inputs, feed, here.pushed]
    · rw [inputs, List.length_append, List.length_append, List.length_singleton,
        List.length_singleton, count]
      omega
    · intro size member
      rcases List.mem_append.mp member with earlier | last
      · exact (all size earlier).append _
      · rw [List.mem_singleton.mp last]
        exact learned
    · rw [outputsFor_append, stream, silent]
      simp [outputsFor]
  · have unchanged : PlayerScheduled delays warmups (ops ++ [.input sender bytes]) (fed ++ [])
        (outputs ++ [⟨sender, List.replicate (n * next.frameSize) 0⟩]) next player :=
      here.other (inputsBeforeDrop_other isOpen (by simp [Ne.symm mine]))
        (by rw [counted, Function.update_of_ne mine]) (by rw [queues, Function.update_of_ne mine])
        (by rw [inner]) (by simpa using here.isOpen) (by simp)
        (by simp [outputsFor, Ne.symm mine])
    simpa using unchanged

/-- After warmup the oldest saved input, else the input itself, is fed. -/
theorem Scheduled.feed (scheduled : Scheduled delays warmups ops fed outputs state)
    {sender : Fin n} {bytes : Bytes} {next : DelayedGameSync n}
    (warmed : state.totalDelays sender ≤ state.warmupSent sender)
    {due : Bytes} (oldest : due = (state.queues sender).head?.getD bytes)
    {answer : Except GameSyncError (List (PlayerOutput n))}
    (answered : (SimplestGameSync.machine n).step state.inner.sync (.input sender due) =
      (answer, next.inner.sync))
    (totals : next.totalDelays = state.totalDelays)
    (size : next.frameSize = (state.learnFrameSize bytes).frameSize)
    (queues : next.queues = Function.update state.queues sender (state.queues sender).tail)
    (counted : next.warmupSent = state.warmupSent)
    (caches : next.inner.inputCaches = Function.update state.inner.inputCaches sender
      ((state.inner.inputCaches sender).push due).1) :
    Scheduled delays warmups (ops ++ [.input sender bytes]) (fed ++ [.input sender due])
      (outputs ++ returned answer) next := by
  rw [scheduled.sync] at answered
  have learned := learnFrameSize_learned scheduled.sized sender bytes
  rw [← size] at learned
  refine ⟨totals.trans scheduled.totals, ?_, .inr learned, fun player isOpen => ?_⟩
  · rw [Transducer.final_concat, answered]
  replace isOpen : SyncOp.drop player ∉ ops := by simpa using isOpen
  have here := scheduled.players player isOpen
  have openNext : SyncOp.drop player ∉ fed ++ [.input sender due] := by simpa using here.isOpen
  have outputsNext : outputsFor player (combined delays (fed ++ [.input sender due])) =
      outputsFor player (combined delays fed) ++ outputsFor player (returned answer) := by
    rw [combined_concat, outputsFor_append, answered]
  by_cases mine : player = sender
  · subst mine
    have inputs : inputsBeforeDrop player (ops ++ [.input player bytes]) =
        inputsBeforeDrop player ops ++ [bytes] := by
      rw [inputsBeforeDrop_append_open isOpen]
      simp [inputsBeforeDrop]
    have long : warmups player ≤ (inputsBeforeDrop player ops).length := by
      rw [here.warmup, scheduled.totals] at warmed
      omega
    obtain ⟨queue, feed⟩ := scheduled_feed long bytes
    rw [← here.queue, ← oldest] at feed
    obtain ⟨sizes, count, all, stream⟩ := here.stream
    refine ⟨?_, ?_, openNext, ?_, ?_, sizes, ?_, fun size member => (all size member).append _, ?_⟩
    · rw [counted, inputs, here.warmup, List.length_append, List.length_singleton]
      omega
    · rw [queues, Function.update_self, inputs, here.queue, queue]
    · rw [inputs, feed, inputsBeforeDrop_append_open here.isOpen, here.feed]
      simp [inputsBeforeDrop]
    · rw [inputs, feed, caches, Function.update_self, here.pushed]
      simp [pushAll]
    · rw [inputs, count, List.length_append]
      omega
    · rw [outputsFor_append, stream, outputsNext, List.append_assoc]
  · exact here.other (inputsBeforeDrop_other isOpen (by simp [Ne.symm mine])) (by rw [counted])
      (by rw [queues, Function.update_of_ne mine]) (by rw [caches, Function.update_of_ne mine])
      openNext (inputsBeforeDrop_other here.isOpen (by simp [Ne.symm mine])) outputsNext

/-- Every accepted operation keeps the closed form. -/
theorem Scheduled.step (positive : ∀ i, 1 ≤ delays i)
    (scheduled : Scheduled delays warmups ops fed outputs state) (op : SyncOp n) :
    Scheduled delays warmups (ops ++ [op]) (fed ++ (state.fed op).toList)
      (outputs ++ returned (state.startupStep op).1) (state.startupStep op).2 := by
  cases op with
  | drop player => exact scheduled.drop player
  | input player bytes =>
      rcases state.startupStep_input_cases player bytes with
        ⟨warm, silent, step⟩ | ⟨warmed, feeds, step⟩
      · rw [silent, step, Option.toList_none, List.append_nil]
        exact scheduled.warmup positive { state.learnFrameSize bytes with
          queues := Function.update state.queues player (state.queues player ++ [bytes])
          warmupSent := Function.update state.warmupSent player (state.warmupSent player + 1) }
          warm (by simp) (by simp) rfl rfl rfl
      · rw [feeds, step, Option.toList_some]
        exact scheduled.feed warmed rfl (by simp [plainFeed, SimplestGameSync.machine])
          (by simp [plainFeed]) rfl rfl (by simp [plainFeed]) (by simp [plainFeed])

end Steps

/-- The closed form holds after every run of accepted operations. -/
theorem scheduled_run {delays : Fin n → Nat} (positive : ∀ i, 1 ≤ delays i)
    (warmups : Fin n → Nat) (ops : List (SyncOp n)) :
    Scheduled delays warmups ops ((start delays warmups false).fedOps ops)
      (((startupMachine n).outputs (start delays warmups false) ops).flatMap returned)
      ((startupMachine n).final (start delays warmups false) ops) := by
  induction ops using List.reverseRecOn with
  | nil => exact scheduled_start delays warmups
  | append_singleton prior op ih =>
      rw [fedOps_concat, Transducer.outputs_concat, Transducer.final_concat, List.flatMap_append,
        List.flatMap_singleton]
      exact ih.step positive op

/-- The closed form holds after every run of calls on a fresh engine. -/
theorem scheduled_calls {delays : Fin n → Nat} (positive : ∀ i, 1 ≤ delays i)
    (warmups : Fin n → Nat) (disableOutputCache : Bool) (calls : List Call) :
    let fresh := start delays warmups disableOutputCache
    ∃ outputs,
      Scheduled delays warmups (fresh.acceptedOps calls)
        ((start delays warmups false).fedOps (fresh.acceptedOps calls)) outputs
        ((machine n).final fresh calls) ∧
      ∀ player, payloads player (start delays warmups false) calls = outputsFor player outputs := by
  intro fresh
  obtain ⟨caches, state⟩ := final_withOutput (start delays warmups false) (fun _ => .new)
    disableOutputCache calls
  obtain ⟨outputs, final⟩ := plainMachine_acceptedOps (start delays warmups false) calls
  have sameCaches : fresh.inputCaches = (start delays warmups false).inputCaches := rfl
  have sameOps := acceptedOps_congr sameCaches calls
  have scheduled := scheduled_run positive warmups ((start delays warmups false).acceptedOps calls)
  refine ⟨_, ?_, fun player => congrArg (outputsFor player) outputs⟩
  have sameFinal : (machine n).final fresh calls = _ := state.trans (by rw [final])
  rw [sameOps, sameFinal]
  exact ⟨scheduled.totals, scheduled.sync, scheduled.sized, fun player isOpen =>
    let here := scheduled.players player isOpen
    ⟨here.warmup, here.queue, here.isOpen, here.feed, here.pushed, here.stream⟩⟩

end Direlera.Sync.DelayedGameSync
