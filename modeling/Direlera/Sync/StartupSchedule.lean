import Direlera.Sync.StartupLayer

/-!
# The startup schedule

`schedule` says which inputs a run without drops feeds to the combiner: nothing for a
player's first `D` calls, its inputs with a lag of `D` for the next `D` calls, and then
every input as it comes. `startup_schedule` is that the engine does exactly this, that
its answers decode to what the combiner alone answers, and that every player's stream
is its warmup frames followed by its combined frames.
-/

namespace Direlera.Sync.DelayedGameSync

open Direlera.Library SimplestGameSync

variable {n : Nat}

/-- What the last one of a player's resolved inputs `x_1, .., x_j` feeds to the combiner. -/
def scheduledInput (delay : Nat) (inputs : List Bytes) : Option Bytes :=
  if inputs.length ≤ delay then none
  else if inputs.length ≤ 2 * delay then inputs[inputs.length - delay - 1]?
  else inputs.getLast?

/-- The operations which a run feeds to the combiner, in call order; `history` are the
inputs which each player sent earlier. -/
def schedule (warmups : Fin n → Nat) (history : Fin n → List Bytes) :
    List (SyncOp n) → List (SyncOp n)
  | [] => []
  | .input player bytes :: rest =>
      ((scheduledInput (warmups player) (history player ++ [bytes])).map
          (SyncOp.input player)).toList ++
        schedule warmups (Function.update history player (history player ++ [bytes])) rest
  | .drop player :: rest => .drop player :: schedule warmups history rest

/-- The schedule of one more input depends on what its player sent before. -/
theorem schedule_concat (warmups : Fin n → Nat) (history : Fin n → List Bytes)
    {ops : List (SyncOp n)} (noDrops : ∀ player, SyncOp.drop player ∉ ops) (player : Fin n)
    (bytes : Bytes) :
    schedule warmups history (ops ++ [.input player bytes]) =
      schedule warmups history ops ++
        ((scheduledInput (warmups player)
          (history player ++ inputsBeforeDrop player ops ++ [bytes])).map
            (SyncOp.input player)).toList := by
  induction ops generalizing history with
  | nil => simp [schedule, inputsBeforeDrop]
  | cons op rest ih =>
      have noLaterDrops : ∀ player, SyncOp.drop player ∉ rest :=
        fun player member => noDrops player (List.mem_cons_of_mem _ member)
      cases op with
      | drop dropped => exact absurd List.mem_cons_self (noDrops dropped)
      | input sender first =>
          rw [List.cons_append, schedule, ih _ noLaterDrops, schedule, List.append_assoc]
          by_cases mine : sender = player
          · subst mine
            simp [inputsBeforeDrop]
          · simp [inputsBeforeDrop, mine, Function.update_of_ne (Ne.symm mine)]

/-- The layer feeds what its schedule says. -/
theorem fed_eq_scheduledInput {delays warmups : Fin n → Nat} {ops earlier : List (SyncOp n)}
    {outputs : List (PlayerOutput n)} {state : DelayedGameSync n}
    (scheduled : Scheduled delays warmups ops earlier outputs state) {player : Fin n}
    (isOpen : SyncOp.drop player ∉ ops) (bytes : Bytes) :
    state.fed (.input player bytes) =
      (scheduledInput (warmups player) (inputsBeforeDrop player ops ++ [bytes])).map
        (SyncOp.input player) := by
  have warmup := (scheduled.players player isOpen).warmup
  have queue := (scheduled.players player isOpen).queue
  generalize inputsBeforeDrop player ops = inputs at warmup queue ⊢
  have length : (inputs ++ [bytes]).length = inputs.length + 1 := by simp
  rw [fed, scheduled.totals, warmup, queue, scheduledInput, length]
  rcases Nat.lt_or_ge inputs.length (warmups player) with warm | warmed
  · rw [if_pos (by omega), if_pos (by omega)]
    rfl
  · rw [if_neg (by omega), if_neg (by omega), scheduledQueue]
    rcases Nat.lt_or_ge (inputs.length - warmups player) (warmups player) with waiting | flushed
    · rw [if_pos (by omega), List.head?_drop, List.getElem?_take_of_lt waiting,
        show inputs.length + 1 - warmups player - 1 = inputs.length - warmups player by omega,
        List.getElem?_append_left (by omega), List.getElem?_eq_getElem (by omega)]
      rfl
    · rw [if_neg (by omega), List.drop_of_length_le (by simp; omega), List.getLast?_concat]
      rfl

/-- Over a run without drops the fed operations are the schedule. -/
theorem fedOps_eq_schedule {delays : Fin n → Nat} (positive : ∀ i, 1 ≤ delays i)
    (warmups : Fin n → Nat) {ops : List (SyncOp n)}
    (noDrops : ∀ player, SyncOp.drop player ∉ ops) :
    (start delays warmups false).fedOps ops = schedule warmups (fun _ => []) ops := by
  induction ops using List.reverseRecOn with
  | nil => rfl
  | append_singleton prior op ih =>
      have noEarlierDrops : ∀ player, SyncOp.drop player ∉ prior :=
        fun player member => noDrops player (List.mem_append_left _ member)
      cases op with
      | drop player => exact absurd (by simp) (noDrops player)
      | input player bytes =>
          rw [fedOps_concat, ih noEarlierDrops, schedule_concat _ _ noEarlierDrops,
            fed_eq_scheduledInput (scheduled_run positive warmups prior) (noEarlierDrops player),
            List.nil_append]

/-- The successfully resolved inputs of a player, in order. -/
def resolvedInputs (player : Fin n) (delayed : DelayedGameSync n) (calls : List Call) :
    List Bytes :=
  (resolutions player delayed calls).filterMap Except.toOption

/-- For a player which is not dropped these are its accepted inputs. -/
theorem resolvedInputs_eq {delayed : DelayedGameSync n} {calls : List Call} {player : Fin n}
    (isOpen : Call.drop player ∉ calls) :
    resolvedInputs player delayed calls =
      inputsBeforeDrop player (delayed.acceptedOps calls) := by
  unfold resolvedInputs
  induction calls generalizing delayed with
  | nil => rfl
  | cons call rest ih =>
      simp only [List.mem_cons, not_or] at isOpen
      have later := @ih ((machine n).step delayed call).2 isOpen.2
      rw [acceptedOps]
      cases call with
      | drop playerId =>
          rw [resolutions, later, accepted]
          split
          next inRange =>
            have different : (⟨playerId, inRange⟩ : Fin n) ≠ player :=
              fun same => isOpen.1 (by rw [← same])
            simp [inputsBeforeDrop, different]
          next => rfl
      | input playerId message =>
          rw [resolutions]
          by_cases mine : playerId = player
          · subst mine
            rw [if_pos rfl, List.filterMap_cons, later]
            simp only [accepted, player.isLt, dif_pos]
            cases (resolveInput delayed.inputCaches player message).1 with
            | error error => rfl
            | ok bytes => simp [Except.toOption, inputsBeforeDrop]
          · rw [if_neg mine, later]
            simp only [accepted]
            split
            next inRange =>
              have different : (⟨playerId, inRange⟩ : Fin n) ≠ player :=
                fun same => mine (congrArg Fin.val same)
              split
              · simp [inputsBeforeDrop, different]
              · rfl
            next => rfl

/-- Only drops of the run are accepted as drops. -/
theorem drop_not_mem_acceptedOps {delayed : DelayedGameSync n} {calls : List Call}
    {player : Fin n} (isOpen : Call.drop player ∉ calls) :
    SyncOp.drop player ∉ delayed.acceptedOps calls := by
  induction calls generalizing delayed with
  | nil => simp [acceptedOps]
  | cons call rest ih =>
      simp only [List.mem_cons, not_or] at isOpen
      rw [acceptedOps, List.mem_append, not_or]
      refine ⟨fun member => ?_, ih isOpen.2⟩
      cases call with
      | drop playerId =>
          simp only [accepted] at member
          split at member
          next inRange =>
            obtain rfl : player = ⟨playerId, inRange⟩ := by simpa using member
            exact isOpen.1 rfl
          next => simp at member
      | input playerId message =>
          simp only [accepted] at member
          split at member
          · split at member <;> simp at member
          · simp at member

/-- A call feeds `op` after `fed` was fed: the combiner takes its step, and the clients
recover from the answer exactly what the combiner returns. -/
structure Feeds (delays : Fin n → Nat) (fed : List (SyncOp n)) (clients : Fin n → List Bytes)
    (op : SyncOp n) (answer : Except GameSyncError (List (CachedPlayerOutput n)))
    (after : DelayedGameSync n) : Prop where
  sync : after.inner.sync = (SimplestGameSync.machine n).final (.new delays) (fed ++ [op])
  answered : ∃ raws outputs,
    ((SimplestGameSync.machine n).step
        ((SimplestGameSync.machine n).final (.new delays) fed) op).1 = .ok raws ∧
      answer = .ok outputs ∧
      outputs.map CachedPlayerOutput.playerId = raws.map PlayerOutput.playerId ∧
      ∀ player, client.outputs (clients player) (responsesFor player outputs) =
        (outputsFor player raws).map some

/-- A fed operation is the combiner's own step. -/
theorem startupStep_of_fed {delayed : DelayedGameSync n} {player : Fin n} {bytes : Bytes}
    {op : SyncOp n} (feeds : delayed.fed (.input player bytes) = some op) :
    ((delayed.startupStep (.input player bytes)).1,
        (delayed.startupStep (.input player bytes)).2.inner.sync) =
      (SimplestGameSync.machine n).step delayed.inner.sync op := by
  rcases delayed.startupStep_input_cases player bytes with
    ⟨_, silent, _⟩ | ⟨_, fedHere, step⟩
  · rw [silent] at feeds
    cases feeds
  · obtain rfl := Option.some.inj (fedHere.symm.trans feeds)
    rw [step]
    simp [plainFeed, SimplestGameSync.machine]

/-- An operation which feeds nothing is answered by a private zero frame. -/
theorem startupStep_of_silent {delayed : DelayedGameSync n} {player : Fin n} {bytes : Bytes}
    (silent : delayed.fed (.input player bytes) = none) :
    (delayed.startupStep (.input player bytes)).1 = .ok [⟨player, List.replicate
        (n * (delayed.startupStep (.input player bytes)).2.frameSize) 0⟩] ∧
      (delayed.startupStep (.input player bytes)).2.inner.sync = delayed.inner.sync := by
  rcases delayed.startupStep_input_cases player bytes with
    ⟨_, _, step⟩ | ⟨_, feeds, _⟩
  · rw [step]
    exact ⟨rfl, by rw [learnFrameSize_inner]⟩
  · rw [silent] at feeds
    cases feeds

/-- A resolved call steps the layer by its accepted input. -/
theorem step_of_resolved {delayed : DelayedGameSync n} {player : Fin n} {message : ClientInput}
    {bytes : Bytes} (resolved : (resolveInput delayed.inputCaches player message).1 = .ok bytes) :
    (delayed.plainStep (.input player message)).1 =
        (delayed.startupStep (.input player bytes)).1 ∧
      ((machine n).step delayed (.input player message)).2.inner.sync =
        (delayed.startupStep (.input player bytes)).2.inner.sync ∧
      ((machine n).step delayed (.input player message)).2.frameSize =
        (delayed.startupStep (.input player bytes)).2.frameSize := by
  have op : delayed.accepted (.input player message) = some (.input player bytes) := by
    simp [accepted, resolved]
  have step := plainStep_accepted delayed (.input player message)
  rw [op] at step
  obtain ⟨inputCaches, step⟩ := step
  rw [step_eq_plainStep, step]
  refine ⟨rfl, ?_⟩
  cases (delayed.startupStep (.input player bytes)).1 with
  | error error => exact ⟨rfl, rfl⟩
  | ok raws =>
      refine ⟨?_, rfl⟩
      simp only [cacheResult]
      rw [CachedGameSync.cacheOutputs_withOutput]
      rfl

section Run

variable {delays warmups : Fin n → Nat} {disableOutputCache : Bool} {calls : List Call}

/-- The combiner has seen exactly the schedule. -/
theorem final_sync_eq_schedule (positive : ∀ i, 1 ≤ delays i)
    (noDrops : ∀ playerId, Call.drop playerId ∉ calls) :
    ((machine n).final (start delays warmups disableOutputCache) calls).inner.sync =
      (SimplestGameSync.machine n).final (.new delays) (schedule warmups (fun _ => [])
        ((start delays warmups disableOutputCache).acceptedOps calls)) := by
  obtain ⟨outputs, scheduled, _⟩ := scheduled_calls positive warmups disableOutputCache calls
  rw [scheduled.sync,
    fedOps_eq_schedule positive warmups fun player => drop_not_mem_acceptedOps (noDrops player)]

/-- A resolved call which feeds an operation does so after the schedule so far. -/
theorem feeds_of_fed (positive : ∀ i, 1 ≤ delays i)
    (noDrops : ∀ playerId, Call.drop playerId ∉ calls) {player : Fin n} {message : ClientInput}
    {bytes : Bytes}
    (resolved : (resolveInput ((machine n).final (start delays warmups disableOutputCache)
      calls).inputCaches player message).1 = .ok bytes) {op : SyncOp n}
    (feeds : ((machine n).final (start delays warmups disableOutputCache) calls).fed
      (.input player bytes) = some op) :
    Feeds delays
      (schedule warmups (fun _ => []) ((start delays warmups disableOutputCache).acceptedOps calls))
      (fun q => client.final []
        (received q ((machine n).outputs (start delays warmups disableOutputCache) calls)))
      op
      ((machine n).step ((machine n).final (start delays warmups disableOutputCache) calls)
        (.input player message)).1
      ((machine n).step ((machine n).final (start delays warmups disableOutputCache) calls)
        (.input player message)).2 := by
  obtain ⟨plain, sync, _⟩ := step_of_resolved resolved
  have fedStep := startupStep_of_fed feeds
  rw [final_sync_eq_schedule positive noDrops] at fedStep
  obtain ⟨outputs, answered⟩ := step_ok_of_resolved resolved
  obtain ⟨raws, combinedRaws⟩ := plainResolved_ok
    ((machine n).final (start delays warmups disableOutputCache) calls) player bytes
  replace plain := plain.trans combinedRaws
  refine ⟨?_, raws, outputs, (congrArg Prod.fst fedStep).symm.trans combinedRaws, answered, ?_,
    fun q => ?_⟩
  · rw [sync, Transducer.final_concat]
    exact congrArg Prod.snd fedStep
  · have shape := step_addressees
      ((machine n).final (start delays warmups disableOutputCache) calls) (.input player message)
    rw [answered, plain] at shape
    simpa [addressees, Except.map] using shape
  · have decoded := client_outputs_call delays warmups disableOutputCache calls
      (.input player message) q
    simp only [answered, plain] at decoded
    exact decoded

/-- Every player's decoded stream is its warmup frames and then its combined frames. -/
theorem decoded_stream (positive : ∀ i, 1 ≤ delays i)
    (noDrops : ∀ playerId, Call.drop playerId ∉ calls) (player : Fin n) :
    ∃ sizes : List Nat,
      sizes.length = min (warmups player)
        (resolvedInputs player (start delays warmups disableOutputCache) calls).length ∧
      client.outputs []
          (received player ((machine n).outputs (start delays warmups disableOutputCache) calls)) =
        (sizes.map (fun size => List.replicate (n * size) 0) ++
          outputsFor player (combined delays (schedule warmups (fun _ => [])
            ((start delays warmups disableOutputCache).acceptedOps calls)))).map some := by
  have noOpDrops : ∀ player, SyncOp.drop player ∉
      (start delays warmups disableOutputCache).acceptedOps calls :=
    fun player => drop_not_mem_acceptedOps (noDrops player)
  obtain ⟨outputs, scheduled, streams⟩ :=
    scheduled_calls positive warmups disableOutputCache calls
  obtain ⟨sizes, count, _, stream⟩ := (scheduled.players player (noOpDrops player)).stream
  refine ⟨sizes, ?_, ?_⟩
  · rw [resolvedInputs_eq (noDrops player), count]
  · rw [client_outputs_received, streams, stream, fedOps_eq_schedule positive warmups noOpDrops]

end Run

/-- The startup layer is exactly its schedule. After any run without drops, player `p`'s
`j`-th resolved input is answered by one private zero frame and feeds nothing when
`j ≤ D`, feeds `x_(j-D)` when `D < j ≤ 2D`, and feeds itself when `2D < j`; every
player's decoded stream is its warmup frames followed by its combined frames. -/
theorem startup_schedule {delays : Fin n → Nat} (positive : ∀ i, 1 ≤ delays i)
    (warmups : Fin n → Nat) (disableOutputCache : Bool) {calls : List Call}
    (noDrops : ∀ playerId, Call.drop playerId ∉ calls) {player : Fin n} {message : ClientInput}
    {bytes : Bytes}
    (resolved : (resolveInput ((machine n).final (start delays warmups disableOutputCache)
      calls).inputCaches player message).1 = .ok bytes) :
    let fresh := start delays warmups disableOutputCache
    let before := (machine n).final fresh calls
    let answer := ((machine n).step before (.input player message)).1
    let after := ((machine n).step before (.input player message)).2
    let inputs := resolvedInputs player fresh calls ++ [bytes]
    let fed := schedule warmups (fun _ => []) (fresh.acceptedOps calls)
    let clients := fun q => client.final [] (received q ((machine n).outputs fresh calls))
    (inputs.length ≤ warmups player →
      after.inner.sync = (SimplestGameSync.machine n).final (.new delays) fed ∧
      ∃ response, answer = .ok [⟨player, response⟩] ∧
        client.outputs (clients player) [response] =
          [some (List.replicate (n * after.frameSize) 0)]) ∧
    (warmups player < inputs.length → inputs.length ≤ 2 * warmups player →
      ∃ due, inputs[inputs.length - warmups player - 1]? = some due ∧
        Feeds delays fed clients (.input player due) answer after) ∧
    (2 * warmups player < inputs.length →
      Feeds delays fed clients (.input player bytes) answer after) ∧
    ∀ q, ∃ sizes : List Nat, sizes.length = min (warmups q) (resolvedInputs q fresh calls).length ∧
      client.outputs [] (received q ((machine n).outputs fresh calls)) =
        (sizes.map (fun size => List.replicate (n * size) 0) ++
          outputsFor q (combined delays fed)).map some := by
  intro fresh before answer after inputs fed clients
  have feedsHere : before.fed (.input player bytes) =
      (scheduledInput (warmups player) inputs).map (SyncOp.input player) := by
    obtain ⟨outputs, scheduled, _⟩ := scheduled_calls positive warmups disableOutputCache calls
    rw [fed_eq_scheduledInput scheduled (drop_not_mem_acceptedOps (noDrops player)) bytes,
      ← resolvedInputs_eq (noDrops player)]
  have feeds : ∀ {due}, scheduledInput (warmups player) inputs = some due →
      Feeds delays fed clients (.input player due) answer after := fun next =>
    feeds_of_fed positive noDrops resolved (feedsHere.trans (congrArg (Option.map _) next))
  refine ⟨fun warm => ?_, fun warmed catching => ?_, fun steady => ?_,
    decoded_stream positive noDrops⟩
  · have silent : before.fed (.input player bytes) = none := by
      rw [feedsHere, scheduledInput, if_pos warm]
      rfl
    obtain ⟨plain, sync, size⟩ := step_of_resolved resolved
    obtain ⟨frame, unchanged⟩ := startupStep_of_silent silent
    refine ⟨sync.trans (unchanged.trans (final_sync_eq_schedule positive noDrops)), ?_⟩
    have decoded := client_outputs_call delays warmups disableOutputCache calls
      (.input player message) player
    have shape := step_addressees before (.input player message)
    obtain ⟨outputs, answered⟩ := step_ok_of_resolved resolved
    rw [answered, plain.trans frame] at shape
    simp only [answered, plain.trans frame] at decoded
    obtain ⟨response, rfl⟩ : ∃ response, outputs = [⟨player, response⟩] := by
      simp only [addressees, Except.map, Except.ok.injEq, List.map_cons, List.map_nil] at shape
      obtain ⟨⟨playerId, response⟩, rfl, rfl⟩ := List.map_eq_singleton_iff.mp shape
      exact ⟨response, rfl⟩
    refine ⟨response, answered, ?_⟩
    rw [← size] at decoded
    simpa [responsesFor, returned, outputsFor] using decoded
  · have within : inputs.length - warmups player - 1 < inputs.length := by omega
    refine ⟨_, List.getElem?_eq_getElem within, feeds ?_⟩
    rw [scheduledInput, if_neg (by omega), if_pos catching, List.getElem?_eq_getElem within]
  · refine feeds ?_
    rw [scheduledInput, if_neg (by omega), if_neg (by omega)]
    exact List.getLast?_concat

/-- One player with one warmup frame: its second input feeds the first one. -/
theorem startup_schedule_second_input :
    let fresh := start (fun _ : Fin 1 => 1) (fun _ => 1) false
    let first : List Call := [.input 0 (.gameData [1, 2])]
    let before := (machine 1).final fresh first
    ∃ due, ([[1, 2], [3, 4]] : List Bytes)[0]? = some due ∧
      Feeds (fun _ => 1) (schedule (fun _ => 1) (fun _ => []) (fresh.acceptedOps first))
        (fun q => client.final [] (received q ((machine 1).outputs fresh first)))
        (.input 0 due) ((machine 1).step before (.input 0 (.gameData [3, 4]))).1
        ((machine 1).step before (.input 0 (.gameData [3, 4]))).2 :=
  (@startup_schedule 1 (fun _ => 1) (by decide) (fun _ => 1) false [.input 0 (.gameData [1, 2])]
    (by simp) 0 (.gameData [3, 4]) [3, 4] rfl).2.1 (by decide) (by decide)

end Direlera.Sync.DelayedGameSync
