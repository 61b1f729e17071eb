import Direlera.Sync.Progress

/-!
# From the players' inputs to what they see

The two caches, the startup delay and the combiner together. Whatever others send and whoever
drops, all players who follow the client rule see the same frames behind their warmup frames,
and find what the startup delay lets through of their own inputs in their own slot.
-/

namespace Direlera.Sync.DelayedGameSync

open Direlera.Library Direlera.Library.Lockstep MirroredWindow SimplestGameSync

variable {n : Nat}

/-- A player of the run who stays, sends nonempty inputs and encodes them by the client rule. -/
structure Honest (calls : List Call) (player : Fin n) (raws : List Bytes) : Prop where
  stays : Call.drop player ∉ calls
  encoded : messagesOf player calls = encodeClientInputs .new raws
  nonempty : ∀ raw ∈ raws, raw ≠ []

section Run

variable (warmups : Fin n → Nat) (disableOutputCache : Bool) {calls : List Call} {player : Fin n}
  {raws : List Bytes}

/-- The engine resolves what the client encoded. -/
theorem Honest.resolved (honest : Honest calls player raws) :
    resolvedInputs player (start (fun _ => 1) warmups disableOutputCache) calls = raws := by
  have recovered : decodeAll 256
      ((start (fun _ => 1) warmups disableOutputCache).inputCaches player).slots
      ((messagesOf player calls).map ClientInput.token) =
        some (raws.zip (InputCache.sender.windows .new raws)) := by
    rw [honest.encoded, encodeClientInputs_tokens]
    exact InputCache.sender.decodeAll_encodeAll .new raws
  have values := List.map_fst_zip
    (Nat.le_of_eq (InputCache.sender.length_windows .new raws).symm)
  rw [resolvedInputs, resolutions_of_decodeAll recovered, List.filterMap_map]
  change (raws.zip _).filterMap (fun entry => some entry.1) = raws
  rw [List.filterMap_eq_map', values]

/-- What the combiner is fed in a run. -/
def feedOf (warmups : Fin n → Nat) (disableOutputCache : Bool) (calls : List Call) :
    List (SyncOp n) :=
  (start (fun _ => 1) warmups false).fedOps
    ((start (fun _ => 1) warmups disableOutputCache).acceptedOps calls)

/-- A player who stays contributes what the startup delay lets through. -/
theorem Honest.stream (honest : Honest calls player raws) :
    chunkStream (fun _ => 1) (feedOf warmups disableOutputCache calls) player =
      scheduledFeed (warmups player) raws := by
  obtain ⟨outputs, scheduled, _⟩ :=
    scheduled_calls (fun _ => Nat.le_refl 1) warmups disableOutputCache calls
  have here := (scheduled.players player (drop_not_mem_acceptedOps honest.stays)).feed
  rw [← resolvedInputs_eq honest.stays, honest.resolved warmups disableOutputCache] at here
  rw [chunkStream, feedOf, here]
  have nonempty : ∀ input ∈ scheduledFeed (warmups player) raws, input ≠ [] := fun input member =>
    honest.nonempty input (mem_of_mem_scheduledFeed member)
  rw [List.flatMap_congr fun input member => inputChunks_one (nonempty input member)]
  exact List.flatMap_singleton' _

/-- The frames of a run, by slot. -/
def framesOf (warmups : Fin n → Nat) (disableOutputCache : Bool) (calls : List Call) :
    List (List Bytes) :=
  let feed := feedOf warmups disableOutputCache calls
  (List.range (completedFrames (fun _ => 1) feed)).map fun index =>
    frame (List.replicate (firstChunkSize (fun _ => 1) feed) 0) (chunkStream (fun _ => 1) feed) index

/-- With delay 1 a block is one frame. -/
theorem block_one (pad : OneInput) (streams : Fin n → List OneInput) (index : Nat) :
    block pad streams 1 index = (frame pad streams index).flatten := by
  rw [block, Nat.mul_one, segment_succ]
  simp

/-- What a player decodes who stays: its warmup frames, and the frames of the run. -/
theorem Honest.decoded (honest : Honest calls player raws) :
    ∃ sizes : List Nat, sizes.length = min (warmups player) raws.length ∧
      client.outputs [] (received player
          ((machine n).outputs (start (fun _ => 1) warmups disableOutputCache) calls)) =
        (sizes.map (fun size => List.replicate (n * size) 0) ++
          (framesOf warmups disableOutputCache calls).map List.flatten).map some := by
  obtain ⟨outputs, scheduled, streams⟩ :=
    scheduled_calls (fun _ => Nat.le_refl 1) warmups disableOutputCache calls
  have here := scheduled.players player (drop_not_mem_acceptedOps honest.stays)
  obtain ⟨sizes, count, _, stream⟩ := here.stream
  have agrees := agrees_run (fun _ : Fin n => Nat.one_pos)
    (feedOf warmups disableOutputCache calls)
  have sent := agrees.merged.sent player
  rw [agrees.sameDelays, Nat.div_one] at sent
  refine ⟨sizes, ?_, ?_⟩
  · rw [count, ← resolvedInputs_eq honest.stays, honest.resolved warmups disableOutputCache]
  · rw [client_outputs_received, streams, stream]
    have combinedFrames : outputsFor player (combined (fun _ => 1)
        (feedOf warmups disableOutputCache calls)) =
          (framesOf warmups disableOutputCache calls).map List.flatten := by
      rw [combined, sent, framesOf, List.map_map]
      exact List.map_congr_left fun index _ => block_one _ _ index
    rw [← combinedFrames]
    rfl

theorem length_framesOf (calls : List Call) :
    (framesOf warmups disableOutputCache calls).length =
      completedFrames (fun _ => 1) (feedOf warmups disableOutputCache calls) := by
  rw [framesOf, List.length_map, List.length_range]

/-- A player who stays is open in what the combiner is fed. -/
theorem droppedIn_feedOf (stays : Call.drop player ∉ calls) :
    droppedIn (feedOf warmups disableOutputCache calls) player = false := by
  obtain ⟨outputs, scheduled, _⟩ :=
    scheduled_calls (fun _ => Nat.le_refl 1) warmups disableOutputCache calls
  have here := (scheduled.players player (drop_not_mem_acceptedOps stays)).isOpen
  exact decide_eq_false here

/-- Every frame has an input of a player who stays. -/
theorem Honest.length_framesOf_le (honest : Honest calls player raws) :
    (framesOf warmups disableOutputCache calls).length ≤
      (scheduledFeed (warmups player) raws).length := by
  rw [length_framesOf, ← honest.stream warmups disableOutputCache]
  exact completed_le_length _ (droppedIn_feedOf warmups disableOutputCache honest.stays)

/-- The slot of a player who stays, frame by frame. -/
theorem Honest.slots (honest : Honest calls player raws) :
    (framesOf warmups disableOutputCache calls).map (fun slots => slots[player.val]?) =
      ((scheduledFeed (warmups player) raws).take
        (framesOf warmups disableOutputCache calls).length).map some := by
  have enough := honest.length_framesOf_le warmups disableOutputCache
  refine List.ext_getElem ?_ fun index before _ => ?_
  · rw [List.length_map, List.length_map, List.length_take, Nat.min_eq_left enough]
  · rw [List.length_map] at before
    have own : index < (scheduledFeed (warmups player) raws).length := Nat.lt_of_lt_of_le before enough
    simp only [framesOf, frame, List.getElem_map, List.getElem_range, List.getElem_take,
      List.getElem?_map]
    simp [honest.stream warmups disableOutputCache, own]

end Run

/-- Whatever the others send and whoever drops, a run has frames, each with one slot for every
player, which all players see who stay and follow the client rule: behind one zero frame for
each of its warmup calls such a player decodes exactly these frames, and finds what the startup
delay lets through of its own inputs in its slot, in order and without a gap. Once every player
who stays follows the rule, the frames include all that the slowest of them sent. -/
theorem end_to_end_lockstep (warmups : Fin n → Nat) (disableOutputCache : Bool)
    (calls : List Call) :
    ∃ frames : List (List Bytes), (∀ slots ∈ frames, slots.length = n) ∧
      (∀ player raws, Honest calls player raws →
        (∃ sizes : List Nat, sizes.length = min (warmups player) raws.length ∧
          client.outputs [] (received player
              ((machine n).outputs (start (fun _ => 1) warmups disableOutputCache) calls)) =
            (sizes.map (fun size => List.replicate (n * size) 0) ++
              frames.map List.flatten).map some) ∧
        frames.length ≤ (scheduledFeed (warmups player) raws).length ∧
        frames.map (fun slots => slots[player.val]?) =
          ((scheduledFeed (warmups player) raws).take frames.length).map some) ∧
      ((∃ player : Fin n, Call.drop player ∉ calls) →
        (∀ player : Fin n, Call.drop player ∉ calls → ∃ raws, Honest calls player raws) →
        ∃ player raws, Honest calls player raws ∧
          frames.length = (scheduledFeed (warmups player) raws).length) := by
  refine ⟨framesOf warmups disableOutputCache calls, ?_, ?_, ?_⟩
  · intro slots member
    obtain ⟨index, _, rfl⟩ := List.mem_map.mp member
    exact length_frame ..
  · exact fun player raws honest => ⟨honest.decoded warmups disableOutputCache,
      honest.length_framesOf_le warmups disableOutputCache, honest.slots warmups disableOutputCache⟩
  · rintro ⟨player, stays⟩ everyone
    obtain ⟨slowest, isOpen, exactly⟩ : ∃ slot,
        droppedIn (feedOf warmups disableOutputCache calls) slot = false ∧
          (chunkStream (fun _ => 1) (feedOf warmups disableOutputCache calls) slot).length =
            completedFrames (fun _ => 1) (feedOf warmups disableOutputCache calls) :=
      exists_length_eq_completed ⟨player, droppedIn_feedOf warmups disableOutputCache stays⟩
    have slowestStays : Call.drop slowest ∉ calls := by
      intro gone
      have fedHere : SyncOp.drop slowest ∈ feedOf warmups disableOutputCache calls :=
        drop_mem_fedOps (drop_mem_acceptedOps gone)
      simp [droppedIn, fedHere] at isOpen
    obtain ⟨raws, honest⟩ := everyone slowest slowestStays
    refine ⟨slowest, raws, honest, ?_⟩
    rw [length_framesOf, ← honest.stream warmups disableOutputCache, exactly]

/-- The second of two players leaves; the first one repeats its input by position. -/
theorem end_to_end_lockstep_two_players :
    let calls : List Call :=
      [.input 0 (.gameData [1]), .input 1 (.gameData [2]), .input 0 (.gameCache 0), .drop 1]
    ∃ frames : List (List Bytes), frames.length ≤ 1 ∧ ∃ sizes : List Nat, sizes.length = 1 ∧
      client.outputs [] (received (0 : Fin 2)
          ((machine 2).outputs (start (fun _ => 1) (fun _ => 1) false) calls)) =
        (sizes.map (fun size => List.replicate (2 * size) 0) ++ frames.map List.flatten).map some := by
  intro calls
  obtain ⟨frames, -, honest, -⟩ := end_to_end_lockstep (fun _ : Fin 2 => 1) false calls
  obtain ⟨decoded, short, -⟩ := honest 0 [[1], [1]] ⟨by decide, by decide, by decide⟩
  exact ⟨frames, short, decoded⟩

end Direlera.Sync.DelayedGameSync
