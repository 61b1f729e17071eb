import Direlera.Sync.PlainPath

/-!
# Upstream cache agreement

A client encodes its raw inputs over its own cache; the engine resolves every
message before it decides whether the content is saved, fed or discarded.
`step_inputCaches` is the frame rule: a call changes the input cache of its sender
exactly as resolving its message does, and no other.
-/

namespace Direlera.Sync

open Direlera.Library Direlera.Library.MirroredWindow

variable {n : Nat}

/-- A message as a token of the protocol. -/
def ClientInput.token : ClientInput → Token Bytes
  | .gameData data => .literal data
  | .gameCache position => .reference position.toNat

/-- The client's rule: refer to bytes which the cache holds, otherwise send them
and keep them. -/
def encodeClientInput (cache : InputCache) (raw : Bytes) : ClientInput × InputCache :=
  match cache.find raw with
  | some position => (.gameCache position, cache)
  | none => (.gameData raw, (cache.push raw).1)

/-- The messages of a client for its raw inputs. -/
def encodeClientInputs (cache : InputCache) : List Bytes → List ClientInput
  | [] => []
  | raw :: rest => (encodeClientInput cache raw).1 :: encodeClientInputs (encodeClientInput cache raw).2 rest

theorem encodeClientInput_token (cache : InputCache) (raw : Bytes) :
    (encodeClientInput cache raw).1.token = (InputCache.sender.encode cache raw).1 ∧
      (encodeClientInput cache raw).2 = (InputCache.sender.encode cache raw).2 := by
  unfold encodeClientInput Sender.encode
  cases found : cache.find raw with
  | none => simp [InputCache.sender, found, ClientInput.token]
  | some position => simp [InputCache.sender, found, ClientInput.token]

theorem encodeClientInputs_tokens (cache : InputCache) (raws : List Bytes) :
    (encodeClientInputs cache raws).map ClientInput.token =
      (InputCache.sender.encodeAll cache raws).1 := by
  induction raws generalizing cache with
  | nil => rfl
  | cons raw rest ih =>
      obtain ⟨token, next⟩ := encodeClientInput_token cache raw
      rw [encodeClientInputs, List.map_cons, token, ih, next]
      rfl

/-- Resolving a message is the receiver's rule on the sender's cache. -/
theorem resolveInput_of_decode {caches : Fin n → InputCache} {player : Fin n}
    {message : ClientInput} {bytes : Bytes} {window : List Bytes}
    (decoded : decode 256 (caches player).slots message.token = some (bytes, window)) :
    (resolveInput caches player message).1 = .ok bytes ∧
      ((resolveInput caches player message).2 player).slots = window := by
  cases message with
  | gameData data =>
      obtain ⟨rfl, rfl⟩ : data = bytes ∧ pushBounded 256 (caches player).slots data = window := by
        simpa [ClientInput.token, decode] using decoded
      simp [resolveInput]
  | gameCache position =>
      obtain ⟨held, rfl⟩ : (caches player).slots[position.toNat]? = some bytes ∧
          (caches player).slots = window := by
        simpa [ClientInput.token, decode] using decoded
      have read : (caches player).get position = some bytes := held
      simp [resolveInput, read]

theorem resolveInput_other {caches : Fin n → InputCache} {player other : Fin n}
    (different : other ≠ player) (message : ClientInput) :
    (resolveInput caches player message).2 other = caches other := by
  cases message with
  | gameData data => simp [resolveInput, Function.update_of_ne different]
  | gameCache position =>
      simp only [resolveInput]
      split <;> rfl

namespace DelayedGameSync

theorem cacheResult_inputCaches
    (outcome : Except GameSyncError (List (PlayerOutput n)) × DelayedGameSync n) :
    (cacheResult outcome).2.inputCaches = outcome.2.inputCaches := by
  obtain ⟨result, staged⟩ := outcome
  cases result <;> rfl

theorem plainResolved_inputCaches (delayed : DelayedGameSync n) (player : Fin n)
    (bytes : Bytes) :
    (delayed.plainResolved player bytes).2.inputCaches = delayed.inputCaches := by
  have learned := learnFrameSize_inputCaches delayed bytes
  rcases delayed.plainResolved_cases player bytes with
    ⟨_, step⟩ | ⟨_, due, rest, _, step⟩ | ⟨_, _, step⟩
  · rw [step]
    exact learned
  · rw [step]
    exact learned
  · rw [step]
    exact learned

/-- A call changes the input caches exactly as resolving its message does. -/
theorem step_inputCaches (delayed : DelayedGameSync n) (call : Call) :
    ((machine n).step delayed call).2.inputCaches =
      match call with
      | .input playerId message =>
          if inRange : playerId < n then
            (resolveInput delayed.inputCaches ⟨playerId, inRange⟩ message).2
          else delayed.inputCaches
      | .drop _ => delayed.inputCaches := by
  rw [step_eq_plainStep, cacheResult_inputCaches]
  cases call with
  | drop playerId => rfl
  | input playerId message =>
      simp only [plainStep]
      by_cases inRange : playerId < n
      · simp only [inRange, dif_pos]
        cases resolveInput delayed.inputCaches ⟨playerId, inRange⟩ message with
        | mk resolved inputCaches =>
            cases resolved with
            | error error => rfl
            | ok bytes => exact plainResolved_inputCaches _ _ bytes
      · simp [inRange]

/-- Feeding a player of the game is always answered. -/
theorem plainFeed_ok (delayed : DelayedGameSync n) (player : Fin n) (bytes : Bytes) :
    ∃ raws, (delayed.plainFeed player bytes).1 = .ok raws := by
  simp only [plainFeed, SimplestGameSync.processClientInput, player.isLt, dif_pos]
  split <;> exact ⟨_, rfl⟩

/-- A resolved input is always answered. -/
theorem plainResolved_ok (delayed : DelayedGameSync n) (player : Fin n) (bytes : Bytes) :
    ∃ raws, (delayed.plainResolved player bytes).1 = .ok raws := by
  rcases delayed.plainResolved_cases player bytes with
    ⟨_, step⟩ | ⟨_, due, rest, _, step⟩ | ⟨_, _, step⟩
  · exact ⟨_, congrArg Prod.fst step⟩
  · rw [step]
    exact plainFeed_ok _ player due
  · rw [step]
    exact plainFeed_ok _ player bytes

/-- Whether a call of a player is answered only depends on resolving its message. -/
theorem step_ok_of_resolved {delayed : DelayedGameSync n} {player : Fin n}
    {message : ClientInput} {bytes : Bytes}
    (resolved : (resolveInput delayed.inputCaches player message).1 = .ok bytes) :
    ∃ outputs, ((machine n).step delayed (.input player message)).1 = .ok outputs := by
  rw [step_eq_plainStep]
  simp only [plainStep, player.isLt, dif_pos]
  cases shape : resolveInput delayed.inputCaches player message with
  | mk result inputCaches =>
      obtain rfl : result = .ok bytes := by simpa [shape] using resolved
      obtain ⟨raws, answered⟩ := plainResolved_ok { delayed with inputCaches } player bytes
      cases outcome : plainResolved { delayed with inputCaches } player bytes with
      | mk result staged =>
          obtain rfl : result = .ok raws := by simpa [outcome] using answered
          simp only [Fin.eta, outcome]
          exact ⟨_, rfl⟩

/-- The messages of one player, in order. -/
def messagesOf (player : Fin n) : List Call → List ClientInput
  | [] => []
  | .input playerId message :: rest =>
      if playerId = player then message :: messagesOf player rest else messagesOf player rest
  | .drop _ :: rest => messagesOf player rest

/-- What the engine resolves a player's messages to, in order. -/
def resolutions (player : Fin n) (delayed : DelayedGameSync n) :
    List Call → List (Except GameSyncError Bytes)
  | [] => []
  | call :: rest =>
      match call with
      | .input playerId message =>
          if playerId = player then
            (resolveInput delayed.inputCaches player message).1 ::
              resolutions player ((machine n).step delayed call).2 rest
          else resolutions player ((machine n).step delayed call).2 rest
      | .drop _ => resolutions player ((machine n).step delayed call).2 rest

/-- A run resolves a player's messages as a receiver with its input cache would. -/
theorem resolutions_of_decodeAll {player : Fin n} {delayed : DelayedGameSync n}
    {calls : List Call} {decoded : List (Bytes × List Bytes)}
    (recovered : decodeAll 256 (delayed.inputCaches player).slots
      ((messagesOf player calls).map ClientInput.token) = some decoded) :
    resolutions player delayed calls = decoded.map fun entry => .ok entry.1 := by
  induction calls generalizing delayed decoded with
  | nil =>
      obtain rfl : [] = decoded := by simpa [messagesOf, decodeAll] using recovered
      rfl
  | cons call rest ih =>
      have next := step_inputCaches delayed call
      cases call with
      | drop playerId =>
          refine ih ?_
          rw [next]
          exact recovered
      | input playerId message =>
          simp only [messagesOf, resolutions] at recovered ⊢
          by_cases mine : playerId = player
          · subst mine
            simp only [if_true, List.map_cons, decodeAll, Option.bind_eq_some_iff,
              Option.map_eq_some_iff] at recovered ⊢
            obtain ⟨⟨bytes, window⟩, here, later, recoveredLater, rfl⟩ := recovered
            obtain ⟨resolved, slots⟩ := resolveInput_of_decode here
            have nextSlots : (((machine n).step delayed (.input player message)).2.inputCaches
                player).slots = window := by
              rw [next]
              simpa using slots
            rw [resolved, List.map_cons, ih (by rw [nextSlots]; exact recoveredLater)]
          · simp only [mine, if_false] at recovered ⊢
            refine ih ?_
            rw [next]
            by_cases inRange : playerId < n
            · have different : player ≠ ⟨playerId, inRange⟩ := fun same => mine (by simp [same])
              simp only [inRange, dif_pos, resolveInput_other different]
              exact recovered
            · simpa only [inRange, dif_neg, not_false_eq_true] using recovered

/-- A run whose resolutions of a player all succeed answers all its messages. -/
theorem answered_of_resolutions {player : Fin n} {delayed : DelayedGameSync n}
    {calls : List Call}
    (resolved : ∀ resolution ∈ resolutions player delayed calls, ∃ bytes, resolution = .ok bytes)
    {message : ClientInput} {result : Except GameSyncError (List (CachedPlayerOutput n))}
    (member : (.input player message, result) ∈
      calls.zip ((machine n).outputs delayed calls)) :
    ∃ outputs, result = .ok outputs := by
  induction calls generalizing delayed with
  | nil => simp at member
  | cons call rest ih =>
      have later : ∀ resolution ∈ resolutions player ((machine n).step delayed call).2 rest,
          ∃ bytes, resolution = .ok bytes := by
        intro resolution inRest
        refine resolved resolution ?_
        cases call with
        | drop playerId => exact inRest
        | input playerId message =>
            simp only [resolutions]
            split
            · exact List.mem_cons_of_mem _ inRest
            · exact inRest
      rw [Transducer.outputs_cons, List.zip_cons_cons] at member
      rcases List.mem_cons.mp member with here | inRest
      · obtain ⟨rfl, rfl⟩ := Prod.mk.inj here
        obtain ⟨bytes, first⟩ := resolved (resolveInput delayed.inputCaches player message).1
          (by simp [resolutions])
        exact step_ok_of_resolved first
      · exact ih later inRest

/-- Upstream cache agreement: messages which a client encoded over its own cache are
resolved to exactly its raw inputs, whatever else happens in between and whatever
becomes of their content, and none is answered by `CachePositionNotFound`. -/
theorem upstream_cache_agreement (playerDelays warmups : Fin n → Nat)
    (disableOutputCache : Bool) (calls : List Call) (player : Fin n) (raws : List Bytes)
    (encoded : messagesOf player calls = encodeClientInputs .new raws) :
    resolutions player (start playerDelays warmups disableOutputCache) calls = raws.map .ok ∧
      ∀ message result, (.input player message, result) ∈ calls.zip
          ((machine n).outputs (start playerDelays warmups disableOutputCache) calls) →
        ∀ playerId position, result ≠ .error (.cachePositionNotFound playerId position) := by
  have recovered : decodeAll 256
      ((start playerDelays warmups disableOutputCache).inputCaches player).slots
      ((messagesOf player calls).map ClientInput.token) =
        some (raws.zip (InputCache.sender.windows .new raws)) := by
    rw [encoded, encodeClientInputs_tokens]
    exact InputCache.sender.decodeAll_encodeAll .new raws
  have values := List.map_fst_zip
    (Nat.le_of_eq (InputCache.sender.length_windows .new raws).symm)
  have resolved : resolutions player (start playerDelays warmups disableOutputCache) calls =
      raws.map .ok := by
    rw [resolutions_of_decodeAll recovered]
    exact List.map_map.symm.trans (congrArg (List.map Except.ok) values)
  refine ⟨resolved, fun message result member playerId position failed => ?_⟩
  obtain ⟨outputs, answered⟩ := answered_of_resolutions (by simp [resolved]) member
  rw [failed] at answered
  cases answered

/-- A repeated input is sent by position while the first copy still waits in the
startup queue. -/
theorem upstream_cache_agreement_repeated :
    resolutions (0 : Fin 1) (start (fun _ => 1) (fun _ => 2) false)
        [.input 0 (.gameData [5]), .input 0 (.gameCache 0)] = [.ok [5], .ok [5]] :=
  (upstream_cache_agreement (fun _ => 1) (fun _ => 2) false
    [.input 0 (.gameData [5]), .input 0 (.gameCache 0)] 0 [[5], [5]] (by decide)).1

end DelayedGameSync

end Direlera.Sync
