import Direlera.Sync.PlainPath

/-!
# Downstream cache agreement

`client` is a player's side of the downstream cache: a window of 256 entries which
literal data is pushed into and references read. `emitter` is the engine seen one
response at a time, each with the output caches right after it was made.
`downstream_cache_agreement` compares both with a run whose output cache is disabled.
-/

namespace Direlera.Sync

open Direlera.Library Direlera.Library.MirroredWindow

variable {n : Nat}

/-- `decode_client_output`; `none` is a reference to an absent position. -/
def decodeClientOutput (window : List Bytes) : ServerResponse → Option (Bytes × List Bytes)
  | .gameData data => some (data, pushBounded 256 window data)
  | .gameCache position => window[position.toNat]?.map fun data => (data, window)

/-- A client handles its responses in order; an absent position yields nothing. -/
def client : Transducer (List Bytes) ServerResponse (Option Bytes) where
  step window response :=
    match decodeClientOutput window response with
    | some (data, next) => (some data, next)
    | none => (none, window)

/-- The client's rule is the receiver's rule of the protocol. -/
theorem decodeClientOutput_eq_decode (window : List Bytes) (response : ServerResponse) :
    decodeClientOutput window response = decode 256 window response.token := by
  cases response <;> rfl

/-- What the receiver recovers is what the client yields, window by window. -/
theorem client_run {window : List Bytes} {responses : List ServerResponse}
    {decoded : List (Bytes × List Bytes)}
    (recovered : decodeAll 256 window (responses.map ServerResponse.token) = some decoded) :
    client.outputs window responses = decoded.map (fun entry => some entry.1) ∧
      client.states window responses = decoded.map Prod.snd := by
  induction responses generalizing window decoded with
  | nil =>
      obtain rfl : [] = decoded := by simpa [decodeAll] using recovered
      exact ⟨rfl, rfl⟩
  | cons response rest ih =>
      simp only [List.map_cons, decodeAll, ← decodeClientOutput_eq_decode,
        Option.bind_eq_some_iff, Option.map_eq_some_iff] at recovered
      obtain ⟨⟨data, next⟩, here, later, recoveredLater, rfl⟩ := recovered
      obtain ⟨outputs, states⟩ := ih recoveredLater
      have step : client.step window response = (some data, next) := by
        simp [client, here]
      rw [Transducer.outputs_cons, Transducer.states_cons, step]
      exact ⟨congrArg _ outputs, congrArg _ states⟩

/-- A client decodes literal data whatever its window holds. -/
theorem client_outputs_gameData (window : List Bytes) (payloads : List Bytes) :
    client.outputs window (payloads.map ServerResponse.gameData) = payloads.map some := by
  induction payloads generalizing window with
  | nil => rfl
  | cons data rest ih =>
      rw [List.map_cons, Transducer.outputs_cons, ih]
      rfl

namespace CachedGameSync

/-- The conversion loop one response at a time, each with the output caches right
after it was made. -/
def emissions (cached : CachedGameSync n) :
    List (PlayerOutput n) → List (CachedPlayerOutput n × (Fin n → InputCache))
  | [] => []
  | raw :: rest =>
      let ((response, _, _), next) := cached.makeCachedOutput raw.playerId raw.output
      (⟨raw.playerId, response⟩, next.outputCaches) :: next.emissions rest

/-- The emitted responses are those which the loop returns. -/
theorem emissions_responses (cached : CachedGameSync n) (raws : List (PlayerOutput n)) :
    (cached.emissions raws).map Prod.fst = (cached.cacheOutputs raws).1.outputs := by
  induction raws generalizing cached with
  | nil => rfl
  | cons raw rest ih => simp [emissions, cacheOutputs, ih]

end CachedGameSync

/-- The emissions addressed to one player, as the contents of its output cache. -/
def cacheTrace (player : Fin n)
    (emitted : List (CachedPlayerOutput n × (Fin n → InputCache))) : List (List Bytes) :=
  (emitted.filter fun emission => emission.1.playerId = player).map
    fun emission => (emission.2 player).slots

@[simp] theorem cacheTrace_append (player : Fin n)
    (first second : List (CachedPlayerOutput n × (Fin n → InputCache))) :
    cacheTrace player (first ++ second) = cacheTrace player first ++ cacheTrace player second := by
  simp [cacheTrace]

/-- A player's emissions show its cache as the sender's window after each output. -/
theorem CachedGameSync.cacheTrace_emissions {cached : CachedGameSync n}
    (enabled : cached.disableOutputCache = false) (player : Fin n)
    (raws : List (PlayerOutput n)) :
    cacheTrace player (cached.emissions raws) =
      InputCache.sender.windows (cached.outputCaches player)
        (SimplestGameSync.outputsFor player raws) := by
  induction raws generalizing cached with
  | nil => rfl
  | cons raw rest ih =>
      obtain ⟨_, next⟩ := makeCachedOutput_enabled enabled raw.playerId raw.output
      have enabledNext :
          (cached.makeCachedOutput raw.playerId raw.output).2.disableOutputCache = false := by
        rw [next]
        exact enabled
      have later := ih enabledNext
      simp only [emissions]
      by_cases mine : raw.playerId = player
      · subst mine
        simp only [cacheTrace, SimplestGameSync.outputsFor, List.filter_cons, decide_true, if_true,
          List.map_cons, Sender.windows] at later ⊢
        rw [later, next]
        simp [InputCache.sender]
      · simp only [cacheTrace, SimplestGameSync.outputsFor, List.filter_cons, mine, decide_false,
          Bool.false_eq_true, if_false] at later ⊢
        rw [later, next]
        simp [Function.update_of_ne (Ne.symm mine)]

namespace DelayedGameSync

/-- The engine as a machine which shows every response of a call with the output
caches right after it. -/
def emitter (n : Nat) : Transducer (DelayedGameSync n) Call
    (List (CachedPlayerOutput n × (Fin n → InputCache))) where
  step delayed call :=
    (match delayed.plainStep call with
      | (.ok raws, staged) => staged.inner.emissions raws
      | (.error _, _) => [],
      ((machine n).step delayed call).2)

/-- The emitter shows the responses which the calls return. -/
theorem emitter_responses (delayed : DelayedGameSync n) (calls : List Call) :
    ((emitter n).outputs delayed calls).flatten.map Prod.fst =
      ((machine n).outputs delayed calls).flatMap SimplestGameSync.returned := by
  induction calls generalizing delayed with
  | nil => rfl
  | cons call rest ih =>
      have here : (((emitter n).step delayed call).1).map Prod.fst =
          SimplestGameSync.returned ((machine n).step delayed call).1 := by
        rw [step_eq_plainStep]
        simp only [emitter]
        cases delayed.plainStep call with
        | mk result staged =>
            cases result with
            | error error => rfl
            | ok raws => exact CachedGameSync.emissions_responses staged.inner raws
      rw [Transducer.outputs_cons, Transducer.outputs_cons, List.flatten_cons, List.map_append,
        List.flatMap_cons, here]
      exact congrArg _ (ih ((machine n).step delayed call).2)

/-- A player's emissions over a run show its output cache as the sender's window. -/
theorem cacheTrace_emitter (plain : DelayedGameSync n) (caches : Fin n → InputCache)
    (player : Fin n) (calls : List Call) :
    cacheTrace player ((emitter n).outputs (plain.withOutput caches false) calls).flatten =
      InputCache.sender.windows (caches player) (SimplestGameSync.outputsFor player
        (((plainMachine n).outputs plain calls).flatMap SimplestGameSync.returned)) := by
  induction calls generalizing plain caches with
  | nil => rfl
  | cons call rest ih =>
      obtain ⟨_, state, _⟩ := step_enabled plain caches call
      have here : cacheTrace player ((emitter n).step (plain.withOutput caches false) call).1 =
          InputCache.sender.windows (caches player) (SimplestGameSync.outputsFor player
            (SimplestGameSync.returned (plain.plainStep call).1)) := by
        simp only [emitter, plainStep_withOutput]
        cases plain.plainStep call with
        | mk result staged =>
            cases result with
            | error error => rfl
            | ok raws =>
                have enabled : (staged.withOutput caches false).inner.disableOutputCache = false := rfl
                exact CachedGameSync.cacheTrace_emissions enabled player raws
      have later := ih (plain.plainStep call).2
        (encodedCaches caches (SimplestGameSync.returned (plain.plainStep call).1))
      rw [← state] at later
      rw [Transducer.outputs_cons, Transducer.outputs_cons, List.flatten_cons, cacheTrace_append,
        List.flatMap_cons, SimplestGameSync.outputsFor_append, Sender.windows_append, here]
      exact congrArg _ later

/-- The responses of a run which are addressed to one player, in order. -/
def received (player : Fin n) (results : List (Except GameSyncError (List (CachedPlayerOutput n)))) :
    List ServerResponse :=
  responsesFor player (results.flatMap SimplestGameSync.returned)

/-- The combined outputs of a run for one player, before any caching. -/
def payloads (player : Fin n) (plain : DelayedGameSync n) (calls : List Call) : List Bytes :=
  SimplestGameSync.outputsFor player
    (((plainMachine n).outputs plain calls).flatMap SimplestGameSync.returned)

/-- A fresh engine in terms of one without its output caches. -/
theorem start_withOutput (playerDelays warmups : Fin n → Nat) (disableOutputCache : Bool) :
    start playerDelays warmups disableOutputCache =
      (start playerDelays warmups false).withOutput (fun _ => .new) disableOutputCache := rfl

/-- With the output cache disabled the payloads travel literally. -/
theorem received_disabled (playerDelays warmups : Fin n → Nat) (calls : List Call)
    (player : Fin n) :
    received player ((machine n).outputs (start playerDelays warmups true) calls) =
      (payloads player (start playerDelays warmups false) calls).map .gameData := by
  rw [start_withOutput, (run_disabled _ _ calls).1, received, payloads]
  generalize (plainMachine n).outputs (start playerDelays warmups false) calls = results
  induction results with
  | nil => rfl
  | cons result rest ih =>
      rw [List.map_cons, List.flatMap_cons, List.flatMap_cons, responsesFor_append, ih,
        SimplestGameSync.outputsFor_append, List.map_append]
      refine congrArg (· ++ _) ?_
      cases result with
      | error error => rfl
      | ok raws =>
          simp only [Except.map, SimplestGameSync.returned, responsesFor,
            SimplestGameSync.outputsFor, List.filter_map, List.map_map]
          rfl

/-- With the output cache enabled the payloads travel as the tokens of a fresh sender. -/
theorem received_enabled (playerDelays warmups : Fin n → Nat) (calls : List Call)
    (player : Fin n) :
    (received player ((machine n).outputs (start playerDelays warmups false) calls)).map
        ServerResponse.token =
      (InputCache.sender.encodeAll .new
        (payloads player (start playerDelays warmups false) calls)).1 :=
  (run_enabled (start playerDelays warmups false) (fun _ => .new) calls).2.2 player

/-- A receiver which starts empty recovers the payloads, window by window. -/
theorem recovered_enabled (playerDelays warmups : Fin n → Nat) (calls : List Call)
    (player : Fin n) :
    decodeAll 256 []
        ((received player ((machine n).outputs (start playerDelays warmups false) calls)).map
          ServerResponse.token) =
      some ((payloads player (start playerDelays warmups false) calls).zip
        (InputCache.sender.windows .new
          (payloads player (start playerDelays warmups false) calls))) := by
  rw [received_enabled]
  exact InputCache.sender.decodeAll_encodeAll .new _

/-- A client recovers the payloads whether or not the output cache is used. -/
theorem client_outputs_received (playerDelays warmups : Fin n → Nat) (disableOutputCache : Bool)
    (calls : List Call) (player : Fin n) :
    client.outputs []
        (received player ((machine n).outputs (start playerDelays warmups disableOutputCache) calls)) =
      (payloads player (start playerDelays warmups false) calls).map some := by
  cases disableOutputCache with
  | true => rw [received_disabled, client_outputs_gameData]
  | false =>
      rw [(client_run (recovered_enabled playerDelays warmups calls player)).1]
      have values := List.map_fst_zip (Nat.le_of_eq (InputCache.sender.length_windows .new
        (payloads player (start playerDelays warmups false) calls)).symm)
      exact List.map_map.symm.trans (congrArg (List.map some) values)

/-- A run is a plain run with some output caches on top. -/
theorem final_withOutput (plain : DelayedGameSync n) (caches : Fin n → InputCache)
    (disableOutputCache : Bool) (calls : List Call) :
    ∃ outputCaches, (machine n).final (plain.withOutput caches disableOutputCache) calls =
      ((plainMachine n).final plain calls).withOutput outputCaches disableOutputCache := by
  cases disableOutputCache with
  | true => exact ⟨caches, (run_disabled plain caches calls).2⟩
  | false => exact ⟨_, (run_enabled plain caches calls).2.1⟩

/-- The answer to a call has the addressees of the plain step. -/
theorem step_addressees (delayed : DelayedGameSync n) (call : Call) :
    addressees ((machine n).step delayed call).1 =
      (delayed.plainStep call).1.map (List.map PlayerOutput.playerId) := by
  rw [step_eq_plainStep]
  cases delayed.plainStep call with
  | mk result staged =>
      cases result with
      | error error => rfl
      | ok raws => exact congrArg Except.ok (CachedGameSync.cacheOutputs_playerIds _ raws)

/-- After any run the clients recover from the next answer what the plain step returns. -/
theorem client_outputs_call (playerDelays warmups : Fin n → Nat) (disableOutputCache : Bool)
    (calls : List Call) (call : Call) (player : Fin n) :
    let fresh := start playerDelays warmups disableOutputCache
    client.outputs (client.final [] (received player ((machine n).outputs fresh calls)))
        (responsesFor player (SimplestGameSync.returned
          ((machine n).step ((machine n).final fresh calls) call).1)) =
      (SimplestGameSync.outputsFor player (SimplestGameSync.returned
        (((machine n).final fresh calls).plainStep call).1)).map some := by
  intro fresh
  have before := client_outputs_received playerDelays warmups disableOutputCache calls player
  have both := client_outputs_received playerDelays warmups disableOutputCache (calls ++ [call])
    player
  obtain ⟨caches, state⟩ := final_withOutput (start playerDelays warmups false) (fun _ => .new)
    disableOutputCache calls
  have sameStep : ((machine n).final fresh calls).plainStep call =
      (_, DelayedGameSync.withOutput _ caches disableOutputCache) :=
    (congrArg (DelayedGameSync.plainStep · call) state).trans (plainStep_withOutput _ _ _ call)
  rw [Transducer.outputs_concat, received, List.flatMap_append, responsesFor_append,
    Transducer.outputs_append, payloads, Transducer.outputs_concat, List.flatMap_append,
    SimplestGameSync.outputsFor_append, List.map_append] at both
  rw [received, payloads] at before
  rw [before, List.flatMap_singleton, List.flatMap_singleton] at both
  rw [sameStep]
  exact List.append_cancel_left both

/-- Downstream cache agreement. Both runs answer every call to the same addressees or
by the same error; a client of the cached run yields, response for response, the
literal payloads of the plain run and holds its output cache after every response. -/
theorem downstream_cache_agreement (playerDelays warmups : Fin n → Nat) (calls : List Call)
    (player : Fin n) :
    let cached := (machine n).outputs (start playerDelays warmups false) calls
    let plain := (machine n).outputs (start playerDelays warmups true) calls
    let emitted := ((emitter n).outputs (start playerDelays warmups false) calls).flatten
    cached.map addressees = plain.map addressees ∧
      emitted.map Prod.fst = cached.flatMap SimplestGameSync.returned ∧
      client.states [] (received player cached) = cacheTrace player emitted ∧
      ∃ payloads : List Bytes, received player plain = payloads.map .gameData ∧
        client.outputs [] (received player cached) = payloads.map some := by
  intro cached plain emitted
  refine ⟨?_, emitter_responses _ calls, ?_, _, received_disabled playerDelays warmups calls player,
    client_outputs_received playerDelays warmups false calls player⟩
  · have shapes := (run_enabled (start playerDelays warmups false) (fun _ => .new) calls).1
    have literal := (run_disabled (start playerDelays warmups false) (fun _ => .new) calls).1
    rw [← start_withOutput] at shapes literal
    simp only [cached, plain]
    rw [shapes, literal, List.map_map]
    refine List.map_congr_left fun result _ => ?_
    cases result <;> simp [addressees, Except.map]
  · have recovered := recovered_enabled playerDelays warmups calls player
    have trace := cacheTrace_emitter (start playerDelays warmups false) (fun _ => .new) player calls
    rw [← start_withOutput] at trace
    simp only [cached, emitted]
    rw [(client_run recovered).2, List.map_snd_zip (by simp), trace]
    rfl

/-- Two equal frames in a row: the second one travels as a position. -/
example : received (0 : Fin 1) ((machine 1).outputs (start (fun _ => 1) (fun _ => 0) false)
    [.input 0 (.gameData [7]), .input 0 (.gameCache 0)]) = [.gameData [7], .gameCache 0] := by
  decide

end DelayedGameSync

end Direlera.Sync
