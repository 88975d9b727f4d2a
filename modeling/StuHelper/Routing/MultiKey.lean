import Mathlib.Data.List.NodupEquivFin
import Mathlib.Data.List.Rotate
import StuHelper.Lib.Run
import StuHelper.Routing.Channel

/-!
# Channels with several keys

A multi-key channel has a status of its own and one for each of its keys, which is kept by position.
`GetNextEnabledKey` picks an enabled key; `UpdateChannelStatus` is told a key by its text, changes
the status of the first position that holds it, and disables the channel with its last key.
-/

namespace StuHelper.Routing

open Lib List

/-- `constant.MultiKeyMode`. -/
inductive MultiKeyMode where
  | random
  | polling
  /-- Any other text. -/
  | unknown
  deriving DecidableEq, Repr

/-- `model.Channel` with several keys, as `GetKeys` returns them. -/
structure KeyChannel where
  keys : List String
  status : Int := channelStatusEnabled
  multiKeyStatusList : Nat → Option Int := fun _ => none
  multiKeyMode : MultiKeyMode := .random
  multiKeyPollingIndex : Int := 0

/-- A call of `UpdateChannelStatus`. -/
structure KeyCall where
  usingKey : String
  status : Int
  deriving DecidableEq, Repr

namespace KeyChannel

section Source

variable (channel : KeyChannel)

/-- The status of a position; a missing entry is enabled. -/
def getStatus (index : Nat) : Int :=
  (channel.multiKeyStatusList index).getD channelStatusEnabled

/-- `enabledIdx`: the positions of the enabled keys. -/
def enabledIdx : List Nat :=
  (range channel.keys.length).filter (channel.getStatus · = channelStatusEnabled)

/-- The position at which polling starts to search. -/
def start : Nat :=
  if 0 ≤ channel.multiKeyPollingIndex ∧ channel.multiKeyPollingIndex < channel.keys.length then
    channel.multiKeyPollingIndex.toNat else 0

/-- The first enabled position from the polling index on. -/
def nextPolled : Option Nat :=
  ((range channel.keys.length).map fun step =>
    (channel.start + step) % channel.keys.length).find? (channel.getStatus · = channelStatusEnabled)

/-- The position that the mode selects; `draw` is the random number. -/
def selectedIdx (draw first : Nat) : Nat :=
  match channel.multiKeyMode with
  | .random => channel.enabledIdx.getD (draw % channel.enabledIdx.length) first
  | .polling => channel.nextPolled.getD first
  | .unknown => first

/-- `GetNextEnabledKey`: the key with its position, and the channel with its polling index.  When
polling, `CacheGetChannelInfo` finds the channel; its error is left out. -/
def getNextEnabledKey (draw : Nat) : Except String (String × Nat) × KeyChannel :=
  match channel.enabledIdx with
  | [] => (.error (if channel.keys = [] then "no keys available" else "no enabled keys"), channel)
  | first :: _ =>
    let index := channel.selectedIdx draw first
    (.ok (channel.keys.getD index "", index),
      if channel.multiKeyMode = .polling ∧ channel.nextPolled.isSome then
        { channel with multiKeyPollingIndex := (index + 1) % channel.keys.length }
      else channel)

def hasEnabledMultiKey : Bool :=
  (range channel.keys.length).any (channel.getStatus · = channelStatusEnabled)

/-- The channel with another status for a position. -/
def setStatus (index : Nat) (status : Int) : KeyChannel :=
  let entry := if status = channelStatusEnabled then none else some status
  { channel with
    multiKeyStatusList := Function.update channel.multiKeyStatusList index entry }

def handlerMultiKeyUpdate (call : KeyCall) : KeyChannel :=
  if channel.keys = [] then { channel with status := call.status }
  else
    match channel.keys.idxOf? call.usingKey with
    | none => if call.usingKey ≠ "" then channel else { channel with status := call.status }
    | some index =>
      let updated := channel.setStatus index call.status
      if updated.hasEnabledMultiKey = false then
        { updated with status := channelStatusAutoDisabled }
      else if call.status = channelStatusEnabled then
        { updated with status := channelStatusEnabled }
      else updated

/-- `UpdateChannelStatus` on the channel of the memory cache, or on that of the database, which is
left alone when it has the status already. -/
def updateChannelStatus (cached : Bool) (call : KeyCall) : KeyChannel :=
  if cached = false ∧ channel.status = call.status then channel
  else channel.handlerMultiKeyUpdate call

end Source

inductive Op where
  | pick (draw : Nat)
  | update (call : KeyCall)

/-- The key that an operation reports. -/
def Op.key? : Op → Option String
  | .pick _ => none
  | .update call => some call.usingKey

/-- One operation on a copy of the channel. -/
def step (cached : Bool) (channel : KeyChannel) : Op → KeyChannel
  | .pick draw => (channel.getNextEnabledKey draw).2
  | .update call => channel.updateChannelStatus cached call

variable {channel : KeyChannel} {cached : Bool} {call : KeyCall} {key : String} {index : Nat}

/-! ## Selection -/

theorem mem_enabledIdx : index ∈ channel.enabledIdx ↔
    index < channel.keys.length ∧ channel.getStatus index = channelStatusEnabled := by
  simp [enabledIdx]

theorem hasEnabledMultiKey_iff : channel.hasEnabledMultiKey = true ↔
    ∃ index, index ∈ channel.enabledIdx := by
  simp [hasEnabledMultiKey, mem_enabledIdx]

theorem nextPolled_mem (polled : channel.nextPolled = some index) :
    index ∈ channel.enabledIdx := by
  have enabled := find?_some polled
  obtain ⟨_, inRange, rfl⟩ := mem_map.mp (mem_of_find?_eq_some polled)
  have some : 0 < channel.keys.length := Nat.lt_of_le_of_lt (Nat.zero_le _) (mem_range.mp inRange)
  exact mem_enabledIdx.mpr ⟨Nat.mod_lt _ some, of_decide_eq_true enabled⟩

theorem selectedIdx_mem {draw first : Nat} (member : first ∈ channel.enabledIdx) :
    channel.selectedIdx draw first ∈ channel.enabledIdx := by
  simp only [selectedIdx]
  split
  · have inside := Nat.mod_lt draw (length_pos_of_mem member)
    rw [getD_eq_getElem?_getD, getElem?_eq_getElem inside]
    exact getElem_mem inside
  · cases polled : channel.nextPolled with
    | none => exact member
    | some => exact nextPolled_mem polled
  · exact member

theorem getNextEnabledKey_ok {draw : Nat}
    (found : (channel.getNextEnabledKey draw).1 = .ok (key, index)) :
    channel.keys[index]? = some key ∧ channel.getStatus index = channelStatusEnabled := by
  simp only [getNextEnabledKey] at found
  split at found
  · cases found
  rename_i first others enabled
  cases found
  have member := @selectedIdx_mem channel draw first (enabled ▸ mem_cons_self)
  obtain ⟨inside, isEnabled⟩ := mem_enabledIdx.mp member
  exact ⟨by simp [inside], isEnabled⟩

theorem getNextEnabledKey_state (channel : KeyChannel) (draw : Nat) :
    ∃ index, (channel.getNextEnabledKey draw).2 =
      { channel with multiKeyPollingIndex := index } := by
  simp only [getNextEnabledKey]
  split
  · exact ⟨_, rfl⟩
  · split
    · exact ⟨_, rfl⟩
    · exact ⟨_, rfl⟩

/-! ## Updates -/

/-- What an update does: nothing, or it sets the status of the channel, or it sets that of a
position, and then the channel is disabled unless an enabled key is left. -/
theorem handlerMultiKeyUpdate_cases (channel : KeyChannel) (call : KeyCall) :
    let next := channel.handlerMultiKeyUpdate call
    (next = channel ∨ next = { channel with status := call.status } ∧
        (channel.keys = [] ∨ call.usingKey = "")) ∧ call.usingKey ∉ channel.keys ∨
    ∃ index, channel.keys[index]? = some call.usingKey ∧ next.keys = channel.keys ∧
      (∀ other, next.getStatus other =
        if other = index then call.status else channel.getStatus other) ∧
      (next.hasEnabledMultiKey = false ∧ next.status = channelStatusAutoDisabled ∨
        next.hasEnabledMultiKey = true ∧ next.status =
          if call.status = channelStatusEnabled then channelStatusEnabled else channel.status) := by
  simp only [handlerMultiKeyUpdate]
  split
  next none => exact .inl ⟨.inr ⟨rfl, .inl none⟩, none ▸ not_mem_nil⟩
  · split
    next absent =>
      refine .inl ⟨?_, idxOf?_eq_none_iff.mp absent⟩
      split
      · exact .inl rfl
      next unnamed => exact .inr ⟨rfl, .inr (not_not.mp unnamed)⟩
    rename_i index position
    obtain ⟨inside, same, -⟩ := idxOf?_eq_some_iff.mp position
    have reads : ∀ other, (channel.setStatus index call.status).getStatus other =
        if other = index then call.status else channel.getStatus other := by
      intro other
      simp only [getStatus, setStatus, Function.update_apply]
      split
      · split
        next enabled => exact enabled.symm
        · rfl
      · rfl
    refine .inr ⟨index, List.getElem?_eq_some_iff.mpr ⟨inside, same⟩, ?_⟩
    split
    next none => exact ⟨rfl, reads, .inl ⟨none, rfl⟩⟩
    rename_i left
    have enabled := eq_true_of_ne_false left
    split
    · exact ⟨rfl, reads, .inr ⟨enabled, rfl⟩⟩
    · exact ⟨rfl, reads, .inr ⟨enabled, rfl⟩⟩

def Usable (channel : KeyChannel) : Prop :=
  channel.status = channelStatusEnabled → channel.hasEnabledMultiKey = true

/-- A call that enables the channel without naming one of its keys finds an enabled one. -/
def Careful (channel : KeyChannel) (call : KeyCall) : Prop :=
  call.status = channelStatusEnabled → call.usingKey ∉ channel.keys →
    (channel.keys = [] ∨ call.usingKey = "") → channel.hasEnabledMultiKey = true

theorem Usable.update (usable : channel.Usable) (careful : channel.Careful call) :
    (channel.updateChannelStatus cached call).Usable := by
  rw [updateChannelStatus]
  split
  · exact usable
  rcases handlerMultiKeyUpdate_cases channel call with ⟨same | ⟨set, unnamed⟩, missing⟩ |
    ⟨index, -, -, -, ⟨-, disabled⟩ | ⟨enabled, -⟩⟩
  · rwa [same]
  · rw [set]
    exact fun enables => careful enables missing unnamed
  · exact fun enables => absurd (disabled.symm.trans enables) (by decide)
  · exact fun _ => enabled

/-- No enabled channel is without a usable key, in the cache and in the database, as long as calls
without a key do not enable a channel whose keys are all disabled. -/
theorem enabled_channel_has_key (cached : Bool) {channel : KeyChannel} {calls : List KeyCall}
    (initially : channel.Usable)
    (careful : Along Careful (updateChannelStatus · cached) channel calls) :
    let after := run (updateChannelStatus · cached) channel calls
    after.status = channelStatusEnabled → after.hasEnabledMultiKey = true ∧
      ∀ draw, ∃ found, (after.getNextEnabledKey draw).1 = .ok found := by
  intro after enabled
  have usable := run_invariant (fun _ _ usable careful => Usable.update usable careful) initially
    careful
  refine ⟨usable enabled, fun draw => ?_⟩
  obtain ⟨_, member⟩ := hasEnabledMultiKey_iff.mp (usable enabled)
  simp only [getNextEnabledKey]
  split
  next none => exact absurd member (none ▸ not_mem_nil)
  · exact ⟨_, rfl⟩

/-- Both keys fail, one is enabled again, and `EnableChannelByTag` enables the channel. -/
theorem enabled_channel_has_key_twoKeys :
    ∃ found, ((run (updateChannelStatus · true) { keys := ["a", "b"] }
      [⟨"a", 3⟩, ⟨"b", 3⟩, ⟨"b", 1⟩, ⟨"", 1⟩]).getNextEnabledKey 0).1 = .ok found := by
  refine (enabled_channel_has_key true (fun _ => by decide) ?_ rfl).2 0
  refine ⟨?_, ?_, ?_, ?_, trivial⟩
  all_goals
    unfold Careful
    decide

/-- The only key fails, and `EnableChannelByTag` enables the channel. -/
theorem enabled_channel_without_key :
    let channel : KeyChannel := { keys := ["a"] }
    let after := run (updateChannelStatus · false) channel [⟨"a", 3⟩, ⟨"", 1⟩]
    after.status = channelStatusEnabled ∧ after.hasEnabledMultiKey = false ∧
      (after.getNextEnabledKey 0).1 = .error "no enabled keys" :=
  ⟨rfl, rfl, rfl⟩

/-! ## A disabled key -/

def Off (channel : KeyChannel) (key : String) : Prop :=
  ∀ index, channel.keys[index]? = some key → channel.getStatus index ≠ channelStatusEnabled

theorem Off.update (off : channel.Off key)
    (kept : call.usingKey = key → call.status ≠ channelStatusEnabled) :
    (channel.handlerMultiKeyUpdate call).Off key := by
  rcases handlerMultiKeyUpdate_cases channel call with ⟨same | ⟨set, -⟩, -⟩ |
    ⟨index, here, keys, reads, -⟩
  · rwa [same]
  · rw [set]
    exact off
  · intro other position
    rw [keys] at position
    rw [reads]
    split
    next same => exact kept (Option.some.inj (here.symm.trans (same ▸ position)))
    · exact off other position

theorem eq_of_count_eq_one {keys : List String} (once : keys.count key = 1) {left right : Nat}
    (onLeft : keys[left]? = some key) (onRight : keys[right]? = some key) : left = right := by
  have apart : ∀ {left right : Nat}, keys[left]? = some key → keys[right]? = some key →
      ¬left < right := by
    intro left right onLeft onRight before
    obtain ⟨insideLeft, atLeft⟩ := List.getElem?_eq_some_iff.mp onLeft
    obtain ⟨insideRight, atRight⟩ := List.getElem?_eq_some_iff.mp onRight
    have twice : keys.Duplicate key := duplicate_iff_exists_distinct_get.mpr
      ⟨⟨left, insideLeft⟩, ⟨right, insideRight⟩, before, atLeft.symm, atRight.symm⟩
    have := duplicate_iff_two_le_count.mp twice
    omega
  exact Nat.le_antisymm (not_lt.mp (apart onRight onLeft)) (not_lt.mp (apart onLeft onRight))

theorem off_of_update (once : channel.keys.count call.usingKey = 1)
    (disables : call.status ≠ channelStatusEnabled) :
    (channel.handlerMultiKeyUpdate call).Off call.usingKey := by
  rcases handlerMultiKeyUpdate_cases channel call with ⟨-, missing⟩ | ⟨index, here, keys, reads, -⟩
  · exact absurd (count_pos_iff.mp (once ▸ Nat.one_pos)) missing
  · intro other position
    rw [keys] at position
    rw [reads, if_pos (eq_of_count_eq_one once position here)]
    exact disables

theorem keys_step (op : Op) : (channel.step cached op).keys = channel.keys := by
  cases op with
  | pick draw =>
    obtain ⟨_, same⟩ := getNextEnabledKey_state channel draw
    rw [step, same]
  | update call =>
    rw [step, updateChannelStatus]
    split
    · rfl
    · rcases handlerMultiKeyUpdate_cases channel call with ⟨same | ⟨set, -⟩, -⟩ | ⟨-, -, keys, -⟩
      · rw [same]
      · rw [set]
      · exact keys

theorem Off.step {op : Op} (off : channel.Off key)
    (kept : ∀ call, op = .update call → call.usingKey = key →
      call.status ≠ channelStatusEnabled) : (channel.step cached op).Off key := by
  cases op with
  | pick draw =>
    obtain ⟨_, same⟩ := getNextEnabledKey_state channel draw
    rw [KeyChannel.step, same]
    exact off
  | update call =>
    rw [KeyChannel.step, updateChannelStatus]
    split
    · exact off
    · exact off.update (kept call rfl)

def Failing (channel : KeyChannel) (reported : List String) : Prop :=
  channel.status = channelStatusAutoDisabled ∨
    (∀ key ∈ reported, key ∈ channel.keys → channel.Off key) ∧
      ((∀ key ∈ reported, key ∉ channel.keys) ∨ channel.hasEnabledMultiKey = true)

theorem Failing.update {reported : List String} (distinct : channel.keys.Nodup)
    (failing : channel.Failing reported) (failed : call.status = channelStatusAutoDisabled) :
    (channel.updateChannelStatus cached call).Failing (reported ++ [call.usingKey]) := by
  rw [updateChannelStatus]
  split
  next same => exact .inl (same.2.trans failed)
  · rcases handlerMultiKeyUpdate_cases channel call with ⟨same | ⟨set, -⟩, missing⟩ |
      ⟨index, here, keys, -, ⟨-, disabled⟩ | ⟨enabled, status⟩⟩
    · rw [same]
      simpa only [Failing, forall_mem_append, forall_mem_singleton, missing,
        not_false_eq_true, false_implies, and_true] using failing
    · exact .inl (set ▸ failed)
    · exact .inl disabled
    · rw [failed, if_neg (by decide)] at status
      refine failing.imp status.trans fun rest => ⟨?_, .inr enabled⟩
      rw [forall_mem_append, forall_mem_singleton, keys]
      have disables : call.status ≠ channelStatusEnabled := failed ▸ (by decide)
      exact ⟨fun key member listed => (rest.1 key member listed).update fun _ => disables,
        fun listed => off_of_update (count_eq_one_of_mem distinct listed) disables⟩

theorem failing_run (distinct : channel.keys.Nodup) {ops : List Op}
    (failed : ∀ call, .update call ∈ ops → call.status = channelStatusAutoDisabled) :
    (run (step cached) channel ops).keys = channel.keys ∧
      (run (step cached) channel ops).Failing (ops.filterMap Op.key?) := by
  induction ops using reverseRec with
  | nil => simp [Failing]
  | append_singleton ops op ih =>
    obtain ⟨keys, failing⟩ := ih fun call member => failed call (mem_append_left _ member)
    rw [run_append, run_cons, run_nil, filterMap_append]
    refine ⟨(keys_step op).trans keys, ?_⟩
    cases op with
    | pick draw =>
      obtain ⟨_, same⟩ := getNextEnabledKey_state (run (step cached) channel ops) draw
      rw [step, same, filterMap_cons_none rfl, filterMap_nil, append_nil]
      exact failing
    | update call => exact failing.update (keys ▸ distinct) (failed call (by simp))

/-- After an update has disabled a key, no selection returns it until an update enables it; and once
every key has been reported the channel is disabled. -/
theorem disabled_key_not_returned (cached : Bool) (channel : KeyChannel) :
    (∀ (key : String) (status : Int) (later : List Op), channel.keys.count key = 1 →
      status ≠ channelStatusEnabled → (cached = true ∨ channel.status ≠ status) →
      (∀ call, .update call ∈ later → call.usingKey = key → call.status ≠ channelStatusEnabled) →
      ∀ draw index, ((run (step cached) (channel.step cached (.update ⟨key, status⟩))
        later).getNextEnabledKey draw).1 ≠ .ok (key, index)) ∧
    ∀ ops : List Op, channel.keys.Nodup → channel.keys ≠ [] →
      (∀ call, .update call ∈ ops → call.status = channelStatusAutoDisabled) →
      (∀ key ∈ channel.keys, key ∈ ops.filterMap Op.key?) →
      (run (step cached) channel ops).status = channelStatusAutoDisabled := by
  constructor
  · intro key status later once disables effective kept draw index found
    have first : (channel.step cached (.update ⟨key, status⟩)).Off key := by
      rw [step, updateChannelStatus, if_neg]
      · exact off_of_update once disables
      · exact fun skipped => effective.elim (fun isCached => by simp [isCached] at skipped)
          fun differs => differs skipped.2
    have off := @run_invariant_of_mem _ _ (step cached) (Off · key) later
      (fun state op member off => off.step fun call same => kept call (same ▸ member)) _ first
    obtain ⟨position, enabled⟩ := getNextEnabledKey_ok found
    exact off index position enabled
  · intro ops distinct some failed all
    obtain ⟨keys, disabled | ⟨off, absent | left⟩⟩ :=
      @failing_run channel cached distinct ops failed
    · exact disabled
    · obtain ⟨key, listed⟩ := exists_mem_of_ne_nil _ some
      exact absurd (keys ▸ listed) (absent key (all key listed))
    · obtain ⟨index, member⟩ := hasEnabledMultiKey_iff.mp left
      obtain ⟨inside, enabled⟩ := mem_enabledIdx.mp member
      have listed := getElem_mem inside
      exact absurd enabled (off _ (all _ (keys ▸ listed)) listed index
        (getElem?_eq_getElem inside))

/-- After the only key of its text has failed, another key fails and is enabled again; with the
first report of that key the channel is disabled. -/
theorem disabled_key_not_returned_twoKeys :
    let channel : KeyChannel := { keys := ["a", "b", "b"] }
    (∀ draw index, ((run (step true) (channel.step true (.update ⟨"a", 3⟩))
      [.pick 0, .update ⟨"b", 3⟩, .update ⟨"b", 1⟩]).getNextEnabledKey draw).1 ≠ .ok ("a", index)) ∧
    (run (step false) { keys := ["a", "b"] } [.update ⟨"a", 3⟩, .pick 0, .update ⟨"b", 3⟩]).status =
      channelStatusAutoDisabled :=
  ⟨(disabled_key_not_returned true _).1 "a" 3 _ (by decide) (by decide) (.inl rfl) (by simp),
    (disabled_key_not_returned false _).2 _ (by decide) (by decide) (by simp) (by decide)⟩

/-- A key that is listed twice is returned after it has been disabled, and the channel stays
enabled after its only key text has been reported. -/
theorem disabled_key_returned :
    let channel : KeyChannel := { keys := ["a", "a"] }
    let after := channel.step false (.update ⟨"a", channelStatusAutoDisabled⟩)
    (after.getNextEnabledKey 0).1 = .ok ("a", 1) ∧ after.status = channelStatusEnabled :=
  ⟨rfl, rfl⟩

/-! ## Polling -/

/-- A call of `GetNextEnabledKey` on the channel of the memory cache, or on a copy of it. -/
structure Pick where
  draw : Nat := 0
  cached : Bool

/-- The polling index is read from the cache and written to the channel of the call. -/
def pick (channel : KeyChannel) (call : Pick) : KeyChannel :=
  if call.cached then (channel.getNextEnabledKey call.draw).2 else channel

/-- The results of calls, one after the other. -/
def picks : KeyChannel → List Pick → List (Except String (String × Nat))
  | _, [] => []
  | channel, call :: calls =>
    (channel.getNextEnabledKey call.draw).1 :: (channel.pick call).picks calls

/-- The enabled positions in the order in which polling reaches them. -/
def turns (channel : KeyChannel) : List Nat :=
  ((range channel.keys.length).rotate channel.start).filter
    (channel.getStatus · = channelStatusEnabled)

theorem nextPolled_eq (channel : KeyChannel) : channel.nextPolled = channel.turns.head? := by
  rw [turns, head?_filter]
  refine congrArg (find? _) (ext_getElem (by simp) fun step _ _ => ?_)
  rw [getElem_map, getElem_rotate, getElem_range, getElem_range, length_range, Nat.add_comm]

theorem turns_perm (channel : KeyChannel) : channel.turns.Perm channel.enabledIdx :=
  (rotate_perm _ _).filter _

/-- Polling picks the position whose turn it is, which is then the last one. -/
theorem getNextEnabledKey_polling (polling : channel.multiKeyMode = .polling)
    {others : List Nat} (turn : channel.turns = index :: others) (draw : Nat) :
    ∃ next, channel.getNextEnabledKey draw =
        (.ok (channel.keys.getD index "", index),
          { channel with multiKeyPollingIndex := next }) ∧
      { channel with multiKeyPollingIndex := next }.turns = others ++ [index] := by
  have polled : channel.nextPolled = some index := by rw [nextPolled_eq, turn, head?_cons]
  refine ⟨((index + 1) % channel.keys.length : Nat), ?_, ?_⟩
  · rw [getNextEnabledKey]
    split
    next none => exact absurd (nextPolled_mem polled) (none ▸ not_mem_nil)
    · simp only [selectedIdx, polling, polled, Option.getD_some, Option.isSome_some, and_self,
        if_true]
      rfl
  · obtain ⟨before, after, parts, disabled, enabled, rest⟩ := filter_eq_cons_iff.mp turn
    have size : channel.keys.length = before.length + (after.length + 1) := by
      simpa using congrArg length parts
    have here : index = (before.length + channel.start) % channel.keys.length := by
      have found := congrArg (·[before.length]?) parts
      have inside := Nat.mod_lt (before.length + channel.start)
        (show 0 < channel.keys.length by omega)
      have first : before.length < channel.keys.length := by omega
      simpa [getElem?_rotate, first, inside, eq_comm] using found
    have begins : start { channel with
        multiKeyPollingIndex := ((index + 1) % channel.keys.length : Nat) } =
        (index + 1) % channel.keys.length :=
      if_pos ⟨Int.natCast_nonneg _, Int.ofNat_lt.mpr (Nat.mod_lt _ (by omega))⟩
    have rotated : (range channel.keys.length).rotate ((index + 1) % channel.keys.length) =
        after ++ (before ++ [index]) := by
      have := rotate_append_length_eq (before ++ [index]) after
      rw [append_assoc, singleton_append, ← parts, rotate_rotate, ← rotate_mod] at this
      rw [← this, here, Nat.mod_add_mod, length_append, length_singleton, length_range]
      congr 2
      omega
    rw [turns, begins, rotated]
    change filter (channel.getStatus · = channelStatusEnabled) _ = _
    rw [filter_append, filter_append, rest, filter_eq_nil_iff.mpr disabled, filter_singleton,
      enabled]
    rfl

theorem picks_polling {calls : List Pick} (cached : ∀ call ∈ calls, call.cached) :
    ∀ {channel : KeyChannel} {polled later : List Nat}, channel.multiKeyMode = .polling →
      channel.turns = polled ++ later → calls.length = polled.length →
      channel.picks calls = polled.map fun index => .ok (channel.keys.getD index "", index) := by
  induction calls with
  | nil =>
    intro _ polled _ _ _ size
    rw [eq_nil_of_length_eq_zero size.symm]
    rfl
  | cons call calls ih =>
    intro channel polled later polling turns size
    obtain ⟨here, cached⟩ := forall_mem_cons.mp cached
    cases polled with
    | nil => cases size
    | cons index polled =>
      obtain ⟨next, picked, turned⟩ := getNextEnabledKey_polling polling turns call.draw
      rw [picks, pick, if_pos here, picked]
      exact congrArg _ (ih cached polling (turned.trans (append_assoc _ _ [index]))
        (Nat.succ.inj size))

/-- Polling over the cached channel is a fair round robin: after any calls and any change of the
statuses, as many calls as there are enabled positions return each of them once. -/
theorem polling_round_robin {channel : KeyChannel} (polling : channel.multiKeyMode = .polling)
    (earlier : List Pick) (statuses : Nat → Option Int) {calls : List Pick}
    (cached : ∀ call ∈ calls, call.cached) :
    let current := { run pick channel earlier with multiKeyStatusList := statuses }
    calls.length = current.enabledIdx.length →
    ∃ positions : List Nat, positions.Perm current.enabledIdx ∧
      current.picks calls = positions.map fun index => .ok (channel.keys.getD index "", index) := by
  intro current window
  have kept : (run pick channel earlier).multiKeyMode = .polling ∧
      (run pick channel earlier).keys = channel.keys := by
    apply @run_invariant_of_all _ _ pick
      (fun after => after.multiKeyMode = .polling ∧ after.keys = channel.keys)
    · intro after call kept
      obtain ⟨_, same⟩ := getNextEnabledKey_state after call.draw
      rw [pick, same]
      split
      · exact kept
      · exact kept
    · exact ⟨polling, rfl⟩
  refine ⟨current.turns, turns_perm current, ?_⟩
  rw [← kept.2]
  exact picks_polling cached kept.1 (append_nil _).symm
    (window.trans (turns_perm current).length_eq.symm)

theorem polling_round_robin_two :
    ∃ positions : List Nat, positions.Perm [0, 2] ∧
      (⟨["a", "b", "c"], 1, (if · = 1 then some 3 else none), .polling, 7⟩ : KeyChannel).picks
        [⟨0, true⟩, ⟨0, true⟩] =
      positions.map fun index => .ok (["a", "b", "c"].getD index "", index) :=
  @polling_round_robin ⟨["a", "b", "c"], 1, fun _ => none, .polling, 7⟩ rfl []
    (if · = 1 then some 3 else none) [⟨0, true⟩, ⟨0, true⟩] (by decide) rfl

/-- Calls on copies of the channel all return the same position. -/
theorem polling_stuck_on_copies :
    (⟨["a", "b"], 1, fun _ => none, .polling, 0⟩ : KeyChannel).picks [⟨0, false⟩, ⟨0, false⟩] =
      [.ok ("a", 0), .ok ("a", 0)] :=
  rfl

end KeyChannel

end StuHelper.Routing
