import Mathlib.Data.Finset.Card
import StuHelper.Routing.Channel

/-!
# The channel table, the abilities and the memory cache

The database has the channels, and an ability for each group and model that a channel is listed
under.  The memory cache has a copy of the channels, and for each group and model the ids of the
enabled ones, built from the channels themselves.
-/

namespace StuHelper.Routing

open Lib List

/-! ## The database -/

/-- `model.Ability`. -/
structure Ability where
  group : String
  model : String
  channelId : Int
  enabled : Bool
  priority : Int
  weight : Nat
  deriving DecidableEq, Repr

/-- The two tables.  The ids of the channels are primary keys that are counted from 1. -/
structure Database where
  channels : List Channel
  nodup : (channels.map Channel.id).Nodup
  positive : ∀ channel ∈ channels, 0 < channel.id
  abilities : List Ability

/-- The abilities that are enabled are those of the enabled channels: one for each group and each
routable model, with the priority of the channel. -/
structure Database.Exact (db : Database) : Prop where
  sound : ∀ ability ∈ db.abilities, ability.enabled = true →
    ∃ channel ∈ db.channels, channel.isEnabled = true ∧ ability.channelId = channel.id ∧
      ability.group ∈ channel.getGroups ∧ ability.model ∈ channel.getRoutableModels ∧
      ability.priority = channel.getPriority
  complete : ∀ channel ∈ db.channels, channel.isEnabled = true →
    ∀ group ∈ channel.getGroups, ∀ model ∈ channel.getRoutableModels,
      ∃ ability ∈ db.abilities, ability.enabled = true ∧ ability.group = group ∧
        ability.model = model ∧ ability.channelId = channel.id

/-! ## The cache -/

/-- `group2model2channels`. -/
abbrev Lists := String → String → List Int

/-- `group2model2channels` and `channelsIDM`. -/
structure Cache where
  lists : Lists
  byId : Int → Option Channel
  keyed : ∀ {id : Int} {channel : Channel}, byId id = some channel → channel.id = id

/-- Append a channel to the list of a group and a model. -/
def listUnder (id : Int) (group : String) (lists : Lists) (model : String) : Lists :=
  Function.update lists group (Function.update (lists group) model (lists group model ++ [id]))

def listChannel (lists : Lists) (channel : Channel) : Lists :=
  channel.getGroups.foldl (fun lists group =>
    channel.getRoutableModels.foldl (listUnder channel.id group) lists) lists

def findChannel (channels : List Channel) (id : Int) : Option Channel :=
  channels.find? fun channel => channel.id = id

variable {channels : List Channel} {id : Int} {channel : Channel}

theorem findChannel_id (found : findChannel channels id = some channel) : channel.id = id := by
  have passes := find?_some found
  exact of_decide_eq_true passes

/-- The cache that `InitChannelCache` builds from the channels it has read. -/
def initChannelCache (channels : List Channel) : Cache where
  lists := fun group model =>
    ((channels.filter Channel.isEnabled).foldl listChannel (fun _ _ => []) group
      model).insertionSort fun left right =>
        ((findChannel channels right).elim 0 Channel.getPriority) ≤
          (findChannel channels left).elim 0 Channel.getPriority
  byId := findChannel channels
  keyed := findChannel_id

/-! ## What the lists hold -/

section Lists

variable {group : String} {model : String}

theorem listUnder_apply (id : Int) (under : String) (lists : Lists) (name : String) :
    listUnder id under lists name group model =
      lists group model ++ if group = under ∧ model = name then [id] else [] := by
  rw [listUnder]
  by_cases sameGroup : group = under
  · cases sameGroup
    rw [Function.update_self]
    by_cases sameModel : model = name
    · cases sameModel
      rw [Function.update_self, if_pos ⟨rfl, rfl⟩]
    · rw [Function.update_of_ne sameModel, if_neg fun both => sameModel both.2, append_nil]
  · rw [Function.update_of_ne sameGroup, if_neg fun both => sameGroup both.1, append_nil]

theorem foldl_listUnder_apply (id : Int) (under : String) (names : List String) (lists : Lists) :
    names.foldl (listUnder id under) lists group model =
      lists group model ++ if group = under then replicate (names.count model) id else [] := by
  induction names generalizing lists with
  | nil => simp
  | cons name names ih =>
    rw [foldl_cons, ih, listUnder_apply]
    by_cases sameGroup : group = under
    · by_cases sameModel : model = name
      · simp [sameGroup, sameModel, replicate_succ]
      · simp [sameGroup, sameModel, Ne.symm sameModel]
    · simp [sameGroup]

theorem listChannel_apply (lists : Lists) (channel : Channel) :
    listChannel lists channel group model = lists group model ++ replicate
        (channel.getGroups.count group * channel.getRoutableModels.count model) channel.id := by
  rw [listChannel]
  generalize channel.getGroups = groups
  induction groups generalizing lists with
  | nil => simp
  | cons under groups ih =>
    rw [foldl_cons, ih, foldl_listUnder_apply]
    by_cases same : group = under
    · rw [if_pos same, same, count_cons_self, append_assoc, replicate_append_replicate,
        Nat.succ_mul, Nat.add_comm]
    · rw [if_neg same, append_nil, count_cons_of_ne (Ne.symm same)]

theorem foldl_listChannel_apply (channels : List Channel) (lists : Lists) :
    channels.foldl listChannel lists group model =
      lists group model ++ channels.flatMap fun channel => replicate
        (channel.getGroups.count group * channel.getRoutableModels.count model) channel.id := by
  induction channels generalizing lists with
  | nil => simp
  | cons channel channels ih =>
    rw [foldl_cons, ih, listChannel_apply, flatMap_cons, append_assoc]

theorem mem_lists :
    id ∈ (initChannelCache channels).lists group model ↔
      ∃ channel ∈ channels, channel.isEnabled = true ∧ group ∈ channel.getGroups ∧
        model ∈ channel.getRoutableModels ∧ channel.id = id := by
  simp only [initChannelCache, mem_insertionSort, foldl_listChannel_apply, nil_append,
    mem_flatMap, mem_filter, mem_replicate, Nat.mul_ne_zero_iff, ne_eq,
    count_eq_zero, not_not]
  constructor
  · rintro ⟨channel, ⟨member, enabled⟩, ⟨inGroup, inModels⟩, rfl⟩
    exact ⟨channel, member, enabled, inGroup, inModels, rfl⟩
  · rintro ⟨channel, member, enabled, inGroup, inModels, rfl⟩
    exact ⟨channel, ⟨member, enabled⟩, ⟨inGroup, inModels⟩, rfl⟩

end Lists

/-- A channel of a table without repeated ids is found under its id. -/
theorem findChannel_of_mem (nodup : (channels.map Channel.id).Nodup)
    (member : channel ∈ channels) :
    findChannel channels channel.id = some channel := by
  cases found : findChannel channels channel.id with
  | none =>
    have absent := find?_eq_none.mp found channel member
    exact absurd (decide_eq_true rfl) absent
  | some =>
    have listed := mem_of_find?_eq_some found
    rw [inj_on_of_nodup_map nodup listed member (findChannel_id found)]

/-! ## Excluded channels -/

/-- How many ids are not excluded. -/
def remaining (ids exclude : List Int) : Nat := (ids.toFinset \ exclude.toFinset).card

theorem remaining_le (ids exclude : List Int) : remaining ids exclude ≤ ids.length :=
  (Finset.card_le_card Finset.sdiff_subset).trans ids.toFinset_card_le

theorem remaining_cons_lt {ids exclude : List Int} (member : id ∈ ids)
    (kept : id ∉ exclude) : remaining ids (id :: exclude) < remaining ids exclude := by
  rw [remaining, remaining, toFinset_cons, Finset.sdiff_insert]
  apply Finset.card_erase_lt_of_mem
  rw [Finset.mem_sdiff, mem_toFinset, mem_toFinset]
  exact ⟨member, kept⟩

end StuHelper.Routing
