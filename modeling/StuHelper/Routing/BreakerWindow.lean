import Mathlib.Algebra.BigOperators.Fin
import Mathlib.Data.List.Induction
import StuHelper.Routing.Breaker

/-!
# The window of a breaker

The ring has 12 slots, which are emptied only when a sample of another epoch falls on them.  Samples
may come late by up to 11 epochs.  A slot then never holds an epoch that has left the window and one
that has not, and the slots in the window count the samples of the last 12 epochs.
-/

namespace StuHelper.Routing

open Lib List

def BreakerBucket.counts (bucket : BreakerBucket) : Nat × Nat × Nat :=
  (bucket.total, bucket.fatal, bucket.transient)

structure BreakerSample where
  now : Int
  success : Bool
  fatal : Bool

namespace BreakerSample

def counts (sample : BreakerSample) : Nat × Nat × Nat :=
  (1, (!sample.success && sample.fatal).toNat, (!sample.success && !sample.fatal).toNat)

def epoch (config : BreakerConfig) (sample : BreakerSample) : Int := config.bucketEpoch sample.now

end BreakerSample

namespace ChannelBreaker

section Records

variable (config : BreakerConfig) (breaker : ChannelBreaker)

def record (sample : BreakerSample) : ChannelBreaker :=
  breaker.recordLocked config sample.now sample.success sample.fatal

theorem slot_iff {epoch : Int} {slot : Fin 12} :
    Fin.ofNat 12 (epoch % 12).toNat = slot ↔ epoch % 12 = slot := by
  rw [Fin.ext_iff, Fin.val_ofNat]
  omega

theorem buckets_record (slot : Fin 12) (sample : BreakerSample) :
    if sample.epoch config % 12 = slot then
      ((breaker.record config sample).buckets slot).epoch = sample.epoch config ∧
        ((breaker.record config sample).buckets slot).counts =
          (if (breaker.buckets slot).epoch = sample.epoch config then
            (breaker.buckets slot).counts else 0) + sample.counts
    else (breaker.record config sample).buckets slot = breaker.buckets slot := by
  rw [record, recordLocked, ← BreakerSample.epoch]
  split
  next here =>
    rw [slot_iff.mpr here]
    simp only [Function.update_self]
    split
    next => simp [BreakerBucket.counts, BreakerSample.counts]
    next current => simp [BreakerBucket.counts, BreakerSample.counts, not_not.mp current]
  next away => exact Function.update_of_ne (fun equal => away (slot_iff.mp equal.symm)) _ _

/-- What a slot should have in a window that begins with an epoch. -/
def slotCounts (slot first : Int) (samples : List BreakerSample) : Nat × Nat × Nat :=
  (samples.map fun sample => if sample.epoch config % 12 = slot ∧ first ≤ sample.epoch config then
    sample.counts else 0).sum

end Records

variable {config : BreakerConfig} {breaker : ChannelBreaker} {samples : List BreakerSample}
  (cleared : breaker.buckets = fun _ => {})
  (close : samples.Pairwise fun earlier later => earlier.epoch config ≤ later.epoch config + 11)

include cleared close

theorem slot_counts {r : Int} (past : ∀ sample ∈ samples, sample.epoch config ≤ r)
    (slot : Fin 12) :
    (if r - 11 ≤ ((samples.foldl (record config) breaker).buckets slot).epoch then
        ((samples.foldl (record config) breaker).buckets slot).counts else 0) =
      slotCounts config slot (r - 11) samples := by
  induction samples using List.reverseRecOn generalizing r with
  | nil =>
    rw [foldl_nil, cleared]
    exact ite_self _
  | append_singleton samples last ih =>
    obtain ⟨before, -, lags⟩ := pairwise_append.mp close
    obtain ⟨earlier, now⟩ := forall_mem_append.mp past
    have lag : ∀ sample ∈ samples, sample.epoch config ≤ last.epoch config + 11 :=
      fun sample member => lags sample member last mem_cons_self
    have lastPast := now last mem_cons_self
    have recorded := buckets_record config (samples.foldl (record config) breaker) slot last
    have concat : slotCounts config slot (r - 11) (samples ++ [last]) =
        slotCounts config slot (r - 11) samples +
          if last.epoch config % 12 = slot ∧ r - 11 ≤ last.epoch config then last.counts
          else 0 := by
      simp [slotCounts]
    rw [foldl_append, foldl_cons, foldl_nil, concat]
    have counted := @ih
    generalize (samples.foldl (record config) breaker) = old at recorded counted ⊢
    split at recorded
    next here =>
      have none {first : Int} (above : last.epoch config < first) :
          slotCounts config slot first samples = 0 := by
        apply sum_eq_zero
        intro count listed
        obtain ⟨sample, member, rfl⟩ := mem_map.mp listed
        have bound := lag sample member
        apply if_neg
        omega
      rw [recorded.1, recorded.2]
      by_cases inWindow : r - 11 ≤ last.epoch config
      · -- of the slot, only the epoch of the last sample is in the window
        have same : slotCounts config slot (r - 11) samples =
            slotCounts config slot (last.epoch config + 11 - 11) samples := by
          refine congrArg sum (map_congr_left fun sample member => if_congr ?_ rfl rfl)
          have bound := earlier sample member
          omega
        have newer := counted before (r := last.epoch config + 1 + 11)
          fun sample member => (lag sample member).trans (by omega)
        rw [none (by omega)] at newer
        rw [same, ← counted before lag, if_pos inWindow,
          @if_pos (_ ∧ _) _ ⟨here, inWindow⟩]
        by_cases current : (old.buckets slot).epoch = last.epoch config
        · rw [if_pos current, if_pos (by omega)]
        · rw [if_neg current]
          exact congrArg (· + _) (newer.symm.trans (if_congr (by omega) rfl rfl))
      · rw [if_neg inWindow, none (by omega),
          @if_neg (_ ∧ _) _ fun both => inWindow both.2]
        rfl
    next away =>
      rw [recorded, counted before earlier, @if_neg (_ ∧ _) _ fun both => away both.1, add_zero]

/-- A window counts the samples of the last 12 epochs. -/
theorem window_slides {now : Int}
    (past : ∀ sample ∈ samples, sample.epoch config ≤ config.bucketEpoch now) :
    (((samples.foldl (record config) breaker).windowLocked config now).map
        BreakerBucket.counts).sum =
      ((samples.filter fun sample => config.bucketEpoch now - 11 ≤ sample.epoch config).map
        BreakerSample.counts).sum := by
  have parts {α : Type} (test : α → Prop) [DecidablePred test] (counts : α → Nat × Nat × Nat)
      (items : List α) : ((items.filter test).map counts).sum =
        (items.map fun item => if test item then counts item else 0).sum := by
    simp [sum_map_ite]
  rw [windowLocked, parts, parts, map_map]
  simp only [Function.comp_def, slot_counts cleared close past]
  clear close past
  induction samples with
  | nil => simp [slotCounts]
  | cons sample samples ih =>
    simp only [slotCounts, map_cons, sum_cons, sum_map_add] at ih ⊢
    rw [ih, ← Fin.sum_univ_def]
    simp [← slot_iff, ite_and]

end ChannelBreaker

/-- Samples of the epochs 5, 17, which has the same slot, and 6, which is late. -/
theorem window_slides_late :
    ((([⟨50000000000, false, true⟩, ⟨170000000000, true, false⟩, ⟨60000000000, false, false⟩].foldl
      (ChannelBreaker.record {}) (BreakerConfig.newBreaker {})).windowLocked {} 170000000000).map
        BreakerBucket.counts).sum = (2, 0, 1) :=
  (ChannelBreaker.window_slides rfl (by decide) (by decide)).trans (by decide)

end StuHelper.Routing
