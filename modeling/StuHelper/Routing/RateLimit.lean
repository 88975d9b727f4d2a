import Mathlib.Tactic.Linarith
import StuHelper.Lib.Run

/-!
# The rate limit of successful requests

With Redis the times of the successful requests are a list that expires.  Without it every request
is put into a queue of its own key while it is checked.  Times are in milliseconds, and the total
limit, which is a token bucket in Redis, is off.
-/

namespace StuHelper.Routing

open Lib List

structure LimitedRequest where
  arrives : Int
  ends : Int
  /-- The status is below 400. -/
  succeeds : Bool

/-- A list in Redis, newest first, and the time at which it expires. -/
structure RedisList where
  times : List Int := []
  expires : Int := 0

/-- The queues of the two keys, oldest first. -/
structure MemoryLimiter where
  check : Option (List Int) := none
  success : Option (List Int) := none

section Handlers

variable (maxCount : Nat) (duration : Int)

def RedisList.live (key : RedisList) (now : Int) : List Int :=
  if now < key.expires then key.times else []

def checkRedisRateLimit (key : RedisList) (now : Int) : Bool × RedisList :=
  if maxCount = 0 then (true, key)
  else if (key.live now).length < maxCount then (true, key)
  else if (now - (key.live now).getLastD 0) / 1000 < duration then
    (false, { key with expires := now + duration * 1000 })
  else (true, key)

def recordRedisRequest (key : RedisList) (now : Int) : RedisList :=
  if maxCount = 0 then key
  else ⟨(now :: key.live now).take maxCount, now + duration * 1000⟩

/-- Whether the request is let through. -/
def redisRateLimitHandler (key : RedisList) (request : LimitedRequest) : Bool × RedisList :=
  let (allowed, key) := checkRedisRateLimit maxCount duration key request.arrives
  (allowed, if allowed && request.succeeds then
      recordRedisRequest maxCount duration key request.ends
    else key)

/-- `InMemoryRateLimiter.Request`, in seconds. -/
def limiterRequest (queue : Option (List Int)) (now : Int) : Bool × Option (List Int) :=
  match queue with
  | none => (true, some [now])
  | some queue =>
    if queue.length < maxCount then (true, some (queue ++ [now]))
    else if now - queue.headD 0 ≥ duration then (true, some (queue.tail ++ [now]))
    else (false, some queue)

/-- `clearExpiredItems` for one key, with the expiration in seconds. -/
def clearExpiredItems (expiration : Int) (queue : Option (List Int)) (now : Int) :
    Option (List Int) :=
  if queue.any fun queue => queue = [] || now - queue.getLastD 0 > expiration then none else queue

def memoryRateLimitHandler (limiter : MemoryLimiter) (request : LimitedRequest) :
    Bool × MemoryLimiter :=
  let (allowed, check) := limiterRequest maxCount duration limiter.check (request.arrives / 1000)
  (allowed, ⟨check, if allowed && request.succeeds then
      (limiterRequest maxCount duration limiter.success (request.ends / 1000)).2
    else limiter.success⟩)

/-- The limit: as many requests have succeeded within the duration. -/
def limitReached (successes : List Int) (now : Int) : Bool :=
  0 < maxCount && successes[maxCount - 1]?.any (now - · < duration * 1000)

end Handlers

/-- When the successful ones of some requests ended. -/
def successTimes (served : List LimitedRequest) : List Int :=
  (served.filter (·.succeeds)).map (·.ends)

inductive LimitEvent where
  | request (request : LimitedRequest)
  /-- A round of `clearExpiredItems`, which only the limiter in memory has. -/
  | cleanUp (now : Int)

/-- A limiter, the requests that it has let through, newest first, and the time. -/
structure LimitRun (σ : Type) where
  limiter : σ
  served : List LimitedRequest := []
  now : Int

namespace LimitRun

variable {σ : Type}

/-- A clean-up that falls into a request comes after it: the check reads no time but arrivals. -/
def step (handler : σ → LimitedRequest → Bool × σ) (cleanUp : σ → Int → σ) (state : LimitRun σ) :
    LimitEvent → LimitRun σ
  | .request request =>
    let (allowed, limiter) := handler state.limiter request
    ⟨limiter, if allowed then request :: state.served else state.served, request.ends⟩
  | .cleanUp now => ⟨cleanUp state.limiter now, state.served, max state.now now⟩

/-- One request comes after the other. -/
def Next (state : LimitRun σ) : LimitEvent → Prop
  | .request request => state.now ≤ request.arrives ∧ request.arrives ≤ request.ends
  | .cleanUp _ => True

/-- With Redis the keys expire on their own. -/
def redis (maxCount : Nat) (duration : Int) :
    LimitRun RedisList → LimitEvent → LimitRun RedisList :=
  step (redisRateLimitHandler maxCount duration) fun key _ => key

def memory (maxCount : Nat) (duration expiration : Int) :
    LimitRun MemoryLimiter → LimitEvent → LimitRun MemoryLimiter :=
  step (memoryRateLimitHandler maxCount duration) fun limiter now =>
    ⟨clearExpiredItems expiration limiter.check (now / 1000),
      clearExpiredItems expiration limiter.success (now / 1000)⟩

/-- Where the requests let through fill the limit, they have succeeded, and the successful request
on which the limit depends is as far back by its end as by its arrival. -/
structure Undisturbed (state : LimitRun σ) (maxCount : Nat) (duration now : Int) : Prop where
  clean : state.served[maxCount - 1]?.any (now / 1000 - ·.arrives / 1000 < duration) = true →
    ∀ request ∈ state.served.take maxCount, request.succeeds = true
  punctual : ∀ request ∈ (state.served.filter (·.succeeds))[maxCount - 1]?,
    request.arrives / 1000 + duration ≤ now / 1000 → request.ends + duration * 1000 ≤ now

end LimitRun

/-! ## Logs -/

/-- A log has the newest of the times; the others are not needed or outside the window. -/
structure Keeps (limit : Nat) (window : Int) (log times : List Int) (now : Int) : Prop where
  short : log.length ≤ limit
  split : ∃ old, times = log ++ old ∧ (limit ≤ log.length ∨ ∀ time ∈ old, time + window ≤ now)

namespace Keeps

variable {limit : Nat} {window now : Int} {log times : List Int}

theorem expired (outside : ∀ time ∈ times, time + window ≤ now) : Keeps limit window [] times now :=
  ⟨Nat.zero_le _, times, rfl, .inr outside⟩

variable (keeps : Keeps limit window log times now)

include keeps

theorem wait {after : Int} (later : now ≤ after) : Keeps limit window log times after := by
  obtain ⟨old, parts, rest⟩ := keeps.split
  exact ⟨keeps.short, old, parts, rest.imp_right fun outside time member =>
    Int.le_trans (outside time member) later⟩

theorem record (time : Int) :
    Keeps limit window ((time :: log).take limit) (time :: times) now := by
  obtain ⟨old, parts, rest⟩ := keeps.split
  refine ⟨length_take_le _ _, (time :: log).drop limit ++ old, ?_, ?_⟩
  · rw [← append_assoc, take_append_drop, parts, cons_append]
  · by_cases full : limit ≤ (time :: log).length
    · exact .inl (by rw [length_take]; omega)
    · rw [drop_eq_nil_of_le (by omega), nil_append]
      rw [length_cons] at full
      exact .inr (rest.resolve_left (by omega))

/-- The log says whether the window is full. -/
theorem full_iff (positive : 0 < limit) :
    times[limit - 1]?.any (now - · < window) = true ↔
      limit ≤ log.length ∧ now - log.getLastD 0 < window := by
  obtain ⟨old, parts, rest⟩ := keeps.split
  have bound := keeps.short
  rw [parts]
  by_cases short : log.length < limit
  · have outside := rest.resolve_left (Nat.not_le.mpr short)
    rw [getElem?_append_right (by omega)]
    cases found : old[limit - 1 - log.length]? with
    | none => simp [short]
    | some time =>
      have := outside time (mem_of_getElem? found)
      simp
      omega
  have all : log.length - 1 = limit - 1 := by omega
  rw [getElem?_append_left (by omega), getLastD_eq_getLast?, getLast?_eq_getElem?, all]
  cases found : log[limit - 1]? with
  | none =>
    rw [getElem?_eq_none_iff] at found
    omega
  | some time => simp [Nat.le_of_not_lt short]

end Keeps

/-! ## Redis -/

variable {maxCount : Nat} {duration expiration now : Int}

/-- The list keeps the successful requests, whenever it is read. -/
structure Recent (maxCount : Nat) (duration : Int) (key : RedisList) (successes : List Int)
    (now : Int) : Prop where
  short : key.times.length ≤ maxCount
  past : ∀ time ∈ successes, time ≤ now
  live : ∀ after, now ≤ after →
    Keeps maxCount (duration * 1000) (key.live after) successes after

namespace Recent

variable {key : RedisList} {successes : List Int}

/-- A list that has just been used. -/
theorem used {times : List Int} (past : ∀ time ∈ successes, time ≤ now)
    (keeps : Keeps maxCount (duration * 1000) times successes now) :
    Recent maxCount duration ⟨times, now + duration * 1000⟩ successes now := by
  refine ⟨keeps.short, past, fun after later => ?_⟩
  rw [RedisList.live]
  split
  · exact keeps.wait later
  · rename_i expired
    refine .expired fun time member => ?_
    have := past time member
    change ¬ after < now + duration * 1000 at expired
    omega

variable {since : Int} (recent : Recent maxCount duration key successes since)
  (later : since ≤ now)

include recent later

theorem wait : Recent maxCount duration key successes now :=
  ⟨recent.short, fun time member => Int.le_trans (recent.past time member) later,
    fun _ after => recent.live _ (Int.le_trans later after)⟩

theorem check : (checkRedisRateLimit maxCount duration key now).1 =
    !limitReached maxCount duration successes now := by
  have keeps := recent.live now later
  rw [checkRedisRateLimit, limitReached]
  by_cases zero : maxCount = 0
  · simp [zero]
  have full := keeps.full_iff (Nat.pos_of_ne_zero zero)
  have whole := @Int.ediv_lt_iff_lt_mul (now - (key.live now).getLastD 0) duration 1000 (by decide)
  rw [if_neg zero]
  split_ifs with short within
  all_goals
    simp [Nat.pos_of_ne_zero zero]
    grind

theorem refuse (full : maxCount ≤ (key.live now).length) (some : maxCount ≠ 0) :
    Recent maxCount duration ⟨key.times, now + duration * 1000⟩ successes now := by
  have live : key.live now = key.times := by
    rw [RedisList.live] at full ⊢
    split at full
    next fresh => exact if_pos fresh
    · exact absurd (Nat.le_zero.mp full) some
  exact used (recent.wait later).past (live ▸ recent.live now later)

theorem record : Recent maxCount duration (recordRedisRequest maxCount duration key now)
    (now :: successes) now := by
  have past : ∀ time ∈ now :: successes, time ≤ now :=
    forall_mem_cons.mpr ⟨Int.le_refl _, (recent.wait later).past⟩
  rw [recordRedisRequest]
  split
  next zero =>
    subst zero
    have bare : ∀ after, key.live after = [] := fun after => by
      rw [RedisList.live, length_eq_zero_iff.mp (Nat.le_zero.mp recent.short), ite_self]
    exact ⟨recent.short, past, fun after _ => bare after ▸ ⟨Nat.zero_le _, _, rfl, .inl le_rfl⟩⟩
  · exact used past ((recent.live now later).record now)

end Recent

namespace LimitRun

def Recorded (maxCount : Nat) (duration : Int) (state : LimitRun RedisList) : Prop :=
  Recent maxCount duration state.limiter (successTimes state.served) state.now

theorem Recorded.step {state : LimitRun RedisList} {event : LimitEvent}
    (recent : state.Recorded maxCount duration) (next : state.Next event) :
    (redis maxCount duration state event).Recorded maxCount duration := by
  cases event with
  | cleanUp now => exact Recent.wait recent (le_max_left _ _)
  | request request =>
    obtain ⟨later, ends⟩ := next
    have serve : Recent maxCount duration
        (if true && request.succeeds then recordRedisRequest maxCount duration state.limiter
          request.ends else state.limiter)
        (successTimes (request :: state.served)) request.ends := by
      rw [successTimes, filter_cons, Bool.true_and]
      split
      · exact Recent.record recent (Int.le_trans later ends)
      · exact Recent.wait recent (Int.le_trans later ends)
    rw [redis, LimitRun.step, redisRateLimitHandler, checkRedisRateLimit]
    by_cases zero : maxCount = 0
    · rw [if_pos zero]
      exact serve
    by_cases short : (state.limiter.live request.arrives).length < maxCount
    · rw [if_neg zero, if_pos short]
      exact serve
    rw [if_neg zero, if_neg short]
    split_ifs
    · exact (Recent.refuse recent later (by omega) zero).wait ends
    · exact serve

end LimitRun

/-! ## The window of the limiter in memory -/

inductive LimiterEvent where
  | request (maxRequestNum : Nat)
  | cleanUp
  deriving DecidableEq, Repr

/-- The queue of a key, the times of the accepted calls, newest first, and the time. -/
structure LimiterRun where
  queue : Option (List Int) := none
  accepted : List Int := []
  now : Int
  deriving DecidableEq, Repr

namespace LimiterRun

variable (duration expiration : Int)

def step (state : LimiterRun) : LimiterEvent × Int → LimiterRun
  | (.request maxRequestNum, now) =>
    let (allowed, queue) := limiterRequest maxRequestNum duration state.queue now
    ⟨queue, if allowed then now :: state.accepted else state.accepted, now⟩
  | (.cleanUp, now) => ⟨clearExpiredItems expiration state.queue now, state.accepted, now⟩

/-- Time does not go back, no limit is below the length of the queue, and a key lives on for the
duration. -/
def Calm (state : LimiterRun) : LimiterEvent × Int → Prop
  | (.request maxRequestNum, now) => state.now ≤ now ∧ 0 < maxRequestNum ∧
      ∀ queue ∈ state.queue, queue.length ≤ maxRequestNum
  | (.cleanUp, now) => state.now ≤ now ∧ duration ≤ expiration

/-- The queue has the newest of the accepted calls; the others are outside the window. -/
structure Sliding (state : LimiterRun) : Prop where
  past : ∀ time ∈ state.accepted, time ≤ state.now
  newest : ∀ queue ∈ state.queue, ∀ time ∈ state.accepted, time ≤ queue.getLastD 0
  split : ∃ old, state.accepted = (state.queue.getD []).reverse ++ old ∧
    ∀ time ∈ old, time + duration ≤ state.now

variable {duration expiration} {state : LimiterRun} {limit : Nat}

theorem Sliding.wait (sliding : state.Sliding duration) (later : state.now ≤ now) :
    Sliding duration { state with now } := by
  obtain ⟨old, parts, outside⟩ := sliding.split
  exact ⟨fun time member => Int.le_trans (sliding.past time member) later, sliding.newest, old,
    parts, fun time member => Int.le_trans (outside time member) later⟩

theorem Sliding.accept {accepted queue : List Int} (past : ∀ time ∈ accepted, time ≤ now)
    (old : List Int) (parts : accepted = queue.reverse ++ old)
    (outside : ∀ time ∈ old, time + duration ≤ now) :
    Sliding duration ⟨some (queue ++ [now]), now :: accepted, now⟩ := by
  have past : ∀ time ∈ now :: accepted, time ≤ now := forall_mem_cons.mpr ⟨Int.le_refl _, past⟩
  refine ⟨past, ?_, old, by simp [parts], outside⟩
  rintro _ ⟨⟩
  rwa [getLastD_concat]

section

variable (sliding : state.Sliding duration)

include sliding

/-- A call keeps the queue as short as its limit. -/
theorem Sliding.request (calm : state.Calm duration expiration (.request limit, now)) :
    (state.step duration expiration (.request limit, now)).Sliding duration ∧
      ∀ queue ∈ (state.step duration expiration (.request limit, now)).queue,
        queue.length ≤ limit := by
  obtain ⟨later, positive, short⟩ := calm
  have waits := sliding.wait later
  obtain ⟨old, parts, outside⟩ := waits.split
  rw [step]
  cases found : state.queue with
  | none =>
    rw [found] at parts
    exact ⟨.accept waits.past old parts outside, by rintro _ ⟨⟩; exact positive⟩
  | some queue =>
    rw [found] at waits parts short
    simp only [limiterRequest]
    split
    next free => exact ⟨.accept waits.past old parts outside, by rintro _ ⟨⟩; simpa⟩
    split
    next full expired =>
      cases queue with
      | nil => exact absurd positive full
      | cons head queue =>
        change now - head ≥ duration at expired
        refine ⟨.accept waits.past (head :: old) (by simpa using parts) ?_, by simpa using short⟩
        exact forall_mem_cons.mpr ⟨by omega, outside⟩
    · exact ⟨waits, short⟩

/-- What a clean-up forgets is outside the window, also when the clean-up comes late. -/
theorem Sliding.clear (long : duration ≤ expiration) (now : Int) :
    Sliding duration
      ⟨clearExpiredItems expiration state.queue now, state.accepted, max state.now now⟩ := by
  rw [clearExpiredItems]
  obtain ⟨past, newest, old, parts, outside⟩ := sliding.wait (le_max_left state.now now)
  split
  next expired =>
    refine ⟨past, nofun, state.accepted, rfl, ?_⟩
    cases found : state.queue with
    | none => simp [found] at expired
    | some queue =>
      intro time member
      simp only [found, Option.any_some, Bool.or_eq_true, decide_eq_true_eq] at expired parts
      rcases expired with rfl | silent
      · exact outside time (by simpa [parts] using member)
      · have := newest queue found time member
        have := le_max_right state.now now
        change time + duration ≤ max state.now now
        omega
  · exact ⟨past, newest, old, parts, outside⟩

theorem Sliding.step (event : LimiterEvent × Int) (calm : state.Calm duration expiration event) :
    (state.step duration expiration event).Sliding duration := by
  match event with
  | (.request _, _) => exact (sliding.request calm).1
  | (.cleanUp, now) =>
    have clear := sliding.clear calm.2 now
    rwa [max_eq_right calm.1] at clear

theorem Sliding.countP_le (short : ∀ queue ∈ state.queue, queue.length ≤ limit) :
    state.accepted.countP (state.now - duration < ·) ≤ limit := by
  obtain ⟨old, parts, outside⟩ := sliding.split
  have none : old.countP (state.now - duration < ·) = 0 := by
    refine countP_eq_zero.mpr fun time member => ?_
    have := outside time member
    simpa using by omega
  rw [parts, countP_append, none]
  refine Nat.le_trans countP_le_length ?_
  cases found : state.queue with
  | none => exact Nat.zero_le _
  | some queue => simpa using short queue found

end

/-- After a call no more calls than its limit have been accepted in its window. -/
theorem limiter_keeps_window (duration expiration start : Int) (events : List (LimiterEvent × Int))
    (limit : Nat) (now : Int)
    (calm : Along (Calm duration expiration) (step duration expiration) ⟨none, [], start⟩
      (events ++ [(.request limit, now)])) :
    (run (step duration expiration) ⟨none, [], start⟩
      (events ++ [(.request limit, now)])).accepted.countP (now - duration < ·) ≤ limit := by
  obtain ⟨before, here, -⟩ := along_append.mp calm
  have sliding : Sliding duration
      (run (step duration expiration) ⟨none, [], start⟩ events) :=
    run_invariant (fun _ event sliding calm => sliding.step event calm)
      ⟨nofun, nofun, [], rfl, nofun⟩ before
  obtain ⟨next, short⟩ := sliding.request here
  rw [run_append]
  exact next.countP_le short

theorem limiter_keeps_window_twice :
    (run (step 60 60) ⟨none, [], 0⟩ ([(.request 2, 0), (.request 2, 10), (.cleanUp, 20)] ++
      [(.request 3, 30)])).accepted.countP (30 - 60 < ·) ≤ 3 :=
  limiter_keeps_window 60 60 0 [(.request 2, 0), (.request 2, 10), (.cleanUp, 20)] 3 30
    ⟨⟨by decide, by decide, nofun⟩, ⟨by decide, by decide, by decide⟩, ⟨by decide, by decide⟩,
      ⟨by decide, by decide, by decide⟩, trivial⟩

/-- A lower limit only looks at the head of a longer queue, and a clean-up within the duration
forgets the queue. -/
theorem limiter_exceeds_window :
    (run (step 60 60) ⟨none, [], 0⟩
      [(.request 3, 0), (.request 3, 50), (.request 3, 51), (.request 1, 60)]).accepted.countP
        (60 - 60 < ·) = 3 ∧
    (run (step 60 10) ⟨none, [], 0⟩
      [(.request 1, 0), (.cleanUp, 20), (.request 1, 21)]).accepted.countP (21 - 60 < ·) = 2 := by
  decide

end LimiterRun

/-! ## Both limiters -/

theorem limiterRequest_fst (positive : 0 < maxCount) (queue : Option (List Int)) :
    (limiterRequest maxCount duration queue now).1 =
      !decide (maxCount ≤ (queue.getD []).length ∧ now - (queue.getD []).headD 0 < duration) := by
  rw [limiterRequest.eq_def]
  cases queue with
  | none => simp [Nat.pos_iff_ne_zero.mp positive]
  | some queue =>
    dsimp only [Option.getD_some]
    split_ifs with free expired
    all_goals grind

/-- The run of the probe's key. -/
def LimitRun.probe (state : LimitRun MemoryLimiter) : LimiterRun :=
  ⟨state.limiter.check, state.served.map (·.arrives / 1000), state.now / 1000⟩

/-- The probe has put every request that it let through into its queue. -/
structure Probed (maxCount : Nat) (duration : Int) (state : LimitRun MemoryLimiter) : Prop where
  sliding : state.probe.Sliding duration
  short : ∀ queue ∈ state.limiter.check, queue.length ≤ maxCount
  sorted : state.served.Pairwise fun later earlier => earlier.arrives ≤ later.arrives
  past : ∀ request ∈ state.served, request.arrives ≤ request.ends ∧ request.ends ≤ state.now

namespace Probed

variable {state : LimitRun MemoryLimiter} (probed : Probed maxCount duration state)

include probed

theorem cleanUp (long : duration ≤ expiration) (now : Int) : Probed maxCount duration
    (LimitRun.memory maxCount duration expiration state (.cleanUp now)) where
  sliding := by
    refine (probed.sliding.clear long (now / 1000)).wait ?_
    exact max_le (Int.ediv_le_ediv (by decide) (le_max_left _ _))
      (Int.ediv_le_ediv (by decide) (le_max_right _ _))
  short := by
    rw [LimitRun.memory, LimitRun.step, clearExpiredItems]
    split
    · nofun
    · exact probed.short
  sorted := probed.sorted
  past := fun request served => (probed.past request served).imp_right (le_max_left _ _).trans'

variable {request : LimitedRequest} (positive : 0 < maxCount)

include positive

/-- The answer depends on the arrivals of the requests let through. -/
theorem answer (later : state.now ≤ request.arrives) :
    (memoryRateLimitHandler maxCount duration state.limiter request).1 =
      !state.served[maxCount - 1]?.any (request.arrives / 1000 - ·.arrives / 1000 < duration) := by
  obtain ⟨-, -, old, parts, outside⟩ := probed.sliding.wait (Int.ediv_le_ediv (by decide) later)
  have keeps : Keeps maxCount duration (state.limiter.check.getD []).reverse
      (state.served.map (·.arrives / 1000)) (request.arrives / 1000) := by
    refine ⟨?_, old, parts, .inr outside⟩
    cases found : state.limiter.check with
    | none => exact Nat.zero_le _
    | some queue => simpa using probed.short queue found
  have full := keeps.full_iff positive
  rw [getElem?_map, Option.any_map, getLastD_eq_getLast?, getLast?_reverse, length_reverse,
    ← headD_eq_head?_getD] at full
  change (limiterRequest maxCount duration state.limiter.check (request.arrives / 1000)).1 = _
  rw [limiterRequest_fst positive, ← decide_eq_decide.mpr full, Bool.decide_coe]

theorem serve (next : state.Next (.request request)) :
    Probed maxCount duration
      (LimitRun.memory maxCount duration expiration state (.request request)) := by
  obtain ⟨later, ends⟩ := next
  have calm : state.probe.Calm duration expiration (.request maxCount, request.arrives / 1000) :=
    ⟨Int.ediv_le_ediv (by decide) later, positive, probed.short⟩
  obtain ⟨sliding, short⟩ := probed.sliding.request calm
  rw [LimitRun.memory, LimitRun.step, memoryRateLimitHandler]
  rw [LimiterRun.step, LimitRun.probe] at sliding short
  revert sliding short
  obtain ⟨allowed, queue⟩ := limiterRequest maxCount duration state.limiter.check
    (request.arrives / 1000)
  intro sliding short
  have waits := sliding.wait (Int.ediv_le_ediv (by decide) ends)
  have past : ∀ served ∈ state.served, served.ends ≤ request.arrives := fun served member =>
    (probed.past served member).2.trans later
  cases allowed with
  | false => exact ⟨waits, short, probed.sorted, fun served member =>
      ⟨(probed.past served member).1, (past served member).trans ends⟩⟩
  | true => exact ⟨waits, short, pairwise_cons.mpr ⟨fun served member =>
        (probed.past served member).1.trans (past served member), probed.sorted⟩,
      forall_mem_cons.mpr ⟨⟨ends, le_rfl⟩, fun served member =>
        ⟨(probed.past served member).1, (past served member).trans ends⟩⟩⟩

theorem step {event : LimitEvent} (long : duration ≤ expiration) (next : state.Next event) :
    Probed maxCount duration (LimitRun.memory maxCount duration expiration state event) := by
  cases event with
  | request request => exact probed.serve positive next
  | cleanUp now => exact probed.cleanUp long now

/-- Undisturbed, the requests let through fill the limit when the successful ones do. -/
theorem full_iff (undisturbed : state.Undisturbed maxCount duration now) :
    state.served[maxCount - 1]?.any (now / 1000 - ·.arrives / 1000 < duration) =
      limitReached maxCount duration (successTimes state.served) now := by
  rw [limitReached, decide_eq_true positive, Bool.true_and, successTimes, getElem?_map,
    Option.any_map, Bool.eq_iff_iff]
  constructor
  · intro full
    have clean := undisturbed.clean full
    obtain ⟨request, found, within⟩ := (Option.any_eq_true _ _).mp full
    have long := (List.getElem?_eq_some_iff.mp found).1
    have same : (state.served.filter (·.succeeds))[maxCount - 1]? = some request := by
      rw [← take_append_drop maxCount state.served, filter_append, filter_eq_self.mpr clean,
        getElem?_append_left (by rw [length_take]; omega), getElem?_take_of_lt (by omega), found]
    have ordered := (probed.past request (mem_of_getElem? found)).1
    rw [same]
    simp at within ⊢
    omega
  · intro full
    obtain ⟨request, found, within⟩ := (Option.any_eq_true _ _).mp full
    have punctual := undisturbed.punctual request found
    -- The request stands at the limit or behind it in the requests let through.
    have behind : request ∈ state.served.drop (maxCount - 1) := by
      rw [← take_append_drop (maxCount - 1) state.served, filter_append, getElem?_append_right
        ((length_filter_le _ _).trans (length_take_le _ _))] at found
      exact (mem_filter.mp (mem_of_getElem? found)).1
    cases rest : state.served.drop (maxCount - 1) with
    | nil => simp [rest] at behind
    | cons first others =>
      have sorted := probed.sorted.sublist (drop_sublist (maxCount - 1) _)
      have place : state.served[maxCount - 1]? = some first := by
        rw [← head?_drop, rest, head?_cons]
      rw [rest, pairwise_cons] at sorted
      have latest : request.arrives ≤ first.arrives := by
        rcases mem_cons.mp (rest ▸ behind) with rfl | member
        · exact le_rfl
        · exact sorted.1 request member
      rw [place]
      simp at within ⊢
      omega

end Probed

/-- One request of a user comes after the other.  With Redis a request is refused exactly when the
limit is reached.  In memory this is so when the limit is positive, the keys live on for the
duration, and the requests let through are not disturbed. -/
theorem model_limits_count_successes (maxCount : Nat) (duration expiration start : Int)
    (events : List LimitEvent) (request : LimitedRequest) :
    (Along LimitRun.Next (LimitRun.redis maxCount duration) ⟨{}, [], start⟩
        (events ++ [.request request]) →
      let state := run (LimitRun.redis maxCount duration) ⟨{}, [], start⟩ events
      (redisRateLimitHandler maxCount duration state.limiter request).1 =
        !limitReached maxCount duration (successTimes state.served) request.arrives) ∧
    (Along LimitRun.Next (LimitRun.memory maxCount duration expiration) ⟨{}, [], start⟩
        (events ++ [.request request]) →
      0 < maxCount → duration ≤ expiration →
      let state := run (LimitRun.memory maxCount duration expiration) ⟨{}, [], start⟩ events
      state.Undisturbed maxCount duration request.arrives →
      (memoryRateLimitHandler maxCount duration state.limiter request).1 =
        !limitReached maxCount duration (successTimes state.served) request.arrives) := by
  constructor
  · intro inOrder state
    obtain ⟨before, here, -⟩ := along_append.mp inOrder
    have recorded : state.Recorded maxCount duration :=
      run_invariant (fun _ _ recorded next => recorded.step next)
        ⟨Nat.zero_le _, nofun, fun now _ => by simpa [RedisList.live] using .expired nofun⟩ before
    exact Recent.check recorded here.1
  · intro inOrder positive long state undisturbed
    obtain ⟨before, here, -⟩ := along_append.mp inOrder
    have probed : Probed maxCount duration state :=
      run_invariant (fun _ _ probed next => probed.step positive long next)
        ⟨⟨nofun, nofun, [], rfl, nofun⟩, nofun, .nil, nofun⟩ before
    rw [probed.answer positive here.1, probed.full_iff positive undisturbed]

theorem model_limits_count_successes_twice :
    (redisRateLimitHandler 1 60 (run (LimitRun.redis 1 60) ⟨{}, [], 0⟩
      [.request ⟨0, 500, true⟩]).limiter ⟨59000, 59000, true⟩).1 = false ∧
    (memoryRateLimitHandler 1 60 (run (LimitRun.memory 1 60 60) ⟨{}, [], 0⟩
      [.request ⟨0, 500, true⟩]).limiter ⟨59000, 59000, true⟩).1 = false := by
  have limits := model_limits_count_successes 1 60 60 0 [.request ⟨0, 500, true⟩]
    ⟨59000, 59000, true⟩
  exact ⟨limits.1 ⟨⟨by decide, by decide⟩, ⟨by decide, by decide⟩, trivial⟩,
    limits.2 ⟨⟨by decide, by decide⟩, ⟨by decide, by decide⟩, trivial⟩ (by decide) (by decide)
      ⟨by decide, by rintro _ ⟨⟩ late; exact absurd late (by decide)⟩⟩

/-- Without Redis a failed request uses up the limit, and with 0 a second request is refused. -/
theorem memory_refuses_after_failure :
    (let state := run (LimitRun.memory 1 60 60) ⟨{}, [], 0⟩ [.request ⟨0, 0, false⟩]
     (memoryRateLimitHandler 1 60 state.limiter ⟨1000, 1000, true⟩).1 = false ∧
       limitReached 1 60 (successTimes state.served) 1000 = false) ∧
    (memoryRateLimitHandler 0 60 (run (LimitRun.memory 0 60 60) ⟨{}, [], 0⟩
      [.request ⟨0, 0, true⟩]).limiter ⟨1000, 1000, true⟩).1 = false := by
  decide

/-! ## The token bucket -/

/-- The fields of the key. -/
structure TokenBucket where
  tokens : Int
  lastTime : Int

section Bucket

variable (requested rate : Int)

/-- The tokens before a call of the script, at a time in seconds. -/
def refill (capacity : Int) (bucket : Option TokenBucket) (now : Int) : Int :=
  match bucket with
  | none => capacity
  | some bucket => min capacity (bucket.tokens + (now - bucket.lastTime) * rate)

def rateLimitScript (capacity : Int) (bucket : Option TokenBucket) (now : Int) :
    Bool × TokenBucket :=
  let tokens := refill rate capacity bucket now
  if tokens ≥ requested then (true, ⟨tokens - requested, now⟩) else (false, ⟨tokens, now⟩)

/-- Calls on a fresh key, the last one first.  The handler takes its limit as the rate, requests as
many tokens as the duration has seconds, and takes the product as the capacity. -/
def allow : List Int → Option TokenBucket × List Bool
  | [] => (none, [])
  | now :: earlier =>
    let (allowed, bucket) := rateLimitScript requested rate (rate * requested) (allow earlier).1 now
    (some bucket, allowed :: (allow earlier).2)

end Bucket

section Limited

variable {requested rate now : Int} (lasting : 1 ≤ requested) (limited : 1 ≤ rate)
  {earlier : List Int} (sorted : (now :: earlier).Pairwise (· ≥ ·))

include lasting limited sorted

/-- The level is the least that one of the windows leaves. -/
theorem le_refill_iff :
    let level := refill rate (rate * requested) (allow requested rate earlier).1 now
    0 ≤ level ∧ ∀ tokens, tokens ≤ level ↔ ∀ i time, (now :: earlier)[i]? = some time →
      tokens + requested * ((allow requested rate earlier).2.take i).count true ≤
        rate * requested + rate * (now - time) := by
  have capacity : 0 ≤ rate * requested := by positivity
  induction earlier generalizing now with
  | nil =>
    refine ⟨capacity, fun tokens => ?_⟩
    rw [← Nat.and_forall_add_one]
    simp [refill, allow]
  | cons last earlier ih =>
    obtain ⟨nonneg, least⟩ := ih sorted.of_cons
    have later : last ≤ now := (pairwise_cons.mp sorted).1 last mem_cons_self
    rw [allow, rateLimitScript]
    generalize refill _ _ (allow requested rate earlier).1 last = level at *
    generalize (allow requested rate earlier).2 = allowed at *
    obtain ⟨answer, left, paid⟩ : ∃ answer : Bool, 0 ≤ level - requested * [answer].count true ∧
        (if level ≥ requested then (true, (⟨level - requested, last⟩ : TokenBucket))
          else (false, ⟨level, last⟩)) =
          (answer, ⟨level - requested * [answer].count true, last⟩) := by
      split
      · exact ⟨true, by simpa, by simp⟩
      · exact ⟨false, by simpa, by simp⟩
    rw [paid]
    dsimp only [refill]
    refine ⟨le_min capacity (add_nonneg left (mul_nonneg (by omega) (by omega))), fun tokens => ?_⟩
    rw [le_min_iff, ← Nat.and_forall_add_one]
    refine and_congr (by simp) ?_
    rw [← sub_le_iff_le_add, le_sub_iff_add_le, least]
    refine forall₂_congr fun i time => imp_congr_right fun _ => ?_
    have joined := @count_append _ _ true [answer] (allowed.take i)
    rw [singleton_append] at joined
    rw [take_succ_cons, joined, Nat.cast_add]
    constructor <;> intro <;> linarith

/-- A call is allowed iff no window that ends with it is over the limit. -/
theorem token_bucket_exact {answer : Bool × TokenBucket} (called : rateLimitScript requested rate
      (rate * requested) (allow requested rate earlier).1 now = answer) :
    0 ≤ answer.2.tokens ∧ answer.2.tokens ≤ rate * requested ∧
    (answer.1 ↔ ∀ i time, (now :: earlier)[i]? = some time →
      requested * (1 + ((allow requested rate earlier).2.take i).count true) ≤
        rate * requested + rate * (now - time)) := by
  subst called
  obtain ⟨nonneg, least⟩ := le_refill_iff lasting limited sorted
  have full := (least _).mp le_rfl 0 now rfl
  simp only [take_zero, count_nil, sub_self, Nat.cast_zero, mul_zero, add_zero] at full
  simp only [mul_add, mul_one, ← least, rateLimitScript]
  split
  next enough => exact ⟨sub_nonneg.mpr enough, by dsimp only; omega, iff_of_true rfl enough⟩
  next short => exact ⟨nonneg, full, iff_of_false nofun short⟩

end Limited

theorem token_bucket_exact_third :
    (rateLimitScript 60 2 120 (allow 60 2 [30, 0]).1 30).1 ↔ ∀ i time,
      [30, 30, 0][i]? = some time →
        60 * (1 + (([true, true] : List Bool).take i).count true : Int) ≤ 120 + 2 * (30 - time) :=
  (token_bucket_exact (by decide) (by decide) (by decide) rfl).2.2

end StuHelper.Routing
