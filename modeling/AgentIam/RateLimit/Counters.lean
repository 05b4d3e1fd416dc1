import AgentIam.RateLimit.SlidingWindow

/-!
# The second limiter (`redis/counters.rs`)

`SlidingWindowLimiter::check_and_increment(key, limit, window_seconds)` runs its own Lua script,
atomically, on the sorted set `ratelimit:{key}`; calls on one key form a run of
`checkAndIncrement` steps. It differs from the limiter of `rate_limit/sliding_window.rs`:

* the member it adds is the caller's `now` in whole seconds, written as member and score alike,
  so the admissions of one second rewrite one member;
* it replies `{allowed, current, limit}`, with `current + 1` on an admission, whatever the set
  holds after the `ZADD` (`checkAndIncrement_count`);
* `window_start` is `now - window_seconds` on `u64`, which a release build wraps below zero
  (`windowStart`).

`checkAndIncrement_sim` says that, at a clock of at least `window_seconds`, the script is
`SlidingWindow.admissionScript` at whole-second scores. The window bound of that model then
gives `admitted_seconds_le`: the calls admitted in a window `[t, t + W)` fall in at most `limit`
distinct seconds. The number of admitted calls is not bounded: `run_three_in_one_second` admits
three calls of one second under `limit = 2`, two of them reporting two members of a set that has
one.

`EXPIRE key window_seconds` is not modelled: it deletes the set once the last admission is
`window_seconds` old, when the next call prunes every member anyway.
-/

namespace AgentIam.Counters

open SlidingWindow

/-- `now - window_seconds` on `u64`; a release build wraps below zero. -/
def windowStart (now windowSeconds : ℕ) : ℕ := (now + 2 ^ 64 - windowSeconds) % 2 ^ 64

/-- The script of `check_and_increment` on the members of the key, with its reply decoded as
`(allowed, current_count, limit)`, and the members after it. -/
def checkAndIncrement (limit windowSeconds now : ℕ) (key : Finset ℕ) :
    (Bool × ℕ × ℕ) × Finset ℕ :=
  let key := key.filter (windowStart now windowSeconds < ·)
  let current := key.card
  if current < limit then ((true, current + 1, limit), insert now key)
  else ((false, current, limit), key)

/-- The replies to calls on one key at the clocks `nows`, each with the members after it. -/
def run (limit windowSeconds : ℕ) : Finset ℕ → List ℕ → List ((Bool × ℕ × ℕ) × Finset ℕ)
  | _, [] => []
  | key, now :: nows =>
    checkAndIncrement limit windowSeconds now key ::
      run limit windowSeconds (checkAndIncrement limit windowSeconds now key).2 nows

/-- The clocks of the calls of a run admitted with `now ∈ [t, t + windowSeconds)`. -/
def admitted (t windowSeconds : ℕ) (nows : List ℕ)
    (replies : List ((Bool × ℕ × ℕ) × Finset ℕ)) : List ℕ :=
  ((nows.zip replies).filter
    (fun p => p.2.1.1 && decide (t ≤ p.1) && decide (p.1 < t + windowSeconds))).map (·.1)

/-! ### One call -/

theorem windowStart_eq {now windowSeconds : ℕ} (hW : windowSeconds ≤ now) (hnow : now < 2 ^ 64) :
    windowStart now windowSeconds = now - windowSeconds := by
  rw [windowStart, show now + 2 ^ 64 - windowSeconds = now - windowSeconds + 2 ^ 64 by omega,
    Nat.add_mod_right, Nat.mod_eq_of_lt (by omega)]

/-- **The reported count is the number of members after the call**, except when an admitted
call's second is already a member: the `ZADD` rewrites it, and the count is one more. -/
theorem checkAndIncrement_count (limit windowSeconds now : ℕ) (key : Finset ℕ) :
    (checkAndIncrement limit windowSeconds now key).1.2.1 =
      (checkAndIncrement limit windowSeconds now key).2.card +
        if (checkAndIncrement limit windowSeconds now key).1.1 ∧
          now ∈ key.filter (windowStart now windowSeconds < ·) then 1 else 0 := by
  dsimp only [checkAndIncrement]
  split_ifs with hlt hin hin
  · rw [Finset.card_insert_of_mem hin.2]
  · rw [Finset.card_insert_of_not_mem (fun h => hin ⟨rfl, h⟩)]
  · simp at hin
  · rfl

/-! ### The first limiter at whole seconds -/

/-- A call of the first limiter at a whole second. -/
def atSecond (now : ℕ) : Call := ⟨now, 0⟩

@[simp] theorem atSecond_score (now : ℕ) : (atSecond now).score = now * 1000000 := by
  simp [atSecond, Call.score]

theorem atSecond_score_injective : Function.Injective fun now => (atSecond now).score :=
  fun a b h => by simp only [atSecond_score] at h; omega

theorem removeUpTo_image (windowStart : ℕ) (key : Finset ℕ) :
    removeUpTo windowStart (key.image fun now => (atSecond now).score) =
      (key.filter (windowStart < ·)).image fun now => (atSecond now).score := by
  ext s
  simp only [mem_removeUpTo, Finset.mem_image, Finset.mem_filter, atSecond_score]
  constructor
  · rintro ⟨⟨a, ha, rfl⟩, hlt⟩
    exact ⟨a, ⟨ha, by omega⟩, rfl⟩
  · rintro ⟨a, ⟨ha, hlt⟩, rfl⟩
    exact ⟨⟨a, ha, rfl⟩, by omega⟩

/-- **The script is the first limiter's at whole seconds**: at a clock of at least
`windowSeconds`, on the set of whole-second scores of the members, `admissionScript` admits
exactly when `checkAndIncrement` does, and leaves the scores of the members it leaves. -/
theorem checkAndIncrement_sim {limit windowSeconds now : ℕ} (hW : windowSeconds ≤ now)
    (hnow : now < 2 ^ 64) (key : Finset ℕ) :
    (admissionScript limit windowSeconds (atSecond now)
        (key.image fun n => (atSecond n).score)).2 =
      (checkAndIncrement limit windowSeconds now key).2.image (fun n => (atSecond n).score) ∧
    (admissionScript limit windowSeconds (atSecond now)
        (key.image fun n => (atSecond n).score)).1.allowed =
      (checkAndIncrement limit windowSeconds now key).1.1 := by
  have hprune := removeUpTo_image (now - windowSeconds) key
  have hcard := Finset.card_image_of_injective
    (key.filter (now - windowSeconds < ·)) atSecond_score_injective
  dsimp only [admissionScript, checkAndIncrement, atSecond] at hprune hcard ⊢
  rw [windowStart_eq hW hnow, hprune, hcard]
  split_ifs <;> simp [Finset.image_insert, atSecond]

/-- The runs of the two scripts admit the same calls. -/
theorem run_sim {limit windowSeconds : ℕ} :
    ∀ (key : Finset ℕ) (nows : List ℕ), (∀ n ∈ nows, windowSeconds ≤ n ∧ n < 2 ^ 64) →
      (SlidingWindow.run limit windowSeconds (key.image fun n => (atSecond n).score)
          (nows.map atSecond)).map (·.allowed) =
        (run limit windowSeconds key nows).map (·.1.1)
  | _, [], _ => rfl
  | key, now :: nows, h => by
    obtain ⟨hset, hallowed⟩ := checkAndIncrement_sim (h now (.head _)).1 (h now (.head _)).2 key
    rw [List.map_cons, SlidingWindow.run_cons, List.map_cons, hset, hallowed,
      run_sim _ nows fun n hn => h n (.tail _ hn)]
    rfl

theorem admitted_cons (t windowSeconds now : ℕ) (nows : List ℕ) (r : (Bool × ℕ × ℕ) × Finset ℕ)
    (rs : List ((Bool × ℕ × ℕ) × Finset ℕ)) :
    admitted t windowSeconds (now :: nows) (r :: rs) =
      (if r.1.1 ∧ t ≤ now ∧ now < t + windowSeconds then [now] else []) ++
        admitted t windowSeconds nows rs := by
  simp only [admitted, List.zip_cons_cons, List.filter_cons, Bool.and_eq_true, decide_eq_true_eq,
    and_assoc]
  split_ifs <;> rfl

/-- Runs that admit the same calls count the same calls in a window. -/
theorem admitted_sim {t windowSeconds : ℕ} :
    ∀ (nows : List ℕ) (rs : List RateLimitResult) (cs : List ((Bool × ℕ × ℕ) × Finset ℕ)),
      rs.map (·.allowed) = cs.map (·.1.1) →
      (SlidingWindow.admitted t windowSeconds (nows.map atSecond) rs).map Call.score =
        (admitted t windowSeconds nows cs).map fun n => (atSecond n).score
  | [], _, _, _ => by simp [admitted, SlidingWindow.admitted]
  | _ :: _, [], [], _ => by simp [admitted, SlidingWindow.admitted]
  | _ :: _, [], _ :: _, h => nomatch h
  | _ :: _, _ :: _, [], h => nomatch h
  | now :: nows, r :: rs, c :: cs, h => by
    obtain ⟨hr, hrs⟩ := List.cons.inj h
    have hr : r.allowed = c.1.1 := hr
    rw [List.map_cons, SlidingWindow.admitted_cons, admitted_cons, List.map_append,
      List.map_append, admitted_sim nows rs cs hrs, hr]
    dsimp only [atSecond]
    split_ifs <;> rfl

/-! ### The window bound -/

/-- **Admissions fall in at most `limit` seconds per window.** In every run from any set, with
a non-decreasing clock of at least `windowSeconds` in the `u64` range, the calls admitted with
`now ∈ [t, t + windowSeconds)`, `0 < t`, have at most `limit` distinct clocks. -/
theorem admitted_seconds_le {limit windowSeconds t : ℕ} (ht : 0 < t) (key : Finset ℕ)
    {nows : List ℕ} (hord : nows.Pairwise (· ≤ ·))
    (hrange : ∀ n ∈ nows, windowSeconds ≤ n ∧ n < 2 ^ 64) :
    (admitted t windowSeconds nows (run limit windowSeconds key nows)).toFinset.card ≤ limit := by
  have hord' : ClockOrdered (nows.map atSecond) := List.pairwise_map.2 hord
  have h := @admitted_score_card_le limit windowSeconds t ht
    (key.image fun n => (atSecond n).score) _ hord'
  rw [admitted_sim _ _ _ (run_sim key nows hrange)] at h
  have himage : ∀ l : List ℕ, (l.map fun n => (atSecond n).score).toFinset =
      l.toFinset.image fun n => (atSecond n).score := fun l => by ext; simp
  rwa [himage, Finset.card_image_of_injective _ atSecond_score_injective] at h

/-- Three calls in one second under `limit = 2`: all are admitted in the window `[1000, 1060)`,
and the last two report two members of a set that has one. -/
theorem run_three_in_one_second :
    [1000, 1000, 1000].Pairwise (· ≤ ·) ∧
    admitted 1000 60 [1000, 1000, 1000] (run 2 60 ∅ [1000, 1000, 1000]) = [1000, 1000, 1000] ∧
    (run 2 60 ∅ [1000, 1000, 1000]).map (fun r => (r.1.2.1, r.2.card)) =
      [(1, 1), (2, 1), (2, 1)] := by
  decide

end AgentIam.Counters
