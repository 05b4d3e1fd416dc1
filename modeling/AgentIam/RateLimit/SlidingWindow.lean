import AgentIam.Basic
import Mathlib.Data.Finset.Card
import Mathlib.Data.Finset.Max

/-!
# The sliding-window limiter (`rate_limit/sliding_window.rs`)

`SlidingWindowRateLimiter::check_and_increment(key, limit, window_seconds)` sends one Lua
script to the store, which runs it atomically on the sorted set under `key`. Calls on one key,
in whatever order the store serialises them, therefore form a run of `admissionScript` steps.

* The sorted set is the `Finset` of its members' scores: the script writes each score as its
  own member, so two admissions with one score are one member, and `ZADD` overwrites it.
* A score is kept in microseconds: the script's `now + TIME[2] / 1000000` is
  `now * 1000000 + micros` here. `now` is the caller's clock, `micros` the store's.
* `admissionScript` is the script with its reply decoded into `RateLimitResult`; `run` is a
  sequence of calls from a given set.

The key's `EXPIRE` is not modelled. `get_current_count` and `reset` are the operations `Op.count`
and `Op.reset` of the last section, whose runs mix them with checks (`checkReplies`).

`admitted_score_card_le`: in every window `[t, t + W)` with `0 < t`, the admitted calls wrote
at most `limit` distinct scores. The count of admitted calls is bounded only when those scores
are distinct (`admitted_length_le_of_nodup`); `run_three_admitted` is a run in which two
admissions share a score and three calls in one window are admitted under `limit = 2`.
`checkReplies_filter_isCount`: counts change no check's reply when each prunes no further than
the checks after it.
-/

namespace AgentIam.SlidingWindow

/-- `RateLimitResult`, as `check_and_increment` decodes the script's reply. -/
structure RateLimitResult where
  allowed : Bool
  limit : ℕ
  remaining : ℕ
  reset : ℕ
  current : ℕ
  deriving DecidableEq, Repr

/-- One call: the caller's clock in seconds and the microseconds of the store's `TIME`. -/
structure Call where
  now : ℕ
  micros : Fin 1000000
  deriving DecidableEq, Repr

/-- The score a call writes when it is admitted, in microseconds. -/
def Call.score (c : Call) : ℕ := c.now * 1000000 + c.micros

/-- `ZREMRANGEBYSCORE key -inf window_start`, with `window_start` in seconds. -/
def removeUpTo (windowStart : ℕ) (key : Finset ℕ) : Finset ℕ :=
  key.filter (fun s => windowStart * 1000000 < s)

/-- The score of `ZRANGE key 0 0 WITHSCORES`: the lowest. -/
def oldest (key : Finset ℕ) : Option ℕ :=
  if h : key.Nonempty then some (key.min' h) else none

/-- `math.ceil` of a score, in seconds. -/
def ceilSeconds (score : ℕ) : ℕ := (score + 999999) / 1000000

/-- The admission script of `check_and_increment`, on the key's set, with its reply decoded.
`window_start` is `now.saturating_sub(window_seconds)`, computed by the caller. -/
def admissionScript (limit windowSeconds : ℕ) (c : Call) (key : Finset ℕ) :
    RateLimitResult × Finset ℕ :=
  let windowStart := c.now - windowSeconds
  let key := removeUpTo windowStart key
  let current := key.card
  if current < limit then
    (⟨true, limit, limit - (current + 1), c.now + windowSeconds, current + 1⟩,
      insert c.score key)
  else
    let resetTime :=
      match oldest key with
      | some s => ceilSeconds s + windowSeconds
      | none => windowStart + windowSeconds
    (⟨false, limit, 0, resetTime, current⟩, key)

/-- The replies to a sequence of calls on one key whose set starts as `key`. -/
def run (limit windowSeconds : ℕ) : Finset ℕ → List Call → List RateLimitResult
  | _, [] => []
  | key, c :: cs =>
    (admissionScript limit windowSeconds c key).1 ::
      run limit windowSeconds (admissionScript limit windowSeconds c key).2 cs

/-- The calls of a run admitted with `now ∈ [t, t + windowSeconds)`. -/
def admitted (t windowSeconds : ℕ) (calls : List Call) (replies : List RateLimitResult) :
    List Call :=
  ((calls.zip replies).filter
    (fun p => p.2.allowed && decide (t ≤ p.1.now) && decide (p.1.now < t + windowSeconds))).map
    (·.1)

/-- The calls' clocks never go back. -/
def ClockOrdered (calls : List Call) : Prop := calls.Pairwise (fun a b => a.now ≤ b.now)

instance : DecidablePred ClockOrdered :=
  fun calls => inferInstanceAs (Decidable (calls.Pairwise _))

/-! ### One step -/

@[simp] theorem run_nil (limit windowSeconds : ℕ) (key : Finset ℕ) :
    run limit windowSeconds key [] = [] := rfl

@[simp] theorem run_cons (limit windowSeconds : ℕ) (key : Finset ℕ) (c : Call)
    (cs : List Call) :
    run limit windowSeconds key (c :: cs) =
      (admissionScript limit windowSeconds c key).1 ::
        run limit windowSeconds (admissionScript limit windowSeconds c key).2 cs := rfl

@[simp] theorem mem_removeUpTo {windowStart s : ℕ} {key : Finset ℕ} :
    s ∈ removeUpTo windowStart key ↔ s ∈ key ∧ windowStart * 1000000 < s := by
  simp [removeUpTo]

/-- Everything one run of the script can do: admit, writing the call's score into the pruned
set, or deny, leaving the pruned set. -/
theorem admissionScript_cases (limit windowSeconds : ℕ) (c : Call) (key : Finset ℕ) :
    ((admissionScript limit windowSeconds c key).1.allowed = true ∧
        (removeUpTo (c.now - windowSeconds) key).card < limit ∧
        (admissionScript limit windowSeconds c key).2 =
          insert c.score (removeUpTo (c.now - windowSeconds) key)) ∨
      ((admissionScript limit windowSeconds c key).1.allowed = false ∧
        limit ≤ (removeUpTo (c.now - windowSeconds) key).card ∧
        (admissionScript limit windowSeconds c key).2 =
          removeUpTo (c.now - windowSeconds) key) := by
  dsimp only [admissionScript]
  split_ifs with h
  · exact .inl ⟨rfl, h, rfl⟩
  · exact .inr ⟨rfl, by omega, rfl⟩

theorem admitted_cons (t windowSeconds : ℕ) (c : Call) (cs : List Call) (r : RateLimitResult)
    (rs : List RateLimitResult) :
    admitted t windowSeconds (c :: cs) (r :: rs) =
      (if r.allowed ∧ t ≤ c.now ∧ c.now < t + windowSeconds then [c] else []) ++
        admitted t windowSeconds cs rs := by
  simp only [admitted, List.zip_cons_cons, List.filter_cons, Bool.and_eq_true, decide_eq_true_eq,
    and_assoc]
  split_ifs <;> rfl

/-- Calls at or after the end of the window are never counted in it. -/
theorem admitted_eq_nil_of_late {t windowSeconds : ℕ} :
    ∀ {calls : List Call} (rs : List RateLimitResult),
      (∀ c ∈ calls, t + windowSeconds ≤ c.now) →
      admitted t windowSeconds calls rs = []
  | [], _, _ => by simp [admitted]
  | _ :: _, [], _ => by simp [admitted]
  | c :: cs, _ :: rs, h => by
    rw [admitted_cons, admitted_eq_nil_of_late rs fun d hd => h d (.tail _ hd),
      if_neg (by have := h c (.head _); omega)]
    rfl

/-! ### The window bound -/

/-- The run invariant behind the bound: a set `A` of scores already admitted in the window,
all still in the key, grows by at most one score per admission, and an admission happens only
while the pruned key, which still holds `A`, has fewer than `limit` members. -/
theorem card_union_admitted_le {limit windowSeconds t : ℕ} (ht : 0 < t) :
    ∀ (calls : List Call) (key A : Finset ℕ), ClockOrdered calls → A ⊆ key →
      (∀ s ∈ A, t * 1000000 ≤ s) → A.card ≤ limit →
      (A ∪ ((admitted t windowSeconds calls (run limit windowSeconds key calls)).map
        Call.score).toFinset).card ≤ limit
  | [], _, A, _, _, _, hA => by simpa [admitted] using hA
  | c :: cs, key, A, hord, hsub, hlow, hA => by
    obtain ⟨hc, hcs⟩ := List.pairwise_cons.1 hord
    by_cases hlate : t + windowSeconds ≤ c.now
    · rw [run_cons, admitted_eq_nil_of_late _
        (List.forall_mem_cons.2 ⟨hlate, fun d hd => hlate.trans (hc d hd)⟩)]
      simpa using hA
    have hkeep : A ⊆ removeUpTo (c.now - windowSeconds) key := fun s hs =>
      mem_removeUpTo.2 ⟨hsub hs, by have := hlow s hs; omega⟩
    have hcard := Finset.card_le_card hkeep
    rw [run_cons, admitted_cons]
    rcases admissionScript_cases limit windowSeconds c key with
      ⟨hal, hlt, hkey⟩ | ⟨hal, -, hkey⟩
    · rw [hkey]
      by_cases hin : t ≤ c.now
      · have hA' : (insert c.score A).card ≤ limit :=
          (Finset.card_insert_le c.score A).trans (by omega)
        have ih := @card_union_admitted_le limit windowSeconds t ht cs _ (insert c.score A) hcs
          (Finset.insert_subset_insert _ hkeep)
          ((Finset.forall_mem_insert _ _ _).2 ⟨by simp only [Call.score]; omega, hlow⟩) hA'
        rwa [if_pos ⟨hal, hin, Nat.not_le.1 hlate⟩, List.singleton_append, List.map_cons,
          List.toFinset_cons, Finset.union_insert, ← Finset.insert_union]
      · have ih := @card_union_admitted_le limit windowSeconds t ht cs _ A hcs
          (hkeep.trans (Finset.subset_insert c.score _)) hlow hA
        rwa [if_neg fun h => hin h.2.1, List.nil_append]
    · rw [hkey]
      rw [if_neg fun h => by simp [hal] at h, List.nil_append]
      exact @card_union_admitted_le limit windowSeconds t ht cs _ A hcs hkeep hlow hA

/-- **The limiter bounds admitted scores.** From any set, in any run with a non-decreasing
clock, the calls admitted with `now ∈ [t, t + windowSeconds)` wrote at most `limit` distinct
scores. -/
theorem admitted_score_card_le {limit windowSeconds t : ℕ} (ht : 0 < t) (key : Finset ℕ)
    {calls : List Call} (hord : ClockOrdered calls) :
    ((admitted t windowSeconds calls (run limit windowSeconds key calls)).map
      Call.score).toFinset.card ≤ limit := by
  simpa using card_union_admitted_le ht calls key ∅ hord (Finset.empty_subset _)
    (by simp) (Nat.zero_le _)

/-- The number of admitted calls in a window is at most `limit` when their scores differ. -/
theorem admitted_length_le_of_nodup {limit windowSeconds t : ℕ} (ht : 0 < t)
    (key : Finset ℕ) {calls : List Call} (hord : ClockOrdered calls)
    (hnd : ((admitted t windowSeconds calls (run limit windowSeconds key calls)).map
      Call.score).Nodup) :
    (admitted t windowSeconds calls (run limit windowSeconds key calls)).length ≤ limit := by
  have h := @admitted_score_card_le limit windowSeconds t ht key calls hord
  rwa [List.toFinset_card_of_nodup hnd, List.length_map] at h

/-- Two admissions at one caller second whose store clocks share the microsecond write one
member: with `limit = 2`, three calls of one second are all admitted. -/
theorem run_three_admitted :
    ClockOrdered [⟨1700000000, 250000⟩, ⟨1700000000, 250000⟩, ⟨1700000000, 500000⟩] ∧
      (admitted 1700000000 60
        [⟨1700000000, 250000⟩, ⟨1700000000, 250000⟩, ⟨1700000000, 500000⟩]
        (run 2 60 ∅
          [⟨1700000000, 250000⟩, ⟨1700000000, 250000⟩, ⟨1700000000, 500000⟩])).length = 3 := by
  decide

/-! ### Replies and reset times -/

/-- The key's set after a sequence of calls from `key`. -/
def after (limit windowSeconds : ℕ) : Finset ℕ → List Call → Finset ℕ
  | key, [] => key
  | key, c :: cs => after limit windowSeconds (admissionScript limit windowSeconds c key).2 cs

theorem oldest_eq_some {key : Finset ℕ} (h : key.Nonempty) : oldest key = some (key.min' h) :=
  dif_pos h

/-- An admission, when the pruned set has room. -/
theorem admissionScript_of_lt {limit windowSeconds : ℕ} {c : Call} {key : Finset ℕ}
    (h : (removeUpTo (c.now - windowSeconds) key).card < limit) :
    admissionScript limit windowSeconds c key =
      (⟨true, limit, limit - ((removeUpTo (c.now - windowSeconds) key).card + 1),
        c.now + windowSeconds, (removeUpTo (c.now - windowSeconds) key).card + 1⟩,
        insert c.score (removeUpTo (c.now - windowSeconds) key)) :=
  if_pos h

/-- A denial, when the pruned set is full and not empty: the reset is the ceiling of its
lowest score plus the window. -/
theorem admissionScript_of_le {limit windowSeconds : ℕ} {c : Call} {key : Finset ℕ}
    (h : limit ≤ (removeUpTo (c.now - windowSeconds) key).card)
    (hne : (removeUpTo (c.now - windowSeconds) key).Nonempty) :
    admissionScript limit windowSeconds c key =
      (⟨false, limit, 0, ceilSeconds ((removeUpTo (c.now - windowSeconds) key).min' hne) +
        windowSeconds, (removeUpTo (c.now - windowSeconds) key).card⟩,
        removeUpTo (c.now - windowSeconds) key) := by
  dsimp only [admissionScript]
  rw [if_neg (by omega), oldest_eq_some hne]

/-- The set's invariant when every call so far came at or before `t`: at most `limit`
members, each the score of a call at or before `t`. -/
structure Bounded (limit t : ℕ) (key : Finset ℕ) : Prop where
  card_le : key.card ≤ limit
  lt : ∀ s ∈ key, s < (t + 1) * 1000000

theorem Bounded.step {limit t windowSeconds : ℕ} {key : Finset ℕ} (h : Bounded limit t key)
    {c : Call} (hc : c.now ≤ t) : Bounded limit t (admissionScript limit windowSeconds c key).2 := by
  have hsub : removeUpTo (c.now - windowSeconds) key ⊆ key := Finset.filter_subset _ _
  rcases admissionScript_cases limit windowSeconds c key with ⟨-, hlt, hkey⟩ | ⟨-, -, hkey⟩
  · rw [hkey]
    refine ⟨(Finset.card_insert_le _ _).trans hlt, fun s hs => ?_⟩
    rcases Finset.mem_insert.1 hs with rfl | hs
    · have := c.micros.isLt
      simp only [Call.score]
      omega
    · exact h.lt s (hsub hs)
  · rw [hkey]
    exact ⟨(Finset.card_le_card hsub).trans h.card_le, fun s hs => h.lt s (hsub hs)⟩

theorem Bounded.after {limit t windowSeconds : ℕ} :
    ∀ {key : Finset ℕ} {cs : List Call}, Bounded limit t key → (∀ c ∈ cs, c.now ≤ t) →
      Bounded limit t (after limit windowSeconds key cs)
  | _, [], h, _ => h
  | key, c :: cs, h, hcs =>
    @Bounded.after limit t windowSeconds _ cs (@Bounded.step limit t windowSeconds key h c
      (hcs c (.head _))) fun d hd => hcs d (.tail _ hd)

/-- A run of denials only prunes. -/
theorem after_subset_of_denied {limit windowSeconds : ℕ} :
    ∀ {key : Finset ℕ} {ds : List Call},
      (∀ r ∈ run limit windowSeconds key ds, r.allowed = false) →
      after limit windowSeconds key ds ⊆ key
  | _, [], _ => subset_rfl
  | key, d :: ds, h => by
    rw [run_cons] at h
    rcases admissionScript_cases limit windowSeconds d key with ⟨hal, -⟩ | ⟨-, -, hkey⟩
    · exact absurd (h _ (.head _)) (by rw [hal]; decide)
    · have ih := @after_subset_of_denied limit windowSeconds _ ds fun r hr => h r (.tail _ hr)
      rw [after, hkey] at *
      exact ih.trans (Finset.filter_subset _ _)

theorem admissionScript_allowed (limit windowSeconds : ℕ) (c : Call) (key : Finset ℕ) :
    (admissionScript limit windowSeconds c key).1.allowed =
      decide ((removeUpTo (c.now - windowSeconds) key).card < limit) := by
  rcases admissionScript_cases limit windowSeconds c key with ⟨hal, hlt, -⟩ | ⟨hal, hle, -⟩
  · rw [hal, decide_eq_true hlt]
  · rw [hal, decide_eq_false (by omega)]

/-- What the reply to a call `c` on the set `key` promises. -/
structure ReplySound (limit windowSeconds : ℕ) (key : Finset ℕ) (c : Call) : Prop where
  /-- An admission counts the call within the limit and resets a window after it. -/
  admitted : (admissionScript limit windowSeconds c key).1.allowed = true →
    1 ≤ (admissionScript limit windowSeconds c key).1.current ∧
    (admissionScript limit windowSeconds c key).1.current ≤ limit ∧
    (admissionScript limit windowSeconds c key).1.remaining =
      limit - (admissionScript limit windowSeconds c key).1.current ∧
    (admissionScript limit windowSeconds c key).1.reset = c.now + windowSeconds
  /-- A denial leaves nothing and resets after the call, at most a window and a second on. -/
  denied : (admissionScript limit windowSeconds c key).1.allowed = false →
    (admissionScript limit windowSeconds c key).1.remaining = 0 ∧
    c.now + 1 ≤ (admissionScript limit windowSeconds c key).1.reset ∧
    (admissionScript limit windowSeconds c key).1.reset ≤ c.now + windowSeconds + 1
  /-- After a denial and any run of denials, a call at or after the reset is admitted. -/
  retry : (admissionScript limit windowSeconds c key).1.allowed = false →
    ∀ (ds : List Call) (c' : Call),
      (∀ r ∈ run limit windowSeconds (admissionScript limit windowSeconds c key).2 ds,
        r.allowed = false) →
      (admissionScript limit windowSeconds c key).1.reset ≤ c'.now →
      (admissionScript limit windowSeconds c'
        (after limit windowSeconds (admissionScript limit windowSeconds c key).2 ds)).1.allowed =
        true

/-- Every reply is sound on a set within the invariant of a clock at `c.now`. -/
theorem Bounded.replySound {limit windowSeconds : ℕ} (hL : 1 ≤ limit) {key : Finset ℕ}
    {c : Call} (h : Bounded limit c.now key) : ReplySound limit windowSeconds key c := by
  by_cases hlt : (removeUpTo (c.now - windowSeconds) key).card < limit
  · have hr := admissionScript_of_lt hlt
    refine ⟨fun _ => ?_, fun hal => by simp [hr] at hal, fun hal => by simp [hr] at hal⟩
    rw [hr]
    dsimp only
    omega
  · have hle := Nat.le_of_not_lt hlt
    have hne : (removeUpTo (c.now - windowSeconds) key).Nonempty := Finset.card_pos.1 (by omega)
    have hr := admissionScript_of_le hle hne
    have hs₀ := (removeUpTo (c.now - windowSeconds) key).min'_mem hne
    have hlow := (mem_removeUpTo.1 hs₀).2
    have hhigh := h.lt _ (mem_removeUpTo.1 hs₀).1
    have hPle : (removeUpTo (c.now - windowSeconds) key).card ≤ limit :=
      (Finset.card_le_card (Finset.filter_subset _ _)).trans h.card_le
    generalize (removeUpTo (c.now - windowSeconds) key).min' hne = s₀ at hr hs₀ hlow hhigh
    generalize removeUpTo (c.now - windowSeconds) key = P at hr hs₀ hPle
    refine ⟨fun hal => by simp [hr] at hal, fun _ => ?_, fun _ ds c' hds hreset => ?_⟩
    · simp only [hr, ceilSeconds, true_and]
      omega
    · rw [hr] at hds hreset ⊢
      dsimp only at hds hreset ⊢
      have hsub := after_subset_of_denied hds
      have hprune : removeUpTo (c'.now - windowSeconds)
          (SlidingWindow.after limit windowSeconds P ds) ⊆ P.erase s₀ := fun s hs => by
        obtain ⟨hsQ, hgt⟩ := mem_removeUpTo.1 hs
        refine Finset.mem_erase.2 ⟨fun he => ?_, hsub hsQ⟩
        subst he
        simp only [ceilSeconds] at hreset
        omega
      have hcard := (Finset.card_le_card hprune).trans_lt
        ((Finset.card_erase_lt_of_mem hs₀).trans_le hPle)
      rw [admissionScript_allowed, decide_eq_true hcard]

/-- **Limiter results and reset times are sound.** With `1 ≤ limit`, from the empty set, in every
run with a non-decreasing clock, the reply to a call at `t` is an admission with
`1 ≤ current ≤ limit`, `remaining = limit - current` and `reset = t + windowSeconds`, or a
denial with `remaining = 0` and `t + 1 ≤ reset ≤ t + windowSeconds + 1`; after a denial and any
run of denials, a call at any `t' ≥ reset` is admitted. -/
theorem limiter_results_sound {limit windowSeconds : ℕ} (hL : 1 ≤ limit) (cs : List Call)
    (c : Call) (hord : ClockOrdered (cs ++ [c])) :
    ReplySound limit windowSeconds (after limit windowSeconds ∅ cs) c :=
  have hcs : ∀ d ∈ cs, d.now ≤ c.now := fun d hd =>
    (List.pairwise_append.1 hord).2.2 d hd c (.head _)
  (Bounded.after ⟨by simp, by simp⟩ hcs).replySound hL

/-- `limiter_results_sound` for a third call in one second under `limit = 2`. -/
theorem limiter_results_sound_three :
    1 ≤ 2 ∧ ClockOrdered ([⟨1000, 0⟩, ⟨1000, 1⟩] ++ [⟨1000, 2⟩]) ∧
      ReplySound 2 60 (after 2 60 ∅ [⟨1000, 0⟩, ⟨1000, 1⟩]) ⟨1000, 2⟩ :=
  have hord : ClockOrdered ([⟨1000, 0⟩, ⟨1000, 1⟩] ++ [⟨1000, 2⟩]) := by decide
  ⟨by decide, hord, limiter_results_sound (by decide) _ _ hord⟩

/-! ### Counting and resetting

`get_current_count(key, window_seconds)` prunes the key as a check would and answers the size
of what is left; `reset` deletes the key. A run on one key is then a sequence of operations of
the three kinds (`Op`), and `checkReplies` collects what the checks answer. -/

/-- `get_current_count(key, window_seconds)` at `now`: the count, and the pruned set. -/
def getCurrentCount (windowSeconds now : ℕ) (key : Finset ℕ) : ℕ × Finset ℕ :=
  let key := removeUpTo (now - windowSeconds) key
  (key.card, key)

/-- One operation on a key: `check_and_increment`, `get_current_count` or `reset`. -/
inductive Op where
  | check (limit windowSeconds : ℕ) (c : Call)
  | count (windowSeconds now : ℕ)
  | reset

/-- Whether an operation is a `get_current_count`. -/
def Op.isCount : Op → Bool
  | .count _ _ => true
  | _ => false

/-- A count prunes no further than a later check does: its window starts no later. -/
def Op.behind : Op → Op → Bool
  | .count windowSeconds now, .check _ windowSeconds' c => now - windowSeconds ≤ c.now - windowSeconds'
  | _, _ => true

/-- The replies of the checks of a run of operations on a key whose set starts as `key`. -/
def checkReplies : Finset ℕ → List Op → List RateLimitResult
  | _, [] => []
  | key, .check limit windowSeconds c :: ops =>
    (admissionScript limit windowSeconds c key).1 ::
      checkReplies (admissionScript limit windowSeconds c key).2 ops
  | key, .count windowSeconds now :: ops =>
    checkReplies (getCurrentCount windowSeconds now key).2 ops
  | _, .reset :: ops => checkReplies ∅ ops

theorem removeUpTo_removeUpTo (a b : ℕ) (key : Finset ℕ) :
    removeUpTo a (removeUpTo b key) = removeUpTo (max a b) key := by
  ext s
  simp only [mem_removeUpTo]
  constructor
  · rintro ⟨⟨hs, hb⟩, ha⟩
    exact ⟨hs, by omega⟩
  · rintro ⟨hs, hab⟩
    exact ⟨⟨hs, by omega⟩, by omega⟩

/-- Pruning from an earlier start first changes nothing. -/
theorem removeUpTo_of_le {a b : ℕ} (hab : b ≤ a) (key : Finset ℕ) :
    removeUpTo a (removeUpTo b key) = removeUpTo a key := by
  rw [removeUpTo_removeUpTo, max_eq_left hab]

/-- A check sees its key only through the pruned set. -/
theorem admissionScript_removeUpTo (limit windowSeconds : ℕ) (c : Call) (key : Finset ℕ) :
    admissionScript limit windowSeconds c (removeUpTo (c.now - windowSeconds) key) =
      admissionScript limit windowSeconds c key := by
  dsimp only [admissionScript]
  rw [removeUpTo_of_le le_rfl]

/-- Two sets that agree above a window start give every check from that start on the same
reply and the same set. -/
theorem admissionScript_congr {limit windowSeconds B : ℕ} {c : Call} {S T : Finset ℕ}
    (hB : B ≤ c.now - windowSeconds) (h : removeUpTo B S = removeUpTo B T) :
    admissionScript limit windowSeconds c S = admissionScript limit windowSeconds c T := by
  rw [← admissionScript_removeUpTo _ _ c S, ← admissionScript_removeUpTo _ _ c T,
    ← removeUpTo_of_le hB S, h, removeUpTo_of_le hB T]

/-- The run invariant: the set with the counts and the set without them agree above `B`, and
no check to come starts its window before `B`. -/
theorem checkReplies_filter_of_agree :
    ∀ {ops : List Op} {B : ℕ} {S T : Finset ℕ},
      ops.Pairwise (fun a b => a.behind b = true) →
      (∀ limit windowSeconds c, Op.check limit windowSeconds c ∈ ops →
        B ≤ c.now - windowSeconds) →
      removeUpTo B S = removeUpTo B T →
      checkReplies S ops = checkReplies T (ops.filter (!·.isCount))
  | [], _, _, _, _, _, _ => rfl
  | .check limit windowSeconds c :: ops, B, S, T, hpw, hB, h => by
    have heq := @admissionScript_congr limit windowSeconds _ c _ _ (hB _ _ _ (.head _)) h
    simp only [checkReplies, List.filter_cons, Op.isCount, Bool.not_false, if_true, heq]
    exact congrArg _ (checkReplies_filter_of_agree (List.pairwise_cons.1 hpw).2
      (B := 0) (fun _ _ _ _ => Nat.zero_le _) rfl)
  | .count windowSeconds now :: ops, B, S, T, hpw, hB, h => by
    simp only [checkReplies, List.filter_cons, Op.isCount, Bool.not_true, Bool.false_eq_true,
      if_false, getCurrentCount]
    refine checkReplies_filter_of_agree (List.pairwise_cons.1 hpw).2
      (B := max B (now - windowSeconds)) (fun l w c hc => max_le (hB l w c (.tail _ hc)) ?_) ?_
    · simpa [Op.behind] using (List.pairwise_cons.1 hpw).1 _ hc
    · rw [removeUpTo_of_le (le_max_right _ _), ← removeUpTo_of_le (le_max_left B _) S, h,
        removeUpTo_of_le (le_max_left _ _)]
  | .reset :: ops, B, S, T, hpw, hB, h => by
    simp only [checkReplies, List.filter_cons, Op.isCount, Bool.not_false, if_true]
    exact checkReplies_filter_of_agree (List.pairwise_cons.1 hpw).2 (B := 0)
      (fun _ _ _ _ => Nat.zero_le _) rfl

/-- **Counting does not disturb the checks.** In a run of checks, counts and resets on one
key in which no count starts its window later than a check after it, every check answers as
it would with the counts left out. A count prunes the key, but a later check prunes at least
as much. -/
theorem checkReplies_filter_isCount {ops : List Op}
    (h : ops.Pairwise (fun a b => a.behind b = true)) (key : Finset ℕ) :
    checkReplies key (ops.filter (!·.isCount)) = checkReplies key ops :=
  (checkReplies_filter_of_agree h (B := 0) (fun _ _ _ _ => Nat.zero_le _) rfl).symm

/-- A count between two checks of a one-request minute, over the same window. -/
theorem checkReplies_count_between :
    [Op.check 1 60 ⟨100, 0⟩, .count 60 105, .check 1 60 ⟨110, 0⟩].Pairwise
        (fun a b => a.behind b = true) ∧
      checkReplies ∅ ([Op.check 1 60 ⟨100, 0⟩, .count 60 105, .check 1 60 ⟨110, 0⟩].filter
        (!·.isCount)) =
        checkReplies ∅ [Op.check 1 60 ⟨100, 0⟩, .count 60 105, .check 1 60 ⟨110, 0⟩] :=
  ⟨by decide, checkReplies_filter_isCount (by decide) ∅⟩

/-- A count over a shorter window prunes what the next check still counts, and that check then
admits a second request in the minute. -/
example :
    checkReplies ∅ [Op.check 1 60 ⟨100, 0⟩, .count 5 105, .check 1 60 ⟨110, 0⟩] =
        [⟨true, 1, 0, 160, 1⟩, ⟨true, 1, 0, 170, 1⟩] ∧
      checkReplies ∅ [Op.check 1 60 ⟨100, 0⟩, .check 1 60 ⟨110, 0⟩] =
        [⟨true, 1, 0, 160, 1⟩, ⟨false, 1, 0, 160, 1⟩] :=
  ⟨rfl, rfl⟩

end AgentIam.SlidingWindow
