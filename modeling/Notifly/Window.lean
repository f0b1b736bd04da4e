import Notifly.Limiter

/-!
# The limiter as a sliding window

One recipient's bucket under calls that run one after another: each `Allow` call runs
both round trips with no other step in between, Redis answers every command, and Redis
may drop the key at any time once its TTL has passed.  `bucketRun` gives the answers of
the calls of such a sequence, computed by `allowStep`.

The abstract limiter is a sliding window over the list of earlier admissions
(`slidingRun`): a call is admitted when fewer than `maxPerHour` admissions count for it,
and only an admitted call adds one.  Which admissions count is a parameter:

* `windowRun` counts the admissions in `(t - window, t]`.  `bucketRun_eq_windowRun` is
  the refinement: for every sequence of calls and expiries at non-decreasing times, the
  code answers as this window does.  The invariant behind it (`Refines`) is that the
  entries the next call counts are exactly the admissions in its window, so an expiry of
  the key never drops an entry that still counts: the TTL runs a minute past the window
  of the last admission.
* `specWindowRun` follows the spec's words, which expire the entries strictly older than
  `now - window`, so an admission exactly one window before a call still counts.  The
  first pipeline's `ZREMRANGEBYSCORE key -inf (now - window)` is inclusive and drops it:
  `allow_admits_at_window_boundary` is a sequence of two calls where the two disagree.
-/

namespace Notifly

/-- What happens to one recipient's bucket: a whole `Allow` call at time `t`, or Redis
dropping the key at time `t` if its TTL has passed by then. -/
inductive BucketEvent where
  | allow (t : Int)
  | expire (t : Int)
  deriving DecidableEq, Repr

/-- The time of an event. -/
def BucketEvent.time : BucketEvent → Int
  | .allow t | .expire t => t

/-- One whole `Allow` call at time `t` with both round trips answered: the bucket after it,
and whether it returned `(true, nil)`. -/
def allowAlone (lim : RedisRecipientLimiter) (b : Bucket) (t : Int) : Bucket × Bool :=
  let first := allowStep lim t b (.count t) {}
  let second := allowStep lim t first.1 first.2 {}
  (second.1, second.2 = .done true none)

/-- The answers of the calls of a sequence of events, run alone on bucket `b`. -/
def bucketRun (lim : RedisRecipientLimiter) : Bucket → List BucketEvent → List Bool
  | _, [] => []
  | b, .allow t :: es => (allowAlone lim b t).2 :: bucketRun lim (allowAlone lim b t).1 es
  | b, .expire t :: es => bucketRun lim (b.at t) es

/-- A sliding window: a call at `t` is admitted when fewer than `maxPerHour` of the earlier
admissions `counts t`, and an admitted call is added to them.  Expiries change nothing. -/
def slidingRun (lim : RedisRecipientLimiter) (counts : Int → Int → Bool) :
    List Int → List BucketEvent → List Bool
  | _, [] => []
  | admitted, .allow t :: es =>
    let ok := decide (((admitted.filter (counts t)).length : Int) < lim.maxPerHour)
    ok :: slidingRun lim counts (if ok then admitted ++ [t] else admitted) es
  | admitted, .expire _ :: es => slidingRun lim counts admitted es

/-- The window of the code: the admissions in `(t - window, t]` count. -/
def windowRun (lim : RedisRecipientLimiter) : List Int → List BucketEvent → List Bool :=
  slidingRun lim fun t a => decide (t - lim.window < a)

/-- The window in the spec's words: only entries strictly older than `t - window` have
expired, so the admissions in `[t - window, t]` count. -/
def specWindowRun (lim : RedisRecipientLimiter) : List Int → List BucketEvent → List Bool :=
  slidingRun lim fun t a => decide (t - lim.window ≤ a)

/-! ## The bucket as commands see it -/

theorem minute_pos : 0 < minute := by decide

@[simp] theorem Bucket.empty_at (t : Int) : Bucket.empty.at t = Bucket.empty := rfl

@[simp] theorem Bucket.empty_zRemRangeByScore (hi : Int) :
    Bucket.empty.zRemRangeByScore hi = Bucket.empty := rfl

/-- Once a key has expired it stays expired. -/
theorem Bucket.at_at (b : Bucket) {t t' : Int} (h : t ≤ t') : (b.at t).at t' = b.at t' := by
  obtain ⟨scores, _ | e⟩ := b
  · rfl
  · by_cases he : e < t
    · have h₁ : (⟨scores, some e⟩ : Bucket).at t = .empty := if_pos he
      have h₂ : (⟨scores, some e⟩ : Bucket).at t' = .empty := if_pos (by omega)
      rw [h₁, h₂]; rfl
    · simp [Bucket.at, he]

/-- `ZREMRANGEBYSCORE` keeps the TTL. -/
theorem Bucket.zRemRangeByScore_at (b : Bucket) (hi t : Int) :
    (b.zRemRangeByScore hi).at t = (b.at t).zRemRangeByScore hi := by
  obtain ⟨scores, _ | e⟩ := b
  · rfl
  · by_cases he : e < t <;> simp [Bucket.at, Bucket.zRemRangeByScore, he, Bucket.empty]

/-- Dropping the entries up to `hi`, then up to a later `hi'`. -/
theorem filter_lt_mono (l : List Int) {hi hi' : Int} (h : hi ≤ hi') :
    (l.filter fun a => decide (hi < a)).filter (fun a => decide (hi' < a)) =
      l.filter fun a => decide (hi' < a) := by
  rw [List.filter_filter]
  refine List.filter_congr fun a _ => ?_
  by_cases ha : hi' < a
  · simp [ha, show hi < a by omega]
  · simp [ha]

/-- A trim up to `hi`, then up to a later `hi'`, is the trim up to `hi'`. -/
theorem Bucket.zRemRangeByScore_zRemRangeByScore (b : Bucket) {hi hi' : Int} (h : hi ≤ hi') :
    (b.zRemRangeByScore hi).zRemRangeByScore hi' = b.zRemRangeByScore hi' := by
  simp only [Bucket.zRemRangeByScore, filter_lt_mono _ h]

/-! ## The refinement -/

/-- The bucket `b` refines the list `admitted` of admissions from time `tl` on: every
admission is at or before `tl`, and at every later time the first pipeline keeps exactly
the admissions in the window. -/
structure Refines (lim : RedisRecipientLimiter) (b : Bucket) (admitted : List Int)
    (tl : Int) : Prop where
  le_last : ∀ a ∈ admitted, a ≤ tl
  counted : ∀ t, tl ≤ t →
    ((b.at t).zRemRangeByScore (t - lim.window)).scores =
      admitted.filter fun a => decide (t - lim.window < a)

/-- A call at `t` alone: the first pipeline trims the bucket, and with fewer than
`maxPerHour` entries left the second adds `t` and sets the TTL. -/
theorem allowAlone_eq (lim : RedisRecipientLimiter) (b : Bucket) (t : Int) :
    allowAlone lim b t =
      if lim.maxPerHour ≤ ((b.at t).zRemRangeByScore (t - lim.window)).scores.length then
        ((b.at t).zRemRangeByScore (t - lim.window), false)
      else
        (⟨((b.at t).zRemRangeByScore (t - lim.window)).scores ++ [t],
          some (t + (lim.window + minute))⟩, true) := by
  have hat : ((b.at t).zRemRangeByScore (t - lim.window)).at t =
      (b.at t).zRemRangeByScore (t - lim.window) := by
    rw [Bucket.zRemRangeByScore_at, Bucket.at_at b (Int.le_refl t)]
  unfold allowAlone
  by_cases hlim : lim.maxPerHour ≤ ((b.at t).zRemRangeByScore (t - lim.window)).scores.length
  · simp [allowStep, hlim]
  · simp [allowStep, hlim, hat, Bucket.zAddExpire]

/-- The key that does not exist refines no admission, from any time on. -/
theorem Refines.empty (lim : RedisRecipientLimiter) (tl : Int) :
    Refines lim Bucket.empty [] tl :=
  ⟨fun _ h => absurd h (List.not_mem_nil _), fun _ _ => rfl⟩

variable {lim : RedisRecipientLimiter} {b : Bucket} {admitted : List Int} {tl t : Int}

/-- An expiry of the key keeps the refinement. -/
theorem Refines.expire (h : Refines lim b admitted tl) (ht : tl ≤ t) :
    Refines lim (b.at t) admitted t :=
  ⟨fun a ha => Int.le_trans (h.le_last a ha) ht, fun t' ht' => by
    rw [Bucket.at_at b ht']; exact h.counted t' (Int.le_trans ht ht')⟩

/-- The first pipeline's trim keeps the refinement. -/
theorem Refines.trim (h : Refines lim b admitted tl) (ht : tl ≤ t) :
    Refines lim ((b.at t).zRemRangeByScore (t - lim.window)) admitted t :=
  ⟨fun a ha => Int.le_trans (h.le_last a ha) ht, fun t' ht' => by
    rw [Bucket.zRemRangeByScore_at, Bucket.at_at b ht',
      Bucket.zRemRangeByScore_zRemRangeByScore _ (by omega)]
    exact h.counted t' (Int.le_trans ht ht')⟩

/-- The bucket that the second pipeline leaves, the entries the first one kept and the
call's own admission under a TTL that runs a minute past the window, refines the
admissions with the call's added. -/
theorem Refines.record (hle : ∀ a ∈ admitted, a ≤ t) :
    Refines lim ⟨(admitted.filter fun a => decide (t - lim.window < a)) ++ [t],
      some (t + (lim.window + minute))⟩ (admitted ++ [t]) t := by
  have hle' : ∀ a ∈ admitted ++ [t], a ≤ t := fun a ha =>
    (List.mem_append.mp ha).elim (hle a) fun ha => List.mem_singleton.mp ha ▸ Int.le_refl t
  refine ⟨hle', fun t' ht' => ?_⟩
  by_cases hexp : t + (lim.window + minute) < t'
  · -- the key has expired, and every admission has left the window
    have := minute_pos
    have hnone : (admitted ++ [t]).filter (fun a => decide (t' - lim.window < a)) = [] :=
      List.filter_eq_nil_iff.mpr fun a ha => by
        have := hle' a ha; simp only [decide_eq_true_eq]; omega
    rw [hnone]
    exact congrArg (fun b : Bucket => (b.zRemRangeByScore (t' - lim.window)).scores)
      (if_pos hexp : (⟨_, some (t + (lim.window + minute))⟩ : Bucket).at t' = .empty)
  · have hkeep : (⟨(admitted.filter fun a => decide (t - lim.window < a)) ++ [t],
        some (t + (lim.window + minute))⟩ : Bucket).at t' =
        ⟨(admitted.filter fun a => decide (t - lim.window < a)) ++ [t],
          some (t + (lim.window + minute))⟩ := if_neg hexp
    rw [hkeep]
    simp only [Bucket.zRemRangeByScore, List.filter_append, filter_lt_mono _
      (show t - lim.window ≤ t' - lim.window by omega)]

/-- A call answers as the window does, and keeps the refinement with its own admission
added when it is admitted. -/
theorem Refines.allow (h : Refines lim b admitted tl) (ht : tl ≤ t) :
    (allowAlone lim b t).2 =
        decide (((admitted.filter fun a => decide (t - lim.window < a)).length : Int) <
          lim.maxPerHour) ∧
      Refines lim (allowAlone lim b t).1
        (if decide (((admitted.filter fun a => decide (t - lim.window < a)).length : Int) <
          lim.maxPerHour) then admitted ++ [t] else admitted) t := by
  have htrim := h.trim ht
  rw [allowAlone_eq, h.counted t ht]
  by_cases hlim : lim.maxPerHour ≤ (admitted.filter fun a => decide (t - lim.window < a)).length
  · simp only [hlim, if_true, Int.not_lt.mpr hlim, decide_False, Bool.false_eq_true, if_false,
      true_and]
    exact htrim
  · simp only [hlim, if_false, Int.not_le.mp hlim, decide_True, if_true, true_and]
    exact Refines.record htrim.le_last

/-- From a refining bucket, events at times from `tl` on, in order, are answered as the
window answers them. -/
theorem bucketRun_eq_slidingRun (lim : RedisRecipientLimiter) :
    ∀ (es : List BucketEvent) (b : Bucket) (admitted : List Int) (tl : Int),
      Refines lim b admitted tl → (∀ e ∈ es, tl ≤ e.time) →
      (es.map BucketEvent.time).Pairwise (· ≤ ·) →
      bucketRun lim b es = slidingRun lim (fun t a => decide (t - lim.window < a)) admitted es
  | [], _, _, _, _, _, _ => rfl
  | .allow t :: es, b, admitted, tl, h, hle, hs => by
    rw [List.map_cons, List.pairwise_cons] at hs
    have ht : tl ≤ t := hle _ (List.mem_cons_self _ _)
    obtain ⟨hok, href⟩ := h.allow ht
    rw [bucketRun, slidingRun, hok]
    exact congrArg _ (bucketRun_eq_slidingRun lim es _ _ t href
      (fun e he => hs.1 _ (List.mem_map_of_mem _ he)) hs.2)
  | .expire t :: es, b, admitted, tl, h, hle, hs => by
    rw [List.map_cons, List.pairwise_cons] at hs
    rw [bucketRun, slidingRun]
    have ht : tl ≤ t := hle _ (List.mem_cons_self _ _)
    exact bucketRun_eq_slidingRun lim es _ _ t (h.expire ht)
      (fun e he => hs.1 _ (List.mem_map_of_mem _ he)) hs.2

/-- Refinement: calls of `Allow` for one recipient one after another at non-decreasing
times, every command answered and the key expiring whenever its TTL allows, answer as
the sliding window over `(t - window, t]`. -/
theorem bucketRun_eq_windowRun (lim : RedisRecipientLimiter) (es : List BucketEvent)
    (hs : (es.map BucketEvent.time).Pairwise (· ≤ ·)) :
    bucketRun lim Bucket.empty es = windowRun lim [] es := by
  cases es with
  | nil => rfl
  | cons e es =>
    refine bucketRun_eq_slidingRun lim _ _ _ e.time (Refines.empty lim _) (fun e' he' => ?_) hs
    rcases List.mem_cons.mp he' with rfl | he'
    · exact Int.le_refl _
    · rw [List.map_cons, List.pairwise_cons] at hs
      exact hs.1 _ (List.mem_map_of_mem _ he')

/-- Three calls at time 0 and one an hour later, the key expiring in between when it can:
the times are in order, and the limiter of three per hour answers as its window. -/
theorem bucketRun_eq_windowRun_hour :
    ([BucketEvent.allow 0, .allow 0, .allow 0, .expire hour, .allow hour].map
        BucketEvent.time).Pairwise (· ≤ ·) ∧
      bucketRun (newRedisRecipientLimiter 3) Bucket.empty
          [.allow 0, .allow 0, .allow 0, .expire hour, .allow hour] =
        windowRun (newRedisRecipientLimiter 3) []
          [.allow 0, .allow 0, .allow 0, .expire hour, .allow hour] :=
  ⟨by decide, bucketRun_eq_windowRun _ _ (by decide)⟩

/-! ## The spec's window -/

/-- Three admissions at time 0 and a fourth call exactly one hour later, with the default
limit of three per hour: `Allow` admits all four, since the first pipeline drops the
entries scored `hour - hour = 0`; the spec's window still counts them and refuses the
fourth call. -/
theorem allow_admits_at_window_boundary :
    bucketRun (newRedisRecipientLimiter 3) Bucket.empty
        [.allow 0, .allow 0, .allow 0, .allow hour] = [true, true, true, true] ∧
      specWindowRun (newRedisRecipientLimiter 3) []
        [.allow 0, .allow 0, .allow 0, .allow hour] = [true, true, true, false] := by
  decide

end Notifly
