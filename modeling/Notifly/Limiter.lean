import Notifly.Basic

/-!
# The per-recipient rate limiter

`RedisRecipientLimiter.Allow` (`resend.go` of the rate-limit package) keeps one Redis
sorted set per recipient, the bucket `notifly:ratelimit:<recipient>`, with one member per
admission scored by its time.  A call is two round trips:

1. the pipeline `ZREMRANGEBYSCORE key -inf windowStart` and `ZCARD key`; when the count is
   at least `maxPerHour` the call returns `(false, nil)`;
2. the pipeline `ZADD key now` and `EXPIRE key (window + 1 minute)`, then `(true, nil)`.

An error of either pipeline returns `(false, err)`.  `allowStep` is one round trip, and
`AllowPc` is the local state of a call between them: the time that it read at its
start, and how far it got.

`ZREMRANGEBYSCORE` bounds are inclusive, so the first pipeline drops the entries scored
exactly `now - window` too.  Each member is the admission time followed by four random
bytes, so two admissions never share a member and the set is the list of its scores.
Redis drops a key once its TTL has passed, and `Bucket.at` is the bucket as a command
sees it.

`LimiterSys` runs any number of concurrent calls on the buckets.  The round trips of
different calls interleave in any order, and the ghost list `admitted` records every
call that returned `(true, nil)` with its admission time.  A call records only after its
own count saw fewer than `maxPerHour` entries, but nothing makes the count and the insert
of a call one atomic step: `allow_race_exceeds_limit` is a run in which two calls both
count below a limit of one and both record.
-/

namespace Notifly

/-- `time.Minute` in nanoseconds. -/
def minute : Int := 60 * 1000000000

/-- `time.Hour` in nanoseconds. -/
def hour : Int := 60 * minute

/-- `RedisRecipientLimiter`: at most `maxPerHour` admissions per `window`. -/
structure RedisRecipientLimiter where
  maxPerHour : Int
  window : Int
  deriving DecidableEq, Repr

/-- `NewRedisRecipientLimiter`: the window is one hour. -/
def newRedisRecipientLimiter (maxPerHour : Int) : RedisRecipientLimiter :=
  ⟨maxPerHour, hour⟩

/-- The Redis key of a recipient's bucket. -/
def rateLimitKey (recipient : String) : String := "notifly:ratelimit:" ++ recipient

/-- A sorted set with its TTL: the scores of its members and the time at which Redis
drops the key. -/
structure Bucket where
  scores : List Int
  expireAt : Option Int
  deriving DecidableEq, Repr

/-- A key that does not exist. -/
def Bucket.empty : Bucket := ⟨[], none⟩

/-- The bucket as a command at server time `now` sees it. -/
def Bucket.at (b : Bucket) (now : Int) : Bucket :=
  match b.expireAt with
  | some t => if t < now then Bucket.empty else b
  | none => b

/-- `ZREMRANGEBYSCORE key -inf hi`: drop every member scored at most `hi`. -/
def Bucket.zRemRangeByScore (b : Bucket) (hi : Int) : Bucket :=
  { b with scores := b.scores.filter fun x => hi < x }

/-- `ZADD key score`, then `EXPIRE key ttl` at server time `now`. -/
def Bucket.zAddExpire (b : Bucket) (score ttl now : Int) : Bucket :=
  ⟨b.scores ++ [score], some (now + ttl)⟩

/-- The local state of one `Allow` call. -/
inductive AllowPc where
  /-- Read `time.Now()`; the first pipeline is next. -/
  | count (now : Int)
  /-- Counted below the limit; the second pipeline is next. -/
  | record (now : Int)
  /-- Returned `(allowed, err)`. -/
  | done (allowed : Bool) (err : Option String)
  deriving DecidableEq, Repr

/-- One round trip of `Allow` on the bucket of its key, at server time `serverNow`.  A
failing pipeline that still ran changes the bucket as the successful one would.

Scores are exact nanoseconds here.  Redis keeps a score as a float64: the member's
`float64(now.UnixNano())` and the bound `windowStart.UnixNano()`, which Redis parses from
its decimal text, are rounded to a multiple of 256 ns for today's times (between 2^60 and
2^61 ns).  That rounding is not modelled, so the model and Redis may differ on an entry
within 256 ns of the window's edge. -/
def allowStep (lim : RedisRecipientLimiter) (serverNow : Int) (b : Bucket) :
    AllowPc → Reply → Bucket × AllowPc
  | .count now, r =>
    let b' := (b.at serverNow).zRemRangeByScore (now - lim.window)
    match r.fault with
    | some e =>
      (if r.applied then b' else b, .done false (some ("checking recipient rate limit: " ++ e)))
    | none =>
      (b', if lim.maxPerHour ≤ b'.scores.length then .done false none else .record now)
  | .record now, r =>
    let b' := (b.at serverNow).zAddExpire now (lim.window + minute) serverNow
    match r.fault with
    | some e =>
      (if r.applied then b' else b, .done false (some ("recording rate limit entry: " ++ e)))
    | none => (b', .done true none)
  | .done a e, _ => (b, .done a e)

/-! ## Concurrent calls -/

/-- Concurrent `Allow` calls on the limiter's Redis: the server clock, the buckets by key,
every call with its recipient and local state, and the ghost list of admissions. -/
structure LimiterSys where
  now : Int
  buckets : String → Bucket
  calls : List (String × AllowPc)
  admitted : List (String × Int)

/-- No key, no call. -/
def LimiterSys.init : LimiterSys := ⟨0, fun _ => Bucket.empty, [], []⟩

/-- The steps of the limiter's environment and of its calls. -/
inductive LimiterAct where
  /-- The clock advances. -/
  | tick (dt : Nat)
  /-- A new `Allow(recipient)` call reads the clock. -/
  | call (recipient : String)
  /-- Call `i` runs its next round trip, and Redis answers `r`. -/
  | advance (i : Nat) (r : Reply)

/-- Replace the bucket of one key. -/
def setBucket (buckets : String → Bucket) (key : String) (b : Bucket) : String → Bucket :=
  fun k => if k = key then b else buckets k

/-- The admission that a round trip completes: the second pipeline of a call that
returns `(true, nil)`. -/
def admission (recipient : String) : AllowPc → AllowPc → List (String × Int)
  | .record now, .done true none => [(recipient, now)]
  | _, _ => []

/-- One step of the limiter. -/
def LimiterSys.step (lim : RedisRecipientLimiter) (s : LimiterSys) :
    LimiterAct → Option LimiterSys
  | .tick dt => some { s with now := s.now + dt }
  | .call recipient => some { s with calls := s.calls ++ [(recipient, .count s.now)] }
  | .advance i r =>
    match s.calls[i]? with
    | none => none
    | some (recipient, pc) =>
      let key := rateLimitKey recipient
      let (b, pc') := allowStep lim s.now (s.buckets key) pc r
      some { s with
        buckets := setBucket s.buckets key b
        calls := s.calls.set i (recipient, pc')
        admitted := s.admitted ++ admission recipient pc pc' }

/-- The admissions of `recipient` with a time in `(t - window, t]`. -/
def admittedIn (s : LimiterSys) (recipient : String) (window t : Int) : List Int :=
  (s.admitted.filter fun a => a.1 = recipient && decide (t - window < a.2 ∧ a.2 ≤ t)).map
    (·.2)

/-- Two calls for one recipient at the same time, with `maxPerHour = 1`: both count an
empty bucket before either records, so both return `(true, nil)`. -/
def allowRace : List LimiterAct :=
  [.call "a@b.com", .call "a@b.com", .advance 0 {}, .advance 1 {}, .advance 0 {},
    .advance 1 {}]

theorem allow_race_exceeds_limit :
    ∃ s, Reachable (LimiterSys.step ⟨1, hour⟩) (fun _ => True) LimiterSys.init s ∧
      (admittedIn s "a@b.com" hour 0).length = 2 := by
  obtain ⟨s, hs, h⟩ := Reachable.of_run_map (fun _ _ => trivial)
    (by decide : (run (LimiterSys.step ⟨1, hour⟩) LimiterSys.init allowRace).map
      (fun s => (admittedIn s "a@b.com" hour 0).length == 2) = some true)
  exact ⟨s, hs, by simpa using h⟩

end Notifly
