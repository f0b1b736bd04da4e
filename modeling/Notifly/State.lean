import Notifly.Limiter
import Notifly.Webhook

/-!
# The state of the whole system

The two processes of the service share the store, the asynq queue and the limiter's
Redis.  Each call in flight, an intake `Service.Enqueue`, a `Worker.ProcessTask` that the
queue dispatched, or a `Reaper.sweep`, is a thread with its own local state:
`IntakePc`, `WorkerPc` and `SweepPc` are the points of the Go functions between two
calls to the outside world, with the locals that are live there.  Local computation
(validation, the choice of the provider, building a response) happens inside the step
that precedes it, so every step is exactly one call to the store, the queue, the
limiter, the renderer or a provider.

`Sys` holds the shared state, every call with its local state, and two ghost lists that
no code reads: `enqueued`, each log id that `EnqueueSendNotification` placed in the
queue, and `sends`, the log id of each `provider.Send`.  The properties of the pipeline
about "at least once" and "at most once" are stated over them.

A finished call stays in `calls` with its result, so a property of the calls that have
returned is a property of the states.
-/

namespace Notifly

/-- A `notification:send` task: the payload's `log_id`, and the retries asynq has made. -/
structure Task where
  logId : LogId
  retried : Nat
  deriving DecidableEq, Repr

/-- `ReaperConfig` as the worker's `main` builds it: the interval, the stale threshold
and the batch size, in nanoseconds and rows. -/
structure ReaperConfig where
  interval : Int
  staleThreshold : Int
  batchSize : Int
  deriving DecidableEq, Repr

/-- The reaper after `NewReaper` applied its defaults: every setting is positive. -/
structure Reaper where
  interval : Int
  staleThreshold : Int
  batchSize : Int
  interval_pos : 0 < interval
  staleThreshold_pos : 0 < staleThreshold
  batchSize_pos : 0 < batchSize

/-- `NewReaper`: five minutes, ten minutes and fifty rows replace a non-positive interval,
threshold and batch size.  The interval is the period of the ticker of `Reaper.Run`
(`reaperRun`); in the system of all calls a sweep may start at any time. -/
def newReaper (cfg : ReaperConfig) : Reaper where
  interval := if cfg.interval ≤ 0 then 5 * minute else cfg.interval
  staleThreshold := if cfg.staleThreshold ≤ 0 then 10 * minute else cfg.staleThreshold
  batchSize := if cfg.batchSize ≤ 0 then 50 else cfg.batchSize
  interval_pos := by
    show 0 < if cfg.interval ≤ 0 then 5 * minute else cfg.interval
    split
    · simp [minute]
    · omega
  staleThreshold_pos := by
    show 0 < if cfg.staleThreshold ≤ 0 then 10 * minute else cfg.staleThreshold
    split
    · simp [minute]
    · omega
  batchSize_pos := by
    show 0 < if cfg.batchSize ≤ 0 then 50 else cfg.batchSize
    split <;> omega

/-- The wiring of the two `main` functions: the recipient limiter of the service, the
`MaxRetry` of every enqueued task, the channels that have a provider, and the reaper. -/
structure Config where
  limiter : RedisRecipientLimiter
  maxRetry : Nat
  providers : List String
  reaper : Reaper

/-- The wiring with the defaults of `config.Load`: three admissions per recipient and
hour, five retries, the email provider, and the reaper at ten minutes and fifty rows. -/
def defaultConfig : Config where
  limiter := newRedisRecipientLimiter 3
  maxRetry := 5
  providers := ["email"]
  reaper := newReaper ⟨300 * 1000000000, 600 * 1000000000, 50⟩

/-- The local state of `Service.Enqueue`. -/
inductive IntakePc where
  /-- Validated, with a non-empty key; `GetByIdempotencyKey` is next. -/
  | lookup
  /-- Inside `RecipientRateLimiter.Allow`. -/
  | allow (pc : AllowPc)
  /-- `Create` is next. -/
  | create
  /-- The record `id` exists; `EnqueueSendNotification` is next. -/
  | enqueue (id : LogId)
  /-- The enqueue failed with `err`; the best-effort `UpdateStatus(failed)` is next. -/
  | markFailed (id : LogId) (err : String)
  /-- Returned the existing record of the idempotency key. -/
  | replied (resp : SendResponse)
  /-- Returned the record that this call created and enqueued. -/
  | accepted (resp : SendResponse)
  /-- Returned an error. -/
  | rejected (err : AppError)
  deriving DecidableEq, Repr

/-- The local state of `Worker.ProcessTask`. -/
inductive WorkerPc where
  /-- `GetByID` is next. -/
  | load
  /-- Loaded `log`; `UpdateStatus(processing)` is next. -/
  | markProcessing (log : NotificationLog)
  /-- Type and channel checked; `Render` is next. -/
  | render (log : NotificationLog)
  /-- Rendered; `provider.Send` is next. -/
  | send (log : NotificationLog)
  /-- `Send` returned `providerId`; `UpdateStatus(sent)` is next. -/
  | markSent (log : NotificationLog) (providerId : String)
  /-- `UpdateStatus(failed, msg)` is next, then the call returns `err`. -/
  | markFailed (msg : String) (err : AppError)
  /-- Returned `nil` or an error. -/
  | done (err : Option AppError)
  deriving DecidableEq, Repr

/-- The local state of `Reaper.sweep`. -/
inductive SweepPc where
  /-- `ListStale` is next. -/
  | list
  /-- The records of the batch still to handle; the reset of the first is next. -/
  | reset (rest : List NotificationLog)
  /-- `log` was reset; its `EnqueueSendNotification` is next. -/
  | requeue (log : NotificationLog) (rest : List NotificationLog)
  /-- Returned. -/
  | done
  deriving DecidableEq, Repr

/-- A call in flight or returned. -/
inductive Call where
  | intake (req : SendRequest) (pc : IntakePc)
  | worker (task : Task) (pc : WorkerPc)
  | sweep (olderThan : Int) (pc : SweepPc)
  deriving DecidableEq, Repr

/-- The whole system. -/
structure Sys where
  now : Int
  logs : List NotificationLog
  queue : List Task
  buckets : String → Bucket
  calls : List Call
  enqueued : List LogId
  sends : List LogId

/-- An empty store, an empty queue, no bucket and no call. -/
def Sys.init : Sys := ⟨0, [], [], fun _ => Bucket.empty, [], [], []⟩

end Notifly
