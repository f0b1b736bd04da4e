import Notifly.Worker

/-!
# The reaper

`Reaper.sweep` (`reaper.go`), one step per call to the outside world.  The sweep computes
`olderThan = now - StaleThreshold` when it starts, then:

1. `ListStale(olderThan, BatchSize)`; an error ends the sweep;
2. for each listed record, `UpdateStatus(id, queued, "", "")`; an error skips the record;
3. then `EnqueueSendNotification(id)`; an error skips to the next record.

The reset is an UPDATE keyed by the id alone.  It does not repeat the conditions of
`ListStale`, so it lands on whatever the record has become since the scan.

`SweepMove` lists the branches of `sweepStep` with their next states.

`sweepAlone` runs one sweep to its return with no other step in between, the environment
answering each call through `ask`.  `sweepAlone_eq` is its whole effect, for every table
and every answer of every call: the loop handles each listed record once, in list order,
whatever failed before it.  A record's reset lands as `UpdateStatus(queued, "", "")`,
which writes the status and `updated_at` and leaves `error_message` and `provider_id` as
they were, and its task is pushed when the reset reported success and the enqueue
landed.  `sweepAlone_postcondition` is the same effect for a sweep whose `ListStale`
succeeds, with each reset row written out as the old row with a new status and
`updated_at`.
-/

namespace Notifly

/-- One step of `Reaper.sweep`, for a sweep that started with bound `olderThan`. -/
def sweepStep (cfg : Config) (s : Sys) (olderThan : Int) : SweepPc → Reply → Sys × SweepPc
  | .list, r =>
    match r.fault with
    | some _ => (s, .done)
    | none => (s, .reset (listStale s.logs olderThan cfg.reaper.batchSize))
  | .reset [], _ => (s, .done)
  | .reset (l :: rest), r =>
    (s.write r (updateStatus s.logs l.id .queued "" "" s.now),
      if r.fault = none then .requeue l rest else .reset rest)
  | .requeue l rest, r => (if r.lands then s.pushTask l.id else s, .reset rest)
  | .done, _ => (s, .done)

/-- The branches of `sweepStep`, each with its next state. -/
inductive SweepMove (cfg : Config) (s : Sys) (olderThan : Int) :
    SweepPc → Reply → Sys → SweepPc → Prop where
  | listFailed {r : Reply} : SweepMove cfg s olderThan .list r s .done
  | listed {r : Reply} :
      SweepMove cfg s olderThan .list r s
        (.reset (listStale s.logs olderThan cfg.reaper.batchSize))
  | finished {r : Reply} : SweepMove cfg s olderThan (.reset []) r s .done
  | reset {r : Reply} {l : NotificationLog} {rest : List NotificationLog} : r.fault = none →
      SweepMove cfg s olderThan (.reset (l :: rest)) r
        (s.write r (updateStatus s.logs l.id .queued "" "" s.now)) (.requeue l rest)
  | resetFailed {r : Reply} {l : NotificationLog} {rest : List NotificationLog} :
      SweepMove cfg s olderThan (.reset (l :: rest)) r
        (s.write r (updateStatus s.logs l.id .queued "" "" s.now)) (.reset rest)
  | requeued {r : Reply} {l : NotificationLog} {rest : List NotificationLog} :
      SweepMove cfg s olderThan (.requeue l rest) r (s.pushTask l.id) (.reset rest)
  | requeueLost {r : Reply} {l : NotificationLog} {rest : List NotificationLog} :
      SweepMove cfg s olderThan (.requeue l rest) r s (.reset rest)
  | returned {r : Reply} : SweepMove cfg s olderThan .done r s .done

/-- Every step of `sweep` is one of the branches of `SweepMove`. -/
theorem sweepStep_move {cfg : Config} {s s' : Sys} {olderThan : Int} {pc pc' : SweepPc}
    {r : Reply} (h : sweepStep cfg s olderThan pc r = (s', pc')) :
    SweepMove cfg s olderThan pc r s' pc' := by
  cases pc with
  | list =>
    simp only [sweepStep] at h
    split at h <;> cases h
    · exact .listFailed
    · exact .listed
  | reset rest =>
    cases rest with
    | nil => cases h; exact .finished
    | cons l rest =>
      simp only [sweepStep] at h
      split at h <;> cases h
      · exact .reset ‹_›
      · exact .resetFailed
  | requeue l rest =>
    simp only [sweepStep] at h
    split at h <;> cases h
    · exact .requeued
    · exact .requeueLost
  | done => cases h; exact .returned

/-! ## One sweep alone -/

/-- `n` steps of one sweep with no other step in between; the environment answers the
call at point `pc` with `ask pc`. -/
def sweepRun (cfg : Config) (olderThan : Int) (ask : SweepPc → Reply) :
    Nat → Sys → SweepPc → Sys × SweepPc
  | 0, s, pc => (s, pc)
  | n + 1, s, pc =>
    sweepRun cfg olderThan ask n (sweepStep cfg s olderThan pc (ask pc)).1
      (sweepStep cfg s olderThan pc (ask pc)).2

/-- A whole sweep started at the clock of `s`, from `ListStale` to its return: two steps
per row of the table and one at each end are enough. -/
def sweepAlone (cfg : Config) (s : Sys) (ask : SweepPc → Reply) : Sys × SweepPc :=
  sweepRun cfg (s.now - cfg.reaper.staleThreshold) ask (2 * s.logs.length + 2) s .list

/-- The ids of the records of a batch whose reset lands. -/
def resetIds (ask : SweepPc → Reply) : List NotificationLog → List LogId
  | [] => []
  | l :: rest => (if (ask (.reset (l :: rest))).lands then [l.id] else []) ++ resetIds ask rest

/-- The ids of the records of a batch, in batch order, whose reset reports success and
whose enqueue lands. -/
def requeuedIds (ask : SweepPc → Reply) : List NotificationLog → List LogId
  | [] => []
  | l :: rest =>
    (if (ask (.reset (l :: rest))).fault = none ∧ (ask (.requeue l rest)).lands then [l.id]
      else []) ++ requeuedIds ask rest

/-- The system after the loop of a sweep over `rest`: the resets that land, and a fresh
task for each record that was requeued. -/
def Sys.afterSweep (s : Sys) (ask : SweepPc → Reply) (rest : List NotificationLog) : Sys :=
  { s with
    logs := s.logs.map fun l =>
      if l.id ∈ resetIds ask rest then l.applyStatus .queued "" "" s.now else l
    queue := s.queue ++ (requeuedIds ask rest).map fun id => ⟨id, 0⟩
    enqueued := s.enqueued ++ requeuedIds ask rest }

@[simp] theorem sweepRun_done (cfg : Config) (olderThan : Int) (ask : SweepPc → Reply)
    (n : Nat) (s : Sys) : sweepRun cfg olderThan ask n s .done = (s, .done) := by
  induction n with
  | zero => rfl
  | succ n ih => simp only [sweepRun, sweepStep, ih]

/-- A second reset of a row changes nothing. -/
@[simp] theorem applyStatus_queued_twice (l : NotificationLog) (now : Int) :
    (l.applyStatus .queued "" "" now).applyStatus .queued "" "" now =
      l.applyStatus .queued "" "" now := by
  simp [NotificationLog.applyStatus]

/-- The resets of a set of ids, after the reset of one more id. -/
theorem map_reset_updateStatus (t : List NotificationLog) (id : LogId) (ids : List LogId)
    (now : Int) :
    (updateStatus t id .queued "" "" now).map (fun l =>
        if l.id ∈ ids then l.applyStatus .queued "" "" now else l) =
      t.map fun l => if l.id ∈ id :: ids then l.applyStatus .queued "" "" now else l := by
  simp only [updateStatus, List.map_map]
  refine List.map_congr_left fun l _ => ?_
  by_cases h : l.id = id <;> simp [h]

@[simp] theorem Sys.afterSweep_nil (s : Sys) (ask : SweepPc → Reply) :
    s.afterSweep ask [] = s := by
  simp [Sys.afterSweep, resetIds, requeuedIds]

/-- The loop of a sweep over `l :: rest` is the handling of `l`, then the loop over
`rest`. -/
theorem Sys.afterSweep_cons (s : Sys) (ask : SweepPc → Reply) (l : NotificationLog)
    (rest : List NotificationLog) :
    s.afterSweep ask (l :: rest) =
      (let s₁ := s.write (ask (.reset (l :: rest))) (updateStatus s.logs l.id .queued "" "" s.now)
       if (ask (.reset (l :: rest))).fault = none ∧ (ask (.requeue l rest)).lands then
         s₁.pushTask l.id else s₁).afterSweep ask rest := by
  by_cases ha : (ask (.reset (l :: rest))).lands <;>
    by_cases hc : (ask (.reset (l :: rest))).fault = none ∧ (ask (.requeue l rest)).lands <;>
    simp [Sys.afterSweep, resetIds, requeuedIds, Sys.write, Sys.pushTask, ha, hc,
      map_reset_updateStatus]

/-- The loop of a sweep over `rest`, run alone with enough steps, returns with the state
`afterSweep`. -/
theorem sweepRun_reset (cfg : Config) (olderThan : Int) (ask : SweepPc → Reply) :
    ∀ (rest : List NotificationLog) (s : Sys) (n : Nat), 2 * rest.length + 1 ≤ n →
      sweepRun cfg olderThan ask n s (.reset rest) = (s.afterSweep ask rest, .done)
  | [], s, n + 1, _ => by simp [sweepRun, sweepStep]
  | l :: rest, s, n + 1, h => by
    rw [Sys.afterSweep_cons]
    rw [List.length_cons] at h
    by_cases hr : (ask (.reset (l :: rest))).fault = none
    · obtain ⟨m, rfl⟩ : ∃ m, n = m + 1 := ⟨n - 1, by omega⟩
      simp only [sweepRun, sweepStep, hr, if_true, true_and]
      exact sweepRun_reset cfg olderThan ask rest _ m (by omega)
    · simp only [sweepRun, sweepStep, hr, if_false, false_and]
      exact sweepRun_reset cfg olderThan ask rest _ n (by omega)

/-- A sweep whose `ListStale` succeeds handles every record that it returns, and
returns. -/
theorem sweepAlone_of_listed (cfg : Config) (s : Sys) {ask : SweepPc → Reply}
    (h : (ask .list).fault = none) :
    sweepAlone cfg s ask =
      (s.afterSweep ask
        (listStale s.logs (s.now - cfg.reaper.staleThreshold) cfg.reaper.batchSize), .done) := by
  have := length_listStale_le s.logs (s.now - cfg.reaper.staleThreshold) cfg.reaper.batchSize
  rw [sweepAlone, sweepRun]
  simp only [sweepStep, h]
  exact sweepRun_reset cfg _ ask _ s _ (by omega)

/-- The reset `UpdateStatus(id, queued, "", "")` writes the status and `updated_at` and
nothing else: the empty provider id and the empty message are not written. -/
theorem applyStatus_reset (l : NotificationLog) (now : Int) :
    l.applyStatus .queued "" "" now = { l with status := .queued, updatedAt := now } := by
  simp [NotificationLog.applyStatus]

/-- The postcondition of one sweep run alone whose `ListStale` succeeds, for every table
and every answer of every other call.  The sweep returns.  Each listed record whose reset
lands is `queued` with `updated_at` at the sweep's clock, and its other columns are as
they were, `error_message` among them: the reset passes an empty message, which
`UpdateStatus` does not write.  The records whose reset reported success and whose
enqueue landed get one task each, in list order.  Nothing else changes. -/
theorem sweepAlone_postcondition (cfg : Config) (s : Sys) (ask : SweepPc → Reply)
    (h : (ask .list).fault = none) :
    sweepAlone cfg s ask =
      ({ s with
          logs := s.logs.map fun l =>
            if l.id ∈ resetIds ask
                (listStale s.logs (s.now - cfg.reaper.staleThreshold) cfg.reaper.batchSize)
            then { l with status := .queued, updatedAt := s.now } else l
          queue := s.queue ++ (requeuedIds ask
            (listStale s.logs (s.now - cfg.reaper.staleThreshold) cfg.reaper.batchSize)).map
              fun id => ⟨id, 0⟩
          enqueued := s.enqueued ++ requeuedIds ask
            (listStale s.logs (s.now - cfg.reaper.staleThreshold) cfg.reaper.batchSize) },
        .done) := by
  simp only [sweepAlone_of_listed cfg s h, Sys.afterSweep, applyStatus_reset]

/-- A record left `processing` with the message of a failed send, eleven minutes old: a
sweep whose calls all succeed makes it `queued` at the sweep's clock, still with the
message, and gives it one task. -/
theorem sweepAlone_postcondition_stale :
    ∃ s : Sys, s.now = 660 * 1000000000 ∧
      s.logs = [{ NotificationLog.inserted "a" "" "email" "magic_link" "a@b.com" .processing 0
        with errorMessage := some "provider error: 503 service unavailable" }] ∧
      ((fun _ => {} : SweepPc → Reply) .list).fault = none ∧
      (sweepAlone defaultConfig s fun _ => {}).1.logs =
        [{ NotificationLog.inserted "a" "" "email" "magic_link" "a@b.com" .queued 0 with
          errorMessage := some "provider error: 503 service unavailable"
          updatedAt := 660 * 1000000000 }] ∧
      (sweepAlone defaultConfig s fun _ => {}).1.queue = [⟨"a", 0⟩] := by
  refine ⟨⟨660 * 1000000000, [{ NotificationLog.inserted "a" "" "email" "magic_link" "a@b.com"
    .processing 0 with errorMessage := some "provider error: 503 service unavailable" }], [],
    fun _ => Bucket.empty, [], [], []⟩, rfl, rfl, rfl, ?_⟩
  rw [sweepAlone_postcondition defaultConfig _ (fun _ => {}) rfl]
  decide

/-- What one sweep run alone does, for every table and every answer of every call: a
failing `ListStale` changes nothing; otherwise every listed record whose reset lands is
`queued` with `updated_at` at the sweep's clock and its other columns, `error_message`
among them, as they were; the records whose reset reported success and whose enqueue
landed get one task each, in list order; and nothing else changes. -/
theorem sweepAlone_eq (cfg : Config) (s : Sys) (ask : SweepPc → Reply) :
    sweepAlone cfg s ask =
      (if (ask .list).fault = none then
        s.afterSweep ask
          (listStale s.logs (s.now - cfg.reaper.staleThreshold) cfg.reaper.batchSize)
      else s, .done) := by
  unfold sweepAlone
  rw [sweepRun]
  cases h : (ask .list).fault with
  | some e => simp [sweepStep, h]
  | none =>
    simp only [sweepStep, h, if_true]
    have := length_listStale_le s.logs (s.now - cfg.reaper.staleThreshold) cfg.reaper.batchSize
    exact sweepRun_reset cfg _ ask _ s _ (by omega)

end Notifly
