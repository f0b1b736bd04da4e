import Notifly.Intake

/-!
# The worker

`Worker.ProcessTask` (`NewWorker` and `ProcessTask` in the worker file of the domain
package), one step per call to the outside world:

1. `GetByID`; an error or a missing record returns an error;
2. `UpdateStatus(processing)`, whose error is only logged; then the type and the provider
   of the channel are checked, and a failed check goes to step 6;
3. `Render`; an error goes to step 6;
4. `provider.Send`; an error goes to step 6;
5. `UpdateStatus(sent, providerID)`, whose error is only logged, and the call returns
   `nil`;
6. `UpdateStatus(failed, msg)`, whose error is ignored, and the call returns the error.

When the call returns an error, asynq puts the task back while it has retries left
(`Sys.retry`).  Nothing in the call reads the status of the record it loaded: a task of
a record that is already `sent`, `delivered` or `opened` is processed like any other.

`WorkerMove` lists the branches of `workerStep` with their next states, as `IntakeMove`
does for the intake.  `processTaskAlone` runs one call to its return with no other call
in between, the environment answering each call site through `ask`, and
`processTask_outcome` says what the result of such a run tells about the stored record.
-/

namespace Notifly

/-- A write that takes effect only when its reply lands. -/
def Sys.write (s : Sys) (r : Reply) (logs : List NotificationLog) : Sys :=
  if r.lands then { s with logs := logs } else s

/-- asynq after the handler returned: a failed task goes back to the queue while it has
retries left. -/
def Sys.retry (cfg : Config) (s : Sys) (task : Task) : Option AppError → Sys
  | none => s
  | some _ =>
    if task.retried < cfg.maxRetry then
      { s with queue := s.queue ++ [⟨task.logId, task.retried + 1⟩] }
    else s

/-- The checks after the write of `processing`: the type, then the provider of the
channel. -/
def afterProcessing (cfg : Config) (l : NotificationLog) : WorkerPc :=
  if isValidType l.type = false then
    .markFailed ("unsupported notification type: " ++ l.type)
      (.validation ("unsupported notification type: " ++ l.type))
  else if cfg.providers.contains l.channel = false then
    .markFailed ("unsupported channel: " ++ l.channel)
      (.validation ("unsupported channel: " ++ l.channel))
  else .render l

/-- `GetByID` as the worker sees it, the store answering `r`. -/
def loadLog (t : List NotificationLog) (id : LogId) (r : Reply) :
    Except String (Option NotificationLog) :=
  match r.fault with
  | some e => .error ("fetching notification log: " ++ e)
  | none => getByID t id

/-- One step of `ProcessTask` for `task`. -/
def workerStep (cfg : Config) (s : Sys) (task : Task) : WorkerPc → Reply → Sys × WorkerPc
  | .load, r =>
    match loadLog s.logs task.logId r with
    | .error e =>
      let err := AppError.wrapped ("fetching notification log " ++ task.logId ++ ": " ++ e)
      (s.retry cfg task (some err), .done (some err))
    | .ok none =>
      let err := AppError.wrapped ("notification log not found: " ++ task.logId)
      (s.retry cfg task (some err), .done (some err))
    | .ok (some l) => (s, .markProcessing l)
  | .markProcessing l, r =>
    (s.write r (updateStatus s.logs task.logId .processing "" "" s.now), afterProcessing cfg l)
  | .render l, r =>
    match r.fault with
    | some e =>
      (s, .markFailed ("rendering template: " ++ e)
        (.wrapped ("rendering template " ++ l.type ++ ": " ++ e)))
    | none => (s, .send l)
  | .send l, r =>
    let s' := { s with sends := s.sends ++ [task.logId] }
    match r.fault with
    | some e => (s', .markFailed ("provider error: " ++ e) (.provider l.channel e))
    | none => (s', .markSent l r.providerId)
  | .markSent _ pid, r =>
    (s.write r (updateStatus s.logs task.logId .sent pid "" s.now), .done none)
  | .markFailed msg err, r =>
    ((s.write r (updateStatus s.logs task.logId .failed "" msg s.now)).retry cfg task (some err),
      .done (some err))
  | .done e, _ => (s, .done e)

/-- The branches of `workerStep`, each with the reply that selects it and its next
state. -/
inductive WorkerMove (cfg : Config) (s : Sys) (task : Task) :
    WorkerPc → Reply → Sys → WorkerPc → Prop where
  | loadFailed {r : Reply} {err : AppError} :
      WorkerMove cfg s task .load r (s.retry cfg task (some err)) (.done (some err))
  | loaded {r : Reply} {l : NotificationLog} : getByID s.logs task.logId = .ok (some l) →
      WorkerMove cfg s task .load r s (.markProcessing l)
  | markProcessing {r : Reply} {l : NotificationLog} :
      WorkerMove cfg s task (.markProcessing l) r
        (s.write r (updateStatus s.logs task.logId .processing "" "" s.now))
        (afterProcessing cfg l)
  | renderFailed {r : Reply} {l : NotificationLog} {e : String} {err : AppError} :
      r.fault = some e →
      WorkerMove cfg s task (.render l) r s (.markFailed ("rendering template: " ++ e) err)
  | rendered {r : Reply} {l : NotificationLog} :
      WorkerMove cfg s task (.render l) r s (.send l)
  | sendFailed {r : Reply} {l : NotificationLog} {e : String} {err : AppError} :
      r.fault = some e →
      WorkerMove cfg s task (.send l) r { s with sends := s.sends ++ [task.logId] }
        (.markFailed ("provider error: " ++ e) err)
  | sent {r : Reply} {l : NotificationLog} : r.fault = none →
      WorkerMove cfg s task (.send l) r { s with sends := s.sends ++ [task.logId] }
        (.markSent l r.providerId)
  | markSent {r : Reply} {l : NotificationLog} {pid : String} :
      WorkerMove cfg s task (.markSent l pid) r
        (s.write r (updateStatus s.logs task.logId .sent pid "" s.now)) (.done none)
  | markFailed {r : Reply} {msg : String} {err : AppError} :
      WorkerMove cfg s task (.markFailed msg err) r
        ((s.write r (updateStatus s.logs task.logId .failed "" msg s.now)).retry cfg task
          (some err))
        (.done (some err))
  | returned {r : Reply} {e : Option AppError} : WorkerMove cfg s task (.done e) r s (.done e)

/-- Every step of `ProcessTask` is one of the branches of `WorkerMove`. -/
theorem workerStep_move {cfg : Config} {s s' : Sys} {task : Task} {pc pc' : WorkerPc}
    {r : Reply} (h : workerStep cfg s task pc r = (s', pc')) :
    WorkerMove cfg s task pc r s' pc' := by
  cases pc with
  | load =>
    simp only [workerStep] at h
    split at h
    · cases h; exact .loadFailed
    · cases h; exact .loadFailed
    · rename_i l hl
      cases h
      unfold loadLog at hl
      split at hl
      · cases hl
      · exact .loaded hl
  | markProcessing l => cases h; exact .markProcessing
  | render l =>
    simp only [workerStep] at h
    split at h <;> cases h
    · exact .renderFailed ‹_›
    · exact .rendered
  | send l =>
    simp only [workerStep] at h
    split at h <;> cases h
    · exact .sendFailed ‹_›
    · exact .sent ‹_›
  | markSent l pid => cases h; exact .markSent
  | markFailed msg err => cases h; exact .markFailed
  | done e => cases h; exact .returned

@[simp] theorem Sys.write_now (s : Sys) (r : Reply) (t : List NotificationLog) :
    (s.write r t).now = s.now := by unfold Sys.write; split <;> rfl

@[simp] theorem Sys.write_calls (s : Sys) (r : Reply) (t : List NotificationLog) :
    (s.write r t).calls = s.calls := by unfold Sys.write; split <;> rfl

@[simp] theorem Sys.write_queue (s : Sys) (r : Reply) (t : List NotificationLog) :
    (s.write r t).queue = s.queue := by unfold Sys.write; split <;> rfl

@[simp] theorem Sys.write_sends (s : Sys) (r : Reply) (t : List NotificationLog) :
    (s.write r t).sends = s.sends := by unfold Sys.write; split <;> rfl

@[simp] theorem Sys.write_enqueued (s : Sys) (r : Reply) (t : List NotificationLog) :
    (s.write r t).enqueued = s.enqueued := by unfold Sys.write; split <;> rfl

@[simp] theorem Sys.write_buckets (s : Sys) (r : Reply) (t : List NotificationLog) :
    (s.write r t).buckets = s.buckets := by unfold Sys.write; split <;> rfl

theorem Sys.write_logs (s : Sys) (r : Reply) (t : List NotificationLog) :
    (s.write r t).logs = if r.lands then t else s.logs := by unfold Sys.write; split <;> rfl

@[simp] theorem Sys.retry_now (cfg : Config) (s : Sys) (task : Task) (e : Option AppError) :
    (s.retry cfg task e).now = s.now := by unfold Sys.retry; split <;> (try split) <;> rfl

@[simp] theorem Sys.retry_logs (cfg : Config) (s : Sys) (task : Task) (e : Option AppError) :
    (s.retry cfg task e).logs = s.logs := by unfold Sys.retry; split <;> (try split) <;> rfl

@[simp] theorem Sys.retry_calls (cfg : Config) (s : Sys) (task : Task) (e : Option AppError) :
    (s.retry cfg task e).calls = s.calls := by unfold Sys.retry; split <;> (try split) <;> rfl

@[simp] theorem Sys.retry_sends (cfg : Config) (s : Sys) (task : Task) (e : Option AppError) :
    (s.retry cfg task e).sends = s.sends := by unfold Sys.retry; split <;> (try split) <;> rfl

@[simp] theorem Sys.retry_enqueued (cfg : Config) (s : Sys) (task : Task) (e : Option AppError) :
    (s.retry cfg task e).enqueued = s.enqueued := by
  unfold Sys.retry; split <;> (try split) <;> rfl

@[simp] theorem Sys.retry_buckets (cfg : Config) (s : Sys) (task : Task) (e : Option AppError) :
    (s.retry cfg task e).buckets = s.buckets := by
  unfold Sys.retry; split <;> (try split) <;> rfl

/-- The queue after a retry: the task again, with one more retry, or nothing. -/
theorem Sys.retry_queue (cfg : Config) (s : Sys) (task : Task) (e : Option AppError) :
    (s.retry cfg task e).queue = s.queue ∨
      (s.retry cfg task e).queue = s.queue ++ [⟨task.logId, task.retried + 1⟩] := by
  unfold Sys.retry; split
  · exact .inl rfl
  · split
    · exact .inr rfl
    · exact .inl rfl

/-- No step of `ProcessTask` moves the clock or touches the other calls. -/
theorem WorkerMove.frame {cfg : Config} {s s' : Sys} {task : Task} {pc pc' : WorkerPc}
    {r : Reply} (h : WorkerMove cfg s task pc r s' pc') :
    s'.now = s.now ∧ s'.calls = s.calls := by
  cases h <;> simp

/-! ## One call alone -/

/-- `n` steps of one `ProcessTask` call with no other step in between; the environment
answers the call at point `pc` with `ask pc`. -/
def workerRun (cfg : Config) (task : Task) (ask : WorkerPc → Reply) :
    Nat → Sys → WorkerPc → Sys × WorkerPc
  | 0, s, pc => (s, pc)
  | n + 1, s, pc =>
    workerRun cfg task ask n (workerStep cfg s task pc (ask pc)).1
      (workerStep cfg s task pc (ask pc)).2

/-- A whole `ProcessTask` call, from `GetByID` to its return. -/
def processTaskAlone (cfg : Config) (s : Sys) (task : Task) (ask : WorkerPc → Reply) :
    Sys × WorkerPc :=
  workerRun cfg task ask 5 s .load

/-- The steps that a call at `pc` has left before it returns. -/
def WorkerPc.left : WorkerPc → Nat
  | .load => 5
  | .markProcessing _ => 4
  | .render _ => 3
  | .send _ => 2
  | .markSent _ _ => 1
  | .markFailed _ _ => 1
  | .done _ => 0

/-- After the write of `processing` the call either renders or fails with a non-empty
message. -/
theorem afterProcessing_cases (cfg : Config) (l : NotificationLog) :
    afterProcessing cfg l = .render l ∨
      ∃ msg err, afterProcessing cfg l = .markFailed msg err ∧ msg ≠ "" := by
  unfold afterProcessing
  split
  · exact .inr ⟨_, _, rfl, append_ne_empty (by decide)⟩
  · split
    · exact .inr ⟨_, _, rfl, append_ne_empty (by decide)⟩
    · exact .inl rfl

/-- Every step of a call that has not returned brings it closer to its return. -/
theorem WorkerMove.left_lt {cfg : Config} {s s' : Sys} {task : Task} {pc pc' : WorkerPc}
    {r : Reply} (h : WorkerMove cfg s task pc r s' pc') (hpc : pc.left ≠ 0) :
    pc'.left < pc.left := by
  cases h with
  | markProcessing =>
    rcases afterProcessing_cases cfg ‹_› with h | ⟨_, _, h, -⟩ <;> simp [h, WorkerPc.left]
  | returned => simp [WorkerPc.left] at hpc
  | _ => simp [WorkerPc.left]

@[simp] theorem workerRun_done (cfg : Config) (task : Task) (ask : WorkerPc → Reply) (n : Nat)
    (s : Sys) (e : Option AppError) : workerRun cfg task ask n s (.done e) = (s, .done e) := by
  induction n with
  | zero => rfl
  | succ n ih => simp only [workerRun, workerStep, ih]

/-- A call returns once it has had as many steps as it has left. -/
theorem workerRun_returns (cfg : Config) (task : Task) (ask : WorkerPc → Reply) (n : Nat) :
    ∀ (s : Sys) (pc : WorkerPc), pc.left ≤ n →
      ∃ e, (workerRun cfg task ask n s pc).2 = .done e := by
  induction n with
  | zero =>
    intro s pc h
    cases pc <;> simp [WorkerPc.left] at h
    exact ⟨_, rfl⟩
  | succ n ih =>
    intro s pc h
    by_cases h0 : pc.left = 0
    · cases pc <;> simp [WorkerPc.left] at h0
      exact ⟨_, by rw [workerRun_done]⟩
    · have hm : WorkerMove cfg s task pc (ask pc) (workerStep cfg s task pc (ask pc)).1
          (workerStep cfg s task pc (ask pc)).2 := workerStep_move rfl
      exact ih _ _ (by have := hm.left_lt h0; omega)

/-- `ProcessTask` run alone always returns. -/
theorem processTaskAlone_returns (cfg : Config) (s : Sys) (task : Task)
    (ask : WorkerPc → Reply) : ∃ e, (processTaskAlone cfg s task ask).2 = .done e :=
  workerRun_returns cfg task ask 5 s .load (le_refl _)

/-- `GetByID` after a write of the same id: the updated row when the write lands. -/
theorem getByID_write {s : Sys} {id : LogId} {l : NotificationLog}
    (h : getByID s.logs id = .ok (some l)) (r : Reply) (st : NotificationStatus) (p e : String)
    (now : Int) :
    getByID (s.write r (updateStatus s.logs id st p e now)).logs id =
      .ok (some (if r.lands then l.applyStatus st p e now else l)) := by
  rw [Sys.write_logs]
  split
  · exact getByID_updateStatus h st p e now
  · exact h

/-- The last write of a failed call: when it lands, the record is `failed` with the
call's message. -/
theorem getByID_markFailed {cfg : Config} {s : Sys} {task : Task} {l : NotificationLog}
    (h : getByID s.logs task.logId = .ok (some l)) {r : Reply} (hr : r.lands = true)
    {msg : String} (hmsg : msg ≠ "") (now : Int) (err : Option AppError) :
    ∃ row, getByID ((s.write r (updateStatus s.logs task.logId .failed "" msg now)).retry
        cfg task err).logs task.logId = .ok (some row) ∧
      row.status = .failed ∧ row.errorMessage = some msg := by
  refine ⟨_, by rw [Sys.retry_logs, getByID_write h, if_pos hr], rfl, ?_⟩
  simp [NotificationLog.applyStatus, hmsg]

/-- The outcome of a call whose last write is `failed` with a non-empty message, on a
record that the call reads back: it did not return `nil`, and when the write landed the
record holds the message. -/
theorem outcome_of_markFailed {cfg : Config} {s s' : Sys} {task : Task}
    {ask : WorkerPc → Reply} {l : NotificationLog} {msg : String} {err : AppError} {now : Int}
    (hout : processTaskAlone cfg s task ask =
      ((s'.write (ask (.markFailed msg err))
        (updateStatus s'.logs task.logId .failed "" msg now)).retry cfg task (some err),
        .done (some err)))
    (hl : getByID s'.logs task.logId = .ok (some l)) (hmsg : msg ≠ "")
    (hreach : ∃ n, (workerRun cfg task ask n s .load).2 = .markFailed msg err) :
    (processTaskAlone cfg s task ask).2 ≠ .done none ∧
      ∀ err', (processTaskAlone cfg s task ask).2 = .done (some err') →
        ∃ msg, msg ≠ "" ∧ (∃ n, (workerRun cfg task ask n s .load).2 = .markFailed msg err') ∧
          ((ask (.markFailed msg err')).lands = true →
            ∃ row, getByID (processTaskAlone cfg s task ask).1.logs task.logId = .ok (some row) ∧
              row.status = .failed ∧ row.errorMessage = some msg) := by
  rw [hout]
  refine ⟨by simp, fun err' h => ?_⟩
  cases h
  exact ⟨msg, hmsg, hreach, fun hw => getByID_markFailed hl hw hmsg _ _⟩

/-- What the result of `ProcessTask`, run alone, says about the stored record.  A `nil`
result means that the call loaded a record `l`, called `Send` for it with success and
reached the final `UpdateStatus(sent)`; the record is `sent`, with `sent_at` set and the
returned provider id when it is non-empty, provided that this write landed: its error is
only logged.  An error after the load means that the call reached `UpdateStatus(failed)`
with a non-empty message, and the record holds that message provided that this write
landed: its error is ignored. -/
theorem processTask_outcome (cfg : Config) (s : Sys) (task : Task) (ask : WorkerPc → Reply) :
    ((processTaskAlone cfg s task ask).2 = .done none →
      ∃ l, loadLog s.logs task.logId (ask .load) = .ok (some l) ∧
        (∃ n, (workerRun cfg task ask n s .load).2 =
          .markSent l (ask (.send l)).providerId) ∧
        (ask (.send l)).fault = none ∧
        (processTaskAlone cfg s task ask).1.sends = s.sends ++ [task.logId] ∧
        ((ask (.markSent l (ask (.send l)).providerId)).lands = true →
          ∃ row, getByID (processTaskAlone cfg s task ask).1.logs task.logId = .ok (some row) ∧
            row.status = .sent ∧ row.sentAt = some s.now ∧
            ((ask (.send l)).providerId ≠ "" →
              row.providerId = some (ask (.send l)).providerId))) ∧
    (∀ l err, loadLog s.logs task.logId (ask .load) = .ok (some l) →
      (processTaskAlone cfg s task ask).2 = .done (some err) →
      ∃ msg, msg ≠ "" ∧ (∃ n, (workerRun cfg task ask n s .load).2 = .markFailed msg err) ∧
        ((ask (.markFailed msg err)).lands = true →
          ∃ row, getByID (processTaskAlone cfg s task ask).1.logs task.logId = .ok (some row) ∧
            row.status = .failed ∧ row.errorMessage = some msg)) := by
  cases hload : loadLog s.logs task.logId (ask .load) with
  | error e =>
    have hout : (processTaskAlone cfg s task ask).2 = .done (some (.wrapped
        ("fetching notification log " ++ task.logId ++ ": " ++ e))) := by
      simp [processTaskAlone, workerRun, workerStep, hload]
    exact ⟨fun h => by simp [hout] at h, fun _ _ hl => by simp at hl⟩
  | ok o =>
    cases o with
    | none =>
      have hout : (processTaskAlone cfg s task ask).2 = .done (some (.wrapped
          ("notification log not found: " ++ task.logId))) := by
        simp [processTaskAlone, workerRun, workerStep, hload]
      exact ⟨fun h => by simp [hout] at h, fun _ _ hl => by simp at hl⟩
    | some l =>
      have hl : getByID s.logs task.logId = .ok (some l) := by
        unfold loadLog at hload; split at hload <;> simp_all
      -- the record after the write of `processing`
      let s1 := s.write (ask (.markProcessing l))
        (updateStatus s.logs task.logId .processing "" "" s.now)
      have h1 := getByID_write hl (ask (.markProcessing l)) .processing "" "" s.now
      have hrun : processTaskAlone cfg s task ask =
          workerRun cfg task ask 3 s1 (afterProcessing cfg l) := by
        simp [processTaskAlone, workerRun, workerStep, hload, s1]
      rcases afterProcessing_cases cfg l with hap | ⟨msg, err, hap, hmsg⟩
      · cases hr : (ask (.render l)).fault with
        | some e =>
          have hout : processTaskAlone cfg s task ask =
              ((s1.write (ask (.markFailed ("rendering template: " ++ e)
                (.wrapped ("rendering template " ++ l.type ++ ": " ++ e))))
                (updateStatus s1.logs task.logId .failed "" ("rendering template: " ++ e)
                  s.now)).retry cfg task
                (some (.wrapped ("rendering template " ++ l.type ++ ": " ++ e))),
              .done (some (.wrapped ("rendering template " ++ l.type ++ ": " ++ e)))) := by
            rw [hrun, hap]; simp [workerRun, workerStep, hr, s1]
          have h := outcome_of_markFailed hout h1 (append_ne_empty (by decide))
            ⟨3, by simp [workerRun, workerStep, hload, hap, hr]⟩
          exact ⟨fun h' => absurd h' h.1, fun _ err' _ => h.2 err'⟩
        | none =>
          let s4 : Sys := { s1 with sends := s1.sends ++ [task.logId] }
          have h4 : getByID s4.logs task.logId = .ok (some _) := h1
          cases hs : (ask (.send l)).fault with
          | some e =>
            have hout : processTaskAlone cfg s task ask =
                ((s4.write (ask (.markFailed ("provider error: " ++ e) (.provider l.channel e)))
                  (updateStatus s4.logs task.logId .failed "" ("provider error: " ++ e)
                    s.now)).retry cfg task (some (.provider l.channel e)),
                .done (some (.provider l.channel e))) := by
              rw [hrun, hap]; simp [workerRun, workerStep, hr, hs, s1, s4]
            have h := outcome_of_markFailed hout h4 (append_ne_empty (by decide))
              ⟨4, by simp [workerRun, workerStep, hload, hap, hr, hs]⟩
            exact ⟨fun h' => absurd h' h.1, fun _ err' _ => h.2 err'⟩
          | none =>
            have hout : processTaskAlone cfg s task ask =
                (s4.write (ask (.markSent l (ask (.send l)).providerId))
                  (updateStatus s4.logs task.logId .sent (ask (.send l)).providerId "" s.now),
                .done none) := by
              rw [hrun, hap]; simp [workerRun, workerStep, hr, hs, s1, s4]
            refine ⟨fun _ => ⟨l, rfl, ⟨4, by simp [workerRun, workerStep, hload, hap, hr, hs]⟩,
              hs, by simp [hout, s4, s1], fun hw => ?_⟩,
              fun _ _ _ h => ?_⟩
            · rw [hout]
              refine ⟨_, by rw [getByID_write h4, if_pos hw], rfl,
                by simp [NotificationLog.applyStatus], fun hp => ?_⟩
              simp [NotificationLog.applyStatus, hp]
            · simp [hout] at h
      · have hout : processTaskAlone cfg s task ask =
            ((s1.write (ask (.markFailed msg err))
              (updateStatus s1.logs task.logId .failed "" msg s.now)).retry cfg task (some err),
            .done (some err)) := by
          rw [hrun, hap]; simp [workerRun, workerStep, s1]
        have h := outcome_of_markFailed hout h1 hmsg
          ⟨2, by simp [workerRun, workerStep, hload, hap]⟩
        exact ⟨fun h' => absurd h' h.1, fun _ err' _ => h.2 err'⟩

/-- The final `UpdateStatus(sent)` fails after `Send` succeeded: `ProcessTask` returns
`nil`, so the queue acknowledges the task, and the record stays `processing`. -/
theorem processTask_nil_leaves_processing :
    (fun out : Sys × WorkerPc => (out.2, statusOf out.1.logs "a"))
        (processTaskAlone defaultConfig
          { Sys.init with logs := [(⟨"email", "magic_link", "a@b.com", ""⟩ : SendRequest).row "a" 0] }
          ⟨"a", 0⟩
          fun
          | .send _ => { providerId := "re_1" }
          | .markSent _ _ => { fault := some "context deadline exceeded" }
          | _ => {}) =
      (.done none, some .processing) := by
  decide

end Notifly
