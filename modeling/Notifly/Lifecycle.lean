import Notifly.Delivery

/-!
# The status lifecycle

Every write of a status is an UPDATE without a condition on the row's current status,
and the three writers (the worker, the reaper and the webhook) read the row at one time
and write it at another.  Three things follow.

* Invariant I3 of the spec (`NotificationLog.stamped`) holds in every run where the
  provider names each message it accepts: `UpdateStatus(sent)` writes `sent_at` and the
  provider id, and a webhook writes its status's timestamp on rows that have the event's
  non-empty id (`records_stamped`).  `UpdateStatus` keeps the old `provider_id` when
  `Send` returned an empty id, so a successful `Send` whose answer has no id leaves a
  `sent` record with no provider id (`sent_without_provider_id`).
* The reaper lists a stale `processing` record, and its reset to `queued` lands on the
  row as it is at the time of the write.  When the worker has finished in between, the
  reset moves a `sent` record back to `queued` (`sweep_requeues_sent_record`), and the
  reaper enqueues it again.  The reset writes no `error_message`, so a record that an
  earlier attempt failed goes back to `queued` with that attempt's message
  (`sweep_keeps_error_message`).
* `ProcessTask` does not look at the status it loads.  The second task of such a record
  loads it `delivered`, writes `processing` over it and calls `Send` again
  (`worker_resends_delivered`).
-/

namespace Notifly

/-! ## Invariant I3 -/

/-- Invariant I3 for one record: `sent`, `delivered`, `opened` and `bounced` carry the
timestamp of their status and a non-empty provider id. -/
def NotificationLog.stamped (l : NotificationLog) : Bool :=
  let named := l.providerId.any (· != "")
  match l.status with
  | .sent => l.sentAt.isSome && named
  | .delivered => l.deliveredAt.isSome && named
  | .opened => l.openedAt.isSome && named
  | .bounced => l.bouncedAt.isSome && named
  | .queued | .processing | .failed => true

/-- The writes of `UpdateStatus` that the code makes keep I3: the three statuses without
a timestamp, and `sent` with a non-empty provider id. -/
theorem applyStatus_stamped (l : NotificationLog) {st : NotificationStatus} {p : String}
    (e : String) (now : Int)
    (hst : st = .queued ∨ st = .processing ∨ st = .failed ∨ st = .sent ∧ p ≠ "") :
    (l.applyStatus st p e now).stamped := by
  rcases hst with rfl | rfl | rfl | ⟨rfl, hp⟩ <;>
    simp_all [NotificationLog.stamped, NotificationLog.applyStatus]

/-- A webhook's write keeps I3 on a row that has a non-empty provider id. -/
theorem applyWebhook_stamped {l : NotificationLog} {p : String} {st : NotificationStatus}
    (now : Int) (hl : l.providerId = some p) (hp : p ≠ "")
    (hst : st = .delivered ∨ st = .bounced ∨ st = .opened) :
    (l.applyWebhook st now).stamped := by
  rcases hst with rfl | rfl | rfl <;>
    simp [NotificationLog.stamped, NotificationLog.applyWebhook, hl, hp]

theorem updateStatus_stamped {t : List NotificationLog} (ht : ∀ l ∈ t, l.stamped)
    (id : LogId) {st : NotificationStatus} {p : String} (e : String) (now : Int)
    (hst : st = .queued ∨ st = .processing ∨ st = .failed ∨ st = .sent ∧ p ≠ "") :
    ∀ l ∈ updateStatus t id st p e now, l.stamped := by
  simp only [updateStatus, List.mem_map]
  rintro _ ⟨l, hl, rfl⟩
  split
  · exact applyStatus_stamped l e now hst
  · exact ht l hl

theorem updateWebhookStatus_stamped {t : List NotificationLog} (ht : ∀ l ∈ t, l.stamped)
    {p : String} (hp : p ≠ "") {st : NotificationStatus}
    (hst : st = .delivered ∨ st = .bounced ∨ st = .opened) (now : Int) :
    ∀ l ∈ updateWebhookStatus t p st now, l.stamped := by
  simp only [updateWebhookStatus, List.mem_map]
  rintro _ ⟨l, hl, rfl⟩
  split
  · exact applyWebhook_stamped now ‹_› hp hst
  · exact ht l hl

/-- Runs where every message id that a provider returns is non-empty. -/
def Act.NamesMessage : Act → Prop
  | .advance _ r => r.providerId ≠ ""
  | _ => True

instance : DecidablePred Act.NamesMessage
  | .advance _ r => inferInstanceAs (Decidable (r.providerId ≠ ""))
  | .tick _ | .submit _ | .dispatch _ | .lose _ | .startSweep | .webhook _ _ => isTrue trivial

/-- I3 for every row, and a non-empty provider id in every worker about to write
`sent`. -/
def Stamped (s : Sys) : Prop :=
  (∀ l ∈ s.logs, l.stamped) ∧
    ∀ task l pid, Call.worker task (.markSent l pid) ∈ s.calls → pid ≠ ""

theorem write_stamped {s : Sys} {r : Reply} {t : List NotificationLog}
    (hs : ∀ l ∈ s.logs, l.stamped) (ht : ∀ l ∈ t, l.stamped) :
    ∀ l ∈ (s.write r t).logs, l.stamped := by
  rw [Sys.write_logs]; split
  · exact ht
  · exact hs

/-- One call's step, with a reply that names its message, keeps I3 for the rows and the
provider id of the call. -/
theorem CallMove.stamped {cfg : Config} {s s' : Sys} {call call' : Call} {r : Reply}
    (h : CallMove cfg s call r s' call') (hr : r.providerId ≠ "")
    (hs : ∀ l ∈ s.logs, l.stamped)
    (hc : ∀ task l pid, call = .worker task (.markSent l pid) → pid ≠ "") :
    (∀ l ∈ s'.logs, l.stamped) ∧
      ∀ task l pid, call' = .worker task (.markSent l pid) → pid ≠ "" := by
  cases h with
  | intake hm =>
    refine ⟨?_, by simp⟩
    cases hm with
    | createFailed | created =>
      simp only [List.mem_append, List.mem_singleton]
      rintro l (hl | rfl)
      · exact hs l hl
      · rfl
    | markFailed => exact updateStatus_stamped hs _ _ _ (by simp)
    | allow => exact hs
    | _ => exact hs
  | worker hm =>
    cases hm with
    | markProcessing =>
      exact ⟨write_stamped hs (updateStatus_stamped hs _ _ _ (by simp)),
        by rcases afterProcessing_cases cfg ‹_› with h | ⟨_, _, h, -⟩ <;> simp [h]⟩
    | sent => exact ⟨hs, by simpa using hr⟩
    | markSent =>
      exact ⟨write_stamped hs (updateStatus_stamped hs _ _ _
        (.inr (.inr (.inr ⟨rfl, hc _ _ _ rfl⟩)))), by simp⟩
    | markFailed =>
      refine ⟨?_, by simp⟩
      rw [Sys.retry_logs]
      exact write_stamped hs (updateStatus_stamped hs _ _ _ (by simp))
    | returned => exact ⟨hs, hc⟩
    | loadFailed => exact ⟨by rw [Sys.retry_logs]; exact hs, by simp⟩
    | _ => exact ⟨hs, by simp⟩
  | sweep hm =>
    refine ⟨?_, by simp⟩
    cases hm with
    | reset | resetFailed => exact write_stamped hs (updateStatus_stamped hs _ _ _ (by simp))
    | requeued => exact hs
    | _ => exact hs

theorem stamped_step {cfg : Config} {s s' : Sys} {a : Act} (h : SysMove cfg s a s')
    (ha : a.NamesMessage) (hs : Stamped s) : Stamped s' := by
  obtain ⟨hl, hc⟩ := hs
  cases h with
  | submit | dispatch _ | startSweep =>
    refine ⟨hl, fun task l pid h => ?_⟩
    simp only [List.mem_append, List.mem_singleton] at h
    rcases h with h | h
    · exact hc task l pid h
    · cases h
  | webhook ev r =>
    refine ⟨?_, hc⟩
    rcases resendWebhook_cases s.logs s.now ev r with h | ⟨st, hst, hp, h⟩ <;>
      simp only [h]
    · exact hl
    · exact updateWebhookStatus_stamped hl hp hst s.now
  | advance hcall hm =>
    obtain ⟨hl', hc'⟩ := hm.stamped ha hl
      (fun task l pid h => hc task l pid (h ▸ List.getElem?_mem hcall))
    refine ⟨hl', fun task l pid h => ?_⟩
    rcases List.mem_or_eq_of_mem_set h with h | h
    · exact hc task l pid h
    · exact hc' task l pid h.symm
  | tick | lose => exact ⟨hl, hc⟩

/-- Invariant I3, in every reachable state of every run where each message id that a
provider returns from a `Send` without error is non-empty: every record that is `sent`,
`delivered`, `opened` or `bounced` has a non-empty provider id and the timestamp of its
status. -/
theorem records_stamped (cfg : Config) (s : Sys) (h : s.Reachable cfg Act.NamesMessage) :
    ∀ l ∈ s.logs, l.stamped := by
  have hs : Stamped s := Sys.Reachable.invariant ⟨by simp [Sys.init], by simp [Sys.init]⟩
    (fun _ _ _ hs ha hm => stamped_step hm ha hs) h
  exact hs.1

/-- A request accepted and sent, every call succeeding, the provider's answer to `Send`
carrying no id: the record is `sent` with no provider id. -/
theorem sent_without_provider_id :
    ∃ s : Sys, s.Reachable defaultConfig Act.Healthy ∧
      ∃ l ∈ s.logs, l.status = .sent ∧ l.providerId = none := by
  obtain ⟨s, hs, hp⟩ := Sys.Reachable.of_run_map Act.Healthy (by decide)
    (by decide : (run (Sys.step defaultConfig) Sys.init
      [.submit ⟨"email", "magic_link", "a@b.com", ""⟩, .advance 0 {}, .advance 0 {},
        .advance 0 { newId := "a" }, .advance 0 {}, .dispatch 0, .advance 1 {}, .advance 1 {},
        .advance 1 {}, .advance 1 {}, .advance 1 {}]).map
      (fun s => s.logs.any fun l => l.status == .sent && l.providerId == none) = some true)
  obtain ⟨l, hl, h⟩ := List.any_eq_true.mp hp
  simp only [Bool.and_eq_true, beq_iff_eq] at h
  exact ⟨s, hs, l, hl, h⟩

/-! ## The reaper's reset -/

/-- A sweep lists record `a` while its worker is slow; the worker then sends it and marks
it `sent`; the sweep's reset, which comes next, makes it `queued` again.  Every call
succeeds. -/
theorem sweep_requeues_sent_record :
    ∃ s : Sys, s.Reachable defaultConfig Act.Healthy ∧
      (∃ olderThan l rest, s.calls[2]? = some (.sweep olderThan (.reset (l :: rest))) ∧
        l.id = "a" ∧ l.status = .processing) ∧
      statusOf s.logs "a" = some .sent ∧
      (s.step defaultConfig (.advance 2 {})).map (statusOf ·.logs "a") = some (some .queued) := by
  obtain ⟨s, hs, hp⟩ := Sys.Reachable.of_run_map Act.Healthy (by decide)
    (by decide : (run (Sys.step defaultConfig) Sys.init
      [.submit ⟨"email", "magic_link", "a@b.com", ""⟩, .advance 0 {}, .advance 0 {},
        .advance 0 { newId := "a" }, .advance 0 {}, .dispatch 0, .advance 1 {}, .advance 1 {},
        .tick (660 * 1000000000), .startSweep, .advance 2 {}, .advance 1 {},
        .advance 1 { providerId := "re_1" }, .advance 1 {}]).map
      (fun s : Sys => (match s.calls[2]? with
          | some (Call.sweep _ (SweepPc.reset (l :: _))) => l.id == "a" && l.status == .processing
          | _ => false) &&
        statusOf s.logs "a" == some .sent &&
        (s.step defaultConfig (.advance 2 {})).map (statusOf ·.logs "a") == some (some .queued)) =
        some true)
  rw [Bool.and_eq_true, Bool.and_eq_true, beq_iff_eq, beq_iff_eq] at hp
  obtain ⟨⟨hm, h2⟩, h3⟩ := hp
  refine ⟨s, hs, ?_, h2, h3⟩
  revert hm; split
  · rename_i olderThan l rest hc
    intro hm
    simp only [Bool.and_eq_true, beq_iff_eq] at hm
    exact ⟨olderThan, l, rest, hc, hm⟩
  · intro hm; cases hm

/-- A send fails with `503 service unavailable`: the record is `failed` with that message,
and asynq puts the task back.  The retry's worker writes `processing` and stalls.  Ten
minutes later a sweep lists the record and resets it, every call of the sweep
succeeding.  The record is `queued` at the sweep's clock and still carries the message of
the failed send. -/
theorem sweep_keeps_error_message :
    ∃ s : Sys, s.Reachable defaultConfig (fun _ => True) ∧
      s.calls[3]? = some (.sweep (60 * 1000000000) .done) ∧
      ∃ l ∈ s.logs, l.id = "a" ∧ l.status = .queued ∧ l.updatedAt = s.now ∧
        l.errorMessage = some "provider error: 503 service unavailable" := by
  obtain ⟨s, hs, hp⟩ := Sys.Reachable.of_run_map _ (fun _ _ => trivial)
    (by decide : (run (Sys.step defaultConfig) Sys.init
      [.submit ⟨"email", "magic_link", "a@b.com", ""⟩, .advance 0 {}, .advance 0 {},
        .advance 0 { newId := "a" }, .advance 0 {}, .dispatch 0, .advance 1 {}, .advance 1 {},
        .advance 1 {}, .advance 1 { fault := some "503 service unavailable" }, .advance 1 {},
        .dispatch 0, .advance 2 {}, .advance 2 {}, .tick (660 * 1000000000), .startSweep,
        .advance 3 {}, .advance 3 {}, .advance 3 {}, .advance 3 {}]).map
      (fun s : Sys => s.calls[3]? == some (.sweep (60 * 1000000000) .done) &&
        s.logs.any fun l => l.id == "a" && l.status == .queued && l.updatedAt == s.now &&
          l.errorMessage == some "provider error: 503 service unavailable") = some true)
  simp only [Bool.and_eq_true, beq_iff_eq, List.any_eq_true] at hp
  obtain ⟨hc, l, hl, ⟨⟨hid, hst⟩, hat⟩, hmsg⟩ := hp
  exact ⟨s, hs, hc, l, hl, hid, hst, hat, hmsg⟩

/-! ## The worker's load -/

/-- The run of `redeliveryRun`: worker 2 loaded record `a` when it was `delivered`, has
written `processing` over it, and its next step calls `Send` for `a` a second time.
Every call succeeds. -/
theorem worker_resends_delivered :
    ∃ s : Sys, s.Reachable defaultConfig Act.Healthy ∧
      (∃ l, s.calls[3]? = some (.worker ⟨"a", 0⟩ (.send l)) ∧ l.status = .delivered) ∧
      statusOf s.logs "a" = some .processing ∧
      (s.step defaultConfig (.advance 3 { providerId := "re_2" })).map (·.sends.count "a") =
        some 2 := by
  obtain ⟨s, hs, hp⟩ := Sys.Reachable.of_run_map Act.Healthy (by decide)
    (by decide : (run (Sys.step defaultConfig) Sys.init redeliveryRun).map
      (fun s : Sys => (match s.calls[3]? with
          | some (Call.worker ⟨"a", 0⟩ (WorkerPc.send l)) => l.status == .delivered
          | _ => false) &&
        statusOf s.logs "a" == some .processing &&
        (s.step defaultConfig (.advance 3 { providerId := "re_2" })).map (·.sends.count "a") ==
          some 2) = some true)
  rw [Bool.and_eq_true, Bool.and_eq_true, beq_iff_eq, beq_iff_eq] at hp
  obtain ⟨⟨hm, h2⟩, h3⟩ := hp
  refine ⟨s, hs, ?_, h2, h3⟩
  revert hm; split
  · rename_i l hc
    intro hm
    exact ⟨l, hc, by simpa using hm⟩
  · intro hm; cases hm

end Notifly
