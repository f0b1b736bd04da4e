import Notifly.System

/-!
# Durability before enqueue

Two invariants of every run, whatever the interleaving and whatever fails.

* `Backed`: every task of the queue, and every id that a call in flight will hand to the
  queue, is the id of a row.  `Enqueue` enqueues the id of the row that its `Create`
  inserted, the reaper enqueues ids that `ListStale` read, asynq retries the task of a
  dispatched worker, and no step deletes a row.  `queue_tasks_have_records` is the
  property P2 of the spec: every task of the queue names a record of the store.
* `AcceptedEnqueued`: an intake call that returned its own new record has placed it in
  the queue.  `enqueued` only grows, so `accepted_stays_enqueued` holds in every later
  state.  A call that answers from its idempotency lookup promises nothing of the kind:
  `replay_of_unqueued_record` is a run where the first call's enqueue failed and a replay
  returns the record, `failed` and never queued.
-/

namespace Notifly

/-- The log ids that a call will hand to the queue: the record that an intake call has
created and not yet enqueued, the task of a worker, which asynq retries on an error,
and the records of a sweep's batch that it has not handled yet. -/
def Call.pendingIds : Call → List LogId
  | .intake _ (.enqueue id) => [id]
  | .worker task _ => [task.logId]
  | .sweep _ (.reset rest) => rest.map (·.id)
  | .sweep _ (.requeue l rest) => l.id :: rest.map (·.id)
  | _ => []

/-- Every id of the queue, and every id that a call will hand to it, names a row. -/
def Backed (s : Sys) : Prop :=
  (∀ t ∈ s.queue, t.logId ∈ rowIds s.logs) ∧
    ∀ c ∈ s.calls, ∀ id ∈ c.pendingIds, id ∈ rowIds s.logs

theorem pendingIds_intakeStart (req : SendRequest) (now : Int) :
    (Call.intake req (intakeStart now req)).pendingIds = [] := by
  unfold intakeStart; split <;> (try split) <;> rfl

theorem pendingIds_afterAllow (req : SendRequest) (pc : AllowPc) :
    (Call.intake req (afterAllow req pc)).pendingIds = [] := by
  unfold afterAllow; split <;> rfl

theorem Sys.pushTask_backed {s : Sys} {ids : List LogId} {id : LogId}
    (hq : ∀ t ∈ s.queue, t.logId ∈ ids) (hid : id ∈ ids) :
    ∀ t ∈ (s.pushTask id).queue, t.logId ∈ ids := by
  simp only [Sys.pushTask, List.mem_append, List.mem_singleton]
  rintro t (ht | rfl)
  · exact hq t ht
  · exact hid

theorem Sys.retry_backed {cfg : Config} {s : Sys} {task : Task} {e : Option AppError}
    {ids : List LogId} (hq : ∀ t ∈ s.queue, t.logId ∈ ids) (hid : task.logId ∈ ids) :
    ∀ t ∈ (s.retry cfg task e).queue, t.logId ∈ ids := by
  rcases Sys.retry_queue cfg s task e with hr | hr <;> rw [hr]
  · exact hq
  · simp only [List.mem_append, List.mem_singleton]
    rintro t (ht | rfl)
    · exact hq t ht
    · exact hid

/-- What one call's step does to `Backed`: the queue it leaves and the ids it will hand
on are backed by the rows after the step. -/
theorem CallMove.backed {cfg : Config} {s s' : Sys} {call call' : Call} {r : Reply}
    (h : CallMove cfg s call r s' call') (hq : ∀ t ∈ s.queue, t.logId ∈ rowIds s.logs)
    (hc : ∀ id ∈ call.pendingIds, id ∈ rowIds s.logs) :
    (∀ t ∈ s'.queue, t.logId ∈ rowIds s'.logs) ∧
      ∀ id ∈ call'.pendingIds, id ∈ rowIds s'.logs := by
  have hsub := rowIds_subset h.rowIdKeys_subset
  have hq' : ∀ t ∈ s.queue, t.logId ∈ rowIds s'.logs := fun t ht => hsub (hq t ht)
  cases h with
  | intake hm =>
    cases hm with
    | allow => exact ⟨hq', by simp [allowRound, pendingIds_afterAllow]⟩
    | created => exact ⟨hq', by simp [Call.pendingIds, rowIds]⟩
    | enqueueFailed | enqueued =>
      exact ⟨Sys.pushTask_backed hq (hc _ (List.mem_singleton_self _)),
        by simp [Call.pendingIds]⟩
    | returned => exact ⟨hq', fun id hid => hsub (hc id hid)⟩
    | _ => exact ⟨hq', by simp [Call.pendingIds]⟩
  | worker hm =>
    have htask := hc _ (List.mem_singleton_self _)
    refine ⟨?_, fun id hid => hsub (hc id hid)⟩
    cases hm with
    | loadFailed => rw [Sys.retry_logs]; exact Sys.retry_backed hq htask
    | markFailed =>
      exact Sys.retry_backed (by simpa only [Sys.write_queue] using hq') (hsub htask)
    | _ => simpa only [Sys.write_queue] using hq'
  | sweep hm =>
    cases hm with
    | listed =>
      refine ⟨hq', fun id hid => ?_⟩
      simp only [Call.pendingIds, List.mem_map] at hid
      obtain ⟨l, hl, rfl⟩ := hid
      exact List.mem_map_of_mem _ (mem_listStale hl).1
    | reset => exact ⟨by simpa only [Sys.write_queue] using hq', fun id hid => hsub (hc id hid)⟩
    | resetFailed =>
      exact ⟨by simpa only [Sys.write_queue] using hq',
        fun id hid => hsub (hc id (List.mem_cons_of_mem _ hid))⟩
    | requeued =>
      exact ⟨Sys.pushTask_backed hq (hc _ (List.mem_cons_self _ _)),
        fun id hid => hc id (List.mem_cons_of_mem _ hid)⟩
    | requeueLost => exact ⟨hq', fun id hid => hc id (List.mem_cons_of_mem _ hid)⟩
    | _ => exact ⟨hq', by simp [Call.pendingIds]⟩

/-- Every step of the system keeps `Backed`. -/
theorem backed_step {cfg : Config} {s s' : Sys} {a : Act} (h : SysMove cfg s a s')
    (hb : Backed s) : Backed s' := by
  obtain ⟨hq, hc⟩ := hb
  cases h with
  | submit req =>
    refine ⟨hq, fun c hc' => ?_⟩
    simp only [List.mem_append, List.mem_singleton] at hc'
    rcases hc' with hc' | rfl
    · exact hc c hc'
    · simp [pendingIds_intakeStart]
  | dispatch hi =>
    refine ⟨fun t ht => hq t (List.mem_of_mem_eraseIdx ht), fun c hc' => ?_⟩
    simp only [List.mem_append, List.mem_singleton] at hc'
    rcases hc' with hc' | rfl
    · exact hc c hc'
    · simpa [Call.pendingIds] using hq _ (List.getElem?_mem hi)
  | lose i => exact ⟨fun t ht => hq t (List.mem_of_mem_eraseIdx ht), hc⟩
  | startSweep =>
    refine ⟨hq, fun c hc' => ?_⟩
    simp only [List.mem_append, List.mem_singleton] at hc'
    rcases hc' with hc' | rfl
    · exact hc c hc'
    · simp [Call.pendingIds]
  | webhook ev r =>
    have hsub := rowIds_subset (SysMove.webhook ev r : SysMove cfg s _ _).rowIdKeys_subset
    exact ⟨fun t ht => hsub (hq t ht), fun c hc' id hid => hsub (hc c hc' id hid)⟩
  | advance hcall hm =>
    have hsub := rowIds_subset hm.rowIdKeys_subset
    obtain ⟨hq', hc'⟩ := hm.backed hq (hc _ (List.getElem?_mem hcall))
    refine ⟨hq', fun c hmem id hid => ?_⟩
    rcases List.mem_or_eq_of_mem_set hmem with hmem | rfl
    · exact hsub (hc c hmem id hid)
    · exact hc' id hid
  | tick dt => exact ⟨hq, hc⟩

/-- Durability before enqueue: in every reachable state, every task of the queue names a
record of the store. -/
theorem queue_tasks_have_records (cfg : Config) (ok : Act → Prop) (s : Sys)
    (h : s.Reachable cfg ok) : ∀ t ∈ s.queue, ∃ l ∈ s.logs, l.id = t.logId := by
  have hb : Backed s :=
    Sys.Reachable.invariant
      ⟨fun _ h => by simp [Sys.init] at h, fun _ h => by simp [Sys.init] at h⟩
      (fun _ _ _ hs _ hm => backed_step hm hs) h
  intro t ht
  simpa [rowIds] using hb.1 t ht

/-- A request is accepted and enqueued; its task names the record that `Create`
inserted. -/
theorem queue_tasks_have_records_after_enqueue :
    ∃ s : Sys, s.Reachable defaultConfig (fun _ => True) ∧ s.queue ≠ [] ∧
      ∀ t ∈ s.queue, ∃ l ∈ s.logs, l.id = t.logId := by
  obtain ⟨s, hs, hq⟩ := Sys.Reachable.of_run_map _ (fun _ _ => trivial)
    (by decide : (run (Sys.step defaultConfig) Sys.init
      [.submit ⟨"email", "magic_link", "a@b.com", ""⟩, .advance 0 {}, .advance 0 {},
        .advance 0 { newId := "a" }, .advance 0 {}]).map (fun s => !s.queue.isEmpty) = some true)
  exact ⟨s, hs, by simpa using hq, queue_tasks_have_records _ _ s hs⟩

/-! ## Accepted records were enqueued -/

theorem CallMove.enqueued_subset {cfg : Config} {s s' : Sys} {call call' : Call} {r : Reply}
    (h : CallMove cfg s call r s' call') : s.enqueued ⊆ s'.enqueued := by
  cases h with
  | intake hm => cases hm <;> simp [Sys.pushTask, allowRound]
  | worker hm => cases hm <;> simp
  | sweep hm => cases hm <;> simp [Sys.pushTask]

/-- `enqueued` only grows. -/
theorem SysMove.enqueued_subset {cfg : Config} {s s' : Sys} {a : Act} (h : SysMove cfg s a s') :
    s.enqueued ⊆ s'.enqueued := by
  cases h with
  | advance _ hm => exact hm.enqueued_subset
  | _ => exact List.Subset.refl _

theorem run_enqueued_subset {cfg : Config} :
    ∀ {s s' : Sys} {as : List Act},
      run (Sys.step cfg) s as = some s' → s.enqueued ⊆ s'.enqueued
  | s, s', [], h => by cases h; exact List.Subset.refl _
  | s, s', a :: as, h => by
    simp only [run, Option.bind_eq_some] at h
    obtain ⟨s₁, h₁, h₂⟩ := h
    exact List.Subset.trans (Sys.step_move h₁).enqueued_subset (run_enqueued_subset h₂)

/-- Every intake call that returned its own new record has placed it in the queue. -/
def AcceptedEnqueued (s : Sys) : Prop :=
  ∀ req resp, Call.intake req (.accepted resp) ∈ s.calls → resp.id ∈ s.enqueued

theorem acceptedEnqueued_step {cfg : Config} {s s' : Sys} {a : Act} (h : SysMove cfg s a s')
    (hs : AcceptedEnqueued s) : AcceptedEnqueued s' := by
  have hsub := h.enqueued_subset
  intro req resp hc
  cases h with
  | submit req' =>
    simp only [List.mem_append, List.mem_singleton, Call.intake.injEq] at hc
    rcases hc with hc | ⟨-, hpc⟩
    · exact hsub (hs req resp hc)
    · unfold intakeStart at hpc; split at hpc <;> (try split at hpc) <;> cases hpc
  | dispatch _ | startSweep =>
    simp only [List.mem_append, List.mem_singleton] at hc
    rcases hc with hc | hc
    · exact hsub (hs req resp hc)
    · cases hc
  | advance hcall hm =>
    rcases List.mem_or_eq_of_mem_set hc with hc | hc
    · exact hsub (hs req resp hc)
    · cases hm with
      | intake hm =>
        obtain ⟨rfl, hpc⟩ := Call.intake.inj hc
        cases hm with
        | enqueued => cases hpc; simp [Sys.pushTask]
        | returned => subst hpc; exact hsub (hs req resp (List.getElem?_mem hcall))
        | allow pc r =>
          simp only [allowRound] at hpc
          rcases afterAllow_cases req (allowStep cfg.limiter s.now
            (s.buckets (rateLimitKey req.recipient)) pc r).2 with h | ⟨_, h⟩ | ⟨_, h⟩ <;>
            rw [h] at hpc <;> cases hpc
        | _ => cases hpc
      | worker | sweep => cases hc
  | _ => exact hs req resp hc

/-- No accepted notification is lost: when an intake call returns its own new record
`r` without error, `r` has been placed in the task queue, and it stays placed in every
later state. -/
theorem accepted_stays_enqueued (cfg : Config) (ok : Act → Prop) (s : Sys)
    (h : s.Reachable cfg ok) (req : SendRequest) (resp : SendResponse)
    (hc : Call.intake req (.accepted resp) ∈ s.calls) (as : List Act) (s' : Sys)
    (hrun : run (Sys.step cfg) s as = some s') : resp.id ∈ s'.enqueued := by
  have hs : AcceptedEnqueued s :=
    Sys.Reachable.invariant (fun _ _ h => by simp [Sys.init] at h)
      (fun _ _ _ hs _ hm => acceptedEnqueued_step hm hs) h
  exact run_enqueued_subset hrun (hs req resp hc)

theorem accepted_stays_enqueued_after_enqueue :
    ∃ s : Sys, s.Reachable defaultConfig (fun _ => True) ∧
      Call.intake ⟨"email", "magic_link", "a@b.com", ""⟩ (.accepted ⟨"a", "", "email", .queued⟩) ∈ s.calls ∧
      "a" ∈ s.enqueued := by
  obtain ⟨s, hs, hc⟩ := Sys.Reachable.of_run_map _ (fun _ _ => trivial)
    (by decide : (run (Sys.step defaultConfig) Sys.init
      [.submit ⟨"email", "magic_link", "a@b.com", ""⟩, .advance 0 {}, .advance 0 {},
        .advance 0 { newId := "a" }, .advance 0 {}]).map
      (fun s => s.calls.contains (.intake ⟨"email", "magic_link", "a@b.com", ""⟩
        (.accepted ⟨"a", "", "email", .queued⟩))) = some true)
  have hc' := List.elem_iff.mp hc
  exact ⟨s, hs, hc', accepted_stays_enqueued _ _ s hs _ _ hc' [] s rfl⟩

/-- The first call with key `k1` creates record `a`, fails to enqueue it and marks it
`failed`; a replay of the key returns `a` without error.  `a` was never placed in the
queue and is not `queued` or `processing`, so no sweep will list it. -/
theorem replay_of_unqueued_record :
    ∃ s : Sys, s.Reachable defaultConfig (fun _ => True) ∧
      Call.intake ⟨"email", "magic_link", "a@b.com", "k1"⟩
        (.replied ⟨"a", "k1", "email", .failed⟩) ∈ s.calls ∧
      "a" ∉ s.enqueued ∧ statusOf s.logs "a" = some .failed := by
  obtain ⟨s, hs, hp⟩ := Sys.Reachable.of_run_map _ (fun _ _ => trivial)
    (by decide : (run (Sys.step defaultConfig) Sys.init
      [.submit ⟨"email", "magic_link", "a@b.com", "k1"⟩, .advance 0 {}, .advance 0 {},
        .advance 0 {}, .advance 0 { newId := "a" },
        .advance 0 { fault := some "dial tcp: connection refused" }, .advance 0 {},
        .submit ⟨"email", "magic_link", "a@b.com", "k1"⟩, .advance 1 {}]).map
      (fun s => s.calls.contains (.intake ⟨"email", "magic_link", "a@b.com", "k1"⟩
          (.replied ⟨"a", "k1", "email", .failed⟩)) &&
        !s.enqueued.contains "a" && statusOf s.logs "a" == some .failed) = some true)
  simp only [Bool.and_eq_true, Bool.not_eq_true', beq_iff_eq] at hp
  exact ⟨s, hs, List.elem_iff.mp hp.1.1, by simpa using hp.1.2, hp.2⟩

end Notifly
