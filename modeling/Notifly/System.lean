import Notifly.Reaper

/-!
# The system as a transition system

`Sys.step` is one step of the whole service: the clock advances, a request arrives, the
queue dispatches or loses a task, the reaper's ticker starts a sweep, a provider webhook
is applied (one store call, atomic), or one call in flight makes its next call to the
outside world.  The calls interleave in every order, and `Reachable` over `Sys.step` is
every state of every run; a restriction `ok` on the actions selects the runs whose
environment behaves in a given way.

`SysMove` and `CallMove` are the inversions of `Sys.step` and of a call's step, built
from the inversions of the three kinds of call.  Every invariant of the system is proved
by cases on them: once per kind of action, and once per branch of the call that moves.
-/

namespace Notifly

/-- The steps of the system and of its environment. -/
inductive Act where
  /-- The clock advances. -/
  | tick (dt : Nat)
  /-- `POST /api/v1/send` starts a call of `Enqueue`. -/
  | submit (req : SendRequest)
  /-- asynq hands task `i` of the queue to `ProcessTask`. -/
  | dispatch (i : Nat)
  /-- The queue loses task `i` (Redis data is wiped). -/
  | lose (i : Nat)
  /-- The reaper's ticker fires and starts a sweep. -/
  | startSweep
  /-- `POST /api/v1/webhooks/resend`, the store answering `r`. -/
  | webhook (ev : WebhookEvent) (r : Reply)
  /-- Call `c` makes its next call to the outside world, which answers `r`. -/
  | advance (c : Nat) (r : Reply)

/-- One step of a call. -/
def callStep (cfg : Config) (s : Sys) : Call → Reply → Option (Sys × Call)
  | .intake req pc, r => (intakeStep cfg s req pc r).map fun p => (p.1, .intake req p.2)
  | .worker task pc, r =>
    some ((workerStep cfg s task pc r).1, .worker task (workerStep cfg s task pc r).2)
  | .sweep olderThan pc, r =>
    some ((sweepStep cfg s olderThan pc r).1, .sweep olderThan (sweepStep cfg s olderThan pc r).2)

/-- One step of the system. -/
def Sys.step (cfg : Config) (s : Sys) : Act → Option Sys
  | .tick dt => some { s with now := s.now + dt }
  | .submit req => some { s with calls := s.calls ++ [.intake req (intakeStart s.now req)] }
  | .dispatch i =>
    s.queue[i]?.map fun task =>
      { s with queue := s.queue.eraseIdx i, calls := s.calls ++ [.worker task .load] }
  | .lose i => if i < s.queue.length then some { s with queue := s.queue.eraseIdx i } else none
  | .startSweep =>
    some { s with calls := s.calls ++ [.sweep (s.now - cfg.reaper.staleThreshold) .list] }
  | .webhook ev r => some { s with logs := (resendWebhook s.logs s.now ev r).1 }
  | .advance c r =>
    s.calls[c]?.bind fun call =>
      (callStep cfg s call r).map fun p => { p.1 with calls := s.calls.set c p.2 }

/-- The branches of a call's step. -/
inductive CallMove (cfg : Config) (s : Sys) : Call → Reply → Sys → Call → Prop where
  | intake {req : SendRequest} {pc pc' : IntakePc} {r : Reply} {s' : Sys} :
      IntakeMove cfg s req pc s' pc' → CallMove cfg s (.intake req pc) r s' (.intake req pc')
  | worker {task : Task} {pc pc' : WorkerPc} {r : Reply} {s' : Sys} :
      WorkerMove cfg s task pc r s' pc' → CallMove cfg s (.worker task pc) r s' (.worker task pc')
  | sweep {olderThan : Int} {pc pc' : SweepPc} {r : Reply} {s' : Sys} :
      SweepMove cfg s olderThan pc r s' pc' →
      CallMove cfg s (.sweep olderThan pc) r s' (.sweep olderThan pc')

theorem callStep_move {cfg : Config} {s s' : Sys} {call call' : Call} {r : Reply}
    (h : callStep cfg s call r = some (s', call')) : CallMove cfg s call r s' call' := by
  cases call with
  | intake req pc =>
    simp only [callStep, Option.map_eq_some'] at h
    obtain ⟨⟨s₁, pc₁⟩, h₁, h₂⟩ := h
    cases h₂
    exact .intake (intakeStep_move h₁)
  | worker task pc => cases h; exact .worker (workerStep_move rfl)
  | sweep olderThan pc => cases h; exact .sweep (sweepStep_move rfl)

/-- The branches of the system's step. -/
inductive SysMove (cfg : Config) (s : Sys) : Act → Sys → Prop where
  | tick (dt : Nat) : SysMove cfg s (.tick dt) { s with now := s.now + dt }
  | submit (req : SendRequest) :
      SysMove cfg s (.submit req) { s with calls := s.calls ++ [.intake req (intakeStart s.now req)] }
  | dispatch {i : Nat} {task : Task} : s.queue[i]? = some task →
      SysMove cfg s (.dispatch i)
        { s with queue := s.queue.eraseIdx i, calls := s.calls ++ [.worker task .load] }
  | lose (i : Nat) : SysMove cfg s (.lose i) { s with queue := s.queue.eraseIdx i }
  | startSweep :
      SysMove cfg s .startSweep
        { s with calls := s.calls ++ [.sweep (s.now - cfg.reaper.staleThreshold) .list] }
  | webhook (ev : WebhookEvent) (r : Reply) :
      SysMove cfg s (.webhook ev r) { s with logs := (resendWebhook s.logs s.now ev r).1 }
  | advance {c : Nat} {r : Reply} {call call' : Call} {s' : Sys} : s.calls[c]? = some call →
      CallMove cfg s call r s' call' →
      SysMove cfg s (.advance c r) { s' with calls := s.calls.set c call' }

/-- Every step of the system is one of the branches of `SysMove`. -/
theorem Sys.step_move {cfg : Config} {s s' : Sys} {a : Act} (h : s.step cfg a = some s') :
    SysMove cfg s a s' := by
  cases a with
  | tick dt => cases h; exact .tick dt
  | submit req => cases h; exact .submit req
  | dispatch i =>
    simp only [Sys.step, Option.map_eq_some'] at h
    obtain ⟨task, ht, rfl⟩ := h
    exact .dispatch ht
  | lose i =>
    simp only [Sys.step] at h
    split at h <;> cases h
    exact .lose i
  | startSweep => cases h; exact .startSweep
  | webhook ev r => cases h; exact .webhook ev r
  | advance c r =>
    simp only [Sys.step, Option.bind_eq_some, Option.map_eq_some'] at h
    obtain ⟨call, hc, ⟨s₁, call₁⟩, h₁, rfl⟩ := h
    exact .advance hc (callStep_move h₁)

/-- A reachable state of the system: every run from the empty system, each action
allowed by `ok`. -/
def Sys.Reachable (cfg : Config) (ok : Act → Prop) (s : Sys) : Prop :=
  Notifly.Reachable (Sys.step cfg) ok Sys.init s

/-- An invariant of the system: it holds initially and every allowed step keeps it. -/
theorem Sys.Reachable.invariant {cfg : Config} {ok : Act → Prop} {inv : Sys → Prop}
    (h0 : inv Sys.init) (hstep : ∀ s a s', inv s → ok a → SysMove cfg s a s' → inv s')
    {s : Sys} (h : s.Reachable cfg ok) : inv s :=
  Notifly.Reachable.invariant h0 (fun s a s' hs ha hst => hstep s a s' hs ha (Sys.step_move hst)) h

/-- A run from the empty system, each action allowed by `ok`, that ends in a state where
`p` holds. -/
theorem Sys.Reachable.of_run_map {cfg : Config} (ok : Act → Prop) {as : List Act}
    {p : Sys → Bool} (hok : ∀ a ∈ as, ok a)
    (h : (run (Sys.step cfg) Sys.init as).map p = some true) :
    ∃ s : Sys, s.Reachable cfg ok ∧ p s = true :=
  Notifly.Reachable.of_run_map hok h

/-! ## What a step does to the ids and keys of the table -/

theorem rowIdKeys_write (s : Sys) (r : Reply) (id : LogId) (st : NotificationStatus)
    (p e : String) (now : Int) :
    rowIdKeys (s.write r (updateStatus s.logs id st p e now)).logs = rowIdKeys s.logs := by
  rw [Sys.write_logs]; split <;> simp

/-- A call's step keeps the id and the key of every row, and adds at most the row that an
intake call inserts, with a fresh id and a key that no row has. -/
theorem CallMove.rowIdKeys_cases {cfg : Config} {s s' : Sys} {call call' : Call} {r : Reply}
    (h : CallMove cfg s call r s' call') :
    rowIdKeys s'.logs = rowIdKeys s.logs ∨
      ∃ (req : SendRequest) (id : LogId),
        keyTaken s.logs (keyColumn req.idempotencyKey) = false ∧
        id ∉ rowIds s.logs ∧
        rowIdKeys s'.logs = rowIdKeys s.logs ++ [(id, keyColumn req.idempotencyKey)] := by
  cases h with
  | intake hm =>
    cases hm with
    | createFailed hk hid | created hk hid => exact .inr ⟨_, _, hk, hid, by simp [rowIdKeys]⟩
    | markFailed => exact .inl (by simp)
    | _ => exact .inl rfl
  | worker hm => exact .inl (by cases hm <;> simp [rowIdKeys_write])
  | sweep hm => exact .inl (by cases hm <;> simp [rowIdKeys_write, Sys.pushTask])

theorem SysMove.rowIdKeys_cases {cfg : Config} {s s' : Sys} {a : Act} (h : SysMove cfg s a s') :
    rowIdKeys s'.logs = rowIdKeys s.logs ∨
      ∃ (req : SendRequest) (id : LogId),
        keyTaken s.logs (keyColumn req.idempotencyKey) = false ∧
        id ∉ rowIds s.logs ∧
        rowIdKeys s'.logs = rowIdKeys s.logs ++ [(id, keyColumn req.idempotencyKey)] := by
  cases h with
  | webhook ev r =>
    refine .inl ?_
    rcases resendWebhook_cases s.logs s.now ev r with h | ⟨st, -, -, h⟩ <;> simp [h]
  | advance _ hcall => exact hcall.rowIdKeys_cases
  | _ => exact .inl rfl

/-- No step loses a row. -/
theorem CallMove.rowIdKeys_subset {cfg : Config} {s s' : Sys} {call call' : Call} {r : Reply}
    (h : CallMove cfg s call r s' call') : rowIdKeys s.logs ⊆ rowIdKeys s'.logs := by
  rcases h.rowIdKeys_cases with h | ⟨_, _, _, _, h⟩ <;> rw [h]
  · exact List.Subset.refl _
  · exact List.subset_append_left _ _

theorem SysMove.rowIdKeys_subset {cfg : Config} {s s' : Sys} {a : Act} (h : SysMove cfg s a s') :
    rowIdKeys s.logs ⊆ rowIdKeys s'.logs := by
  rcases h.rowIdKeys_cases with h | ⟨_, _, _, _, h⟩ <;> rw [h]
  · exact List.Subset.refl _
  · exact List.subset_append_left _ _

theorem rowIds_eq_map_fst (t : List NotificationLog) :
    rowIds t = (rowIdKeys t).map Prod.fst := by
  simp [rowIds, rowIdKeys]

/-- No two rows of a reachable table share an id. -/
theorem rowIds_nodup {cfg : Config} {ok : Act → Prop} {s : Sys} (h : s.Reachable cfg ok) :
    (rowIds s.logs).Nodup := by
  refine @Sys.Reachable.invariant cfg ok (fun s => (rowIds s.logs).Nodup)
    (by simp [rowIds, Sys.init]) (fun s _ s' (hn : (rowIds s.logs).Nodup) _ hm => ?_) _ h
  show (rowIds s'.logs).Nodup
  rw [rowIds_eq_map_fst] at hn ⊢
  rcases hm.rowIdKeys_cases with he | ⟨_, id, -, hid, he⟩ <;> rw [he]
  · exact hn
  · rw [rowIds_eq_map_fst] at hid
    rw [List.map_append, List.map_singleton, ← List.concat_eq_append]
    exact hn.concat hid

/-- No call's step moves the clock. -/
theorem CallMove.now_eq {cfg : Config} {s s' : Sys} {call call' : Call} {r : Reply}
    (h : CallMove cfg s call r s' call') : s'.now = s.now := by
  cases h with
  | intake hm => exact hm.frame.1
  | worker hm => exact hm.frame.1
  | sweep hm => cases hm <;> simp [Sys.pushTask]

/-- No call's step forgets a `Send`. -/
theorem CallMove.sends_subset {cfg : Config} {s s' : Sys} {call call' : Call} {r : Reply}
    (h : CallMove cfg s call r s' call') : s.sends ⊆ s'.sends := by
  cases h with
  | intake hm => rw [hm.frame.2.2]; exact List.Subset.refl _
  | worker hm => cases hm <;> simp
  | sweep hm => cases hm <;> simp [Sys.pushTask]

/-- Runs where every call to the outside world succeeds. -/
def Act.Healthy : Act → Prop
  | .advance _ r => r.fault = none
  | _ => True

instance : DecidablePred Act.Healthy
  | .advance _ r => inferInstanceAs (Decidable (r.fault = none))
  | .tick _ | .submit _ | .dispatch _ | .lose _ | .startSweep | .webhook _ _ => isTrue trivial

end Notifly
