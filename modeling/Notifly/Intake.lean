import Notifly.State

/-!
# The intake call

`Service.Enqueue` (the service file of the domain package), one step per call to the
outside world:

1. the type is validated (`intakeStart`, inside the step that submits the call);
2. a non-empty idempotency key is looked up; a hit returns a response that mirrors the
   existing record, and a failing lookup is ignored;
3. `RecipientRateLimiter.Allow` runs its two round trips; `(false, nil)` rejects the
   call, an error lets it through (fail open);
4. `Create` inserts the record, unless the UNIQUE constraint on `idempotency_key`
   rejects it;
5. `EnqueueSendNotification` places the task; when it fails, a best-effort
   `UpdateStatus(failed)` follows and the call returns the enqueue error.

`intakeStep` is the executable step.  `IntakeMove` lists its branches, each with the
exact next state, and `intakeStep_move` proves that every step is one of them; the
invariants of the system are proved by cases on `IntakeMove` and never unfold
`intakeStep`.
-/

namespace Notifly

/-- Where `Enqueue` goes after validating the type: an unknown type is rejected, a
non-empty key is looked up, and otherwise the rate limiter starts at `now`. -/
def intakeStart (now : Int) (req : SendRequest) : IntakePc :=
  if isValidType req.type = false then
    .rejected (.validation ("unsupported notification type: " ++ req.type))
  else if req.idempotencyKey = "" then .allow (.count now)
  else .lookup

/-- Where `Enqueue` goes after a round trip of `Allow`: `(false, nil)` rejects, any other
answer creates the record, and a call still inside `Allow` stays there. -/
def afterAllow (req : SendRequest) : AllowPc → IntakePc
  | .done false none => .rejected (.validation ("rate limit exceeded for recipient: " ++ req.recipient))
  | .done _ _ => .create
  | pc => .allow pc

/-- After a round trip of `Allow`, `Enqueue` creates the record, rejects the request, or
makes the next round trip. -/
theorem afterAllow_cases (req : SendRequest) (pc : AllowPc) :
    afterAllow req pc = .create ∨ (∃ e, afterAllow req pc = .rejected e) ∨
      ∃ pc', afterAllow req pc = .allow pc' := by
  unfold afterAllow; split <;> simp

/-- The response that mirrors an existing record. -/
def SendResponse.ofExisting (l : NotificationLog) : SendResponse :=
  ⟨l.id, l.idempotencyKey.getD "", l.channel, l.status⟩

/-- The record that `Create` inserts for a request. -/
def SendRequest.row (req : SendRequest) (id : LogId) (now : Int) : NotificationLog :=
  NotificationLog.inserted id req.idempotencyKey req.channel req.type req.recipient .queued now

@[simp] theorem SendRequest.row_id (req : SendRequest) (id : LogId) (now : Int) :
    (req.row id now).id = id := rfl

@[simp] theorem SendRequest.row_idempotencyKey (req : SendRequest) (id : LogId) (now : Int) :
    (req.row id now).idempotencyKey = keyColumn req.idempotencyKey := rfl

/-- The state after `EnqueueSendNotification` placed the task of `id`. -/
def Sys.pushTask (s : Sys) (id : LogId) : Sys :=
  { s with queue := s.queue ++ [⟨id, 0⟩], enqueued := s.enqueued ++ [id] }

/-- A round trip of `Allow` inside `Enqueue`, on the bucket of the request's recipient. -/
def allowRound (cfg : Config) (s : Sys) (req : SendRequest) (pc : AllowPc) (r : Reply) :
    Sys × IntakePc :=
  let key := rateLimitKey req.recipient
  let round := allowStep cfg.limiter s.now (s.buckets key) pc r
  ({ s with buckets := setBucket s.buckets key round.1 }, afterAllow req round.2)

/-- One step of `Service.Enqueue`.  It is `none` only for a reply that the database cannot
give: the id of an inserted row is never an id that the table has. -/
def intakeStep (cfg : Config) (s : Sys) (req : SendRequest) :
    IntakePc → Reply → Option (Sys × IntakePc)
  | .lookup, r =>
    let existing := match r.fault with
      | some _ => none
      | none => getByIdempotencyKey s.logs req.idempotencyKey
    match existing with
    | some l => some (s, .replied (.ofExisting l))
    | none => some (s, .allow (.count s.now))
  | .allow pc, r => some (allowRound cfg s req pc r)
  | .create, r =>
    if keyTaken s.logs (keyColumn req.idempotencyKey) then
      some (s, .rejected (.wrapped
        ("creating notification log: inserting notification log: " ++ uniqueViolation)))
    else if r.newId ∈ rowIds s.logs then none
    else
      let s' := { s with logs := s.logs ++ [req.row r.newId s.now] }
      match r.fault with
      | some e =>
        some (if r.applied then s' else s, .rejected (.wrapped ("creating notification log: " ++ e)))
      | none => some (s', .enqueue r.newId)
  | .enqueue id, r =>
    match r.fault with
    | some e => some (if r.applied then s.pushTask id else s, .markFailed id ("enqueuing task: " ++ e))
    | none => some (s.pushTask id, .accepted ⟨id, req.idempotencyKey, req.channel, .queued⟩)
  | .markFailed id e, r =>
    some (if r.lands then
        { s with logs := updateStatus s.logs id .failed "" ("failed to enqueue: " ++ e) s.now }
      else s,
      .rejected (.wrapped ("enqueuing notification: " ++ e)))
  | pc, _ => some (s, pc)

/-- The branches of `intakeStep`, each with its next state. -/
inductive IntakeMove (cfg : Config) (s : Sys) (req : SendRequest) :
    IntakePc → Sys → IntakePc → Prop where
  | replay {l : NotificationLog} : getByIdempotencyKey s.logs req.idempotencyKey = some l →
      IntakeMove cfg s req .lookup s (.replied (.ofExisting l))
  | miss : IntakeMove cfg s req .lookup s (.allow (.count s.now))
  | allow (pc : AllowPc) (r : Reply) :
      IntakeMove cfg s req (.allow pc) (allowRound cfg s req pc r).1 (allowRound cfg s req pc r).2
  | duplicate {err : AppError} : keyTaken s.logs (keyColumn req.idempotencyKey) = true →
      IntakeMove cfg s req .create s (.rejected err)
  | createFailed {id : LogId} {err : AppError} :
      keyTaken s.logs (keyColumn req.idempotencyKey) = false → id ∉ rowIds s.logs →
      IntakeMove cfg s req .create { s with logs := s.logs ++ [req.row id s.now] } (.rejected err)
  | createLost {err : AppError} : IntakeMove cfg s req .create s (.rejected err)
  | created {id : LogId} :
      keyTaken s.logs (keyColumn req.idempotencyKey) = false → id ∉ rowIds s.logs →
      IntakeMove cfg s req .create { s with logs := s.logs ++ [req.row id s.now] } (.enqueue id)
  | enqueueFailed {id : LogId} {e : String} :
      IntakeMove cfg s req (.enqueue id) (s.pushTask id) (.markFailed id e)
  | enqueueLost {id : LogId} {e : String} :
      IntakeMove cfg s req (.enqueue id) s (.markFailed id e)
  | enqueued {id : LogId} :
      IntakeMove cfg s req (.enqueue id) (s.pushTask id)
        (.accepted ⟨id, req.idempotencyKey, req.channel, .queued⟩)
  | markFailed {id e : String} {err : AppError} :
      IntakeMove cfg s req (.markFailed id e)
        { s with logs := updateStatus s.logs id .failed "" ("failed to enqueue: " ++ e) s.now }
        (.rejected err)
  | markLost {id e : String} {err : AppError} :
      IntakeMove cfg s req (.markFailed id e) s (.rejected err)
  | returned {pc : IntakePc} : IntakeMove cfg s req pc s pc

/-- Every step of `Enqueue` is one of the branches of `IntakeMove`. -/
theorem intakeStep_move {cfg : Config} {s s' : Sys} {req : SendRequest} {pc pc' : IntakePc}
    {r : Reply} (h : intakeStep cfg s req pc r = some (s', pc')) :
    IntakeMove cfg s req pc s' pc' := by
  cases pc with
  | lookup =>
    simp only [intakeStep] at h
    split at h
    · rename_i l hl
      cases h
      split at hl
      · cases hl
      · exact .replay hl
    · cases h; exact .miss
  | allow pc => cases h; exact .allow pc r
  | create =>
    simp only [intakeStep] at h
    split at h
    · cases h; exact .duplicate ‹_›
    · rename_i hkey
      split at h
      · cases h
      · rename_i hfresh
        split at h
        · split at h <;> cases h
          · exact .createFailed (by simpa using hkey) hfresh
          · exact .createLost
        · cases h; exact .created (by simpa using hkey) hfresh
  | enqueue id =>
    simp only [intakeStep] at h
    split at h
    · split at h <;> cases h
      · exact .enqueueFailed
      · exact .enqueueLost
    · cases h; exact .enqueued
  | markFailed id e =>
    simp only [intakeStep] at h
    split at h <;> cases h
    · exact .markFailed
    · exact .markLost
  | replied | accepted | rejected => cases h; exact .returned

/-- No step of `Enqueue` moves the clock, touches the other calls or calls a provider. -/
theorem IntakeMove.frame {cfg : Config} {s s' : Sys} {req : SendRequest} {pc pc' : IntakePc}
    (h : IntakeMove cfg s req pc s' pc') :
    s'.now = s.now ∧ s'.calls = s.calls ∧ s'.sends = s.sends := by
  cases h <;> exact ⟨rfl, rfl, rfl⟩

end Notifly
