import Notifly.System

/-!
# Idempotency keys

`Enqueue` looks its key up, runs the rate limiter and inserts.  The three are separate
calls, and only the UNIQUE constraint on `idempotency_key` ties them together.  Two facts
hold in every run, whatever interleaves and whatever fails:

* `KeyedRecords`: an intake call with a non-empty key that holds a record id, from its
  own insert or from its lookup, names a row that carries the key;
* `KeysUnique`: at most one row carries each key, because an insert lands only when no
  row has its key.

`key_names_one_record` puts them together: at most one record carries a key, and every
call with that key that returned without error returned that record's id.

A call that loses the race gets no such answer.  Two calls with one key can both miss the
lookup, and then the second insert fails on the constraint and its call returns the
error.  Both calls went through the rate limiter first, so the recipient's bucket holds
two entries for one record: `concurrent_key_rejected` is such a run.
-/

namespace Notifly

/-- The record id that an intake call holds: the row it inserted, from the insert on, or
the row that its lookup found. -/
def IntakePc.recordId : IntakePc → Option LogId
  | .enqueue id | .markFailed id _ => some id
  | .accepted resp | .replied resp => some resp.id
  | _ => none

theorem recordId_intakeStart (now : Int) (req : SendRequest) :
    (intakeStart now req).recordId = none := by
  unfold intakeStart; split <;> (try split) <;> rfl

theorem recordId_afterAllow (req : SendRequest) (pc : AllowPc) :
    (afterAllow req pc).recordId = none := by
  rcases afterAllow_cases req pc with h | ⟨_, h⟩ | ⟨_, h⟩ <;> rw [h] <;> rfl

/-- Every intake call with a non-empty key that holds a record id names a row with that
id and that key. -/
def KeyedRecords (s : Sys) : Prop :=
  ∀ req pc id, Call.intake req pc ∈ s.calls → pc.recordId = some id →
    req.idempotencyKey ≠ "" → (id, some req.idempotencyKey) ∈ rowIdKeys s.logs

/-- One step of `Enqueue` keeps the row that the call names: the lookup names a row with
the key, the insert adds one, and every later step keeps the id it had. -/
theorem IntakeMove.keyed {cfg : Config} {s s' : Sys} {req : SendRequest} {pc pc' : IntakePc}
    (h : IntakeMove cfg s req pc s' pc') (hk : req.idempotencyKey ≠ "")
    (hpc : ∀ id, pc.recordId = some id → (id, some req.idempotencyKey) ∈ rowIdKeys s.logs) :
    ∀ id, pc'.recordId = some id → (id, some req.idempotencyKey) ∈ rowIdKeys s'.logs := by
  intro id hid
  cases h with
  | replay hl =>
    obtain ⟨hl, hkey⟩ := getByIdempotencyKey_eq_some hl
    cases hid
    exact List.mem_map.mpr ⟨_, hl, by simp [hkey, SendResponse.ofExisting]⟩
  | allow => simp [allowRound, recordId_afterAllow] at hid
  | created =>
    cases hid
    simp [rowIdKeys, keyColumn, hk]
  | enqueueFailed | enqueued => exact hpc id hid
  | enqueueLost | returned => exact hpc id hid
  | _ => cases hid

/-- Every step of the system keeps `KeyedRecords`. -/
theorem keyedRecords_step {cfg : Config} {s s' : Sys} {a : Act} (h : SysMove cfg s a s')
    (hs : KeyedRecords s) : KeyedRecords s' := by
  have hsub := h.rowIdKeys_subset
  intro req pc id hc hid hk
  cases h with
  | submit req' =>
    simp only [List.mem_append, List.mem_singleton, Call.intake.injEq] at hc
    rcases hc with hc | ⟨rfl, rfl⟩
    · exact hsub (hs req pc id hc hid hk)
    · simp [recordId_intakeStart] at hid
  | dispatch _ | startSweep =>
    simp only [List.mem_append, List.mem_singleton] at hc
    rcases hc with hc | hc
    · exact hsub (hs req pc id hc hid hk)
    · cases hc
  | advance hcall hm =>
    rcases List.mem_or_eq_of_mem_set hc with hc | hc
    · exact hsub (hs req pc id hc hid hk)
    · cases hm with
      | intake hm =>
        obtain ⟨rfl, rfl⟩ := Call.intake.inj hc
        exact hm.keyed hk (fun id' hid' => hs _ _ id' (List.getElem?_mem hcall) hid' hk) id hid
      | worker | sweep => cases hc
  | _ => exact hsub (hs req pc id hc hid hk)

/-- At most one pair carries each key. -/
def KeysUnique (ps : List (LogId × Option String)) : Prop :=
  ∀ k, (ps.filter (·.2 = some k)).length ≤ 1

/-- An insert that the UNIQUE constraint lets through keeps the keys unique. -/
theorem KeysUnique.append {t : List NotificationLog} {key : Option String} {id : LogId}
    (hu : KeysUnique (rowIdKeys t)) (hk : keyTaken t key = false) :
    KeysUnique (rowIdKeys t ++ [(id, key)]) := by
  intro k
  rw [List.filter_append, List.length_append]
  by_cases hkk : key = some k
  · subst hkk
    have hnone : (rowIdKeys t).filter (·.2 = some k) = [] := by
      simp_all [keyTaken, rowIdKeys]
    simp [hnone]
  · simpa [hkk] using hu k

theorem keysUnique_step {cfg : Config} {s s' : Sys} {a : Act} (h : SysMove cfg s a s')
    (hu : KeysUnique (rowIdKeys s.logs)) : KeysUnique (rowIdKeys s'.logs) := by
  rcases h.rowIdKeys_cases with h | ⟨_, _, hk, -, h⟩ <;> rw [h]
  · exact hu
  · exact hu.append hk

theorem filter_rowIdKeys (t : List NotificationLog) (k : String) :
    (rowIdKeys t).filter (·.2 = some k) =
      rowIdKeys (t.filter (·.idempotencyKey = some k)) := by
  simp [rowIdKeys, List.filter_map, Function.comp_def]

/-- Idempotency at the record level: in every reachable state of every run, at most one
record carries key `k`, and every `Enqueue` call with key `k` that returned without error,
with its own new record or with a replay, returned the id of that record. -/
theorem key_names_one_record (cfg : Config) (ok : Act → Prop) (s : Sys)
    (h : s.Reachable cfg ok) (k : String) :
    (s.logs.filter (·.idempotencyKey = some k)).length ≤ 1 ∧
      ∀ req resp, req.idempotencyKey = k → k ≠ "" →
        (Call.intake req (.accepted resp) ∈ s.calls ∨ Call.intake req (.replied resp) ∈ s.calls) →
        ∃ l ∈ s.logs.filter (·.idempotencyKey = some k), l.id = resp.id := by
  have hu : KeysUnique (rowIdKeys s.logs) :=
    Sys.Reachable.invariant (fun _ => by simp [rowIdKeys, Sys.init])
      (fun _ _ _ hs _ hm => keysUnique_step hm hs) h
  have hr : KeyedRecords s :=
    Sys.Reachable.invariant (fun _ _ _ h => by simp [Sys.init] at h)
      (fun _ _ _ hs _ hm => keyedRecords_step hm hs) h
  have hk := hu k
  rw [filter_rowIdKeys, rowIdKeys, List.length_map] at hk
  refine ⟨hk, ?_⟩
  rintro req resp rfl hne hc
  have hmem : (resp.id, some req.idempotencyKey) ∈ rowIdKeys s.logs := by
    rcases hc with hc | hc <;> exact hr _ _ _ hc rfl hne
  obtain ⟨l, hl, hl'⟩ := List.mem_map.mp hmem
  simp only [Prod.mk.injEq] at hl'
  exact ⟨l, List.mem_filter.mpr ⟨hl, by simp [hl'.2]⟩, hl'.1⟩

/-- A request accepted with key `k1`, then replayed: one record carries the key. -/
theorem key_names_one_record_after_replay :
    ∃ s : Sys, s.Reachable defaultConfig (fun _ => True) ∧ s.logs ≠ [] ∧
      (s.logs.filter (·.idempotencyKey = some "k1")).length ≤ 1 := by
  obtain ⟨s, hs, hp⟩ := Sys.Reachable.of_run_map _ (fun _ _ => trivial)
    (by decide : (run (Sys.step defaultConfig) Sys.init
      [.submit ⟨"email", "magic_link", "a@b.com", "k1"⟩, .advance 0 {}, .advance 0 {},
        .advance 0 {}, .advance 0 { newId := "a" }, .advance 0 {},
        .submit ⟨"email", "magic_link", "a@b.com", "k1"⟩, .advance 1 {}]).map
      (fun s => !s.logs.isEmpty) = some true)
  exact ⟨s, hs, by simpa using hp, (key_names_one_record _ _ s hs "k1").1⟩

/-- Two calls with key `k1` for one recipient, every call succeeding: both miss the
lookup and both pass the rate limiter before either inserts; the first insert creates
record `a` and the call returns it, and the second insert violates the UNIQUE constraint
and its call returns the error.  The recipient's bucket holds two entries. -/
theorem concurrent_key_rejected :
    ∃ s : Sys, s.Reachable defaultConfig Act.Healthy ∧
      Call.intake ⟨"email", "magic_link", "a@b.com", "k1"⟩
        (.accepted ⟨"a", "k1", "email", .queued⟩) ∈ s.calls ∧
      Call.intake ⟨"email", "magic_link", "a@b.com", "k1"⟩
        (.rejected (.wrapped ("creating notification log: inserting notification log: " ++
          uniqueViolation))) ∈ s.calls ∧
      (s.buckets (rateLimitKey "a@b.com")).scores.length = 2 := by
  obtain ⟨s, hs, hp⟩ := Sys.Reachable.of_run_map Act.Healthy (by decide)
    (by decide : (run (Sys.step defaultConfig) Sys.init
      [.submit ⟨"email", "magic_link", "a@b.com", "k1"⟩,
        .submit ⟨"email", "magic_link", "a@b.com", "k1"⟩, .advance 0 {}, .advance 1 {},
        .advance 0 {}, .advance 1 {}, .advance 0 {}, .advance 1 {},
        .advance 0 { newId := "a" }, .advance 1 { newId := "b" }, .advance 0 {}]).map
      (fun s => s.calls.contains (.intake ⟨"email", "magic_link", "a@b.com", "k1"⟩
          (.accepted ⟨"a", "k1", "email", .queued⟩)) &&
        s.calls.contains (.intake ⟨"email", "magic_link", "a@b.com", "k1"⟩
          (.rejected (.wrapped ("creating notification log: inserting notification log: " ++
            uniqueViolation)))) &&
        (s.buckets (rateLimitKey "a@b.com")).scores.length == 2) = some true)
  simp only [Bool.and_eq_true, beq_iff_eq] at hp
  exact ⟨s, hs, List.elem_iff.mp hp.1.1, List.elem_iff.mp hp.1.2, hp.2⟩

end Notifly
