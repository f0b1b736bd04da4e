import Mathlib.Data.List.Basic

/-!
# The data model of the notification service

The types that every part of the pipeline shares: the lifecycle status of a record
(`log_model.go`), the record itself as a row of `notification_logs` (the schema in the
repository and `supabaseRow` in `supabase.go`), the recognised template types
(`ratelimit.go` of the domain package, `validTypes`), the request and response of the
intake call, and the errors of `common/errors.go` that the modelled functions return.

Times are Unix nanoseconds as `Int`, so that `now - threshold` keeps its sign as the Go
`time.Time` arithmetic does.  A NULL column is `none`.  Go writes a NULL string column
back as `""` (`rowToLog`), and the model keeps the column: the store's UPDATE matches
`provider_id = p`, which a NULL never satisfies, and the UNIQUE constraint on
`idempotency_key` ignores NULLs.

`Reply` is the environment.  Every call that the code makes to the store, the queue, the
limiter's Redis, the renderer or a provider is one atomic step, and the step reads the
answer of the outside world from a `Reply`: whether the call failed and with which
error, whether a failing write still took effect, the id that the database gives an
inserted row, and the message id that a provider returns.

The template data of a request is not modelled.  Only the renderer reads it, and the
worker model takes the renderer's outcome from the environment.
-/

namespace Notifly

/-- The primary key of a record, the text of a `gen_random_uuid()` value. -/
abbrev LogId := String

/-- `NotificationStatus`: the seven states of the lifecycle. -/
inductive NotificationStatus where
  | queued
  | processing
  | sent
  | failed
  | delivered
  | bounced
  | opened
  deriving DecidableEq, Repr

/-- The template types of `validTypes`. -/
def validTypes : List String :=
  ["confirm_signup", "invite_user", "magic_link", "change_email", "reset_password",
    "reauthentication", "password_changed", "email_changed", "phone_changed",
    "identity_linked", "identity_unlinked"]

/-- `IsValidType`: a lookup in `validTypes`. -/
def isValidType (t : String) : Bool := validTypes.contains t

/-- A row of `notification_logs`, the columns that the modelled code reads or writes. -/
structure NotificationLog where
  id : LogId
  idempotencyKey : Option String
  channel : String
  type : String
  recipient : String
  providerId : Option String
  status : NotificationStatus
  errorMessage : Option String
  createdAt : Int
  updatedAt : Int
  sentAt : Option Int
  deliveredAt : Option Int
  openedAt : Option Int
  bouncedAt : Option Int
  deriving DecidableEq, Repr

/-- `SendRequest`, the body of `POST /api/v1/send` after binding.  The `To` field is
`recipient` here, since `to` is a keyword of Lean. -/
structure SendRequest where
  channel : String
  type : String
  recipient : String
  idempotencyKey : String
  deriving DecidableEq, Repr

/-- `SendResponse`. -/
structure SendResponse where
  id : LogId
  idempotencyKey : String
  channel : String
  status : NotificationStatus
  deriving DecidableEq, Repr

/-- The errors that the modelled functions return: the `ValidationError` and
`ProviderError` of `common/errors.go`, and the errors that `fmt.Errorf` wraps, kept as
their text. -/
inductive AppError where
  | validation (message : String)
  | provider (provider message : String)
  | wrapped (message : String)
  deriving DecidableEq, Repr

/-- The environment's answer to one call. -/
structure Reply where
  /-- The error that the call returns, when it fails. -/
  fault : Option String := none
  /-- Whether a failing write took effect before its error reached the caller. -/
  applied : Bool := false
  /-- The id that the database gives a row that the call inserts. -/
  newId : LogId := ""
  /-- The message id in a provider's answer to `Send`. -/
  providerId : String := ""
  deriving DecidableEq, Repr

/-- A write takes effect when it succeeds, or when it fails after it was applied. -/
def Reply.lands (r : Reply) : Bool := r.fault.isNone || r.applied

@[simp] theorem Reply.lands_of_fault_none {r : Reply} (h : r.fault = none) : r.lands = true := by
  simp [Reply.lands, h]

/-- A text with a non-empty prefix is not empty. -/
theorem append_ne_empty {a b : String} (h : a ≠ "") : a ++ b ≠ "" := by
  intro hab
  apply h
  obtain ⟨la⟩ := a
  obtain ⟨lb⟩ := b
  have : la ++ lb = [] := congrArg String.data hab
  simp_all

/-! ## Lists as multisets

The queue and the calls in flight are lists that a step changes at one index.  Up to
order, taking element `i` out leaves it beside the rest, and replacing it puts the new
element there; the counting invariants use these through `List.Perm.count_eq`. -/

theorem perm_cons_eraseIdx {α : Type} :
    ∀ {l : List α} {i : Nat} {a : α}, l[i]? = some a → l.Perm (a :: l.eraseIdx i)
  | _ :: _, 0, _, h => by
    rw [List.getElem?_cons_zero, Option.some_inj] at h
    exact h ▸ .refl _
  | x :: xs, i + 1, a, h => by
    rw [List.getElem?_cons_succ] at h
    exact ((perm_cons_eraseIdx h).cons x).trans (.swap a x _)

theorem perm_set_cons_eraseIdx {α : Type} (b : α) :
    ∀ {l : List α} {i : Nat} {a : α}, l[i]? = some a → (l.set i b).Perm (b :: l.eraseIdx i)
  | _ :: _, 0, _, _ => .refl _
  | x :: xs, i + 1, a, h => by
    rw [List.getElem?_cons_succ] at h
    exact ((perm_set_cons_eraseIdx b h).cons x).trans (.swap b x _)

/-! ## Runs of a transition system -/

section Runs

variable {σ α : Type} (step : σ → α → Option σ) (ok : α → Prop) (init : σ)

/-- The states that a sequence of actions reaches from `init`, every action allowed by
`ok`.  `ok` restricts the environment: `fun _ => True` allows every run. -/
inductive Reachable : σ → Prop where
  | init : Reachable init
  | step {s s' : σ} {a : α} : Reachable s → ok a → step s a = some s' → Reachable s'

/-- The state after a sequence of actions, if every action is enabled. -/
def run : σ → List α → Option σ
  | s, [] => some s
  | s, a :: as => (step s a).bind (run · as)

variable {step ok init}

theorem Reachable.of_run {s s' : σ} {as : List α} (hs : Reachable step ok init s)
    (hok : ∀ a ∈ as, ok a) (h : run step s as = some s') : Reachable step ok init s' := by
  induction as generalizing s with
  | nil => cases h; exact hs
  | cons a as ih =>
    simp only [run] at h
    cases ha : step s a with
    | none => simp [ha] at h
    | some s₁ =>
      rw [ha, Option.some_bind] at h
      exact ih (hs.step (hok a (List.mem_cons_self a as)) ha)
        (fun b hb => hok b (List.mem_cons_of_mem a hb)) h

/-- A run of `as ++ bs` is the run of `as`, then the run of `bs` from where it ends. -/
theorem run_append (s : σ) (as bs : List α) :
    run step s (as ++ bs) = (run step s as).bind (run step · bs) := by
  induction as generalizing s with
  | nil => rfl
  | cons a as ih => simp [run, ih, Option.bind_assoc]

/-- A run that is enabled and ends in a state where `p` holds. -/
theorem Reachable.of_run_map {as : List α} {p : σ → Bool} (hok : ∀ a ∈ as, ok a)
    (h : (run step init as).map p = some true) :
    ∃ s, Reachable step ok init s ∧ p s = true := by
  cases hr : run step init as with
  | none => simp [hr] at h
  | some s =>
    simp only [hr, Option.map_some', Option.some.injEq] at h
    exact ⟨s, Reachable.init.of_run hok hr, h⟩

/-- An invariant that `init` has and every allowed step keeps holds in every reachable
state. -/
theorem Reachable.invariant {inv : σ → Prop} (h0 : inv init)
    (hstep : ∀ s a s', inv s → ok a → step s a = some s' → inv s') {s : σ}
    (h : Reachable step ok init s) : inv s := by
  induction h with
  | init => exact h0
  | step _ ha hs ih => exact hstep _ _ _ ih ha hs

end Runs

end Notifly
