import Notifly.Store

/-!
# Provider webhooks

`Handler.ResendWebhook` (`handler.go`) maps the Resend event types `email.delivered`,
`email.bounced` and `email.opened` to a status and acknowledges every other type as
ignored.  `Service.HandleWebhookEvent` rejects an empty provider id and otherwise calls
`UpdateWebhookStatus`, which sets the status, `updated_at` and the event's timestamp on
every row whose `provider_id` is the event's id.

Nothing in this path reads the row's current status or timestamps.  Applying events is
therefore last-writer-wins, and `applyEvents_eq` says exactly what a sequence of events
does to the table: a row with the event's provider id ends with the status and the time
of the last event, each event timestamp is the time of the last event of its kind, and
nothing else changes.  `opened_then_delivered` is the consequence that the lifecycle of
the spec does not allow: a late `delivered` moves an `opened` row back to `delivered`
and overwrites its `delivered_at`.

`resendWebhook_cases` is the one lemma that the system invariants use: a webhook either
leaves the table alone or is `updateWebhookStatus` with a non-empty id and one of the
three event statuses.
-/

namespace Notifly

/-- The status of a Resend event type, for the three types that `ResendWebhook` handles. -/
def eventStatus : String → Option NotificationStatus
  | "email.delivered" => some .delivered
  | "email.bounced" => some .bounced
  | "email.opened" => some .opened
  | _ => none

/-- `HandleWebhookEvent` against the table at time `now`, the store answering `r`. -/
def handleWebhookEvent (t : List NotificationLog) (now : Int) (providerID : String)
    (status : NotificationStatus) (r : Reply) : List NotificationLog × Except AppError Unit :=
  if providerID = "" then (t, .error (.validation "provider_id is required"))
  else
    let t' := updateWebhookStatus t providerID status now
    match r.fault with
    | some e =>
      (if r.applied then t' else t,
        .error (.wrapped ("updating webhook status: updating webhook status: " ++ e)))
    | none => (t', .ok ())

/-- A provider event after JSON binding: its `type` and `data.email_id`. -/
structure WebhookEvent where
  type : String
  emailId : String
  deriving DecidableEq, Repr

/-- The answer of `ResendWebhook`: `processed`, `ignored`, or the error that
`HandleError` maps to a status code. -/
inductive WebhookAnswer where
  | processed
  | ignored
  | failed (err : AppError)
  deriving DecidableEq, Repr

/-- `ResendWebhook`. -/
def resendWebhook (t : List NotificationLog) (now : Int) (ev : WebhookEvent) (r : Reply) :
    List NotificationLog × WebhookAnswer :=
  match eventStatus ev.type with
  | none => (t, .ignored)
  | some status =>
    match handleWebhookEvent t now ev.emailId status r with
    | (t', .ok ()) => (t', .processed)
    | (t', .error e) => (t', .failed e)

/-- The statuses that a webhook writes. -/
theorem eventStatus_cases {type : String} {st : NotificationStatus}
    (h : eventStatus type = some st) : st = .delivered ∨ st = .bounced ∨ st = .opened := by
  unfold eventStatus at h
  split at h <;> simp_all

theorem handleWebhookEvent_fst (t : List NotificationLog) (now : Int) (p : String)
    (st : NotificationStatus) (r : Reply) :
    (handleWebhookEvent t now p st r).1 = t ∨
      p ≠ "" ∧ (handleWebhookEvent t now p st r).1 = updateWebhookStatus t p st now := by
  unfold handleWebhookEvent
  split
  · exact .inl rfl
  · split
    · split <;> simp_all
    · simp_all

/-- A webhook leaves the table alone, or applies one of the three event statuses to the
rows of a non-empty provider id. -/
theorem resendWebhook_cases (t : List NotificationLog) (now : Int) (ev : WebhookEvent)
    (r : Reply) :
    (resendWebhook t now ev r).1 = t ∨
      ∃ st, (st = .delivered ∨ st = .bounced ∨ st = .opened) ∧ ev.emailId ≠ "" ∧
        (resendWebhook t now ev r).1 = updateWebhookStatus t ev.emailId st now := by
  unfold resendWebhook
  split
  · exact .inl rfl
  · rename_i st hst
    have hfst := handleWebhookEvent_fst t now ev.emailId st r
    split <;> rename_i heq <;> rw [heq] at hfst <;> simp only at hfst ⊢
    all_goals
      rcases hfst with h | ⟨hp, h⟩
      · exact .inl h
      · exact .inr ⟨st, eventStatus_cases hst, hp, h⟩

/-! ## Sequences of events -/

/-- A row after a sequence of `UpdateWebhookStatus` applications, each a status and the
time of its write. -/
def NotificationLog.applyWebhooks (l : NotificationLog)
    (evs : List (NotificationStatus × Int)) : NotificationLog :=
  evs.foldl (fun l e => l.applyWebhook e.1 e.2) l

theorem applyWebhooks_concat (l : NotificationLog) (evs : List (NotificationStatus × Int))
    (e : NotificationStatus × Int) :
    l.applyWebhooks (evs ++ [e]) = (l.applyWebhooks evs).applyWebhook e.1 e.2 := by
  simp [NotificationLog.applyWebhooks]

/-- The time of the last event of status `st`. -/
def lastAt (st : NotificationStatus) (evs : List (NotificationStatus × Int)) : Option Int :=
  ((evs.filter (·.1 = st)).getLast?).map (·.2)

/-- Events applied to the table one after the other through `HandleWebhookEvent`, for one
provider id, with the store healthy. -/
def applyEvents (t : List NotificationLog) (p : String)
    (evs : List (NotificationStatus × Int)) : List NotificationLog :=
  evs.foldl (fun t e => (handleWebhookEvent t e.2 p e.1 {}).1) t

/-- What a sequence of events leaves in a row: the last event's status and time, and for
each event status the time of its last event. -/
theorem applyWebhooks_eq (l : NotificationLog) (evs : List (NotificationStatus × Int)) :
    l.applyWebhooks evs =
      { l with
        status := (evs.getLast?.map (·.1)).getD l.status
        updatedAt := (evs.getLast?.map (·.2)).getD l.updatedAt
        deliveredAt := (lastAt .delivered evs).or l.deliveredAt
        bouncedAt := (lastAt .bounced evs).or l.bouncedAt
        openedAt := (lastAt .opened evs).or l.openedAt } := by
  induction evs using List.reverseRecOn with
  | nil => rfl
  | append_singleton evs e ih =>
    rw [applyWebhooks_concat, ih]
    obtain ⟨st, now⟩ := e
    cases st <;> simp [NotificationLog.applyWebhook, lastAt, List.filter_append]

theorem applyEvents_nonempty (t : List NotificationLog) {p : String} (hp : p ≠ "")
    (evs : List (NotificationStatus × Int)) :
    applyEvents t p evs =
      t.map fun l => if l.providerId = some p then l.applyWebhooks evs else l := by
  induction evs generalizing t with
  | nil => simp [applyEvents, NotificationLog.applyWebhooks]
  | cons e evs ih =>
    simp only [applyEvents, List.foldl_cons] at ih ⊢
    rw [ih]
    simp only [handleWebhookEvent, hp, if_false, updateWebhookStatus, List.map_map]
    congr 1; funext l
    by_cases hl : l.providerId = some p <;> simp [hl, NotificationLog.applyWebhooks]

/-- Webhook events applied in any order and with any repetitions: every row with the
provider id ends with the status and `updated_at` of the last event, each of
`delivered_at`, `bounced_at` and `opened_at` holds the time of the last event of its kind
(or keeps its value when there is none), whatever the row held before; no other column and
no other row changes.  An empty provider id changes nothing. -/
theorem applyEvents_eq (t : List NotificationLog) (p : String)
    (evs : List (NotificationStatus × Int)) :
    applyEvents t p evs =
      if p = "" then t else
        t.map fun l => if l.providerId = some p then
          { l with
            status := (evs.getLast?.map (·.1)).getD l.status
            updatedAt := (evs.getLast?.map (·.2)).getD l.updatedAt
            deliveredAt := (lastAt .delivered evs).or l.deliveredAt
            bouncedAt := (lastAt .bounced evs).or l.bouncedAt
            openedAt := (lastAt .opened evs).or l.openedAt }
        else l := by
  split
  · subst p
    induction evs generalizing t with
    | nil => rfl
    | cons e evs ih => exact ih t
  · rename_i hp
    rw [applyEvents_nonempty t hp]
    simp only [applyWebhooks_eq]

/-- A row that is `opened`, with `delivered_at` already set, receives a late `delivered`
event: it moves back to `delivered` and its `delivered_at` is overwritten. -/
theorem opened_then_delivered :
    (applyEvents
        [{ id := "a", idempotencyKey := none, channel := "email", type := "magic_link",
           recipient := "a@b.com", providerId := some "p", status := .opened,
           errorMessage := none, createdAt := 0, updatedAt := 3, sentAt := some 1,
           deliveredAt := some 2, openedAt := some 3, bouncedAt := none }]
        "p" [(.delivered, 5)]).map (fun l => (l.status, l.deliveredAt)) =
      [(.delivered, some 5)] := by
  decide

end Notifly
