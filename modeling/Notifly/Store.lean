import Notifly.Basic
import Mathlib.Data.List.Sort

/-!
# The notification store

`SupabaseStore` (`supabase.go`) against the table `notification_logs`, as the database
executes each request.  The table is the list of its rows in insertion order.

* Reads: `getByID` (PostgREST `.Single()`, so a missing row is an error and never a
  `nil` record), `getByIdempotencyKey`, and `listStale`, the reaper's scan: status
  `queued` or `processing`, `updated_at` strictly below the bound, ordered by
  `updated_at`, at most `limit` rows.
* Writes: `NotificationLog.inserted` is the row of `Create`, which `keyTaken` (the UNIQUE
  constraint on `idempotency_key`) may reject; `updateStatus` and `updateWebhookStatus`
  are the two UPDATEs, keyed by `id` and by `provider_id`.  Neither UPDATE has a
  condition on the current status: the store is last-writer-wins.

The frame lemmas say what no write changes: the ids and the idempotency keys of the rows.
The durability and the idempotency invariants of the system are built on them.
-/

namespace Notifly

/-! ## Reads -/

/-- The error of PostgREST's `.Single()` when no row matches. -/
def singleRowError : String := "JSON object requested, multiple (or no) rows returned"

/-- `GetByID`.  The request uses `.Single()`, so a missing row comes back as an error. -/
def getByID (t : List NotificationLog) (id : LogId) :
    Except String (Option NotificationLog) :=
  match t.find? (·.id = id) with
  | some l => .ok (some l)
  | none => .error ("fetching notification log: " ++ singleRowError)

/-- `GetByIdempotencyKey`: the first row with the key, `nil` when there is none. -/
def getByIdempotencyKey (t : List NotificationLog) (key : String) : Option NotificationLog :=
  t.find? (·.idempotencyKey = some key)

/-- The reaper's filter: `status IN (queued, processing) AND updated_at < olderThan`. -/
def isStale (olderThan : Int) (l : NotificationLog) : Bool :=
  (l.status = .queued || l.status = .processing) && decide (l.updatedAt < olderThan)

/-- The row count of `ListStale`: `limit`, or `50` when it is not positive. -/
def staleLimit (limit : Int) : Nat := if limit ≤ 0 then 50 else limit.toNat

/-- `ListStale`: the stale rows, oldest `updated_at` first, at most `staleLimit limit`. -/
def listStale (t : List NotificationLog) (olderThan : Int) (limit : Int) :
    List NotificationLog :=
  ((t.filter (isStale olderThan)).insertionSort
    (fun a b : NotificationLog => a.updatedAt ≤ b.updatedAt)).take (staleLimit limit)

theorem getByIdempotencyKey_eq_some {t : List NotificationLog} {key : String}
    {l : NotificationLog} (h : getByIdempotencyKey t key = some l) :
    l ∈ t ∧ l.idempotencyKey = some key :=
  ⟨List.mem_of_find?_eq_some h, by simpa using List.find?_some h⟩

/-- Every row that `ListStale` returns is a row of the table and was stale. -/
theorem mem_listStale {t : List NotificationLog} {olderThan : Int} {limit : Int}
    {l : NotificationLog} (h : l ∈ listStale t olderThan limit) :
    l ∈ t ∧ isStale olderThan l = true := by
  have h' := List.mem_of_mem_take h
  rw [List.mem_insertionSort] at h'
  exact List.mem_filter.mp h'

/-- `ListStale` returns at most as many rows as the table has. -/
theorem length_listStale_le (t : List NotificationLog) (olderThan limit : Int) :
    (listStale t olderThan limit).length ≤ t.length :=
  (List.length_take_le' _ _).trans
    ((List.length_insertionSort _ _).le.trans (List.length_filter_le _ _))

/-! ## The insert of `Create` -/

/-- The `idempotency_key` column that `Create` writes: NULL for an empty key. -/
def keyColumn (key : String) : Option String := if key = "" then none else some key

/-- The row that `Create` inserts, completed by the database: the id from
`gen_random_uuid()`, both timestamps from `NOW()`, and NULL in every column that the
insert leaves out.  The model has one clock: `now` stands for the database's `NOW()`
here and for the `time.Now()` of the host that writes in `UpdateStatus`, and a skew
between the two is not modelled. -/
def NotificationLog.inserted (id : LogId) (key channel type recipient : String)
    (status : NotificationStatus) (now : Int) : NotificationLog where
  id := id
  idempotencyKey := keyColumn key
  channel := channel
  type := type
  recipient := recipient
  providerId := none
  status := status
  errorMessage := none
  createdAt := now
  updatedAt := now
  sentAt := none
  deliveredAt := none
  openedAt := none
  bouncedAt := none

/-- Whether the UNIQUE constraint on `idempotency_key` rejects a row with this key.
NULL keys never clash. -/
def keyTaken (t : List NotificationLog) : Option String → Bool
  | none => false
  | some k => t.any (·.idempotencyKey = some k)

/-- The database's message for a violated UNIQUE constraint. -/
def uniqueViolation : String :=
  "duplicate key value violates unique constraint on idempotency_key"

/-! ## The two UPDATEs -/

/-- The columns that `UpdateStatus` sets: status and `updated_at`, `provider_id` and
`error_message` only when the argument is non-empty, and `sent_at` for `sent`. -/
def NotificationLog.applyStatus (l : NotificationLog) (status : NotificationStatus)
    (providerID errMsg : String) (now : Int) : NotificationLog :=
  { l with
    status := status
    updatedAt := now
    providerId := if providerID = "" then l.providerId else some providerID
    errorMessage := if errMsg = "" then l.errorMessage else some errMsg
    sentAt := if status = .sent then some now else l.sentAt }

/-- `UpdateStatus`: `UPDATE ... WHERE id = id`, whatever the row's status. -/
def updateStatus (t : List NotificationLog) (id : LogId) (status : NotificationStatus)
    (providerID errMsg : String) (now : Int) : List NotificationLog :=
  t.map fun l => if l.id = id then l.applyStatus status providerID errMsg now else l

/-- The columns that `UpdateWebhookStatus` sets: status, `updated_at`, and the timestamp
of the event's status. -/
def NotificationLog.applyWebhook (l : NotificationLog) (status : NotificationStatus)
    (now : Int) : NotificationLog :=
  { l with
    status := status
    updatedAt := now
    deliveredAt := if status = .delivered then some now else l.deliveredAt
    bouncedAt := if status = .bounced then some now else l.bouncedAt
    openedAt := if status = .opened then some now else l.openedAt }

/-- `UpdateWebhookStatus`: `UPDATE ... WHERE provider_id = providerID`. -/
def updateWebhookStatus (t : List NotificationLog) (providerID : String)
    (status : NotificationStatus) (now : Int) : List NotificationLog :=
  t.map fun l => if l.providerId = some providerID then l.applyWebhook status now else l

@[simp] theorem applyStatus_id (l : NotificationLog) (st : NotificationStatus)
    (p e : String) (now : Int) : (l.applyStatus st p e now).id = l.id := rfl

@[simp] theorem applyStatus_idempotencyKey (l : NotificationLog) (st : NotificationStatus)
    (p e : String) (now : Int) :
    (l.applyStatus st p e now).idempotencyKey = l.idempotencyKey := rfl

@[simp] theorem applyStatus_status (l : NotificationLog) (st : NotificationStatus)
    (p e : String) (now : Int) : (l.applyStatus st p e now).status = st := rfl

@[simp] theorem applyStatus_createdAt (l : NotificationLog) (st : NotificationStatus)
    (p e : String) (now : Int) : (l.applyStatus st p e now).createdAt = l.createdAt := rfl

@[simp] theorem applyStatus_updatedAt (l : NotificationLog) (st : NotificationStatus)
    (p e : String) (now : Int) : (l.applyStatus st p e now).updatedAt = now := rfl

@[simp] theorem applyWebhook_id (l : NotificationLog) (st : NotificationStatus) (now : Int) :
    (l.applyWebhook st now).id = l.id := rfl

@[simp] theorem applyWebhook_idempotencyKey (l : NotificationLog) (st : NotificationStatus)
    (now : Int) : (l.applyWebhook st now).idempotencyKey = l.idempotencyKey := rfl

@[simp] theorem applyWebhook_providerId (l : NotificationLog) (st : NotificationStatus)
    (now : Int) : (l.applyWebhook st now).providerId = l.providerId := rfl

@[simp] theorem applyWebhook_status (l : NotificationLog) (st : NotificationStatus)
    (now : Int) : (l.applyWebhook st now).status = st := rfl

@[simp] theorem applyWebhook_createdAt (l : NotificationLog) (st : NotificationStatus)
    (now : Int) : (l.applyWebhook st now).createdAt = l.createdAt := rfl

@[simp] theorem applyWebhook_updatedAt (l : NotificationLog) (st : NotificationStatus)
    (now : Int) : (l.applyWebhook st now).updatedAt = now := rfl

/-! ## Reads after writes -/

/-- The status of the first row with id `id`. -/
def statusOf (t : List NotificationLog) (id : LogId) : Option NotificationStatus :=
  (t.find? (·.id = id)).map (·.status)

/-- `GetByID` after `UpdateStatus` of the same id finds the updated row. -/
theorem getByID_updateStatus {t : List NotificationLog} {id : LogId} {l : NotificationLog}
    (h : getByID t id = .ok (some l)) (st : NotificationStatus) (p e : String) (now : Int) :
    getByID (updateStatus t id st p e now) id = .ok (some (l.applyStatus st p e now)) := by
  have hf : t.find? (·.id = id) = some l := by
    unfold getByID at h; split at h <;> simp_all
  have hcomp : ((fun l : NotificationLog => decide (l.id = id)) ∘
      fun l => if l.id = id then l.applyStatus st p e now else l) =
        fun l => decide (l.id = id) := by
    funext l; by_cases hl : l.id = id <;> simp [hl]
  have hl : l.id = id := by simpa using List.find?_some hf
  simp only [getByID, updateStatus, List.find?_map, hcomp, hf, Option.map_some', hl, if_true]

/-! ## What no write changes -/

/-- The ids of the rows, in table order. -/
def rowIds (t : List NotificationLog) : List LogId := t.map (·.id)

/-- The id and the idempotency key of each row, in table order.  No UPDATE changes
them, and an insert adds one pair. -/
def rowIdKeys (t : List NotificationLog) : List (LogId × Option String) :=
  t.map fun l => (l.id, l.idempotencyKey)

theorem rowIdKeys_map {t : List NotificationLog} {f : NotificationLog → NotificationLog}
    (hf : ∀ l, (f l).id = l.id ∧ (f l).idempotencyKey = l.idempotencyKey) :
    rowIdKeys (t.map f) = rowIdKeys t := by
  simp [rowIdKeys, Function.comp_def, hf]

@[simp] theorem rowIdKeys_updateStatus (t : List NotificationLog) (id : LogId)
    (st : NotificationStatus) (p e : String) (now : Int) :
    rowIdKeys (updateStatus t id st p e now) = rowIdKeys t :=
  rowIdKeys_map fun l => by constructor <;> split <;> rfl

@[simp] theorem rowIdKeys_updateWebhookStatus (t : List NotificationLog) (p : String)
    (st : NotificationStatus) (now : Int) :
    rowIdKeys (updateWebhookStatus t p st now) = rowIdKeys t :=
  rowIdKeys_map fun l => by constructor <;> split <;> rfl

@[simp] theorem rowIdKeys_append (t t' : List NotificationLog) :
    rowIdKeys (t ++ t') = rowIdKeys t ++ rowIdKeys t' := List.map_append _ _ _

theorem mem_rowIds {t : List NotificationLog} {id : LogId} :
    id ∈ rowIds t ↔ ∃ k, (id, k) ∈ rowIdKeys t := by
  simp only [rowIds, rowIdKeys, List.mem_map, Prod.mk.injEq]
  exact ⟨fun ⟨l, hl, he⟩ => ⟨_, l, hl, he, rfl⟩,
    fun ⟨_, l, hl, he, _⟩ => ⟨l, hl, he⟩⟩

/-- A table whose ids and keys include those of another has its ids. -/
theorem rowIds_subset {t t' : List NotificationLog} (h : rowIdKeys t ⊆ rowIdKeys t') :
    rowIds t ⊆ rowIds t' := fun _ hid =>
  let ⟨k, hk⟩ := mem_rowIds.mp hid
  mem_rowIds.mpr ⟨k, h hk⟩

end Notifly
