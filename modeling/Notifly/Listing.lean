import Notifly.Basic

/-!
# Listing the notifications

`GET /api/v1/notifications` binds its query to a `ListFilter`, whose `page` and
`page_size` are Go `int`s, and `Service.ListNotifications` (the reaper file of the domain
package) answers with a page of `SupabaseStore.List`:

1. `List` replaces a page below 1 by 1 and a page size outside `[1, 100]` by 20;
2. it computes `offset := (page - 1) * pageSize` and asks PostgREST for the `eq` filters
   of the non-empty fields, newest first, and the rows `Range(offset,
   offset + pageSize - 1)`;
3. `ListNotifications` wraps an error of `List`, applies the same defaults to its own copy
   of the filter, and returns the rows and the count with that page and page size.

A Go `int` is a 64-bit two's complement word (`GoInt`): its arithmetic is the exact
result wrapped into `[-2^63, 2^63)`.  `listNotifications_page` says that the response
carries the page and page size that `List` used.  `listQuery_range_iff` says when the
range is the one the page denotes: exactly when `page * pageSize ≤ 2^63`.  For a larger
page the offset wraps, and `listQuery_overflows` is such a page.

What PostgREST does with a range is not modelled: `List` is the request it sends and
the answer it gets.
-/

namespace Notifly

/-! ## Go's `int` -/

/-- The two's complement wrap of an exact result into the range of a 64-bit `int`. -/
def wrapInt (x : Int) : Int :=
  (x + 9223372036854775808) % 18446744073709551616 - 9223372036854775808

/-- A Go `int` on a 64-bit platform: a value in `[-2^63, 2^63)`. -/
structure GoInt where
  val : Int
  min_le : -9223372036854775808 ≤ val
  lt_max : val < 9223372036854775808

/-- The `int` that Go's arithmetic gives for the exact result `x`. -/
def GoInt.ofInt (x : Int) : GoInt :=
  ⟨wrapInt x, by unfold wrapInt; omega, by unfold wrapInt; omega⟩

instance : Add GoInt := ⟨fun a b => .ofInt (a.val + b.val)⟩

instance : Sub GoInt := ⟨fun a b => .ofInt (a.val - b.val)⟩

instance : Mul GoInt := ⟨fun a b => .ofInt (a.val * b.val)⟩

instance (n : Nat) : OfNat GoInt n := ⟨.ofInt n⟩

@[simp] theorem GoInt.add_val (a b : GoInt) : (a + b).val = wrapInt (a.val + b.val) := rfl

@[simp] theorem GoInt.sub_val (a b : GoInt) : (a - b).val = wrapInt (a.val - b.val) := rfl

@[simp] theorem GoInt.mul_val (a b : GoInt) : (a * b).val = wrapInt (a.val * b.val) := rfl

@[simp] theorem GoInt.one_val : (1 : GoInt).val = 1 := by decide

@[simp] theorem GoInt.twenty_val : (20 : GoInt).val = 20 := by decide

/-- The wrap changes nothing in the range of an `int`. -/
theorem wrapInt_of_range {x : Int} (h₁ : -9223372036854775808 ≤ x)
    (h₂ : x < 9223372036854775808) : wrapInt x = x := by
  unfold wrapInt; omega

/-! ## `List` and `ListNotifications` -/

/-- `ListFilter`, bound from the query of `GET /api/v1/notifications`. -/
structure ListFilter where
  page : GoInt
  pageSize : GoInt
  status : String
  recipient : String
  channel : String

/-- The defaults that `List` and `ListNotifications` both apply: page 1 for a page below
1, and 20 rows for a page size outside `[1, 100]`. -/
def ListFilter.withDefaults (f : ListFilter) : ListFilter :=
  let f := if f.page.val < 1 then { f with page := 1 } else f
  if f.pageSize.val < 1 ∨ 100 < f.pageSize.val then { f with pageSize := 20 } else f

/-- The request that `List` sends: the `eq` filters in the order the code adds them, and
the arguments of `Range`.  Every request orders by `created_at` descending. -/
structure ListQuery where
  filters : List (String × String)
  rangeFrom : GoInt
  rangeTo : GoInt

/-- The request of `SupabaseStore.List` for a filter. -/
def listQuery (f : ListFilter) : ListQuery :=
  let f := f.withDefaults
  let offset := (f.page - 1) * f.pageSize
  { filters :=
      (if f.status = "" then [] else [("status", f.status)]) ++
      (if f.recipient = "" then [] else [("recipient", f.recipient)]) ++
      (if f.channel = "" then [] else [("channel", f.channel)])
    rangeFrom := offset
    rangeTo := offset + f.pageSize - 1 }

/-- The answer to `List`'s request: an error of `Execute`, a body that does not parse, or
the rows with the exact count. -/
inductive ListAnswer where
  | failed (err : String)
  | malformed (err : String)
  | rows (logs : List NotificationLog) (count : GoInt)

/-- What `SupabaseStore.List` returns for the answer to its request. -/
def storeList (r : ListAnswer) : Except String (List NotificationLog × GoInt) :=
  match r with
  | .failed e => .error ("listing notification logs: " ++ e)
  | .malformed e => .error ("parsing notification list: " ++ e)
  | .rows logs count => .ok (logs, count)

/-- `ListResponse`. -/
structure ListResponse where
  notifications : List NotificationLog
  total : GoInt
  page : GoInt
  pageSize : GoInt

/-- `Service.ListNotifications`, the store answering `List`'s request with `r`. -/
def listNotifications (f : ListFilter) (r : ListAnswer) : Except AppError ListResponse :=
  match storeList r with
  | .error e => .error (.wrapped ("listing notifications: " ++ e))
  | .ok (logs, total) =>
    let f := f.withDefaults
    .ok ⟨logs, total, f.page, f.pageSize⟩

/-! ## The page and its range -/

/-- The defaults give a page of at least 1 and a page size in `[1, 100]`. -/
theorem ListFilter.withDefaults_bounds (f : ListFilter) :
    1 ≤ f.withDefaults.page.val ∧ 1 ≤ f.withDefaults.pageSize.val ∧
      f.withDefaults.pageSize.val ≤ 100 := by
  unfold ListFilter.withDefaults
  by_cases hp : f.page.val < 1 <;> by_cases hs : f.pageSize.val < 1 ∨ 100 < f.pageSize.val <;>
    simp only [hp, hs, if_true, if_false, GoInt.one_val, GoInt.twenty_val] <;> omega

/-- A successful `ListNotifications` reports the page and page size that `List` used. -/
theorem listNotifications_page (f : ListFilter) (r : ListAnswer) (resp : ListResponse)
    (h : listNotifications f r = .ok resp) :
    resp.page = f.withDefaults.page ∧ resp.pageSize = f.withDefaults.pageSize := by
  unfold listNotifications at h
  split at h
  · cases h
  · cases h; exact ⟨rfl, rfl⟩

/-- The range that `List` asks for is `[(page - 1) * pageSize, page * pageSize - 1]` over the
integers, non-negative and `pageSize` rows long, exactly when `page * pageSize ≤ 2^63`
for the page and page size it uses. -/
theorem listQuery_range_iff (f : ListFilter) :
    ((listQuery f).rangeFrom.val = (f.withDefaults.page.val - 1) * f.withDefaults.pageSize.val ∧
      (listQuery f).rangeTo.val = f.withDefaults.page.val * f.withDefaults.pageSize.val - 1) ↔
      f.withDefaults.page.val * f.withDefaults.pageSize.val ≤ 9223372036854775808 := by
  obtain ⟨hp, hs, hs'⟩ := f.withDefaults_bounds
  have hp' := f.withDefaults.page.lt_max
  have hw : wrapInt (f.withDefaults.page.val - 1) = f.withDefaults.page.val - 1 :=
    wrapInt_of_range (by omega) (by omega)
  have h₁ : (f.withDefaults.page.val - 1) * f.withDefaults.pageSize.val =
      f.withDefaults.page.val * f.withDefaults.pageSize.val - f.withDefaults.pageSize.val := by
    rw [Int.sub_mul, Int.one_mul]
  have h₂ : 0 ≤ (f.withDefaults.page.val - 1) * f.withDefaults.pageSize.val :=
    Int.mul_nonneg (by omega) (by omega)
  simp only [listQuery, GoInt.add_val, GoInt.sub_val, GoInt.mul_val, GoInt.one_val, hw]
  rw [h₁] at h₂ ⊢
  unfold wrapInt
  omega

/-- The page `2^63 - 1` of 20 rows: `(page - 1) * pageSize` overflows, and `List` asks for
the rows from `-40` to `-21`. -/
theorem listQuery_overflows :
    (listQuery ⟨.ofInt 9223372036854775807, 20, "", "", ""⟩).rangeFrom.val = -40 ∧
      (listQuery ⟨.ofInt 9223372036854775807, 20, "", "", ""⟩).rangeTo.val = -21 ∧
      (9223372036854775807 - 1) * 20 = (184467440737095516120 : Int) := by
  decide

end Notifly
