import Notifly.Basic

/-!
# The per-IP limiters of the rate-limiting middleware

`RateLimiter.Middleware` (the rate limiter file of the middleware package) gives every
client IP its own token bucket of `x/time/rate`.  `getLimiter` finds the IP's limiter in a
map that a `sync.RWMutex` guards, with double-checked locking:

1. under the read lock it reads the map, and returns the limiter it finds;
2. otherwise it takes the write lock and reads the map again, and returns a limiter that
   another call stored in between;
3. otherwise it makes a limiter with `rate.NewLimiter`, stores it in the map and returns
   it; the deferred `Unlock` releases the write lock.

Requests run concurrently, so the calls of `getLimiter` interleave in every order.
`MiddlewareSys` holds the map and its lock, and the calls that requests started, each with its
program counter (`GetPc`).  `MiddlewareSys.step` starts a call or moves one call by one atomic
step; a step that asks for a held lock waits.  Go's `RWMutex` also holds new readers back
while a writer waits for the lock; the model lets them in, so it has more runs than the
code, and what holds of all its runs holds of the code's.

`RateLimiter.Inv` ties the lock's counters to the calls that hold it, and what each call
has read to the map; `GetMove.inv` proves that every step keeps it, and
`MiddlewareSys.Inv.reachable` that it holds in every reachable state.  From it:

* `getLimiter_exclusive`: while a call writes the map, no other call reads or writes it
  (Go's maps must not be read and written at once);
* `getLimiter_one_limiter`: `rate.NewLimiter` runs at most once per IP, and every call
  that returned got the limiter made for its IP, so all requests from one IP share one
  bucket and no two IPs share one;
* `getLimiter_no_deadlock`: while a call has not returned, some call can make a step.

What a limiter does with a request (`Allow` of `x/time/rate`) is not modelled: a limiter is
the number of the `rate.NewLimiter` call that made it.
-/

namespace Notifly

/-! ## The limiter, its lock and the calls of `getLimiter` -/

/-- Where a call of `getLimiter` is.  A limiter is the number of the `rate.NewLimiter` call
that made it. -/
inductive GetPc where
  /-- Before `rl.mu.RLock()`. -/
  | rlock
  /-- Holds the read lock, before `rl.limiters[ip]`. -/
  | read
  /-- Holds the read lock and read `seen` from the map, before `rl.mu.RUnlock()`. -/
  | runlock (seen : Option Nat)
  /-- Found nothing, before `rl.mu.Lock()`. -/
  | lock
  /-- Holds the write lock, before the second read of the map. -/
  | recheck
  /-- Holds the write lock and found nothing again, before `rate.NewLimiter`. -/
  | create
  /-- Holds the write lock and made `l`, before `rl.limiters[ip] = limiter`. -/
  | store (l : Nat)
  /-- Holds the write lock, before the deferred `rl.mu.Unlock()` and the return of `l`. -/
  | unlock (l : Nat)
  /-- Returned `l`. -/
  | done (l : Nat)
  deriving DecidableEq, Repr

/-- The call holds the read lock. -/
def GetPc.readLocked : GetPc → Bool
  | .read | .runlock _ => true
  | _ => false

/-- The call holds the write lock. -/
def GetPc.writeLocked : GetPc → Bool
  | .recheck | .create | .store _ | .unlock _ => true
  | _ => false

/-- The call's next step writes the map. -/
def GetPc.storing : GetPc → Bool
  | .store _ => true
  | _ => false

/-- The call's next step reads or writes the map. -/
def GetPc.accessesMap : GetPc → Bool
  | .read | .recheck | .store _ => true
  | _ => false

/-- A call of `getLimiter` for the client IP `ip`. -/
structure GetCall where
  ip : String
  pc : GetPc
  deriving DecidableEq, Repr

/-- `RateLimiter`: the map from client IP to limiter, and its `sync.RWMutex` as the number
of readers that hold it and whether a writer holds it.  `made` is not a field of the code:
it lists, for each limiter that `rate.NewLimiter` made, the IP of the call that made it.
The limiters' `rate` and `burst` are left out, since no step reads them. -/
structure RateLimiter where
  limiters : String → Option Nat
  readers : Nat
  writer : Bool
  made : List String

/-- `NewRateLimiter`: an empty map and a free lock. -/
def newRateLimiter : RateLimiter := ⟨fun _ => none, 0, false, []⟩

/-- One atomic step of `getLimiter(ip)` at `pc`: the limiter after it and the call's next
counter, or `none` while the lock that the step asks for is held, and after the return. -/
def RateLimiter.getLimiterStep (rl : RateLimiter) (ip : String) :
    GetPc → Option (RateLimiter × GetPc)
  | .rlock => if rl.writer then none else some ({ rl with readers := rl.readers + 1 }, .read)
  | .read => some (rl, .runlock (rl.limiters ip))
  | .runlock seen =>
    some ({ rl with readers := rl.readers - 1 }, match seen with
      | some l => .done l
      | none => .lock)
  | .lock =>
    if rl.writer || rl.readers != 0 then none else some ({ rl with writer := true }, .recheck)
  | .recheck =>
    some (rl, match rl.limiters ip with
      | some l => .unlock l
      | none => .create)
  | .create => some ({ rl with made := rl.made ++ [ip] }, .store rl.made.length)
  | .store l => some ({ rl with limiters := Function.update rl.limiters ip (some l) }, .unlock l)
  | .unlock l => some ({ rl with writer := false }, .done l)
  | .done _ => none

/-- The middleware's limiter, and the calls of `getLimiter` that requests started, in the
order they started. -/
structure MiddlewareSys where
  rl : RateLimiter
  calls : List GetCall

/-- The steps of the requests. -/
inductive GetAct where
  /-- A request from `ip` reaches `Middleware`, which calls `getLimiter(ip)`. -/
  | call (ip : String)
  /-- Call `c` makes its next step. -/
  | advance (c : Nat)

/-- The server starts with `NewRateLimiter` and no request. -/
def MiddlewareSys.init : MiddlewareSys := ⟨newRateLimiter, []⟩

/-- One step of the requests. -/
def MiddlewareSys.step (s : MiddlewareSys) : GetAct → Option MiddlewareSys
  | .call ip => some ⟨s.rl, s.calls ++ [⟨ip, .rlock⟩]⟩
  | .advance c =>
    s.calls[c]?.bind fun call =>
      (s.rl.getLimiterStep call.ip call.pc).map fun p => ⟨p.1, s.calls.set c ⟨call.ip, p.2⟩⟩

/-- The states of every interleaving of the calls. -/
def MiddlewareSys.Reachable (s : MiddlewareSys) : Prop :=
  Notifly.Reachable MiddlewareSys.step (fun _ => True) MiddlewareSys.init s

/-! ## The steps of a call -/

/-- The steps of `getLimiter`, each with the limiter after it. -/
inductive GetMove (rl : RateLimiter) (ip : String) : GetPc → RateLimiter → GetPc → Prop where
  | rlock : rl.writer = false → GetMove rl ip .rlock { rl with readers := rl.readers + 1 } .read
  | read : GetMove rl ip .read rl (.runlock (rl.limiters ip))
  | hit {l : Nat} :
      GetMove rl ip (.runlock (some l)) { rl with readers := rl.readers - 1 } (.done l)
  | miss : GetMove rl ip (.runlock none) { rl with readers := rl.readers - 1 } .lock
  | lock : rl.writer = false → rl.readers = 0 →
      GetMove rl ip .lock { rl with writer := true } .recheck
  | found {l : Nat} : rl.limiters ip = some l → GetMove rl ip .recheck rl (.unlock l)
  | missAgain : rl.limiters ip = none → GetMove rl ip .recheck rl .create
  | create : GetMove rl ip .create { rl with made := rl.made ++ [ip] } (.store rl.made.length)
  | store {l : Nat} :
      GetMove rl ip (.store l)
        { rl with limiters := Function.update rl.limiters ip (some l) } (.unlock l)
  | unlock {l : Nat} : GetMove rl ip (.unlock l) { rl with writer := false } (.done l)

theorem getLimiterStep_move {rl rl' : RateLimiter} {ip : String} {pc pc' : GetPc}
    (h : rl.getLimiterStep ip pc = some (rl', pc')) : GetMove rl ip pc rl' pc' := by
  cases pc with
  | rlock =>
    simp only [RateLimiter.getLimiterStep] at h
    split at h
    · cases h
    · rename_i hw
      cases h
      exact .rlock (by simpa using hw)
  | read => cases h; exact .read
  | runlock seen => cases seen <;> cases h
    <;> first | exact .hit | exact .miss
  | lock =>
    simp only [RateLimiter.getLimiterStep] at h
    split at h
    · cases h
    · rename_i hg
      cases h
      simp only [Bool.or_eq_true, bne_iff_ne, ne_eq, not_or, Bool.not_eq_true,
        Decidable.not_not] at hg
      exact .lock hg.1 hg.2
  | recheck =>
    cases hl : rl.limiters ip <;> simp [RateLimiter.getLimiterStep, hl] at h <;>
      obtain ⟨rfl, rfl⟩ := h
    · exact .missAgain hl
    · exact .found hl
  | create => cases h; exact .create
  | store l => cases h; exact .store
  | unlock l => cases h; exact .unlock
  | done l => cases h

/-! ## The invariant -/

/-- What a call at `pc` knows of the map, and still holds: the limiter it read, or is about
to return, is the IP's entry; a call about to make a limiter found no entry, and a call
about to store `l` made it for its IP. -/
def GetPc.Sees (rl : RateLimiter) (ip : String) : GetPc → Prop
  | .runlock (some l) | .unlock l | .done l => rl.limiters ip = some l
  | .create => rl.limiters ip = none
  | .store l => rl.limiters ip = none ∧ rl.made[l]? = some ip
  | _ => True

/-- The invariant of the limiter and the calls of `getLimiter`. -/
structure RateLimiter.Inv (rl : RateLimiter) (calls : List GetCall) : Prop where
  /-- The readers that hold the lock are the calls at `read` and `runlock`. -/
  readers : rl.readers = calls.countP (·.pc.readLocked)
  /-- A call holds the write lock exactly when the lock says so, and only one. -/
  writer : calls.countP (·.pc.writeLocked) = rl.writer.toNat
  /-- No reader holds the lock while a writer does. -/
  exclusive : rl.writer = true → rl.readers = 0
  sees : ∀ c ∈ calls, c.pc.Sees rl c.ip
  /-- Each entry of the map is a limiter made for its IP. -/
  mapped : ∀ ip l, rl.limiters ip = some l → rl.made[l]? = some ip
  /-- No two limiters were made for one IP. -/
  nodup : rl.made.Nodup
  /-- A limiter made for an IP is its entry, or the call that made it is about to store it. -/
  stored : ∀ ip ∈ rl.made, rl.limiters ip ≠ none ∨ ∃ c ∈ calls, c.ip = ip ∧ c.pc.storing

/-- The invariant reads the calls as a multiset. -/
theorem RateLimiter.Inv.perm {rl : RateLimiter} {calls calls' : List GetCall}
    (h : rl.Inv calls) (hp : calls.Perm calls') : rl.Inv calls' where
  readers := (hp.countP_eq _).symm ▸ h.readers
  writer := (hp.countP_eq _).symm ▸ h.writer
  exclusive := h.exclusive
  sees c hc := h.sees c (hp.mem_iff.mpr hc)
  mapped := h.mapped
  nodup := h.nodup
  stored ip hip := (h.stored ip hip).imp_right fun ⟨c, hc, hc'⟩ => ⟨c, hp.mem_iff.mp hc, hc'⟩

theorem newRateLimiter_inv : newRateLimiter.Inv [] where
  readers := rfl
  writer := rfl
  exclusive := by simp [newRateLimiter]
  sees := by simp
  mapped := by simp [newRateLimiter]
  nodup := List.nodup_nil
  stored := by simp [newRateLimiter]

section Move

variable {rl rl' : RateLimiter} {ip : String} {pc pc' : GetPc} {rest : List GetCall}

/-- A call that holds the write lock holds it alone. -/
theorem RateLimiter.Inv.solo (h : rl.Inv (⟨ip, pc⟩ :: rest)) (hw : pc.writeLocked = true) :
    ∀ d ∈ rest, d.pc.writeLocked = false := by
  have h₁ := h.writer
  have h₂ := Bool.toNat_le rl.writer
  rw [List.countP_cons, if_pos hw] at h₁
  simpa using (List.countP_eq_zero.mp (by omega : rest.countP (·.pc.writeLocked) = 0))

/-- While a call holds the write lock, no call holds the read lock. -/
theorem RateLimiter.Inv.no_reader {calls : List GetCall} (h : rl.Inv calls) {c : GetCall}
    (hc : c ∈ calls) (hw : c.pc.writeLocked = true) : ∀ d ∈ calls, d.pc.readLocked = false := by
  have hpos : 0 < calls.countP (·.pc.writeLocked) := List.countP_pos_iff.mpr ⟨c, hc, hw⟩
  have hwr : rl.writer = true := by
    cases hb : rl.writer with
    | true => rfl
    | false => rw [h.writer, hb] at hpos; exact absurd hpos (by decide)
  have h₀ : calls.countP (·.pc.readLocked) = 0 := h.readers ▸ h.exclusive hwr
  simpa using List.countP_eq_zero.mp h₀

/-- A call about to store holds the write lock. -/
theorem GetPc.writeLocked_of_storing {d : GetPc} (h : d.storing = true) : d.writeLocked = true := by
  cases d <;> first | rfl | cases h

/-- While a call holds the write lock, no other call is about to store. -/
theorem RateLimiter.Inv.no_store (h : rl.Inv (⟨ip, pc⟩ :: rest)) (hw : pc.writeLocked = true)
    {d : GetCall} (hd : d ∈ rest) : d.pc.storing = false := by
  cases hs : d.pc.storing with
  | false => rfl
  | true => have := h.solo hw d hd; rw [GetPc.writeLocked_of_storing hs] at this; cases this

/-- A step of a call keeps the counts of the lock. -/
theorem GetMove.counts (h : rl.Inv (⟨ip, pc⟩ :: rest)) (hm : GetMove rl ip pc rl' pc') :
    rl'.readers = (⟨ip, pc'⟩ :: rest).countP (·.pc.readLocked) ∧
      (⟨ip, pc'⟩ :: rest).countP (·.pc.writeLocked) = rl'.writer.toNat ∧
      (rl'.writer = true → rl'.readers = 0) := by
  obtain ⟨hr, hw, hx, -, -, -, -⟩ := h
  have hle := Bool.toNat_le rl.writer
  simp only [List.countP_cons] at hr hw ⊢
  cases hm <;> simp_all [GetPc.readLocked, GetPc.writeLocked, -List.countP_eq_zero]
  omega

/-- A call that does not hold the write lock knows only entries of the map, and entries stay
when the map grows. -/
theorem GetPc.Sees.mono {d : GetPc} {ip' : String} (h : d.Sees rl ip')
    (hd : d.writeLocked = false)
    (hmono : ∀ x l, rl.limiters x = some l → rl'.limiters x = some l) : d.Sees rl' ip' := by
  cases d with
  | runlock seen => cases seen with
    | none => trivial
    | some l => exact hmono _ _ h
  | done l => exact hmono _ _ h
  | rlock | read | lock => trivial
  | recheck | create | store _ | unlock _ => cases hd

/-- The calls that did not move know what they knew. -/
theorem GetMove.sees_rest (h : rl.Inv (⟨ip, pc⟩ :: rest)) (hm : GetMove rl ip pc rl' pc') :
    ∀ d ∈ rest, d.pc.Sees rl' d.ip := by
  intro d hd
  have hs := h.sees d (List.mem_cons_of_mem _ hd)
  cases hm with
  | create => exact hs.mono (h.solo rfl d hd) fun _ _ => id
  | store =>
    have hnone : rl.limiters ip = none := (h.sees _ (List.mem_cons_self _ _)).1
    refine hs.mono (h.solo rfl d hd) fun x l hx => ?_
    have hne : x ≠ ip := fun e => by simp [e, hnone] at hx
    simpa [Function.update_noteq hne] using hx
  | rlock | read | hit | miss | lock | found | missAgain | unlock => exact hs

/-- The call that moved knows what its new counter says. -/
theorem GetMove.sees_self (hs : pc.Sees rl ip) (hm : GetMove rl ip pc rl' pc') :
    pc'.Sees rl' ip := by
  cases hm with
  | read => cases hl : rl.limiters ip <;> simp [GetPc.Sees, hl]
  | hit | unlock => exact hs
  | found hl | missAgain hl => exact hl
  | create => exact ⟨hs, by simp⟩
  | store => simp [GetPc.Sees]
  | rlock | miss | lock => trivial

/-- A call about to make a limiter for its IP is the first to do so. -/
theorem RateLimiter.Inv.not_made (h : rl.Inv (⟨ip, .create⟩ :: rest)) : ip ∉ rl.made := by
  intro hmem
  have hnone : rl.limiters ip = none := h.sees _ (List.mem_cons_self _ _)
  rcases h.stored ip hmem with hne | ⟨d, hd, rfl, hst⟩
  · exact hne hnone
  · rcases List.mem_cons.mp hd with hd | hd
    · rw [hd] at hst; cases hst
    · rw [h.no_store rfl hd] at hst; cases hst

/-- A step of a call keeps the map, the limiters made and their owners in agreement. -/
theorem GetMove.made (h : rl.Inv (⟨ip, pc⟩ :: rest)) (hm : GetMove rl ip pc rl' pc') :
    (∀ x l, rl'.limiters x = some l → rl'.made[l]? = some x) ∧ rl'.made.Nodup ∧
      ∀ x ∈ rl'.made, rl'.limiters x ≠ none ∨
        ∃ c ∈ (⟨ip, pc'⟩ :: rest), c.ip = x ∧ c.pc.storing := by
  have hstored := h.stored
  -- a witness of the old `stored` that is not the moving call stays
  have keep : ∀ x ∈ rl.made, pc.storing = false →
      rl.limiters x ≠ none ∨ ∃ c ∈ (⟨ip, pc'⟩ :: rest), c.ip = x ∧ c.pc.storing := by
    intro x hx hpc
    refine (hstored x hx).imp_right fun ⟨c, hc, hcx, hcs⟩ => ⟨c, ?_, hcx, hcs⟩
    rcases List.mem_cons.mp hc with rfl | hc
    · simp [hpc] at hcs
    · exact List.mem_cons_of_mem _ hc
  cases hm with
  | create =>
    refine ⟨fun x l hx => ?_, List.pairwise_append.mpr ⟨h.nodup, List.pairwise_singleton _ _, ?_⟩,
      fun x hx => ?_⟩
    · have hl := h.mapped x l hx
      exact (List.getElem?_append_left (List.getElem?_eq_some_iff.mp hl).1).trans hl
    · intro a ha b hb e
      exact h.not_made (List.mem_singleton.mp hb ▸ e ▸ ha)
    · rcases List.mem_append.mp hx with hx | hx
      · refine (hstored x hx).imp_right fun ⟨c, hc, hcx, hcs⟩ => absurd hcs ?_
        rcases List.mem_cons.mp hc with rfl | hc
        · simp [GetPc.storing]
        · simp [h.no_store rfl hc]
      · exact .inr ⟨_, List.mem_cons_self _ _, (List.mem_singleton.mp hx).symm, rfl⟩
  | store =>
    obtain ⟨-, hl⟩ := h.sees _ (List.mem_cons_self _ _)
    refine ⟨fun x l' hx => ?_, h.nodup, fun x hx => ?_⟩
    · by_cases hxi : x = ip
      · subst hxi; simp at hx; exact hx ▸ hl
      · exact h.mapped x l' (by simpa [Function.update_noteq hxi] using hx)
    · by_cases hxi : x = ip
      · subst hxi; simp
      · refine .inl ?_
        rcases hstored x hx with hne | ⟨c, hc, rfl, hcs⟩
        · simpa [Function.update_noteq hxi] using hne
        · rcases List.mem_cons.mp hc with rfl | hc
          · exact absurd rfl hxi
          · rw [h.no_store rfl hc] at hcs; cases hcs
  | rlock | read | hit | miss | lock | found | missAgain | unlock =>
    exact ⟨h.mapped, h.nodup, fun x hx => keep x hx rfl⟩

/-- Every step of a call keeps the invariant. -/
theorem GetMove.inv (h : rl.Inv (⟨ip, pc⟩ :: rest)) (hm : GetMove rl ip pc rl' pc') :
    rl'.Inv (⟨ip, pc'⟩ :: rest) :=
  have hc := hm.counts h
  have hd := hm.made h
  { readers := hc.1
    writer := hc.2.1
    exclusive := hc.2.2
    sees := List.forall_mem_cons.mpr
      ⟨hm.sees_self (h.sees ⟨ip, pc⟩ (List.mem_cons_self _ _)), hm.sees_rest h⟩
    mapped := hd.1
    nodup := hd.2.1
    stored := hd.2.2 }

end Move

/-- A new call keeps the invariant. -/
theorem RateLimiter.Inv.call {rl : RateLimiter} {calls : List GetCall} (h : rl.Inv calls)
    (ip : String) : rl.Inv (calls ++ [⟨ip, .rlock⟩]) :=
  have hcons : rl.Inv (⟨ip, .rlock⟩ :: calls) :=
    { readers := by simpa [GetPc.readLocked] using h.readers
      writer := by simpa [GetPc.writeLocked] using h.writer
      exclusive := h.exclusive
      sees := List.forall_mem_cons.mpr ⟨trivial, h.sees⟩
      mapped := h.mapped
      nodup := h.nodup
      stored := fun x hx => (h.stored x hx).imp_right
        fun ⟨c, hc, hc'⟩ => ⟨c, List.mem_cons_of_mem _ hc, hc'⟩ }
  hcons.perm (List.perm_append_singleton _ _).symm

/-- Every step of the requests keeps the invariant. -/
theorem MiddlewareSys.Inv.step {s s' : MiddlewareSys} {a : GetAct} (h : s.rl.Inv s.calls)
    (hs : s.step a = some s') : s'.rl.Inv s'.calls := by
  cases a with
  | call ip => cases hs; exact h.call ip
  | advance c =>
    simp only [MiddlewareSys.step, Option.bind_eq_some, Option.map_eq_some'] at hs
    obtain ⟨call, hc, ⟨rl', pc'⟩, hstep, rfl⟩ := hs
    exact ((getLimiterStep_move hstep).inv (h.perm (perm_cons_eraseIdx hc))).perm
      (perm_set_cons_eraseIdx _ hc).symm

/-- The invariant holds in every state of every interleaving. -/
theorem MiddlewareSys.Inv.reachable {s : MiddlewareSys} (h : s.Reachable) : s.rl.Inv s.calls :=
  @Reachable.invariant _ _ _ _ _ (fun s : MiddlewareSys => s.rl.Inv s.calls) newRateLimiter_inv
    (fun _ _ _ hI _ hs => MiddlewareSys.Inv.step hI hs) _ h

/-! ## Safety over every interleaving -/

/-- While a call writes the map, no other call reads or writes it: the map is never read and
written at once. -/
theorem getLimiter_exclusive {s : MiddlewareSys} (hs : s.Reachable) {i j : Nat} {c d : GetCall}
    (hij : i ≠ j) (hc : s.calls[i]? = some c) (hd : s.calls[j]? = some d)
    (hst : c.pc.storing = true) : d.pc.accessesMap = false := by
  have hI := (MiddlewareSys.Inv.reachable hs).perm (perm_cons_eraseIdx hc)
  have hmem : d ∈ s.calls.eraseIdx i := List.mem_eraseIdx_iff_getElem?.mpr ⟨j, hij.symm, hd⟩
  have hw := GetPc.writeLocked_of_storing hst
  have hdw : d.pc.writeLocked = false := hI.solo hw d hmem
  have hdr : d.pc.readLocked = false :=
    hI.no_reader (List.mem_cons_self _ _) hw d (List.mem_cons_of_mem _ hmem)
  cases hp : d.pc <;>
    simp only [hp, GetPc.accessesMap, GetPc.readLocked, GetPc.writeLocked, Bool.true_eq_false]
      at hdw hdr ⊢

/-- Two requests for one IP, both missing the map under the read lock: the first makes and
stores the limiter while the second waits for the write lock. -/
theorem getLimiter_exclusive_race :
    ∃ s : MiddlewareSys, s.Reachable ∧ s.calls[0]? = some ⟨"a", .store 0⟩ ∧
      s.calls[1]? = some ⟨"a", .lock⟩ ∧ GetPc.lock.accessesMap = false := by
  obtain ⟨s, hs, hp⟩ := Reachable.of_run_map (fun _ _ => trivial)
    (by decide : (run MiddlewareSys.step MiddlewareSys.init
      [.call "a", .call "a", .advance 0, .advance 1, .advance 0, .advance 1, .advance 0,
        .advance 1, .advance 0, .advance 0, .advance 0]).map
      (fun s : MiddlewareSys => decide (s.calls[0]? = some ⟨"a", .store 0⟩) &&
        decide (s.calls[1]? = some ⟨"a", .lock⟩)) = some true)
  simp only [Bool.and_eq_true, decide_eq_true_eq] at hp
  exact ⟨s, hs, hp.1, hp.2, getLimiter_exclusive hs (by decide) hp.1 hp.2 rfl⟩

/-- `rate.NewLimiter` runs at most once per IP, and every call of `getLimiter` that returned
got the limiter made for its IP: all calls for one IP return one limiter, and no two IPs
share one. -/
theorem getLimiter_one_limiter {s : MiddlewareSys} (hs : s.Reachable) :
    s.rl.made.Nodup ∧ ∀ c ∈ s.calls, ∀ l, c.pc = .done l → s.rl.made[l]? = some c.ip := by
  have hI := MiddlewareSys.Inv.reachable hs
  exact ⟨hI.nodup, fun c hc l hl => hI.mapped _ _ (hl ▸ hI.sees c hc : (GetPc.done l).Sees _ _)⟩

/-- The two requests of `getLimiter_exclusive_race` return: the second finds the limiter
that the first stored when it reads the map again under the write lock. -/
theorem getLimiter_one_limiter_race :
    ∃ s : MiddlewareSys, s.Reachable ∧ s.calls[0]? = some ⟨"a", .done 0⟩ ∧
      s.calls[1]? = some ⟨"a", .done 0⟩ ∧ s.rl.made.Nodup ∧
      ∀ c ∈ s.calls, ∀ l, c.pc = .done l → s.rl.made[l]? = some c.ip := by
  obtain ⟨s, hs, hp⟩ := Reachable.of_run_map (fun _ _ => trivial)
    (by decide : (run MiddlewareSys.step MiddlewareSys.init
      [.call "a", .call "a", .advance 0, .advance 1, .advance 0, .advance 1, .advance 0,
        .advance 1, .advance 0, .advance 0, .advance 0, .advance 0, .advance 0, .advance 1,
        .advance 1, .advance 1]).map
      (fun s : MiddlewareSys => decide (s.calls[0]? = some ⟨"a", .done 0⟩) &&
        decide (s.calls[1]? = some ⟨"a", .done 0⟩)) = some true)
  simp only [Bool.and_eq_true, decide_eq_true_eq] at hp
  exact ⟨s, hs, hp.1, hp.2, getLimiter_one_limiter hs⟩

/-! ## No deadlock -/

/-- A call that has not returned can step when it holds a lock, or when the lock is free. -/
theorem getLimiterStep_isSome (rl : RateLimiter) (ip : String) {pc : GetPc}
    (hpend : ∀ l, pc ≠ .done l)
    (h : pc.readLocked = true ∨ pc.writeLocked = true ∨ (rl.writer = false ∧ rl.readers = 0)) :
    (rl.getLimiterStep ip pc).isSome := by
  cases pc <;> simp_all [RateLimiter.getLimiterStep, GetPc.readLocked, GetPc.writeLocked]

/-- The call at `j` can step when its own step can. -/
theorem MiddlewareSys.step_advance_isSome {s : MiddlewareSys} {j : Nat} {d : GetCall}
    (hd : s.calls[j]? = some d) (h : (s.rl.getLimiterStep d.ip d.pc).isSome) :
    (s.step (.advance j)).isSome := by
  simp only [MiddlewareSys.step, hd, Option.some_bind, Option.isSome_map']
  exact h

/-- While a call of `getLimiter` has not returned, some call can make a step: the holder of
the write lock, a holder of the read lock, or, with the lock free, the call itself. -/
theorem getLimiter_no_deadlock {s : MiddlewareSys} (hs : s.Reachable) {i : Nat} {c : GetCall}
    (hc : s.calls[i]? = some c) (hpend : ∀ l, c.pc ≠ .done l) :
    ∃ j, (s.step (.advance j)).isSome := by
  have hI := MiddlewareSys.Inv.reachable hs
  -- a call that holds a lock can step, wherever it is
  have holder : ∀ d ∈ s.calls, d.pc.readLocked = true ∨ d.pc.writeLocked = true →
      ∃ j, (s.step (.advance j)).isSome := by
    intro d hd hl
    obtain ⟨j, hj⟩ := List.mem_iff_getElem?.mp hd
    refine ⟨j, MiddlewareSys.step_advance_isSome hj (getLimiterStep_isSome _ _ ?_ (hl.imp_right .inl))⟩
    rintro l hl'
    rcases hl with hl | hl <;> rw [hl'] at hl <;> cases hl
  cases hw : s.rl.writer
  · by_cases hr : s.rl.readers = 0
    · exact ⟨i, MiddlewareSys.step_advance_isSome hc
        (getLimiterStep_isSome _ _ hpend (.inr (.inr ⟨hw, hr⟩)))⟩
    · obtain ⟨d, hd, hdr⟩ := List.countP_pos_iff.mp (by rw [← hI.readers]; omega :
        0 < s.calls.countP (·.pc.readLocked))
      exact holder d hd (.inl hdr)
  · obtain ⟨d, hd, hdw⟩ := List.countP_pos_iff.mp (by rw [hI.writer, hw]; decide :
      0 < s.calls.countP (·.pc.writeLocked))
    exact holder d hd (.inr hdw)

/-- In `getLimiter_exclusive_race`, the second request waits for the write lock, and the first
can step. -/
theorem getLimiter_no_deadlock_race :
    ∃ s : MiddlewareSys, s.Reachable ∧ s.calls[1]? = some ⟨"a", .lock⟩ ∧
      (∀ l, GetPc.lock ≠ .done l) ∧ ∃ j, (s.step (.advance j)).isSome := by
  obtain ⟨s, hs, hp⟩ := Reachable.of_run_map (fun _ _ => trivial)
    (by decide : (run MiddlewareSys.step MiddlewareSys.init
      [.call "a", .call "a", .advance 0, .advance 1, .advance 0, .advance 1, .advance 0,
        .advance 1, .advance 0, .advance 0, .advance 0]).map
      (fun s : MiddlewareSys => decide (s.calls[1]? = some ⟨"a", .lock⟩)) = some true)
  simp only [decide_eq_true_eq] at hp
  have hpend : ∀ l, GetPc.lock ≠ .done l := fun _ h => by cases h
  exact ⟨s, hs, hp, hpend, getLimiter_no_deadlock hs hp hpend⟩

end Notifly
