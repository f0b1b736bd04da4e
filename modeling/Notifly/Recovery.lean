import Notifly.System
import Mathlib.Data.List.Nodup

/-!
# The reaper drains a backlog

`Reaper.Run` calls `sweep` at every tick of its ticker, `Interval` apart.  One sweep lists
at most `BatchSize` stale records, oldest `updated_at` first, and the reset of each
stamps `updated_at` with the sweep's clock.  `reaperRun` is that loop run alone: each
sweep runs to its return with no other step in between, and the clock moves on by
`Interval` after it.

`reaperRun_requeues` says what `k` sweeps in which every call succeeds do to the `N`
records that are stale when the first one starts.  Their `updated_at` is before the first
sweep's bound, so they stay stale until a sweep resets them, and every later sweep lists
them before the records that went stale since (`countP_listStale`).  So the `k` sweeps
requeue `min N (k · BatchSize)` of them, and leave every record that they do not requeue
as it was.  A reset record is stale again `StaleThreshold` after its reset: when the `k`
sweeps fit in `StaleThreshold` (`k · Interval ≤ StaleThreshold`), no record is requeued
twice.

Counting records by their ids needs distinct row ids, which `rowIds_nodup` proves of
every reachable state.

`reaperRun_in_system` connects the loop to the system of `Sys.step`: when the ticker
starts each sweep, only that sweep advances until it returns, and the clock then moves on
by `Interval`, the system ends in the state that `reaperRun` computes, with the returned
sweep calls appended.
-/

namespace Notifly

/-- The loop of `Reaper.Run`: one sweep per tick, each run to its return, the environment
answering the calls of each sweep through its own `ask`; the next tick comes `Interval`
later. -/
def reaperRun (cfg : Config) : Sys → List (SweepPc → Reply) → Sys
  | s, [] => s
  | s, ask :: asks =>
    reaperRun cfg { (sweepAlone cfg s ask).1 with now := s.now + cfg.reaper.interval } asks

/-- The ids of the rows that a sweep started at the clock of `s` counts as stale, in
table order. -/
def staleIds (cfg : Config) (s : Sys) : List LogId :=
  rowIds (s.logs.filter (isStale (s.now - cfg.reaper.staleThreshold)))

/-! ## One sweep in which every call succeeds -/

section Healthy

variable {ask : SweepPc → Reply} (hask : ∀ pc, (ask pc).fault = none)
include hask

theorem resetIds_of_healthy (rest : List NotificationLog) : resetIds ask rest = rowIds rest := by
  induction rest with
  | nil => rfl
  | cons l rest ih => simp [resetIds, hask, ih, rowIds]

theorem requeuedIds_of_healthy (rest : List NotificationLog) :
    requeuedIds ask rest = rowIds rest := by
  induction rest with
  | nil => rfl
  | cons l rest ih => simp [requeuedIds, hask, ih, rowIds]

/-- One sweep in which every call succeeds resets every row of its batch at the sweep's
clock, gives each of them one task, and changes nothing else. -/
theorem sweepAlone_healthy (cfg : Config) (s : Sys) :
    (sweepAlone cfg s ask).1 =
      { s with
        logs := s.logs.map fun l =>
          if l.id ∈ rowIds (listStale s.logs (s.now - cfg.reaper.staleThreshold)
            cfg.reaper.batchSize) then l.applyStatus .queued "" "" s.now else l
        queue := s.queue ++ (rowIds (listStale s.logs (s.now - cfg.reaper.staleThreshold)
          cfg.reaper.batchSize)).map fun id => ⟨id, 0⟩
        enqueued := s.enqueued ++ rowIds (listStale s.logs
          (s.now - cfg.reaper.staleThreshold) cfg.reaper.batchSize) } := by
  rw [sweepAlone_of_listed cfg s (hask .list)]
  simp only [Sys.afterSweep, resetIds_of_healthy hask, requeuedIds_of_healthy hask]

end Healthy

@[simp] theorem length_rowIds_filter (t : List NotificationLog) (p : NotificationLog → Bool) :
    (rowIds (t.filter p)).length = t.countP p := by
  rw [rowIds, List.length_map, List.countP_eq_length_filter]

/-- A row reset at clock `now` is stale for no bound up to `now`. -/
theorem isStale_applyStatus_queued {o now : Int} (h : o ≤ now) (l : NotificationLog) :
    isStale o (l.applyStatus .queued "" "" now) = false := by
  simp [isStale]
  omega

/-- After the loop of a sweep at a clock past `o`, the rows stale for `o` are those that
were, less the ones whose reset landed. -/
theorem staleRows_afterSweep (s : Sys) (ask : SweepPc → Reply) (rest : List NotificationLog)
    {o : Int} (ho : o ≤ s.now) :
    rowIds ((s.afterSweep ask rest).logs.filter (isStale o)) =
      (rowIds (s.logs.filter (isStale o))).filter fun id => id ∉ resetIds ask rest := by
  simp only [Sys.afterSweep, rowIds, List.filter_map, List.map_map, List.filter_filter]
  congr 1
  · funext l
    exact (apply_ite NotificationLog.id _ _ _).trans (ite_self _)
  · congr 1
    funext l
    by_cases hl : l.id ∈ resetIds ask rest <;> simp [hl, isStale_applyStatus_queued ho]

/-- One sweep alone does not move the clock. -/
@[simp] theorem sweepAlone_now (cfg : Config) (s : Sys) (ask : SweepPc → Reply) :
    (sweepAlone cfg s ask).1.now = s.now := by
  cases h : (ask .list).fault with
  | some e => simp [sweepAlone, sweepRun, sweepStep, h]
  | none => rw [sweepAlone_of_listed cfg s h]; rfl

/-! ## What `ListStale` returns -/

theorem nodup_of_subperm {α : Type} {l₁ l₂ : List α} (h : l₁.Subperm l₂) (d : l₂.Nodup) :
    l₁.Nodup :=
  let ⟨_, hp, hs⟩ := h
  hp.nodup_iff.mp (hs.nodup d)

theorem listStale_subperm (t : List NotificationLog) (olderThan limit : Int) :
    (listStale t olderThan limit).Subperm t :=
  (List.take_sublist _ _).subperm.trans
    ((List.perm_insertionSort _ _).subperm.trans (List.filter_sublist _).subperm)

/-- The ids that `ListStale` returns are stale ids of the table, each at most once. -/
theorem rowIds_listStale_subperm (t : List NotificationLog) (olderThan limit : Int) :
    (rowIds (listStale t olderThan limit)).Subperm (rowIds (t.filter (isStale olderThan))) :=
  ((List.take_sublist _ _).map _).subperm.trans
    ((List.perm_insertionSort _ _).map _).subperm

/-- In a list where `p` holds of an element only if it holds of every element before it,
the first `n` elements hold `min n` of the elements of `p`. -/
theorem countP_take_of_pairwise {α : Type} {p : α → Bool} :
    ∀ {L : List α} (n : Nat), L.Pairwise (fun a b => p b → p a) →
      (L.take n).countP p = min n (L.countP p)
  | [], n, _ => by simp
  | a :: L, 0, _ => by simp
  | a :: L, n + 1, h => by
    rw [List.pairwise_cons] at h
    by_cases ha : p a
    · simp only [List.take_succ_cons, List.countP_cons, ha, if_true,
        countP_take_of_pairwise n h.2]
      omega
    · have hL : L.countP p = 0 :=
        List.countP_eq_zero.mpr fun b hb hpb => ha (h.1 b hb hpb)
      have htake : (L.take n).countP p = 0 :=
        Nat.eq_zero_of_le_zero (hL ▸ (List.take_sublist n L).countP_le p)
      rw [List.take_succ_cons, List.countP_cons, List.countP_cons, if_neg ha, htake, hL]
      simp

/-- `ListStale` at a bound past `o` lists the rows stale for `o` first, as they have the
oldest `updated_at`: its batch holds `min BatchSize` of them. -/
theorem countP_listStale {o b : Int} (h : o ≤ b) (t : List NotificationLog) (limit : Int) :
    (listStale t b limit).countP (isStale o) =
      min (staleLimit limit) (t.countP (isStale o)) := by
  let r := fun a b : NotificationLog => a.updatedAt ≤ b.updatedAt
  haveI : IsTotal NotificationLog r := ⟨fun a b => le_total a.updatedAt b.updatedAt⟩
  haveI : IsTrans NotificationLog r := ⟨fun _ _ _ => le_trans⟩
  have hsorted : ((t.filter (isStale b)).insertionSort r).Pairwise
      fun x y => isStale o y → isStale o x := by
    refine List.Pairwise.imp_of_mem (fun hx _ hxy hy => ?_)
      (List.sorted_insertionSort r (t.filter (isStale b)))
    have hx' := (List.mem_filter.mp ((List.perm_insertionSort r _).mem_iff.mp hx)).2
    simp only [isStale, Bool.and_eq_true, decide_eq_true_eq] at hx' hy ⊢
    exact ⟨hx'.1, lt_of_le_of_lt hxy hy.2⟩
  have hsame : ∀ l, (isStale o l && isStale b l) = isStale o l := by
    intro l
    simp only [isStale]
    cases hs : (l.status = .queued || l.status = .processing) <;> simp
    omega
  rw [listStale, countP_take_of_pairwise _ hsorted, (List.perm_insertionSort _ _).countP_eq,
    List.countP_filter]
  simp only [hsame]

/-- Ids of listed rows pick out those rows among the rows of a table with distinct ids. -/
theorem filter_mem_rowIds_perm {t batch : List NotificationLog} (ht : (rowIds t).Nodup)
    (hb : batch.Subperm t) : (t.filter fun l => l.id ∈ rowIds batch).Perm batch := by
  have htn : t.Nodup := ht.of_map _
  refine (List.perm_ext_iff_of_nodup (htn.filter _) (nodup_of_subperm hb htn)).mpr fun l => ?_
  simp only [List.mem_filter, decide_eq_true_eq, rowIds, List.mem_map]
  constructor
  · rintro ⟨hl, l', hl', he⟩
    rwa [List.inj_on_of_nodup_map ht hl (hb.subset hl') he.symm]
  · exact fun hl => ⟨hb.subset hl, l, hl, rfl⟩

/-- The ids of rows of `p` that a batch lists, among the rows of a table with distinct
ids, count the rows of the batch of `p`. -/
theorem length_filter_mem_rowIds {t batch : List NotificationLog} (ht : (rowIds t).Nodup)
    (hb : batch.Subperm t) (p : NotificationLog → Bool) :
    ((rowIds (t.filter p)).filter fun id => id ∈ rowIds batch).length = batch.countP p := by
  rw [← (filter_mem_rowIds_perm ht hb).countP_eq, List.countP_filter,
    List.countP_eq_length_filter]
  simp only [rowIds, List.filter_map, List.length_map, List.filter_filter, Function.comp_def,
    Bool.and_comm]

/-! ## The loop -/

theorem reaperRun_requeues_from (cfg : Config) (o : Int) :
    ∀ (asks : List (SweepPc → Reply)) (s : Sys), (rowIds s.logs).Nodup →
      (∀ ask ∈ asks, ∀ pc, (ask pc).fault = none) → o ≤ s.now - cfg.reaper.staleThreshold →
      ∃ new : List LogId,
        (reaperRun cfg s asks).queue = s.queue ++ new.map (fun id => ⟨id, 0⟩) ∧
        (∀ l ∈ s.logs, l.id ∉ new → l ∈ (reaperRun cfg s asks).logs) ∧
        rowIds ((reaperRun cfg s asks).logs.filter (isStale o)) =
          (rowIds (s.logs.filter (isStale o))).filter (· ∉ new) ∧
        (rowIds ((reaperRun cfg s asks).logs.filter (isStale o))).length +
            min (s.logs.countP (isStale o)) (asks.length * staleLimit cfg.reaper.batchSize) =
          s.logs.countP (isStale o) ∧
        ((asks.length : Int) * cfg.reaper.interval ≤ cfg.reaper.staleThreshold →
          new.Nodup ∧ ∀ id ∈ new, ∃ l ∈ s.logs, l.id = id ∧
            l.updatedAt < s.now + asks.length * cfg.reaper.interval - cfg.reaper.staleThreshold)
  | [], s, _, _, _ =>
    ⟨[], by simp [reaperRun], fun _ hl _ => hl, by simp [reaperRun],
      by simp [reaperRun, rowIds, List.countP_eq_length_filter], fun _ => by simp⟩
  | ask :: asks, s, hn, hask, ho => by
    have hh := hask ask (List.mem_cons_self _ _)
    have hI := cfg.reaper.interval_pos
    have hT := cfg.reaper.staleThreshold_pos
    set batch := listStale s.logs (s.now - cfg.reaper.staleThreshold) cfg.reaper.batchSize
      with hbatch
    set ids := rowIds batch with hids
    obtain ⟨s₁, hs₁⟩ : ∃ s₁ : Sys,
        s₁ = { (sweepAlone cfg s ask).1 with now := s.now + cfg.reaper.interval } := ⟨_, rfl⟩
    have hrun : reaperRun cfg s (ask :: asks) = reaperRun cfg s₁ asks := by rw [hs₁]; rfl
    have hsweep := sweepAlone_healthy hh cfg s
    have hlogs : s₁.logs = s.logs.map fun l =>
        if l.id ∈ ids then l.applyStatus .queued "" "" s.now else l := by
      rw [hs₁, hsweep]
    have hrow : rowIds s₁.logs = rowIds s.logs := by
      rw [hlogs]
      simp [rowIds, Function.comp_def, apply_ite NotificationLog.id]
    have hstale₁ : rowIds (s₁.logs.filter (isStale o)) =
        (rowIds (s.logs.filter (isStale o))).filter (· ∉ ids) := by
      have := staleRows_afterSweep s ask batch (show o ≤ s.now by omega)
      simp only [Sys.afterSweep, resetIds_of_healthy hh] at this
      rw [hlogs]
      exact this
    have hcount : ((rowIds (s.logs.filter (isStale o))).filter (· ∈ ids)).length =
        min (staleLimit cfg.reaper.batchSize) (s.logs.countP (isStale o)) := by
      rw [length_filter_mem_rowIds hn (listStale_subperm _ _ _), countP_listStale (by omega)]
    obtain ⟨new, hq, hkeep, hst, hlen, hnd⟩ := reaperRun_requeues_from cfg o asks s₁
      (hrow ▸ hn) (fun a ha => hask a (List.mem_cons_of_mem _ ha)) (by rw [hs₁]; dsimp only; omega)
    refine ⟨ids ++ new, ?_, ?_, ?_, ?_, ?_⟩
    · rw [hrun, hq, hs₁, hsweep]
      simp [ids]
    · intro l hl hnot
      rw [List.mem_append, not_or] at hnot
      rw [hrun]
      refine hkeep l ?_ hnot.2
      rw [hlogs, List.mem_map]
      exact ⟨l, hl, by simp [hnot.1]⟩
    · rw [hrun, hst, hstale₁, List.filter_filter]
      congr 1
      funext id
      simp [Bool.and_comm]
    · have hN₁ := congrArg List.length hstale₁
      have hsplit := @List.length_eq_length_filter_add _ (rowIds (s.logs.filter (isStale o)))
        fun id => decide (id ∈ ids)
      rw [hrun, List.length_cons, Nat.succ_mul]
      simp only [decide_not, length_rowIds_filter] at hN₁ hsplit hlen ⊢
      omega
    · intro hk
      simp only [List.length_cons, Int.natCast_add, Int.natCast_one, Int.add_mul, Int.one_mul] at hk ⊢
      obtain ⟨hnd', hold'⟩ := hnd (by omega)
      have horig : ∀ id ∈ new, ∃ l ∈ s.logs, l.id = id ∧ l.id ∉ ids ∧
          l.updatedAt < s.now + (asks.length * cfg.reaper.interval + cfg.reaper.interval) -
            cfg.reaper.staleThreshold := by
        intro id hid
        obtain ⟨l', hl', rfl, hlt⟩ := hold' id hid
        rw [hlogs, List.mem_map] at hl'
        obtain ⟨l, hl, rfl⟩ := hl'
        by_cases hin : l.id ∈ ids
        · simp only [hin, if_true, applyStatus_updatedAt, hs₁] at hlt
          omega
        · simp only [hin, if_false, hs₁] at hlt ⊢
          exact ⟨l, hl, rfl, hin, by omega⟩
      have hids : ids.Nodup := nodup_of_subperm (rowIds_listStale_subperm _ _ _)
        (hn.sublist ((List.filter_sublist _).map _))
      refine ⟨List.nodup_append.mpr ⟨hids, hnd', ?_⟩, fun id hid => ?_⟩
      · intro id hid hid'
        obtain ⟨l, -, rfl, hnot, -⟩ := horig id hid'
        exact hnot hid
      · rcases List.mem_append.mp hid with hid | hid
        · obtain ⟨l, hl, rfl⟩ := List.mem_map.mp hid
          obtain ⟨hlt, hst⟩ := mem_listStale hl
          simp only [isStale, Bool.and_eq_true, decide_eq_true_eq] at hst
          have : (0 : Int) ≤ asks.length * cfg.reaper.interval :=
            Int.mul_nonneg (Int.ofNat_nonneg _) hI.le
          exact ⟨l, hlt, rfl, by omega⟩
        · obtain ⟨l, hl, rfl, -, hlt⟩ := horig id hid
          exact ⟨l, hl, rfl, hlt⟩

/-- `k` sweeps of `Reaper.Run` in which every call succeeds, `Interval` apart, from any
reachable state with `N` stale records.  They requeue `min N (k · BatchSize)` of those
records, each requeued record gets a fresh task, and every record that is not requeued
stays as it was.  When the `k` sweeps fit in `StaleThreshold`, no record is requeued
twice. -/
theorem reaperRun_requeues (cfg : Config) (ok : Act → Prop) (s : Sys)
    (hs : s.Reachable cfg ok) (asks : List (SweepPc → Reply))
    (hask : ∀ ask ∈ asks, ∀ pc, (ask pc).fault = none) :
    ∃ new : List LogId,
      (reaperRun cfg s asks).queue = s.queue ++ new.map (fun id => ⟨id, 0⟩) ∧
      ((staleIds cfg s).filter (· ∈ new)).length =
        min (staleIds cfg s).length (asks.length * staleLimit cfg.reaper.batchSize) ∧
      (∀ l ∈ s.logs, l.id ∉ new → l ∈ (reaperRun cfg s asks).logs) ∧
      ((asks.length : Int) * cfg.reaper.interval ≤ cfg.reaper.staleThreshold → new.Nodup) := by
  obtain ⟨new, hq, hkeep, hst, hlen, hnd⟩ :=
    reaperRun_requeues_from cfg _ asks s (rowIds_nodup hs) hask le_rfl
  refine ⟨new, hq, ?_, hkeep, fun h => (hnd h).1⟩
  have hsplit := @List.length_eq_length_filter_add _ (staleIds cfg s) fun id => decide (id ∈ new)
  rw [hst, ← staleIds] at hlen
  simp only [staleIds, decide_not, length_rowIds_filter] at hlen hsplit ⊢
  omega

/-- Records `a` and `b` are accepted and their tasks lost, and the clock passes the stale
threshold.  With one row per batch and sweeps a minute apart, two sweeps in which every
call succeeds requeue both, once each. -/
theorem reaperRun_requeues_backlog :
    ∃ (cfg : Config) (s : Sys), cfg.reaper.batchSize = 1 ∧ s.Reachable cfg (fun _ => True) ∧
      staleIds cfg s = ["a", "b"] ∧ ∃ new : List LogId,
        (reaperRun cfg s [fun _ => {}, fun _ => {}]).queue =
          s.queue ++ new.map (fun id => ⟨id, 0⟩) ∧
        (["a", "b"].filter (· ∈ new)).length = 2 ∧ new.Nodup := by
  let cfg : Config :=
    { defaultConfig with reaper := newReaper ⟨60 * 1000000000, 600 * 1000000000, 1⟩ }
  obtain ⟨s, hs, hp⟩ := Sys.Reachable.of_run_map _ (fun _ _ => trivial)
    (by decide : (run (Sys.step cfg) Sys.init
      [.submit ⟨"email", "magic_link", "a@b.com", ""⟩, .advance 0 {}, .advance 0 {},
        .advance 0 { newId := "a" }, .advance 0 {},
        .submit ⟨"email", "magic_link", "c@d.com", ""⟩, .advance 1 {}, .advance 1 {},
        .advance 1 { newId := "b" }, .advance 1 {}, .lose 0, .lose 0,
        .tick 600000000001]).map (fun s => staleIds cfg s == ["a", "b"]) = some true)
  have hstale : staleIds cfg s = ["a", "b"] := by simpa using hp
  obtain ⟨new, hq, hcount, -, hnd⟩ :=
    reaperRun_requeues cfg _ s hs [fun _ => {}, fun _ => {}] (by simp)
  rw [hstale] at hcount
  exact ⟨cfg, s, by decide, hs, hstale, new, hq, hcount.trans (by decide), hnd (by decide)⟩

/-! ## The loop inside the system

`reaperRun` is a run of `Sys.step`: the ticker starts a sweep, and only that call advances
until it returns, the environment answering through `ask`.  A sweep neither reads nor
writes the list of calls, so the system ends in the state of `reaperRun`, with the
returned sweep calls appended. -/

@[simp] theorem sweepStep_calls (cfg : Config) (s : Sys) (olderThan : Int) (pc : SweepPc)
    (r : Reply) : (sweepStep cfg s olderThan pc r).1.calls = s.calls := by
  rcases h : sweepStep cfg s olderThan pc r with ⟨s', pc'⟩
  cases sweepStep_move h <;> simp [Sys.pushTask]

/-- A step of a sweep does not depend on the list of calls. -/
theorem sweepStep_setCalls (cfg : Config) (s : Sys) (cs : List Call) (olderThan : Int)
    (pc : SweepPc) (r : Reply) :
    sweepStep cfg { s with calls := cs } olderThan pc r =
      ({ (sweepStep cfg s olderThan pc r).1 with calls := cs },
        (sweepStep cfg s olderThan pc r).2) := by
  cases pc with
  | reset rest =>
    cases rest with
    | nil => rfl
    | cons l rest => simp only [sweepStep, Sys.write]; split <;> rfl
  | requeue l rest => simp only [sweepStep]; split <;> rfl
  | list => simp only [sweepStep]; split <;> rfl
  | done => rfl

theorem sweepRun_setCalls (cfg : Config) (olderThan : Int) (ask : SweepPc → Reply) :
    ∀ (n : Nat) (s : Sys) (cs : List Call) (pc : SweepPc),
      sweepRun cfg olderThan ask n { s with calls := cs } pc =
        ({ (sweepRun cfg olderThan ask n s pc).1 with calls := cs },
          (sweepRun cfg olderThan ask n s pc).2)
  | 0, _, _, _ => rfl
  | n + 1, s, cs, pc => by
    simp only [sweepRun, sweepStep_setCalls]
    exact sweepRun_setCalls cfg olderThan ask n _ cs _

theorem reaperRun_setCalls (cfg : Config) :
    ∀ (s : Sys) (cs : List Call) (asks : List (SweepPc → Reply)),
      reaperRun cfg { s with calls := cs } asks = { reaperRun cfg s asks with calls := cs }
  | _, _, [] => rfl
  | s, cs, ask :: asks => by
    simp only [reaperRun, sweepAlone, sweepRun_setCalls]
    exact reaperRun_setCalls cfg { (sweepAlone cfg s ask).1 with now := s.now + cfg.reaper.interval }
      cs asks

theorem set_eq_self_of_getElem? {α : Type} {l : List α} {i : Nat} {a : α} (h : l[i]? = some a) :
    l.set i a = l := by
  induction l generalizing i with
  | nil => simp at h
  | cons b l ih =>
    cases i with
    | zero => simp_all
    | succ i => simp_all

/-- The sweep call at index `c`, advanced `n` times with no other step in between, runs
`sweepRun`. -/
theorem run_advance_sweep (cfg : Config) (olderThan : Int) (ask : SweepPc → Reply) :
    ∀ (n : Nat) (s : Sys) (c : Nat) (pc : SweepPc), s.calls[c]? = some (.sweep olderThan pc) →
      ∃ acts : List Act, (∀ a ∈ acts, ∃ pc, a = .advance c (ask pc)) ∧
        run (Sys.step cfg) s acts =
          some { (sweepRun cfg olderThan ask n s pc).1 with
            calls := s.calls.set c (.sweep olderThan (sweepRun cfg olderThan ask n s pc).2) }
  | 0, s, c, pc, h => ⟨[], by simp, by simp [run, sweepRun, set_eq_self_of_getElem? h]⟩
  | n + 1, s, c, pc, h => by
    rcases hs : sweepStep cfg s olderThan pc (ask pc) with ⟨s₁, pc₁⟩
    have hlt : c < s.calls.length := (List.getElem?_eq_some_iff.mp h).1
    have hstep : Sys.step cfg s (.advance c (ask pc)) =
        some { s₁ with calls := s.calls.set c (.sweep olderThan pc₁) } := by
      simp [Sys.step, h, callStep, hs]
    obtain ⟨acts, hacts, hrun⟩ := run_advance_sweep cfg olderThan ask n
      { s₁ with calls := s.calls.set c (.sweep olderThan pc₁) } c pc₁ (by simp [hlt])
    refine ⟨.advance c (ask pc) :: acts, List.forall_mem_cons.mpr ⟨⟨pc, rfl⟩, hacts⟩, ?_⟩
    rw [run, hstep, Option.some_bind, hrun, sweepRun_setCalls]
    simp [sweepRun, hs]

/-- A sweep run alone returns, whatever the answers. -/
theorem sweepAlone_snd (cfg : Config) (s : Sys) (ask : SweepPc → Reply) :
    (sweepAlone cfg s ask).2 = .done := by
  cases h : (ask .list).fault with
  | some e => simp [sweepAlone, sweepRun, sweepStep, h]
  | none => rw [sweepAlone_of_listed cfg s h]

/-- One sweep started by the ticker and advanced alone runs `sweepAlone`. -/
theorem run_sweepAlone (cfg : Config) (s : Sys) (ask : SweepPc → Reply) :
    ∃ acts : List Act,
      (∀ a ∈ acts, a = .startSweep ∨ ∃ pc, a = .advance s.calls.length (ask pc)) ∧
      run (Sys.step cfg) s acts =
        some { (sweepAlone cfg s ask).1 with
          calls := s.calls ++ [.sweep (s.now - cfg.reaper.staleThreshold) .done] } := by
  obtain ⟨acts, hacts, hrun⟩ := run_advance_sweep cfg (s.now - cfg.reaper.staleThreshold) ask
    (2 * s.logs.length + 2)
    { s with calls := s.calls ++ [.sweep (s.now - cfg.reaper.staleThreshold) .list] }
    s.calls.length .list (by simp)
  refine ⟨.startSweep :: acts, List.forall_mem_cons.mpr ⟨.inl rfl, fun a ha => .inr (hacts a ha)⟩, ?_⟩
  have hdone := sweepAlone_snd cfg s ask
  rw [sweepAlone] at hdone
  rw [run, Sys.step, Option.some_bind, hrun, sweepRun_setCalls]
  simp [sweepAlone, hdone]

/-- The loop of `Reaper.Run` is a run of the system in which the ticker starts each sweep,
only that sweep advances until it returns, and the clock then moves on by `Interval`: the
system ends in the state of `reaperRun`, with one returned sweep call per sweep. -/
theorem reaperRun_in_system (cfg : Config) :
    ∀ (s : Sys) (asks : List (SweepPc → Reply)), ∃ (acts : List Act) (done : List Call),
      (∀ a ∈ acts, a = .startSweep ∨ a = .tick cfg.reaper.interval.toNat ∨
        ∃ ask ∈ asks, ∃ c, s.calls.length ≤ c ∧ ∃ pc, a = .advance c (ask pc)) ∧
      done.length = asks.length ∧ (∀ d ∈ done, ∃ olderThan, d = .sweep olderThan .done) ∧
      run (Sys.step cfg) s acts = some { reaperRun cfg s asks with calls := s.calls ++ done }
  | s, [] => ⟨[], [], by simp, rfl, by simp, by simp [run, reaperRun]⟩
  | s, ask :: asks => by
    obtain ⟨acts₁, h₁, hrun₁⟩ := run_sweepAlone cfg s ask
    obtain ⟨acts₂, done, h₂, hlen, hdone, hrun₂⟩ := reaperRun_in_system cfg
      { (sweepAlone cfg s ask).1 with
        now := s.now + cfg.reaper.interval
        calls := s.calls ++ [.sweep (s.now - cfg.reaper.staleThreshold) .done] } asks
    refine ⟨acts₁ ++ .tick cfg.reaper.interval.toNat :: acts₂,
      .sweep (s.now - cfg.reaper.staleThreshold) .done :: done, ?_, by simp [hlen],
      List.forall_mem_cons.mpr ⟨⟨_, rfl⟩, hdone⟩, ?_⟩
    · intro a ha
      rcases List.mem_append.mp ha with ha | ha
      · rcases h₁ a ha with rfl | ⟨pc, rfl⟩
        · exact .inl rfl
        · exact .inr (.inr ⟨ask, List.mem_cons_self _ _, _, le_refl _, pc, rfl⟩)
      · rcases List.mem_cons.mp ha with rfl | ha
        · exact .inr (.inl rfl)
        · rcases h₂ a ha with rfl | rfl | ⟨ask', hm, c, hc, pc, rfl⟩
          · exact .inl rfl
          · exact .inr (.inl rfl)
          · refine .inr (.inr ⟨ask', List.mem_cons_of_mem _ hm, c, ?_, pc, rfl⟩)
            simp at hc
            omega
    · have htick : ((cfg.reaper.interval.toNat : Nat) : Int) = cfg.reaper.interval :=
        Int.toNat_of_nonneg cfg.reaper.interval_pos.le
      have key := reaperRun_setCalls cfg
        { (sweepAlone cfg s ask).1 with now := s.now + cfg.reaper.interval }
        (s.calls ++ [.sweep (s.now - cfg.reaper.staleThreshold) .done]) asks
      simp only at key
      rw [run_append, hrun₁, Option.some_bind, run]
      simp only [Sys.step, Option.some_bind, htick, sweepAlone_now]
      rw [hrun₂]
      simp only [key]
      simp [reaperRun]

end Notifly
