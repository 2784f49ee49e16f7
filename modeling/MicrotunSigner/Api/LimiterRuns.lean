import MicrotunSigner.Api.Limiter
import MicrotunSigner.Lib.Sys

/-!
# Concurrent device exchanges at the limiter (`api.rs`)

Any number of calls of `DeviceExchangeLimiter::admit` at once (`admitSys`). A call reads the clock,
waits for the lock of the attempts, and is granted it in any order; the permit it tries to take then
is free again when its exchange is over.

The readings are taken outside the lock, so a deque is not in time order, and a call drops by its
own cutoff attempts that count for a call with an earlier reading (`rate_exceeded`). `DropsLive` is
that step; a run without it keeps the bound (`rate_bound_run`), by the invariant `RateOk`. A call
drops nothing live if no earlier reading waits (`not_dropsLive`), and none does in the first minute
(`not_did_dropsLive`).
-/

namespace MicrotunSigner

open Lib Lib.Window

def deviceExchangeMaxConcurrent : Nat := 8

/-- Where a call is: not in `admit`; after its reading of the clock, waiting for the lock; past the
rate check; past the limiter, with a permit. -/
inductive AdmitPc where
  | out
  | waiting (source : IpAddr) (now : Int)
  | checked
  | running
  deriving DecidableEq

structure AdmitSt where
  now : Int
  attempts : Attempts
  permits : Nat
  calls : Nat → AdmitPc

def AdmitSt.new (now : Int) : AdmitSt :=
  ⟨now, Map.empty, deviceExchangeMaxConcurrent, fun _ => .out⟩

/-- A call can be dropped while it waits (`cancel`); `release` is the drop of the permit. -/
inductive AdmitAct where
  | read (c : Nat) (source : IpAddr)
  | check (c : Nat)
  | acquire (c : Nat)
  | release (c : Nat)
  | cancel (c : Nat)
  | tick (d : Nat)

/-- All interleavings. -/
def admitSys : Sys AdmitSt AdmitAct where
  init s := ∃ now, s = .new now
  step s
    | .read c source => match s.calls c with
      | .out => some { s with calls := Function.update s.calls c (.waiting source s.now) }
      | _ => none
    | .check c => match s.calls c with
      | .waiting source now =>
        let (result, attempts) := checkRate source now s.attempts
        some { s with attempts, calls := Function.update s.calls c (match result with
          | .ok () => .checked
          | .error _ => .out) }
      | _ => none
    | .acquire c => match s.calls c with
      | .checked =>
        if s.permits = 0 then some { s with calls := Function.update s.calls c .out }
        else some { s with
          permits := s.permits - 1, calls := Function.update s.calls c .running }
      | _ => none
    | .release c => match s.calls c with
      | .running => some { s with
          permits := s.permits + 1, calls := Function.update s.calls c .out }
      | _ => none
    | .cancel c => match s.calls c with
      | .waiting _ _ => some { s with calls := Function.update s.calls c .out }
      | _ => none
    | .tick d => some { s with now := s.now + d }

/-- The source and the reading of a call that passes the rate check. -/
def passObs (t : AdmitSt) : AdmitAct → AdmitSt → List (IpAddr × Int)
  | .check c, _ => match t.calls c with
    | .waiting source now =>
      if (checkRate source now t.attempts).1 = .ok () then [(source, now)] else []
    | _ => []
  | _, _ => []

/-- The calls that pass the rate check, in the order in which they take the lock. -/
def passes (now : Int) (as : List AdmitAct) : List (IpAddr × Int) :=
  admitSys.trace passObs (.new now) as

/-- The readings of `source` among the calls `log`. -/
def readings (source : IpAddr) (log : List (IpAddr × Int)) : List Int :=
  (log.filter fun pass => pass.1 == source).map Prod.snd

/-- Those in the half-open minute that ends at `t`. -/
def readingsInWindow (source : IpAddr) (t : Int) (log : List (IpAddr × Int)) : List Int :=
  within (t - deviceExchangeRateWindow) t (readings source log)

/-! ## What a rate check drops -/

/-- The attempts of a source. -/
def Attempts.entries (attempts : Attempts) (source : IpAddr) : List Int :=
  (attempts.lookup source).getD []

/-- A check of `source` trims the attempts of `other`: its own, and all in a sweep. -/
def Trims (source : IpAddr) (attempts : Attempts) (other : IpAddr) : Prop :=
  other = source ∨ (attempts.size ≥ maxDeviceExchangeSources ∧ source ∉ attempts)

instance (source : IpAddr) (attempts : Attempts) (other : IpAddr) :
    Decidable (Trims source attempts other) := inferInstanceAs (Decidable (_ ∨ _))

/-- The attempts of `other` that a check of `source` with the reading `now` drops. -/
def dropped (source : IpAddr) (now : Int) (attempts : Attempts) (other : IpAddr) : List Int :=
  if Trims source attempts other then expired (rateCutoff now) (attempts.entries other) else []

/-- Those that it leaves. -/
def kept (source : IpAddr) (now : Int) (attempts : Attempts) (other : IpAddr) : List Int :=
  if Trims source attempts other then popExpired (rateCutoff now) (attempts.entries other)
  else attempts.entries other

section Check

variable {source other : IpAddr} {now : Int} {attempts : Attempts}

theorem after_kept {c : Int} (h : ∀ y ∈ dropped source now attempts other, y ≤ c) :
    after c (kept source now attempts other) = after c (attempts.entries other) := by
  unfold dropped at h
  unfold kept
  by_cases ht : Trims source attempts other
  · rw [if_pos ht] at h ⊢
    exact after_popExpired h
  · rw [if_neg ht]

theorem le_rateCutoff {y : Int} (h : y ∈ dropped source now attempts other) :
    y ≤ rateCutoff now := by
  unfold dropped at h
  split at h
  · exact le_of_mem_expired h
  · cases h

theorem entries_insert (entries : List Int) :
    Attempts.entries (attempts.insert source entries) other =
      if other = source then entries else attempts.entries other := by
  unfold Attempts.entries
  rw [Map.lookup_insert]
  split <;> rfl

theorem checkSource_eq : checkSource source now attempts =
    if (popExpired (rateCutoff now) (attempts.entries source)).length ≥ deviceExchangeRateLimit then
      (.error .rateLimited, attempts.insert source (popExpired (rateCutoff now)
        (attempts.entries source)))
    else (.ok (), attempts.insert source (popExpired (rateCutoff now)
      (attempts.entries source) ++ [now])) := rfl

/-- What a check of the source's own attempts leaves in the table. -/
theorem entries_checkSource :
    Attempts.entries (checkSource source now attempts).2 other =
      (if other = source then popExpired (rateCutoff now) (attempts.entries source)
        else attempts.entries other) ++
      if other = source ∧ (checkSource source now attempts).1 = .ok () then [now] else [] := by
  rw [checkSource_eq]
  split <;> by_cases ho : other = source <;> simp [ho, entries_insert]

theorem checkSource_ok (h : (checkSource source now attempts).1 = .ok ()) :
    (popExpired (rateCutoff now) (attempts.entries source)).length < deviceExchangeRateLimit := by
  rw [checkSource_eq] at h
  split at h
  · cases h
  · omega

theorem entries_sweep (cutoff : Int) :
    Attempts.entries (sweep cutoff attempts) other = popExpired cutoff (attempts.entries other) :=
  lookup_sweep cutoff attempts other

theorem entries_of_notMem (h : source ∉ attempts) : attempts.entries source = [] := by
  unfold Attempts.entries
  rw [Map.lookup_eq_none.mpr h]
  rfl

/-- What a check leaves in the table: the attempts it does not drop, and the reading if it passes. -/
theorem entries_checkRate :
    Attempts.entries (checkRate source now attempts).2 other =
      kept source now attempts other ++
      if other = source ∧ (checkRate source now attempts).1 = .ok () then [now] else [] := by
  unfold checkRate kept
  by_cases hfull : attempts.size ≥ maxDeviceExchangeSources ∧ source ∉ attempts
  · have ht : Trims source attempts other := .inr hfull
    simp only [hfull, not_false_eq_true, and_self, if_true, ht]
    split
    · simp [entries_sweep]
    · rw [entries_checkSource, entries_sweep, entries_sweep, entries_of_notMem hfull.2]
      by_cases ho : other = source
      · rw [if_pos ho, ho, entries_of_notMem hfull.2]
        rfl
      · rw [if_neg ho]
  · simp only [hfull, if_false]
    rw [entries_checkSource]
    by_cases ho : other = source
    · have ht : Trims source attempts other := .inl ho
      rw [if_pos ho, if_pos ht, ho]
    · have ht : ¬ Trims source attempts other := fun h => h.elim ho hfull
      rw [if_neg ho, if_neg ht]

/-- A check passes only below the limit. -/
theorem checkRate_ok (h : (checkRate source now attempts).1 = .ok ()) :
    (kept source now attempts source).length < deviceExchangeRateLimit := by
  have ht : Trims source attempts source := .inl rfl
  unfold kept
  rw [if_pos ht]
  unfold checkRate at h
  by_cases hfull : attempts.size ≥ maxDeviceExchangeSources ∧ source ∉ attempts
  · rw [entries_of_notMem hfull.2]
    exact Nat.zero_lt_succ _
  · simp only [hfull, if_false] at h
    exact checkSource_ok h

end Check

/-! ## The bound -/

/-- A call of `source` may take the lock with the reading `x` from here on: it waits, or has yet to
read the clock. -/
def AdmitSt.Ahead (s : AdmitSt) (source : IpAddr) (x : Int) : Prop :=
  s.now ≤ x ∨ ∃ c, s.calls c = .waiting source x

/-- The step drops an attempt that still counts for a call ahead. -/
def DropsLive (t : AdmitSt) : AdmitAct → AdmitSt → Prop
  | .check c, _ => match t.calls c with
    | .waiting source now => ∃ other x, t.Ahead other x ∧
      ∃ y ∈ dropped source now t.attempts other, x - deviceExchangeRateWindow < y
    | _ => False
  | _, _ => False

/-- After the passes `log`: for every call ahead, the table holds what the log has from the start of
its window on, and no window has more than the limit. -/
structure RateOk (log : List (IpAddr × Int)) (s : AdmitSt) : Prop where
  agree : ∀ source x, s.Ahead source x →
    after (x - deviceExchangeRateWindow) (s.attempts.entries source) =
      after (x - deviceExchangeRateWindow) (readings source log)
  bound : ∀ source t, (readingsInWindow source t log).length ≤ deviceExchangeRateLimit

/-- What a step does. -/
inductive AdmitStep (t : AdmitSt) : AdmitAct → AdmitSt → Prop where
  | read (c source) : t.calls c = .out → AdmitStep t (.read c source)
      { t with calls := Function.update t.calls c (.waiting source t.now) }
  | check (c source now pc) : t.calls c = .waiting source now → (∀ s x, pc ≠ .waiting s x) →
      AdmitStep t (.check c)
        { t with
          attempts := (checkRate source now t.attempts).2
          calls := Function.update t.calls c pc }
  | leave (a c permits pc) : (∀ c', a ≠ .check c') → (∀ s x, pc ≠ .waiting s x) →
      AdmitStep t a { t with permits, calls := Function.update t.calls c pc }
  | tick (d) : AdmitStep t (.tick d) { t with now := t.now + d }

section Runs

variable {log : List (IpAddr × Int)} {s t u : AdmitSt} {a : AdmitAct} {c : Nat} {pc : AdmitPc}
  {source : IpAddr} {x now : Int} {as : List AdmitAct}

theorem admitStep (hs : admitSys.step t a = some u) : AdmitStep t a u := by
  cases a with
  | read c source =>
    simp only [admitSys] at hs
    split at hs
    · rename_i hc
      cases hs
      exact .read c source hc
    · cases hs
  | check c =>
    simp only [admitSys] at hs
    split at hs
    · rename_i source now hc
      cases hs
      exact .check c source now _ hc (by split <;> simp)
    · cases hs
  | acquire c =>
    simp only [admitSys] at hs
    split at hs
    · split at hs
      · cases hs
        exact .leave _ c t.permits .out (by simp) (by simp)
      · cases hs
        exact .leave _ c _ .running (by simp) (by simp)
    · cases hs
  | release c =>
    simp only [admitSys] at hs
    split at hs
    · cases hs
      exact .leave _ c _ .out (by simp) (by simp)
    · cases hs
  | cancel c =>
    simp only [admitSys] at hs
    split at hs
    · cases hs
      exact .leave _ c t.permits .out (by simp) (by simp)
    · cases hs
  | tick d =>
    cases hs
    exact .tick d

theorem readings_append (source : IpAddr) (log log' : List (IpAddr × Int)) :
    readings source (log ++ log') = readings source log ++ readings source log' := by
  unfold readings
  rw [List.filter_append, List.map_append]

theorem readings_single (source other : IpAddr) (now : Int) :
    readings other [(source, now)] = if other = source then [now] else [] := by
  unfold readings
  by_cases h : other = source
  · simp [h]
  · simp [h, Ne.symm h]

/-- A call that leaves the lock is not ahead any more. -/
theorem ahead_of_update {attempts : Attempts} {permits : Nat} (hpc : ∀ s x, pc ≠ .waiting s x)
    (h : AdmitSt.Ahead ⟨t.now, attempts, permits, Function.update t.calls c pc⟩ source x) :
    t.Ahead source x := by
  refine h.imp_right ?_
  rintro ⟨d, hd⟩
  rcases update_cases t.calls c pc d with ⟨-, he⟩ | ⟨-, he⟩
  · exact absurd (he.symm.trans hd) (hpc source x)
  · exact ⟨d, he.symm.trans hd⟩

/-- A call that overtakes no earlier reading drops nothing live. -/
theorem not_dropsLive (hc : t.calls c = .waiting source now) (hnow : now ≤ t.now)
    (hcut : Instant.InRange (now - deviceExchangeRateWindow))
    (hfirst : ∀ d other x, t.calls d = .waiting other x → now ≤ x) :
    ¬ DropsLive t (.check c) u := by
  simp only [DropsLive, hc]
  rintro ⟨other, x, hx, y, hy, hlt⟩
  have hle : now ≤ x := by
    rcases hx with hx | ⟨d, hd⟩
    · exact le_trans hnow hx
    · exact hfirst d other x hd
  have hy := le_rateCutoff hy
  rw [rateCutoff_eq hcut] at hy
  omega

theorem rateOk_new (now : Int) : RateOk [] (.new now) where
  agree := fun _ _ _ => rfl
  bound := fun _ _ => Nat.zero_le _

/-- A pass below the limit keeps the bound: all of the log in a window with the new reading is
still in the table. -/
theorem RateOk.push (h : RateOk log s) (hx : s.Ahead source x)
    (hdrop : ∀ y ∈ dropped source x s.attempts source, y ≤ x - deviceExchangeRateWindow)
    (hok : (checkRate source x s.attempts).1 = .ok ()) (other : IpAddr) (t : Int) :
    (readingsInWindow other t (log ++ [(source, x)])).length ≤ deviceExchangeRateLimit := by
  have hb := h.bound other t
  unfold readingsInWindow at hb ⊢
  rw [readings_append, readings_single, within_append, List.length_append]
  by_cases hin : other = source ∧ t - deviceExchangeRateWindow < x ∧ x ≤ t
  · obtain ⟨rfl, hlo, hhi⟩ := hin
    have hlog : (within (t - deviceExchangeRateWindow) t (readings other log)).length <
        deviceExchangeRateLimit := calc
      _ ≤ (after (x - deviceExchangeRateWindow) (readings other log)).length :=
        length_within_le (by omega)
      _ = (after (x - deviceExchangeRateWindow) (kept other x s.attempts other)).length := by
        rw [after_kept hdrop, h.agree other x hx]
      _ ≤ (kept other x s.attempts other).length := length_after_le _ _
      _ < deviceExchangeRateLimit := checkRate_ok hok
    have hone : (within (t - deviceExchangeRateWindow) t [x]).length ≤ 1 :=
      List.length_filter_le _ _
    rw [if_pos rfl]
    omega
  · have hnone : within (t - deviceExchangeRateWindow) t (if other = source then [x] else []) =
        [] := by
      split
      · rename_i ho
        exact List.filter_cons_of_neg (by simpa using fun hlo hhi => hin ⟨ho, hlo, hhi⟩)
      · rfl
    rw [hnone]
    exact hb

/-- **One step.** A step that drops nothing live keeps the table in step with the log. -/
theorem RateOk.step (h : RateOk log t) (hs : admitSys.step t a = some u)
    (hdrop : ¬ DropsLive t a u) : RateOk (log ++ passObs t a u) u := by
  cases admitStep hs with
  | read c source hc =>
    rw [passObs, List.append_nil]
    · refine ⟨fun other x hx => h.agree other x ?_, h.bound⟩
      rcases hx with hx | ⟨d, hd⟩
      · exact .inl hx
      rcases update_cases t.calls c (.waiting source t.now) d with ⟨-, he⟩ | ⟨-, he⟩
      · cases he.symm.trans hd
        exact .inl le_rfl
      · exact .inr ⟨d, he.symm.trans hd⟩
    · simp
  | check c source now pc hc hpc =>
    have hexp : ∀ other x, t.Ahead other x → ∀ y ∈ dropped source now t.attempts other,
        y ≤ x - deviceExchangeRateWindow := fun other x hx y hy => by
      by_contra hlt
      refine hdrop ?_
      simp only [DropsLive, hc]
      exact ⟨other, x, hx, y, hy, by omega⟩
    simp only [passObs, hc]
    refine ⟨fun other x hx => ?_, fun other w => ?_⟩
    · have hx' := ahead_of_update hpc hx
      rw [entries_checkRate, after_append, after_kept (hexp other x hx'), h.agree other x hx',
        readings_append, after_append]
      congr 2
      by_cases hok : (checkRate source now t.attempts).1 = .ok ()
      · simp only [hok, if_true, readings_single, and_true]
      · simp only [hok, if_false, and_false]
        rfl
    · by_cases hok : (checkRate source now t.attempts).1 = .ok ()
      · have hx : t.Ahead source now := .inr ⟨c, hc⟩
        rw [if_pos hok]
        exact h.push hx (hexp source now hx) hok other w
      · rw [if_neg hok, List.append_nil]
        exact h.bound other w
  | leave a c permits pc ha hpc =>
    rw [passObs, List.append_nil]
    · exact ⟨fun other x hx => h.agree other x (ahead_of_update hpc hx), h.bound⟩
    · exact ha
  | tick d =>
    rw [passObs, List.append_nil]
    · refine ⟨fun other x hx => h.agree other x (hx.imp_left fun hle => ?_), h.bound⟩
      have hlater : t.now + (d : Int) ≤ x := hle
      omega
    · simp

/-- **Every run** in which no step drops an attempt that still counts. -/
theorem rateOk_run (hrun : admitSys.run (.new now) as = some s)
    (hdrop : ¬ admitSys.Did (.new now) DropsLive as) : RateOk (passes now as) s := by
  revert hdrop
  refine Sys.run_induction
    (P := fun as s => ¬ admitSys.Did (.new now) DropsLive as → RateOk (passes now as) s)
    (fun _ => rateOk_new now) (fun as t a u ht ih hu hdrop => ?_) as s hrun
  rw [Sys.did_snoc ht hu, not_or] at hdrop
  unfold passes
  rw [Sys.trace_snoc ht hu]
  exact (ih hdrop.1).step hu hdrop.2

/-- **The rate bound.** In every run in which no step drops an attempt that still counts, no source
passes more than the limit in any half-open minute. -/
theorem rate_bound_run (now : Int) (as : List AdmitAct) (s : AdmitSt)
    (hrun : admitSys.run (.new now) as = some s)
    (hdrop : ¬ admitSys.Did (.new now) DropsLive as) (source : IpAddr) (t : Int) :
    (readingsInWindow source t (passes now as)).length ≤ deviceExchangeRateLimit :=
  (rateOk_run hrun hdrop).bound source t

/-! ## The first minute -/

/-- The clock, the readings and the attempts of a run that begins at `start`. -/
structure Recent (start : Int) (s : AdmitSt) : Prop where
  now : start ≤ s.now
  waiting : ∀ c source x, s.calls c = .waiting source x → start ≤ x ∧ x ≤ s.now
  entries : ∀ source, ∀ y ∈ s.attempts.entries source, start ≤ y

theorem mem_entries_of_kept {other : IpAddr} {attempts : Attempts} {y : Int}
    (h : y ∈ kept source now attempts other) : y ∈ attempts.entries other := by
  unfold kept at h
  split at h
  · rw [← expired_append_popExpired (rateCutoff now) (attempts.entries other)]
    exact List.mem_append_right _ h
  · exact h

theorem mem_entries_of_dropped {other : IpAddr} {attempts : Attempts} {y : Int}
    (h : y ∈ dropped source now attempts other) : y ∈ attempts.entries other := by
  unfold dropped at h
  split at h
  · rw [← expired_append_popExpired (rateCutoff now) (attempts.entries other)]
    exact List.mem_append_left _ h
  · cases h

theorem Recent.leave {start : Int} {attempts : Attempts} {permits : Nat} (h : Recent start t)
    (hpc : ∀ s x, pc ≠ .waiting s x)
    (hentries : ∀ source, ∀ y ∈ attempts.entries source, start ≤ y) :
    Recent start ⟨t.now, attempts, permits, Function.update t.calls c pc⟩ where
  now := h.now
  waiting d source x hd := by
    rcases update_cases t.calls c pc d with ⟨-, he⟩ | ⟨-, he⟩
    · exact absurd (he.symm.trans hd) (hpc source x)
    · exact h.waiting d source x (he.symm.trans hd)
  entries := hentries

theorem Recent.step {start : Int} (h : Recent start t) (hs : admitSys.step t a = some u) :
    Recent start u := by
  cases admitStep hs with
  | read c source hc =>
    refine ⟨h.now, fun d other x hd => ?_, h.entries⟩
    rcases update_cases t.calls c (.waiting source t.now) d with ⟨-, he⟩ | ⟨-, he⟩
    · cases he.symm.trans hd
      exact ⟨h.now, le_rfl⟩
    · exact h.waiting d other x (he.symm.trans hd)
  | check c source now pc hc hpc =>
    refine h.leave hpc fun other y hy => ?_
    rw [entries_checkRate, List.mem_append] at hy
    rcases hy with hy | hy
    · exact h.entries other y (mem_entries_of_kept hy)
    · split at hy
      · cases List.mem_singleton.mp hy
        exact (h.waiting c source _ hc).1
      · cases hy
  | leave a c permits pc ha hpc => exact h.leave hpc h.entries
  | tick d =>
    have hle : t.now ≤ t.now + (d : Int) := by omega
    exact ⟨h.now.trans hle, fun c source x hc =>
      ⟨(h.waiting c source x hc).1, (h.waiting c source x hc).2.trans hle⟩, h.entries⟩

theorem Recent.not_dropsLive {start : Int} (h : Recent start t)
    (hshort : t.now < start + deviceExchangeRateWindow)
    (hlow : Instant.InRange (start - deviceExchangeRateWindow)) (hhigh : Instant.InRange start) :
    ¬ DropsLive t a u := by
  cases a with
  | check c =>
    cases hc : t.calls c with
    | waiting source now =>
      simp only [DropsLive, hc]
      rintro ⟨other, x, hx, y, hy, -⟩
      obtain ⟨hstart, hnow⟩ := h.waiting c source now hc
      have hcut : Instant.InRange (now - deviceExchangeRateWindow) :=
        ⟨by have := hlow.1; omega, by have := hhigh.2; omega⟩
      have hle := le_rateCutoff hy
      rw [rateCutoff_eq hcut] at hle
      have hy := h.entries other y (mem_entries_of_dropped hy)
      omega
    | _ => simp only [DropsLive, hc, not_false_eq_true]
  | _ => exact id

/-- A run that is over within a minute drops nothing that counts. -/
theorem not_did_dropsLive {start : Int} (hrun : admitSys.run (.new start) as = some s)
    (hshort : s.now < start + deviceExchangeRateWindow)
    (hlow : Instant.InRange (start - deviceExchangeRateWindow)) (hhigh : Instant.InRange start) :
    ¬ admitSys.Did (.new start) DropsLive as := by
  rintro ⟨pre, a, post, t, u, rfl, ht, hu, hdrop⟩
  have hnew : Recent start (.new start) := ⟨le_rfl, nofun, nofun⟩
  have hrecent : ∀ {as t}, admitSys.run (.new start) as = some t → Recent start t :=
    Sys.run_keeps (fun _ _ _ h hs => h.step hs) hnew
  have hclock : t.now ≤ s.now := by
    obtain ⟨t', u', ht', hu', hs'⟩ := Sys.run_split hrun
    cases ht.symm.trans ht'
    refine Sys.run_keeps (P := fun s => t.now ≤ s.now) (fun v a w hv hw => ?_) le_rfl
      (show admitSys.run t (a :: post) = some s from Option.bind_eq_some_iff.mpr ⟨u', hu', hs'⟩)
    cases admitStep hw with
    | tick d => exact hv.trans (Int.le_add_of_nonneg_right (Int.natCast_nonneg d))
    | _ => exact hv
  exact (hrecent ht).not_dropsLive (by omega) hlow hhigh hdrop

/-- Eleven calls of one source at once, five with a reading of 0 s and six with one of 30 s. They
take the lock in the opposite order. -/
def overlappingRun : List AdmitAct :=
  (List.range 5).map (.read · (.v4 192 0 2 1)) ++ [.tick (30 * nanos)] ++
    (List.range' 5 6).map (.read · (.v4 192 0 2 1)) ++ (List.range 11).reverse.map .check

/-- Ten of them pass, which is the limit. -/
theorem rate_bound_run_minute :
    (readingsInWindow (.v4 192 0 2 1) (30 * nanos) (passes 0 overlappingRun)).length = 10 ∧
      (readingsInWindow (.v4 192 0 2 1) (30 * nanos) (passes 0 overlappingRun)).length ≤
        deviceExchangeRateLimit := by
  have hrun : ∃ s, admitSys.run (.new 0) overlappingRun = some s ∧ s.now = 30 * nanos :=
    ⟨_, rfl, rfl⟩
  obtain ⟨s, hrun, hnow⟩ := hrun
  have hdrop := not_did_dropsLive hrun (by rw [hnow]; decide) (by decide) (by decide)
  exact ⟨by decide, rate_bound_run 0 _ s hrun hdrop _ _⟩

end Runs

/-! ## A run that exceeds the limit -/

/-- Ten calls pass at 1 s. One more reads the clock at 2 s, and waits. A call that reads 61 s takes
the lock before it, and drops the ten. -/
def overtakenRun : List AdmitAct :=
  ((List.range 10).flatMap fun c => [.read c (.v4 192 0 2 1), .check c]) ++
    [.tick nanos, .read 10 (.v4 192 0 2 1), .tick (59 * nanos), .read 11 (.v4 192 0 2 1),
      .check 11, .check 10]

theorem rate_exceeded : ∃ s, admitSys.run (.new nanos) overtakenRun = some s ∧
    deviceExchangeRateLimit <
      (readingsInWindow (.v4 192 0 2 1) (2 * nanos) (passes nanos overtakenRun)).length :=
  ⟨_, rfl, by decide⟩

end MicrotunSigner
