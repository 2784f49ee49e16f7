import MicrotunSigner.Config
import MicrotunSigner.Lib.Clock
import MicrotunSigner.Lib.Window

/-!
# The limiter of device exchanges (`api.rs`)

`DeviceExchangeLimiter::admit`: the attempts of each source address in the last minute, in a table
of bounded size, and a semaphore on the exchanges that run.

* `checkRate` is the critical section. A call reads the clock before it waits for the lock, so its
  reading is an argument.
* `admitExchange` (`admit`) then tries to take a permit, without the lock: how many are free at that moment depends
  on the other calls.

`Admits` couples the table with the full history of the attempts that passed the check. The table
is trimmed in two places only, so most of the time it holds more than the window.
-/

namespace MicrotunSigner

open Lib Lib.Window

def deviceExchangeRateLimit : Nat := 10
def deviceExchangeRateWindow : Nat := Duration.fromSecs 60
def maxDeviceExchangeSources : Nat := 4096

/-- The recent attempts of each source, oldest first. -/
abbrev Attempts := Map IpAddr (List Int)

inductive DeviceExchangeLimitError where
  | rateLimited
  | busy
  deriving DecidableEq, Repr

/-- The start of the window that ends at `now`. -/
def rateCutoff (now : Int) : Int := (Instant.checkedSub now deviceExchangeRateWindow).getD now

/-- Trim every deque, and drop the sources without attempts in the window. -/
def sweep (cutoff : Int) (attempts : Attempts) : Attempts :=
  attempts.retainMut fun entries =>
    let entries := popExpired cutoff entries
    if !entries.isEmpty then some entries else none

/-- The check of one source's own attempts. -/
def checkSource (source : IpAddr) (now : Int) (attempts : Attempts) :
    Except DeviceExchangeLimitError Unit × Attempts :=
  let entries := popExpired (rateCutoff now) ((attempts.lookup source).getD [])
  if entries.length ≥ deviceExchangeRateLimit then
    (.error .rateLimited, attempts.insert source entries)
  else (.ok (), attempts.insert source (entries ++ [now]))

def checkRate (source : IpAddr) (now : Int) (attempts : Attempts) :
    Except DeviceExchangeLimitError Unit × Attempts :=
  if attempts.size ≥ maxDeviceExchangeSources ∧ source ∉ attempts then
    let attempts := sweep (rateCutoff now) attempts
    if attempts.size ≥ maxDeviceExchangeSources then (.error .rateLimited, attempts)
    else checkSource source now attempts
  else checkSource source now attempts

/-- `freePermits` are the free permits of the semaphore when the call tries to take one. -/
def admitExchange (source : IpAddr) (now : Int) (freePermits : Nat) (attempts : Attempts) :
    Except DeviceExchangeLimitError Unit × Attempts :=
  match checkRate source now attempts with
  | (.error e, attempts) => (.error e, attempts)
  | (.ok (), attempts) => (if freePermits = 0 then .error .busy else .ok (), attempts)

/-! ## Runs and their history -/

/-- A call of the limiter. -/
structure AdmitCall where
  source : IpAddr
  now : Int
  freePermits : Nat

/-- The table after the calls, in the order in which they take the lock. -/
def attemptsAfter (calls : List AdmitCall) : Attempts :=
  calls.foldl (fun attempts call => (admitExchange call.source call.now call.freePermits attempts).2)
    Map.empty

/-- What the limiter answers to `call` after the calls `before`. -/
def admitResult (before : List AdmitCall) (call : AdmitCall) :
    Except DeviceExchangeLimitError Unit :=
  (admitExchange call.source call.now call.freePermits (attemptsAfter before)).1

/-- The attempts of `calls`, after the calls `before`, that pass the rate check. -/
def passedFrom (before : List AdmitCall) : List AdmitCall → List AdmitCall
  | [] => []
  | call :: calls =>
    (if admitResult before call = .error .rateLimited then [] else [call]) ++
      passedFrom (before ++ [call]) calls

/-- The attempts that passed the rate check, those refused as busy included. -/
def passed (calls : List AdmitCall) : List AdmitCall := passedFrom [] calls

theorem attemptsAfter_snoc (calls : List AdmitCall) (call : AdmitCall) :
    attemptsAfter (calls ++ [call]) =
      (checkRate call.source call.now (attemptsAfter calls)).2 := by
  unfold attemptsAfter
  rw [List.foldl_append, List.foldl_cons, List.foldl_nil]
  unfold admitExchange
  split <;> rename_i h <;> rw [h]

/-- The rate check alone decides whether a call is refused as rate-limited. -/
theorem admitResult_rateLimited {before : List AdmitCall} {call : AdmitCall} :
    admitResult before call = .error .rateLimited ↔
      (checkRate call.source call.now (attemptsAfter before)).1 = .error .rateLimited := by
  unfold admitResult admitExchange
  split <;> rename_i h <;> rw [h]
  split <;> simp

theorem passed_snoc (calls : List AdmitCall) (call : AdmitCall) :
    passed (calls ++ [call]) =
      passed calls ++ if admitResult calls call = .error .rateLimited then [] else [call] := by
  have h : ∀ before, passedFrom before (calls ++ [call]) = passedFrom before calls ++
      if admitResult (before ++ calls) call = .error .rateLimited then [] else [call] := by
    induction calls with
    | nil => intro before; simp [passedFrom]
    | cons c calls ih =>
      intro before
      rw [List.cons_append, passedFrom, passedFrom, ih, List.append_assoc, List.append_assoc]
      rfl
  exact h []

/-- The times at which `source` passed the rate check. -/
def times (source : IpAddr) (calls : List AdmitCall) : List Int :=
  (calls.filter fun call => call.source == source).map AdmitCall.now

theorem times_append (source : IpAddr) (calls calls' : List AdmitCall) :
    times source (calls ++ calls') = times source calls ++ times source calls' := by
  unfold times
  rw [List.filter_append, List.map_append]

theorem times_single (source : IpAddr) (call : AdmitCall) :
    times source [call] = if call.source = source then [call.now] else [] := by
  unfold times
  by_cases h : call.source = source <;> simp [h]

theorem mem_times {source : IpAddr} {calls : List AdmitCall} {t : Int} :
    t ∈ times source calls ↔ ∃ call ∈ calls, call.source = source ∧ call.now = t := by
  simp [times, and_assoc]

/-! ## The coupling -/

/-- The table holds what the history `calls` has in the window that ends at `now`. -/
structure Admits (now : Int) (attempts : Attempts) (calls : List AdmitCall) : Prop where
  size : attempts.size ≤ maxDeviceExchangeSources
  length : ∀ source entries, attempts.lookup source = some entries →
    1 ≤ entries.length ∧ entries.length ≤ deviceExchangeRateLimit
  past : ∀ source entries, attempts.lookup source = some entries → ∀ t ∈ entries, t ≤ now
  tracks : ∀ source, Tracks (now - deviceExchangeRateWindow) ((attempts.lookup source).getD [])
    (times source calls)

section Coupling

variable {now now' : Int} {attempts : Attempts} {calls : List AdmitCall} {source : IpAddr}

theorem rateCutoff_eq (h : Instant.InRange (now - deviceExchangeRateWindow)) :
    rateCutoff now = now - deviceExchangeRateWindow := by
  unfold rateCutoff Instant.checkedSub
  rw [if_pos h, Option.getD_some]

theorem admits_empty : Admits now Map.empty [] where
  size := Nat.zero_le _
  length := fun source entries h => by rw [Map.lookup_empty] at h; cases h
  past := fun source entries h => by rw [Map.lookup_empty] at h; cases h
  tracks := fun source => tracks_nil

theorem Admits.later (h : Admits now attempts calls) (hle : now ≤ now') :
    Admits now' attempts calls where
  size := h.size
  length := h.length
  past := fun source entries hl t ht => le_trans (h.past source entries hl t ht) hle
  tracks := fun source => (h.tracks source).later (by omega)

theorem lookup_sweep (cutoff : Int) (attempts : Attempts) (source : IpAddr) :
    ((sweep cutoff attempts).lookup source).getD [] =
      popExpired cutoff ((attempts.lookup source).getD []) := by
  unfold sweep
  rw [Map.lookup_retainMut]
  cases attempts.lookup source with
  | none => rfl
  | some entries =>
    rw [Option.bind_some, Option.getD_some]
    cases popExpired cutoff entries <;> rfl

theorem lookup_sweep_some {cutoff : Int} {entries : List Int}
    (h : (sweep cutoff attempts).lookup source = some entries) :
    entries ≠ [] ∧ ∃ old, attempts.lookup source = some old ∧ entries = popExpired cutoff old := by
  unfold sweep at h
  rw [Map.lookup_retainMut, Option.bind_eq_some_iff] at h
  obtain ⟨old, hold, he⟩ := h
  simp only at he
  split at he
  · rename_i hne
    cases he
    exact ⟨by simpa using hne, old, hold, rfl⟩
  · cases he

theorem mem_of_mem_sweep {cutoff : Int} (h : source ∈ sweep cutoff attempts) :
    source ∈ attempts := by
  obtain ⟨entries, hl⟩ := Map.mem_iff_lookup.mp h
  obtain ⟨-, old, hold, -⟩ := lookup_sweep_some hl
  exact Map.mem_of_lookup hold

/-- A sweep forgets nothing that is in the window. -/
theorem Admits.sweep (h : Admits now attempts calls) :
    Admits now (sweep (now - deviceExchangeRateWindow) attempts) calls where
  size := le_trans (Map.size_mono fun k hk => mem_of_mem_sweep hk) h.size
  length := fun source entries hl => by
    obtain ⟨hne, old, hold, rfl⟩ := lookup_sweep_some hl
    have hlen := (List.dropWhile_sublist (fun t => decide (t ≤ now - deviceExchangeRateWindow))
      (l := old)).length_le
    exact ⟨List.length_pos_of_ne_nil hne, le_trans hlen (h.length source old hold).2⟩
  past := fun source entries hl t ht => by
    obtain ⟨-, old, hold, rfl⟩ := lookup_sweep_some hl
    exact h.past source old hold t ((List.dropWhile_sublist _).subset ht)
  tracks := fun source => by
    rw [lookup_sweep]
    exact (h.tracks source).pop (le_refl _)

/-- A check that keeps the source's own deque in step with the history keeps the whole table. -/
theorem Admits.insert (h : Admits now attempts calls) {entries : List Int} {calls' : List AdmitCall}
    (hroom : source ∈ attempts ∨ attempts.size < maxDeviceExchangeSources)
    (hlen : 1 ≤ entries.length ∧ entries.length ≤ deviceExchangeRateLimit)
    (hpast : ∀ t ∈ entries, t ≤ now)
    (htracks : Tracks (now - deviceExchangeRateWindow) entries (times source (calls ++ calls')))
    (hother : ∀ other, other ≠ source → times other calls' = []) :
    Admits now (attempts.insert source entries) (calls ++ calls') where
  size := by
    rcases hroom with hm | hlt
    · rw [Map.size_insert_mem entries hm]
      exact h.size
    · exact le_trans (Map.size_insert_le _ _ _) hlt
  length := fun other old hl => by
    rw [Map.lookup_insert] at hl
    split at hl
    · cases hl
      exact hlen
    · exact h.length other old hl
  past := fun other old hl => by
    rw [Map.lookup_insert] at hl
    split at hl
    · cases hl
      exact hpast
    · exact h.past other old hl
  tracks := fun other => by
    rw [Map.lookup_insert]
    by_cases ho : other = source
    · rw [if_pos ho, ho, Option.getD_some]
      exact htracks
    · rw [if_neg ho, times_append, hother other ho, List.append_nil]
      exact h.tracks other

/-- The check of the source's own attempts: it answers by the window of the history, and keeps the
table in step with it. -/
theorem Admits.checkSource (h : Admits now attempts calls) (call : AdmitCall)
    (hnow : call.now = now) (hrange : Instant.InRange (now - deviceExchangeRateWindow))
    (hroom : call.source ∈ attempts ∨ attempts.size < maxDeviceExchangeSources) :
    ((checkSource call.source now attempts).1 = .error .rateLimited ↔
      deviceExchangeRateLimit ≤
        (after (now - deviceExchangeRateWindow) (times call.source calls)).length) ∧
    Admits now (checkSource call.source now attempts).2
      (calls ++ if (checkSource call.source now attempts).1 = .error .rateLimited then []
        else [call]) := by
  have htracks := h.tracks call.source
  have hpop := htracks.popExpired_eq (le_refl _)
  have hpast : ∀ t ∈ popExpired (now - deviceExchangeRateWindow)
      ((attempts.lookup call.source).getD []), t ≤ now := fun t ht => by
    have hmem := (List.dropWhile_sublist _).subset ht
    cases hl : attempts.lookup call.source with
    | none => rw [hl] at hmem; cases hmem
    | some entries => rw [hl] at hmem; exact h.past _ _ hl t hmem
  have hlen : (popExpired (now - deviceExchangeRateWindow)
      ((attempts.lookup call.source).getD [])).length ≤ deviceExchangeRateLimit := by
    refine le_trans (List.dropWhile_sublist _).length_le ?_
    cases hl : attempts.lookup call.source with
    | none => exact Nat.zero_le _
    | some entries => exact (h.length _ _ hl).2
  unfold MicrotunSigner.checkSource
  simp only [rateCutoff_eq hrange, ← hpop]
  by_cases hfull : deviceExchangeRateLimit ≤ (popExpired (now - deviceExchangeRateWindow)
      ((attempts.lookup call.source).getD [])).length
  · simp only [ge_iff_le, hfull, if_true]
    refine ⟨by simp, h.insert hroom ⟨le_trans (by decide) hfull, hlen⟩ hpast ?_ fun _ _ => rfl⟩
    rw [List.append_nil]
    exact htracks.pop (le_refl _)
  · simp only [ge_iff_le, hfull, if_false, reduceCtorEq]
    refine ⟨by simp, h.insert hroom ?_ ?_ ?_ fun other ho => ?_⟩
    · rw [List.length_append, List.length_singleton]
      omega
    · intro t ht
      rcases List.mem_append.mp ht with ht | ht
      · exact hpast t ht
      · exact le_of_eq (List.mem_singleton.mp ht)
    · rw [times_append, times_single, if_pos rfl, hnow]
      exact (htracks.pop (le_refl _)).push hpast
    · rw [times_single, if_neg (Ne.symm ho)]

/-- The sources that survive a sweep are those with an attempt in the window. -/
theorem Admits.mem_sweep (h : Admits now attempts calls) :
    source ∈ MicrotunSigner.sweep (now - deviceExchangeRateWindow) attempts ↔
      after (now - deviceExchangeRateWindow) (times source calls) ≠ [] := by
  have hlook := lookup_sweep (now - deviceExchangeRateWindow) attempts source
  rw [(h.tracks source).popExpired_eq (le_refl _)] at hlook
  rw [← hlook, Map.mem_iff_lookup]
  cases hl : (MicrotunSigner.sweep (now - deviceExchangeRateWindow) attempts).lookup source with
  | none => simp
  | some entries => simpa using (lookup_sweep_some hl).1

/-- As many sources as the table holds, `source` aside, have an attempt in the window. -/
def OthersFill (now : Int) (source : IpAddr) (calls : List AdmitCall) : Prop :=
  ∃ others : Finset IpAddr, maxDeviceExchangeSources ≤ others.card ∧ source ∉ others ∧
    ∀ other ∈ others, after (now - deviceExchangeRateWindow) (times other calls) ≠ []

/-- A table with room for `source` after a sweep is not filled by the others. -/
theorem Admits.not_othersFill (h : Admits now attempts calls)
    (hroom : source ∈ attempts ∨
      (MicrotunSigner.sweep (now - deviceExchangeRateWindow) attempts).size <
        maxDeviceExchangeSources) : ¬ OthersFill now source calls := by
  rintro ⟨others, hcard, hnot, hlive⟩
  have hsub : others ⊆
      (MicrotunSigner.sweep (now - deviceExchangeRateWindow) attempts).keySet := fun other ho =>
    Map.mem_keySet.mpr (h.mem_sweep.mpr (hlive other ho))
  rcases hroom with hm | hlt
  · have hold : Insert.insert source others ⊆ attempts.keySet := by
      intro other ho
      rcases Finset.mem_insert.mp ho with rfl | ho
      · exact Map.mem_keySet.mpr hm
      · exact Map.mem_keySet.mpr (mem_of_mem_sweep (Map.mem_keySet.mp (hsub ho)))
    have hle := Finset.card_le_card hold
    have hsize := h.size
    rw [Finset.card_insert_of_notMem hnot, Map.card_keySet] at hle
    omega
  · have hle := Finset.card_le_card hsub
    rw [Map.card_keySet] at hle
    omega

/-- **One call.** The rate check answers by the window of the history, and keeps the table in step
with it. -/
theorem Admits.checkRate (h : Admits now attempts calls) (call : AdmitCall)
    (hnow : call.now = now) (hrange : Instant.InRange (now - deviceExchangeRateWindow)) :
    ((checkRate call.source now attempts).1 = .error .rateLimited ↔
      deviceExchangeRateLimit ≤
        (after (now - deviceExchangeRateWindow) (times call.source calls)).length ∨
      OthersFill now call.source calls) ∧
    Admits now (checkRate call.source now attempts).2
      (calls ++ if (checkRate call.source now attempts).1 = .error .rateLimited then []
        else [call]) := by
  unfold MicrotunSigner.checkRate
  rw [rateCutoff_eq hrange]
  by_cases hfull : attempts.size ≥ maxDeviceExchangeSources ∧ call.source ∉ attempts
  · simp only [hfull, not_false_eq_true, and_self, if_true]
    by_cases hswept : (MicrotunSigner.sweep (now - deviceExchangeRateWindow) attempts).size ≥
        maxDeviceExchangeSources
    · simp only [hswept, if_true, List.append_nil]
      refine ⟨⟨fun _ => .inr ?_, fun _ => trivial⟩, h.sweep⟩
      refine ⟨(MicrotunSigner.sweep (now - deviceExchangeRateWindow) attempts).keySet, ?_,
        fun hm => ?_, fun other ho => h.mem_sweep.mp (Map.mem_keySet.mp ho)⟩
      · rw [Map.card_keySet]
        exact hswept
      · exact hfull.2 (mem_of_mem_sweep (Map.mem_keySet.mp hm))
    · simp only [hswept, if_false]
      have hroom := Nat.lt_of_not_le hswept
      obtain ⟨hiff, hnext⟩ := h.sweep.checkSource call hnow hrange (.inr hroom)
      exact ⟨hiff.trans (or_iff_left (h.not_othersFill (.inr hroom))).symm, hnext⟩
  · simp only [hfull, if_false]
    have hroom : call.source ∈ attempts ∨ attempts.size < maxDeviceExchangeSources := by
      by_cases hm : call.source ∈ attempts
      · exact .inl hm
      · exact .inr (Nat.lt_of_not_le fun hge => hfull ⟨hge, hm⟩)
    obtain ⟨hiff, hnext⟩ := h.checkSource call hnow hrange hroom
    refine ⟨hiff.trans (or_iff_left (h.not_othersFill (hroom.imp_right fun hlt => ?_))).symm, hnext⟩
    exact lt_of_le_of_lt (Map.size_mono fun k hk => mem_of_mem_sweep hk) hlt

end Coupling

/-! ## Runs -/

/-- The times in the minute up to `now` at which `source` passed the rate check. -/
def attemptsInWindow (source : IpAddr) (now : Int) (calls : List AdmitCall) : List Int :=
  (times source calls).filter fun t => decide (now - deviceExchangeRateWindow < t ∧ t ≤ now)

/-- Clock readings that do not decrease in lock order, and from which a minute can be
subtracted. -/
structure Clocked (calls : List AdmitCall) : Prop where
  mono : calls.Pairwise fun a b => a.now ≤ b.now
  range : ∀ call ∈ calls, Instant.InRange (call.now - deviceExchangeRateWindow)

section Runs

variable {calls : List AdmitCall} {call : AdmitCall} {now : Int} {source : IpAddr}

theorem Clocked.init (h : Clocked (calls ++ [call])) : Clocked calls where
  mono := (List.pairwise_append.mp h.mono).1
  range := fun c hc => h.range c (List.mem_append_left _ hc)

theorem Clocked.le (h : Clocked (calls ++ [call])) : ∀ c ∈ calls, c.now ≤ call.now :=
  fun c hc => (List.pairwise_append.mp h.mono).2.2 c hc call (List.mem_singleton_self _)

theorem Clocked.last (h : Clocked (calls ++ [call])) :
    Instant.InRange (call.now - deviceExchangeRateWindow) :=
  h.range call (List.mem_append_right _ (List.mem_singleton_self _))

theorem passed_subset (calls : List AdmitCall) : passed calls ⊆ calls := by
  induction calls using List.reverseRecOn with
  | nil => exact fun c hc => hc
  | append_singleton calls call ih =>
    intro c hc
    rw [passed_snoc] at hc
    rcases List.mem_append.mp hc with hold | hnew
    · exact List.mem_append_left _ (ih hold)
    · split at hnew
      · cases hnew
      · exact List.mem_append_right _ hnew

/-- No attempt is later than the present, so the window ends there by itself. -/
theorem attemptsInWindow_eq (h : ∀ c ∈ calls, c.now ≤ now) :
    attemptsInWindow source now (passed calls) =
      after (now - deviceExchangeRateWindow) (times source (passed calls)) := by
  refine List.filter_congr fun t ht => ?_
  obtain ⟨c, hc, -, rfl⟩ := mem_times.mp ht
  have hle := h c (passed_subset calls hc)
  simp [hle]

/-- After every run the table is in step with the history. -/
theorem attemptsAfter_admits (h : Clocked calls) (hnow : ∀ c ∈ calls, c.now ≤ now) :
    Admits now (attemptsAfter calls) (passed calls) := by
  induction calls using List.reverseRecOn generalizing now with
  | nil => exact admits_empty
  | append_singleton calls call ih =>
    have hstep := ((ih h.init h.le).checkRate call rfl h.last).2
    have hlast : call.now ≤ now :=
      hnow call (List.mem_append_right _ (List.mem_singleton_self _))
    rw [attemptsAfter_snoc, passed_snoc]
    simp only [admitResult_rateLimited]
    exact hstep.later hlast

/-- A call is refused as rate-limited iff the history says so. -/
theorem admitResult_iff (h : Clocked (calls ++ [call])) :
    admitResult calls call = .error .rateLimited ↔
      deviceExchangeRateLimit ≤
        (attemptsInWindow call.source call.now (passed calls)).length ∨
      ∃ others : Finset IpAddr, maxDeviceExchangeSources ≤ others.card ∧ call.source ∉ others ∧
        ∀ other ∈ others, attemptsInWindow other call.now (passed calls) ≠ [] := by
  rw [admitResult_rateLimited,
    ((attemptsAfter_admits h.init h.le).checkRate call rfl h.last).1,
    attemptsInWindow_eq h.le]
  refine or_congr_right (exists_congr fun others => and_congr_right fun _ => and_congr_right
    fun _ => forall₂_congr fun other _ => ?_)
  rw [attemptsInWindow_eq h.le]

/-- No source passes more than the limit in any minute. -/
theorem attemptsInWindow_le (h : Clocked calls) (source : IpAddr) (t : Int) :
    (attemptsInWindow source t (passed calls)).length ≤ deviceExchangeRateLimit := by
  induction calls using List.reverseRecOn with
  | nil => exact Nat.zero_le _
  | append_singleton calls call ih =>
    have hih := ih h.init
    rw [passed_snoc]
    by_cases hlim : admitResult calls call = .error .rateLimited
    · rw [if_pos hlim, List.append_nil]
      exact hih
    rw [if_neg hlim]
    unfold attemptsInWindow at hih ⊢
    rw [times_append, times_single, List.filter_append, List.length_append]
    by_cases hin : call.source = source ∧
        (t - deviceExchangeRateWindow < call.now ∧ call.now ≤ t)
    · -- The window at `t` holds this call, and what it holds besides still counted at the call.
      obtain ⟨rfl, hlo, hhi⟩ := hin
      have hfew : (attemptsInWindow call.source call.now (passed calls)).length <
          deviceExchangeRateLimit := by
        by_contra hge
        exact hlim ((admitResult_iff h).mpr (.inl (Nat.le_of_not_lt hge)))
      have hsub : ((times call.source (passed calls)).filter fun s =>
          decide (t - deviceExchangeRateWindow < s ∧ s ≤ t)).length ≤
          (attemptsInWindow call.source call.now (passed calls)).length := by
        unfold attemptsInWindow
        rw [← List.countP_eq_length_filter, ← List.countP_eq_length_filter]
        refine List.countP_mono_left fun s hs hin => ?_
        obtain ⟨c, hc, -, rfl⟩ := mem_times.mp hs
        have hle := h.le c (passed_subset calls hc)
        rw [decide_eq_true_eq] at hin ⊢
        omega
      rw [if_pos rfl]
      have hone := List.length_filter_le
        (fun s => decide (t - deviceExchangeRateWindow < s ∧ s ≤ t)) [call.now]
      rw [List.length_singleton] at hone
      omega
    · have hnone : (if call.source = source then [call.now] else []).filter (fun s =>
          decide (t - deviceExchangeRateWindow < s ∧ s ≤ t)) = [] := by
        split
        · rename_i hs
          exact List.filter_cons_of_neg (by simpa using fun hlo hhi => hin ⟨hs, hlo, hhi⟩)
        · rfl
      rw [hnone]
      exact hih

/-- A sweep leaves a source with attempts in the window exactly these. -/
theorem sweep_keeps_window (h : Clocked (calls ++ [call]))
    (hlive : attemptsInWindow source call.now (passed calls) ≠ []) :
    (sweep (rateCutoff call.now) (attemptsAfter calls)).lookup source =
      some (attemptsInWindow source call.now (passed calls)) := by
  have hr := attemptsAfter_admits h.init h.le
  rw [attemptsInWindow_eq h.le] at hlive ⊢
  rw [rateCutoff_eq h.last]
  have hget := lookup_sweep (call.now - deviceExchangeRateWindow) (attemptsAfter calls) source
  rw [(hr.tracks source).popExpired_eq (le_refl _)] at hget
  obtain ⟨entries, hl⟩ := Map.mem_iff_lookup.mp (hr.mem_sweep.mpr hlive)
  rw [hl, Option.getD_some] at hget
  rw [hl, hget]

/-- The shape of the table after every run. -/
theorem attemptsAfter_shape (h : Clocked calls) :
    (attemptsAfter calls).size ≤ maxDeviceExchangeSources ∧
    ∀ source entries, (attemptsAfter calls).lookup source = some entries →
      1 ≤ entries.length ∧ entries.length ≤ deviceExchangeRateLimit ∧
      entries.Pairwise (· ≤ ·) := by
  obtain ⟨now, hnow⟩ : ∃ now, ∀ c ∈ calls, c.now ≤ now := by
    induction calls using List.reverseRecOn with
    | nil => exact ⟨0, fun c hc => by cases hc⟩
    | append_singleton calls call ih =>
      refine ⟨call.now, fun c hc => ?_⟩
      rcases List.mem_append.mp hc with hold | hnew
      · exact h.le c hold
      · rw [List.mem_singleton.mp hnew]
  have hr := attemptsAfter_admits h hnow
  refine ⟨hr.size, fun source entries hl => ?_⟩
  have hsorted := (hr.tracks source).sorted
  rw [hl, Option.getD_some] at hsorted
  exact ⟨(hr.length source entries hl).1, (hr.length source entries hl).2, hsorted⟩

/-- **The limiter refines the full-history sliding window.** -/
theorem limiter_refines_window (calls : List AdmitCall) (call : AdmitCall)
    (h : Clocked (calls ++ [call])) :
    (admitResult calls call = .error .rateLimited ↔
      deviceExchangeRateLimit ≤ (attemptsInWindow call.source call.now (passed calls)).length ∨
      ∃ others : Finset IpAddr, maxDeviceExchangeSources ≤ others.card ∧ call.source ∉ others ∧
        ∀ other ∈ others, attemptsInWindow other call.now (passed calls) ≠ []) ∧
    (∀ source t, (attemptsInWindow source t (passed (calls ++ [call]))).length ≤
      deviceExchangeRateLimit) ∧
    (∀ source, attemptsInWindow source call.now (passed calls) ≠ [] →
      (sweep (rateCutoff call.now) (attemptsAfter calls)).lookup source =
        some (attemptsInWindow source call.now (passed calls))) ∧
    (attemptsAfter (calls ++ [call])).size ≤ maxDeviceExchangeSources ∧
    ∀ source entries, (attemptsAfter (calls ++ [call])).lookup source = some entries →
      1 ≤ entries.length ∧ entries.length ≤ deviceExchangeRateLimit ∧
      entries.Pairwise (· ≤ ·) :=
  ⟨admitResult_iff h, fun source t => attemptsInWindow_le h source t,
    fun _ hlive => sweep_keeps_window h hlive, attemptsAfter_shape h⟩

/-- The eleventh attempt of a source within a minute is refused, at 0 s, 1 s, …, 10 s. -/
theorem eleventh_attempt_refused :
    admitResult ((List.range 10).map fun i => ⟨.v4 192 0 2 1, i * 1000000000, 8⟩)
      ⟨.v4 192 0 2 1, 10 * 1000000000, 8⟩ = .error .rateLimited :=
  (limiter_refines_window _ _ ⟨by decide, by decide⟩).1.mpr (.inl (by decide))

end Runs

end MicrotunSigner
