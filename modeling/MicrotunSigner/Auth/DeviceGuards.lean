import MicrotunSigner.Auth.DeviceReplay

/-!
# Reservations of device tokens (`auth.rs`)

`begin_device_token_use` hands out a `DeviceTokenUseGuard`, `mark_consumed` records its token, and
its drop frees the reservation. Here the three critical sections alone, called by any number of
calls in any order (`guardSys`): a guard may be marked at any time, more than once too, and dropped
at any time, in `mark_consumed` too.

* `GuardsOk`: the reservations are those of the live guards, one guard each, and the cache of used
  tokens is within its bound.
* `MarksOk`: a token that was marked is remembered until its time is over.
* The exchanges use their guards in this way (`exchange_guards`).
-/

namespace MicrotunSigner

open Lib Lib.Text

/-- What a call has of a guard: nothing; a reading of the clock, before the lock of
`begin_device_token_use`; a live guard; a live guard in `mark_consumed`, before the lock. -/
inductive GuardPc where
  | out
  | beginning (token : String) (now : Int)
  | live (token : String)
  | marking (token : String) (now : Int)
  deriving DecidableEq

/-- The token of the live guard. -/
def GuardPc.guard : GuardPc → Option String
  | .live token | .marking token _ => some token
  | _ => none

/-- The reading of the clock that the call carries. -/
def GuardPc.reading : GuardPc → Option Int
  | .beginning _ now | .marking _ now => some now
  | _ => none

structure GuardSt where
  now : Int
  replay : Mutex DeviceTokenReplay
  calls : Nat → GuardPc

def GuardSt.new (now : Int) : GuardSt := ⟨now, { data := ⟨∅, Map.empty⟩ }, fun _ => .out⟩

/-- The two functions start with a reading of the clock. -/
inductive GuardAct where
  | read (c : Nat) (token : String)
  | begin_ (c : Nat)
  | readMark (c : Nat)
  | mark (c : Nat)
  | drop (c : Nat)
  | tick (d : Nat)

/-- All interleavings, for tokens with the digests `key`. -/
def guardSys (key : String → Sha256Digest) : Sys GuardSt GuardAct where
  init s := ∃ now, s = .new now
  step s
    | .read c token => match s.calls c with
      | .out => some { s with calls := Function.update s.calls c (.beginning token s.now) }
      | _ => none
    | .begin_ c => match s.calls c with
      | .beginning token now =>
        let (begun, replay) := beginDeviceTokenUse (key token) now s.replay
        some { s with replay, calls := Function.update s.calls c (match begun with
          | .ok () => .live token
          | .error _ => .out) }
      | _ => none
    | .readMark c => match s.calls c with
      | .live token => some { s with calls := Function.update s.calls c (.marking token s.now) }
      | _ => none
    | .mark c => match s.calls c with
      | .marking token now => some { s with
          replay := (markConsumed (key token) now s.replay).2
          calls := Function.update s.calls c (.live token) }
      | _ => none
    | .drop c => (s.calls c).guard.map fun token => { s with
        replay := dropGuard (key token) s.replay
        calls := Function.update s.calls c .out }
    | .tick d => some { s with now := s.now + d }

/-! ## What a step does -/

/-- The steps on a lock that is not poisoned. -/
inductive GuardStep (key : String → Sha256Digest) (t : GuardSt) : GuardAct → GuardSt → Prop where
  | read (c token) : t.calls c = .out → GuardStep key t (.read c token)
      { t with calls := Function.update t.calls c (.beginning token t.now) }
  | refuse (c token now) : t.calls c = .beginning token now →
      key token ∈ t.replay.data.used.purge id now ∨ key token ∈ t.replay.data.inFlight →
      GuardStep key t (.begin_ c)
        { t with
          replay.data.used := t.replay.data.used.purge id now
          calls := Function.update t.calls c .out }
  | reserve (c token now) : t.calls c = .beginning token now →
      key token ∉ t.replay.data.inFlight → key token ∉ t.replay.data.used.purge id now →
      GuardStep key t (.begin_ c)
        { t with
          replay.data := ⟨insert (key token) t.replay.data.inFlight,
            t.replay.data.used.purge id now⟩
          calls := Function.update t.calls c (.live token) }
  | readMark (c token) : t.calls c = .live token → GuardStep key t (.readMark c)
      { t with calls := Function.update t.calls c (.marking token t.now) }
  | decline (c token now) : t.calls c = .marking token now →
      (markConsumed (key token) now t.replay).1 ≠ .ok () →
      GuardStep key t (.mark c)
        { t with
          replay.data.used := t.replay.data.used.purge id now
          calls := Function.update t.calls c (.live token) }
  | record (c token now) : t.calls c = .marking token now →
      (markConsumed (key token) now t.replay).1 = .ok () →
      GuardStep key t (.mark c)
        { t with
          replay.data.used :=
            (t.replay.data.used.purge id now).insert (key token) (now + deviceTokenReplayTtl)
          calls := Function.update t.calls c (.live token) }
  | drop (c token) : (t.calls c).guard = some token → GuardStep key t (.drop c)
      { t with
        replay.data.inFlight := t.replay.data.inFlight.erase (key token)
        calls := Function.update t.calls c .out }
  | tick (d) : GuardStep key t (.tick d) { t with now := t.now + d }

section Step

variable {key : String → Sha256Digest} {s t u : GuardSt} {a : GuardAct} {c : Nat}

theorem beginDeviceTokenUse_lock {k : Sha256Digest} {now : Int} {replay : Mutex DeviceTokenReplay}
    (hp : replay.poisoned = false) :
    (beginDeviceTokenUse k now replay).1 ≠ .error .replayCacheUnavailable := by
  have hlock : replay.lock = some replay.data := Mutex.lock_eq_some.mpr ⟨hp, rfl⟩
  unfold beginDeviceTokenUse
  rw [hlock]
  dsimp only
  split
  · simp
  · simp

theorem markConsumed_lock {k : Sha256Digest} {now : Int} {replay : Mutex DeviceTokenReplay}
    (hp : replay.poisoned = false) (h : (markConsumed k now replay).1 ≠ .ok ()) :
    (markConsumed k now replay).2 =
      { replay with data := { replay.data with used := replay.data.used.purge id now } } := by
  have hlock : replay.lock = some replay.data := Mutex.lock_eq_some.mpr ⟨hp, rfl⟩
  unfold markConsumed at h ⊢
  rw [hlock] at h ⊢
  dsimp only at h ⊢
  split
  · rfl
  · rename_i hroom
    rw [if_neg hroom] at h
    exact absurd rfl h

theorem guardStep_of_eq (hp : t.replay.poisoned = false) (h : (guardSys key).step t a = some u) :
    GuardStep key t a u := by
  cases a with
  | read c token =>
    simp only [guardSys] at h
    split at h
    · rename_i hc
      cases h
      exact .read c token hc
    · cases h
  | begin_ c =>
    simp only [guardSys] at h
    split at h
    · rename_i token now hc
      rcases hb : beginDeviceTokenUse (key token) now t.replay with ⟨_ | _, replay⟩
      · rw [hb] at h
        cases h
        rcases beginDeviceTokenUse_error hb with ⟨rfl, -⟩ | ⟨rfl, -, hused, rfl⟩
        · exact absurd (congrArg Prod.fst hb) (beginDeviceTokenUse_lock hp)
        · exact .refuse c token now hc hused
      · rw [hb] at h
        cases h
        obtain ⟨hfree, hunused, rfl⟩ := beginDeviceTokenUse_ok hb
        exact .reserve c token now hc hfree hunused
    · cases h
  | readMark c =>
    simp only [guardSys] at h
    split at h
    · rename_i token hc
      cases h
      exact .readMark c token hc
    · cases h
  | mark c =>
    simp only [guardSys] at h
    split at h
    · rename_i token now hc
      cases h
      by_cases hok : (markConsumed (key token) now t.replay).1 = .ok ()
      · have hstep := GuardStep.record c token now hc hok
        have hm := markConsumed_ok (Prod.ext hok rfl :
          markConsumed (key token) now t.replay = (.ok (), (markConsumed _ _ _).2))
        rw [hm]
        exact hstep
      · rw [markConsumed_lock hp hok]
        exact .decline c token now hc hok
    · cases h
  | drop c =>
    obtain ⟨token, hg, rfl⟩ := Option.map_eq_some_iff.mp h
    have hlock : t.replay.lock = some t.replay.data := Mutex.lock_eq_some.mpr ⟨hp, rfl⟩
    unfold dropGuard
    rw [hlock]
    exact .drop c token hg
  | tick d =>
    cases h
    exact .tick d

end Step

/-! ## The reservations -/

/-- The reservations are the keys of the live guards, each of one guard, and the cache of used
tokens is within its bound. -/
structure GuardsOk (key : String → Sha256Digest) (t : GuardSt) : Prop where
  usable : t.replay.poisoned = false
  reading : ∀ c n, (t.calls c).reading = some n → n ≤ t.now
  reserved : ∀ k, k ∈ t.replay.data.inFlight ↔ ∃ c token, (t.calls c).guard = some token ∧
    key token = k
  exclusive : ∀ c d token token', (t.calls c).guard = some token →
    (t.calls d).guard = some token' → key token = key token' → c = d
  bounded : t.replay.data.used.size ≤ maxUsedDeviceTokens

section GuardsOk

variable {key : String → Sha256Digest} {t u : GuardSt} {a : GuardAct} {c : Nat} {pc : GuardPc}

/-- A call goes on with the guard it has. -/
theorem GuardsOk.move (h : GuardsOk key t) (hguard : pc.guard = (t.calls c).guard)
    (hread : ∀ n, pc.reading = some n → n ≤ t.now) :
    GuardsOk key { t with calls := Function.update t.calls c pc } := by
  have hsame : ∀ d, (Function.update t.calls c pc d).guard = (t.calls d).guard := by
    intro d
    rcases update_cases t.calls c pc d with ⟨rfl, he⟩ | ⟨-, he⟩
    · rw [he, hguard]
    · rw [he]
  refine { h with
    reading := fun d n hr => ?_
    reserved := fun k => ?_
    exclusive := fun d d' token token' hd hd' => ?_ }
  · have hr : (Function.update t.calls c pc d).reading = some n := hr
    rcases update_cases t.calls c pc d with ⟨-, he⟩ | ⟨-, he⟩
    · rw [he] at hr
      exact hread n hr
    · rw [he] at hr
      exact h.reading d n hr
  · rw [h.reserved k]
    exact exists_congr fun d => exists_congr fun token => by rw [← hsame d]
  · rw [hsame] at hd hd'
    exact h.exclusive d d' token token' hd hd'

theorem GuardsOk.evict (h : GuardsOk key t) {used : Map Sha256Digest Int}
    (hused : used.size ≤ maxUsedDeviceTokens) :
    GuardsOk key { t with replay.data.used := used } :=
  { h with bounded := hused }

/-- A free key gets its guard. -/
theorem GuardsOk.reserve (h : GuardsOk key t) {token : String} (hfree : key token ∉ t.replay.data.inFlight)
    (hc : (t.calls c).guard = none) :
    GuardsOk key { t with
      replay.data.inFlight := insert (key token) t.replay.data.inFlight
      calls := Function.update t.calls c (.live token) } := by
  have hnew : ∀ d tok, (Function.update t.calls c (.live token) d).guard = some tok ↔
      (d = c ∧ tok = token) ∨ (d ≠ c ∧ (t.calls d).guard = some tok) := by
    intro d tok
    rcases update_cases t.calls c (.live token) d with ⟨rfl, he⟩ | ⟨hd, he⟩
    · rw [he]
      simp [GuardPc.guard, eq_comm]
    · rw [he]
      simp [hd]
  -- Nobody else can have this key: it would be in flight.
  have hother : ∀ d tok, (t.calls d).guard = some tok → key tok ≠ key token := by
    intro d tok hd he
    exact hfree ((h.reserved _).mpr ⟨d, tok, hd, he⟩)
  refine { h with
    reading := fun d n hr => ?_
    reserved := fun k => ?_
    exclusive := fun d d' tok tok' hd hd' he => ?_ }
  · have hr : (Function.update t.calls c (.live token) d).reading = some n := hr
    rcases update_cases t.calls c (.live token) d with ⟨-, hu⟩ | ⟨-, hu⟩
    · rw [hu] at hr
      cases hr
    · rw [hu] at hr
      exact h.reading d n hr
  · rw [Finset.mem_insert, h.reserved k]
    constructor
    · rintro (rfl | ⟨d, tok, hd, hk⟩)
      · exact ⟨c, token, (hnew c token).mpr (.inl ⟨rfl, rfl⟩), rfl⟩
      · have hdc : d ≠ c := by
          rintro rfl
          rw [hc] at hd
          cases hd
        exact ⟨d, tok, (hnew d tok).mpr (.inr ⟨hdc, hd⟩), hk⟩
    · rintro ⟨d, tok, hd, hk⟩
      rcases (hnew d tok).mp hd with ⟨-, rfl⟩ | ⟨-, hd⟩
      · exact .inl hk.symm
      · exact .inr ⟨d, tok, hd, hk⟩
  · rcases (hnew d tok).mp hd with ⟨rfl, rfl⟩ | ⟨-, hold⟩
    · rcases (hnew d' tok').mp hd' with ⟨rfl, -⟩ | ⟨-, hold'⟩
      · rfl
      · exact absurd he.symm (hother d' tok' hold')
    · rcases (hnew d' tok').mp hd' with ⟨rfl, rfl⟩ | ⟨-, hold'⟩
      · exact absurd he (hother d tok hold)
      · exact h.exclusive d d' tok tok' hold hold' he

/-- A guard is dropped, and its key is free. -/
theorem GuardsOk.drop (h : GuardsOk key t) {token : String}
    (hc : (t.calls c).guard = some token) :
    GuardsOk key { t with
      replay.data.inFlight := t.replay.data.inFlight.erase (key token)
      calls := Function.update t.calls c .out } := by
  have hleft : ∀ d tok, (Function.update t.calls c .out d).guard = some tok ↔
      d ≠ c ∧ (t.calls d).guard = some tok := by
    intro d tok
    rcases update_cases t.calls c .out d with ⟨rfl, he⟩ | ⟨hd, he⟩
    · rw [he]
      simp [GuardPc.guard]
    · rw [he]
      simp [hd]
  refine { h with
    reading := fun d n hr => ?_
    reserved := fun k => ?_
    exclusive := fun d d' tok tok' hd hd' he => ?_ }
  · have hr : (Function.update t.calls c .out d).reading = some n := hr
    rcases update_cases t.calls c .out d with ⟨-, hu⟩ | ⟨-, hu⟩
    · rw [hu] at hr
      cases hr
    · rw [hu] at hr
      exact h.reading d n hr
  · rw [Finset.mem_erase, h.reserved k]
    constructor
    · rintro ⟨hne, d, tok, hd, hk⟩
      have hdc : d ≠ c := by
        rintro rfl
        rw [hc] at hd
        cases hd
        exact hne hk.symm
      exact ⟨d, tok, (hleft d tok).mpr ⟨hdc, hd⟩, hk⟩
    · rintro ⟨d, tok, hd, hk⟩
      obtain ⟨hdc, hd⟩ := (hleft d tok).mp hd
      refine ⟨fun he => ?_, d, tok, hd, hk⟩
      exact hdc (h.exclusive d c tok token hd hc (hk.trans he))
  · exact h.exclusive d d' tok tok' ((hleft d tok).mp hd).2 ((hleft d' tok').mp hd').2 he

/-- A key is recorded only in a cache that is not full, or that has it already. -/
theorem markConsumed_size {k : Sha256Digest} {now : Int} {replay : Mutex DeviceTokenReplay}
    (hbound : replay.data.used.size ≤ maxUsedDeviceTokens)
    (h : (markConsumed k now replay).1 = .ok ()) :
    ((replay.data.used.purge id now).insert k (now + deviceTokenReplayTtl)).size ≤
      maxUsedDeviceTokens := by
  have hpurge : (replay.data.used.purge id now).size ≤ replay.data.used.size := Map.size_purge_le
  by_cases hk : k ∈ replay.data.used.purge id now
  · rw [Map.size_insert_mem _ hk]
    omega
  · rw [Map.size_insert_new _ hk]
    have hroom : (replay.data.used.purge id now).size < maxUsedDeviceTokens := by
      by_contra hfull
      have hnone : (replay.data.used.purge id now).lookup k = none := Map.lookup_eq_none.mpr hk
      unfold markConsumed at h
      split at h
      · cases h
      · rename_i data hlock
        obtain ⟨-, rfl⟩ := Mutex.lock_eq_some.mp hlock
        dsimp only at h
        rw [if_pos (by rw [hnone]; simpa using hfull)] at h
        cases h
    omega

theorem guardsOk_inductive : (guardSys key).Inductive (GuardsOk key) where
  init := by
    rintro _ ⟨now, rfl⟩
    refine ⟨rfl, fun c n hr => (nomatch hr), fun k => ?_, fun c d _ _ hc => (nomatch hc), ?_⟩
    · show k ∈ (∅ : Finset Sha256Digest) ↔ _
      simp [GuardSt.new, GuardPc.guard]
    · exact Nat.zero_le _
  step := by
    intro t a u h hs
    have hpurge : ∀ n, (t.replay.data.used.purge id n).size ≤ maxUsedDeviceTokens := fun n =>
      le_trans Map.size_purge_le h.bounded
    cases guardStep_of_eq h.usable hs with
    | read c token hc =>
      refine h.move (by rw [hc]; rfl) fun n hn => ?_
      cases hn
      exact le_refl _
    | refuse c token now hc hused =>
      exact (h.evict (hpurge now)).move (by rw [hc]; rfl) fun n hn => (nomatch hn)
    | reserve c token now hc hfree hunused =>
      exact (h.evict (hpurge now)).reserve hfree (by rw [hc]; rfl)
    | readMark c token hc =>
      refine h.move (by rw [hc]; rfl) fun n hn => ?_
      cases hn
      exact le_refl _
    | decline c token now hc hno =>
      exact (h.evict (hpurge now)).move (by rw [hc]; rfl) fun n hn => (nomatch hn)
    | record c token now hc hok =>
      exact (h.evict (markConsumed_size h.bounded hok)).move (by rw [hc]; rfl)
        fun n hn => (nomatch hn)
    | drop c token hc => exact h.drop hc
    | tick d =>
      exact { h with
        reading := fun c n hr => by
          have hn := h.reading c n hr
          show n ≤ t.now + d
          omega }

end GuardsOk

/-! ## The marks -/

/-- A step in which a call marks its token, with the reading `n`, and succeeds. -/
def Marks (key : String → Sha256Digest) (k : Sha256Digest) (n : Int) (t : GuardSt) (a : GuardAct)
    (_ : GuardSt) : Prop :=
  ∃ c token, a = .mark c ∧ t.calls c = .marking token n ∧ key token = k ∧
    (markConsumed k n t.replay).1 = .ok ()

/-- What is left of the marks `marked`: each is remembered, or its time is over; and a call that is
about to mark the same key again has a later reading, or its time is over. -/
structure MarksOk (key : String → Sha256Digest) (marked : Sha256Digest → Int → Prop) (t : GuardSt) :
    Prop where
  past : ∀ k n, marked k n → n ≤ t.now
  stored : ∀ k n, marked k n →
    (∃ e, t.replay.data.used.lookup k = some e ∧ n + deviceTokenReplayTtl ≤ e) ∨
      n + deviceTokenReplayTtl ≤ t.now
  later : ∀ k n c token m, marked k n → t.calls c = .marking token m → key token = k →
    n ≤ m ∨ n + deviceTokenReplayTtl ≤ t.now

section MarksOk

variable {key : String → Sha256Digest} {t u : GuardSt} {a : GuardAct} {c : Nat} {pc : GuardPc}
  {marked : Sha256Digest → Int → Prop}

/-- A call goes on, and is not about to mark, or has just read the clock for it. -/
theorem MarksOk.move (h : MarksOk key marked t)
    (hpc : ∀ token m, pc = .marking token m → m = t.now) :
    MarksOk key marked { t with calls := Function.update t.calls c pc } :=
  { h with
    later := fun k n d token m hm hd hk => by
      have hd : Function.update t.calls c pc d = .marking token m := hd
      rcases update_cases t.calls c pc d with ⟨-, he⟩ | ⟨-, he⟩
      · rw [he] at hd
        rw [hpc token m hd]
        exact .inl (h.past k n hm)
      · rw [he] at hd
        exact h.later k n d token m hm hd hk }

/-- An eviction at a past reading forgets nothing before its time. -/
theorem MarksOk.evict (h : MarksOk key marked t) {m : Int} (hm : m ≤ t.now) :
    MarksOk key marked { t with replay.data.used := t.replay.data.used.purge id m } :=
  { h with
    stored := fun k n hk => by
      rcases h.stored k n hk with ⟨e, he, hle⟩ | hle
      · by_cases hlt : m < e
        · refine .inl ⟨e, ?_, hle⟩
          show (t.replay.data.used.purge id m).lookup k = some e
          rw [Map.lookup_purge, Map.live_eq_some]
          exact ⟨he, hlt⟩
        · exact .inr (by show n + deviceTokenReplayTtl ≤ t.now; omega)
      · exact .inr hle }

/-- The mark of a key. -/
theorem MarksOk.record (h : MarksOk key marked t) (hg : GuardsOk key t) {token : String} {m : Int}
    (hc : t.calls c = .marking token m) :
    MarksOk key (fun k n => marked k n ∨ k = key token ∧ n = m) { t with
      replay.data.used := t.replay.data.used.insert (key token) (m + deviceTokenReplayTtl)
      calls := Function.update t.calls c (.live token) } := by
  have hm : m ≤ t.now := hg.reading c m (by rw [hc]; rfl)
  have hlook : ∀ k, (t.replay.data.used.insert (key token) (m + deviceTokenReplayTtl)).lookup k =
      if k = key token then some (m + (deviceTokenReplayTtl : Int)) else t.replay.data.used.lookup k :=
    fun k => Map.lookup_insert _ _ _ _
  refine ⟨?_, ?_, ?_⟩
  · rintro k n (hk | ⟨-, rfl⟩)
    · exact h.past k n hk
    · exact hm
  · rintro k n (hk | ⟨rfl, rfl⟩)
    · by_cases he : k = key token
      · subst he
        -- The same guard has marked this key before, with an earlier reading.
        rcases h.later _ n c token m hk hc rfl with hle | hle
        · exact .inl ⟨_, (hlook _).trans (if_pos rfl), by omega⟩
        · exact .inr hle
      · rcases h.stored k n hk with ⟨e, hle⟩ | hle
        · exact .inl ⟨e, (hlook k).trans ((if_neg he).trans hle.1), hle.2⟩
        · exact .inr hle
    · exact .inl ⟨_, (hlook _).trans (if_pos rfl), le_refl _⟩
  · intro k n d token' m' hk hd hkey
    have hd : Function.update t.calls c (.live token) d = .marking token' m' := hd
    rcases update_cases t.calls c (.live token) d with ⟨-, he⟩ | ⟨hdc, he⟩
    · rw [he] at hd
      cases hd
    · rw [he] at hd
      rcases hk with hk | ⟨rfl, -⟩
      · exact h.later k n d token' m' hk hd hkey
      · exact absurd (hg.exclusive d c token' token (by rw [hd]; rfl) (by rw [hc]; rfl) hkey) hdc

theorem MarksOk.tick (h : MarksOk key marked t) (d : Nat) :
    MarksOk key marked { t with now := t.now + d } where
  past := fun k n hm => by
    have hle := h.past k n hm
    show n ≤ t.now + d
    omega
  stored := fun k n hm => (h.stored k n hm).imp_right fun hle => by
    show n + deviceTokenReplayTtl ≤ t.now + d
    omega
  later := fun k n c token m hm hc hk => (h.later k n c token m hm hc hk).imp_right fun hle => by
    show n + deviceTokenReplayTtl ≤ t.now + d
    omega

/-- Only a step of `mark_consumed` marks, and it marks the key of its guard at its reading. -/
theorem marks_mark {k : Sha256Digest} {n m : Int} {token : String}
    (hc : t.calls c = .marking token m) :
    Marks key k n t (.mark c) u ↔
      (k = key token ∧ n = m) ∧ (markConsumed (key token) m t.replay).1 = .ok () := by
  constructor
  · rintro ⟨c', token', he, hc', rfl, hok⟩
    cases he
    rw [hc] at hc'
    cases hc'
    exact ⟨⟨rfl, rfl⟩, hok⟩
  · rintro ⟨⟨rfl, rfl⟩, hok⟩
    exact ⟨c, token, rfl, hc, rfl, hok⟩

/-- A step keeps what is left of the marks, its own included. -/
theorem MarksOk.step {marked' : Sha256Digest → Int → Prop} (h : MarksOk key marked t)
    (hg : GuardsOk key t) (hu : (guardSys key).step t a = some u)
    (hmarked : ∀ k n, marked' k n ↔ marked k n ∨ Marks key k n t a u) :
    MarksOk key marked' u := by
  have hold : (∀ k n, ¬ Marks key k n t a u) → marked' = marked := fun hno => by
    funext k n
    exact propext ((hmarked k n).trans (or_iff_left (hno k n)))
  cases guardStep_of_eq hg.usable hu with
  | read c token hc =>
    rw [hold (by rintro k n ⟨_, _, h, -⟩; cases h)]
    exact h.move fun _ _ h => (nomatch h)
  | refuse c token now hc hused =>
    rw [hold (by rintro k n ⟨_, _, h, -⟩; cases h)]
    exact (h.evict (hg.reading c now (by rw [hc]; rfl))).move fun _ _ h => (nomatch h)
  | reserve c token now hc hfree hunused =>
    rw [hold (by rintro k n ⟨_, _, h, -⟩; cases h)]
    have hmove : MarksOk key marked { t with
        replay.data.used := t.replay.data.used.purge id now
        calls := Function.update t.calls c (.live token) } :=
      (h.evict (hg.reading c now (by rw [hc]; rfl))).move fun _ _ h => (nomatch h)
    exact { hmove with }
  | readMark c token hc =>
    rw [hold (by rintro k n ⟨_, _, h, -⟩; cases h)]
    refine h.move fun _ _ h => ?_
    cases h
    rfl
  | decline c token now hc hno =>
    rw [hold fun k n hm => hno ((marks_mark hc).mp hm).2]
    exact (h.evict (hg.reading c now (by rw [hc]; rfl))).move fun _ _ h => (nomatch h)
  | record c token now hc hok =>
    have hnew : marked' = fun k n => marked k n ∨ k = key token ∧ n = now := by
      funext k n
      exact propext ((hmarked k n).trans
        (or_congr_right ((marks_mark hc).trans (and_iff_left hok))))
    rw [hnew]
    have hle : now ≤ t.now := hg.reading c now (by rw [hc]; rfl)
    exact (h.evict hle).record (hg.evict (le_trans Map.size_purge_le hg.bounded)) hc
  | drop c token hc =>
    rw [hold (by rintro k n ⟨_, _, h, -⟩; cases h)]
    have hmove : MarksOk key marked { t with calls := Function.update t.calls c .out } :=
      h.move fun _ _ h => (nomatch h)
    exact { hmove with }
  | tick d =>
    rw [hold (by rintro k n ⟨_, _, h, -⟩; cases h)]
    exact h.tick d

theorem run_marksOk {now₀ : Int} {as : List GuardAct}
    (hrun : (guardSys key).run (.new now₀) as = some t) :
    MarksOk key (fun k n => (guardSys key).Did (.new now₀) (Marks key k n) as) t := by
  refine Sys.run_induction (P := fun as t => MarksOk key
    (fun k n => (guardSys key).Did (.new now₀) (Marks key k n) as) t) ?_ ?_ as t hrun
  · exact ⟨fun k n hm => absurd hm Sys.not_did_nil, fun k n hm => absurd hm Sys.not_did_nil,
      fun k n c token m hm => absurd hm Sys.not_did_nil⟩
  · intro as t a u ht ih hu
    exact ih.step (guardsOk_inductive.run ⟨now₀, rfl⟩ ht) hu fun k n => Sys.did_snoc ht hu

/-- While a mark is in time, its token is refused. -/
theorem MarksOk.refused (h : MarksOk key marked t) (hg : GuardsOk key t) {k : Sha256Digest} {n : Int}
    (hk : marked k n) (htime : t.now < n + deviceTokenReplayTtl) {token : String} {m : Int}
    (hc : t.calls c = .beginning token m) (htoken : key token = k) :
    (beginDeviceTokenUse (key token) m t.replay).1 = .error .tokenReplayed := by
  have hm : m ≤ t.now := hg.reading c m (by rw [hc]; rfl)
  have hlock : t.replay.lock = some t.replay.data := Mutex.lock_eq_some.mpr ⟨hg.usable, rfl⟩
  have hused : ((t.replay.data.used.purge id m).lookup (key token)).isSome = true := by
    rcases h.stored k n hk with ⟨e, he, hle⟩ | hle
    · rw [htoken, Map.lookup_purge, Map.live_eq_some.mpr ⟨he, show m < e by omega⟩]
      rfl
    · omega
  unfold beginDeviceTokenUse
  rw [hlock]
  dsimp only
  rw [if_pos (by rw [hused]; rfl)]

end MarksOk

/-- **Reservations neither leak nor get stolen.** In every state that any interleaving reaches: the
keys in flight are those of the live guards, each of one guard; a begin that is refused as a replay
evicts expired entries and does nothing else; from a successful mark until the expiry of its entry
the token is refused by every begin; and the cache of used tokens is within its bound. -/
theorem reservations_exact {key : String → Sha256Digest} {now₀ : Int} {as : List GuardAct}
    {t : GuardSt} (hrun : (guardSys key).run (.new now₀) as = some t) :
    (∀ k, k ∈ t.replay.data.inFlight ↔ ∃ c token, (t.calls c).guard = some token ∧ key token = k) ∧
    (∀ c d token token', (t.calls c).guard = some token → (t.calls d).guard = some token' →
      key token = key token' → c = d) ∧
    (∀ c token now u, t.calls c = .beginning token now →
      (beginDeviceTokenUse (key token) now t.replay).1 = .error .tokenReplayed →
      (guardSys key).step t (.begin_ c) = some u →
      u = { t with
        replay.data.used := t.replay.data.used.purge id now
        calls := Function.update t.calls c .out }) ∧
    (∀ k n c token m, (guardSys key).Did (.new now₀) (Marks key k n) as →
      t.now < n + deviceTokenReplayTtl → t.calls c = .beginning token m → key token = k →
      (beginDeviceTokenUse (key token) m t.replay).1 = .error .tokenReplayed) ∧
    t.replay.data.used.size ≤ maxUsedDeviceTokens := by
  have hg : GuardsOk key t := guardsOk_inductive.run ⟨now₀, rfl⟩ hrun
  refine ⟨hg.reserved, hg.exclusive, fun c token now u hc hno hu => ?_,
    fun k n c token m hk htime hc htoken => (run_marksOk hrun).refused hg hk htime hc htoken,
    hg.bounded⟩
  cases guardStep_of_eq hg.usable hu with
  | refuse c token' now' hc' hused =>
    rw [hc] at hc'
    cases hc'
    rfl
  | reserve c token' now' hc' hfree hunused =>
    rw [hc] at hc'
    cases hc'
    rcases beginDeviceTokenUse_error (Prod.ext hno rfl :
      beginDeviceTokenUse (key token) now t.replay = (.error .tokenReplayed,
        (beginDeviceTokenUse _ _ _).2)) with ⟨he, -⟩ | ⟨-, -, hused, -⟩
    · cases he
    · exact absurd hused (not_or.mpr ⟨hunused, hfree⟩)

/-- Call `0` reserves and marks its token; call `1` comes with the same token. -/
def exampleReservation : List GuardAct :=
  [.read 0 "gho_a", .begin_ 0, .readMark 0, .mark 0, .drop 0, .tick 5, .read 1 "gho_a"]

theorem reservations_exact_refused : ∃ t,
    (guardSys exampleAuthenticator.key).run (.new 0) exampleReservation = some t ∧
    (beginDeviceTokenUse (exampleAuthenticator.key "gho_a") 5 t.replay).1 =
      .error .tokenReplayed := by
  obtain ⟨t, hrun, hnow, hc⟩ : ∃ t,
      (guardSys exampleAuthenticator.key).run (.new 0) exampleReservation = some t ∧
      t.now = 5 ∧ t.calls 1 = .beginning "gho_a" 5 := ⟨_, rfl, rfl, rfl⟩
  have hmark : (guardSys exampleAuthenticator.key).Did (.new 0)
      (Marks exampleAuthenticator.key (exampleAuthenticator.key "gho_a") 0) exampleReservation :=
    ⟨[.read 0 "gho_a", .begin_ 0, .readMark 0], .mark 0, [.drop 0, .tick 5, .read 1 "gho_a"], _, _,
      rfl, rfl, rfl, 0, "gho_a", rfl, rfl, rfl, rfl⟩
  refine ⟨t, hrun, (reservations_exact hrun).2.2.2.1 _ 0 1 _ _ hmark ?_ hc rfl⟩
  rw [hnow]
  decide

/-! ## The exchanges -/

/-- What an exchange has of its guard at each place. -/
def DevicePc.guardPc : DevicePc → GuardPc
  | .idle | .entered _ | .done _ _ => .out
  | .beginning token now => .beginning token now
  | .sendCheck token | .checking token | .granted token _ | .sendUser token _ | .lookingUp token _
  | .sendRevoke token _ | .revoking token _ | .revoked token _ => .live token
  | .consuming token _ now => .marking token now
  | .minting token _ _ | .inserting token _ _ _ | .dropping token _ => .live token

/-- The exchanges, as far as their guards go. -/
def guardView (t : DeviceSt) : GuardSt :=
  ⟨t.shared.now, t.shared.replay, fun c => (t.calls c).guardPc⟩

section Exchanges

variable {Key : Type} {self : Authenticator Key} {t u : DeviceSt} {a : DeviceAct} {c : Nat}
  {as : List DeviceAct}

theorem guardView_call (shared : DeviceShared) (pc : DevicePc) :
    guardView ⟨shared, Function.update t.calls c pc⟩ =
      ⟨shared.now, shared.replay, Function.update (guardView t).calls c pc.guardPc⟩ := by
  have hcalls : (fun d => (Function.update t.calls c pc d).guardPc) =
      Function.update (guardView t).calls c pc.guardPc := by
    funext d
    rcases update_cases t.calls c pc d with ⟨rfl, he⟩ | ⟨hd, he⟩
    · rw [he, Function.update_self]
    · rw [he, Function.update_of_ne hd]
      rfl
  rw [← hcalls]
  rfl

/-- A step that changes nothing about guards. -/
theorem guardView_same {pc : DevicePc} (hpc : pc.guardPc = (t.calls c).guardPc)
    {shared : DeviceShared} (hnow : shared.now = t.shared.now)
    (hreplay : shared.replay = t.shared.replay) :
    guardView ⟨shared, Function.update t.calls c pc⟩ = guardView t := by
  have hsame : Function.update (guardView t).calls c pc.guardPc = (guardView t).calls := by
    rw [hpc]
    exact Function.update_eq_self c (guardView t).calls
  rw [guardView_call, hsame, hnow, hreplay]
  rfl

/-- **A step of an exchange is a step of its guard**, or nothing that the guards see. -/
theorem guardView_step {shared : DeviceShared} {pc : DevicePc} {input : DeviceIn}
    (hs : DeviceStep self t.shared (t.calls c) input shared pc) :
    guardView ⟨shared, Function.update t.calls c pc⟩ = guardView t ∨
      ∃ b, (guardSys self.key).step (guardView t) b =
        some (guardView ⟨shared, Function.update t.calls c pc⟩) := by
  have hview : (guardView t).calls c = (t.calls c).guardPc := rfl
  generalize hpc : t.calls c = pc₀ at hs hview
  cases hs with
  | enter token =>
    refine .inr ⟨.read c token, ?_⟩
    simp only [guardSys, hview, DevicePc.guardPc, guardView_call]
    rfl
  | refuse token now e replay hb =>
    refine .inr ⟨.begin_ c, ?_⟩
    have hb' : beginDeviceTokenUse (self.key token) now (guardView t).replay = (.error e, replay) := hb
    simp only [guardSys, hview, DevicePc.guardPc, guardView_call, hb']
    rfl
  | reserve token now replay hb =>
    refine .inr ⟨.begin_ c, ?_⟩
    have hb' : beginDeviceTokenUse (self.key token) now (guardView t).replay = (.ok (), replay) := hb
    simp only [guardSys, hview, DevicePc.guardPc, guardView_call, hb']
    rfl
  | read token outcome =>
    refine .inr ⟨.readMark c, ?_⟩
    simp only [guardSys, hview, DevicePc.guardPc, guardView_call]
    rfl
  | decline token outcome now e replay hm =>
    refine .inr ⟨.mark c, ?_⟩
    have hm' : markConsumed (self.key token) now (guardView t).replay = (.error e, replay) := hm
    simp only [guardSys, hview, DevicePc.guardPc, guardView_call, hm']
    rfl
  | recordDenied token e now replay hm =>
    refine .inr ⟨.mark c, ?_⟩
    have hm' : markConsumed (self.key token) now (guardView t).replay = (.ok (), replay) := hm
    simp only [guardSys, hview, DevicePc.guardPc, guardView_call, hm']
    rfl
  | record token identityId user now replay hm =>
    refine .inr ⟨.mark c, ?_⟩
    have hm' : markConsumed (self.key token) now (guardView t).replay = (.ok (), replay) := hm
    simp only [guardSys, hview, DevicePc.guardPc, guardView_call, hm']
    rfl
  | drop token result =>
    refine .inr ⟨.drop c, ?_⟩
    simp only [guardSys, hview, DevicePc.guardPc, GuardPc.guard, guardView_call]
    rfl
  | cancel pc token ha =>
    left
    refine guardView_same ?_ rfl rfl
    rw [hpc]
    cases pc₀ with
    | idle | entered | beginning | granted | revoked | consuming | minting | dropping | done =>
      cases ha
    | sendCheck | checking | sendUser | lookingUp | sendRevoke | revoking | inserting =>
      cases ha
      rfl
  | _ => exact .inl (guardView_same (by rw [hpc]; rfl) rfl rfl)

/-- The guards of the exchanges, in any run in which nothing poisons the replay cache, are guards of
the system above, so that what holds of its reachable states holds of them. -/
theorem exchange_guards {now₀ : Int} (hrun : self.deviceSys.run (.new now₀) as = some t)
    (hpoison : .poison ∉ as) :
    ∃ bs, (guardSys self.key).run (.new now₀) bs = some (guardView t) := by
  revert hpoison
  refine Sys.run_induction (P := fun as t => DeviceAct.poison ∉ as →
    ∃ bs, (guardSys self.key).run (.new now₀) bs = some (guardView t)) ?_ ?_ as t hrun
  · exact fun _ => ⟨[], rfl⟩
  · intro as t a u ht ih hu hno
    rw [List.mem_append, not_or, List.mem_singleton] at hno
    obtain ⟨bs, hbs⟩ := ih hno.1
    have hone : guardView u = guardView t ∨
        ∃ b, (guardSys self.key).step (guardView t) b = some (guardView u) := by
      rcases device_cases hu with
        ⟨c, token, -, hidle, rfl⟩ | ⟨c, input, shared, pc, -, hs, rfl⟩ | ⟨d, -, rfl⟩ | ⟨rfl, -⟩
      · refine .inl (guardView_same ?_ rfl rfl)
        rw [hidle]
        unfold enterDevice
        split <;> rfl
      · exact guardView_step hs
      · exact .inr ⟨.tick d, rfl⟩
      · exact absurd rfl hno.2
    rcases hone with he | ⟨b, hb⟩
    · exact ⟨bs, by rw [he, hbs]⟩
    · exact ⟨bs ++ [b], Sys.run_snoc.mpr ⟨_, hbs, hb⟩⟩

end Exchanges

end MicrotunSigner
