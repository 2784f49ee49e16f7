import MicrotunSigner.Lib.Map
import MicrotunSigner.Lib.Sys
import Mathlib.Data.Finset.Insert

/-!
# Single-use keys with an expiring memory

Clients use up keys that a shared registry remembers. A client reads the clock, reserves its key if
that is neither reserved nor remembered, does its work, reads the clock again, and records the key
as used: it is remembered for `ttl` from that second reading on. Every visit of the registry first
evicts what has expired at the visitor's own reading, which may be old by then.

* `Step`: what the clients and the clock can do. The `log` says who recorded which key, and with
  which reading.
* `Inv`: the invariant of all runs. `Inv.apart`: two clients that record the same key have readings
  at least `ttl` apart, whoever else came between.
-/

namespace Lib.SingleUse

variable {κ : Type} [DecidableEq κ]

/-- Where a client is: it has read the clock and comes to reserve; it has reserved a key; it has
read the clock and comes to record; it is done with its key but still has it reserved. -/
inductive Role (κ : Type) where
  | out
  | arriving (at_ : Int)
  | holding (k : κ)
  | recording (k : κ) (at_ : Int)
  | spent (k : κ)

def Role.key : Role κ → Option κ
  | .holding k | .recording k _ | .spent k => some k
  | _ => none

def Role.reading : Role κ → Option Int
  | .arriving n | .recording _ n => some n
  | _ => none

structure State (κ : Type) where
  now : Int
  inFlight : Finset κ
  used : Map κ Int
  poisoned : Bool
  roles : Nat → Role κ
  log : Nat → κ → Int → Prop

structure State.Fresh (s : State κ) : Prop where
  inFlight : s.inFlight = ∅
  used : s.used = Map.empty
  roles : ∀ c, s.roles c = .out
  log : ∀ c k n, ¬ s.log c k n

/-- One step. A client that leaves a poisoned registry leaves its key reserved. -/
inductive Step (ttl : Nat) (s : State κ) : State κ → Prop where
  | tick (d : Nat) : Step ttl s { s with now := s.now + d }
  | poison : Step ttl s { s with poisoned := true }
  | arrive (c : Nat) : s.roles c = .out →
      Step ttl s { s with roles := Function.update s.roles c (.arriving s.now) }
  | turnAway (c : Nat) (n : Int) : s.roles c = .arriving n →
      Step ttl s { s with roles := Function.update s.roles c .out }
  | refuse (c : Nat) (n : Int) : s.roles c = .arriving n →
      Step ttl s { s with used := s.used.purge id n, roles := Function.update s.roles c .out }
  | reserve (c : Nat) (n : Int) (k : κ) : s.roles c = .arriving n → k ∉ s.inFlight →
      k ∉ s.used.purge id n →
      Step ttl s { s with inFlight := insert k s.inFlight, used := s.used.purge id n,
                          roles := Function.update s.roles c (.holding k) }
  | read (c : Nat) (k : κ) : s.roles c = .holding k →
      Step ttl s { s with roles := Function.update s.roles c (.recording k s.now) }
  | record (c : Nat) (k : κ) (n : Int) : s.roles c = .recording k n →
      Step ttl s { s with used := (s.used.purge id n).insert k (n + ttl),
                          roles := Function.update s.roles c (.spent k),
                          log := fun d j m => s.log d j m ∨ d = c ∧ j = k ∧ m = n }
  | decline (c : Nat) (k : κ) (n : Int) : s.roles c = .recording k n →
      Step ttl s { s with used := s.used.purge id n, roles := Function.update s.roles c (.spent k) }
  | giveUp (c : Nat) (k : κ) : (s.roles c).key = some k →
      Step ttl s { s with roles := Function.update s.roles c (.spent k) }
  | release (c : Nat) (k : κ) : s.roles c = .spent k →
      Step ttl s { s with inFlight := s.inFlight.erase k, roles := Function.update s.roles c .out }
  | leave (c : Nat) (k : κ) : s.roles c = .spent k → s.poisoned = true →
      Step ttl s { s with roles := Function.update s.roles c .out }

structure Inv (ttl : Nat) (s : State κ) : Prop where
  reading : ∀ c n, (s.roles c).reading = some n → n ≤ s.now
  owns : ∀ c k, (s.roles c).key = some k → k ∈ s.inFlight
  exclusive : ∀ c d k, (s.roles c).key = some k → (s.roles d).key = some k → c = d
  /-- Nothing stays reserved without its owner, as long as the registry works. -/
  owned : s.poisoned = false → ∀ k ∈ s.inFlight, ∃ c, (s.roles c).key = some k
  /-- What was recorded is remembered for `ttl`, and nothing else is. -/
  stored : ∀ c k n, s.log c k n →
    (∃ e, s.used.lookup k = some e ∧ n + ttl ≤ e) ∨ n + ttl ≤ s.now
  source : ∀ k e, s.used.lookup k = some e → ∃ c n, s.log c k n
  /-- Before it records, an owner's key is not remembered: all its records are too old. -/
  holding : ∀ c k, s.roles c = .holding k →
    s.used.lookup k = none ∧ ∀ d m, s.log d k m → m + ttl ≤ s.now
  recording : ∀ c k n, s.roles c = .recording k n →
    s.used.lookup k = none ∧ ∀ d m, s.log d k m → m + ttl ≤ n
  apart : ∀ c d k n m, c ≠ d → s.log c k n → s.log d k m → n + ttl ≤ m ∨ m + ttl ≤ n

theorem State.Fresh.inv {ttl : Nat} {s : State κ} (h : s.Fresh) : Inv ttl s := by
  obtain ⟨hin, hused, hroles, hlog⟩ := h
  refine ⟨?_, ?_, ?_, ?_, ?_, ?_, ?_, ?_, ?_⟩
  · intro c n hr
    rw [hroles] at hr
    cases hr
  · intro c k hk
    rw [hroles] at hk
    cases hk
  · intro c d k hk
    rw [hroles] at hk
    cases hk
  · intro _ k hk
    rw [hin] at hk
    exact absurd hk (Finset.notMem_empty k)
  · intro c k n hl
    exact absurd hl (hlog c k n)
  · intro k e he
    rw [hused] at he
    cases he
  · intro c k hr
    rw [hroles] at hr
    cases hr
  · intro c k n hr
    rw [hroles] at hr
    cases hr
  · intro c d k n m _ hl
    exact absurd hl (hlog c k n)

variable {ttl : Nat} {s s' : State κ}

/-! ## What one step keeps -/

omit [DecidableEq κ] in
/-- What a client shows after one role has changed: it is that client, or it showed it before. -/
theorem role_cases {α : Type} (f : Role κ → α) {roles : Nat → Role κ} {c d : Nat} {r : Role κ}
    {x : α} (h : f (Function.update roles c r d) = x) :
    d = c ∧ f r = x ∨ d ≠ c ∧ f (roles d) = x := by
  rcases update_cases roles c r d with ⟨hd, he⟩ | ⟨hd, he⟩
  · rw [he] at h
    exact .inl ⟨hd, h⟩
  · rw [he] at h
    exact .inr ⟨hd, h⟩

/-- An eviction at a past reading loses nothing that must still be remembered. -/
theorem Inv.evict (h : Inv ttl s) {n : Int} (hn : n ≤ s.now) :
    Inv ttl { s with used := s.used.purge id n } := by
  have hsub : ∀ k e, (s.used.purge id n).lookup k = some e → s.used.lookup k = some e := by
    intro k e he
    rw [Map.lookup_purge, Map.live_eq_some] at he
    exact he.1
  have hnone : ∀ k, s.used.lookup k = none → (s.used.purge id n).lookup k = none := by
    intro k hk
    rw [Option.eq_none_iff_forall_ne_some]
    intro e he
    rw [hsub k e he] at hk
    cases hk
  refine { h with
    stored := fun c k m hl => ?_
    source := fun k e he => h.source k e (hsub k e he)
    holding := fun c k hr => ⟨hnone k (h.holding c k hr).1, (h.holding c k hr).2⟩
    recording := fun c k m hr => ⟨hnone k (h.recording c k m hr).1, (h.recording c k m hr).2⟩ }
  rcases h.stored c k m hl with ⟨e, he, hle⟩ | hle
  · by_cases hlt : n < e
    · refine .inl ⟨e, ?_, hle⟩
      rw [Map.lookup_purge, Map.live_eq_some]
      exact ⟨he, hlt⟩
    · exact .inr (by show m + ttl ≤ s.now; omega)
  · exact .inr hle

/-- A client moves on and keeps what it has reserved. -/
theorem Inv.move (h : Inv ttl s) {c : Nat} {r : Role κ} (hkey : r.key = (s.roles c).key)
    (hread : ∀ n, r.reading = some n → n ≤ s.now)
    (hhold : ∀ k, r = .holding k →
      s.used.lookup k = none ∧ ∀ d m, s.log d k m → m + ttl ≤ s.now)
    (hrec : ∀ k n, r = .recording k n →
      s.used.lookup k = none ∧ ∀ d m, s.log d k m → m + ttl ≤ n) :
    Inv ttl { s with roles := Function.update s.roles c r } := by
  have hkeys : ∀ d, (Function.update s.roles c r d).key = (s.roles d).key := by
    intro d
    by_cases hd : d = c
    · subst hd
      rw [Function.update_self, hkey]
    · rw [Function.update_of_ne hd]
  refine { h with
    reading := fun d n hr => ?_
    owns := fun d k hk => h.owns d k (by rw [← hkeys d]; exact hk)
    exclusive := fun d d' k hk hk' => h.exclusive d d' k (by rw [← hkeys d]; exact hk)
      (by rw [← hkeys d']; exact hk')
    owned := fun hp k hk => ?_
    holding := fun d k hr => ?_
    recording := fun d k n hr => ?_ }
  · rcases role_cases Role.reading hr with ⟨-, hr⟩ | ⟨-, hr⟩
    · exact hread n hr
    · exact h.reading d n hr
  · obtain ⟨d, hd⟩ := h.owned hp k hk
    exact ⟨d, (hkeys d).trans hd⟩
  · rcases role_cases id hr with ⟨-, hr⟩ | ⟨-, hr⟩
    · exact hhold k hr
    · exact h.holding d k hr
  · rcases role_cases id hr with ⟨-, hr⟩ | ⟨-, hr⟩
    · exact hrec k n hr
    · exact h.recording d k n hr

/-- Time passes. -/
theorem Inv.tick (h : Inv ttl s) (d : Nat) : Inv ttl { s with now := s.now + d } :=
  { h with
    reading := fun c n hr => by
      have hn := h.reading c n hr
      show n ≤ s.now + d
      omega
    stored := fun c k n hl => by
      rcases h.stored c k n hl with he | hle
      · exact .inl he
      · exact .inr (by show n + ttl ≤ s.now + d; omega)
    holding := fun c k hr => by
      obtain ⟨hn, hle⟩ := h.holding c k hr
      refine ⟨hn, fun d' m hm => ?_⟩
      have hm' := hle d' m hm
      show m + ttl ≤ s.now + d
      omega }

/-- A key that is neither reserved nor remembered gets its owner. -/
theorem Inv.reserve (h : Inv ttl s) {c : Nat} {n : Int} {k : κ} (hc : s.roles c = .arriving n)
    (hfree : k ∉ s.inFlight) (hunused : k ∉ s.used) (hold : ∀ d m, s.log d k m → m + ttl ≤ s.now) :
    Inv ttl { s with inFlight := insert k s.inFlight,
                     roles := Function.update s.roles c (.holding k) } := by
  have hnew : ∀ d j, (Function.update s.roles c (.holding k) d).key = some j →
      d = c ∧ j = k ∨ d ≠ c ∧ (s.roles d).key = some j := by
    intro d j hj
    rcases role_cases Role.key hj with ⟨hd, hj⟩ | h
    · exact .inl ⟨hd, (Option.some.inj hj).symm⟩
    · exact .inr h
  refine { h with
    reading := fun d m hr => ?_
    owns := fun d j hj => ?_
    exclusive := fun d d' j hj hj' => ?_
    owned := fun hp j hj => ?_
    holding := fun d j hr => ?_
    recording := fun d j m hr => ?_ }
  · rcases role_cases Role.reading hr with ⟨-, hr⟩ | ⟨-, hr⟩
    · cases hr
    · exact h.reading d m hr
  · rcases hnew d j hj with ⟨-, rfl⟩ | ⟨-, hj⟩
    · exact Finset.mem_insert_self _ _
    · exact Finset.mem_insert_of_mem (h.owns d j hj)
  · rcases hnew d j hj with ⟨rfl, rfl⟩ | ⟨-, hkey⟩
    · rcases hnew d' j hj' with ⟨rfl, -⟩ | ⟨-, hkey'⟩
      · rfl
      · exact absurd (h.owns d' j hkey') hfree
    · rcases hnew d' j hj' with ⟨rfl, rfl⟩ | ⟨-, hkey'⟩
      · exact absurd (h.owns d j hkey) hfree
      · exact h.exclusive d d' j hkey hkey'
  · rcases Finset.mem_insert.mp hj with rfl | hj
    · exact ⟨c, by show (Function.update s.roles c _ c).key = _; rw [Function.update_self]; rfl⟩
    · obtain ⟨d, hd⟩ := h.owned hp j hj
      have hdc : d ≠ c := by
        rintro rfl
        rw [hc] at hd
        cases hd
      exact ⟨d, by show (Function.update s.roles c _ d).key = _; rw [Function.update_of_ne hdc, hd]⟩
  · rcases role_cases id hr with ⟨-, hr⟩ | ⟨-, hr⟩
    · cases hr
      exact ⟨Map.lookup_eq_none.mpr hunused, hold⟩
    · exact h.holding d j hr
  · rcases role_cases id hr with ⟨-, hr⟩ | ⟨-, hr⟩
    · cases hr
    · exact h.recording d j m hr

/-- An owner whose records are all too old records its key. -/
theorem Inv.record (h : Inv ttl s) {c : Nat} {n : Int} {k : κ} (hc : s.roles c = .recording k n) :
    Inv ttl { s with used := s.used.insert k (n + ttl),
                     roles := Function.update s.roles c (.spent k),
                     log := fun d j m => s.log d j m ∨ d = c ∧ j = k ∧ m = n } := by
  obtain ⟨-, hold⟩ := h.recording c k n hc
  have hck : (s.roles c).key = some k := by rw [hc]; rfl
  -- No other owner has this key.
  have hother : ∀ d j, d ≠ c → (s.roles d).key = some j → j ≠ k := by
    rintro d j hd hj rfl
    exact hd (h.exclusive d c j hj hck)
  have hlook : ∀ j, j ≠ k → (s.used.insert k (n + ttl)).lookup j = s.used.lookup j := by
    intro j hj
    rw [Map.lookup_insert, if_neg hj]
  have hmove : Inv ttl { s with roles := Function.update s.roles c (.spent k) } :=
    h.move hck.symm (fun m hm => by cases hm) (fun j hj => by cases hj) fun j m hj => by cases hj
  refine { hmove with
    stored := fun d j m hl => ?_
    source := fun j e he => ?_
    holding := fun d j hr => ?_
    recording := fun d j m hr => ?_
    apart := fun d d' j m m' hd hl hl' => ?_ }
  · show (∃ e, (s.used.insert k (n + ttl)).lookup j = some e ∧ _) ∨ _
    rcases hl with hl | ⟨-, rfl, rfl⟩
    · by_cases hj : j = k
      · subst hj
        have hle := hold d m hl
        exact .inl ⟨n + ttl, by rw [Map.lookup_insert, if_pos rfl], by omega⟩
      · rw [hlook j hj]
        exact h.stored d j m hl
    · exact .inl ⟨m + ttl, by rw [Map.lookup_insert, if_pos rfl], le_refl _⟩
  · have he : (s.used.insert k (n + ttl)).lookup j = some e := he
    rw [Map.lookup_insert] at he
    split at he
    · rename_i hj
      exact ⟨c, n, .inr ⟨rfl, hj, rfl⟩⟩
    · obtain ⟨d, m, hl⟩ := h.source j e he
      exact ⟨d, m, .inl hl⟩
  · rcases role_cases id hr with ⟨-, hr⟩ | ⟨hd, hr⟩
    · cases hr
    · obtain ⟨hn, hle⟩ := h.holding d j hr
      have hj : j ≠ k := hother d j hd (congrArg Role.key hr)
      refine ⟨(hlook j hj).trans hn, ?_⟩
      rintro d' m (hl | ⟨-, rfl, -⟩)
      · exact hle d' m hl
      · exact absurd rfl hj
  · rcases role_cases id hr with ⟨-, hr⟩ | ⟨hd, hr⟩
    · cases hr
    · obtain ⟨hn, hle⟩ := h.recording d j m hr
      have hj : j ≠ k := hother d j hd (congrArg Role.key hr)
      refine ⟨(hlook j hj).trans hn, ?_⟩
      rintro d' m' (hl | ⟨-, rfl, -⟩)
      · exact hle d' m' hl
      · exact absurd rfl hj
  · rcases hl with hl | ⟨rfl, rfl, rfl⟩
    · rcases hl' with hl' | ⟨rfl, rfl, rfl⟩
      · exact h.apart d d' j m m' hd hl hl'
      · exact .inl (hold d m hl)
    · rcases hl' with hl' | ⟨rfl, -, -⟩
      · exact .inr (hold d' m' hl')
      · exact absurd rfl hd

/-- An owner that is done leaves, and its key is free, or stays reserved in a poisoned registry. -/
theorem Inv.release (h : Inv ttl s) {c : Nat} {k : κ} {inFlight : Finset κ}
    (hc : s.roles c = .spent k) (hin : ∀ j, j ∈ inFlight → j ∈ s.inFlight)
    (hkeep : ∀ j, j ≠ k → j ∈ s.inFlight → j ∈ inFlight)
    (hfree : s.poisoned = false → k ∉ inFlight) :
    Inv ttl { s with inFlight := inFlight, roles := Function.update s.roles c .out } := by
  have hck : (s.roles c).key = some k := by rw [hc]; rfl
  have hother : ∀ d j, d ≠ c → (s.roles d).key = some j → j ≠ k := by
    rintro d j hd hj rfl
    exact hd (h.exclusive d c j hj hck)
  have hkeys : ∀ d j, (Function.update s.roles c .out d).key = some j →
      d ≠ c ∧ (s.roles d).key = some j := by
    intro d j hj
    rcases role_cases Role.key hj with ⟨-, hj⟩ | hj
    · cases hj
    · exact hj
  refine { h with
    reading := fun d n hr => ?_
    owns := fun d j hj => ?_
    exclusive := fun d d' j hj hj' => h.exclusive d d' j (hkeys d j hj).2 (hkeys d' j hj').2
    owned := fun hp j hj => ?_
    holding := fun d j hr => ?_
    recording := fun d j m hr => ?_ }
  · rcases role_cases Role.reading hr with ⟨-, hr⟩ | ⟨-, hr⟩
    · cases hr
    · exact h.reading d n hr
  · obtain ⟨hd, hold⟩ := hkeys d j hj
    exact hkeep j (hother d j hd hold) (h.owns d j hold)
  · obtain ⟨d, hd⟩ := h.owned hp j (hin j hj)
    have hdc : d ≠ c := by
      rintro rfl
      rw [hck] at hd
      cases hd
      exact hfree hp hj
    exact ⟨d, by show (Function.update s.roles c _ d).key = _; rw [Function.update_of_ne hdc, hd]⟩
  · rcases role_cases id hr with ⟨-, hr⟩ | ⟨-, hr⟩
    · cases hr
    · exact h.holding d j hr
  · rcases role_cases id hr with ⟨-, hr⟩ | ⟨-, hr⟩
    · cases hr
    · exact h.recording d j m hr

theorem Step.inv (hs : Step ttl s s') (h : Inv ttl s) : Inv ttl s' := by
  have hno : ∀ n, (Role.out : Role κ).reading = some n → n ≤ s.now := fun n hn => nomatch hn
  cases hs with
  | tick d => exact h.tick d
  | poison => exact { h with owned := fun hp => nomatch hp }
  | arrive c hc =>
    refine h.move (by rw [hc]; rfl) (fun n hn => ?_) (fun k hk => nomatch hk) fun k n hk => nomatch hk
    cases hn
    exact le_refl _
  | turnAway c n hc =>
    exact h.move (by rw [hc]; rfl) hno (fun k hk => nomatch hk) fun k n hk => nomatch hk
  | refuse c n hc =>
    have hn : n ≤ s.now := h.reading c n (congrArg Role.reading hc)
    exact (h.evict hn).move (by rw [hc]; rfl) hno (fun k hk => nomatch hk) fun k n hk => nomatch hk
  | reserve c n k hc hfree hunused =>
    have hn : n ≤ s.now := h.reading c n (congrArg Role.reading hc)
    refine (h.evict hn).reserve hc hfree hunused fun d m hl => ?_
    rcases h.stored d k m hl with ⟨e, he, hle⟩ | hle
    · have hlt : e ≤ n := Map.not_mem_purge.mp hunused e he
      show m + ttl ≤ s.now
      omega
    · exact hle
  | read c k hc =>
    refine h.move (by rw [hc]; rfl) (fun n hn => ?_) (fun j hj => nomatch hj) fun j n hj => ?_
    · cases hn
      exact le_refl _
    · cases hj
      exact h.holding c k hc
  | record c k n hc =>
    have hn : n ≤ s.now := h.reading c n (congrArg Role.reading hc)
    exact (h.evict hn).record hc
  | decline c k n hc =>
    have hn : n ≤ s.now := h.reading c n (congrArg Role.reading hc)
    exact (h.evict hn).move (by rw [hc]; rfl) (fun m hm => nomatch hm) (fun j hj => nomatch hj)
      fun j m hj => nomatch hj
  | giveUp c k hc =>
    exact h.move hc.symm (fun m hm => nomatch hm) (fun j hj => nomatch hj) fun j m hj => nomatch hj
  | release c k hc =>
    exact h.release hc (fun j hj => Finset.mem_of_mem_erase hj)
      (fun j hj hm => Finset.mem_erase.mpr ⟨hj, hm⟩) fun _ => Finset.notMem_erase k s.inFlight
  | leave c k hc hp =>
    exact h.release hc (fun j hj => hj) (fun j _ hm => hm) fun hp' => by rw [hp] at hp'; cases hp'

end Lib.SingleUse
