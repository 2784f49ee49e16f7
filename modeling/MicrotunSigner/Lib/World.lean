import Mathlib.Logic.Relation
import MicrotunSigner.Lib.Prog

/-!
# Programs in a shared world

The operations of a program (`Lib.Prog`) act on a state that others act on too, between any two of
its calls.

* `World.Exec`: the executions of a program among the others; an answer is part of the execution, so
  that a call may fail at any time.
* `World.Safe`: in every execution from a state, each call is one that `guarantee` allows in the
  state it meets, and the end is as `post` says; `Safe.exec` is what that says of an execution.
* `World.Triple`: `Safe` from every state of an assertion. The rules ask that the others keep the
  assertion (`World.Stable`) wherever the program waits.
* `World.recorded`: the world with the program's calls written down, for assertions about them.
-/

namespace Lib

/-- What a call with its answer does (`none`: it is not answered so), and what the others do. -/
structure World (Op : Type) (Ans : Op → Type) (σ ω : Type) where
  call : σ → Prog.Event Ans → Option σ
  other : σ → ω → Option σ

namespace World

variable {Op : Type} {Ans : Op → Type} {σ ω ε α β : Type} (w : World Op Ans σ ω)

inductive Step (Ans : Op → Type) (ω : Type) where
  | call (e : Prog.Event Ans)
  | other (o : ω)

/-- After the steps `t` the program `p`, started in the state `s`, has become `q` in the state
`u`. -/
inductive Exec : σ → Prog Op Ans ε α → List (Step Ans ω) → σ → Prog Op Ans ε α → Prop
  | here (s : σ) (p : Prog Op Ans ε α) : Exec s p [] s p
  | other {s s' u : σ} {p q : Prog Op Ans ε α} {t : List (Step Ans ω)} (o : ω)
      (happly : w.other s o = some s') (h : Exec s' p t u q) : Exec s p (.other o :: t) u q
  | call {s s' u : σ} {op : Op} {next : Ans op → Prog Op Ans ε α} {q : Prog Op Ans ε α}
      {t : List (Step Ans ω)} (ans : Ans op) (hcall : w.call s ⟨op, ans⟩ = some s')
      (h : Exec s' (next ans) t u q) : Exec s (.call op next) (.call ⟨op, ans⟩ :: t) u q

/-- What the others can make of a state. -/
def Others : σ → σ → Prop := Relation.ReflTransGen fun s s' => ∃ o, w.other s o = some s'

/-- The others keep the assertion. -/
def Stable (P : σ → Prop) : Prop := ∀ s o s', P s → w.other s o = some s' → P s'

variable {w} {P P' : σ → Prop}

theorem Stable.others (hP : w.Stable P) {s s' : σ} (hs : P s) (h : w.Others s s') : P s' := by
  induction h with
  | refl => exact hs
  | tail _ hlast ih =>
    obtain ⟨o, ho⟩ := hlast
    exact hP _ o _ ih ho

theorem Stable.and (hP : w.Stable P) (hP' : w.Stable P') : w.Stable fun s => P s ∧ P' s :=
  fun s o s' hs ho => ⟨hP s o s' hs.1 ho, hP' s o s' hs.2 ho⟩

variable (w) (guarantee : σ → Op → Prop) (post : Except ε α → σ → Prop)

def Safe : Prog Op Ans ε α → σ → Prop
  | .done a, s => ∀ s', w.Others s s' → post (.ok a) s'
  | .fail e, s => ∀ s', w.Others s s' → post (.error e) s'
  | .call op next, s => ∀ s', w.Others s s' → guarantee s' op ∧
      ∀ ans s'', w.call s' ⟨op, ans⟩ = some s'' → Safe (next ans) s''

def Triple (P : σ → Prop) (p : Prog Op Ans ε α) : Prop := ∀ s, P s → w.Safe guarantee post p s

variable {w guarantee post} {post' : Except ε α → σ → Prop} {p q : Prog Op Ans ε α} {s u : σ}

theorem Safe.others (hp : w.Safe guarantee post p s) (h : w.Others s u) :
    w.Safe guarantee post p u := by
  cases p with
  | done a => exact fun s' hs' => hp s' (h.trans hs')
  | fail e => exact fun s' hs' => hp s' (h.trans hs')
  | call op next => exact fun s' hs' => hp s' (h.trans hs')

/-- What is left of a safe program is safe, in every execution. -/
theorem Safe.exec {t : List (Step Ans ω)} (hp : w.Safe guarantee post p s)
    (h : w.Exec s p t u q) : w.Safe guarantee post q u := by
  induction h with
  | here s p => exact hp
  | other o ho _ ih => exact ih (hp.others (.single ⟨o, ho⟩))
  | call ans hcall _ ih => exact ih ((hp _ .refl).2 ans _ hcall)

theorem safe_call {op : Op} {next : Ans op → Prog Op Ans ε α} :
    w.Safe guarantee post (.call op next) s ↔ ∀ s', w.Others s s' → guarantee s' op ∧
      ∀ ans s'', w.call s' ⟨op, ans⟩ = some s'' → w.Safe guarantee post (next ans) s'' := Iff.rfl

/-! ## The rules -/

theorem Triple.mono (hp : w.Triple guarantee post P p) (hP : ∀ s, P' s → P s) :
    w.Triple guarantee post P' p :=
  fun s hs => hp s (hP s hs)

theorem triple_pure {a : α} (hP : w.Stable P) (hpost : ∀ s, P s → post (.ok a) s) :
    w.Triple guarantee post P (pure a : Prog Op Ans ε α) :=
  fun _ hs s' h => hpost s' (hP.others hs h)

theorem triple_fail {e : ε} (hP : w.Stable P) (hpost : ∀ s, P s → post (.error e) s) :
    w.Triple guarantee post P (.fail e : Prog Op Ans ε α) :=
  fun _ hs s' h => hpost s' (hP.others hs h)

/-- A program that never calls is its result. -/
theorem triple_liftM {x : Except ε α} (hP : w.Stable P) (hpost : ∀ s, P s → post x s) :
    w.Triple guarantee post P (liftM x : Prog Op Ans ε α) := by
  cases x with
  | ok a => exact triple_pure hP hpost
  | error e => exact triple_fail hP hpost

theorem triple_op {o : Op} {post : Except ε (Ans o) → σ → Prop} (hP : w.Stable P)
    (hg : ∀ s, P s → guarantee s o)
    (hpost : ∀ ans s s' u, P s → w.call s ⟨o, ans⟩ = some s' → w.Others s' u → post (.ok ans) u) :
    w.Triple guarantee post P (Prog.op o : Prog Op Ans ε (Ans o)) :=
  fun _ hs s' h => ⟨hg s' (hP.others hs h), fun ans _ hcall u hu =>
    hpost ans s' _ u (hP.others hs h) hcall hu⟩

/-- A call, and the rest after each of its answers, from what the call has left (`Q`). -/
theorem triple_op_bind {o : Op} {post : Except ε β → σ → Prop} {Q : Ans o → σ → Prop}
    {f : Ans o → Prog Op Ans ε β} (hP : w.Stable P) (hg : ∀ s, P s → guarantee s o)
    (hQ : ∀ ans s s', P s → w.call s ⟨o, ans⟩ = some s' → Q ans s')
    (hf : ∀ ans, w.Triple guarantee post (Q ans) (f ans)) :
    w.Triple guarantee post P (Prog.op o >>= f) :=
  fun _ hs s' h => ⟨hg s' (hP.others hs h), fun ans s'' hcall =>
    hf ans s'' (hQ ans s' s'' (hP.others hs h) hcall)⟩

/-- A sequence is safe if its first part is, and its second from where the first ends. -/
theorem Safe.bind {post : Except ε β → σ → Prop} {M : Except ε α → σ → Prop}
    {f : α → Prog Op Ans ε β} (hp : w.Safe guarantee M p s)
    (hf : ∀ a u, M (.ok a) u → w.Safe guarantee post (f a) u)
    (herror : ∀ e u, M (.error e) u → post (.error e) u) :
    w.Safe guarantee post (p >>= f) s := by
  induction p generalizing s with
  | done a => exact hf a s (hp s .refl)
  | fail e => exact fun s' hs' => herror e s' (hp s' hs')
  | call op next ih =>
    refine safe_call.mpr fun s' hs' => ⟨(hp s' hs').1, fun ans s'' hcall => ?_⟩
    exact ih ans ((hp s' hs').2 ans s'' hcall)

theorem triple_bind {post : Except ε β → σ → Prop} {M : Except ε α → σ → Prop}
    {f : α → Prog Op Ans ε β} (hp : w.Triple guarantee M P p)
    (hf : ∀ a, w.Triple guarantee post (M (.ok a)) (f a))
    (herror : ∀ e s, M (.error e) s → post (.error e) s) :
    w.Triple guarantee post P (p >>= f) :=
  fun s hs => (hp s hs).bind hf herror

/-- A step that cannot call: what is left is the rest, or its error. -/
theorem triple_liftM_bind {post : Except ε β → σ → Prop} {x : Except ε α}
    {f : α → Prog Op Ans ε β} (hP : w.Stable P)
    (herror : ∀ e, x = .error e → ∀ s, P s → post (.error e) s)
    (hf : ∀ a, x = .ok a → w.Triple guarantee post P (f a)) :
    w.Triple guarantee post P (liftM x >>= f) := by
  cases x with
  | ok a => exact hf a rfl
  | error e => exact triple_fail hP (herror e rfl)

/-! ## Calls written down -/

/-- The calls among the steps. -/
def calls : List (Step Ans ω) → List (Prog.Event Ans)
  | [] => []
  | .call e :: t => e :: calls t
  | .other _ :: t => calls t

variable (w)

/-- The world, and the calls of the program with their answers. -/
def recorded : World Op Ans (σ × List (Prog.Event Ans)) ω where
  call s e := (w.call s.1 e).map fun s' => (s', s.2 ++ [e])
  other s o := (w.other s.1 o).map fun s' => (s', s.2)

variable {w}

theorem Exec.recorded {t : List (Step Ans ω)} (h : w.Exec s p t u q)
    (before : List (Prog.Event Ans)) :
    w.recorded.Exec (s, before) p t (u, before ++ calls t) q := by
  induction h generalizing before with
  | here s p =>
    rw [calls, List.append_nil]
    exact .here _ _
  | other o ho _ ih => exact .other o (Option.map_eq_some_iff.mpr ⟨_, ho, rfl⟩) (ih before)
  | call ans hcall _ ih =>
    have hrest := ih (before ++ [⟨_, ans⟩])
    rw [List.append_assoc] at hrest
    exact .call ans (Option.map_eq_some_iff.mpr ⟨_, hcall, rfl⟩) hrest

/-- The others write nothing down. -/
theorem stable_recorded {P : List (Prog.Event Ans) → σ → Prop} (hP : ∀ h, w.Stable (P h)) :
    w.recorded.Stable fun s => P s.2 s.1 := by
  rintro ⟨s, h⟩ o s' hs hother
  obtain ⟨s'', ho, rfl⟩ := Option.map_eq_some_iff.mp hother
  exact hP h s o s'' hs ho

/-- A call, and the rest after each of its answers, with the call written down. -/
theorem triple_recorded_bind {guarantee : σ × List (Prog.Event Ans) → Op → Prop} {o : Op}
    {P : List (Prog.Event Ans) → σ → Prop} {Q : Ans o → List (Prog.Event Ans) → σ → Prop}
    {post : Except ε β → σ × List (Prog.Event Ans) → Prop} {f : Ans o → Prog Op Ans ε β}
    (hP : ∀ h, w.Stable (P h)) (hg : ∀ s h, P h s → guarantee (s, h) o)
    (hQ : ∀ ans s s' h, P h s → w.call s ⟨o, ans⟩ = some s' → Q ans (h ++ [⟨o, ans⟩]) s')
    (hf : ∀ ans, w.recorded.Triple guarantee post (fun s => Q ans s.2 s.1) (f ans)) :
    w.recorded.Triple guarantee post (fun s => P s.2 s.1) (Prog.op o >>= f) := by
  refine triple_op_bind (Q := fun ans s => Q ans s.2 s.1) (stable_recorded hP)
    (fun s hs => hg s.1 s.2 hs) ?_ hf
  rintro ans ⟨s, h⟩ u hs hu
  obtain ⟨s', hcall, rfl⟩ := Option.map_eq_some_iff.mp hu
  exact hQ ans s s' h hs hcall

end World

end Lib
