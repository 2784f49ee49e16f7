import Mathlib.Data.List.Basic

/-!
# Programs that call their environment

A program of a type `Prog Op Ans ε α` calls operations and goes on with their answers until it is
done or fails. Nothing is said here of the operations: a network, a file system or a user may answer
as it likes.

* `Prog.Reach`: what is left of a program after some calls and their answers; `Prog.run`: the calls
  that it makes in an environment.
* `Prog.Holds`: a program's contract. It makes only calls that the calls and answers before them
  justify (`guarantee`) and ends as `post` says, as long as the answers are what it relies on
  (`rely`). `holds_bind` and `holds_call` take a program apart; `Holds.reach` is what a contract
  says of an execution.
-/

namespace Lib

inductive Prog (Op : Type) (Ans : Op → Type) (ε α : Type) where
  | done (a : α)
  | fail (e : ε)
  | call (op : Op) (next : Ans op → Prog Op Ans ε α)

/-- A call and its answer. -/
structure Prog.Event {Op : Type} (Ans : Op → Type) where
  op : Op
  ans : Ans op

namespace Prog

variable {Op : Type} {Ans : Op → Type} {ε α β : Type}

def bind : Prog Op Ans ε α → (α → Prog Op Ans ε β) → Prog Op Ans ε β
  | done a, f => f a
  | fail e, _ => fail e
  | call op next, f => call op fun ans => (next ans).bind f

instance : Monad (Prog Op Ans ε) where
  pure := done
  bind := bind

def ofExcept : Except ε α → Prog Op Ans ε α
  | .ok a => done a
  | .error e => fail e

instance : MonadLift (Except ε) (Prog Op Ans ε) where
  monadLift := ofExcept

/-- The operation alone. -/
def op (op : Op) : Prog Op Ans ε (Ans op) := call op done

/-- After the calls of the history `t`, with their answers, `q` is left of `p`. -/
inductive Reach : Prog Op Ans ε α → List (Event Ans) → Prog Op Ans ε α → Prop
  | here (p : Prog Op Ans ε α) : Reach p [] p
  | call {op : Op} {next : Ans op → Prog Op Ans ε α} {t : List (Event Ans)}
      {q : Prog Op Ans ε α} (ans : Ans op) (h : Reach (next ans) t q) :
      Reach (call op next) (⟨op, ans⟩ :: t) q

/-- The calls of a program and its result, in an environment that answers by the calls before. -/
def run (answer : List (Event Ans) → (op : Op) → Ans op) :
    List (Event Ans) → Prog Op Ans ε α → List (Event Ans) × Except ε α
  | _, done a => ([], .ok a)
  | _, fail e => ([], .error e)
  | h, call op next =>
    let e : Event Ans := ⟨op, answer h op⟩
    let rest := (next e.ans).run answer (h ++ [e])
    (e :: rest.1, rest.2)

/-- In any environment a program comes to its end. -/
theorem reach_run (answer : List (Event Ans) → (op : Op) → Ans op) (h : List (Event Ans))
    (p : Prog Op Ans ε α) : Reach p (p.run answer h).1 (ofExcept (p.run answer h).2) := by
  induction p generalizing h with
  | done a => exact .here _
  | fail e => exact .here _
  | call op next ih => exact .call _ (ih _ _)

/-- What was left of the program before one of the calls of a history: that call. -/
theorem Reach.at_call {p q : Prog Op Ans ε α} {t u : List (Event Ans)} {e : Event Ans}
    (h : Reach p (t ++ e :: u) q) : ∃ next, Reach p t (Prog.call e.op next) := by
  induction t generalizing p with
  | nil =>
    cases h with
    | call ans h => exact ⟨_, .here _⟩
  | cons e' t ih =>
    cases h with
    | call ans h =>
      obtain ⟨next, hnext⟩ := ih h
      exact ⟨next, .call ans hnext⟩

/-- What a program relies on, and what it guarantees of each call: both given the calls before. -/
structure Contract (Op : Type) (Ans : Op → Type) where
  rely : List (Event Ans) → (op : Op) → Ans op → Prop
  guarantee : List (Event Ans) → Op → Prop

namespace Contract

variable (c : Contract Op Ans)

/-- The answers after the history `h` are what is relied on. -/
def Kept : List (Event Ans) → List (Event Ans) → Prop
  | _, [] => True
  | h, e :: t => c.rely h e.op e.ans ∧ Kept (h ++ [e]) t

variable {c} in
/-- What relies on nothing is always kept. -/
theorem kept_of_rely (hrely : ∀ h o ans, c.rely h o ans) (h t : List (Event Ans)) : c.Kept h t := by
  induction t generalizing h with
  | nil => trivial
  | cons e t ih => exact ⟨hrely h e.op e.ans, ih _⟩

end Contract

variable (c : Contract Op Ans)

/-- After the history `h` the program keeps the contract and ends as `post` says. -/
def Holds (post : List (Event Ans) → Except ε α → Prop) :
    List (Event Ans) → Prog Op Ans ε α → Prop
  | h, done a => post h (.ok a)
  | h, fail e => post h (.error e)
  | h, call op next =>
    c.guarantee h op ∧ ∀ ans, c.rely h op ans → (next ans).Holds post (h ++ [⟨op, ans⟩])

variable {c} {post post' : List (Event Ans) → Except ε α → Prop} {h t : List (Event Ans)}
  {p q : Prog Op Ans ε α}

theorem holds_call {o : Op} {next : Ans o → Prog Op Ans ε α} :
    (call o next).Holds c post h ↔
      c.guarantee h o ∧ ∀ ans, c.rely h o ans → (next ans).Holds c post (h ++ [⟨o, ans⟩]) := Iff.rfl

@[simp] theorem holds_pure {a : α} : (pure a : Prog Op Ans ε α).Holds c post h ↔ post h (.ok a) :=
  Iff.rfl

@[simp] theorem holds_fail {e : ε} :
    (fail e : Prog Op Ans ε α).Holds c post h ↔ post h (.error e) := Iff.rfl

@[simp] theorem holds_op {o : Op} {post : List (Event Ans) → Except ε (Ans o) → Prop} :
    (op o : Prog Op Ans ε (Ans o)).Holds c post h ↔
      c.guarantee h o ∧ ∀ ans, c.rely h o ans → post (h ++ [⟨o, ans⟩]) (.ok ans) := Iff.rfl

@[simp] theorem holds_ofExcept {x : Except ε α} :
    (ofExcept x : Prog Op Ans ε α).Holds c post h ↔ post h x := by
  cases x <;> rfl

@[simp] theorem holds_liftM {x : Except ε α} :
    (liftM x : Prog Op Ans ε α).Holds c post h ↔ post h x := holds_ofExcept

/-- What a sequence has to show of its second part, when the first has ended. -/
def Then (c : Contract Op Ans) (post : List (Event Ans) → Except ε β → Prop)
    (f : α → Prog Op Ans ε β) (h : List (Event Ans)) : Except ε α → Prop
  | .ok a => (f a).Holds c post h
  | .error e => post h (.error e)

@[simp] theorem then_ok {post : List (Event Ans) → Except ε β → Prop} {f : α → Prog Op Ans ε β}
    {a : α} : Then c post f h (.ok a) ↔ (f a).Holds c post h := Iff.rfl

@[simp] theorem then_error {post : List (Event Ans) → Except ε β → Prop}
    {f : α → Prog Op Ans ε β} {e : ε} : Then c post f h (.error e) ↔ post h (.error e) := Iff.rfl

/-- A sequence keeps its contract if the first part does, and ends where the second one does. -/
theorem holds_bind {post : List (Event Ans) → Except ε β → Prop} {f : α → Prog Op Ans ε β} :
    (p >>= f).Holds c post h ↔ p.Holds c (Then c post f) h := by
  induction p generalizing h with
  | done a => exact Iff.rfl
  | fail e => exact Iff.rfl
  | call op next ih => exact and_congr_right fun _ => forall₂_congr fun ans _ => ih ans

/-- A step that cannot call: what is left is the rest, or its error. -/
theorem holds_liftM_bind {post : List (Event Ans) → Except ε β → Prop} {x : Except ε α}
    {f : α → Prog Op Ans ε β} :
    (liftM x >>= f).Holds c post h ↔
      (∀ e, x = .error e → post h (.error e)) ∧ ∀ a, x = .ok a → (f a).Holds c post h := by
  rw [holds_bind, holds_liftM]
  cases x with
  | ok a => simp
  | error e => simp

/-- A call, and the rest after each of its answers. -/
theorem holds_op_bind {post : List (Event Ans) → Except ε β → Prop} {o : Op}
    {f : Ans o → Prog Op Ans ε β} :
    (op o >>= f).Holds c post h ↔
      c.guarantee h o ∧ ∀ ans, c.rely h o ans → (f ans).Holds c post (h ++ [⟨o, ans⟩]) := by
  rw [holds_bind, holds_op]
  exact Iff.rfl

theorem Holds.mono (hp : p.Holds c post h)
    (himp : ∀ t r, post t r → post' t r) : p.Holds c post' h := by
  induction p generalizing h with
  | done a => exact himp _ _ hp
  | fail e => exact himp _ _ hp
  | call op next ih => exact ⟨hp.1, fun ans hans => ih ans (hp.2 ans hans)⟩

/-- What a contract says of an execution: what is left of the program keeps it. -/
theorem Holds.reach (hp : p.Holds c post h) (hr : Reach p t q) (ht : c.Kept h t) :
    q.Holds c post (h ++ t) := by
  induction hr generalizing h with
  | here p => rwa [List.append_nil]
  | call ans _ ih =>
    have := ih (hp.2 ans ht.1) ht.2
    rwa [List.append_assoc] at this

-- The rules take a contract apart; nothing needs to run the program for it.
attribute [irreducible] Holds

end Prog

end Lib
