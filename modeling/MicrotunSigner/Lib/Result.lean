/-!
# Results and locks

What a function of a systems language returns: a value, a typed error, or a panic. `Except` is the
`Result` of code that cannot panic; `bailIf` is its early return, and `Except.bind_eq_ok` takes a
successful sequence apart. A `Mutex` is poisoned by a panic of its holder, and a poisoned one gives
its data to no one.
-/

namespace Lib

/-- The outcome of a call that may panic. -/
inductive Outcome (ε α : Type) where
  | ok (a : α)
  | err (e : ε)
  | panic
  deriving DecidableEq, Repr

namespace Outcome

variable {ε α β : Type}

/-- The outcome of code that cannot panic. -/
def ofExcept : Except ε α → Outcome ε α
  | .ok a => .ok a
  | .error e => .err e

def isOk : Outcome ε α → Bool
  | .ok _ => true
  | _ => false

/-- Go on with the value of a successful call; an error or a panic ends the caller too. -/
def bind (x : Outcome ε α) (f : α → Outcome ε β) : Outcome ε β :=
  match x with
  | .ok a => f a
  | .err e => .err e
  | .panic => .panic

/-- The value of a successful call, in another form. -/
def map (f : α → β) (x : Outcome ε α) : Outcome ε β := x.bind fun a => .ok (f a)

theorem map_eq_ok {f : α → β} {x : Outcome ε α} {b : β} :
    x.map f = .ok b ↔ ∃ a, x = .ok a ∧ f a = b := by
  cases x <;> simp [map, bind]

@[simp] theorem isOk_bind_ok (x : Outcome ε α) (f : α → β) :
    (x.bind fun a => .ok (f a)).isOk = x.isOk := by
  cases x <;> rfl

theorem ofExcept_eq_ok {x : Except ε α} {a : α} : ofExcept x = .ok a ↔ x = .ok a := by
  cases x <;> simp [ofExcept]

end Outcome

/-- Data behind a lock that a panic of its holder poisons. -/
structure Mutex (α : Type) where
  data : α
  poisoned : Bool := false

/-- The data, unless the lock is poisoned. -/
def Mutex.lock {α : Type} (m : Mutex α) : Option α := if m.poisoned then none else some m.data

@[simp] theorem Mutex.lock_eq_some {α : Type} {m : Mutex α} {a : α} :
    m.lock = some a ↔ m.poisoned = false ∧ m.data = a := by
  unfold Mutex.lock
  cases m.poisoned <;> simp

/-- `Ok` with the value, else the error `e`. -/
def okOr {ε α : Type} (x : Option α) (e : ε) : Except ε α :=
  match x with
  | some a => .ok a
  | none => .error e

/-- Return the error `e` if `c` holds. -/
def bailIf {ε : Type} (c : Bool) (e : ε) : Except ε Unit := if c then .error e else .ok ()

/-- An error with its context. -/
def withContext {α : Type} (x : Except String α) (context : String) : Except String α :=
  x.mapError fun e => s!"{context}: {e}"

variable {ε α β : Type}

theorem Except.bind_eq_ok {x : Except ε α} {f : α → Except ε β} {b : β} :
    (x >>= f) = .ok b ↔ ∃ a, x = .ok a ∧ f a = .ok b := by
  cases x with
  | error e => constructor
               · intro h; cases h
               · rintro ⟨a, h, -⟩; cases h
  | ok a => constructor
            · intro h; exact ⟨a, rfl, h⟩
            · rintro ⟨a', h, hb⟩; cases h; exact hb

theorem Except.bind_eq_error {x : Except ε α} {f : α → Except ε β} {e : ε} :
    (x >>= f) = .error e ↔ x = .error e ∨ ∃ a, x = .ok a ∧ f a = .error e := by
  cases x with
  | error e' => constructor
                · intro h; cases h; exact .inl rfl
                · rintro (h | ⟨a, h, -⟩) <;> cases h; rfl
  | ok a => constructor
            · intro h; exact .inr ⟨a, rfl, h⟩
            · rintro (h | ⟨a', h, he⟩)
              · cases h
              · cases h; exact he

@[simp] theorem okOr_eq_ok {x : Option α} {e : ε} {a : α} : okOr x e = .ok a ↔ x = some a := by
  cases x <;> simp [okOr]

theorem okOr_eq_error {x : Option α} {e e' : ε} : okOr x e = .error e' ↔ x = none ∧ e' = e := by
  cases x <;> simp [okOr, eq_comm]

@[simp] theorem mapError_eq_ok {ε' : Type} {x : Except ε α} {f : ε → ε'} {a : α} :
    x.mapError f = .ok a ↔ x = .ok a := by
  cases x with
  | ok b =>
    change Except.ok b = Except.ok a ↔ _
    rw [Except.ok.injEq, Except.ok.injEq]
  | error e => constructor <;> intro h <;> cases h

theorem mapError_eq_error {ε' : Type} {x : Except ε α} {f : ε → ε'} {e' : ε'} :
    x.mapError f = .error e' ↔ ∃ e, x = .error e ∧ f e = e' := by
  cases x with
  | ok b => constructor
            · intro h; cases h
            · rintro ⟨_, h, -⟩; cases h
  | error e =>
    change Except.error (f e) = Except.error e' ↔ _
    rw [Except.error.injEq]
    constructor
    · intro h; exact ⟨e, rfl, h⟩
    · rintro ⟨_, h, he⟩; cases h; exact he

@[simp] theorem withContext_eq_ok {x : Except String α} {context : String} {a : α} :
    withContext x context = .ok a ↔ x = .ok a := mapError_eq_ok

@[simp] theorem bailIf_eq_ok {c : Bool} {e : ε} {u : Unit} : bailIf c e = .ok u ↔ c = false := by
  cases c <;> simp [bailIf]

theorem bailIf_eq_error {c : Bool} {e e' : ε} : bailIf c e = .error e' ↔ c = true ∧ e' = e := by
  cases c <;> simp [bailIf, eq_comm]

end Lib
