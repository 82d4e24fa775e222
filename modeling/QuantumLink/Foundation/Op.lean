import Mathlib

/-! # Fallible operations on a mutable state

An operation reads and updates one state and either returns a value or fails.
A failing operation still hands back the state it stopped in, so that what a
failure leaves behind is a theorem about the operation and not a property of
its type. `settle` is the shape where every check comes before
the first update.
-/

namespace QuantumLink

/-- A function on `&mut σ` that returns `Result<α, ε>`. -/
def Op (σ ε α : Type) : Type := σ → Except ε α × σ

namespace Op

variable {σ ε α β : Type}

instance : Monad (Op σ ε) where
  pure a := fun s => (.ok a, s)
  bind x f := fun s =>
    match x s with
    | (.ok a, t) => f a t
    | (.error e, t) => (.error e, t)

variable (x : Except ε α)

/-- A check or computation that does not touch the state. -/
def check : Op σ ε α := fun s => (x, s)

def read (f : σ → α) : Op σ ε α := fun s => (.ok (f s), s)

def update (f : σ → σ) : Op σ ε Unit := fun s => (.ok (), f s)

/-- A call on the state that returns a value and cannot fail. -/
def act (f : σ → α × σ) : Op σ ε α := fun s => (.ok (f s).1, (f s).2)

@[simp] theorem pure_apply (a : α) (s : σ) : (pure a : Op σ ε α) s = (.ok a, s) := rfl

@[simp] theorem check_apply (s : σ) : check x s = (x, s) := rfl

@[simp] theorem read_apply (f : σ → α) (s : σ) : (read f : Op σ ε α) s = (.ok (f s), s) := rfl

@[simp] theorem update_apply (f : σ → σ) (s : σ) : (update f : Op σ ε Unit) s = (.ok (), f s) := rfl

theorem bind_apply (x : Op σ ε α) (f : α → Op σ ε β) (s : σ) : (x >>= f) s = match x s with
      | (.ok a, t) => f a t
      | (.error e, t) => (.error e, t) := rfl

theorem bind_of_ok {x : Op σ ε α} {s t : σ} {a : α} (h : x s = (.ok a, t)) (f : α → Op σ ε β) :
    (x >>= f) s = f a t := by
  rw [bind_apply, h]

theorem bind_of_error {x : Op σ ε α} {s t : σ} {e : ε} (h : x s = (.error e, t))
    (f : α → Op σ ε β) : (x >>= f) s = (.error e, t) := by
  rw [bind_apply, h]

theorem bind_assoc {γ : Type} (x : Op σ ε α) (f : α → Op σ ε β) (g : β → Op σ ε γ) :
    (x >>= f) >>= g = x >>= fun a => f a >>= g := by
  funext s
  simp only [bind_apply]
  rcases x s with ⟨_ | a, t⟩ <;> rfl

theorem check_bind_ok {x : Except ε α} {a : α} (h : x = .ok a) (f : α → Op σ ε β) (s : σ) :
    (check x >>= f) s = f a s := by
  simp [bind_apply, h]

theorem check_bind_error {x : Except ε α} {e : ε} (h : x = .error e) (f : α → Op σ ε β) (s : σ) :
    (check x >>= f) s = (.error e, s) := by
  simp [bind_apply, h]

theorem check_bind_check {γ : Type} (x : Except ε α) (g : α → Except ε β) (f : β → Op σ ε γ) :
    (check x >>= fun a => check (g a) >>= f) = (check (x >>= g) >>= f : Op σ ε γ) := by
  cases x <;> rfl

@[simp] theorem read_bind (g : σ → α) (f : α → Op σ ε β) (s : σ) :
    ((read g : Op σ ε α) >>= f) s = f (g s) s := rfl

@[simp] theorem update_bind (g : σ → σ) (f : Unit → Op σ ε β) (s : σ) :
    ((update g : Op σ ε Unit) >>= f) s = f () (g s) := rfl

@[simp] theorem act_bind (g : σ → α × σ) (f : α → Op σ ε β) (s : σ) :
    ((act g : Op σ ε α) >>= f) s = f (g s).1 (g s).2 := rfl

/-! ## Operations that only read -/

def ReadOnly (x : Op σ ε α) : Prop := ∀ s, (x s).2 = s

theorem readOnly_pure (a : α) : ReadOnly (pure a : Op σ ε α) := fun _ => rfl

theorem readOnly_check : ReadOnly (check x : Op σ ε α) := fun _ => rfl

theorem readOnly_read (f : σ → α) : ReadOnly (read f : Op σ ε α) := fun _ => rfl

theorem ReadOnly.bind {x : Op σ ε α} {f : α → Op σ ε β} (hx : ReadOnly x)
    (hf : ∀ a, ReadOnly (f a)) : ReadOnly (x >>= f) := by
  intro s
  have hs := hx s
  rw [bind_apply]
  rcases h : x s with ⟨_ | a, t⟩
  · rw [h] at hs
    exact hs
  · rw [h] at hs
    show (f a t).2 = s
    rw [hf a t]
    exact hs

theorem ReadOnly.apply_eq {x : Op σ ε α} (h : ReadOnly x) (s : σ) : x s = ((x s).1, s) :=
  Prod.ext rfl (h s)

/-! ## Decide first, then commit -/

/-- Commit a decision: a refused one leaves the state as it was. -/
def settle {γ : Type} (commit : γ → σ → σ) (decision : Except ε γ) : Op σ ε Unit := fun s =>
  match decision with
  | .ok c => (.ok (), commit c s)
  | .error e => (.error e, s)

/-- A leading check may move into the decision, so an operation whose checks all
come before its first update settles one decision. -/
theorem check_bind_settle {γ : Type} {c : γ → σ → σ} {x : Except ε α}
    {f : α → Op σ ε Unit} {g : α → Except ε γ} {s : σ}
    (h : ∀ a, x = .ok a → f a s = settle c (g a) s) :
    (check x >>= f) s = settle c (x >>= g) s := by
  cases hx : x with
  | error e => rfl
  | ok a => exact h a hx

end Op

/-! ## Checks without a state -/

/-- `if !condition { return Err(error) }`. -/
def ensure {ε : Type} (condition : Prop) [Decidable condition] (error : ε) : Except ε Unit :=
  if condition then .ok () else .error error

@[simp] theorem ensure_eq_ok_iff {ε : Type} {p : Prop} [Decidable p] {e : ε} {u : Unit} :
    ensure p e = .ok u ↔ p := by
  unfold ensure
  split <;> simp_all

@[simp] theorem ensure_eq_error_iff {ε : Type} {p : Prop} [Decidable p] {e e' : ε} :
    ensure p e = .error e' ↔ ¬ p ∧ e = e' := by
  unfold ensure
  split <;> simp_all

theorem ensure_of {ε : Type} {p : Prop} [Decidable p] {e : ε} (h : p) : ensure p e = .ok () := by
  simp [h]

/-- The value of an `Option`, or the given error: `ok_or`. -/
def okOr {ε α : Type} (x : Option α) (error : ε) : Except ε α :=
  match x with
  | some a => .ok a
  | none => .error error

@[simp] theorem okOr_eq_ok_iff {ε α : Type} {x : Option α} {e : ε} {a : α} :
    okOr x e = .ok a ↔ x = some a := by
  cases x <;> simp [okOr]

theorem mapError_eq_ok_iff {ε ε' α : Type} {x : Except ε α} {f : ε → ε'} {a : α} :
    x.mapError f = .ok a ↔ x = .ok a := by
  cases x with
  | error e | ok b => simp [Except.mapError]

theorem bind_eq_ok_iff {ε α β : Type} {x : Except ε α} {f : α → Except ε β} {b : β} :
    (x >>= f) = .ok b ↔ ∃ a, x = .ok a ∧ f a = .ok b := by
  cases x <;> simp [bind, Except.bind]

end QuantumLink
