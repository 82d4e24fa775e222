import QuantumLink.Foundation.Op

/-! # Preconditions and postconditions

A rule for each way an operation is put together. An operation that fails stops where it is, so
a specification says what holds then as well as what holds when it returns.
-/

namespace QuantumLink.Op

variable {σ ε α β : Type} {pre : σ → Prop} {post : α → σ → Prop} {stopped : ε → σ → Prop}

/-- From a state with `pre`, the operation returns with `post` or stops with `stopped`. -/
def Meets (pre : σ → Prop) (op : Op σ ε α) (post : α → σ → Prop) (stopped : ε → σ → Prop) : Prop :=
  ∀ s, pre s →
    match op s with
    | (.ok a, t) => post a t
    | (.error e, t) => stopped e t

theorem meets_pure (a : α) (h : ∀ s, pre s → post a s) : Meets pre (pure a) post stopped := h

theorem meets_bind {n : α → Op σ ε β} {mid : α → σ → Prop}
    {post : β → σ → Prop} (hp : Meets pre op mid stopped)
    (hn : ∀ a, Meets (mid a) (n a) post stopped) : Meets pre (op >>= n) post stopped := by
  intro s hs
  have hm := hp s hs
  rw [bind_apply]
  rcases h : op s with ⟨_ | a, t⟩
  · rw [h] at hm
    exact hm
  · rw [h] at hm
    exact hn a t hm

theorem Meets.weaken {pre' : σ → Prop} {post' : α → σ → Prop}
    {stopped' : ε → σ → Prop} (h : Meets pre op post stopped) (hpr : ∀ s, pre' s → pre s)
    (hp : ∀ a s, post a s → post' a s) (ht : ∀ e s, stopped e s → stopped' e s) :
    Meets pre' op post' stopped' := by
  intro s hs
  have hm := h s (hpr s hs)
  rcases hr : op s with ⟨e | a, t⟩
  · rw [hr] at hm
    exact ht e t hm
  · rw [hr] at hm
    exact hp a t hm

theorem Meets.of_stopped {stopped' : ε → σ → Prop} (h : Meets pre op post stopped)
    (hst : ∀ e s, stopped e s → stopped' e s) : Meets pre op post stopped' :=
  h.weaken (fun _ hs => hs) (fun _ _ hs => hs) hst

theorem Meets.of_run (h : Meets pre op post stopped) (hs : pre s)
    (hr : op s = (.ok a, t)) : post a t := by
  have hm := h s hs
  rw [hr] at hm
  exact hm

end QuantumLink.Op
