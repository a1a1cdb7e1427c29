import Mathlib.Data.Option.Basic

/-!
# Transactions

A transaction is a fallible computation of the next state; one that fails leaves the state it
started from.
-/

namespace ZModel.Lib

universe u

variable {ε σ : Type*} {α β : Type u}

theorem bind_eq_ok {x : Except ε α} {f : α → Except ε β} {b : β} :
    (x >>= f) = .ok b ↔ ∃ a, x = .ok a ∧ f a = .ok b := by
  cases x with
  | error e =>
    simp only [reduceCtorEq, false_and, exists_false, iff_false]
    exact fun h => nomatch h
  | ok a =>
    simp only [Except.ok.injEq, exists_eq_left']
    exact Iff.rfl

def commit (s : σ) : Except ε σ → σ
  | .ok s' => s'
  | .error _ => s

theorem commit_rule {P : σ → Prop} {s : σ} {tx : Except ε σ} (hold : P s)
    (hnew : ∀ s', tx = .ok s' → P s') : P (commit s tx) := by
  cases tx with
  | error e => exact hold
  | ok s' => exact hnew s' rfl

end ZModel.Lib
