import Mathlib.Data.List.Basic

/-!
# Runs of a deterministic step function

`Along` says that every input meets a condition in the state in which it is processed. The rules
lift what one step preserves to what every run preserves.
-/

namespace ZModel.Lib

variable {σ ι : Type*} (step : σ → ι → σ)

def run (s : σ) (inputs : List ι) : σ := inputs.foldl step s

/-- Every input of the run meets `C` in the state in which it is processed. -/
def Along (C : σ → ι → Prop) : σ → List ι → Prop
  | _, [] => True
  | s, i :: inputs => C s i ∧ Along C (step s i) inputs

instance instDecidableAlong (C : σ → ι → Prop) [∀ s i, Decidable (C s i)] :
    ∀ s inputs, Decidable (Along step C s inputs)
  | _, [] => inferInstanceAs (Decidable True)
  | s, i :: inputs =>
    have := instDecidableAlong C (step s i) inputs
    inferInstanceAs (Decidable (C s i ∧ Along step C (step s i) inputs))

@[simp] theorem run_nil (s : σ) : run step s [] = s := rfl

@[simp] theorem run_cons (s : σ) (i : ι) (inputs : List ι) :
    run step s (i :: inputs) = run step (step s i) inputs := rfl

theorem run_append (s : σ) (xs ys : List ι) : run step s (xs ++ ys) = run step (run step s xs) ys :=
  List.foldl_append

variable {C : σ → ι → Prop} {s : σ}

theorem along_append {xs ys : List ι} :
    Along step C s (xs ++ ys) ↔ Along step C s xs ∧ Along step C (run step s xs) ys := by
  induction xs generalizing s with
  | nil => simp [Along]
  | cons x xs ih => simp [Along, ih, and_assoc]

variable {inputs : List ι}

theorem Along.imp₂ {C C' D : σ → ι → Prop} (h : ∀ s i, C s i → C' s i → D s i)
    (hC : Along step C s inputs) (hC' : Along step C' s inputs) :
    Along step D s inputs := by
  induction inputs generalizing s with
  | nil => trivial
  | cons i inputs ih => exact ⟨h s i hC.1 hC'.1, ih hC.2 hC'.2⟩

theorem Along.congr {C D : σ → ι → Prop} (h : ∀ s i, C s i ↔ D s i) (s : σ) (inputs : List ι) :
    Along step C s inputs ↔ Along step D s inputs := by
  induction inputs generalizing s with
  | nil => exact Iff.rfl
  | cons i inputs ih => exact and_congr (h s i) (ih (step s i))

theorem Along.of_forall (h : ∀ s i, C s i) (s : σ) (inputs : List ι) : Along step C s inputs := by
  induction inputs generalizing s with
  | nil => trivial
  | cons i inputs ih => exact ⟨h s i, ih (step s i)⟩

theorem Along.of_mem (h : ∀ s, ∀ i ∈ inputs, C s i) (s : σ) : Along step C s inputs := by
  induction inputs generalizing s with
  | nil => trivial
  | cons i inputs ih =>
    refine ⟨h s i (.head _), ih (fun s j hj => ?_) (step s i)⟩
    exact h s j (List.mem_cons_of_mem i hj)

theorem run_invariant (Inv : σ → Prop) (hstep : ∀ s i, Inv s → C s i → Inv (step s i)) (hs : Inv s)
    (hrun : Along step C s inputs) : Inv (run step s inputs) := by
  induction inputs generalizing s with
  | nil => exact hs
  | cons i inputs ih => exact ih (hstep s i hs hrun.1) hrun.2

theorem Along.of_invariant {C D : σ → ι → Prop} (Inv : σ → Prop)
    (hstep : ∀ s i, Inv s → C s i → D s i ∧ Inv (step s i)) (hs : Inv s)
    (hrun : Along step C s inputs) : Along step D s inputs := by
  induction inputs generalizing s with
  | nil => trivial
  | cons i inputs ih =>
    obtain ⟨hD, hnext⟩ := hstep s i hs hrun.1
    exact ⟨hD, ih hnext hrun.2⟩

/-- The rule for a condition that says exactly which steps keep the invariant. -/
theorem run_invariant_iff (Inv : σ → Prop)
    (hstep : ∀ s i, Inv s → (Inv (step s i) ↔ C s i)) (hs : Inv s) (inputs : List ι) :
    (∀ before, before <+: inputs → Inv (run step s before)) ↔ Along step C s inputs := by
  induction inputs generalizing s with
  | nil =>
    refine iff_of_true (fun before hbefore => ?_) trivial
    rw [List.prefix_nil.mp hbefore]
    exact hs
  | cons i inputs ih =>
    constructor
    · intro h
      have hnext : Inv (step s i) := h [i] (List.prefix_append [i] inputs)
      refine ⟨(hstep s i hs).mp hnext, (ih hnext).mp fun before hbefore => ?_⟩
      exact h (i :: before) ((List.prefix_cons_inj i).mpr hbefore)
    rintro ⟨hC, hrest⟩ before hinit
    have hnext : Inv (step s i) := (hstep s i hs).mpr hC
    cases before with
    | nil => exact hs
    | cons j before =>
      obtain ⟨rfl, hbefore⟩ := List.cons_prefix_cons.mp hinit
      exact (ih hnext).mpr hrest before hbefore

theorem run_rel {Rel : σ → σ → Prop}
    (hstep : ∀ s s' i, Rel s s' → C s i → Rel (step s i) (step s' i)) {s s' : σ} (hs : Rel s s')
    (hrun : Along step C s inputs) :
    Rel (run step s inputs) (run step s' inputs) := by
  induction inputs generalizing s s' with
  | nil => exact hs
  | cons i inputs ih => exact ih (hstep s s' i hs hrun.1) hrun.2

theorem run_const {β : Type*} (f : σ → β) (hf : ∀ s i, C s i → f (step s i) = f s)
    (hrun : Along step C s inputs) : f (run step s inputs) = f s := by
  induction inputs generalizing s with
  | nil => rfl
  | cons i inputs ih =>
    rw [run_cons, ih hrun.2]
    exact hf s i hrun.1

end ZModel.Lib
