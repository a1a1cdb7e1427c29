import Mathlib.Data.List.Basic

/-!
# Programs over atomic operations

A program performs operations of a shared store one at a time and may fork further jobs. A `Machine`
says what an operation does.
-/

namespace ZModel.Lib

/-- A program over the operations `Op`, the result of `o` being in `Ret o`. -/
inductive Program (Op : Type) (Ret : Op → Type) (Job α : Type) where
  | done (a : α)
  | perform (o : Op) (next : Ret o → Program Op Ret Job α)
  | fork (j : Job) (next : Program Op Ret Job α)

namespace Program

variable {Op : Type} {Ret : Op → Type} {Job α β : Type}

def bind : Program Op Ret Job α → (α → Program Op Ret Job β) → Program Op Ret Job β
  | done a, f => f a
  | perform o next, f => perform o fun x => (next x).bind f
  | fork j next, f => fork j (next.bind f)

instance : Monad (Program Op Ret Job) where
  pure := done
  bind := bind

def call (o : Op) : Program Op Ret Job (Ret o) := perform o done

def start (j : Job) : Program Op Ret Job Unit := fork j (done ())

def forEach (body : β → Program Op Ret Job Unit) : List β → Program Op Ret Job Unit
  | [] => done ()
  | x :: xs => (body x).bind fun _ => forEach body xs

def finished : Program Op Ret Job α → Bool
  | done _ => true
  | _ => false

end Program

/-- The store on which programs run. `enabled` is false while an operation has to wait. -/
structure Machine (Op : Type) (Ret : Op → Type) (Env State : Type) where
  exec : Nat → (o : Op) → Env → State → Ret o × State
  enabled : Nat → Op → State → Bool
  crash : Nat → State → State

def Program.eval {Op : Type} {Ret : Op → Type} {Job Env State α : Type}
    (M : Machine Op Ret Env State) (node : Nat) (env : Env) :
    Program Op Ret Job α → State → α × State
  | done a, s => (a, s)
  | perform o next, s =>
    (next (M.exec node o env s).1).eval M node env (M.exec node o env s).2
  | fork _ next, s => next.eval M node env s

section Eval

variable {Op : Type} {Ret : Op → Type} {Job Env State α β : Type} (M : Machine Op Ret Env State)
  (node : Nat) (env : Env)

@[simp] theorem Program.eval_call (o : Op) (s : State) :
    (call o : Program Op Ret Job (Ret o)).eval M node env s = M.exec node o env s := rfl

theorem Program.eval_bind (p : Program Op Ret Job α) (f : α → Program Op Ret Job β) (s : State) :
    (p >>= f).eval M node env s =
      (f (p.eval M node env s).1).eval M node env (p.eval M node env s).2 := by
  induction p generalizing s with
  | done a => rfl
  | perform o next ih => exact ih _ _
  | fork j next ih => exact ih _

theorem Program.eval_forEach (body : β → Program Op Ret Job Unit) (l : List β) (s : State) :
    ((forEach body l).eval M node env s).2 =
      l.foldl (fun s x => ((body x).eval M node env s).2) s := by
  induction l generalizing s with
  | nil => rfl
  | cons x xs ih =>
    show ((body x >>= fun _ => forEach body xs).eval M node env s).2 = _
    rw [eval_bind, ih, List.foldl_cons]

def Program.Only (ok : Op → Prop) : Program Op Ret Job α → Prop
  | done _ => True
  | perform o next => ok o ∧ ∀ x, (next x).Only ok
  | fork _ next => next.Only ok

variable {M node env} {ok : Op → Prop}

theorem Program.Only.call {o : Op} (h : ok o) :
    (Program.call o : Program Op Ret Job (Ret o)).Only ok :=
  ⟨h, fun _ => trivial⟩

theorem Program.Only.bind {p : Program Op Ret Job α} {f : α → Program Op Ret Job β}
    (hp : p.Only ok) (hf : ∀ a, (f a).Only ok) : (p >>= f).Only ok := by
  induction p with
  | done a => exact hf a
  | perform o next ih => exact ⟨hp.1, fun x => ih x (hp.2 x)⟩
  | fork j next ih => exact ih hp

theorem Program.Only.forEach {body : β → Program Op Ret Job Unit} {l : List β}
    (h : ∀ x ∈ l, (body x).Only ok) : (Program.forEach body l).Only ok := by
  induction l with
  | nil => trivial
  | cons x xs ih =>
    refine (h x (.head _)).bind fun _ => ?_
    exact ih fun y hy => h y (List.mem_cons_of_mem x hy)

theorem Program.Only.eval {p : Program Op Ret Job α} (hp : p.Only ok) {I : State → Prop}
    (hok : ∀ o, ok o → ∀ s, I s → I (M.exec node o env s).2) {s : State} (hs : I s) :
    I (p.eval M node env s).2 := by
  induction p generalizing s with
  | done a => exact hs
  | perform o next ih => exact ih _ (hp.2 _) (hok o hp.1 s hs)
  | fork j next ih => exact ih hp hs

end Eval

end ZModel.Lib
