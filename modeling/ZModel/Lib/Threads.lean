import Mathlib.Algebra.BigOperators.Group.List.Basic
import ZModel.Lib.Program
import ZModel.Lib.Run

/-!
# Threads on several nodes

A move starts a job, lets one thread perform its next operation, or crashes a node. `Safe` is the
proof rule for one thread, which owns resources of a commutative monoid; `step_holds` lifts it to
every move.
-/

namespace ZModel.Lib

variable {Op : Type} {Ret : Op → Type} {Job Env State R : Type}

structure Thread (Op : Type) (Ret : Op → Type) (Job : Type) where
  node : Nat
  program : Program Op Ret Job Unit

structure System (Op : Type) (Ret : Op → Type) (Job State : Type) where
  state : State
  threads : List (Thread Op Ret Job)

inductive Move (Job Env : Type) where
  | start (node : Nat) (j : Job)
  | run (i : Nat) (env : Env)
  | crash (node : Nat)

def System.step (M : Machine Op Ret Env State) (program : Job → Program Op Ret Job Unit)
    (sys : System Op Ret Job State) : Move Job Env → System Op Ret Job State
  | .start node j => { sys with threads := sys.threads ++ [⟨node, program j⟩] }
  | .run i env =>
    match sys.threads[i]? with
    | some ⟨node, .perform o next⟩ =>
      if M.enabled node o sys.state then
        ⟨(M.exec node o env sys.state).2,
          sys.threads.set i ⟨node, next (M.exec node o env sys.state).1⟩⟩
      else sys
    | some ⟨node, .fork j next⟩ =>
      { sys with threads := sys.threads.set i ⟨node, next⟩ ++ [⟨node, program j⟩] }
    | _ => sys
  | .crash node =>
    ⟨M.crash node sys.state, sys.threads.filter fun t => t.node ≠ node⟩

def System.Quiet (sys : System Op Ret Job State) : Prop :=
  ∀ t ∈ sys.threads, t.program.finished = true

instance (sys : System Op Ret Job State) : Decidable sys.Quiet :=
  inferInstanceAs (Decidable (∀ t ∈ sys.threads, _))

structure Conditions (Op : Type) (Ret : Op → Type) (Job Env State : Type) where
  start : Nat → Job → Prop
  run : Nat → Op → Env → State → Prop
  crash : Nat → System Op Ret Job State → Prop

def Conditions.Meets (C : Conditions Op Ret Job Env State) (sys : System Op Ret Job State) :
    Move Job Env → Prop
  | .start node j => C.start node j
  | .run i env =>
    match sys.threads[i]? with
    | some ⟨node, .perform o _⟩ => C.run node o env sys.state
    | _ => True
  | .crash node => C.crash node sys

instance (C : Conditions Op Ret Job Env State) [∀ node j, Decidable (C.start node j)]
    [∀ node o env s, Decidable (C.run node o env s)] [∀ node sys, Decidable (C.crash node sys)]
    (sys : System Op Ret Job State) : ∀ move, Decidable (C.Meets sys move)
  | .start node j => inferInstanceAs (Decidable (C.start node j))
  | .run i env =>
    match h : sys.threads[i]? with
    | some ⟨node, .perform o next⟩ =>
      decidable_of_iff (C.run node o env sys.state) (by simp [Conditions.Meets, h])
    | some ⟨node, .done a⟩ => isTrue (by simp [Conditions.Meets, h])
    | some ⟨node, .fork j next⟩ => isTrue (by simp [Conditions.Meets, h])
    | none => isTrue (by simp [Conditions.Meets, h])
  | .crash node => inferInstanceAs (Decidable (C.crash node sys))

/-- A program logic: the invariant over the store and all resources, the resources a job starts and
ends with, those a thread may own, and the check on operations. -/
structure Logic (Op : Type) (Job Env State R : Type) where
  Inv : State → R → Prop
  pre : Nat → Job → R → Prop
  post : Nat → R → Prop
  held : Nat → Option Op → R → Prop
  check : Nat → Op → Env → State → Prop

section Rules

variable [AddCommMonoid R] (M : Machine Op Ret Env State) (C : Conditions Op Ret Job Env State)
  (L : Logic Op Job Env State R)

/-- A program that is safe with the resources it is given and ends in `Q`. -/
def Safe (node : Nat) {α : Type} : Program Op Ret Job α → R → (α → R → Prop) → Prop
  | .done a, r, Q => Q a r
  | .perform o next, r, Q =>
    L.held node (some o) r ∧
      ∀ env s rest, C.run node o env s → M.enabled node o s → L.Inv s (r + rest) →
        L.check node o env s ∧ ∃ r', L.Inv (M.exec node o env s).2 (r' + rest) ∧
          Safe node (next (M.exec node o env s).1) r' Q
  | .fork j next, r, Q =>
    L.held node none r ∧ ∃ r₁ r₂, r = r₁ + r₂ ∧ L.pre node j r₁ ∧ Safe node next r₂ Q

variable {M C L} {node : Nat} {α β : Type} {r : R} {p : Program Op Ret Job α}

theorem Safe.mono {Q Q' : α → R → Prop} (h : Safe M C L node p r Q)
    (hQ : ∀ a r', Q a r' → Q' a r') : Safe M C L node p r Q' := by
  induction p generalizing r with
  | done a => exact hQ a r h
  | perform o next ih =>
    refine ⟨h.1, fun env s rest hrun hen hinv => ?_⟩
    obtain ⟨hcheck, r', hinv', hnext⟩ := h.2 env s rest hrun hen hinv
    exact ⟨hcheck, r', hinv', ih _ hnext⟩
  | fork j next ih =>
    obtain ⟨hheld, r₁, r₂, hr, hpre, hnext⟩ := h
    exact ⟨hheld, r₁, r₂, hr, hpre, ih hnext⟩

variable {f : α → Program Op Ret Job β}

theorem Safe.bind {Q : α → R → Prop} {Q' : β → R → Prop} (hp : Safe M C L node p r Q)
    (hf : ∀ a r', Q a r' → Safe M C L node (f a) r' Q') :
    Safe M C L node (p >>= f) r Q' := by
  induction p generalizing r with
  | done a => exact hf a r hp
  | perform o next ih =>
    refine ⟨hp.1, fun env s rest hrun hen hinv => ?_⟩
    obtain ⟨hcheck, r', hinv', hnext⟩ := hp.2 env s rest hrun hen hinv
    exact ⟨hcheck, r', hinv', ih _ hnext⟩
  | fork j next ih =>
    obtain ⟨hheld, r₁, r₂, hr, hpre, hnext⟩ := hp
    exact ⟨hheld, r₁, r₂, hr, hpre, ih hnext⟩

theorem Safe.seq {r' : α → R} {Q : β → R → Prop} (hp : Safe M C L node p r fun a r₁ => r₁ = r' a)
    (hf : ∀ a, Safe M C L node (f a) (r' a) Q) : Safe M C L node (p >>= f) r Q :=
  hp.bind fun a _ hr => hr ▸ hf a

theorem Safe.andThen {r' : α → R}
    {S : α → Prop} {Q : β → R → Prop} (hp : Safe M C L node p r fun a r₁ => r₁ = r' a ∧ S a)
    (hf : ∀ a, S a → Safe M C L node (f a) (r' a) Q) : Safe M C L node (p >>= f) r Q :=
  hp.bind fun a _ hr => hr.1 ▸ hf a hr.2

theorem Safe.call {o : Op} {Q : Ret o → R → Prop} (hheld : L.held node (some o) r)
    (h : ∀ env s rest, C.run node o env s → M.enabled node o s → L.Inv s (r + rest) →
      L.check node o env s ∧ ∃ r', L.Inv (M.exec node o env s).2 (r' + rest) ∧
        Q (M.exec node o env s).1 r') :
    Safe M C L node (Program.call o) r Q :=
  ⟨hheld, h⟩

theorem Safe.forEach {body : β → Program Op Ret Job Unit} {l : List β} {I : R → Prop} (hr : I r)
    (h : ∀ x ∈ l, ∀ r, I r → Safe M C L node (body x) r fun _ r' => I r') :
    Safe M C L node (Program.forEach body l) r fun _ r' => I r' := by
  induction l generalizing r with
  | nil => exact hr
  | cons x xs ih =>
    refine (h x (.head _) r hr).bind fun _ r' hr' => ?_
    exact ih hr' fun y hy => h y (List.mem_cons_of_mem x hy)

variable (M C L) in
def SafeThread (t : Thread Op Ret Job) (r : R) : Prop :=
  Safe M C L t.node t.program r fun _ => L.post t.node

variable (M C L) in
/-- The threads own resources with which they are safe, and the invariant holds for the sum. -/
def Holds (sys : System Op Ret Job State) : Prop :=
  ∃ rs, List.Forall₂ (SafeThread M C L) sys.threads rs ∧ L.Inv sys.state rs.sum

variable (M C L) in
/-- Jobs are safe with the resources they are given, what the threads of a crashed node own can be
dropped, and the crash keeps the invariant. -/
structure Sound (program : Job → Program Op Ret Job Unit) : Prop where
  job : ∀ node j r, L.pre node j r → SafeThread M C L ⟨node, program j⟩ r
  start : ∀ node j, C.start node j → L.pre node j 0
  drop : ∀ node sys, C.crash node sys → ∀ t ∈ sys.threads, t.node = node →
    ∀ r, SafeThread M C L t r → ∀ s rest, L.Inv s (r + rest) → L.Inv s rest
  lost : ∀ node sys, C.crash node sys → ∀ r, L.Inv sys.state r → L.Inv (M.crash node sys.state) r

variable (M L) in
def Checked (sys : System Op Ret Job State) : Move Job Env → Prop
  | .run i env =>
    match sys.threads[i]? with
    | some ⟨node, .perform o _⟩ => M.enabled node o sys.state → L.check node o env sys.state
    | _ => True
  | _ => True

section Pool

variable {T : Type} {P : T → R → Prop}

theorem forall₂_focus {ts : List T} {rs : List R} (h : List.Forall₂ P ts rs) {i : Nat} {t : T}
    (ht : ts[i]? = some t) :
    ∃ r rest, P t r ∧ rs.sum = r + rest ∧
      ∀ t' r', P t' r' → ∃ rs', List.Forall₂ P (ts.set i t') rs' ∧ rs'.sum = r' + rest := by
  induction h generalizing i with
  | nil => simp at ht
  | @cons u ru us rus hu hus ih =>
    cases i with
    | zero =>
      obtain rfl : u = t := by simpa using ht
      exact ⟨ru, rus.sum, hu, List.sum_cons, fun t' r' ht' =>
        ⟨r' :: rus, .cons ht' hus, List.sum_cons⟩⟩
    | succ i =>
      obtain ⟨r, rest, hr, hsum, hset⟩ := ih (by simpa using ht)
      refine ⟨r, ru + rest, hr, ?_, fun t' r' ht' => ?_⟩
      · rw [List.sum_cons, hsum, add_left_comm]
      · obtain ⟨rs', hrs', hsum'⟩ := hset t' r' ht'
        exact ⟨ru :: rs', .cons hu hrs', by rw [List.sum_cons, hsum', add_left_comm]⟩

theorem forall₂_filter {Inv : R → Prop} (keep : T → Bool) {ts : List T} {rs : List R}
    (h : List.Forall₂ P ts rs)
    (hdrop : ∀ t ∈ ts, keep t = false → ∀ r, P t r → ∀ rest, Inv (r + rest) → Inv rest)
    (extra : R) (hinv : Inv (rs.sum + extra)) :
    ∃ rs', List.Forall₂ P (ts.filter keep) rs' ∧ Inv (rs'.sum + extra) := by
  induction h generalizing extra with
  | nil => exact ⟨[], .nil, hinv⟩
  | @cons u ru us rus hu hus ih =>
    rw [List.sum_cons, add_assoc] at hinv
    have hdrop' := fun t ht => hdrop t (List.mem_cons_of_mem u ht)
    cases hkeep : keep u with
    | false =>
      rw [List.filter_cons_of_neg (by simp [hkeep])]
      exact ih hdrop' extra (hdrop u (.head _) hkeep ru hu _ hinv)
    | true =>
      rw [List.filter_cons_of_pos hkeep]
      rw [add_left_comm] at hinv
      obtain ⟨rs', hrs', hinv'⟩ := ih hdrop' _ hinv
      refine ⟨ru :: rs', .cons hu hrs', ?_⟩
      rwa [List.sum_cons, add_assoc, add_left_comm]

omit [AddCommMonoid R] in
theorem forall₂_right {Q : R → Prop} {ts : List T} {rs : List R} (h : List.Forall₂ P ts rs)
    (hQ : ∀ t ∈ ts, ∀ r, P t r → Q r) : ∀ r ∈ rs, Q r := by
  induction h with
  | nil => simp
  | @cons t r ts rs ht _ ih =>
    rw [List.forall_mem_cons]
    exact ⟨hQ t (.head _) r ht, ih fun t' ht' => hQ t' (List.mem_cons_of_mem t ht')⟩

end Pool

variable {program : Job → Program Op Ret Job Unit} {sys : System Op Ret Job State}

section

variable (h : Holds M C L sys) (hs : Sound M C L program)

include h hs

theorem Holds.run {i : Nat} {env : Env} (hmeets : C.Meets sys (.run i env)) :
    Checked M L sys (.run i env) ∧ Holds M C L (sys.step M program (.run i env)) := by
  obtain ⟨rs, hsafe, hinv⟩ := h
  cases ht : sys.threads[i]? with
  | none => simpa [Checked, System.step, ht] using ⟨rs, hsafe, hinv⟩
  | some t =>
    obtain ⟨r, rest, hr, hsum, hset⟩ := forall₂_focus hsafe ht
    rw [hsum] at hinv
    obtain ⟨node, p⟩ := t
    cases p with
    | done a => simpa [Checked, System.step, ht] using ⟨rs, hsafe, hsum ▸ hinv⟩
    | perform o next =>
      simp only [Conditions.Meets, ht] at hmeets
      simp only [Checked, System.step, ht]
      by_cases hen : M.enabled node o sys.state = true
      · obtain ⟨hcheck, r', hinv', hnext⟩ := hr.2 env sys.state rest hmeets hen hinv
        obtain ⟨rs', hrs', hsum'⟩ := hset ⟨node, next (M.exec node o env sys.state).1⟩ r' hnext
        rw [if_pos hen]
        exact ⟨fun _ => hcheck, rs', hrs', hsum' ▸ hinv'⟩
      · rw [if_neg hen]
        exact ⟨fun h => absurd h hen, rs, hsafe, hsum ▸ hinv⟩
    | fork j next =>
      simp only [Checked, System.step, ht, true_and]
      obtain ⟨-, r₁, r₂, rfl, hpre, hnext⟩ := hr
      obtain ⟨rs', hrs', hsum'⟩ := hset ⟨node, next⟩ r₂ hnext
      refine ⟨rs' ++ [r₁], List.rel_append hrs' (.cons (hs.job node j r₁ hpre) .nil), ?_⟩
      rwa [List.sum_append, hsum', List.sum_singleton, add_comm, ← add_assoc]

theorem Holds.step {move : Move Job Env} (hmeets : C.Meets sys move) :
    Checked M L sys move ∧ Holds M C L (sys.step M program move) := by
  cases move with
  | start node j =>
    obtain ⟨rs, hsafe, hinv⟩ := h
    refine ⟨trivial, rs ++ [0], ?_, ?_⟩
    · exact List.rel_append hsafe (.cons (hs.job node j 0 (hs.start node j hmeets)) .nil)
    · simpa [System.step] using hinv
  | run i env => exact h.run hs hmeets
  | crash node =>
    obtain ⟨rs, hsafe, hinv⟩ := h
    have hdrop : ∀ t ∈ sys.threads, decide (t.node ≠ node) = false → ∀ r,
        SafeThread M C L t r → ∀ rest, L.Inv sys.state (r + rest) → L.Inv sys.state rest :=
      fun t ht hkeep r hr rest => hs.drop node sys hmeets t ht (by simpa using hkeep) r hr _ rest
    obtain ⟨rs', hrs', hinv'⟩ :=
      forall₂_filter (fun t => decide (t.node ≠ node)) hsafe hdrop 0 (by simpa using hinv)
    exact ⟨trivial, rs', hrs', hs.lost node sys hmeets _ (by simpa using hinv')⟩

/-- The run rule: along every run that meets the conditions the invariant holds, and every operation
passes the check. -/
theorem Holds.along
    {moves : List (Move Job Env)} (hrun : Along (System.step M program) C.Meets sys moves) :
    Along (System.step M program) (Checked M L) sys moves ∧
      Holds M C L (Lib.run (System.step M program) sys moves) := by
  induction moves generalizing sys with
  | nil => exact ⟨trivial, h⟩
  | cons move moves ih =>
    obtain ⟨hcheck, hnext⟩ := h.step hs hrun.1
    obtain ⟨hchecks, hend⟩ := ih hnext hrun.2
    exact ⟨⟨hcheck, hchecks⟩, hend⟩

end

def Logic.Owned (L : Logic Op Job Env State R) (t : Thread Op Ret Job) (r : R) : Prop :=
  match t.program with
  | .done _ => L.post t.node r
  | .perform o _ => L.held t.node (some o) r
  | .fork _ _ => L.held t.node none r

theorem Holds.owned (h : Holds M C L sys) :
    ∃ rs, List.Forall₂ L.Owned sys.threads rs ∧ L.Inv sys.state rs.sum := by
  obtain ⟨rs, hsafe, hinv⟩ := h
  refine ⟨rs, hsafe.imp ?_, hinv⟩
  rintro ⟨node, p⟩ r hr
  cases p with
  | done a => exact hr
  | perform o next => exact hr.1
  | fork j next => exact hr.1

theorem Holds.quiet (h : Holds M C L sys) (hquiet : sys.Quiet) :
    ∃ rs : List R, (∀ r ∈ rs, ∃ node, L.post node r) ∧ L.Inv sys.state rs.sum := by
  obtain ⟨rs, howned, hinv⟩ := h.owned
  refine ⟨rs, forall₂_right howned ?_, hinv⟩
  rintro ⟨node, p⟩ ht r hr
  have hfinished : p.finished = true := hquiet _ ht
  cases p with
  | done a => exact ⟨node, hr⟩
  | perform o next => cases hfinished
  | fork j next => cases hfinished

end Rules

section Store

variable {M : Machine Op Ret Env State} {program : Job → Program Op Ret Job Unit}

def Conditions.operations (allowed : Op → Env → State → Prop) :
    Conditions Op Ret Job Env State where
  start _ _ := True
  run _ o env s := allowed o env s
  crash _ _ := True

instance (allowed : Op → Env → State → Prop) (node : Nat) (j : Job) :
    Decidable ((Conditions.operations allowed : Conditions Op Ret Job Env State).start node j) :=
  isTrue trivial

instance (allowed : Op → Env → State → Prop) [∀ o env s, Decidable (allowed o env s)] (node : Nat)
    (o : Op) (env : Env) (s : State) :
    Decidable ((Conditions.operations allowed : Conditions Op Ret Job Env State).run node o env s) :=
  inferInstanceAs (Decidable (allowed o env s))

instance (allowed : Op → Env → State → Prop) (node : Nat) (sys : System Op Ret Job State) :
    Decidable ((Conditions.operations allowed : Conditions Op Ret Job Env State).crash node sys) :=
  isTrue trivial

def System.performed (sys : System Op Ret Job State) : Move Job Env → Option (Op × Env)
  | .run i env =>
    match sys.threads[i]? with
    | some ⟨_, .perform o _⟩ => some (o, env)
    | _ => none
  | _ => none

theorem Conditions.operations_meets_iff {allowed : Op → Env → State → Prop}
    (sys : System Op Ret Job State) (move : Move Job Env) :
    (Conditions.operations allowed).Meets sys move ↔
      ∀ o env, sys.performed move = some (o, env) → allowed o env sys.state := by
  cases move with
  | start node j => exact iff_of_true trivial (by rintro o env ⟨⟩)
  | crash node => exact iff_of_true trivial (by rintro o env ⟨⟩)
  | run i env =>
    unfold Conditions.Meets System.performed
    dsimp only
    split
    next node o next _ =>
      refine ⟨?_, fun h => h o env rfl⟩
      rintro h o' env' ⟨⟩
      exact h
    · exact iff_of_true trivial (by rintro o env ⟨⟩)

theorem System.step_state (program : Job → Program Op Ret Job Unit)
    (henabled : ∀ node o s, M.enabled node o s = true) (hcrash : ∀ node s, M.crash node s = s)
    (sys : System Op Ret Job State) (move : Move Job Env) :
    (sys.step M program move).state = sys.state ∧ sys.performed move = none ∨
      ∃ node o env, sys.performed move = some (o, env) ∧
        (sys.step M program move).state = (M.exec node o env sys.state).2 := by
  cases move with
  | start node j => exact .inl ⟨rfl, rfl⟩
  | crash node => exact .inl ⟨hcrash node sys.state, rfl⟩
  | run i env =>
    unfold System.step System.performed
    dsimp only
    cases sys.threads[i]? with
    | none => exact .inl ⟨rfl, rfl⟩
    | some t =>
      obtain ⟨node, p⟩ := t
      cases p with
      | done a => exact .inl ⟨rfl, rfl⟩
      | fork j next => exact .inl ⟨rfl, rfl⟩
      | perform o next =>
        dsimp only
        rw [if_pos (henabled node o sys.state)]
        exact .inr ⟨node, o, env, rfl, rfl⟩

theorem System.step_keeps {I : State → Prop} (henabled : ∀ node o s, M.enabled node o s = true)
    (hcrash : ∀ node s, M.crash node s = s) {sys : System Op Ret Job State} {move : Move Job Env}
    (hs : I sys.state) (hexec : ∀ node o env, sys.performed move = some (o, env) →
      I (M.exec node o env sys.state).2) : I (sys.step M program move).state := by
  obtain ⟨hstate, -⟩ | ⟨node, o, env, hperformed, hstate⟩ :=
    System.step_state program henabled hcrash sys move
  · rw [hstate]
    exact hs
  · rw [hstate]
    exact hexec node o env hperformed

/-- Allowed operations keep the invariant, so it holds after every run of them. -/
theorem System.run_keeps {allowed : Op → Env → State → Prop} {I : State → Prop}
    (henabled : ∀ node o s, M.enabled node o s = true) (hcrash : ∀ node s, M.crash node s = s)
    (hexec : ∀ node o env s, I s → allowed o env s → I (M.exec node o env s).2)
    {sys : System Op Ret Job State} (hs : I sys.state) {moves : List (Move Job Env)}
    (hallowed : Along (System.step M program) (Conditions.operations allowed).Meets sys moves) :
    I (Lib.run (System.step M program) sys moves).state := by
  refine run_invariant (System.step M program) (fun sys => I sys.state) ?_ hs hallowed
  intro sys move hinv hmeets
  rw [Conditions.operations_meets_iff] at hmeets
  exact System.step_keeps henabled hcrash hinv fun node o env hperformed =>
    hexec node o env sys.state hinv (hmeets o env hperformed)

/-- If `allowed` says exactly which operations keep the invariant, it holds in every state of a run
if and only if all operations of the run are allowed. -/
theorem System.invariant_iff {allowed : Op → Env → State → Prop} (Inv : State → Prop)
    (hexec : ∀ node o env s, Inv s → (Inv (M.exec node o env s).2 ↔ allowed o env s))
    (henabled : ∀ node o s, M.enabled node o s = true) (hcrash : ∀ node s, M.crash node s = s)
    {sys : System Op Ret Job State} (hs : Inv sys.state) (moves : List (Move Job Env)) :
    (∀ before, before <+: moves → Inv (Lib.run (System.step M program) sys before).state) ↔
      Along (System.step M program) (Conditions.operations allowed).Meets sys moves := by
  refine run_invariant_iff (System.step M program) (fun sys => Inv sys.state) ?_ hs moves
  intro sys move hinv
  rw [Conditions.operations_meets_iff]
  obtain ⟨hstate, hnone⟩ | ⟨node, o, env, hperformed, hstate⟩ :=
    System.step_state program henabled hcrash sys move
  · rw [hstate]
    refine iff_of_true hinv fun o env h => ?_
    rw [hnone] at h
    cases h
  rw [hstate, hexec node o env sys.state hinv]
  constructor
  · intro h o' env' h'
    rw [hperformed] at h'
    cases h'
    exact h
  · intro h
    exact h o env hperformed

end Store

section Lockstep

variable {M : Machine Op Ret Env State}

variable (M) in
/-- On related stores, the operations `ok` return the same and leave related stores. -/
structure Lockstep (ok : Op → Prop) (Rel : State → State → Prop) : Prop where
  enabled : ∀ {s s'}, Rel s s' → ∀ node o, M.enabled node o s' = M.enabled node o s
  exec : ∀ {s s'}, Rel s s' → ∀ {o}, ok o → ∀ node env,
    (M.exec node o env s').1 = (M.exec node o env s).1 ∧
      Rel (M.exec node o env s).2 (M.exec node o env s').2
  crash : ∀ {s s'}, Rel s s' → ∀ node, Rel (M.crash node s) (M.crash node s')

structure System.Related (Rel : State → State → Prop) (sys sys' : System Op Ret Job State) :
    Prop where
  threads : sys'.threads = sys.threads
  state : Rel sys.state sys'.state

variable {ok : Op → Prop} {Rel : State → State → Prop} {L : Logic Op Job Env State R}
  {program : Job → Program Op Ret Job Unit}

theorem Lockstep.step (h : Lockstep M ok Rel) (hok : ∀ node o env s, L.check node o env s → ok o)
    {sys sys' : System Op Ret Job State} {move : Move Job Env} (hrel : sys.Related Rel sys')
    (hcheck : Checked M L sys move) :
    (sys.step M program move).Related Rel (sys'.step M program move) := by
  obtain ⟨s, threads⟩ := sys
  obtain ⟨s', threads'⟩ := sys'
  obtain ⟨hthreads, hstate⟩ := hrel
  subst hthreads
  cases move with
  | start node j => exact ⟨rfl, hstate⟩
  | crash node => exact ⟨rfl, h.crash hstate node⟩
  | run i env =>
    unfold System.step
    dsimp only
    unfold Checked at hcheck
    dsimp only at hcheck
    split
    next node o next hthread =>
      rw [hthread] at hcheck
      rw [h.enabled hstate]
      split
      next hen =>
        obtain ⟨hret, hnext⟩ := h.exec hstate (hok node o env s (hcheck hen)) node env
        rw [hret]
        exact ⟨rfl, hnext⟩
      · exact ⟨rfl, hstate⟩
    · exact ⟨rfl, hstate⟩
    · exact ⟨rfl, hstate⟩

end Lockstep

end ZModel.Lib
