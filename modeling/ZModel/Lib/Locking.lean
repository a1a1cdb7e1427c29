import Mathlib.Logic.Function.Basic
import ZModel.Lib.Run

/-!
# Transactions with row locks

A transaction waits for a row lock until the holder ends, and its writes become visible when it
commits. Transactions that all begin with the same lock are serialisable.
-/

namespace ZModel.Lib

open Function (update update_self update_of_ne)

variable {Lock σ ε α β Job : Type}

inductive Tx (Lock σ ε α : Type) where
  | done (a : α)
  | fail (e : ε)
  | lock (l : Lock) (next : Tx Lock σ ε α)
  | statement (u : σ → σ) (next : σ → Tx Lock σ ε α)

namespace Tx

def bind : Tx Lock σ ε α → (α → Tx Lock σ ε β) → Tx Lock σ ε β
  | done a, f => f a
  | fail e, _ => fail e
  | lock l next, f => lock l (next.bind f)
  | statement u next, f => statement u fun s => (next s).bind f

instance : Monad (Tx Lock σ ε) where
  pure := done
  bind := bind

def select (query : σ → α) : Tx Lock σ ε α := statement id fun s => done (query s)

def selectForUpdate (l : Lock) (query : σ → α) : Tx Lock σ ε α := lock l (select query)

def update (u : σ → σ) : Tx Lock σ ε Unit := statement u fun _ => done ()

def updateReturning (u : σ → σ) (met : σ → α) : Tx Lock σ ε α := statement u fun s => done (met s)

def require (p : Prop) [Decidable p] (e : ε) : Tx Lock σ ε Unit := if p then done () else fail e

def ofOption (e : ε) : Option α → Tx Lock σ ε α
  | some a => done a
  | none => fail e

def run : Tx Lock σ ε α → σ → Except ε (α × σ)
  | done a, s => .ok (a, s)
  | fail e, _ => .error e
  | lock _ next, s => next.run s
  | statement u next, s => (next s).run (u s)

/-- The transaction asks for the lock `l` first, or fails at once. -/
def LocksFirst (l : Lock) : Tx Lock σ ε α → Prop
  | lock l' _ => l' = l
  | fail _ => True
  | _ => False

/-- Whatever the statements see, each writes by an update in `W`, and a result is in `Q`. -/
def Writes (W : (σ → σ) → Prop) (Q : α → Prop) : Tx Lock σ ε α → Prop
  | done a => Q a
  | fail _ => True
  | lock _ next => next.Writes W Q
  | statement u next => W u ∧ ∀ s, (next s).Writes W Q

section Writes

variable {W : (σ → σ) → Prop} {Q : α → Prop} {Q' : β → Prop}

theorem Writes.mono {Q₁ : α → Prop} {t : Tx Lock σ ε α} (h : t.Writes W Q)
    (hQ : ∀ a, Q a → Q₁ a) : t.Writes W Q₁ := by
  induction t with
  | done a => exact hQ a h
  | fail e => trivial
  | lock l next ih => exact ih h
  | statement u next ih => exact ⟨h.1, fun s => ih s (h.2 s)⟩

theorem Writes.bind {t : Tx Lock σ ε α} {f : α → Tx Lock σ ε β} (h : t.Writes W Q)
    (hf : ∀ a, Q a → (f a).Writes W Q') : (t >>= f).Writes W Q' := by
  induction t with
  | done a => exact hf a h
  | fail e => trivial
  | lock l next ih => exact ih h
  | statement u next ih => exact ⟨h.1, fun s => ih s (h.2 s)⟩

theorem Writes.select (hid : W id) (query : σ → α) (hQ : ∀ s, Q (query s)) :
    (select query : Tx Lock σ ε α).Writes W Q :=
  ⟨hid, hQ⟩

theorem Writes.selectForUpdate (hid : W id) (l : Lock) (query : σ → α) (hQ : ∀ s, Q (query s)) :
    (selectForUpdate l query : Tx Lock σ ε α).Writes W Q :=
  ⟨hid, hQ⟩

theorem Writes.require {p : Prop} [Decidable p] (e : ε) :
    (require p e : Tx Lock σ ε Unit).Writes W fun _ => p := by
  unfold Tx.require
  split
  · assumption
  · trivial

theorem Writes.ofOption (e : ε) (o : Option α) :
    (ofOption e o : Tx Lock σ ε α).Writes W fun a => o = some a := by
  cases o with
  | none => trivial
  | some a => rfl

end Writes

section Run

variable (s : σ)

@[simp] theorem run_pure (a : α) : (pure a : Tx Lock σ ε α).run s = .ok (a, s) := rfl

@[simp] theorem run_select (query : σ → α) :
    (select query : Tx Lock σ ε α).run s = .ok (query s, s) := rfl

@[simp] theorem run_selectForUpdate (l : Lock) (query : σ → α) :
    (selectForUpdate l query : Tx Lock σ ε α).run s = .ok (query s, s) := rfl

@[simp] theorem run_update (u : σ → σ) : (update u : Tx Lock σ ε Unit).run s = .ok ((), u s) := rfl

@[simp] theorem run_updateReturning (u : σ → σ) (met : σ → α) :
    (updateReturning u met : Tx Lock σ ε α).run s = .ok (met s, u s) := rfl

@[simp] theorem run_require (p : Prop) [Decidable p] (e : ε) :
    (require p e : Tx Lock σ ε Unit).run s = if p then .ok ((), s) else .error e := by
  unfold require
  split <;> rfl

theorem run_require_eq_ok {p : Prop} [Decidable p] {e : ε} {a : Unit} {s s' : σ} :
    (require p e : Tx Lock σ ε Unit).run s = .ok (a, s') ↔ p ∧ s' = s := by
  rw [run_require]
  split
  next hp =>
    simp [hp, eq_comm]
  next hp =>
    simp [hp]

theorem run_ofOption_eq_ok {e : ε} {o : Option α} {a : α} {s s' : σ} :
    (ofOption e o : Tx Lock σ ε α).run s = .ok (a, s') ↔ o = some a ∧ s' = s := by
  cases o with
  | none => exact iff_of_false nofun nofun
  | some b => simp [ofOption, run, eq_comm]

theorem run_bind (t : Tx Lock σ ε α) (f : α → Tx Lock σ ε β) : (t >>= f).run s = match t.run s with
      | .error e => .error e
      | .ok (a, s') => (f a).run s' := by
  induction t generalizing s with
  | done a => rfl
  | fail e => rfl
  | lock l next ih => exact ih s
  | statement u next ih => exact ih s (u s)

theorem run_bind_eq_ok {t : Tx Lock σ ε α} {f : α → Tx Lock σ ε β} {s : σ} {b : β} {s'' : σ} :
    (t >>= f).run s = .ok (b, s'') ↔
      ∃ a s', t.run s = .ok (a, s') ∧ (f a).run s' = .ok (b, s'') := by
  rw [run_bind]
  cases t.run s with
  | error e =>
    refine iff_of_false nofun ?_
    rintro ⟨a, s', h, -⟩
    cases h
  | ok done =>
    constructor
    · intro h
      exact ⟨done.1, done.2, rfl, h⟩
    rintro ⟨a, s', h, hf⟩
    cases h
    exact hf

end Run

end Tx

structure Session (Lock σ ε α Job : Type) where
  job : Job
  pending : σ → σ
  rest : Tx Lock σ ε α

/-- The committed state, the holder of each lock, the transactions on the connections, and the
results. -/
structure Sessions (Lock σ ε α Job : Type) where
  committed : σ
  owner : Lock → Option Nat
  session : Nat → Option (Session Lock σ ε α Job)
  results : List (Job × Option (Except ε α))

inductive SessionMove (Job : Type) where
  | begin (k : Nat) (j : Job)
  | run (k : Nat)
  | lose (k : Nat)

namespace Sessions

def idle (s : σ) : Sessions Lock σ ε α Job := ⟨s, fun _ => none, fun _ => none, []⟩

def goOn (st : Sessions Lock σ ε α Job) (k : Nat) (s : Session Lock σ ε α Job) (u : σ → σ)
    (t : Tx Lock σ ε α) : Sessions Lock σ ε α Job :=
  { st with session := update st.session k (some ⟨s.job, u, t⟩) }

def finish (st : Sessions Lock σ ε α Job) (k : Nat) (j : Job) (s : σ)
    (result : Option (Except ε α)) : Sessions Lock σ ε α Job where
  committed := s
  owner l := if st.owner l = some k then none else st.owner l
  session := update st.session k none
  results := st.results ++ [(j, result)]

variable [DecidableEq Lock]

def perform (st : Sessions Lock σ ε α Job) (k : Nat) (s : Session Lock σ ε α Job) :
    Sessions Lock σ ε α Job :=
  match s.rest with
  | .done a => st.finish k s.job (s.pending st.committed) (some (.ok a))
  | .fail e => st.finish k s.job st.committed (some (.error e))
  | .lock l next =>
    if st.owner l = none ∨ st.owner l = some k then
      { st.goOn k s s.pending next with owner := update st.owner l (some k) }
    else st
  | .statement u next => st.goOn k s (u ∘ s.pending) (next (s.pending st.committed))

def step (body : Job → Tx Lock σ ε α) (st : Sessions Lock σ ε α Job) :
    SessionMove Job → Sessions Lock σ ε α Job
  | .begin k j =>
    match st.session k with
    | none => { st with session := update st.session k (some ⟨j, id, body j⟩) }
    | some _ => st
  | .run k =>
    match st.session k with
    | none => st
    | some s => st.perform k s
  | .lose k =>
    match st.session k with
    | none => st
    | some s => st.finish k s.job st.committed none

end Sessions

namespace Sessions

variable [DecidableEq Lock] {body : Job → Tx Lock σ ε α}

theorem step_session {P : Session Lock σ ε α Job → Prop} (hbegin : ∀ j, P ⟨j, id, body j⟩)
    (hlock : ∀ j u l next, P ⟨j, u, .lock l next⟩ → P ⟨j, u, next⟩)
    (hstatement : ∀ j u v next, P ⟨j, u, .statement v next⟩ → ∀ s, P ⟨j, v ∘ u, next s⟩)
    {st : Sessions Lock σ ε α Job} (h : ∀ k s, st.session k = some s → P s)
    (move : SessionMove Job) : ∀ k s, (st.step body move).session k = some s → P s := by
  have hset : ∀ k' new, (∀ s, new = some s → P s) → ∀ k s,
      update st.session k' new k = some s → P s := by
    intro k' new hnew k s hs
    by_cases heq : k = k'
    · rw [heq, update_self] at hs
      exact hnew s hs
    · rw [update_of_ne heq] at hs
      exact h k s hs
  cases move with
  | begin k' j =>
    dsimp only [step]
    split
    · refine hset k' _ fun s hs => ?_
      obtain rfl := Option.some.inj hs
      exact hbegin j
    · exact h
  | lose k' =>
    dsimp only [step]
    split
    · exact h
    · exact hset k' none nofun
  | run k' =>
    dsimp only [step]
    split
    · exact h
    rename_i s' hs'
    obtain ⟨j, u, rest⟩ := s'
    have hs := h k' _ hs'
    dsimp only [perform]
    cases rest with
    | done a => exact hset k' none nofun
    | fail e => exact hset k' none nofun
    | lock l next =>
      dsimp only
      split
      · refine hset k' _ fun s heq => ?_
        obtain rfl := Option.some.inj heq
        exact hlock j u l next hs
      · exact h
    | statement v next =>
      refine hset k' _ fun s heq => ?_
      obtain rfl := Option.some.inj heq
      exact hstatement j u v next hs _

theorem step_committed (body : Job → Tx Lock σ ε α) (st : Sessions Lock σ ε α Job)
    (move : SessionMove Job) :
    (st.step body move).committed = st.committed ∨ ∃ k s a, move = .run k ∧
      st.session k = some s ∧ s.rest = .done a ∧
      (st.step body move).committed = s.pending st.committed := by
  cases move with
  | begin k j =>
    left
    dsimp only [step]
    split <;> rfl
  | lose k =>
    left
    dsimp only [step]
    split <;> rfl
  | run k =>
    dsimp only [step]
    cases hs : st.session k with
    | none => exact .inl rfl
    | some s =>
      dsimp only [perform]
      cases hrest : s.rest with
      | fail e => exact .inl rfl
      | statement u next => exact .inl rfl
      | done a => exact .inr ⟨k, s, a, rfl, hs, hrest, rfl⟩
      | lock l next =>
        left
        dsimp only
        split <;> rfl

end Sessions

inductive Replays (body : Job → Tx Lock σ ε α) (s₀ : σ) :
    List (Job × Option (Except ε α)) → σ → Prop where
  | nil : Replays body s₀ [] s₀
  | lost {results s j} (h : Replays body s₀ results s) :
      Replays body s₀ (results ++ [(j, none)]) s
  | failed {results s j e} (h : Replays body s₀ results s) (hrun : (body j).run s = .error e) :
      Replays body s₀ (results ++ [(j, some (.error e))]) s
  | committed {results s j a s'} (h : Replays body s₀ results s)
      (hrun : (body j).run s = .ok (a, s')) :
      Replays body s₀ (results ++ [(j, some (.ok a))]) s'

section Serial

variable {body : Job → Tx Lock σ ε α} {s₀ : σ} {l : Lock}
  {k : Nat} {s : Session Lock σ ε α Job} {st : Sessions Lock σ ε α Job}

/-- A transaction without the lock has not begun; the holder would end as if it ran alone. -/
structure Serial (body : Job → Tx Lock σ ε α) (s₀ : σ) (l : Lock)
    (st : Sessions Lock σ ε α Job) : Prop where
  replays : Replays body s₀ st.results st.committed
  owned : ∀ k, st.owner l = some k → st.session k ≠ none
  waiting : ∀ k s, st.session k = some s → st.owner l ≠ some k →
    s.pending = id ∧ s.rest = body s.job
  holding : ∀ k s, st.session k = some s → st.owner l = some k →
    s.rest.run (s.pending st.committed) = (body s.job).run st.committed

theorem Serial.idle (body : Job → Tx Lock σ ε α) (s₀ : σ) (l : Lock) :
    Serial body s₀ l (Sessions.idle s₀) where
  replays := .nil
  owned _ h := nomatch h
  waiting _ _ h := nomatch h
  holding _ _ h := nomatch h

theorem Serial.finish (h : Serial body s₀ l st) {j : Job} {s : σ} {result : Option (Except ε α)}
    (hreplays : Replays body s₀ (st.results ++ [(j, result)]) s)
    (hsame : st.owner l = some k ∨ s = st.committed) :
    Serial body s₀ l (st.finish k j s result) where
  replays := hreplays
  owned k' hk' := by
    dsimp only [Sessions.finish] at hk' ⊢
    split at hk'
    · cases hk'
    rename_i hne
    have hother : k' ≠ k := fun heq => hne (heq ▸ hk')
    rw [update_of_ne hother]
    exact h.owned k' hk'
  waiting k' s' hs' hk' := by
    dsimp only [Sessions.finish] at hs' hk'
    by_cases hother : k' = k
    · rw [hother, update_self] at hs'
      cases hs'
    rw [update_of_ne hother] at hs'
    refine h.waiting k' s' hs' fun howner => hk' ?_
    rw [howner, if_neg fun heq => hother (Option.some.inj heq)]
  holding k' s' hs' hk' := by
    dsimp only [Sessions.finish] at hs' hk' ⊢
    split at hk'
    · cases hk'
    rename_i hne
    have hother : k' ≠ k := fun heq => hne (heq ▸ hk')
    rw [update_of_ne hother] at hs'
    rw [hsame.resolve_left hne]
    exact h.holding k' s' hs' hk'

theorem Serial.goOn (h : Serial body s₀ l st) {u : σ → σ} {t : Tx Lock σ ε α}
    (hk : st.owner l = some k) (hrun : t.run (u st.committed) = (body s.job).run st.committed) :
    Serial body s₀ l (st.goOn k s u t) where
  replays := h.replays
  owned k' hk' := by
    obtain rfl : k = k' := Option.some.inj (hk.symm.trans hk')
    simp [Sessions.goOn]
  waiting k' s' hs' hk' := by
    have hother : k' ≠ k := fun heq => hk' (heq ▸ hk)
    dsimp only [Sessions.goOn] at hs'
    rw [update_of_ne hother] at hs'
    exact h.waiting k' s' hs' hk'
  holding k' s' hs' hk' := by
    obtain rfl : k = k' := Option.some.inj (hk.symm.trans hk')
    dsimp only [Sessions.goOn] at hs'
    rw [update_self] at hs'
    obtain rfl := Option.some.inj hs'
    exact hrun

theorem Serial.setOwner (h : Serial body s₀ l st) {owner : Lock → Option Nat}
    (howner : owner l = st.owner l) :
    Serial body s₀ l { st with owner } where
  replays := h.replays
  owned k hk := h.owned k (howner ▸ hk)
  waiting k s hs hk := h.waiting k s hs (howner ▸ hk)
  holding k s hs hk := h.holding k s hs (howner ▸ hk)

variable [DecidableEq Lock]

theorem Serial.take (h : Serial body s₀ l st) {next : Tx Lock σ ε α}
    (hbody : body s.job = .lock l next) (hpending : s.pending = id) (hfree : st.owner l = none) :
    Serial body s₀ l { st.goOn k s s.pending next with
      owner := update st.owner l (some k) } where
  replays := h.replays
  owned k' hk' := by
    obtain rfl : k = k' := by simpa using hk'
    simp [Sessions.goOn]
  waiting k' s' hs' hk' := by
    have hother : k' ≠ k := fun heq => hk' (by simp [heq])
    dsimp only [Sessions.goOn] at hs'
    rw [update_of_ne hother] at hs'
    refine h.waiting k' s' hs' ?_
    rw [hfree]
    nofun
  holding k' s' hs' hk' := by
    obtain rfl : k = k' := by simpa using hk'
    dsimp only [Sessions.goOn] at hs'
    rw [update_self] at hs'
    obtain rfl := Option.some.inj hs'
    rw [hbody, hpending]
    rfl

section

variable (hlock : ∀ j, (body j).LocksFirst l) (h : Serial body s₀ l st)

include hlock h

theorem Serial.perform (hs : st.session k = some s) : Serial body s₀ l (st.perform k s) := by
  by_cases hk : st.owner l = some k
  · have hrun := h.holding k s hs hk
    unfold Sessions.perform
    cases hrest : s.rest with
    | done a =>
      rw [hrest] at hrun
      exact h.finish (.committed h.replays hrun.symm) (.inl hk)
    | fail e =>
      rw [hrest] at hrun
      exact h.finish (.failed h.replays hrun.symm) (.inr rfl)
    | lock l' next =>
      rw [hrest] at hrun
      have hnext : next.run (s.pending st.committed) = (body s.job).run st.committed := hrun
      dsimp only
      split
      · refine (h.goOn hk hnext).setOwner ?_
        by_cases hl : l = l'
        · rw [hl, update_self, ← hl]
          exact hk.symm
        · exact update_of_ne hl _ _
      · exact h
    | statement u next =>
      rw [hrest] at hrun
      exact h.goOn hk hrun
  -- The first statement of a transaction asks for the lock.
  obtain ⟨hpending, hrest⟩ := h.waiting k s hs hk
  have hfirst := hlock s.job
  unfold Sessions.perform
  rw [hrest]
  cases hbody : body s.job with
  | done a =>
    rw [hbody] at hfirst
    exact hfirst.elim
  | fail e =>
    have hrun : (body s.job).run st.committed = .error e := by rw [hbody]; rfl
    exact h.finish (.failed h.replays hrun) (.inr rfl)
  | lock l' next =>
    rw [hbody] at hfirst
    obtain rfl : l' = l := hfirst
    dsimp only
    split
    next hfree =>
      exact h.take hbody hpending (hfree.resolve_right hk)
    · exact h
  | statement u next =>
    rw [hbody] at hfirst
    exact hfirst.elim

theorem Serial.step (move : SessionMove Job) : Serial body s₀ l (st.step body move) := by
  cases move with
  | run k =>
    dsimp only [Sessions.step]
    cases hs : st.session k with
    | none => exact h
    | some s => exact h.perform hlock hs
  | lose k =>
    dsimp only [Sessions.step]
    cases hs : st.session k with
    | none => exact h
    | some s => exact h.finish (.lost h.replays) (.inr rfl)
  | begin k j =>
    dsimp only [Sessions.step]
    cases hs : st.session k with
    | some s => exact h
    | none =>
      have hk : st.owner l ≠ some k := fun hk => h.owned k hk hs
      refine ⟨h.replays, fun k' hk' => ?_, fun k' s' hs' hk' => ?_, fun k' s' hs' hk' => ?_⟩
      · have hother : k' ≠ k := fun heq => hk (heq ▸ hk')
        dsimp only
        rw [update_of_ne hother]
        exact h.owned k' hk'
      · dsimp only at hs'
        by_cases hother : k' = k
        · rw [hother, update_self] at hs'
          obtain rfl := Option.some.inj hs'
          exact ⟨rfl, rfl⟩
        · rw [update_of_ne hother] at hs'
          exact h.waiting k' s' hs' hk'
      have hother : k' ≠ k := fun heq => hk (heq ▸ hk')
      dsimp only at hs'
      rw [update_of_ne hother] at hs'
      exact h.holding k' s' hs' hk'

theorem Serial.step_committed (move : SessionMove Job) :
    (st.step body move).committed = st.committed ∨ ∃ k s a, move = .run k ∧ st.session k = some s ∧
      (body s.job).run st.committed = .ok (a, (st.step body move).committed) := by
  obtain hsame | ⟨k, s, a, hmove, hs, hrest, hcommitted⟩ := Sessions.step_committed body st move
  · exact .inl hsame
  refine .inr ⟨k, s, a, hmove, hs, ?_⟩
  rw [hcommitted]
  by_cases hk : st.owner l = some k
  · have hrun := h.holding k s hs hk
    rw [hrest] at hrun
    exact hrun.symm
  -- A transaction without the lock has not got to its end.
  obtain ⟨-, hbody⟩ := h.waiting k s hs hk
  have hfirst := hlock s.job
  rw [← hbody, hrest] at hfirst
  exact hfirst.elim

theorem Serial.run
    (moves : List (SessionMove Job)) : Serial body s₀ l (Lib.run (Sessions.step body) st moves) :=
  run_invariant (C := fun _ _ => True) (.step body) (Serial body s₀ l)
    (fun _ move h _ => h.step hlock move) h (.of_forall _ (fun _ _ => trivial) _ _)

end

theorem Serial.keeps (hlock : ∀ j, (body j).LocksFirst l) {P : σ → Prop}
    (hP : ∀ j s a s', P s → (body j).run s = .ok (a, s') → P s') (h : Serial body s₀ l st)
    (hst : P st.committed) (moves : List (SessionMove Job)) :
    P (Lib.run (Sessions.step body) st moves).committed := by
  refine (run_invariant (C := fun _ _ => True) (.step body)
    (fun st => Serial body s₀ l st ∧ P st.committed) ?_ ⟨h, hst⟩
    (.of_forall _ (fun _ _ => trivial) _ moves)).2
  rintro st move ⟨hserial, hst⟩ -
  refine ⟨hserial.step hlock move, ?_⟩
  obtain hsame | ⟨-, s, a, -, -, hrun⟩ := hserial.step_committed hlock move
  · rw [hsame]
    exact hst
  · exact hP s.job st.committed a _ hst hrun

theorem serialisable (hlock : ∀ j, (body j).LocksFirst l) (s₀ : σ)
    (moves : List (SessionMove Job)) :
    Replays body s₀ (Lib.run (Sessions.step body) (.idle s₀) moves).results
      (Lib.run (Sessions.step body) (.idle s₀) moves).committed :=
  ((Serial.idle body s₀ l).run hlock moves).replays

end Serial

end ZModel.Lib
