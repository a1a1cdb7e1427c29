import Mathlib.Algebra.Order.Group.Multiset
import Mathlib.Data.Multiset.UnionInter
import ZModel.Lib.Threads

/-!
# Threads that own facts

A resource for `Safe`: the owner of a fact may exchange it while it performs an operation; the facts
under all other keys have to survive that. `Triple` is a Hoare triple over facts.
-/

namespace ZModel.Lib

open Multiset (mem_add map_add nodup_add mem_map)

variable {Op : Type} {Ret : Op → Type} {Job Env State K F α β : Type}

structure Facts (State K F : Type) where
  good : State → Prop
  holds : K → F → State → Prop

namespace Facts

def Inv (P : Facts State K F) (s : State) (r : Multiset (K × F)) : Prop :=
  P.good s ∧ (r.map Prod.fst).Nodup ∧ ∀ f ∈ r, P.holds f.1 f.2 s

def logic (P : Facts State K F) (pre : Job → Multiset (K × F) → Prop)
    (check : Op → Env → State → Prop) : Logic Op Job Env State (Multiset (K × F)) where
  Inv := P.Inv
  pre _ := pre
  post _ _ := True
  held _ _ _ := True
  check _ := check

variable {P : Facts State K F} {r : Multiset (K × F)}

theorem Inv.good {s : State} (h : P.Inv s r) : P.good s := h.1

variable {rest : Multiset (K × F)} {s : State}

theorem Inv.drop (h : P.Inv s (r + rest)) : P.Inv s rest := by
  obtain ⟨hgood, hnodup, hholds⟩ := h
  refine ⟨hgood, ?_, fun f hf => hholds f (mem_add.mpr (.inr hf))⟩
  rw [map_add] at hnodup
  exact (nodup_add.mp hnodup).2.1

theorem Inv.holds_left (h : P.Inv s (r + rest)) : ∀ f ∈ r, P.holds f.1 f.2 s :=
  fun f hf => h.2.2 f (mem_add.mpr (.inl hf))

theorem Inv.key_ne {k : K} {f : F} (h : P.Inv s ({(k, f)} + rest)) : ∀ g ∈ rest, g.1 ≠ k := by
  obtain ⟨-, hnodup, -⟩ := h
  rw [map_add, Multiset.map_singleton, Multiset.singleton_add, Multiset.nodup_cons] at hnodup
  intro g hg hkey
  exact hnodup.1 (mem_map.mpr ⟨g, hg, hkey⟩)

theorem Inv.exchange {s' : State} {k : K} {f f' : F} (h : P.Inv s ({(k, f)} + rest))
    (hgood : P.good s') (hothers : ∀ k' g, k' ≠ k → P.holds k' g s → P.holds k' g s')
    (hown : P.holds k f' s') : P.Inv s' ({(k, f')} + rest) := by
  refine ⟨hgood, ?_, fun g hg => ?_⟩
  · simpa using h.2.1
  obtain hg | hg := mem_add.mp hg
  · rw [Multiset.mem_singleton.mp hg]
    exact hown
  · exact hothers g.1 g.2 (h.key_ne g hg) (h.2.2 g (mem_add.mpr (.inr hg)))

theorem Inv.extend {s' : State} {new : Multiset (K × F)} (h : P.Inv s rest) (hgood : P.good s')
    (hothers : ∀ k g, P.holds k g s → P.holds k g s') (hnodup : (new.map Prod.fst).Nodup)
    (hnew : ∀ f ∈ new, P.holds f.1 f.2 s') (hfresh : ∀ f ∈ new, ∀ g, ¬P.holds f.1 g s) :
    P.Inv s' (new + rest) := by
  obtain ⟨-, hrest, hholds⟩ := h
  refine ⟨hgood, ?_, fun f hf => ?_⟩
  · rw [map_add, nodup_add]
    refine ⟨hnodup, hrest, Multiset.disjoint_left.mpr fun hk hk' => ?_⟩
    obtain ⟨f, hf, rfl⟩ := mem_map.mp hk
    obtain ⟨g, hg, hkey⟩ := mem_map.mp hk'
    have hg := hholds g hg
    rw [hkey] at hg
    exact hfresh f hf g.2 hg
  · obtain hf | hf := mem_add.mp hf
    · exact hnew f hf
    · exact hothers f.1 f.2 (hholds f hf)

section Rules

variable (M : Machine Op Ret Env State) (C : Conditions Op Ret Job Env State)
  (P) (pre : Job → Multiset (K × F) → Prop) (check : Op → Env → State → Prop) (node : Nat)

/-- The operation passes the check, leaves a good store, and keeps the facts under every other key
than `own`. -/
structure Keeps (own : Option K) (o : Op) (env : Env) (s : State) : Prop where
  check : check o env s
  good : P.good (M.exec node o env s).2
  others : ∀ k f, own ≠ some k → P.holds k f s → P.holds k f (M.exec node o env s).2

def Plain (p : Program Op Ret Job α) (Q : α → Prop) : Prop :=
  ∀ r, Safe M C (P.logic pre check) node p r fun a r' => r' = r ∧ Q a

def Entails (k : K) (f g : F) : Prop := ∀ s, P.good s → P.holds k f s → P.holds k g s

def Triple (k : K) (f : F) (p : Program Op Ret Job α) (Q : α → F → Prop) : Prop :=
  ∀ g, P.Entails k g f → Safe M C (P.logic pre check) node p {(k, g)} fun a r =>
    ∃ g', r = {(k, g')} ∧ ∃ f', P.Entails k g' f' ∧ Q a f'

variable {M C P pre check node} {k : K} {f g : F} {p : Program Op Ret Job α} {Q : α → F → Prop}

theorem safe_frame {r : Multiset (K × F)} {Q : α → Multiset (K × F) → Prop}
    (h : Safe M C (P.logic pre check) node p r Q) (r₀ : Multiset (K × F)) :
    Safe M C (P.logic pre check) node p (r + r₀) fun a r' => ∃ r₁, r' = r₁ + r₀ ∧ Q a r₁ := by
  induction p generalizing r with
  | done a => exact ⟨r, rfl, h⟩
  | perform o next ih =>
    refine ⟨trivial, fun env s rest hrun hen hinv => ?_⟩
    rw [add_assoc] at hinv
    obtain ⟨hcheck, r', hinv', hnext⟩ := h.2 env s (r₀ + rest) hrun hen hinv
    rw [← add_assoc] at hinv'
    exact ⟨hcheck, r' + r₀, hinv', ih _ hnext⟩
  | fork j next ih =>
    obtain ⟨-, r₁, r₂, rfl, hpre, hnext⟩ := h
    exact ⟨trivial, r₁, r₂ + r₀, add_assoc _ _ _, hpre, ih hnext⟩

theorem safe_fresh {o : Op} {Q : Ret o → Multiset (K × F) → Prop}
    (h : ∀ env s, C.run node o env s → P.good s → P.Keeps M check node none o env s ∧
      ∃ new, (new.map Prod.fst).Nodup ∧
        (∀ f ∈ new, P.holds f.1 f.2 (M.exec node o env s).2 ∧ ∀ g, ¬P.holds f.1 g s) ∧
        Q (M.exec node o env s).1 new) :
    Safe M C (P.logic pre check) node (Program.call o) 0 Q := by
  refine Safe.call trivial fun env s rest hrun _ hinv => ?_
  rw [zero_add] at hinv
  obtain ⟨hkeeps, new, hnodup, hnew, hQ⟩ := h env s hrun hinv.good
  refine ⟨hkeeps.check, new, ?_, hQ⟩
  exact hinv.extend hkeeps.good (fun k g => hkeeps.others k g (by simp)) hnodup
    (fun f hf => (hnew f hf).1) fun f hf => (hnew f hf).2

theorem Plain.pure {a : α} {Q : α → Prop} (h : Q a) :
    P.Plain M C pre check node (Pure.pure a : Program Op Ret Job α) Q :=
  fun _ => ⟨rfl, h⟩

theorem Plain.mono {Q Q' : α → Prop} (h : P.Plain M C pre check node p Q) (hQ : ∀ a, Q a → Q' a) :
    P.Plain M C pre check node p Q' :=
  fun r => (h r).mono fun a _ ⟨hr, ha⟩ => ⟨hr, hQ a ha⟩

variable {q : α → Program Op Ret Job β}

theorem Plain.bind {Q : α → Prop} {Q' : β → Prop} (hp : P.Plain M C pre check node p Q)
    (hq : ∀ a, Q a → P.Plain M C pre check node (q a) Q') :
    P.Plain M C pre check node (p >>= q) Q' := by
  intro r
  refine (hp r).bind fun a r' ⟨hr, ha⟩ => ?_
  subst hr
  exact hq a ha r'

theorem Plain.call {o : Op} {Q : Ret o → Prop}
    (h : ∀ env s, C.run node o env s → P.good s → P.Keeps M check node none o env s ∧
      Q (M.exec node o env s).1) :
    P.Plain M C pre check node (Program.call o) Q := by
  intro r
  refine Safe.call trivial fun env s rest hrun _ hinv => ?_
  obtain ⟨hkeeps, hQ⟩ := h env s hrun hinv.good
  obtain ⟨-, hnodup, hholds⟩ := hinv
  refine ⟨hkeeps.check, r, ⟨hkeeps.good, hnodup, fun f hf => ?_⟩, rfl, hQ⟩
  exact hkeeps.others f.1 f.2 (by simp) (hholds f hf)

theorem Plain.forEach {body : β → Program Op Ret Job Unit} {l : List β}
    (h : ∀ x ∈ l, P.Plain M C pre check node (body x) fun _ => True) :
    P.Plain M C pre check node (Program.forEach body l) fun _ => True := by
  induction l with
  | nil => exact Plain.pure trivial
  | cons x xs ih =>
    refine (h x (.head _)).bind fun _ _ => ?_
    exact ih fun y hy => h y (List.mem_cons_of_mem x hy)

theorem Entails.refl : P.Entails k f f := fun _ _ h => h

theorem Triple.pure {a : α} (h : Q a f) :
    P.Triple M C pre check node k f (Pure.pure a : Program Op Ret Job α) Q :=
  fun g hg => ⟨g, rfl, f, hg, h⟩

theorem Triple.mono {Q' : α → F → Prop} (h : P.Triple M C pre check node k f p Q)
    (hQ : ∀ a f', Q a f' → Q' a f') : P.Triple M C pre check node k f p Q' :=
  fun g hg => (h g hg).mono fun a _ ⟨g', hr, f', hentails, ha⟩ =>
    ⟨g', hr, f', hentails, hQ a f' ha⟩

theorem Triple.weaken (h : P.Triple M C pre check node k g p Q) (hfg : P.Entails k f g) :
    P.Triple M C pre check node k f p Q :=
  fun g' hg' => h g' fun s hs hholds => hfg s hs (hg' s hs hholds)

theorem Triple.bind {Q' : β → F → Prop} (hp : P.Triple M C pre check node k f p Q)
    (hq : ∀ a f', Q a f' → P.Triple M C pre check node k f' (q a) Q') :
    P.Triple M C pre check node k f (p >>= q) Q' := by
  intro g hg
  refine (hp g hg).bind fun a r ⟨g', hr, f', hentails, ha⟩ => ?_
  subst hr
  exact hq a f' ha g' hentails

theorem Triple.call {o : Op} {Q : Ret o → F → Prop}
    (h : ∀ env s, C.run node o env s → P.good s → P.holds k f s →
      P.Keeps M check node (some k) o env s ∧
        ∃ f', P.holds k f' (M.exec node o env s).2 ∧ Q (M.exec node o env s).1 f') :
    P.Triple M C pre check node k f (Program.call o) Q := by
  intro g hg
  refine Safe.call trivial fun env s rest hrun _ hinv => ?_
  have hf : P.holds k f s := hg s hinv.good (hinv.holds_left (k, g) (Multiset.mem_singleton_self _))
  obtain ⟨hkeeps, f', hf', hQ⟩ := h env s hrun hinv.good hf
  refine ⟨hkeeps.check, {(k, f')}, ?_, f', rfl, f', Entails.refl, hQ⟩
  exact hinv.exchange hkeeps.good
    (fun k' g' hne => hkeeps.others k' g' fun heq => hne (Option.some.inj heq).symm) hf'

theorem Plain.triple {Q : α → Prop} (h : P.Plain M C pre check node p Q) :
    P.Triple M C pre check node k f p fun a f' => f' = f ∧ Q a :=
  fun g hg => (h {(k, g)}).mono fun _ _ ⟨hr, ha⟩ => ⟨g, hr, f, hg, rfl, ha⟩

theorem Plain.seq {Q : α → Prop} {Q' : β → F → Prop} (hp : P.Plain M C pre check node p Q)
    (hq : ∀ a, Q a → P.Triple M C pre check node k f (q a) Q') :
    P.Triple M C pre check node k f (p >>= q) Q' := by
  refine hp.triple.bind fun a f' ⟨hf, ha⟩ => ?_
  subst hf
  exact hq a ha

end Rules

section Runs

variable {M : Machine Op Ret Env State} {C : Conditions Op Ret Job Env State}
  {pre : Job → Multiset (K × F) → Prop} {check : Op → Env → State → Prop}
  {program : Job → Program Op Ret Job Unit}

theorem good_along
    (hjob : ∀ node j r, pre j r → Safe M C (P.logic pre check) node (program j) r fun _ _ => True)
    (hstart : ∀ node j, C.start node j → pre j 0) (hcrash : ∀ node s, M.crash node s = s)
    {s : State} (hs : P.good s) {moves : List (Move Job Env)}
    (hrun : Along (System.step M program) C.Meets ⟨s, []⟩ moves) :
    P.good (run (System.step M program) ⟨s, []⟩ moves).state ∧
      Along (System.step M program) (Checked M (P.logic pre check)) ⟨s, []⟩ moves := by
  have hsound : Sound M C (P.logic pre check) program :=
    { job := hjob
      start := hstart
      drop := fun _ _ _ _ _ _ _ _ _ _ hinv => hinv.drop
      lost := fun node sys _ r hinv => by
        rw [hcrash]
        exact hinv }
  have hinit : Holds M C (P.logic pre check) (⟨s, []⟩ : System Op Ret Job State) :=
    ⟨[], .nil, hs, Multiset.nodup_zero, fun f hf => absurd hf (Multiset.notMem_zero f)⟩
  obtain ⟨hchecked, rs, -, hinv⟩ := hinit.along hsound hrun
  exact ⟨hinv.good, hchecked⟩

end Runs

end Facts

end ZModel.Lib
