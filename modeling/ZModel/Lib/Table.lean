import Mathlib.Algebra.BigOperators.Group.List.Basic
import Mathlib.Data.Int.Basic
import Mathlib.Data.List.Forall2
import Mathlib.Data.List.Nodup
import Mathlib.Tactic.Abel

/-!
# Tables with a primary key

A table is a list of rows whose keys are pairwise different, as a field of the table. Besides
reading back what was written, the lemmas follow the weighted sum of a column.
-/

namespace ZModel.Lib

class Keyed (ρ : Type*) (κ : outParam Type*) where
  key : ρ → κ

export Keyed (key)

/-- A table: rows in insertion order, with pairwise different keys. -/
structure Table (ρ : Type*) {κ : Type*} [Keyed ρ κ] where
  rows : List ρ
  nodup : (rows.map key).Nodup

namespace Table

variable {ρ κ : Type*} [Keyed ρ κ]

def empty : Table ρ := ⟨[], List.nodup_nil⟩

/-- The table with one row. -/
def single (r : ρ) : Table ρ := ⟨[r], List.nodup_singleton (key r)⟩

instance : Inhabited (Table ρ) := ⟨empty⟩

def sum {M : Type*} [AddCommMonoid M] (t : Table ρ) (w : ρ → M) : M :=
  (t.rows.map w).sum

def All (t : Table ρ) (P : ρ → Prop) : Prop := ∀ r ∈ t.rows, P r

instance (t : Table ρ) (P : ρ → Prop) [DecidablePred P] : Decidable (t.All P) :=
  inferInstanceAs (Decidable (∀ r ∈ t.rows, P r))

theorem eq_of_key_eq {t : Table ρ} {a b : ρ} (ha : a ∈ t.rows) (hb : b ∈ t.rows)
    (h : key a = key b) : a = b :=
  List.inj_on_of_nodup_map t.nodup ha hb h

variable [DecidableEq κ] {t t' : Table ρ} {k : κ} {old r x : ρ} {f : ρ → ρ}

def replace (r : ρ) (rows : List ρ) : List ρ :=
  rows.map fun old => if key old = key r then r else old

theorem map_key_replace (r : ρ) (rows : List ρ) : (replace r rows).map key = rows.map key := by
  induction rows with
  | nil => rfl
  | cons old rows ih =>
    simp only [replace, List.map_cons] at ih ⊢
    split
    next h =>
      rw [h, ih]
    · rw [ih]

section

variable (t : Table ρ)

def find? (k : κ) : Option ρ :=
  t.rows.find? fun r => key r = k

def put (r : ρ) : Table ρ :=
  ⟨replace r t.rows, by rw [map_key_replace]; exact t.nodup⟩

def create (r : ρ) : Option (Table ρ) :=
  if h : key r ∈ t.rows.map key then none
  else some ⟨t.rows ++ [r], by
    rw [List.map_append, List.map_cons, List.map_nil]
    exact List.Nodup.append t.nodup (List.nodup_singleton _)
      (List.disjoint_singleton.mpr h)⟩

/-- The table with two rows of different keys. -/
def pair (r r' : ρ) : Table ρ := ((single r).create r').getD (single r)

def erase (k : κ) : Table ρ :=
  ⟨t.rows.filter fun r => key r ≠ k, t.nodup.sublist (List.filter_sublist.map key)⟩

def filterRows (p : ρ → Bool) : Table ρ :=
  ⟨t.rows.filter p, t.nodup.sublist (List.filter_sublist.map key)⟩

theorem filterMap_sublist {α β : Type*} {f g : α → Option β}
    (h : ∀ a b, f a = some b → g a = some b) (l : List α) :
    (l.filterMap f).Sublist (l.filterMap g) := by
  induction l with
  | nil => exact .slnil
  | cons a l ih =>
    cases hf : f a with
    | some b =>
      rw [List.filterMap_cons_some hf, List.filterMap_cons_some (h a b hf)]
      exact ih.cons_cons b
    | none =>
      rw [List.filterMap_cons_none hf]
      exact ih.trans (List.sublist_cons_self a l |>.filterMap g)

def filterMapRows (f : ρ → Option ρ) (hf : ∀ r r', f r = some r' → key r' = key r) : Table ρ :=
  ⟨t.rows.filterMap f, t.nodup.sublist <| by
    rw [List.map_filterMap, ← List.filterMap_eq_map]
    refine filterMap_sublist (fun r k h => ?_) t.rows
    obtain ⟨r', hr', rfl⟩ := Option.map_eq_some_iff.mp h
    exact congrArg some (hf r r' hr').symm⟩

def modify (k : κ) (f : ρ → ρ) : Table ρ :=
  match t.find? k with
  | none => t
  | some r => t.put (f r)

end

theorem find?_key (h : t.find? k = some r) : key r = k := by
  simpa using List.find?_some h

theorem find?_mem (h : t.find? k = some r) : r ∈ t.rows :=
  List.mem_of_find?_eq_some h

theorem find?_eq_some_iff : t.find? k = some r ↔ r ∈ t.rows ∧ key r = k := by
  constructor
  · intro h
    exact ⟨find?_mem h, find?_key h⟩
  rintro ⟨hmem, hkey⟩
  cases hfound : t.find? k with
  | none =>
    have hno := List.find?_eq_none.mp hfound r hmem
    simp [hkey] at hno
  | some other =>
    have hother := find?_key hfound
    rw [eq_of_key_eq hmem (find?_mem hfound) (hkey.trans hother.symm)]

theorem find?_eq_none_iff : t.find? k = none ↔ ∀ r ∈ t.rows, key r ≠ k := by
  simp [find?]

variable {P : ρ → Prop}

theorem All.find? (h : t.All P) (hr : t.find? k = some r) : P r :=
  h r (find?_mem hr)

theorem mem_put (hx : x ∈ (t.put r).rows) : x = r ∨ x ∈ t.rows := by
  obtain ⟨old, hold, rfl⟩ := List.mem_map.mp hx
  split
  · exact .inl rfl
  · exact .inr hold

theorem mem_put_of_ne (hx : x ∈ t.rows) (hne : key x ≠ key r) : x ∈ (t.put r).rows :=
  List.mem_map.mpr ⟨x, hx, if_neg hne⟩

theorem All.put (h : t.All P) (hr : P r) : (t.put r).All P := by
  intro x hx
  obtain rfl | hold := mem_put hx
  · exact hr
  · exact h x hold

theorem find?_put (t : Table ρ) (r : ρ) (k : κ) :
    (t.put r).find? k = if k = key r then (t.find? k).map fun _ => r else t.find? k := by
  simp only [put, find?, replace]
  induction t.rows with
  | nil => simp
  | cons old rows ih =>
    by_cases hold : key old = key r
    · by_cases hk : k = key r
      · subst hk
        simp [hold]
      · have hrk : ¬key r = k := fun h => hk h.symm
        simp [hold, hrk, ih]
    by_cases hk : key old = k
    · subst hk
      simp [hold]
    · simp only [List.map_cons, hold]
      rw [List.find?_cons_of_neg (by simpa using hk), ih,
        List.find?_cons_of_neg (by simpa using hk)]

theorem find?_put_of_find? (h : t.find? k = some old) (r : ρ) (hkey : key r = k) :
    (t.put r).find? k = some r := by
  rw [find?_put, if_pos hkey.symm, h, Option.map_some]

theorem find?_put_of_ne (h : k ≠ key r) : (t.put r).find? k = t.find? k := by
  rw [find?_put, if_neg h]

theorem map_put {β : Type*} (h : t.find? k = some old) (hkey : key r = k) {f : ρ → β}
    (hf : f r = f old) : (t.put r).rows.map f = t.rows.map f := by
  show (replace r t.rows).map f = _
  rw [replace, List.map_map]
  refine List.map_congr_left fun x hx => ?_
  dsimp only [Function.comp]
  split
  next hx' =>
    have hold := find?_eq_some_iff.mp h
    rw [hf, eq_of_key_eq hx hold.1 ((hx'.trans hkey).trans hold.2.symm)]
  · rfl

theorem put_self (h : t.find? k = some r) : t.put r = t := by
  have hrows : replace r t.rows = t.rows := by
    refine (List.map_congr_left fun old hold => ?_).trans (List.map_id _)
    split
    next hkey =>
      exact eq_of_key_eq (find?_mem h) hold hkey.symm
    · rfl
  cases t
  simp only [put, hrows]

section Related

variable {R : ρ → ρ → Prop}

theorem find?_rel (hkey : ∀ {a b}, R a b → key b = key a) (h : List.Forall₂ R t.rows t'.rows)
    (k : κ) : Option.Rel R (t.find? k) (t'.find? k) := by
  unfold find?
  generalize t.rows = l, t'.rows = l' at h
  induction h with
  | nil => exact .none
  | @cons a b rows rows' hab _ ih =>
    simp only [List.find?_cons, hkey hab]
    split
    · exact .some hab
    · exact ih

theorem put_rel (hkey : ∀ {a b}, R a b → key b = key a) (h : List.Forall₂ R t.rows t'.rows)
    {r' : ρ} (hr : R r r') : List.Forall₂ R (t.put r).rows (t'.put r').rows := by
  refine List.rel_map (fun a b hab => ?_) h
  rw [hkey hab, hkey hr]
  split
  · exact hr
  · exact hab

end Related

theorem find?_modify (t : Table ρ) (k k' : κ) (hf : ∀ r, key (f r) = key r) :
    (t.modify k f).find? k' = if k' = k then (t.find? k').map f else t.find? k' := by
  by_cases hk : k' = k
  · subst hk
    rw [if_pos rfl]
    cases h : t.find? k' with
    | none => simp [modify, h]
    | some r =>
      have hkey : key (f r) = k' := (hf r).trans (find?_key h)
      simp only [modify, h]
      rw [find?_put_of_find? h (f r) hkey, Option.map_some]
  rw [if_neg hk]
  cases h : t.find? k with
  | none => simp [modify, h]
  | some r =>
    have hkey : key (f r) = k := (hf r).trans (find?_key h)
    simp only [modify, h]
    rw [find?_put_of_ne (by rw [hkey]; exact hk)]

def mapRows (t : Table ρ) (f : ρ → ρ) (hf : ∀ r, key (f r) = key r) : Table ρ :=
  ⟨t.rows.map f, by
    rw [List.map_map, show key ∘ f = key from funext hf]
    exact t.nodup⟩

theorem find?_mapRows (t : Table ρ) (hf : ∀ r, key (f r) = key r) (k : κ) :
    (t.mapRows f hf).find? k = (t.find? k).map f := by
  unfold Table.find? mapRows
  rw [List.find?_map]
  simp only [Function.comp_def, hf]

theorem column_put (col : ρ → Int) {r' : ρ} (hr : t.find? (key r) = some r)
    (hkey : key r' = key r) (k : κ) :
    ((t.put r').find? k).map col =
      ((t.find? k).map col).map (· + if k = key r then col r' - col r else 0) := by
  by_cases h : k = key r
  · subst h
    rw [find?_put_of_find? hr r' hkey, hr]
    simp
  · rw [find?_put_of_ne (by rw [hkey]; exact h), if_neg h]
    simp [Function.comp_def]

section Sum

variable {M : Type*} [AddCommMonoid M]

private theorem replace_of_notMem {rows : List ρ} (h : key r ∉ rows.map key) :
    replace r rows = rows := by
  induction rows with
  | nil => rfl
  | cons old rows ih =>
    simp only [List.map_cons, List.mem_cons, not_or] at h
    simp only [replace, List.map_cons] at ih ⊢
    rw [if_neg (Ne.symm h.1), ih h.2]

private theorem sum_replace (w : ρ → M) {rows : List ρ} (hnodup : (rows.map key).Nodup)
    (hold : old ∈ rows) (hkey : key old = key r) :
    ((replace r rows).map w).sum + w old = (rows.map w).sum + w r := by
  induction rows with
  | nil => cases hold
  | cons x rows ih =>
    rw [List.map_cons, List.nodup_cons] at hnodup
    by_cases hx : key x = key r
    · -- The written row is the head; by uniqueness no later row has its key.
      have hrest : key r ∉ rows.map key := hx ▸ hnodup.1
      have hold' : old = x := by
        rcases List.mem_cons.mp hold with h | h
        · exact h
        · exact absurd (List.mem_map.mpr ⟨old, h, hkey⟩) hrest
      subst hold'
      have htail := replace_of_notMem hrest
      simp only [replace, List.map_cons, if_pos hx, List.sum_cons] at htail ⊢
      rw [htail]
      abel
    have hmem : old ∈ rows := by
      rcases List.mem_cons.mp hold with h | h
      · exact absurd (h ▸ hkey) hx
      · exact h
    have ih := ih hnodup.2 hmem
    simp only [replace, List.map_cons, if_neg hx, List.sum_cons] at ih ⊢
    rw [add_assoc, ih, add_assoc]

theorem sum_put (t : Table ρ) (w : ρ → M) (hold : t.find? k = some old) (hkey : key r = k) :
    (t.put r).sum w + w old = t.sum w + w r :=
  sum_replace w t.nodup (find?_mem hold) ((find?_key hold).trans hkey.symm)

theorem sum_create (w : ρ → M) (h : t.create r = some t') : t'.sum w = t.sum w + w r := by
  unfold create at h
  split at h
  · cases h
  · cases h
    simp [sum]

end Sum

theorem create_fresh (h : t.create r = some t') : t.find? (key r) = none := by
  unfold create at h
  split at h
  · cases h
  rename_i hfresh
  rw [find?_eq_none_iff]
  intro x hx hkey
  exact hfresh (List.mem_map.mpr ⟨x, hx, hkey⟩)

theorem create_ne_none (h : t.find? (key r) = none) : t.create r ≠ none := by
  unfold create
  split
  next hused =>
    obtain ⟨x, hx, hkey⟩ := List.mem_map.mp hused
    exact absurd hkey (find?_eq_none_iff.mp h x hx)
  · nofun

theorem create_rows (h : t.create r = some t') : t'.rows = t.rows ++ [r] := by
  unfold create at h
  split at h
  · cases h
  · cases h
    rfl

theorem find?_create (h : t.create r = some t') (k : κ) :
    t'.find? k = if k = key r then some r else t.find? k := by
  have hfresh := create_fresh h
  unfold create at h
  split at h
  · cases h
  cases h
  simp only [find?] at hfresh ⊢
  by_cases hk : k = key r
  · subst hk
    simp [hfresh]
  · have hrk : ¬key r = k := fun h => hk h.symm
    simp [hk, hrk]

theorem mem_create (h : t.create r = some t') : x ∈ t'.rows ↔ x ∈ t.rows ∨ x = r := by
  unfold create at h
  split at h
  · cases h
  · cases h
    simp

theorem All.create (h : t.All P) (hr : P r) (hc : t.create r = some t') : t'.All P := by
  unfold Table.create at hc
  split at hc
  · cases hc
  cases hc
  intro x hx
  rcases List.mem_append.mp hx with hx | hx
  · exact h x hx
  · rw [List.mem_singleton.mp hx]
    exact hr

end Table

end ZModel.Lib
