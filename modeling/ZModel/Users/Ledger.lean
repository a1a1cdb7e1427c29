import Mathlib.Algebra.Group.Int.Defs
import Mathlib.Algebra.Group.Prod
import ZModel.Users.Requests

/-!
# The ledgers of a user row

Wallet and affiliate quota are sums of movements as long as no registration or account edit writes
back a value that is no longer stored.
-/

namespace ZModel.Users

open Lib
open Store (Write)

def User.funds (u : User) : Int × Int := (u.quota, u.affQuota)

def held (users : Table User) (id : Nat) : Int × Int := ((users.find? id).map User.funds).getD 0

def moved (movements : List Movement) (id : Nat) : Int × Int :=
  (movements.map fun m => if m.user = id then (m.quota, m.affQuota) else 0).sum

theorem moved_cons (m : Movement) (ms : List Movement) (id : Nat) :
    moved (m :: ms) id = moved ms id + if id = m.user then (m.quota, m.affQuota) else 0 := by
  rw [add_comm]
  simp only [eq_comm (a := id)]
  rfl

def Balanced (start : Table User) (db : Db) : Prop :=
  ∀ id, held db.users id = held start id + moved db.movements id

section Writes

variable {start users : Table User} {ms : List Movement} {k : Nat} {row : User}

theorem held_of_find? (h : users.find? k = some row) : held users k = row.funds := by
  rw [held, h, Option.map_some, Option.getD_some]

theorem held_put (h : users.find? k = some row) {u : User} (hid : u.id = k) (id : Nat) :
    held (users.put u) id = if id = k then u.funds else held users id := by
  split
  next heq =>
    rw [heq]
    exact held_of_find? (Table.find?_put_of_find? h u hid)
  next hne =>
    unfold held
    rw [Table.find?_put_of_ne (by rwa [key_user, hid])]

theorem balanced_put_iff (hinv : Balanced start ⟨users, ms⟩) (h : users.find? k = some row)
    {u : User} (hid : u.id = k) {ms' : List Movement} {δ : Int × Int}
    (hmoved : ∀ id, moved ms' id = moved ms id + if id = k then δ else 0) :
    Balanced start ⟨users.put u, ms'⟩ ↔ u.funds = row.funds + δ := by
  have hrow : row.funds = held start k + moved ms k := (held_of_find? h).symm.trans (hinv k)
  constructor
  · intro hbalanced
    have hk := hbalanced k
    rw [held_put h hid, if_pos rfl, hmoved, if_pos rfl] at hk
    rw [hk, hrow, add_assoc]
  intro hfunds id
  rw [held_put h hid, hmoved]
  split
  next heq =>
    rw [heq, hfunds, hrow, add_assoc]
  · rw [add_zero]
    exact hinv id

end Writes

/-! ## Exactly the stale writes break the balance -/

def fresh : Op → World → Db → Prop
  | .updates u, w, db => w.write = .done → ∀ row ∈ db.users.find? u.id,
      u.affQuota = 0 ∨ u.affQuota = row.affQuota
  | .save u reward, w, db => w.write = .done → ∀ row ∈ db.users.find? u.id,
      u.quota = row.quota ∧ u.affQuota = row.affQuota + reward
  | _, _, _ => True

theorem funds_updates (row u : User) :
    (row.updates u).funds = row.funds ↔ u.affQuota = 0 ∨ u.affQuota = row.affQuota := by
  have hquota : (row.updates u).quota = row.quota := by
    simp [User.updates, User.quota, User.omitted]
  unfold User.funds
  rw [hquota]
  by_cases hzero : u.affQuota = 0
  · have haff : (row.updates u).affQuota = row.affQuota := if_pos (.inr hzero)
    simp [haff, hzero]
  have haff : (row.updates u).affQuota = u.affQuota := by
    refine if_neg (not_or.mpr ⟨?_, hzero⟩)
    decide
  simp [haff, hzero]

theorem funds_addQuota (u : User) (δ : Int) : (u.add .quota δ).funds = u.funds + (δ, 0) := by
  simp [User.funds, User.add, User.setNumber, User.quota, User.affQuota]

theorem funds_transfer (u : User) (quota : Int) :
    ((u.add .affQuota (-quota)).add .quota quota).funds = u.funds + (quota, -quota) := by
  simp [User.funds, User.add, User.setNumber, User.quota, User.affQuota]

theorem create_balanced {start users users' : Table User} {ms : List Movement}
    (hinv : Balanced start ⟨users, ms⟩) {u : User} (h : users.create u = some users') :
    Balanced start ⟨users', ⟨u.id, u.quota, u.affQuota⟩ :: ms⟩ := by
  intro id
  have hid := hinv id
  rw [moved_cons, ← add_assoc, ← hid, held, Table.find?_create h, key_user]
  split
  next heq =>
    have hnone : held users id = 0 := by
      rw [heq, held, show users.find? u.id = none from Table.create_fresh h]
      rfl
    rw [hnone, zero_add]
    rfl
  · rw [add_zero]
    rfl

theorem exec_fails {w : World} (hw : w.write = .fails) (node : Nat) (o : Op) (db : Db) :
    (exec node o w db).2 = db := by
  cases o <;> simp only [exec, hw]

theorem exec_balanced_iff (start : Table User) (node : Nat) (o : Op) (w : World) (db : Db)
    (hinv : Balanced start db) : Balanced start (exec node o w db).2 ↔ fresh o w db := by
  obtain ⟨users, ms⟩ := db
  cases hw : w.write with
  | fails =>
    rw [exec_fails hw]
    refine iff_of_true hinv ?_
    cases o with
    | updates u | save u reward => exact fun hdone => absurd (hw.symm.trans hdone) nofun
    | _ => trivial
  | done =>
    cases o with
    | first id | firstByUsername name | accessTokenTaken id key | emailTaken email id =>
      simp only [exec, hw, fresh, iff_true]
      exact hinv
    | create u =>
      refine iff_of_true ?_ trivial
      dsimp only [exec]
      rw [hw]
      cases hcreate : users.create { u with id := w.newId } with
      | none => exact hinv
      | some users' => exact create_balanced hinv hcreate
    | addQuota id δ =>
      refine iff_of_true ?_ trivial
      dsimp only [exec]
      rw [hw]
      cases hrow : users.find? id with
      | none => exact hinv
      | some u =>
        refine (balanced_put_iff hinv hrow (u := u.add .quota δ) (Table.find?_key hrow)
          (moved_cons ⟨id, δ, 0⟩ ms)).mpr ?_
        exact funds_addQuota u δ
    | transferAffQuotaToQuota id quota =>
      refine iff_of_true ?_ trivial
      dsimp only [exec]
      rw [hw]
      cases hrow : users.find? id with
      | none => exact hinv
      | some u =>
        dsimp only
        split
        · exact hinv
        refine (balanced_put_iff hinv hrow
          (u := (u.add .affQuota (-quota)).add .quota quota) (Table.find?_key hrow)
          (moved_cons ⟨id, quota, -quota⟩ ms)).mpr ?_
        exact funds_transfer u quota
    | updates u =>
      dsimp only [exec, fresh]
      rw [hw]
      cases hrow : users.find? u.id with
      | none => exact iff_of_true hinv fun _ _ hmem => absurd hmem (Option.not_mem_none _)
      | some row =>
        refine (balanced_put_iff hinv hrow (u := row.updates u) (Table.find?_key hrow)
          (δ := 0) fun id => ?_).trans ?_
        · rw [ite_self, add_zero]
        · rw [add_zero, funds_updates]
          simp
    | save u reward =>
      dsimp only [exec, fresh]
      rw [hw]
      cases hrow : users.find? u.id with
      | none => exact iff_of_true hinv fun _ _ hmem => absurd hmem (Option.not_mem_none _)
      | some row =>
        refine (balanced_put_iff hinv hrow (u := u) rfl
          (moved_cons ⟨u.id, 0, reward⟩ ms)).trans ?_
        simp [User.funds]

/-- In every interleaving of charges, credits, transfers, registrations and edits every user always
holds what they held at the start and what was moved since if and only if no registration or edit
writes back a quota no longer stored. -/
theorem ledgers_balanced_iff (users : Table User) (moves : List (Move Job World)) :
    (∀ before, before <+: moves →
      let db := (run (System.step machine program) ⟨⟨users, []⟩, []⟩ before).state
      ∀ id, held db.users id = held users id + moved db.movements id) ↔
      Along (System.step machine program) (Conditions.operations fresh).Meets
        ⟨⟨users, []⟩, []⟩ moves := by
  have hstart : Balanced users ⟨users, []⟩ := fun id => (add_zero _).symm
  exact System.invariant_iff (Balanced users) (exec_balanced_iff users) (fun _ _ _ => rfl)
    (fun _ _ => rfl) hstart moves

def sampleUsers (quota affQuota : Int) : Table User :=
  ⟨[(User.setNumber { id := 1 } .quota quota).setNumber .affQuota affQuota], List.nodup_singleton _⟩

def chargeLost : List (Move Job World) :=
  .start 0 (.register { quotaForInviter := 5 } (User.setText { id := 0 } .username "new") 1) ::
    (List.replicate 7 (.run 0 { newId := 2 }) ++
      [.start 0 (.decreaseUserQuota 1 60), .run 1 {}, .run 0 {}])

def transferRestored : List (Move Job World) :=
  .start 0 (.manageUser roleRootUser 1 .disable) :: (List.replicate 2 (.run 0 {}) ++
    .start 0 (.transferAffQuota {} 1 500000) :: (List.replicate 2 (.run 1 {}) ++ [.run 0 {}]))

/-- The charge is undone by the registration, and the transferred quota is there again after the
edit. -/
theorem ledgers_not_balanced :
    (let db := (run (System.step machine program) ⟨⟨sampleUsers 100 0, []⟩, []⟩ chargeLost).state
     held (sampleUsers 100 0) 1 = (100, 0) ∧ moved db.movements 1 = (-60, 5) ∧
      held db.users 1 = (100, 5)) ∧
    (let db := (run (System.step machine program) ⟨⟨sampleUsers 0 500000, []⟩, []⟩
      transferRestored).state
     held (sampleUsers 0 500000) 1 = (0, 500000) ∧ moved db.movements 1 = (500000, -500000) ∧
      held db.users 1 = (500000, 500000)) := by
  decide +kernel

end ZModel.Users
