import ZModel.Lib.Locking
import ZModel.Lib.Table

/-!
# Redemption codes

`Redeem` of `model/redemption.go` locks the row of the code first, so the calls for one code are
serialisable.
-/

namespace ZModel.Payment

open Lib

inductive RedemptionStatus where
  | enabled
  | disabled
  | used
  deriving DecidableEq

structure Redemption where
  id : Nat
  code : String
  status : RedemptionStatus := .enabled
  quota : Int := 100
  redeemedTime : Int := 0
  usedUserId : Nat := 0
  expiredTime : Int := 0

instance : Keyed Redemption Nat := ⟨Redemption.id⟩

structure RedeemDb where
  redemptions : Table Redemption
  quota : Nat → Option Int

namespace RedeemDb

def find (db : RedeemDb) (code : String) : Option Redemption :=
  db.redemptions.rows.find? fun r => r.code = code

def swaps (id : Nat) (r : Redemption) : Bool := r.id = id && r.status = .enabled

def markUsed (db : RedeemDb) (id user : Nat) (now : Int) : RedeemDb :=
  { db with
    redemptions := db.redemptions.mapRows
      (fun r => if swaps id r then
        { r with redeemedTime := now, status := .used, usedUserId := user } else r)
      (fun r => by split <;> rfl) }

def addQuota (db : RedeemDb) (user : Nat) (quota : Int) : RedeemDb :=
  { db with quota := fun u => if u = user then (db.quota u).map (· + quota) else db.quota u }

end RedeemDb

/-- A call with the times at which it checks the expiry and marks the code. -/
structure RedeemCall where
  userId : Nat
  checkedAt : Int
  redeemedAt : Int

def redeem (code : String) (c : RedeemCall) : Tx String RedeemDb String Int :=
  if code = "" then .fail "未提供兑换码"
  else if c.userId = 0 then .fail "无效的 user id"
  else do
    let found ← Tx.selectForUpdate code fun db => db.find code
    let redemption ← Tx.ofOption "无效的兑换码" found
    Tx.require (redemption.status = .enabled) "该兑换码已被使用"
    Tx.require (¬(redemption.expiredTime ≠ 0 ∧ redemption.expiredTime < c.checkedAt)) "该兑换码已过期"
    let affected ← Tx.updateReturning
      (fun db => db.markUsed redemption.id c.userId c.redeemedAt)
      (fun db => db.redemptions.rows.countP (RedeemDb.swaps redemption.id))
    Tx.require (affected ≠ 0) "该兑换码已被使用"
    Tx.update fun db => db.addQuota c.userId redemption.quota
    return redemption.quota

section Redeem

variable {db₀ db db' : RedeemDb} {code : String}

theorem redeem_locksFirst (code : String) (c : RedeemCall) : (redeem code c).LocksFirst code := by
  unfold redeem
  split
  · trivial
  split
  · trivial
  · rfl

theorem redeem_ok {c : RedeemCall} {quota : Int} (h : (redeem code c).run db = .ok (quota, db')) :
    ∃ r, db.find code = some r ∧ r.status = .enabled ∧ quota = r.quota ∧
      db' = (db.markUsed r.id c.userId c.redeemedAt).addQuota c.userId r.quota := by
  unfold redeem at h
  split at h
  · cases h
  split at h
  · cases h
  simp only [Tx.run_bind_eq_ok, Tx.run_selectForUpdate, Tx.run_ofOption_eq_ok, Tx.run_require_eq_ok,
    Except.ok.injEq, Prod.mk.injEq] at h
  obtain ⟨_, _, ⟨hfind, rfl⟩, r, _, ⟨rfl, rfl⟩, _, _, ⟨henabled, rfl⟩, _, _, ⟨-, rfl⟩, _, _,
    ⟨-, rfl⟩, _, _, ⟨-, rfl⟩, _, _, ⟨-, rfl⟩, rfl, rfl⟩ := h
  exact ⟨r, hfind, henabled, rfl, rfl⟩

theorem find_markUsed {r : Redemption} (hfind : db.find code = some r) (henabled : r.status = .enabled)
    (user : Nat) (now : Int) :
    (db.markUsed r.id user now).find code =
      some { r with redeemedTime := now, status := .used, usedUserId := user } := by
  have hcode : ((fun r : Redemption => decide (r.code = code)) ∘ fun t =>
      if RedeemDb.swaps r.id t = true then
        { t with redeemedTime := now, status := .used, usedUserId := user } else t) =
      fun r => decide (r.code = code) := by
    funext t
    dsimp only [Function.comp]
    split <;> rfl
  unfold RedeemDb.find at hfind ⊢
  dsimp only [RedeemDb.markUsed, Table.mapRows]
  rw [List.find?_map, hcode, hfind]
  simp [RedeemDb.swaps, henabled]

def succeeded {Job : Type} (results : List (Job × Option (Except String Int))) : List Job :=
  results.filterMap fun
    | (j, some (.ok _)) => some j
    | _ => none

def RedeemedOnce (code : String) (db₀ : RedeemDb)
    (results : List (RedeemCall × Option (Except String Int))) (db : RedeemDb) : Prop :=
  (succeeded results = [] ∧ db = db₀) ∨
  ∃ c r, db₀.find code = some r ∧ succeeded results = [c] ∧
    db.quota = (db₀.addQuota c.userId r.quota).quota ∧ ∃ t, db.find code = some t ∧ t.status = .used

section

variable {Job : Type} (results : List (Job × Option (Except String Int))) (j : Job)

include results j

theorem succeeded_snoc_ok
    (quota : Int) : succeeded (results ++ [(j, some (.ok quota))]) = succeeded results ++ [j] := by
  simp [succeeded]

theorem succeeded_snoc_error
    (e : String) : succeeded (results ++ [(j, some (.error e))]) = succeeded results := by
  simp [succeeded]

theorem succeeded_snoc_lost : succeeded (results ++ [(j, none)]) = succeeded results := by
  simp [succeeded]

end

theorem redeemedOnce {results : List (RedeemCall × Option (Except String Int))}
    (h : Replays (redeem code) db₀ results db) : RedeemedOnce code db₀ results db := by
  induction h with
  | nil => exact .inl ⟨rfl, rfl⟩
  | lost h ih =>
    unfold RedeemedOnce
    rw [succeeded_snoc_lost]
    exact ih
  | failed h hrun ih =>
    unfold RedeemedOnce
    rw [succeeded_snoc_error]
    exact ih
  | @committed results db c quota db' h hrun ih =>
    obtain ⟨r, hfind, henabled, rfl, rfl⟩ := redeem_ok hrun
    obtain ⟨hnone, rfl⟩ | ⟨-, -, -, -, -, t, hused, hstatus⟩ := ih
    · refine .inr ⟨c, r, hfind, ?_, rfl, _, find_markUsed hfind henabled _ _, rfl⟩
      rw [succeeded_snoc_ok, hnone, List.nil_append]
    -- The code has been used by another call.
    obtain rfl : r = t := Option.some.inj (hfind.symm.trans hused)
    rw [henabled] at hstatus
    cases hstatus

end Redeem

/-- For every code and every interleaving of calls: either no call has succeeded and all balances
are as before, or exactly one has, no other balance has changed, and its user got the quota exactly
if the row of the user is stored. -/
theorem redeem_once (code : String) (db : RedeemDb) (moves : List (SessionMove RedeemCall)) :
    let st := run (Sessions.step (redeem code)) (.idle db) moves
    (succeeded st.results = [] ∧ st.committed.quota = db.quota) ∨
    ∃ c r, succeeded st.results = [c] ∧ db.find code = some r ∧
      (∀ u, u ≠ c.userId → st.committed.quota u = db.quota u) ∧
      ((∃ balance, db.quota c.userId = some balance ∧
        st.committed.quota c.userId = some (balance + r.quota)) ↔ (db.quota c.userId).isSome) := by
  intro st
  obtain ⟨hnone, hsame⟩ | ⟨c, r, hfind, hone, hquota, -⟩ :=
    redeemedOnce (serialisable (redeem_locksFirst code) db moves)
  · exact .inl ⟨hnone, congrArg RedeemDb.quota hsame⟩
  refine .inr ⟨c, r, hone, hfind, fun u hu => ?_, ?_⟩
  · rw [hquota]
    exact if_neg hu
  · rw [hquota]
    cases hrow : db.quota c.userId with
    | none => simp
    | some balance => simp [RedeemDb.addQuota, hrow]

def oneCode : RedeemDb where
  redemptions := .single { id := 1, code := "code" }
  quota u := if u = 1 ∨ u = 2 then some 0 else none

def caller (user : Nat) : RedeemCall := ⟨user, 1000, 1000⟩

/-- The second caller waits for the first and then finds the code used. -/
theorem redeem_once_two_callers :
    let st := run (Sessions.step (redeem "code")) (.idle oneCode)
      ([.begin 0 (caller 1), .begin 1 (caller 2)] ++ (List.replicate 8 [.run 0, .run 1]).flatten)
    st.results.length = 2 ∧ succeeded st.results = [caller 1] ∧
      st.committed.quota 1 = some 100 ∧ st.committed.quota 2 = some 0 := by
  intro st
  have hone : succeeded st.results = [caller 1] := rfl
  obtain ⟨hnone, -⟩ | ⟨c, r, hc, hr, hothers, hcredited⟩ := redeem_once "code" oneCode
    ([.begin 0 (caller 1), .begin 1 (caller 2)] ++ (List.replicate 8 [.run 0, .run 1]).flatten)
  · cases hone.symm.trans hnone
  obtain rfl : c = caller 1 := by
    cases hc.symm.trans hone
    rfl
  cases hr
  obtain ⟨balance, hbalance, hcredited⟩ := hcredited.mpr rfl
  cases hbalance
  exact ⟨rfl, hone, hcredited, hothers 2 (by decide)⟩

/-- A caller whose row is gone uses the code up, and no balance changes. -/
theorem redeemed_by_nobody :
    let st := run (Sessions.step (redeem "code")) (.idle oneCode)
      (.begin 0 (caller 3) :: .replicate 5 (.run 0))
    succeeded st.results = [caller 3] ∧ ∀ u, st.committed.quota u = oneCode.quota u := by
  refine ⟨rfl, fun u => ?_⟩
  show (if u = 3 then _ else _) = _
  split
  next hu => rw [hu]; rfl
  · rfl

end ZModel.Payment
