import ZModel.Store.Accounts

/-!
# Balances

Wallets, subscriptions and tokens under one view. `TakesFrom` says that two states of the tables
differ by an amount on one account; every quota write is such a movement.
-/

namespace ZModel.Store

open Lib

variable {a a' b c : Accounts} {m n δ : Int}

inductive Account where
  | wallet (user : Nat)
  | subscription (id : Nat)
  | token (id : Nat)
  deriving DecidableEq

def balance (a : Accounts) : Account → Option Int
  | .wallet u => a.userQuota u
  | .subscription s => (a.subscriptionUsed s).map fun used => -used
  | .token k => a.tokenRemain k

def TakesFrom (target : Account) (δ : Int) (a a' : Accounts) : Prop :=
  ∀ acc, balance a' acc = (balance a acc).map (· - if acc = target then δ else 0)

theorem map_sub_zero (o : Option Int) : o.map (· - 0) = o := by
  cases o <;> simp

theorem takesFrom_zero (target : Account) (a : Accounts) : TakesFrom target 0 a a := by
  intro acc
  cases balance a acc <;> simp

theorem takesFrom_saveUser {u : User} (hu : a.users.find? u.id = some u) (u' : User)
    (hid : u'.id = u.id) (hquota : u'.quota = u.quota - δ) :
    TakesFrom (.wallet u.id) δ a (a.saveUser u') := by
  intro acc
  cases acc with
  | wallet v =>
    simp only [balance, Accounts.userQuota_saveUser hu u' hid v, Account.wallet.injEq]
    congr 1
    funext x
    split <;> omega
  | subscription s => exact (map_sub_zero _).symm
  | token k => exact (map_sub_zero _).symm

theorem takesFrom_saveToken {t : Token} (ht : a.tokens.find? t.id = some t) (t' : Token)
    (hid : t'.id = t.id) (hremain : t'.remainQuota = t.remainQuota - δ) :
    TakesFrom (.token t.id) δ a (a.saveToken t') := by
  intro acc
  cases acc with
  | wallet v => exact (map_sub_zero _).symm
  | subscription s => exact (map_sub_zero _).symm
  | token k =>
    simp only [balance, Accounts.tokenRemain_saveToken ht t' hid k, Account.token.injEq]
    congr 1
    funext x
    split <;> omega

theorem takesFrom_token_zero (a : Accounts) (δ : Int) : TakesFrom (.token 0) δ a a := by
  intro acc
  by_cases h : acc = .token 0
  · subst h
    have hnone : a.tokens.find? 0 = none := by
      cases ht : a.tokens.find? 0 with
      | none => rfl
      | some t => exact absurd (Table.find?_key ht) (Nat.ne_of_gt t.id_pos)
    simp [balance, Accounts.tokenRemain, hnone]
  · rw [if_neg h]
    exact (map_sub_zero _).symm

theorem takesFrom_used {id : Nat} (husers : a'.users = a.users) (htokens : a'.tokens = a.tokens)
    (hused : ∀ s, a'.subscriptionUsed s =
      (a.subscriptionUsed s).map (· + if s = id then δ else 0)) :
    TakesFrom (.subscription id) δ a a' := by
  intro acc
  cases acc with
  | wallet u =>
    have hsame : balance a' (.wallet u) = balance a (.wallet u) := by
      simp only [balance, Accounts.userQuota, husers]
    rw [hsame]
    exact (map_sub_zero _).symm
  | token k =>
    have hsame : balance a' (.token k) = balance a (.token k) := by
      simp only [balance, Accounts.tokenRemain, htokens]
    rw [hsame]
    exact (map_sub_zero _).symm
  | subscription s =>
    simp only [balance, hused s, Account.subscription.injEq]
    cases a.subscriptionUsed s with
    | none => rfl
    | some used =>
      simp only [Option.map_some, Option.some.injEq]
      omega

theorem takesFrom_addUserQuota (a : Accounts) (id : Nat) (δ : Int) :
    TakesFrom (.wallet id) δ a (a.addUserQuota id (-δ)) := by
  intro acc
  cases acc with
  | wallet v =>
    simp only [balance, Accounts.userQuota_addUserQuota, Account.wallet.injEq]
    split
    · rfl
    · exact (map_sub_zero _).symm
  | subscription s => exact (map_sub_zero _).symm
  | token k => exact (map_sub_zero _).symm

theorem takesFrom_addTokenQuota (a : Accounts) (id : Nat) (δ : Int) :
    TakesFrom (.token id) δ a (a.addTokenQuota id (-δ)) := by
  intro acc
  cases acc with
  | wallet v => exact (map_sub_zero _).symm
  | subscription s => exact (map_sub_zero _).symm
  | token k =>
    simp only [balance, Accounts.tokenRemain_addTokenQuota, Account.token.injEq]
    split
    · rfl
    · exact (map_sub_zero _).symm

/-- Two states that differ by `n` on one account and by `m` on another. -/
def Drawn (f t : Account) (n m : Int) (a a' : Accounts) : Prop :=
  ∀ acc, balance a' acc =
    (balance a acc).map (· - ((if acc = f then n else 0) + if acc = t then m else 0))

theorem drawn_refl (f t : Account) (a : Accounts) : Drawn f t 0 0 a a := by
  intro acc
  cases balance a acc <;> simp

variable {f t : Account}

section

variable (h : Drawn f t n m a b)

include h

theorem Drawn.first (hδ : TakesFrom f δ b c) : Drawn f t (n + δ) m a c := by
  intro acc
  rw [hδ acc, h acc, Option.map_map]
  congr 1
  funext x
  simp only [Function.comp]
  split <;> omega

theorem Drawn.second (hδ : TakesFrom t δ b c) : Drawn f t n (m + δ) a c := by
  intro acc
  rw [hδ acc, h acc, Option.map_map]
  congr 1
  funext x
  simp only [Function.comp]
  split <;> split <;> omega

theorem Drawn.trans {n' m' : Int} (h' : Drawn f t n' m' b c) : Drawn f t (n + n') (m + m') a c := by
  intro acc
  rw [h' acc, h acc, Option.map_map]
  congr 1
  funext x
  simp only [Function.comp]
  split <;> split <;> omega

theorem Drawn.symm : Drawn t f m n a b := by
  intro acc
  rw [h acc]
  congr 1
  funext x
  rw [Int.add_comm]

end

theorem drawn_of_balance_eq (f t : Account) (h : balance a' = balance a) : Drawn f t 0 0 a a' := by
  intro acc
  rw [h]
  exact drawn_refl f t a acc

theorem Drawn.first_unique {n' m' : Int} (h : Drawn f t n m a b)
    (h' : Drawn f t n' m' a b) (hne : f ≠ t) (hf : balance a f ≠ none) : n = n' := by
  obtain ⟨x, hx⟩ := Option.ne_none_iff_exists'.mp hf
  have hsame := (h f).symm.trans (h' f)
  simp only [hx, Option.map_some, if_pos, if_neg hne, Option.some.injEq] at hsame
  omega

theorem Drawn.balance_first (h : Drawn f t n m a a') (hne : f ≠ t) :
    balance a' f = (balance a f).map (· - n) := by
  rw [h f]
  simp only [if_pos, if_neg hne, Int.add_zero]

theorem Drawn.balance_eq (h : Drawn f t 0 0 a a') : balance a' = balance a := by
  funext acc
  rw [h acc]
  simp

end ZModel.Store
