import ZModel.Lib.Table

/-!
# Charges drawn on accounts

A movement changes the charge of one item and takes the difference from the accounts it draws on, so
the balance plus the charges stays.
-/

namespace ZModel.Lib

structure Charging (ρ A : Type*) where
  charge : ρ → Int
  draws : ρ → A → Bool

namespace Charging

variable {ρ A κ : Type*} [Keyed ρ κ] [DecidableEq κ] (c : Charging ρ A)

def share (r : ρ) (a : A) : Int := if c.draws r a then c.charge r else 0

def held (items : Table ρ) (a : A) : Int := items.sum fun r => c.share r a

def total (balance : A → Option Int) (items : Table ρ) (a : A) : Option Int :=
  (balance a).map (· + c.held items a)

def Takes (r : ρ) (δ : Int) (before after : A → Option Int) : Prop :=
  ∀ a, after a = (before a).map (· - if c.draws r a then δ else 0)

theorem total_put {items : Table ρ} {old new : ρ} {k : κ} (hold : items.find? k = some old)
    (hkey : key new = k) (hdraws : c.draws new = c.draws old) {before after : A → Option Int}
    (htakes : c.Takes old (c.charge new - c.charge old) before after) (a : A) :
    c.total after (items.put new) a = c.total before items a := by
  have hsum : c.held (items.put new) a + c.share old a = c.held items a + c.share new a :=
    items.sum_put (fun r => c.share r a) hold hkey
  have hmove : (if c.draws old a then c.charge new - c.charge old else 0) =
      c.share new a - c.share old a := by
    simp only [share, hdraws]
    split <;> simp
  rw [total, total, htakes a]
  cases before a with
  | none => rfl
  | some b =>
    simp only [Option.map_some, Option.some.injEq]
    omega

theorem total_create {items items' : Table ρ} {new : ρ} (hnew : items.create new = some items')
    {before after : A → Option Int} (htakes : c.Takes new (c.charge new) before after) (a : A) :
    c.total after items' a = c.total before items a := by
  have hsum : c.held items' a = c.held items a + c.share new a :=
    Table.sum_create (fun r => c.share r a) hnew
  rw [total, total, htakes a, hsum]
  cases before a with
  | none => rfl
  | some b =>
    simp only [Option.map_some, Option.some.injEq, share]
    omega

end Charging

end ZModel.Lib
