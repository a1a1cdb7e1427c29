import Mathlib.Algebra.BigOperators.Group.List.Basic
import ZModel.Common.QuotaMath

/-!
# Prices of media tasks

`ModelPriceHelperMedia` of `relay/helper/price.go` prices a task by its model price, by half its
model ratio, or by a tiered expression. Prices are rational numbers.
-/

namespace ZModel.Tasks

open Common

theorem no_ratio_positive : ∀ r ∈ ([] : List (String × ℚ)), 0 < r.2 := nofun

/-- The map `otherRatios`: one positive ratio for each of its keys. -/
structure OtherRatios where
  ratios : List (String × ℚ) := []
  positive : ∀ r ∈ ratios, 0 < r.2 := by
    exact ZModel.Tasks.no_ratio_positive

namespace OtherRatios

variable (o : OtherRatios)

def add (key : String) (ratio : ℚ) : OtherRatios :=
  if h : 0 < ratio then
    ⟨(key, ratio) :: o.ratios.filter fun r => r.1 ≠ key, by
      intro r hr
      obtain rfl | hr := List.mem_cons.mp hr
      · exact h
      · exact o.positive r (List.mem_of_mem_filter hr)⟩
  else o

def addAll (ratios : List (String × ℚ)) : OtherRatios :=
  ratios.foldl (fun o r => o.add r.1 r.2) o

def multiplier : ℚ := (o.ratios.map Prod.snd).prod

end OtherRatios

structure PriceData where
  freeModel : Bool := false
  modelPrice : ℚ := 0
  modelRatio : ℚ := 0
  usePrice : Bool := false
  groupRatio : ℚ := 0
  otherRatios : OtherRatios := {}
  quota : Int := 0
  quotaToPreConsume : Int := 0

structure PriceEnv where
  quotaPerUnit : ℚ := 500000
  groupRatio : ℚ := 1
  enableFreeModelPreConsume : Bool := false
  tieredExpr : Option (Except String ℚ) := none
  freezeInput : Except String Unit := .ok ()
  price : Option ℚ := none
  ratio : Option ℚ := none
  unsetRatio : ℚ := 75 / 2
  acceptUnsetRatio : Bool := false
  notConfigured : String := "model price is not configured"

inductive PriceError where
  | notConfigured (message : String)
  | expression (message : String)
  | clamped (clamp : QuotaClamp)

def strictPrice (quota : Except QuotaClamp Int) : Except PriceError Int :=
  match quota with
  | .ok quota => .ok quota
  | .error clamp => .error (.clamped clamp)

variable (e : PriceEnv)

/-- A group ratio or a price of 0, unless free models are pre-consumed too. -/
def PriceEnv.free (price : ℚ) : Bool :=
  !e.enableFreeModelPreConsume && (e.groupRatio == 0 || price == 0)

def modelPriceHelperPerCall : Except PriceError PriceData :=
  match e.price with
  | some price => do
    let quota ← strictPrice (quotaFromFloatStrict (price * e.quotaPerUnit * e.groupRatio))
    return { freeModel := e.free price, modelPrice := price, usePrice := true
             groupRatio := e.groupRatio, quota := if e.free price then 0 else quota }
  | none =>
    if e.ratio = none ∧ e.acceptUnsetRatio = false then .error (.notConfigured e.notConfigured)
    else do
      let ratio := e.ratio.getD e.unsetRatio
      let quota ← strictPrice (quotaFromFloatStrict (ratio / 2 * e.quotaPerUnit * e.groupRatio))
      return { freeModel := e.free ratio, modelPrice := -1, modelRatio := ratio
               groupRatio := e.groupRatio, quota := if e.free ratio then 0 else quota }

def modelPriceHelperTiered (cost : Except String ℚ) : Except PriceError PriceData × Bool :=
  match cost with
  | .error message => (.error (.expression message), false)
  | .ok rawCost =>
    match quotaRoundStrict (rawCost / 1000000 * e.quotaPerUnit * e.groupRatio) with
    | .error clamp => (.error (.clamped clamp), false)
    | .ok quota =>
      match e.freezeInput with
      | .error message => (.error (.expression message), true)
      | .ok () => (.ok { freeModel := e.free 1, groupRatio := e.groupRatio
                         quotaToPreConsume := if e.free 1 then 0 else quota }, true)

def modelPriceHelperMedia : Except PriceError PriceData × Bool :=
  match e.tieredExpr with
  | none => (modelPriceHelperPerCall e, false)
  | some cost => modelPriceHelperTiered e cost

end ZModel.Tasks
