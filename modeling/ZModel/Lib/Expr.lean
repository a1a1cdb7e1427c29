import Mathlib.Data.List.Basic

/-!
# Expressions with host functions

The syntax trees of a small functional language as rule engines have it.
-/

namespace ZModel.Lib

/-- Expressions over constants `κ` and operators `ω`. A loop binds `#`, `#index` and `#acc`. -/
inductive Expr (κ ω : Type) where
  | const (c : κ)
  | str (s : String)
  | ident (name : String)
  | op (o : ω) (args : List (Expr κ ω))
  | short (o : ω) (left right : Expr κ ω)
  | cond (condition yes no : Expr κ ω)
  | loop (o : ω) (collection body : Expr κ ω) (init : List (Expr κ ω))
  | letIn (name : String) (value body : Expr κ ω)
  | call (callee : Expr κ ω) (args : List (Expr κ ω))

end ZModel.Lib
