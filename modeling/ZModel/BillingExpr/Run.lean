import ZModel.Lib.Expr
import ZModel.Lib.Json
import ZModel.Lib.Text

/-!
# What billing expressions read

The inputs of `pkg/billingexpr/run.go`, and `header` and `param`, which read the request. The JSON
library is a parameter.
-/

namespace ZModel.BillingExpr

open Lib

structure RequestInput where
  headers : List (String × String) := []
  body : String := ""
  params : List (String × Json) := []

structure TokenParams where
  p : ℚ := 0
  c : ℚ := 0
  len : ℚ := 0
  cr : ℚ := 0
  cc : ℚ := 0
  cc1h : ℚ := 0
  img : ℚ := 0
  imgO : ℚ := 0
  ai : ℚ := 0
  ao : ℚ := 0
  total : ℚ := 0
  evaluationTime : Option Int := none

inductive EvaluationPhase where
  | actual
  | estimate

structure BillingDimensions where
  units : ℚ := 0
  seconds : ℚ := 0
  width : ℚ := 0
  height : ℚ := 0
  referenceImageCount : ℚ := 0
  referenceVideoCount : ℚ := 0
  referenceAudioCount : ℚ := 0
  quality : String := ""
  resolutionTier : String := ""
  imageSizeTier : String := ""
  imageSize : String := ""
  deriving DecidableEq

structure TraceResult where
  matchedTier : String := ""
  cost : Option ℚ := some 0

/-- `gjson.GetBytes`: the value at a path of a body. An empty body has none. -/
structure BodyReader where
  get : String → String → Option Json
  get_empty : ∀ path, get "" path = none

section Environment

variable (R : BodyReader)

def normalizeKey (key : String) : String := lower (trimSpace key)

def normalizeHeaders (headers : List (String × String)) : List (String × String) :=
  headers.filterMap fun h =>
    if normalizeKey h.1 = "" ∨ trimSpace h.2 = "" then none
    else some (normalizeKey h.1, trimSpace h.2)

def RequestInput.header (request : RequestInput) (key : String) : String :=
  ((normalizeHeaders request.headers).lookup (normalizeKey key)).getD ""

def RequestInput.param (request : RequestInput) (path : String) : Option Json :=
  let path := trimSpace path
  if path = "" then none
  else
    match request.params.lookup path with
    | some value => some value
    | none => if request.body = "" then none else R.get request.body path

structure RunEnv where
  params : TokenParams := {}
  dimensions : BillingDimensions := {}
  phase : EvaluationPhase := .actual
  now : Int := 0

end Environment

end ZModel.BillingExpr
