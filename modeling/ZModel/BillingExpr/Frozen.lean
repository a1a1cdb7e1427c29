import ZModel.BillingExpr.Freeze

/-!
# What a frozen request keeps

It has the values of the request at the references of the expression.
-/

namespace ZModel.BillingExpr

open Lib

section Frozen

variable {κ ω : Type} {R : BodyReader} {encodedSize : RequestInput → Nat} {e : Expr κ ω}
  {refs : RequestReferences}

theorem header_normalizeKey (request : RequestInput) (s : String) :
    request.header (normalizeKey s) = request.header s := by
  rw [RequestInput.header, normalizeKey_normalizeKey]
  rfl

theorem trimSpace_header (input : RequestInput) (k : String) :
    trimSpace (input.header k) = input.header k := by
  rw [← header_normalizeKey]
  obtain ⟨a, -, -, hvalue⟩ | hempty := header_cases input (normalizeKey_normalizeKey k)
  · rw [hvalue, trimSpace_trimSpace]
  · rw [hempty]
    rfl

theorem normalizeHeaders_eq_self {headers : List (String × String)}
    (h : ∀ a ∈ headers, (normalizeKey a.1 = a.1 ∧ a.1 ≠ "") ∧ trimSpace a.2 = a.2 ∧ a.2 ≠ "") :
    normalizeHeaders headers = headers := by
  induction headers with
  | nil => rfl
  | cons a headers ih =>
    obtain ⟨ha, hheaders⟩ := List.forall_mem_cons.mp h
    obtain ⟨⟨hkey, hkey'⟩, hvalue, hvalue'⟩ := ha
    rw [normalizeHeaders, List.filterMap_cons_some (b := a)]
    · exact congrArg (a :: ·) (ih hheaders)
    · rw [hkey, hvalue, if_neg (by simp [hkey', hvalue'])]

theorem mem_frozenInput_headers {header : String → String} {param : String → Option Json}
    {a : String × String} (ha : a ∈ (frozenInput refs header param).headers) :
    a.1 ∈ refs.headers ∧ header a.1 = a.2 ∧ a.2 ≠ "" := by
  obtain ⟨k, hk, hsome⟩ := List.mem_filterMap.mp ha
  obtain ⟨v, hv, rfl⟩ := Option.map_eq_some_iff.mp hsome
  beta_reduce at hv
  by_cases hempty : header k = ""
  · rw [if_pos hempty] at hv
    cases hv
  rw [if_neg hempty] at hv
  obtain rfl := Option.some.inj hv
  exact ⟨hk, rfl, hempty⟩

theorem frozenInput_agrees (hrefs : referencedRequestInput e = .ok refs) (input : RequestInput) :
    AgreeAt R refs (frozenInput refs input.header (input.param R)) input := by
  have hspec := referencedRequestInput_spec hrefs
  have hnormal : normalizeHeaders (frozenInput refs input.header (input.param R)).headers =
      (frozenInput refs input.header (input.param R)).headers := by
    refine normalizeHeaders_eq_self fun a ha => ?_
    obtain ⟨hmem, hvalue, hne⟩ := mem_frozenInput_headers ha
    exact ⟨hspec.key hmem, by rw [← hvalue, trimSpace_header], hne⟩
  constructor
  · intro k hk
    conv_lhs => rw [RequestInput.header, hnormal, (hspec.key hk).1]
    show ((entries _ refs.headers).lookup k).getD "" = _
    rw [lookup_entries _ hk]
    split
    next hempty =>
      exact hempty.symm
    · rfl
  intro p hp
  obtain ⟨htrim, hne⟩ := hspec.path hp
  conv_lhs => rw [RequestInput.param]
  simp only [htrim, if_neg hne]
  have hparams : (frozenInput refs input.header (input.param R)).params =
      entries (input.param R) refs.params := rfl
  rw [hparams, lookup_entries _ hp]
  cases input.param R p <;> rfl

theorem freeze_ok {input frozen : RequestInput} (hinput : Consistent input.headers)
    (hfreeze : freezeBillingExprRequestInput R encodedSize e input = .ok frozen) :
    ∃ refs, referencedRequestInput e = .ok refs ∧
      frozen = frozenInput refs input.header (input.param R) := by
  have hrefs : ∃ refs, referencedRequestInput e = .ok refs := by
    obtain ⟨refs, hrefs, -⟩ := bind_eq_ok.mp hfreeze
    exact ⟨refs, hrefs⟩
  obtain ⟨refs, hrefs⟩ := hrefs
  refine ⟨refs, hrefs, ?_⟩
  rw [freeze_eq hrefs hinput] at hfreeze
  split at hfreeze
  · cases hfreeze
  split at hfreeze
  · cases hfreeze
  · exact (Except.ok.inj hfreeze).symm

end Frozen

def noBody : BodyReader := ⟨fun _ _ => none, fun _ => rfl⟩

def tierBy (callee : Expr ℚ String) : Expr ℚ String :=
  .cond (.op "==" [.call callee [.str "x-tier"], .str "pro"])
    (.call (.ident "tier") [.str "pro", .const 5]) (.call (.ident "tier") [.str "base", .const 1])

end ZModel.BillingExpr
