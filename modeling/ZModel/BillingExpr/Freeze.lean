import Mathlib.Data.List.Dedup
import Mathlib.Data.List.Sort
import ZModel.BillingExpr.Run
import ZModel.Lib.Transaction

/-!
# Freezing the request of an expression

`ReferencedRequestInput` of `pkg/billingexpr/compile.go` collects the literal arguments of `header`
and `param`; `FreezeBillingExprRequestInput` keeps the values there.
-/

namespace ZModel.BillingExpr

open Lib
open List (forall_mem_append)

variable {found : List (String × String)} {input : RequestInput} {k : String}

inductive FreezeError where
  | argumentCount (f : String)
  | notLiteral (f : String)
  | emptyArgument (f : String)
  | sensitive (key : String)
  | tooLarge

def maxFrozenBillingRequestInputBytes : Nat := 65536

section References

variable {κ ω : Type}

def reader (f : String) : Bool := f == "header" || f == "param"

def reference (f : String) (argument : String) : String × String :=
  (f, if f = "header" then normalizeKey argument else trimSpace argument)

def visitCall : Expr κ ω → List (Expr κ ω) → Except FreezeError (List (String × String))
  | .ident f, args =>
    if reader f then
      match args with
      | [.str argument] =>
        if trimSpace argument = "" then .error (.emptyArgument f)
        else .ok [reference f argument]
      | [_] => .error (.notLiteral f)
      | _ => .error (.argumentCount f)
    else .ok []
  | _, _ => .ok []

mutual

/-- `ast.Find` with the visitor: the children first, then the node. -/
def walk : Expr κ ω → Except FreezeError (List (String × String))
  | .const _ => .ok []
  | .str _ => .ok []
  | .ident _ => .ok []
  | .op _ args => walkArgs args
  | .short _ left right => return (← walk left) ++ (← walk right)
  | .cond condition yes no => return (← walk condition) ++ (← walk yes) ++ (← walk no)
  | .loop _ collection body init =>
    return (← walk collection) ++ (← walk body) ++ (← walkArgs init)
  | .letIn _ value body => return (← walk value) ++ (← walk body)
  | .call callee args => return (← walk callee) ++ (← walkArgs args) ++ (← visitCall callee args)

def walkArgs : List (Expr κ ω) → Except FreezeError (List (String × String))
  | [] => .ok []
  | e :: es => return (← walk e) ++ (← walkArgs es)

end

structure RequestReferences where
  headers : List String
  params : List String

def argumentsOf (f : String) (found : List (String × String)) : List String :=
  (((found.filter fun r => r.1 = f).map Prod.snd).dedup).insertionSort (· ≤ ·)

def referencedRequestInput (e : Expr κ ω) : Except FreezeError RequestReferences := do
  let found ← walk e
  return ⟨argumentsOf "header" found, argumentsOf "param" found⟩

mutual

def usedVars : Expr κ ω → List String
  | .const _ => []
  | .str _ => []
  | .ident name => [name]
  | .op _ args => usedVarsArgs args
  | .short _ left right => usedVars left ++ usedVars right
  | .cond condition yes no => usedVars condition ++ usedVars yes ++ usedVars no
  | .loop _ collection body init => usedVars collection ++ usedVars body ++ usedVarsArgs init
  | .letIn _ value body => usedVars value ++ usedVars body
  | .call callee args => usedVars callee ++ usedVarsArgs args

def usedVarsArgs : List (Expr κ ω) → List String
  | [] => []
  | e :: es => usedVars e ++ usedVarsArgs es

end

end References

section Freeze

variable {κ ω : Type} (R : BodyReader) (encodedSize : RequestInput → Nat)

def sensitiveBillingHeaders : List String :=
  ["authorization", "cookie", "proxy-authorization", "set-cookie", "x-api-key", "x-auth-token"]

def frozenHeader (input : RequestInput) (key : String) : String :=
  trimSpace (((input.headers.map fun h => (normalizeKey h.1, h.2)).lookup key).getD "")

def frozenParam (input : RequestInput) (path : String) : Option Json :=
  match input.params.lookup path with
  | some value => some value
  | none => R.get input.body path

def entries {α : Type} (value : String → Option α) (keys : List String) : List (String × α) :=
  keys.filterMap fun key => (value key).map fun v => (key, v)

def frozenInput (references : RequestReferences) (header : String → String)
    (param : String → Option Json) : RequestInput where
  headers := entries (fun key => if header key = "" then none else some (header key))
    references.headers
  params := entries param references.params

def freezeBillingExprRequestInput (e : Expr κ ω) (input : RequestInput) :
    Except FreezeError RequestInput := do
  let references ← referencedRequestInput e
  match references.headers.find? (· ∈ sensitiveBillingHeaders) with
  | some key => .error (.sensitive key)
  | none =>
    let frozen := frozenInput references (frozenHeader input) (frozenParam R input)
    if maxFrozenBillingRequestInputBytes < encodedSize frozen then .error .tooLarge
    else .ok frozen

end Freeze

section Walk

variable {κ ω : Type}

theorem lower_eq_empty {s : String} : lower s = "" ↔ s = "" := by
  constructor
  · intro h
    have hlist := congrArg String.toList h
    simpa [lower] using hlist
  · rintro rfl
    rfl

theorem normalizeKey_ne_empty (h : trimSpace k ≠ "") : normalizeKey k ≠ "" := by
  rw [normalizeKey, Ne, lower_eq_empty]
  exact h

theorem normalizeKey_normalizeKey (k : String) : normalizeKey (normalizeKey k) = normalizeKey k := by
  simp [normalizeKey, trimSpace_lower, trimSpace_trimSpace]

/-- A recorded argument is not empty, and normalised as its function does it. -/
def Normal (r : String × String) : Prop :=
  r.2 ≠ "" ∧ (r.1 = "header" → normalizeKey r.2 = r.2) ∧ (r.1 = "param" → trimSpace r.2 = r.2)

theorem reference_normal (f : String) {argument : String} (h : trimSpace argument ≠ "") :
    Normal (reference f argument) := by
  unfold Normal reference
  dsimp only
  split
  next hheader =>
    refine ⟨normalizeKey_ne_empty h, fun _ => normalizeKey_normalizeKey argument, ?_⟩
    rw [hheader]
    nofun
  next hother => exact ⟨h, fun hheader => absurd hheader hother, fun _ => trimSpace_trimSpace _⟩

theorem visitCall_normal {callee : Expr κ ω} {args : List (Expr κ ω)}
    (h : visitCall callee args = .ok found) : ∀ r ∈ found, Normal r := by
  unfold visitCall at h
  split at h
  · split at h
    · split at h
      · split at h
        · cases h
        next hblank =>
          cases h
          simpa using reference_normal _ hblank
      · cases h
      · cases h
    · cases h
      simp
  · cases h
    simp

mutual

theorem walk_normal : ∀ (e : Expr κ ω) {found : List (String × String)}, walk e = .ok found →
    ∀ r ∈ found, Normal r
  | .const _, _, h | .str _, _, h | .ident _, _, h => by
    cases h
    simp
  | .op _ args, _, h => walkArgs_normal args h
  | .short _ left right, _, h => by
    obtain ⟨l, hl, h⟩ := bind_eq_ok.mp h
    obtain ⟨r, hr, h⟩ := bind_eq_ok.mp h
    cases h
    exact forall_mem_append.mpr ⟨walk_normal left hl, walk_normal right hr⟩
  | .cond condition yes no, _, h => by
    obtain ⟨c, hc, h⟩ := bind_eq_ok.mp h
    obtain ⟨y, hy, h⟩ := bind_eq_ok.mp h
    obtain ⟨n, hn, h⟩ := bind_eq_ok.mp h
    cases h
    exact forall_mem_append.mpr
      ⟨forall_mem_append.mpr ⟨walk_normal condition hc, walk_normal yes hy⟩, walk_normal no hn⟩
  | .loop _ collection body init, _, h => by
    obtain ⟨c, hc, h⟩ := bind_eq_ok.mp h
    obtain ⟨b, hb, h⟩ := bind_eq_ok.mp h
    obtain ⟨i, hi, h⟩ := bind_eq_ok.mp h
    cases h
    exact forall_mem_append.mpr
      ⟨forall_mem_append.mpr ⟨walk_normal collection hc, walk_normal body hb⟩,
        walkArgs_normal init hi⟩
  | .letIn _ value body, _, h => by
    obtain ⟨v, hv, h⟩ := bind_eq_ok.mp h
    obtain ⟨b, hb, h⟩ := bind_eq_ok.mp h
    cases h
    exact forall_mem_append.mpr ⟨walk_normal value hv, walk_normal body hb⟩
  | .call callee args, _, h => by
    obtain ⟨c, hc, h⟩ := bind_eq_ok.mp h
    obtain ⟨as, has, h⟩ := bind_eq_ok.mp h
    obtain ⟨v, hv, h⟩ := bind_eq_ok.mp h
    cases h
    exact forall_mem_append.mpr
      ⟨forall_mem_append.mpr ⟨walk_normal callee hc, walkArgs_normal args has⟩,
        visitCall_normal hv⟩

theorem walkArgs_normal : ∀ (es : List (Expr κ ω)) {found : List (String × String)},
    walkArgs es = .ok found → ∀ r ∈ found, Normal r
  | [], _, h => by
    cases h
    simp
  | e :: es, _, h => by
    obtain ⟨x, hx, h⟩ := bind_eq_ok.mp h
    obtain ⟨xs, hxs, h⟩ := bind_eq_ok.mp h
    cases h
    exact forall_mem_append.mpr ⟨walk_normal e hx, walkArgs_normal es hxs⟩

end

theorem mem_argumentsOf {f a : String} : a ∈ argumentsOf f found ↔ (f, a) ∈ found := by
  simp [argumentsOf]

structure References (refs : RequestReferences) : Prop where
  key : ∀ {k}, k ∈ refs.headers → normalizeKey k = k ∧ k ≠ ""
  path : ∀ {p}, p ∈ refs.params → trimSpace p = p ∧ p ≠ ""

theorem referencedRequestInput_spec {e : Expr κ ω} {refs : RequestReferences}
    (h : referencedRequestInput e = .ok refs) : References refs := by
  obtain ⟨found, hwalk, h⟩ := bind_eq_ok.mp h
  cases h
  have hnormal := walk_normal e hwalk
  constructor
  · intro k hk
    obtain ⟨hne, hheader, -⟩ := hnormal _ (mem_argumentsOf.mp hk)
    exact ⟨hheader rfl, hne⟩
  · intro p hp
    obtain ⟨hne, -, hparam⟩ := hnormal _ (mem_argumentsOf.mp hp)
    exact ⟨hparam rfl, hne⟩

end Walk

section Frozen

variable {κ ω : Type} {R : BodyReader} {encodedSize : RequestInput → Nat} {e : Expr κ ω}
  {refs : RequestReferences}

def Consistent (headers : List (String × String)) : Prop :=
  ∀ a ∈ headers, ∀ b ∈ headers, normalizeKey a.1 = normalizeKey b.1 → trimSpace a.2 = trimSpace b.2

instance (headers : List (String × String)) : Decidable (Consistent headers) :=
  inferInstanceAs (Decidable (∀ a ∈ headers, ∀ b ∈ headers, _))

theorem mem_normalizeHeaders {headers : List (String × String)} {r : String × String} :
    r ∈ normalizeHeaders headers ↔ ∃ a ∈ headers, (normalizeKey a.1 ≠ "" ∧ trimSpace a.2 ≠ "") ∧
      r = (normalizeKey a.1, trimSpace a.2) := by
  refine List.mem_filterMap.trans (exists_congr fun a => and_congr_right fun _ => ?_)
  by_cases hdropped : normalizeKey a.1 = "" ∨ trimSpace a.2 = ""
  · rw [← not_or]
    simp [hdropped]
  rw [if_neg hdropped, ← not_or]
  simp only [hdropped, not_false_eq_true, true_and, Option.some.injEq]
  exact eq_comm

theorem lookup_normalizeHeaders_eq_none {headers : List (String × String)}
    (h : ∀ a ∈ headers, normalizeKey a.1 = k → trimSpace a.2 = "") :
    (normalizeHeaders headers).lookup k = none := by
  rw [List.lookup_eq_none_iff]
  intro r hr
  obtain ⟨a, ha, ⟨-, hvalue⟩, rfl⟩ := mem_normalizeHeaders.mp hr
  have hne : k ≠ normalizeKey a.1 := fun heq => hvalue (h a ha heq.symm)
  exact bne_iff_ne.mpr hne

theorem mem_of_lookup {V : Type} {l : List (String × V)} {name : String} {v : V}
    (h : l.lookup name = some v) : (name, v) ∈ l := by
  obtain ⟨l₁, l₂, rfl, -⟩ := List.lookup_eq_some_iff.mp h
  simp

theorem header_cases (input : RequestInput) (hk : normalizeKey k = k) :
    (∃ a ∈ input.headers, normalizeKey a.1 = k ∧ input.header k = trimSpace a.2) ∨
      input.header k = "" := by
  rw [RequestInput.header, hk]
  cases hlookup : (normalizeHeaders input.headers).lookup k with
  | none => exact .inr rfl
  | some value =>
    obtain ⟨a, ha, -, hr⟩ := mem_normalizeHeaders.mp (mem_of_lookup hlookup)
    obtain ⟨hkey, hvalue⟩ := Prod.mk.inj hr
    exact .inl ⟨a, ha, hkey.symm, hvalue⟩

theorem frozenHeader_eq (hinput : Consistent input.headers) (hk : normalizeKey k = k ∧ k ≠ "") :
    frozenHeader input k = input.header k := by
  unfold frozenHeader RequestInput.header
  rw [hk.1]
  generalize input.headers = headers at hinput
  induction headers with
  | nil => rfl
  | cons a headers ih =>
    have htail : Consistent headers := fun x hx y hy =>
      hinput x (.tail _ hx) y (.tail _ hy)
    have hcons : normalizeHeaders (a :: headers) =
        if normalizeKey a.1 = "" ∨ trimSpace a.2 = "" then normalizeHeaders headers
        else (normalizeKey a.1, trimSpace a.2) :: normalizeHeaders headers := by
      rw [normalizeHeaders, List.filterMap_cons]
      split <;> rename_i hif <;> split at hif <;> simp_all [normalizeHeaders]
    by_cases hkey : normalizeKey a.1 = k
    · -- The first entry has the key; if its value is blank, so are those of the others.
      rw [List.map_cons, hkey, List.lookup_cons_self, Option.getD_some, hcons]
      by_cases hblank : trimSpace a.2 = ""
      · rw [if_pos (.inr hblank), lookup_normalizeHeaders_eq_none, hblank]
        · rfl
        · intro b hb hbkey
          rw [← hinput _ (.head _) b (.tail _ hb)
            (hkey.trans hbkey.symm), hblank]
      · rw [if_neg (by simp [hkey, hk.2, hblank]), hkey, List.lookup_cons_self, Option.getD_some]
    have hne : (k == normalizeKey a.1) = false := beq_eq_false_iff_ne.mpr (Ne.symm hkey)
    rw [List.map_cons, List.lookup_cons, hne]
    rw [ih htail, hcons]
    split
    · rfl
    · rw [List.lookup_cons, hne]

theorem frozenParam_eq {p : String} (hp : trimSpace p = p ∧ p ≠ "") :
    frozenParam R input p = input.param R p := by
  unfold frozenParam RequestInput.param
  rw [hp.1, if_neg hp.2]
  cases input.params.lookup p with
  | some value => rfl
  | none =>
    dsimp only
    split
    next hempty =>
      rw [hempty, R.get_empty]
    · rfl

theorem lookup_entries {α : Type} (value : String → Option α) {keys : List String} (hk : k ∈ keys) :
    (entries value keys).lookup k = value k := by
  induction keys with
  | nil => cases hk
  | cons key keys ih =>
    have hcons : entries value (key :: keys) =
        (value key).elim (entries value keys) fun v => (key, v) :: entries value keys := by
      rw [entries, List.filterMap_cons]
      cases value key <;> rfl
    rw [hcons]
    by_cases hkey : k = key
    · subst hkey
      cases hvalue : value k with
      | some v => exact List.lookup_cons_self
      | none =>
        -- A key that occurs again has no value there either.
        by_cases hagain : k ∈ keys
        · rw [Option.elim_none, ih hagain, hvalue]
        rw [List.lookup_eq_none_iff]
        rintro r hr
        obtain ⟨key, hmem, hsome⟩ := List.mem_filterMap.mp hr
        obtain ⟨v, -, rfl⟩ := Option.map_eq_some_iff.mp hsome
        exact bne_iff_ne.mpr fun heq : k = key => hagain (heq ▸ hmem)
    have hmem := (List.mem_cons.mp hk).resolve_left hkey
    cases value key with
    | none => exact ih hmem
    | some v =>
      rw [Option.elim_some, List.lookup_cons, beq_eq_false_iff_ne.mpr hkey]
      exact ih hmem

theorem frozenInput_congr {header header' : String → String} {param param' : String → Option Json}
    (hheader : ∀ k ∈ refs.headers, header k = header' k)
    (hparam : ∀ p ∈ refs.params, param p = param' p) :
    frozenInput refs header param = frozenInput refs header' param' := by
  have hentries : ∀ {α : Type} {f g : String → Option α} {keys : List String},
      (∀ k ∈ keys, f k = g k) → entries f keys = entries g keys := by
    intro α f g keys hfg
    exact List.filterMap_congr fun k hk => by rw [hfg k hk]
  unfold frozenInput
  rw [hentries hparam, hentries fun k hk => by rw [hheader k hk]]

def AgreeAt (R : BodyReader) (refs : RequestReferences) (a b : RequestInput) : Prop :=
  (∀ k ∈ refs.headers, a.header k = b.header k) ∧ ∀ p ∈ refs.params, a.param R p = b.param R p

theorem freeze_eq (hrefs : referencedRequestInput e = .ok refs)
    (hinput : Consistent input.headers) :
    freezeBillingExprRequestInput R encodedSize e input =
      match refs.headers.find? (· ∈ sensitiveBillingHeaders) with
      | some key => .error (.sensitive key)
      | none =>
        if maxFrozenBillingRequestInputBytes <
            encodedSize (frozenInput refs input.header (input.param R)) then .error .tooLarge
        else .ok (frozenInput refs input.header (input.param R)) := by
  have hspec := referencedRequestInput_spec hrefs
  have hfrozen : frozenInput refs (frozenHeader input) (frozenParam R input) =
      frozenInput refs input.header (input.param R) :=
    frozenInput_congr (fun k hk => frozenHeader_eq hinput (hspec.key hk))
      fun p hp => frozenParam_eq (hspec.path hp)
  unfold freezeBillingExprRequestInput
  rw [hrefs, ← hfrozen]
  rfl

theorem freeze_congr (hrefs : referencedRequestInput e = .ok refs) {a b : RequestInput}
    (ha : Consistent a.headers) (hb : Consistent b.headers) (hagree : AgreeAt R refs a b) :
    freezeBillingExprRequestInput R encodedSize e a =
      freezeBillingExprRequestInput R encodedSize e b := by
  rw [freeze_eq hrefs ha, freeze_eq hrefs hb, frozenInput_congr hagree.1 hagree.2]

end Frozen

end ZModel.BillingExpr
