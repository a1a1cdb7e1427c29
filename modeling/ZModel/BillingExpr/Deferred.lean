import ZModel.BillingExpr.Frozen

/-!
# What is persisted for deferred billing

The request input of an expression is evaluated again when a task is settled.
`modelPriceHelperTiered` freezes it for video tasks and keeps it for image tasks.
-/

namespace ZModel.BillingExpr

open Lib

structure Submission where
  header : List (String × String)
  body : String
  consistent : Consistent header

def cloneRequestHeaders (headers : List (String × String)) : List (String × String) :=
  headers.filterMap fun h => if trimSpace h.2 = "" then none else some (h.1, trimSpace h.2)

def cloneStringMap (headers : List (String × String)) : List (String × String) :=
  headers.filter fun h => trimSpace h.1 ≠ ""

def isJSONContentType (contentType : String) : Bool :=
  "application/json".toList.isPrefixOf (lower (trimSpace contentType)).toList

variable (s : Submission)

def Submission.jsonBody : String :=
  if isJSONContentType ((s.header.lookup "Content-Type").getD "") then s.body else ""

def Submission.headers : List (String × String) :=
  cloneStringMap (cloneRequestHeaders s.header)

def mergeHeaders (a b : List (String × String)) : List (String × String) :=
  b ++ a.filter fun h => h.1 ∉ b.map Prod.fst

def resolveIncoming : Option RequestInput → RequestInput
  | some input => { input with headers := mergeHeaders s.headers (cloneStringMap input.headers) }
  | none => { headers := s.headers, body := s.jsonBody }

inductive RelayFormat where
  | task
  | openAIImage

section Deferred

variable {κ ω : Type} (R : BodyReader) (encodedSize : RequestInput → Nat) (e : Expr κ ω)

def UsesRequest : Prop := "param" ∈ usedVars e ∨ "header" ∈ usedVars e

instance : Decidable (UsesRequest e) := inferInstanceAs (Decidable (_ ∨ _))

def billingRequestInput (format : RelayFormat) (s : Submission) (previous : Option RequestInput) :
    Except FreezeError (Option RequestInput) :=
  let input := resolveIncoming s previous
  if UsesRequest e then
    match format with
    | .task => return some (← freezeBillingExprRequestInput R encodedSize e input)
    | .openAIImage => .ok (some input)
  else .ok none

def videoAttempts (s : Submission) : Nat → Except FreezeError (Option RequestInput)
  | 0 => billingRequestInput R encodedSize e .task s none
  | n + 1 => do billingRequestInput R encodedSize e .task s (← videoAttempts s n)

inductive Deferred where
  | video (retries : Nat)
  | image

def persisted (s : Submission) : Deferred → Except FreezeError (Option RequestInput)
  | .video retries => videoAttempts R encodedSize e s retries
  | .image => billingRequestInput R encodedSize e .openAIImage s none

end Deferred

section Attempts

variable {κ ω : Type} {R : BodyReader} {encodedSize : RequestInput → Nat} {e : Expr κ ω}

theorem mem_headers {s : Submission} {h : String × String} (hmem : h ∈ s.headers) :
    normalizeKey h.1 ≠ "" ∧ h.2 ≠ "" ∧ ∃ value, (h.1, value) ∈ s.header ∧ h.2 = trimSpace value := by
  obtain ⟨hclone, hkey⟩ := List.mem_filter.mp hmem
  obtain ⟨a, ha, hsome⟩ := List.mem_filterMap.mp hclone
  by_cases hblank : trimSpace a.2 = ""
  · rw [if_pos hblank] at hsome
    cases hsome
  rw [if_neg hblank] at hsome
  obtain rfl := Option.some.inj hsome
  exact ⟨normalizeKey_ne_empty (by simpa using hkey), hblank, a.2, ha, rfl⟩

theorem headers_consistent : Consistent s.headers := by
  intro a ha b hb hkey
  obtain ⟨-, -, v, hv, hav⟩ := mem_headers ha
  obtain ⟨-, -, w, hw, hbw⟩ := mem_headers hb
  rw [hav, hbw, s.consistent _ hv _ hw hkey]

theorem header_of_mem {input : RequestInput} (hinput : Consistent input.headers)
    {h : String × String} (hmem : h ∈ input.headers) (hkey : normalizeKey h.1 ≠ "") :
    input.header (normalizeKey h.1) = trimSpace h.2 := by
  obtain ⟨a, ha, hakey, hvalue⟩ | hempty := header_cases input (normalizeKey_normalizeKey h.1)
  · rw [hvalue, hinput a ha h hmem hakey]
  rw [hempty]
  by_contra hne
  have hlisted : (normalizeKey h.1, trimSpace h.2) ∈ normalizeHeaders input.headers :=
    mem_normalizeHeaders.mpr ⟨h, hmem, ⟨hkey, Ne.symm hne⟩, rfl⟩
  rw [RequestInput.header, normalizeKey_normalizeKey] at hempty
  cases hlookup : (normalizeHeaders input.headers).lookup (normalizeKey h.1) with
  | none => exact absurd (List.lookup_eq_none_iff.mp hlookup _ hlisted) (by simp)
  | some value =>
    obtain ⟨a, -, ⟨-, hane⟩, hr⟩ := mem_normalizeHeaders.mp (mem_of_lookup hlookup)
    rw [hlookup, (Prod.mk.inj hr).2] at hempty
    exact hane hempty

section Again

variable {s : Submission} {refs : RequestReferences}
  (hrefs : referencedRequestInput e = .ok refs)

abbrev resumed (R : BodyReader) (refs : RequestReferences) (s : Submission) : RequestInput :=
  resolveIncoming s (some (frozenInput refs (resolveIncoming s none).header
    ((resolveIncoming s none).param R)))

include hrefs in
theorem mem_resumed {h : String × String} (hmem : h ∈ (resumed R refs s).headers) :
    normalizeKey h.1 ≠ "" ∧ trimSpace h.2 = (resolveIncoming s none).header (normalizeKey h.1) := by
  have hspec := referencedRequestInput_spec hrefs
  obtain hfrozen | hrequest := List.mem_append.mp hmem
  · obtain ⟨hkey, hvalue, -⟩ := mem_frozenInput_headers (List.mem_filter.mp hfrozen).1
    obtain ⟨hnormal, hne⟩ := hspec.key hkey
    rw [hnormal, ← hvalue, trimSpace_header]
    exact ⟨hne, rfl⟩
  · have hlisted := (List.mem_filter.mp hrequest).1
    have hkey := (mem_headers hlisted).1
    exact ⟨hkey, (header_of_mem (headers_consistent s) hlisted hkey).symm⟩

include hrefs in
theorem resumed_consistent : Consistent (resumed R refs s).headers := by
  intro a ha b hb hkey
  rw [(mem_resumed hrefs ha).2, (mem_resumed hrefs hb).2, hkey]

include hrefs in
theorem resumed_agrees : AgreeAt R refs (resumed R refs s) (resolveIncoming s none) := by
  have hspec := referencedRequestInput_spec hrefs
  constructor
  · intro k hk
    obtain ⟨hnormal, hne⟩ := hspec.key hk
    obtain ⟨a, ha, hkey, hvalue⟩ | hempty := header_cases (resumed R refs s) hnormal
    · rw [hvalue, (mem_resumed hrefs ha).2, hkey]
    -- A header with a value was frozen, and so it is listed.
    rw [hempty]
    by_contra hvalue
    have hfrozen : (k, (resolveIncoming s none).header k) ∈ (resumed R refs s).headers := by
      refine List.mem_append_left _ (List.mem_filter.mpr ⟨?_, ?_⟩)
      · refine List.mem_filterMap.mpr ⟨k, hk, ?_⟩
        beta_reduce
        rw [if_neg (Ne.symm hvalue), Option.map_some]
      · refine decide_eq_true fun hblank => hne ?_
        rw [← hnormal, normalizeKey, hblank]
        rfl
    have hheader := header_of_mem (resumed_consistent hrefs) hfrozen (by rw [hnormal]; exact hne)
    rw [hnormal, hempty, trimSpace_header] at hheader
    exact hvalue hheader
  · exact (frozenInput_agrees hrefs (resolveIncoming s none)).2

end Again

theorem billingRequestInput_again {s : Submission} {frozen : Option RequestInput}
    (h : billingRequestInput R encodedSize e .task s none = .ok frozen) :
    billingRequestInput R encodedSize e .task s frozen = .ok frozen := by
  unfold billingRequestInput at h ⊢
  by_cases huses : UsesRequest e
  · rw [if_pos huses] at h ⊢
    obtain ⟨input, hfreeze, h⟩ := bind_eq_ok.mp h
    cases h
    have hinput : Consistent (resolveIncoming s none).headers := headers_consistent s
    obtain ⟨refs, hrefs, rfl⟩ := freeze_ok hinput hfreeze
    rw [freeze_congr hrefs (resumed_consistent hrefs) hinput (resumed_agrees hrefs), hfreeze]
    rfl
  · rw [if_neg huses] at h ⊢
    exact h

theorem videoAttempts_eq (s : Submission) (n : Nat) :
    videoAttempts R encodedSize e s n = billingRequestInput R encodedSize e .task s none := by
  induction n with
  | zero => rfl
  | succ n ih =>
    rw [videoAttempts, ih]
    cases h : billingRequestInput R encodedSize e .task s none with
    | error err => rfl
    | ok frozen => exact billingRequestInput_again h

end Attempts

section Persisted

variable {κ ω : Type} {R : BodyReader} {encodedSize : RequestInput → Nat} {e : Expr κ ω}
  {refs : RequestReferences}

def Submission.AgreeAt (R : BodyReader) (refs : RequestReferences) (s t : Submission) : Prop :=
  BillingExpr.AgreeAt R refs (resolveIncoming s none) (resolveIncoming t none)

def Submission.single (key value : String) : Submission where
  header := [(key, value)]
  body := ""
  consistent := by
    intro a ha b hb _
    rw [List.mem_singleton.mp ha, List.mem_singleton.mp hb]

def Submission.empty : Submission := ⟨[], "", by simp [Consistent]⟩

theorem exists_unreferenced (headers : List String) :
    ∃ key, key ∉ headers ∧ normalizeKey key = key ∧ trimSpace key ≠ "" := by
  have hbound : ∃ n, ∀ k ∈ headers, k.toList.length ≤ n := by
    induction headers with
    | nil => exact ⟨0, by simp⟩
    | cons k headers ih =>
      obtain ⟨n, hn⟩ := ih
      refine ⟨k.toList.length + n, fun x hx => ?_⟩
      obtain rfl | hx := List.mem_cons.mp hx
      · omega
      · have := hn x hx
        omega
  obtain ⟨n, hn⟩ := hbound
  have htrim : trimSpace (String.ofList (List.replicate (n + 1) 'a')) =
      String.ofList (List.replicate (n + 1) 'a') := by
    have hdrop : (List.replicate (n + 1) 'a').dropWhile isSpace = List.replicate (n + 1) 'a' := by
      rw [List.replicate_succ, List.dropWhile_cons_of_neg (by decide)]
    rw [trimSpace, String.toList_ofList, hdrop, List.reverse_replicate, hdrop,
      List.reverse_replicate]
  refine ⟨String.ofList (List.replicate (n + 1) 'a'), fun hmem => ?_, ?_, ?_⟩
  · have hlong := hn _ hmem
    rw [String.toList_ofList, List.length_replicate] at hlong
    omega
  · rw [normalizeKey, htrim, lower, String.toList_ofList, List.map_replicate]
    rfl
  rw [htrim]
  intro hempty
  have hlist := congrArg String.toList hempty
  rw [String.toList_ofList] at hlist
  cases hlist

theorem single_agrees (hrefs : referencedRequestInput e = .ok refs) {key : String}
    (hkey : key ∉ refs.headers) (hnormal : normalizeKey key = key) :
    (Submission.single key "x").AgreeAt R refs .empty := by
  have hspec := referencedRequestInput_spec hrefs
  constructor
  · intro k hk
    obtain ⟨a, ha, hakey, -⟩ | hempty :=
      header_cases (resolveIncoming (.single key "x") none) (hspec.key hk).1
    · -- The only header there is would be referenced.
      obtain ⟨-, -, value, hvalue, -⟩ := mem_headers ha
      rw [(Prod.mk.inj (List.mem_singleton.mp hvalue)).1, hnormal] at hakey
      exact absurd (hakey ▸ hk) hkey
    · rw [hempty]
      rfl
  intro p _
  have hbody : (Submission.single key "x").jsonBody = "" := by
    unfold Submission.jsonBody
    split <;> rfl
  unfold resolveIncoming
  rw [hbody]
  rfl

theorem single_headers {key : String} (hkey : trimSpace key ≠ "") :
    (Submission.single key "x").headers = [(key, "x")] := by
  have htrim : trimSpace "x" = "x" := by decide
  have hclone : cloneRequestHeaders [(key, "x")] = [(key, "x")] := by
    simp [cloneRequestHeaders, htrim]
  show cloneStringMap (cloneRequestHeaders [(key, "x")]) = _
  simp [hclone, cloneStringMap, hkey]

theorem tierBy_references :
    referencedRequestInput (tierBy (.ident "header")) = .ok ⟨["x-tier"], []⟩ := rfl

end Persisted

end ZModel.BillingExpr
