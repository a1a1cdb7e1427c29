import ZModel.Channels.Channel

/-!
# Matching the paths of advanced custom routes

`matchAdvancedCustomIncomingPath` looks for the text before the placeholder at the front of a
request path and for the text behind it at its end. Where these overlap, it takes what is left for a model.
-/

namespace ZModel.Channels

open Lib

variable {path request before after : List Char}

def placeholder : List Char := advancedCustomModelPlaceholder.toList

/-- The request path is the text before the placeholder, a model, and the text after it; a path
without a placeholder is read as it is. -/
def Reads (path request : List Char) : Prop :=
  match cut placeholder path with
  | none => request = path
  | some (before, after) => cut placeholder after = none ∧
      ∃ model, request = before ++ model ++ after ∧ model ≠ [] ∧ '/' ∉ model

/-- The text after the placeholder begins inside the text before it. -/
def Overlaps (path request : List Char) : Prop :=
  ∃ before after model, cut placeholder path = some (before, after) ∧
    cut placeholder after = none ∧ request = before ++ model ∧ model ≠ [] ∧ '/' ∉ model ∧
    model.length < after.length ∧ after <:+ request

theorem trimSuffix_append (l suffix : List Char) : trimSuffix suffix (l ++ suffix) = l := by
  rw [trimSuffix, if_pos (List.isSuffixOf_iff_suffix.mpr (List.suffix_append _ _))]
  simp

/-- What the test takes for the model: the middle, or a rest that is too short. -/
theorem trimmed_iff {l : List Char} (hsuffix : after <:+ before ++ l) :
    (trimSuffix after l ≠ [] ∧ '/' ∉ trimSuffix after l) ↔
      (∃ model, l = model ++ after ∧ model ≠ [] ∧ '/' ∉ model) ∨
        l ≠ [] ∧ '/' ∉ l ∧ l.length < after.length := by
  obtain hlong | hshort := Nat.lt_or_ge l.length after.length
  · have hnot : ¬ after.isSuffixOf l = true := fun h =>
      absurd (List.isSuffixOf_iff_suffix.mp h).length_le (by omega)
    rw [trimSuffix, if_neg hnot]
    refine ⟨fun h => .inr ⟨h.1, h.2, hlong⟩, ?_⟩
    rintro (⟨model, rfl, -⟩ | h)
    · rw [List.length_append] at hlong
      omega
    · exact ⟨h.1, h.2.1⟩
  · obtain ⟨model, rfl⟩ := List.suffix_of_suffix_length_le hsuffix (List.suffix_append _ _) hshort
    rw [trimSuffix_append]
    simp

theorem template_iff (path request : String) :
    matchAdvancedCustomIncomingPathTemplate path request = true ↔
      Reads path.toList request.toList ∨ Overlaps path.toList request.toList := by
  simp only [matchAdvancedCustomIncomingPathTemplate, Reads, Overlaps, placeholder]
  cases hcut : cut advancedCustomModelPlaceholder.toList path.toList with
  | none => simp [← String.toList_inj, eq_comm]
  | some r =>
    obtain ⟨before, after⟩ := r
    simp only [Bool.and_eq_true, decide_eq_true_eq, Option.isNone_iff_eq_none, and_assoc,
      List.isPrefixOf_iff_prefix, List.isSuffixOf_iff_suffix]
    constructor
    · rintro ⟨hone, ⟨l, hl⟩, hsuffix, hmodel⟩
      rw [← hl, List.drop_left] at hmodel
      rw [← hl] at hsuffix ⊢
      obtain ⟨model, rfl, hmiddle⟩ | ⟨hne, hslash, hshort⟩ := (trimmed_iff hsuffix).mp hmodel
      · exact .inl ⟨hone, model, (List.append_assoc _ _ _).symm, hmiddle⟩
      · exact .inr ⟨before, after, l, rfl, hone, rfl, hne, hslash, hshort, hsuffix⟩
    rintro (⟨hone, model, hrequest, hmodel⟩ | ⟨_, _, l, hsome, hone, hrequest, hrest⟩)
    · rw [List.append_assoc] at hrequest
      have hsuffix : after <:+ before ++ (model ++ after) := ⟨before ++ model, by simp⟩
      rw [hrequest, List.drop_left]
      exact ⟨hone, ⟨_, rfl⟩, hsuffix, (trimmed_iff hsuffix).mpr (.inl ⟨model, rfl, hmodel⟩)⟩
    cases hsome
    obtain ⟨hne, hslash, hshort, hsuffix⟩ := hrest
    rw [hrequest] at hsuffix ⊢
    rw [List.drop_left]
    exact ⟨hone, ⟨l, rfl⟩, hsuffix, (trimmed_iff hsuffix).mpr (.inr ⟨hne, hslash, hshort⟩)⟩

def streamPath (path : String) : String :=
  replaceFirst ":generateContent" ":streamGenerateContent" path

/-- For all paths: the test is right exactly if nothing overlaps in a request path that cannot be
read otherwise. -/
theorem path_matches_iff (path request : String) :
    (matchAdvancedCustomIncomingPath path request = true ↔
      Reads path.toList request.toList ∨ containsText ":generateContent" path = true ∧
        Reads (streamPath path).toList request.toList) ↔
    (Overlaps path.toList request.toList ∨ containsText ":generateContent" path = true ∧
        Overlaps (streamPath path).toList request.toList →
      Reads path.toList request.toList ∨ containsText ":generateContent" path = true ∧
        Reads (streamPath path).toList request.toList) := by
  simp only [matchAdvancedCustomIncomingPath, Bool.or_eq_true, Bool.and_eq_true, template_iff,
    streamPath]
  generalize Reads _ _ = r, Reads _ _ = s, Overlaps _ _ = o, Overlaps _ _ = q
  tauto

theorem overlapping_path_matches :
    matchAdvancedCustomIncomingPath "/ab\x7bmodel\x7dbc" "/abc" = true ∧
      ¬ Reads "/ab\x7bmodel\x7dbc".toList "/abc".toList := by
  refine ⟨by decide +kernel, ?_⟩
  have hcut : cut placeholder "/ab\x7bmodel\x7dbc".toList = some (['/', 'a', 'b'], ['b', 'c']) := by
    decide +kernel
  rw [Reads, hcut]
  rintro ⟨-, model, hrequest, -⟩
  have hlength : "/abc".toList.length = 4 := by decide +kernel
  rw [hrequest] at hlength
  simp at hlength

end ZModel.Channels
