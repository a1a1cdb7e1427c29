import Mathlib.Algebra.GroupWithZero.Nat
import Mathlib.Data.List.DropRight

/-!
# Trimming, splitting and joining text

`trimSpace` is Go's `strings.TrimSpace`. The functions work on the list of characters, so they
evaluate in the kernel.
-/

namespace ZModel.Lib

open String (ofList toList_ofList toList toList_inj)

variable (c : Char)

def isSpace : Bool :=
  let n := c.toNat
  (9 ≤ n && n ≤ 13) || n == 0x20 || n == 0x85 || n == 0xA0 || n == 0x1680 ||
    (0x2000 ≤ n && n ≤ 0x200A) || n == 0x2028 || n == 0x2029 || n == 0x202F || n == 0x205F ||
    n == 0x3000

variable (s : String)

def trimSpace : String :=
  ofList ((s.toList.dropWhile isSpace).reverse.dropWhile isSpace).reverse

theorem trimSpace_eq :
    trimSpace s = ofList ((s.toList.dropWhile isSpace).rdropWhile isSpace) := rfl

theorem trimSpace_trimSpace : trimSpace (trimSpace s) = trimSpace s := by
  simp only [trimSpace_eq, toList_ofList]
  have hhead : ((s.toList.dropWhile isSpace).rdropWhile isSpace).dropWhile isSpace =
      (s.toList.dropWhile isSpace).rdropWhile isSpace := by
    have hidem : (s.toList.dropWhile isSpace).dropWhile isSpace = s.toList.dropWhile isSpace :=
      List.dropWhile_idempotent _ _
    generalize s.toList.dropWhile isSpace = l at hidem ⊢
    rw [List.dropWhile_eq_self_iff] at hidem ⊢
    intro hlen
    obtain ⟨rest, hrest⟩ := List.rdropWhile_prefix isSpace (l := l)
    have hl : 0 < l.length := by
      rw [← hrest, List.length_append]
      omega
    have hfirst : (l.rdropWhile isSpace)[0] = l[0] := by
      conv_rhs => rw [List.getElem_of_eq hrest.symm]
      rw [List.getElem_append_left]
    rw [hfirst]
    exact hidem hl
  rw [hhead, List.rdropWhile_idempotent]

def isBlank : Bool := trimSpace s = ""

variable {s : String}

theorem isBlank_of_cons {c : Char} {rest : List Char} (hs : s.toList = c :: rest)
    (hc : isSpace c = false) : isBlank s = false := by
  rw [isBlank, decide_eq_false_iff_not, trimSpace_eq, hs, List.dropWhile_cons_of_neg (by simp [hc])]
  intro hblank
  have hnil := congrArg toList hblank
  rw [toList_ofList] at hnil
  have hspace := List.rdropWhile_eq_nil_iff.mp hnil c (.head _)
  rw [hc] at hspace
  cases hspace

def lowerChar : Char :=
  if 65 ≤ c.toNat ∧ c.toNat ≤ 90 then Char.ofNat (c.toNat + 32) else c

def lower (s : String) : String := ofList (s.toList.map lowerChar)

theorem toNat_lowerChar :
    (lowerChar c).toNat = if 65 ≤ c.toNat ∧ c.toNat ≤ 90 then c.toNat + 32 else c.toNat := by
  unfold lowerChar
  split
  next hupper =>
    have hvalid : (c.toNat + 32).isValidChar := .inl (by omega)
    rw [Char.ofNat, dif_pos hvalid]
    rfl
  · rfl

@[simp] theorem isSpace_lowerChar : isSpace (lowerChar c) = isSpace c := by
  unfold isSpace
  rw [toNat_lowerChar]
  split
  · rw [Bool.eq_iff_iff]
    simp
    omega
  · rfl

@[simp] theorem lowerChar_lowerChar : lowerChar (lowerChar c) = lowerChar c := by
  conv_lhs => rw [lowerChar]
  rw [if_neg]
  rw [toNat_lowerChar]
  split <;> omega

@[simp] theorem lower_lower (s : String) : lower (lower s) = lower s := by
  have hchar : lowerChar ∘ lowerChar = lowerChar := funext lowerChar_lowerChar
  simp [lower, hchar]

theorem trimSpace_lower (s : String) : trimSpace (lower s) = lower (trimSpace s) := by
  have hspace : isSpace ∘ lowerChar = isSpace := funext isSpace_lowerChar
  simp only [trimSpace, lower, toList_ofList, List.dropWhile_map, hspace, ← List.map_reverse]

example : trimSpace " wallet_first\n" = "wallet_first" := by decide

def split (sep : Char) (s : String) : List String := (s.toList.splitOn sep).map ofList

def join (sep : Char) (parts : List String) : String :=
  ofList ([sep].intercalate (parts.map toList))

variable {sep : Char} {parts : List String}

theorem split_join (hne : parts ≠ [])
    (hsep : ∀ part ∈ parts, sep ∉ part.toList) : split sep (join sep parts) = parts := by
  have hparts : ∀ l ∈ parts.map toList, sep ∉ l := by
    intro l hl
    obtain ⟨part, hpart, rfl⟩ := List.mem_map.mp hl
    exact hsep part hpart
  unfold split join
  rw [toList_ofList, List.splitOn_intercalate sep hparts (by simpa using hne), List.map_map]
  exact (List.map_congr_left fun part _ => String.ofList_toList).trans (List.map_id _)

theorem join_split (sep : Char) (s : String) : join sep (split sep s) = s := by
  have hmap : ((s.toList.splitOn sep).map ofList).map toList =
      s.toList.splitOn sep := by
    rw [List.map_map]
    exact (List.map_congr_left fun l _ => toList_ofList).trans (List.map_id _)
  unfold split join
  rw [hmap, List.intercalate_splitOn, String.ofList_toList]

theorem split_ne_nil (sep : Char) (s : String) : split sep s ≠ [] := by
  unfold split
  simp

def trimChar (s : String) : String :=
  ofList ((s.toList.dropWhile (· = c)).rdropWhile (· = c))

theorem notMem_of_mem_splitOn {l part : List Char} (h : part ∈ l.splitOn sep) : sep ∉ part := by
  induction l generalizing part with
  | nil =>
    rw [List.splitOn_nil, List.mem_singleton] at h
    rw [h]
    exact List.not_mem_nil
  | cons c l ih =>
    rw [List.splitOn, List.splitOnP_cons_eq_if_modifyHead] at h
    split at h
    · obtain rfl | h := List.mem_cons.mp h
      · exact List.not_mem_nil
      · exact ih h
    rename_i hc
    cases hparts : l.splitOnP fun x => x == sep with
    | nil => exact absurd hparts (List.splitOn_ne_nil sep l)
    | cons first rest =>
      have hall : ∀ x ∈ first :: rest, sep ∉ x := by
        intro x hx
        rw [← hparts] at hx
        exact ih hx
      rw [hparts] at h
      obtain rfl | h := List.mem_cons.mp h
      · rw [List.mem_cons, not_or]
        refine ⟨?_, hall first (.head _)⟩
        rintro rfl
        simp at hc
      · exact hall part (.tail _ h)

theorem notMem_of_mem_split {s part : String} (h : part ∈ split sep s) : sep ∉ part.toList := by
  obtain ⟨l, hl, rfl⟩ := List.mem_map.mp h
  rw [toList_ofList]
  exact notMem_of_mem_splitOn hl

theorem length_join (sep : Char) (hne : parts ≠ []) :
    (join sep parts).length + 1 = (parts.map String.length).sum + parts.length := by
  unfold join
  rw [String.length_ofList]
  induction parts with
  | nil => exact absurd rfl hne
  | cons part parts ih =>
    cases parts with
    | nil => simp [String.length_toList]
    | cons part' parts =>
      have hrest := ih (List.cons_ne_nil _ _)
      simp only [List.map_cons] at hrest ⊢
      rw [List.intercalate_cons_cons, List.length_append, List.length_append,
        List.length_singleton, String.length_toList, List.sum_cons, List.length_cons]
      omega

theorem length_trimSpace_le (s : String) : (trimSpace s).length ≤ s.length := by
  rw [trimSpace_eq, String.length_ofList]
  exact (List.rdropWhile_prefix _ _).length_le.trans (List.dropWhile_suffix _).length_le

theorem trimSpace_subset : (trimSpace s).toList ⊆ s.toList := by
  rw [trimSpace_eq, toList_ofList]
  exact List.Subset.trans (List.rdropWhile_prefix _ _).subset (List.dropWhile_suffix _).subset

theorem isSpace_of_trimSpace {c : Char} {rest : List Char}
    (h : (trimSpace s).toList = c :: rest) : isSpace c = false := by
  by_contra hc
  have hagain := congrArg toList (trimSpace_trimSpace s)
  rw [trimSpace_eq (trimSpace s), toList_ofList, h,
    List.dropWhile_cons_of_pos (by simpa using hc)] at hagain
  have hle := (List.rdropWhile_prefix isSpace (rest.dropWhile isSpace)).length_le.trans
    (List.dropWhile_suffix (l := rest) isSpace).length_le
  rw [hagain, List.length_cons] at hle
  omega

theorem trimChar_eq_self_iff {c : Char} :
    trimChar c s = s ↔ s.toList.head? ≠ some c ∧ s.toList.getLast? ≠ some c := by
  have hiff : trimChar c s = s ↔
      (s.toList.dropWhile (· = c)).rdropWhile (· = c) = s.toList := by
    unfold trimChar
    rw [← toList_inj, toList_ofList]
  rw [hiff]
  generalize s.toList = l
  have hhead : l.dropWhile (· = c) = l ↔ l.head? ≠ some c := by
    cases l with
    | nil => simp
    | cons d l => simp
  have hlast : l.rdropWhile (· = c) = l ↔ l.getLast? ≠ some c := by
    rw [List.rdropWhile_eq_self_iff]
    constructor
    · intro h hlast
      have hne : l ≠ [] := by
        rintro rfl
        cases hlast
      rw [List.getLast?_eq_some_getLast hne] at hlast
      exact h hne (by simpa using hlast)
    intro h hne hc
    rw [List.getLast?_eq_some_getLast hne] at h
    simp at hc
    exact h (by rw [hc])
  constructor
  · intro h
    have hle := (List.rdropWhile_prefix (· = c) (l.dropWhile (· = c))).length_le
    have hle' := (List.dropWhile_suffix (l := l) (· = c)).length_le
    rw [h] at hle
    have hdrop : l.dropWhile (· = c) = l := (List.dropWhile_suffix _).eq_of_length (by omega)
    rw [hdrop] at h
    exact ⟨hhead.mp hdrop, hlast.mp h⟩
  · rintro ⟨hh, hl⟩
    rw [hhead.mpr hh, hlast.mpr hl]

theorem intercalate_concat {ls : List (List Char)} (hne : ls ≠ []) (l : List Char) :
    [sep].intercalate (ls ++ [l]) = [sep].intercalate ls ++ sep :: l := by
  induction ls with
  | nil => exact absurd rfl hne
  | cons a ls ih =>
    cases ls with
    | nil => simp
    | cons b ls =>
      have hrest := ih (List.cons_ne_nil _ _)
      rw [List.cons_append, List.cons_append, List.intercalate_cons_cons, ← List.cons_append,
        hrest, List.intercalate_cons_cons, ← List.append_assoc]

theorem trimChar_join_iff (hsep : ∀ part ∈ parts, sep ∉ part.toList) (htext : join sep parts ≠ "") :
    trimChar sep (join sep parts) = join sep parts ↔
      parts.head? ≠ some "" ∧ parts.getLast? ≠ some "" := by
  have hempty : ∀ part : String, part = "" ↔ part.toList = [] := by
    intro part
    rw [← toList_inj]
    rfl
  rw [trimChar_eq_self_iff]
  unfold join at htext ⊢
  rw [toList_ofList]
  refine and_congr (not_congr ?_) (not_congr ?_)
  · cases parts with
    | nil => simp
    | cons part parts =>
      rw [List.head?_cons, Option.some.injEq, hempty]
      cases hpart : part.toList with
      | cons c rest =>
        have hc : c ≠ sep := by
          rintro rfl
          exact hsep part (.head _) (hpart ▸ (.head _))
        cases parts with
        | nil => simp [hpart, hc]
        | cons part' parts => simp [hpart, hc]
      | nil =>
        cases parts with
        | nil => simp [hpart] at htext
        | cons part' parts => simp [hpart]
  obtain rfl | ⟨parts, part, rfl⟩ := List.eq_nil_or_concat' parts
  · simp
  have hlast : part.toList.getLast? ≠ some sep := fun h =>
    hsep part (by simp) (List.mem_of_getLast? h)
  rw [List.getLast?_concat, Option.some.injEq, hempty, List.map_append, List.map_singleton]
  rw [List.map_append] at htext
  cases hparts : parts.map toList with
  | nil =>
    rw [hparts] at htext
    refine iff_of_false (by simpa using hlast) fun hpart => ?_
    simp [hpart] at htext
  | cons l ls =>
    rw [intercalate_concat (List.cons_ne_nil _ _), List.getLast?_append]
    cases hpart : part.toList with
    | nil => simp
    | cons c rest =>
      have hsome := List.getLast?_eq_some_getLast (List.cons_ne_nil c rest)
      rw [hpart, hsome] at hlast
      rw [List.getLast?_cons_cons, hsome]
      simpa using hlast

def hasPrefix (p s : String) : Bool := p.toList.isPrefixOf s.toList

def cut (p : List Char) : List Char → Option (List Char × List Char)
  | [] => if p = [] then some ([], []) else none
  | c :: l =>
    if p.isPrefixOf (c :: l) then some ([], (c :: l).drop p.length)
    else (cut p l).map fun r => (c :: r.1, r.2)

def containsText (p s : String) : Bool := (cut p.toList s.toList).isSome

def replaceFirst (old new s : String) : String :=
  match cut old.toList s.toList with
  | none => s
  | some (before, after) => ofList (before ++ new.toList ++ after)

example : split ',' "a,b,,a" = ["a", "b", "", "a"] := by decide +kernel

end ZModel.Lib
