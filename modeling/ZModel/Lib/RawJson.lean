import Mathlib.Algebra.GroupWithZero.Nat
import Mathlib.Data.List.Basic

/-!
# Raw JSON arrays

The texts of the elements of a JSON array, left undecoded. A scanner goes over one value and returns
the text after it.
-/

namespace ZModel.Lib.RawJson

open List (length_cons length map_nil sum_nil map_cons sum_cons)

def isSpace (c : Char) : Bool := c = ' ' || c = '\t' || c = '\n' || c = '\r'

def skipSpace (l : List Char) : List Char := l.dropWhile isSpace

def isEscape (c : Char) : Bool :=
  c = '"' || c = '\\' || c = '/' || c = 'b' || c = 'f' || c = 'n' || c = 'r' || c = 't'

def isHex (c : Char) : Bool :=
  c.isDigit || ('a' ≤ c && c ≤ 'f') || ('A' ≤ c && c ≤ 'F')

def scanString : List Char → Option (List Char)
  | [] => none
  | '"' :: rest => some rest
  | '\\' :: 'u' :: a :: b :: c :: d :: rest =>
    if isHex a && isHex b && isHex c && isHex d then scanString rest else none
  | '\\' :: c :: rest => if isEscape c then scanString rest else none
  | c :: rest => if c.toNat < 0x20 || c = '\\' then none else scanString rest

def scanDigits : List Char → Option (List Char)
  | [] => none
  | c :: rest => if c.isDigit then some (rest.dropWhile Char.isDigit) else none

def scanInteger : List Char → Option (List Char)
  | '0' :: rest => some rest
  | l => scanDigits l

def scanFraction : List Char → Option (List Char)
  | '.' :: rest => scanDigits rest
  | l => some l

def skipSign : List Char → List Char
  | '+' :: rest => rest
  | '-' :: rest => rest
  | l => l

def scanExponent : List Char → Option (List Char)
  | 'e' :: rest => scanDigits (skipSign rest)
  | 'E' :: rest => scanDigits (skipSign rest)
  | l => some l

def scanUnsigned (l : List Char) : Option (List Char) :=
  ((scanInteger l).bind scanFraction).bind scanExponent

def scanNumber : List Char → Option (List Char)
  | '-' :: rest => scanUnsigned rest
  | l => scanUnsigned l

def read (l rest : List Char) : List Char := l.take (l.length - rest.length)

mutual

def scanValue : Nat → List Char → Option (List Char)
  | 0, _ => none
  | depth + 1, l =>
    match l with
    | '"' :: rest => scanString rest
    | '[' :: rest => (scanElements depth rest).map Prod.snd
    | '{' :: rest => scanMembers depth rest
    | 't' :: 'r' :: 'u' :: 'e' :: rest => some rest
    | 'f' :: 'a' :: 'l' :: 's' :: 'e' :: rest => some rest
    | 'n' :: 'u' :: 'l' :: 'l' :: rest => some rest
    | l => scanNumber l

def scanElements : Nat → List Char → Option (List (List Char) × List Char)
  | 0, _ => none
  | depth + 1, l =>
    match skipSpace l with
    | ']' :: rest => some ([], rest)
    | l => scanElement depth l

def scanElement : Nat → List Char → Option (List (List Char) × List Char)
  | 0, _ => none
  | depth + 1, l =>
    match scanValue depth (skipSpace l) with
    | none => none
    | some rest =>
      match skipSpace rest with
      | ']' :: rest' => some ([read (skipSpace l) rest], rest')
      | ',' :: rest' =>
        (scanElement depth rest').map fun r => (read (skipSpace l) rest :: r.1, r.2)
      | _ => none

def scanMembers : Nat → List Char → Option (List Char)
  | 0, _ => none
  | depth + 1, l =>
    match skipSpace l with
    | '}' :: rest => some rest
    | l => scanMember depth l

def scanMember : Nat → List Char → Option (List Char)
  | 0, _ => none
  | depth + 1, l =>
    match skipSpace l with
    | '"' :: rest =>
      match (scanString rest).map skipSpace with
      | some (':' :: rest) =>
        match (scanValue depth (skipSpace rest)).map skipSpace with
        | some ('}' :: rest) => some rest
        | some (',' :: rest) => scanMember depth rest
        | _ => none
      | _ => none
    | _ => none

end

def rawArray (s : String) : Option (List String) :=
  match skipSpace s.toList with
  | '[' :: rest =>
    match scanElements (2 * rest.length + 4) rest with
    | some (elements, after) =>
      if skipSpace after = [] then some (elements.map String.ofList) else none
    | none => none
  | _ => none

example : rawArray " [ \x7b\"a\":\n[1, -2.5e3]\x7d , \"x\\n\",null]\n" =
    some ["\x7b\"a\":\n[1, -2.5e3]\x7d", "\"x\\n\"", "null"] := by decide +kernel
example : rawArray "[1,]" = none := by decide +kernel
example : rawArray "[]" = some [] := by decide +kernel
example : rawArray "[01]" = none := by decide +kernel

section Lengths

variable {l rest : List Char}

theorem length_skipSpace_le (l : List Char) : (skipSpace l).length ≤ l.length :=
  (List.dropWhile_suffix _).length_le

theorem length_read (h : rest.length ≤ l.length) :
    (read l rest).length = l.length - rest.length := by
  unfold read
  rw [List.length_take]
  omega

theorem scanString_length (h : scanString l = some rest) : rest.length < l.length := by
  fun_induction scanString l with
  | case1 => cases h
  | case2 rest' =>
    cases h
    exact Nat.lt_succ_self _
  | case3 a b c d rest' hhex ih =>
    have := ih h
    simp only [length_cons]
    omega
  | case4 => cases h
  | case5 c rest' hu hescape ih =>
    have := ih h
    simp only [length_cons]
    omega
  | case6 => cases h
  | case7 => cases h
  | case8 c rest' hquote hu hslash hplain ih =>
    have := ih h
    simp only [length_cons]
    omega

theorem scanDigits_length (h : scanDigits l = some rest) : rest.length < l.length := by
  unfold scanDigits at h
  split at h
  · cases h
  split at h
  · cases h
    exact Nat.lt_succ_of_le (List.dropWhile_suffix _).length_le
  · cases h

theorem scanInteger_length (h : scanInteger l = some rest) : rest.length < l.length := by
  unfold scanInteger at h
  split at h
  · cases h
    exact Nat.lt_succ_self _
  · exact scanDigits_length h

theorem scanFraction_length (h : scanFraction l = some rest) : rest.length ≤ l.length := by
  unfold scanFraction at h
  split at h
  · have := scanDigits_length h
    simp only [length_cons]
    omega
  · cases h
    exact Nat.le_refl _

theorem length_skipSign_le (l : List Char) : (skipSign l).length ≤ l.length := by
  unfold skipSign
  split
  · exact Nat.le_succ _
  · exact Nat.le_succ _
  · exact Nat.le_refl _

theorem scanExponent_length (h : scanExponent l = some rest) : rest.length ≤ l.length := by
  unfold scanExponent at h
  split at h
  next digits =>
    have := scanDigits_length h
    have := length_skipSign_le digits
    simp only [length_cons]
    omega
  next digits =>
    have := scanDigits_length h
    have := length_skipSign_le digits
    simp only [length_cons]
    omega
  · cases h
    exact Nat.le_refl _

theorem scanUnsigned_length (h : scanUnsigned l = some rest) : rest.length < l.length := by
  unfold scanUnsigned at h
  rw [Option.bind_eq_some_iff] at h
  obtain ⟨afterFraction, h, hexponent⟩ := h
  rw [Option.bind_eq_some_iff] at h
  obtain ⟨afterInteger, hinteger, hfraction⟩ := h
  have := scanInteger_length hinteger
  have := scanFraction_length hfraction
  have := scanExponent_length hexponent
  omega

theorem scanNumber_length (h : scanNumber l = some rest) : rest.length < l.length := by
  unfold scanNumber at h
  split at h
  · have := scanUnsigned_length h
    simp only [length_cons]
    omega
  · exact scanUnsigned_length h

def Fits (l : List Char) (r : List (List Char) × List Char) : Prop :=
  (r.1.map length).sum + r.1.length + r.2.length ≤ l.length ∧ r.2.length < l.length

theorem Fits.mono {l' : List Char} {r : List (List Char) × List Char} (h : Fits l r)
    (hl : l.length ≤ l'.length) : Fits l' r :=
  ⟨Nat.le_trans h.1 hl, Nat.lt_of_lt_of_le h.2 hl⟩

section Depth

variable {depth : Nat} {r : List (List Char) × List Char}

theorem scanValue_length (helements : ∀ l r, scanElements depth l = some r → Fits l r)
    (hmembers : ∀ l rest, scanMembers depth l = some rest → rest.length < l.length)
    (h : scanValue (depth + 1) l = some rest) : rest.length < l.length := by
  unfold scanValue at h
  split at h
  · have := scanString_length h
    simp only [length_cons]
    omega
  · obtain ⟨r, hr, hrest⟩ := Option.map_eq_some_iff.1 h
    have := (helements _ _ hr).2
    subst hrest
    simp only [length_cons]
    omega
  · have := hmembers _ _ h
    simp only [length_cons]
    omega
  -- the three literals
  · cases h
    simp only [length_cons]
    omega
  · cases h
    simp only [length_cons]
    omega
  · cases h
    simp only [length_cons]
    omega
  · exact scanNumber_length h

theorem scanElements_length (helement : ∀ l r, scanElement depth l = some r → Fits l r)
    (h : scanElements (depth + 1) l = some r) : Fits l r := by
  rw [scanElements] at h
  have hspace := length_skipSpace_le l
  split at h
  next rest' hl =>
    cases h
    rw [hl, length_cons] at hspace
    refine ⟨?_, hspace⟩
    simp only [map_nil, sum_nil, List.length_nil]
    omega
  · exact (helement _ _ h).mono hspace

theorem scanElement_length
    (hvalue : ∀ l rest, scanValue depth l = some rest → rest.length < l.length)
    (helement : ∀ l r, scanElement depth l = some r → Fits l r)
    (h : scanElement (depth + 1) l = some r) : Fits l r := by
  rw [scanElement] at h
  split at h
  · cases h
  rename_i rest hrest
  have hlt := hvalue _ _ hrest
  have hread := length_read (Nat.le_of_lt hlt)
  have hl := length_skipSpace_le l
  have hspace := length_skipSpace_le rest
  split at h
  · -- the bracket that closes the array
    rename_i rest' hrest'
    cases h
    rw [hrest', length_cons] at hspace
    simp only [Fits, map_cons, map_nil, sum_cons, sum_nil, length_cons,
      List.length_nil]
    omega
  · -- a comma, and the elements after it
    rename_i rest' hrest'
    obtain ⟨r', hr', heq⟩ := Option.map_eq_some_iff.1 h
    have hfits := helement _ _ hr'
    unfold Fits at hfits
    subst heq
    rw [hrest', length_cons] at hspace
    simp only [Fits, map_cons, sum_cons, length_cons]
    omega
  · cases h

theorem scanMembers_length
    (hmember : ∀ l rest, scanMember depth l = some rest → rest.length < l.length)
    (h : scanMembers (depth + 1) l = some rest) : rest.length < l.length := by
  rw [scanMembers] at h
  have hspace := length_skipSpace_le l
  split at h
  next rest' hl =>
    cases h
    rw [hl, length_cons] at hspace
    omega
  · have := hmember _ _ h
    omega

theorem scanMember_length
    (hvalue : ∀ l rest, scanValue depth l = some rest → rest.length < l.length)
    (hmember : ∀ l rest, scanMember depth l = some rest → rest.length < l.length)
    (h : scanMember (depth + 1) l = some rest) : rest.length < l.length := by
  rw [scanMember] at h
  have hspace := length_skipSpace_le l
  split at h
  swap
  · cases h
  rename_i name hl
  rw [hl, length_cons] at hspace
  split at h
  swap
  · cases h
  rename_i colon hname
  -- the name and its colon
  obtain ⟨afterName, hscan, hcolon⟩ := Option.map_eq_some_iff.1 hname
  have hn := scanString_length hscan
  have hc := length_skipSpace_le afterName
  have hv := length_skipSpace_le colon
  rw [hcolon, length_cons] at hc
  -- the value, and what follows it
  split at h
  next after hvalue' =>
    obtain ⟨afterValue, hscan, hafter⟩ := Option.map_eq_some_iff.1 hvalue'
    have := hvalue _ _ hscan
    have ha := length_skipSpace_le afterValue
    rw [hafter, length_cons] at ha
    cases h
    omega
  next after hvalue' =>
    obtain ⟨afterValue, hscan, hafter⟩ := Option.map_eq_some_iff.1 hvalue'
    have := hvalue _ _ hscan
    have ha := length_skipSpace_le afterValue
    rw [hafter, length_cons] at ha
    have := hmember _ _ h
    omega
  · cases h

end Depth

theorem scan_length (depth : Nat) :
    (∀ l rest, scanValue depth l = some rest → rest.length < l.length) ∧
    (∀ l r, scanElements depth l = some r → Fits l r) ∧
    (∀ l r, scanElement depth l = some r → Fits l r) ∧
    (∀ l rest, scanMembers depth l = some rest → rest.length < l.length) ∧
    (∀ l rest, scanMember depth l = some rest → rest.length < l.length) := by
  induction depth with
  | zero => exact ⟨nofun, nofun, nofun, nofun, nofun⟩
  | succ depth ih =>
    obtain ⟨hvalue, helements, helement, hmembers, hmember⟩ := ih
    exact ⟨fun _ _ h => scanValue_length helements hmembers h,
      fun _ _ h => scanElements_length helement h,
      fun _ _ h => scanElement_length hvalue helement h,
      fun _ _ h => scanMembers_length hmember h,
      fun _ _ h => scanMember_length hvalue hmember h⟩

theorem rawArray_length {s : String} {es : List String} (h : rawArray s = some es) :
    (es.map String.length).sum + es.length + 1 ≤ s.length := by
  unfold rawArray at h
  have hspace := length_skipSpace_le s.toList
  split at h
  swap
  · cases h
  rename_i rest hl
  rw [hl, length_cons] at hspace
  split at h
  swap
  · cases h
  rename_i elements after hscan
  split at h
  swap
  · cases h
  cases h
  have hfits := ((scan_length _).2.1 _ _ hscan).1
  dsimp only at hfits
  have hlengths : (elements.map String.ofList).map String.length = elements.map length := by
    simp only [List.map_map]
    exact List.map_congr_left fun e _ => String.length_ofList
  rw [hlengths, List.length_map]
  rw [String.length_toList] at hspace
  omega

end Lengths

end ZModel.Lib.RawJson
