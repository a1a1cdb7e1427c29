import Mathlib.Data.Rat.Lemmas

/-!
# JSON values and their codecs

Numbers are rational, and the fields of an object are listed. A `Codec` writes the values of a type
and reads them back; a field that is absent, or is null, gets the zero value of its type.
-/

namespace ZModel.Lib

inductive Json where
  | null
  | bool (b : Bool)
  | num (q : ℚ)
  | str (s : String)
  | arr (elements : List Json)
  | obj (fields : List (String × Json))

structure Codec (α : Type) where
  encode : α → Json
  decode : Json → Option α
  zero : α
  decode_encode : ∀ a, decode (encode a) = some a

namespace Codec

variable {α : Type}

def field (c : Codec α) (fields : List (String × Json)) (name : String) : Option α :=
  match fields.lookup name with
  | none => some c.zero
  | some j => c.decode j

theorem field_cons_self (c : Codec α) (a : α) (fields : List (String × Json))
    (name : String) : c.field ((name, c.encode a) :: fields) name = some a := by
  simp [field, c.decode_encode]

def bool : Codec Bool where
  encode := .bool
  decode
    | .bool b => some b
    | .null => some false
    | _ => none
  zero := false
  decode_encode _ := rfl

def num : Codec ℚ where
  encode := .num
  decode
    | .num q => some q
    | .null => some 0
    | _ => none
  zero := 0
  decode_encode _ := rfl

def int : Codec Int where
  encode n := .num n
  decode
    | .num q => if q.den = 1 then some q.num else none
    | .null => some 0
    | _ => none
  zero := 0
  decode_encode n := by simp

def str : Codec String where
  encode := .str
  decode
    | .str s => some s
    | .null => some ""
    | _ => none
  zero := ""
  decode_encode _ := rfl

def any : Codec Json := ⟨id, some, .null, fun _ => rfl⟩

def map (c : Codec α) : Codec (List (String × α)) where
  encode m := .obj (m.map fun e => (e.1, c.encode e.2))
  decode
    | .obj fields => fields.mapM fun e => (c.decode e.2).map fun a => (e.1, a)
    | .null => some []
    | _ => none
  zero := []
  decode_encode m := by
    induction m with
    | nil => rfl
    | cons e m ih =>
      have ih : (m.map fun e => (e.1, c.encode e.2)).mapM
          (fun e => (c.decode e.2).map fun a => (e.1, a)) = some m := ih
      simp [List.mapM_cons, c.decode_encode, ih]

def pointerField (c : Codec α) (fields : List (String × Json)) (name : String) :
    Option (Option α) :=
  match fields.lookup name with
  | none => some none
  | some .null => some none
  | some j => (c.decode j).map some

def omitEmpty (c : Codec α) (name : String) (empty : Bool) (a : α) : List (String × Json) :=
  if empty then [] else [(name, c.encode a)]

def omitNil (c : Codec α) (name : String) : Option α → List (String × Json)
  | none => []
  | some a => [(name, c.encode a)]

theorem lookup_omitEmpty_ne (c : Codec α) {name other : String} (h : (name == other) = false)
    (empty : Bool) (a : α) (rest : List (String × Json)) :
    (c.omitEmpty other empty a ++ rest).lookup name = rest.lookup name := by
  unfold omitEmpty
  split
  · rfl
  · rw [List.singleton_append, List.lookup_cons, h]

theorem lookup_omitNil_ne (c : Codec α) {name other : String} (h : (name == other) = false)
    (a : Option α) (rest : List (String × Json)) :
    (c.omitNil other a ++ rest).lookup name = rest.lookup name := by
  cases a with
  | none => rfl
  | some a => rw [omitNil, List.singleton_append, List.lookup_cons, h]

variable {name : String}

theorem field_congr (c : Codec α) {fs fs' : List (String × Json)}
    (h : fs.lookup name = fs'.lookup name) : c.field fs name = c.field fs' name := by
  rw [field, field, h]

theorem pointerField_congr (c : Codec α) {fs fs' : List (String × Json)}
    (h : fs.lookup name = fs'.lookup name) : c.pointerField fs name = c.pointerField fs' name := by
  rw [pointerField, pointerField, h]

theorem field_omitEmpty (c : Codec α) {empty : Bool} {a : α}
    {rest : List (String × Json)} (hempty : empty = true → a = c.zero)
    (hrest : rest.lookup name = none) :
    c.field (c.omitEmpty name empty a ++ rest) name = some a := by
  unfold omitEmpty
  split
  next h =>
    rw [List.nil_append, field, hrest, hempty h]
  · exact field_cons_self c a rest name

theorem pointerField_omitNil (c : Codec α) (hobj : ∀ a, c.encode a ≠ .null)
    (a : Option α) {rest : List (String × Json)} (hrest : rest.lookup name = none) :
    c.pointerField (c.omitNil name a ++ rest) name = some a := by
  cases a with
  | none => rw [omitNil, List.nil_append, pointerField, hrest]
  | some a =>
    rw [omitNil, List.singleton_append, pointerField, List.lookup_cons_self]
    split
    next h =>
      cases h
    next h =>
      exact absurd (Option.some.inj h) (hobj a)
    rename_i j _ h
    obtain rfl := Option.some.inj h
    rw [c.decode_encode]
    rfl

end Codec

end ZModel.Lib
