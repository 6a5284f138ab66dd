/-
Module: SassRenderLint.Json.Basic
Layer: Json
Purpose: JSON values. An object is the list of its fields; reading keeps the list sorted by key with
  no key twice, and `Fields.Sorted` says so. Integers and binary64 numbers are told apart, because
  they are written and described differently.
Main exports: Json, Fields.get?, Fields.insert, Fields.erase, Json.kindName
-/
import SassRenderLint.Number.Binary64

namespace SassRenderLint

/-- A JSON number. Integers from `-2 ^ 63` to `2 ^ 64 - 1` are kept as they are. -/
inductive JsonNumber where
  | int (value : Int)
  | float (value : Binary64)
deriving DecidableEq, Repr, Inhabited

inductive Json where
  | null
  | bool (value : Bool)
  | num (value : JsonNumber)
  | str (value : String)
  | arr (items : List Json)
  | obj (fields : List (String × Json))
deriving Repr, Inhabited

abbrev Fields := List (String × Json)

namespace Json

mutual

def decEq : (a b : Json) → Decidable (a = b)
  | .null, .null => isTrue rfl
  | .bool a, .bool b => decidable_of_iff (a = b) (by simp)
  | .num a, .num b => decidable_of_iff (a = b) (by simp)
  | .str a, .str b => decidable_of_iff (a = b) (by simp)
  | .arr a, .arr b =>
    match decEqItems a b with
    | isTrue h => isTrue (by rw [h])
    | isFalse h => isFalse (by simpa using h)
  | .obj a, .obj b =>
    match decEqFields a b with
    | isTrue h => isTrue (by rw [h])
    | isFalse h => isFalse (by simpa using h)
  | .null, .bool _ | .null, .num _ | .null, .str _ | .null, .arr _ | .null, .obj _ => isFalse nofun
  | .bool _, .null | .bool _, .num _ | .bool _, .str _ | .bool _, .arr _ | .bool _, .obj _ => isFalse nofun
  | .num _, .null | .num _, .bool _ | .num _, .str _ | .num _, .arr _ | .num _, .obj _ => isFalse nofun
  | .str _, .null | .str _, .bool _ | .str _, .num _ | .str _, .arr _ | .str _, .obj _ => isFalse nofun
  | .arr _, .null | .arr _, .bool _ | .arr _, .num _ | .arr _, .str _ | .arr _, .obj _ => isFalse nofun
  | .obj _, .null | .obj _, .bool _ | .obj _, .num _ | .obj _, .str _ | .obj _, .arr _ => isFalse nofun

def decEqItems : (a b : List Json) → Decidable (a = b)
  | [], [] => isTrue rfl
  | [], _ :: _ => isFalse nofun
  | _ :: _, [] => isFalse nofun
  | x :: xs, y :: ys =>
    match decEq x y, decEqItems xs ys with
    | isTrue h, isTrue hs => isTrue (by rw [h, hs])
    | isFalse h, _ => isFalse fun e => h (List.cons.inj e).1
    | _, isFalse hs => isFalse fun e => hs (List.cons.inj e).2

def decEqFields : (a b : List (String × Json)) → Decidable (a = b)
  | [], [] => isTrue rfl
  | [], _ :: _ => isFalse nofun
  | _ :: _, [] => isFalse nofun
  | (k, x) :: xs, (l, y) :: ys =>
    match decEq x y, decEqFields xs ys with
    | isTrue h, isTrue hs => decidable_of_iff (k = l) (by simp [h, hs])
    | isFalse h, _ => isFalse fun e => h (Prod.mk.inj (List.cons.inj e).1).2
    | _, isFalse hs => isFalse fun e => hs (List.cons.inj e).2

end

instance : DecidableEq Json := decEq

def ofNat (n : Nat) : Json := .num (.int n)

/-- A value or `null`. -/
def ofOption {α : Type} (encode : α → Json) : Option α → Json
  | none => .null
  | some a => encode a

/-- The name of a value's kind in messages. -/
def kindName : Json → String
  | .null => "null"
  | .bool _ => "boolean"
  | .num _ => "number"
  | .str _ => "string"
  | .arr _ => "array"
  | .obj _ => "object"

end Json

namespace Fields

/-- Keys come in strictly increasing order. -/
def Sorted (fields : Fields) : Prop := fields.Pairwise fun a b => a.1 < b.1

def get? (fields : Fields) (key : String) : Option Json :=
  match fields with
  | [] => none
  | (k, v) :: rest => if k = key then some v else get? rest key

def contains (fields : Fields) (key : String) : Bool := (fields.get? key).isSome

/-- Puts a value under a key, in key order, in place of the value that was there. -/
def insert (fields : Fields) (key : String) (value : Json) : Fields :=
  match fields with
  | [] => [(key, value)]
  | (k, v) :: rest =>
    if key = k then (key, value) :: rest
    else if key < k then (key, value) :: (k, v) :: rest
    else (k, v) :: insert rest key value

/-- Drops the fields under a key. -/
def erase (fields : Fields) (key : String) : Fields := fields.filter fun field => field.1 ≠ key

/-- The fields in key order. Of a repeated key the last value stays. -/
def ofPairs (pairs : List (String × Json)) : Fields :=
  pairs.foldl (fun fields pair => insert fields pair.1 pair.2) []

end Fields

end SassRenderLint
