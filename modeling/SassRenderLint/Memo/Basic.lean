/-
Module: SassRenderLint.Memo.Basic
Layer: Memo
Purpose: Tables that remember the first value computed for each key. A lookup is three steps: check the
  table, compute the value on a miss, and store it. Nothing is held between the steps, so several
  lookups of one key may compute; the first to store wins, and all of them get its value. Failures are
  not remembered.
Program names: Memo is MemoCache, lookup is get_or_insert_with, tryLookup is get_or_try_insert_with and
  get_or_try_insert_async, size is len.
Main exports: Memo, Memo.get?, Memo.store, Memo.lookup, Memo.tryLookup
-/
import SassRenderLint.Routine.Basic

namespace SassRenderLint

/-- A table of remembered values. No key occurs twice. -/
structure Memo (κ ν : Type) where
  entries : List (κ × ν)
deriving DecidableEq, Repr

namespace Memo

variable {κ ν σ ε : Type} [DecidableEq κ]

def empty : Memo κ ν := ⟨[]⟩

instance : Inhabited (Memo κ ν) := ⟨empty⟩

def get? (m : Memo κ ν) (key : κ) : Option ν :=
  (m.entries.find? fun entry => entry.1 = key).map Prod.snd

def contains (m : Memo κ ν) (key : κ) : Bool := (m.get? key).isSome

def size (m : Memo κ ν) : Nat := m.entries.length

def isEmpty (m : Memo κ ν) : Bool := m.entries.isEmpty

/-- Remembers a value unless the key has one already, and gives the remembered one. -/
def store (m : Memo κ ν) (key : κ) (value : ν) : ν × Memo κ ν :=
  match m.get? key with
  | some stored => (stored, m)
  | none => (value, ⟨m.entries ++ [(key, value)]⟩)

def shown (m : Memo κ ν) : String :=
  "MemoCache \x7b len: " ++ String.ofList (Nat.toDigits 10 m.size) ++ " \x7d"

/-- Looks a key up, and computes and stores its value on a miss. -/
def lookup (slot : Slot σ (Memo κ ν)) (key : κ) (compute : Routine σ ν) : Routine σ ν := do
  match ← Routine.read fun s => (slot.get s).get? key with
  | some value => pure value
  | none =>
    let value ← compute
    Routine.modifyGet fun s =>
      let (stored, m) := (slot.get s).store key value
      (stored, slot.set m s)

/-- The same with a computation that may fail; a failure changes nothing. -/
def tryLookup (slot : Slot σ (Memo κ ν)) (key : κ) (compute : Routine σ (Except ε ν)) :
    Routine σ (Except ε ν) := do
  match ← Routine.read fun s => (slot.get s).get? key with
  | some value => pure (.ok value)
  | none =>
    match ← compute with
    | .error e => pure (.error e)
    | .ok value =>
      .ok <$> Routine.modifyGet fun s =>
        let (stored, m) := (slot.get s).store key value
        (stored, slot.set m s)

end Memo

end SassRenderLint
