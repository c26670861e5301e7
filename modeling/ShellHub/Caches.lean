import Mathlib.Logic.Function.Basic

/-!
# Caches with expiry

A cache keeps values under keys, each with the time at which it is dropped. A write starts the
lifetime of its entry anew. Reading does not change a cache: an entry that has outlived its time is
not found.
-/

namespace ShellHub.Caches

/-- A cached value with the time at which it is dropped. -/
structure Timed (α : Type) where
  value : α
  expiresAt : Nat

/-- The entries of the cache under one kind of keys. -/
abbrev Cache (α : Type) := String → Option (Timed α)

namespace Cache

variable {α : Type}

/-- The live value under a key. -/
def get (cache : Cache α) (key : String) (now : Nat) : Option α :=
  ((cache key).filter fun entry => now < entry.expiresAt).map Timed.value

/-- Write a value that lives until a given time. -/
def set (cache : Cache α) (key : String) (value : α) (expiresAt : Nat) : Cache α :=
  Function.update cache key (some ⟨value, expiresAt⟩)

/-- Delete a key. -/
def delete (cache : Cache α) (key : String) : Cache α := Function.update cache key none

/-- A value is found exactly as long as its entry lives. -/
theorem get_eq_some {cache : Cache α} {key : String} {value : α} {now : Nat} :
    cache.get key now = some value ↔
    ∃ entry, cache key = some entry ∧ now < entry.expiresAt ∧ entry.value = value := by
  simp [get, Option.filter_eq_some_iff, and_assoc]

end Cache

end ShellHub.Caches
