import Mathlib.Data.List.Basic

/-!
# The helpers of the `util` package

The builders and the reconciler lean on a handful of small helpers of the
operator's `util` package. Only the error aggregation of the package is in the
sources at hand (`DorisOperator.mergeErrors` and its siblings, in their own
module); the rest – the fallbacks that give a role-level field priority
over the cluster-level one, `util.MergeMaps` and `util.Elvis` – are modelled
here from what the design says of them: *role-level overrides cluster-level,
which overrides a hardcoded default*.

A Go `map[string]string` is `DorisOperator.StrMap`, the list of its entries. A
map literal with distinct keys is the list of its entries in order, and
`DorisOperator.StrMap.insert` keeps the keys distinct, so a lookup finds the one
entry of its key.
-/

namespace DorisOperator

/-! ### String maps -/

/-- A Go `map[string]string`, as the list of its entries. -/
abbrev StrMap := List (String × String)

namespace StrMap

/-- The value of a key, `m[k]` with its `ok`. -/
def get? (m : StrMap) (k : String) : Option String := m.lookup k

/-- `m[k] = v`: overwrite the entry of `k`, or add one. -/
def insert (m : StrMap) (k v : String) : StrMap :=
  if (m.lookup k).isSome then m.map fun e => if e.1 = k then (k, v) else e
  else m ++ [(k, v)]

end StrMap

/-- Modelled from the spec: `util.MergeMaps`, absent from the sources, merges its
maps from left to right, an entry of a later map overriding one of an earlier
map. -/
def mergeMaps (ms : List StrMap) : StrMap :=
  ms.foldl (fun acc m => m.foldl (fun a e => a.insert e.1 e.2) acc) []

/-! ### Fallbacks -/

/-- Modelled from the spec: `util.StringFallback`, the role-level string unless it
is empty. -/
def stringFallback (s fallback : String) : String :=
  if s.isEmpty then fallback else s

/-- Modelled from the spec: `util.PointerFallback`, the role-level pointer unless
it is nil. -/
def pointerFallback {α : Type} (p fallback : Option α) : Option α :=
  match p with
  | some _ => p
  | none => fallback

/-- Modelled from the spec: `util.ArrayFallback`, the role-level slice unless it
is empty. -/
def arrayFallback {α : Type} (a fallback : List α) : List α :=
  if a.isEmpty then fallback else a

/-- Modelled from the spec: `util.PointerFallbackAndDeRefer`, the first non-nil of
the two pointers, dereferenced, and the hardcoded default when both are nil. -/
def pointerFallbackAndDeRefer {α : Type} (p fallback : Option α) (default : α) : α :=
  (pointerFallback p fallback).getD default

/-- Modelled from the spec: `util.Elvis`, the conditional expression. -/
def elvis {α : Type} (c : Bool) (a b : α) : α :=
  if c then a else b

@[simp] theorem elvis_true {α : Type} (a b : α) : elvis true a b = a := rfl

@[simp] theorem elvis_false {α : Type} (a b : α) : elvis false a b = b := rfl

end DorisOperator
