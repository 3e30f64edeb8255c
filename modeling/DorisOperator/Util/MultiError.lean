import Mathlib.Data.List.AList
import Mathlib.Data.List.ReduceOption
import DorisOperator.Client

/-!
# The error aggregation of the util package

Where several independent operations must all be attempted, their failures are
reported together rather than at the first: `util.MergeErrors` gathers the
errors of a slice into a `MultiError`, and `util.MergeErrorsWithTag` those of a
map, keyed by where each came from, into a `MultiTaggedError`. Both return nil
when nothing failed.

A Go `error` that may be nil is an `Option DorisOperator.Error`. A Go
`map[string]error` is an `AList`: its entries, with distinct keys by
construction. Go ranges over a map in an unspecified order; the model ranges over
the entries in their order, and what it states of the result is read through
lookups, which no order of the entries changes.

| function | what it returns | theorem |
|---|---|---|
| `MergeErrors` | the non-nil errors, in order, or nil | `DorisOperator.mergeErrors_eq` |
| `MultiError.Error` | their messages, in order | `DorisOperator.error_of_mergeErrors_eq_some` |
| `MergeErrorsWithTag` | the map restricted to its non-nil entries, or nil | `DorisOperator.lookup_mergeErrorsWithTag` |
| `MultiTaggedError.Error` | each failure's `[tag] message` once, in some order | `DorisOperator.error_of_mergeErrorsWithTag_eq_some` |

Both loops are specified from every accumulator
(`DorisOperator.foldl_mergeErrorsStep`, `DorisOperator.lookup_foldl_mergeErrorsWithTagStep`,
`DorisOperator.entries_foldl_mergeErrorsWithTagStep`), and read at the empty one.
-/

namespace DorisOperator

/-! ### `MergeErrors` -/

/-- `util.MultiError`, a list of errors. -/
structure MultiError where
  errors : List Error
  deriving DecidableEq, Repr

/-- One turn of the loop of `util.MergeErrors`: a non-nil error is appended to
the list. -/
def mergeErrorsStep (errorList : List Error) : Option Error → List Error
  | some err => errorList ++ [err]
  | none => errorList

/-- `util.MergeErrors`: the non-nil errors of `errs`, in a `MultiError`, or nil
when there are none. -/
def mergeErrors (errs : List (Option Error)) : Option MultiError :=
  let errorList := errs.foldl mergeErrorsStep []
  if errorList.length = 0 then none else some ⟨errorList⟩

/-- From any accumulator, the loop appends the non-nil errors, in order. -/
theorem foldl_mergeErrorsStep (errs : List (Option Error)) (acc : List Error) :
    errs.foldl mergeErrorsStep acc = acc ++ errs.reduceOption := by
  induction errs generalizing acc with
  | nil => simp
  | cons err errs ih =>
    cases err with
    | none => simp [mergeErrorsStep, ih]
    | some e => simp [mergeErrorsStep, ih, List.reduceOption_cons_of_some]

/-- **What `MergeErrors` returns**: nil when no error is non-nil, and otherwise
exactly the non-nil errors, in their order. -/
theorem mergeErrors_eq (errs : List (Option Error)) :
    mergeErrors errs = if errs.reduceOption = [] then none else some ⟨errs.reduceOption⟩ := by
  simp [mergeErrors, foldl_mergeErrorsStep]

theorem reduceOption_eq_nil_iff_all_none {α : Type} (l : List (Option α)) :
    l.reduceOption = [] ↔ ∀ e ∈ l, e = none := by
  simp [List.reduceOption, List.filterMap_eq_nil_iff]

theorem mergeErrors_eq_none_iff (errs : List (Option Error)) :
    mergeErrors errs = none ↔ ∀ err ∈ errs, err = none := by
  rw [mergeErrors_eq, ← reduceOption_eq_nil_iff_all_none]
  split <;> simp_all

theorem errors_of_mergeErrors_eq_some {errs : List (Option Error)} {r : MultiError}
    (h : mergeErrors errs = some r) : r.errors = errs.reduceOption := by
  rw [mergeErrors_eq] at h
  split at h
  · cases h
  · cases h
    rfl

example : mergeErrors [none, some ⟨"a"⟩, none, some ⟨"b"⟩] = some ⟨[⟨"a"⟩, ⟨"b"⟩]⟩ := by decide

/-- `MultiError.Error`: the messages of the errors, joined with `"; "`. -/
def MultiError.error (e : MultiError) : String := "; ".intercalate (e.errors.map Error.msg)

/-- The message of a merged error gives the message of every non-nil error, in
order. -/
theorem error_of_mergeErrors_eq_some {errs : List (Option Error)} {r : MultiError}
    (h : mergeErrors errs = some r) : r.error = "; ".intercalate (errs.reduceOption.map Error.msg) := by
  rw [MultiError.error, errors_of_mergeErrors_eq_some h]

/-! ### `MergeErrorsWithTag` -/

/-- `util.MultiTaggedError`, errors keyed by a tag. -/
structure MultiTaggedError where
  errors : AList fun _ : String => Error
  deriving DecidableEq

/-- One turn of the loop of `util.MergeErrorsWithTag`: a non-nil error is stored
under its tag. -/
def mergeErrorsWithTagStep (errMap : AList fun _ : String => Error) :
    (Σ _ : String, Option Error) → AList fun _ : String => Error
  | ⟨tag, some err⟩ => errMap.insert tag err
  | ⟨_, none⟩ => errMap

/-- `util.MergeErrorsWithTag`: the non-nil entries of `errors`, in a
`MultiTaggedError`, or nil when there are none. -/
def mergeErrorsWithTag (errors : AList fun _ : String => Option Error) : Option MultiTaggedError :=
  let errMap := errors.entries.foldl mergeErrorsWithTagStep ∅
  if errMap.entries.length = 0 then none else some ⟨errMap⟩

/-- From any accumulator, a loop over entries with distinct keys stores under
each tag its non-nil error, and keeps what the accumulator holds elsewhere. -/
theorem lookup_foldl_mergeErrorsWithTagStep {l : List (Σ _ : String, Option Error)} (hl : l.NodupKeys)
    (acc : AList fun _ : String => Error) (tag : String) :
    (l.foldl mergeErrorsWithTagStep acc).lookup tag = (l.dlookup tag).join.or (acc.lookup tag) := by
  induction l generalizing acc with
  | nil => rfl
  | cons x l ih =>
    obtain ⟨t, v⟩ := x
    obtain ⟨hx, hl'⟩ := List.nodupKeys_cons.mp hl
    rw [List.foldl_cons, ih hl']
    by_cases ht : tag = t
    · subst ht
      rw [List.dlookup_eq_none.mpr hx, List.dlookup_cons_eq]
      cases v <;> simp [mergeErrorsWithTagStep]
    · rw [List.dlookup_cons_ne _ _ ht]
      cases v <;> simp [mergeErrorsWithTagStep, AList.lookup_insert_ne ht]

/-- From an accumulator that holds none of their keys, a loop over entries with
distinct keys puts the non-nil ones in front of the accumulator's entries, last
first. -/
theorem entries_foldl_mergeErrorsWithTagStep {l : List (Σ _ : String, Option Error)} (hl : l.NodupKeys)
    {acc : AList fun _ : String => Error} (hacc : ∀ x ∈ l, x.1 ∉ acc) :
    (l.foldl mergeErrorsWithTagStep acc).entries =
      (l.filterMap fun x => x.2.map (Sigma.mk x.1)).reverse ++ acc.entries := by
  induction l generalizing acc with
  | nil => rfl
  | cons x l ih =>
    obtain ⟨t, v⟩ := x
    obtain ⟨hx, hl'⟩ := List.nodupKeys_cons.mp hl
    have hne : ∀ y ∈ l, y.1 ≠ t := fun y hy he => hx (he ▸ List.mem_keys.mpr ⟨y.2, hy⟩)
    have ht : t ∉ acc := hacc _ (List.mem_cons_self _ _)
    cases v with
    | none => simpa [mergeErrorsWithTagStep] using ih hl' fun y hy => hacc y (List.mem_cons_of_mem _ hy)
    | some e =>
      rw [List.foldl_cons, ih hl' fun y hy => ?_]
      · simp only [mergeErrorsWithTagStep, AList.insert_entries_of_neg ht, List.filterMap_cons,
          Option.map_some', List.reverse_cons, List.append_assoc, List.singleton_append]
      · simpa [mergeErrorsWithTagStep, AList.mem_insert, hne y hy] using hacc y (List.mem_cons_of_mem _ hy)

theorem AList.entries_length_eq_zero {β : String → Type} (s : AList β) :
    s.entries.length = 0 ↔ ∀ a, s.lookup a = none := by
  refine ⟨fun h a => by simp [AList.lookup, List.length_eq_zero.mp h], fun h => ?_⟩
  match hs : s.entries with
  | [] => rfl
  | x :: _ =>
    have hx : x.2 ∈ s.lookup x.1 := AList.mem_lookup_iff.mpr (by rw [hs]; exact .head _)
    rw [h] at hx
    cases hx

/-- **What `MergeErrorsWithTag` stores**: under each tag, the error the map holds
there when it is not nil. -/
theorem lookup_mergeErrorsWithTag (errors : AList fun _ : String => Option Error) (tag : String) :
    (errors.entries.foldl mergeErrorsWithTagStep ∅).lookup tag = (errors.lookup tag).join := by
  rw [lookup_foldl_mergeErrorsWithTagStep errors.nodupKeys]
  exact Option.or_none

theorem mergeErrorsWithTag_eq_none_iff (errors : AList fun _ : String => Option Error) :
    mergeErrorsWithTag errors = none ↔ ∀ tag err, errors.lookup tag = some err → err = none := by
  have hall : (∀ tag err, errors.lookup tag = some err → err = none) ↔
      ∀ tag, (errors.lookup tag).join = none := by
    refine forall_congr' fun tag => ?_
    cases errors.lookup tag <;> simp [Option.join_eq_none]
  rw [hall, mergeErrorsWithTag]
  simp only [← lookup_mergeErrorsWithTag, ← AList.entries_length_eq_zero]
  split <;> simp_all

theorem lookup_of_mergeErrorsWithTag_eq_some {errors : AList fun _ : String => Option Error}
    {r : MultiTaggedError} (h : mergeErrorsWithTag errors = some r) (tag : String) :
    r.errors.lookup tag = (errors.lookup tag).join := by
  rw [mergeErrorsWithTag] at h
  split at h
  · cases h
  · cases h
    exact lookup_mergeErrorsWithTag errors tag

/-- The part of `MultiTaggedError.Error` for one entry: `[tag] message`. -/
def taggedMsg (tag : String) (err : Error) : String := "[" ++ tag ++ "] " ++ err.msg

/-- `MultiTaggedError.Error`: the tagged messages of the entries, joined with
`"; "`, in the order of the map's iteration. -/
def MultiTaggedError.error (e : MultiTaggedError) : String :=
  "; ".intercalate (e.errors.entries.map fun x => taggedMsg x.1 x.2)

/-- **The message of a merged tagged error reports every failure once**: its
parts are the tagged messages of the non-nil entries of the map, in some order. -/
theorem error_of_mergeErrorsWithTag_eq_some {errors : AList fun _ : String => Option Error}
    {r : MultiTaggedError} (h : mergeErrorsWithTag errors = some r) :
    ∃ parts, parts.Perm (errors.entries.filterMap fun x => x.2.map (taggedMsg x.1)) ∧
      r.error = "; ".intercalate parts := by
  rw [mergeErrorsWithTag] at h
  split at h
  · cases h
  · cases h
    refine ⟨_, ?_, rfl⟩
    rw [entries_foldl_mergeErrorsWithTagStep errors.nodupKeys fun _ _ => AList.not_mem_empty _,
      AList.empty_entries, List.append_nil, List.map_reverse, List.map_filterMap]
    simp only [Option.map_map]
    exact List.reverse_perm _

/-! ### Nil exactly when nothing failed -/

/-- **The laws of the aggregation.** `MergeErrors` is nil exactly when every error
is nil, and otherwise holds the non-nil errors, none lost, none repeated, in
their order; `MergeErrorsWithTag` is nil exactly when every value of the map is
nil, and otherwise holds the map restricted to its non-nil entries. -/
theorem mergeErrors_laws (errs : List (Option Error)) (m : AList fun _ : String => Option Error) :
    ((mergeErrors errs = none ↔ ∀ err ∈ errs, err = none) ∧
      ∀ r, mergeErrors errs = some r → r.errors = errs.reduceOption) ∧
    ((mergeErrorsWithTag m = none ↔ ∀ tag err, m.lookup tag = some err → err = none) ∧
      ∀ r, mergeErrorsWithTag m = some r → ∀ tag, r.errors.lookup tag = (m.lookup tag).join) :=
  ⟨⟨mergeErrors_eq_none_iff errs, fun _ => errors_of_mergeErrors_eq_some⟩,
    ⟨mergeErrorsWithTag_eq_none_iff m, fun _ => lookup_of_mergeErrorsWithTag_eq_some⟩⟩

end DorisOperator
