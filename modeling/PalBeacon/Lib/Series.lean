import Mathlib

namespace PalBeacon.Lib
set_option autoImplicit true

section Series
variable [DecidableEq κ]

def valuesOf (records : List (κ × Nat)) (key : κ) : List Nat :=
  (records.filter fun entry => entry.1 = key).map (·.2)

def recordedKeys (records : List (κ × Nat)) : Finset κ := (records.map (·.1)).toFinset

def keyedTotal (measure : List Nat → Nat) (records : List (κ × Nat)) : Nat :=
  ∑ key ∈ recordedKeys records, measure (valuesOf records key)

variable {records : List (κ × Nat)} {key : κ} {value : Nat}

theorem valuesOf_concat_self :
    valuesOf (records ++ [(key, value)]) key = valuesOf records key ++ [value] := by
  simp [valuesOf]

theorem valuesOf_concat_of_ne (h : other ≠ key) :
    valuesOf (records ++ [(key, value)]) other = valuesOf records other := by
  simp [valuesOf, h.symm]

theorem valuesOf_eq_nil (h : ∀ entry ∈ records, entry.1 ≠ key) : valuesOf records key = [] := by
  rw [valuesOf, List.filter_eq_nil_iff.2 fun entry he => by simpa using h entry he]
  rfl

theorem mem_recordedKeys : key ∈ recordedKeys records ↔ ∃ entry ∈ records, entry.1 = key := by
  simp only [recordedKeys, List.mem_toFinset, List.mem_map]

theorem recordedKeys_concat :
    recordedKeys (records ++ [(key, value)]) = insert key (recordedKeys records) := by
  ext other
  simp [recordedKeys]

theorem keyedTotal_concat (measure : List Nat → Nat) (hnil : measure [] = 0)
    (records : List (κ × Nat)) (key : κ) (value : Nat) :
    keyedTotal measure (records ++ [(key, value)]) + measure (valuesOf records key) =
      keyedTotal measure records + measure (valuesOf records key ++ [value]) := by
  have hold : keyedTotal measure records =
      ∑ other ∈ insert key (recordedKeys records), measure (valuesOf records other) := by
    refine Finset.sum_subset (Finset.subset_insert _ _) fun other _ hnot => ?_
    rw [valuesOf_eq_nil fun entry he hk => hnot (mem_recordedKeys.2 ⟨entry, he, hk⟩), hnil]
  have hmem := Finset.mem_insert_self key (recordedKeys records)
  have hrest : ∑ other ∈ (insert key (recordedKeys records)).erase key,
        measure (valuesOf (records ++ [(key, value)]) other) =
      ∑ other ∈ (insert key (recordedKeys records)).erase key, measure (valuesOf records other) :=
    Finset.sum_congr rfl fun other ho => by
      rw [valuesOf_concat_of_ne (Finset.ne_of_mem_erase ho)]
  rw [hold, keyedTotal, recordedKeys_concat, ← Finset.add_sum_erase _ _ hmem, hrest,
    valuesOf_concat_self, ← Finset.add_sum_erase _ _ hmem]
  omega

def lastValue (values : List Nat) : Nat := values.getLast?.getD 0

def valueSpan (values : List Nat) : Nat :=
  match values.head?, values.getLast? with
  | some first, some last => last - first + 1
  | _, _ => 0

theorem lastValue_concat (values : List Nat) : lastValue (values ++ [value]) = value := by
  simp [lastValue]

theorem valueSpan_singleton : valueSpan [value] = 1 := by simp [valueSpan]

theorem valueSpan_concat (hfirst : first ≤ lastValue (first :: values))
    (hlast : lastValue (first :: values) < value) :
    valueSpan (first :: values ++ [value]) =
      valueSpan (first :: values) + (value - lastValue (first :: values)) := by
  simp only [valueSpan, lastValue, List.head?_cons, List.cons_append, List.getLast?_cons,
    Option.getD_some, List.getLast?_concat] at hfirst hlast ⊢
  omega

end Series

end PalBeacon.Lib
