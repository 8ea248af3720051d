import PalBeacon.Lib.Canonical

namespace PalBeacon.Lib
set_option autoImplicit true

/-- Records under keys of their own, in strict order of the keys. -/
structure Ordered [LinearOrder κ] (key : α → κ) where
  toList : List α
  strict : toList.Pairwise fun a b => key a < key b

namespace Ordered
variable [LinearOrder κ] {key : α → κ}

def empty : Ordered key := ⟨[], .nil⟩

def containsKey (records : Ordered key) (k : κ) : Bool := records.toList.any fun a => key a = k

theorem containsKey_iff (records : Ordered key) :
    records.containsKey k = true ↔ ∃ a ∈ records.toList, key a = k := by
  simp [containsKey]

def get? (records : Ordered key) (k : κ) : Option α := records.toList.find? fun a => key a = k

theorem get?_of_mem (records : Ordered key) (ha : a ∈ records.toList) :
    records.get? (key a) = some a := by
  obtain ⟨l, hl⟩ := records
  unfold get?
  induction l with
  | nil => exact absurd ha List.not_mem_nil
  | cons b l ih =>
    obtain ⟨hb, hl⟩ := List.pairwise_cons.1 hl
    obtain rfl | ha := List.mem_cons.1 ha
    · simp
    · have hne : key b ≠ key a := (hb a ha).ne
      rw [List.find?_cons_of_neg (by simpa using hne)]
      exact ih hl ha

theorem get?_eq_some (records : Ordered key) :
    records.get? k = some a ↔ a ∈ records.toList ∧ key a = k := by
  constructor
  · intro h
    have hkey := List.find?_some h
    exact ⟨List.mem_of_find?_eq_some h, of_decide_eq_true hkey⟩
  · rintro ⟨ha, rfl⟩
    exact records.get?_of_mem ha

theorem sortBy_insert_strict (records : Ordered key) (h : records.containsKey (key a) = false) :
    (sortBy key (a :: records.toList)).Pairwise fun a b => key a < key b := by
  apply sortBy_strict
  rw [List.map_cons, List.nodup_cons]
  constructor
  · intro hmem
    obtain ⟨b, hb, he⟩ := List.mem_map.1 hmem
    have : records.containsKey (key a) = true := records.containsKey_iff.2 ⟨b, hb, he⟩
    rw [h] at this
    cases this
  · apply List.pairwise_map.2
    exact records.strict.imp fun hlt => hlt.ne

def insertNew (records : Ordered key) (a : α) : Option (Ordered key) :=
  if h : records.containsKey (key a) = false then
    some ⟨sortBy key (a :: records.toList), records.sortBy_insert_strict h⟩
  else none

theorem mem_of_insertNew {records records' : Ordered key}
    (h : records.insertNew a = some records') :
    b ∈ records'.toList ↔ b = a ∨ b ∈ records.toList := by
  unfold insertNew at h
  split at h
  · cases h
    simp only [mem_sortBy, List.mem_cons]
  · cases h

theorem nodup (records : Ordered key) : (records.toList.map key).Nodup := by
  apply List.pairwise_map.2
  exact records.strict.imp fun hlt => hlt.ne

end Ordered

end PalBeacon.Lib
