import PalBeacon.Lib.Canonical

namespace PalBeacon.Lib
set_option autoImplicit true

section Buckets
variable [LinearOrder κ] {β : Type}

def addToBucket (buckets : Std.TreeMap κ (List β)) (entry : κ × β) : Std.TreeMap κ (List β) :=
  buckets.alter entry.1 fun values => some (values.getD [] ++ [entry.2])

/-- Values under their keys, those under one key in the order of the list. -/
def inBuckets (entries : List (κ × β)) : Std.TreeMap κ (List β) := entries.foldl addToBucket ∅

theorem addToBucket_getD (buckets : Std.TreeMap κ (List β)) (entry : κ × β) (k : κ) :
    (addToBucket buckets entry)[k]?.getD [] =
      buckets[k]?.getD [] ++ if entry.1 = k then [entry.2] else [] := by
  unfold addToBucket
  rw [Std.TreeMap.getElem?_alter]
  simp only [Std.LawfulEqCmp.compare_eq_iff_eq]
  split
  · next h =>
    subst h
    rfl
  · rw [List.append_nil]

theorem foldl_addToBucket_getD (entries : List (κ × β)) (buckets : Std.TreeMap κ (List β)) (k : κ) :
    (entries.foldl addToBucket buckets)[k]?.getD [] =
      buckets[k]?.getD [] ++ (entries.filter fun entry => entry.1 = k).map Prod.snd := by
  induction entries generalizing buckets with
  | nil => simp
  | cons entry entries ih =>
    rw [List.foldl_cons, ih, addToBucket_getD, List.append_assoc]
    by_cases hk : entry.1 = k
    · simp [hk]
    · simp [hk]

theorem mem_inBuckets {entries : List (κ × β)} {k : κ} {value : β} :
    value ∈ (inBuckets entries)[k]?.getD [] ↔ (k, value) ∈ entries := by
  unfold inBuckets
  rw [foldl_addToBucket_getD, Std.TreeMap.getElem?_emptyc]
  simp only [Option.getD_none, List.nil_append, List.mem_map, List.mem_filter, decide_eq_true_eq]
  constructor
  · rintro ⟨⟨_, _⟩, ⟨hmem, rfl⟩, rfl⟩
    exact hmem
  · intro hmem
    exact ⟨_, ⟨hmem, rfl⟩, rfl⟩

def searchBuckets (buckets : Std.TreeMap κ (List β)) (keep : β → Bool) (keys : List κ) : List β :=
  keys.flatMap fun k => (buckets[k]?.getD []).filter keep

theorem mem_searchBuckets {entries : List (κ × β)} {keep : β → Bool} {keys : List κ} {value : β} :
    value ∈ searchBuckets (inBuckets entries) keep keys ↔
      keep value = true ∧ ∃ k ∈ keys, (k, value) ∈ entries := by
  simp only [searchBuckets, List.mem_flatMap, List.mem_filter, mem_inBuckets]
  grind

theorem sortDedup_searchBuckets [LinearOrder β] {entries : List (κ × β)} {keep : β → Bool}
    {keys : List κ}
    (hstrict : (entries.map Prod.snd).Pairwise (· < ·))
    (hcover : ∀ entry ∈ entries, keep entry.2 = true → entry.1 ∈ keys) :
    sortDedup (searchBuckets (inBuckets entries) keep keys) =
      (entries.map Prod.snd).filter keep := by
  apply eq_of_strict id (sortDedup_strict _) (hstrict.filter _)
  intro value
  rw [mem_sortDedup, mem_searchBuckets, List.mem_filter, List.mem_map]
  constructor
  · rintro ⟨hkeep, k, -, hmem⟩
    exact ⟨⟨_, hmem, rfl⟩, hkeep⟩
  · rintro ⟨⟨⟨k, _⟩, hmem, rfl⟩, hkeep⟩
    exact ⟨hkeep, k, hcover _ hmem hkeep, hmem⟩

end Buckets

def around (cell : ℤ ×ₗ ℤ) : List (ℤ ×ₗ ℤ) :=
  [-1, 0, 1].flatMap fun offsetX => [-1, 0, 1].map fun offsetY =>
    toLex ((ofLex cell).1 + offsetX, (ofLex cell).2 + offsetY)

theorem mem_around {cell other : ℤ ×ₗ ℤ} : other ∈ around cell ↔
    |(ofLex other).1 - (ofLex cell).1| ≤ 1 ∧ |(ofLex other).2 - (ofLex cell).2| ≤ 1 := by
  have hnear (a b : ℤ) : (∃ offset ∈ [-1, 0, 1], b + offset = a) ↔ |a - b| ≤ 1 := by
    rw [abs_le]
    simp only [List.mem_cons, List.not_mem_nil, or_false, exists_eq_or_imp, exists_eq_left]
    omega
  rw [← hnear, ← hnear]
  simp only [around, List.mem_flatMap, List.mem_map]
  constructor
  · rintro ⟨offsetX, hx, offsetY, hy, rfl⟩
    exact ⟨⟨offsetX, hx, rfl⟩, offsetY, hy, rfl⟩
  · rintro ⟨⟨offsetX, hx, hx'⟩, offsetY, hy, hy'⟩
    refine ⟨offsetX, hx, offsetY, hy, ?_⟩
    rw [hx', hy']
    rfl

section Grid
variable [Field K] [LinearOrder K] [IsStrictOrderedRing K]

def distanceSq (a b : K × K) : K := (a.1 - b.1) ^ 2 + (a.2 - b.2) ^ 2

omit [LinearOrder K] [IsStrictOrderedRing K] in
@[simp] theorem distanceSq_self (a : K × K) : distanceSq a a = 0 := by
  rw [distanceSq]
  ring

theorem abs_sub_lt_of_distanceSq {a b : K × K} {size : K} (hsize : 0 < size)
    (h : distanceSq a b < size ^ 2) : |a.1 - b.1| < size ∧ |a.2 - b.2| < size := by
  rw [distanceSq] at h
  have hx := sq_nonneg (a.1 - b.1)
  have hy := sq_nonneg (a.2 - b.2)
  exact ⟨abs_lt_of_sq_lt_sq (by linarith) hsize.le, abs_lt_of_sq_lt_sq (by linarith) hsize.le⟩

variable [FloorRing K]

def gridCell (size : K) (point : K × K) : ℤ ×ₗ ℤ := toLex (⌊point.1 / size⌋, ⌊point.2 / size⌋)

theorem abs_floor_sub_le {size x y : K} (hsize : 0 < size) (h : |x - y| < size) :
    |⌊x / size⌋ - ⌊y / size⌋| ≤ 1 := by
  have hstep {x y : K} (hlt : x - y < size) : ⌊x / size⌋ ≤ ⌊y / size⌋ + 1 := by
    have hdiv : x / size ≤ y / size + 1 := by
      rw [← div_self hsize.ne', ← add_div]
      exact (div_le_div_iff_of_pos_right hsize).2 (by linarith)
    rw [← Int.floor_add_one]
    exact Int.floor_mono hdiv
  obtain ⟨hlow, hhigh⟩ := abs_lt.1 h
  have hxy := hstep hhigh
  have hyx := hstep (x := y) (y := x) (by linarith)
  rw [abs_le]
  omega

theorem gridCell_mem_around {size : K} {a b : K × K} (hsize : 0 < size)
    (h : distanceSq a b < size ^ 2) : gridCell size a ∈ around (gridCell size b) := by
  obtain ⟨hx, hy⟩ := abs_sub_lt_of_distanceSq hsize h
  exact mem_around.2 ⟨abs_floor_sub_le hsize hx, abs_floor_sub_le hsize hy⟩

variable {α : Type} (size : K) (point : α → K × K)

def inCells (values : List α) : Std.TreeMap (ℤ ×ₗ ℤ) (List α) :=
  inBuckets (values.map fun value => (gridCell size (point value), value))

/-- Whether the cell of a point or one around it holds a value that is closer than the size. -/
def isNear (cells : Std.TreeMap (ℤ ×ₗ ℤ) (List α)) (target : K × K) : Bool :=
  (around (gridCell size target)).any fun cell =>
    (cells[cell]?.getD []).any fun value => distanceSq (point value) target < size ^ 2

omit [IsStrictOrderedRing K] in
theorem inCells_append (values : List α) (value : α) :
    inCells size point (values ++ [value]) =
      addToBucket (inCells size point values) (gridCell size (point value), value) := by
  rw [inCells, inBuckets, List.map_append, List.foldl_append]
  rfl

theorem isNear_inCells {size : K} {target : K × K} {values : List α} (hsize : 0 < size) :
    isNear size point (inCells size point values) target = true ↔
      ∃ value ∈ values, distanceSq (point value) target < size ^ 2 := by
  simp only [isNear, inCells, List.any_eq_true, decide_eq_true_eq, mem_inBuckets, List.mem_map,
    Prod.mk.injEq]
  constructor
  · rintro ⟨_, -, _, ⟨value, hmem, -, rfl⟩, hclose⟩
    exact ⟨value, hmem, hclose⟩
  · rintro ⟨value, hmem, hclose⟩
    exact ⟨_, gridCell_mem_around hsize hclose, value, ⟨value, hmem, rfl, rfl⟩, hclose⟩

end Grid

section Canvas

/-- A buffer, with the indexes that were written so far in their order. -/
structure Canvas (α : Type) where
  values : List α
  written : List Nat
deriving DecidableEq, Repr

namespace Canvas
variable {canvas : Canvas α} {writes : List (Nat × α)} {f : Nat → α}

def blank (n : Nat) (value : α) : Canvas α := ⟨List.replicate n value, []⟩

def put (canvas : Canvas α) (write : Nat × α) : Canvas α :=
  ⟨canvas.values.set write.1 write.2, canvas.written ++ [write.1]⟩

def putAll (canvas : Canvas α) (writes : List (Nat × α)) : Canvas α := writes.foldl put canvas

theorem putAll_append (canvas : Canvas α) (writes writes' : List (Nat × α)) :
    canvas.putAll (writes ++ writes') = (canvas.putAll writes).putAll writes' := List.foldl_append

@[simp] theorem length_putAll (canvas : Canvas α) (writes : List (Nat × α)) :
    (canvas.putAll writes).values.length = canvas.values.length := by
  induction writes generalizing canvas with
  | nil => rfl
  | cons write writes ih => exact (ih _).trans List.length_set

theorem written_putAll (canvas : Canvas α) (writes : List (Nat × α)) :
    (canvas.putAll writes).written = canvas.written ++ writes.map Prod.fst := by
  induction writes generalizing canvas with
  | nil => exact (List.append_nil _).symm
  | cons write writes ih =>
    refine (ih _).trans ?_
    rw [put, List.append_assoc]
    rfl

theorem getElem?_putAll (h : ∀ write ∈ writes, write.2 = f write.1) (i : Nat) :
    (canvas.putAll writes).values[i]? =
      if i ∈ writes.map Prod.fst then (if i < canvas.values.length then some (f i) else none)
      else canvas.values[i]? := by
  induction writes generalizing canvas with
  | nil => rfl
  | cons write writes ih =>
    obtain ⟨hwrite, hwrites⟩ := List.forall_mem_cons.1 h
    have hput : (canvas.put write).values[i]? =
        if write.1 = i then (if i < canvas.values.length then some (f i) else none)
          else canvas.values[i]? := by
      rw [put, List.getElem?_set]
      split
      · next hi => rw [← hi, hwrite]
      · rfl
    have hlength : (canvas.put write).values.length = canvas.values.length := List.length_set
    refine (@ih (canvas.put write) hwrites).trans ?_
    rw [hput, hlength]
    by_cases hi : write.1 = i
    · simp [hi]
    · have hmem : i ∈ (write :: writes).map Prod.fst ↔ i ∈ writes.map Prod.fst := by
        rw [List.map_cons, List.mem_cons, or_iff_right (Ne.symm hi)]
      simp only [hmem, if_neg hi]

theorem foldlM_putAll {step : Canvas α → β → Except ε (Canvas α)} {each : β → List (Nat × α)}
    {l : List β} {n : Nat}
    (h : ∀ canvas : Canvas α, canvas.values.length = n →
      ∀ x ∈ l, step canvas x = .ok (canvas.putAll (each x)))
    (hlength : canvas.values.length = n) : l.foldlM step canvas = .ok
      (canvas.putAll (l.flatMap each)) := by
  induction l generalizing canvas with
  | nil => rfl
  | cons x xs ih =>
    rw [List.foldlM_cons, h canvas hlength x List.mem_cons_self, List.flatMap_cons, putAll_append]
    refine ih (fun canvas hcanvas y hy => h canvas hcanvas y (List.mem_cons_of_mem x hy)) ?_
    rwa [length_putAll]

end Canvas

end Canvas

section RowMajor

theorem index_lt {x y width height : Nat} (hx : x < width) (hy : y < height) :
    y * width + x < width * height := by
  have hrow : (y + 1) * width ≤ height * width := Nat.mul_le_mul_right width hy
  rw [Nat.add_mul, Nat.one_mul] at hrow
  rw [Nat.mul_comm width]
  omega

theorem index_mod {x y width : Nat} (hx : x < width) : (y * width + x) % width = x := by
  rw [Nat.mul_comm, Nat.mul_add_mod, Nat.mod_eq_of_lt hx]

theorem index_div {x y width : Nat} (hx : x < width) : (y * width + x) / width = y := by
  rw [Nat.mul_comm, Nat.mul_add_div (Nat.zero_lt_of_lt hx), Nat.div_eq_of_lt hx, Nat.add_zero]

theorem sum_parts {side core parts : Nat} (hparts : side ≤ parts * core) :
    ((List.range parts).map fun i => min core (side - i * core)).sum = side := by
  have hfirst : ∀ n, ((List.range n).map fun i => min core (side - i * core)).sum =
    min side (n * core) := by
    intro n
    induction n with
    | zero => simp
    | succ n ih =>
      rw [List.range_succ, List.map_append, List.sum_append, ih, Nat.succ_mul]
      simp only [List.map_cons, List.map_nil, List.sum_cons, List.sum_nil]
      omega
  rw [hfirst, Nat.min_eq_left hparts]

end RowMajor

section Loops

theorem anyM_eq_ok {test : α → Except ε Bool} {p : α → Bool} {l : List α}
    (h : ∀ x ∈ l, test x = .ok (p x)) :
    l.anyM test = .ok (l.any p) := by
  induction l with
  | nil => rfl
  | cons x l ih =>
    obtain ⟨hx, hl⟩ := List.forall_mem_cons.1 h
    rw [List.anyM_cons, hx, List.any_cons, ih hl]
    cases p x
    · rfl
    · rfl

theorem foldlM_simulates {R : σ → τ → Prop} {step : σ → α → Except ε σ} {next : τ → α → τ}
    {l : List α}
    (h : ∀ s t, ∀ x ∈ l, R s t → ∃ s', step s x = .ok s' ∧ R s' (next t x)) (hst : R s t) :
    ∃ s', l.foldlM step s = .ok s' ∧ R s' (l.foldl next t) := by
  induction l generalizing s t with
  | nil => exact ⟨s, rfl, hst⟩
  | cons x l ih =>
    obtain ⟨s', hstep, hs'⟩ := h s t x List.mem_cons_self hst
    rw [List.foldlM_cons, hstep, List.foldl_cons]
    exact ih (fun s t y hy => h s t y (List.mem_cons_of_mem x hy)) hs'

end Loops

section Reservation
variable {close : α → α → Bool} {blocked : List α → α → Bool}

def reserve (blocked : List α → α → Bool) (values : List α) : List α :=
  values.foldl (fun taken value => if blocked taken value then taken else taken ++ [value]) []

/-- Each value in its turn was taken, or it was close to one taken before it. -/
inductive Covers (close : α → α → Bool) : List α → List α → Prop
  | nil : Covers close [] []
  | took (value : α) (h : Covers close values taken) :
    Covers close (values ++ [value]) (taken ++ [value])
  | left (value : α) (h : Covers close values taken) (hmem : other ∈ taken)
    (hclose : close other value = true) :
    Covers close (values ++ [value]) taken

def crowded (close : α → α → Bool) (taken : List α) (value : α) : Bool :=
  taken.any fun other => close other value

theorem crowded_iff : crowded close taken value = true ↔
    ∃ other ∈ taken, close other value = true :=
  List.any_eq_true

theorem reserve_append (before : List α) (value : α) : reserve blocked (before ++ [value]) =
    if blocked (reserve blocked before) value then reserve blocked before
    else reserve blocked before ++ [value] := by
  rw [reserve, List.foldl_append]
  rfl

theorem reserve_append_left (before after : List α) : reserve blocked before <+: reserve blocked
    (before ++ after) := by
  induction after using List.reverseRecOn with
  | nil => rw [List.append_nil]
  | append_singleton after value ih =>
    rw [← List.append_assoc, reserve_append]
    split
    · exact ih
    · exact ih.trans (List.prefix_append _ _)

theorem covers_reserve
    (h : ∀ taken value, blocked taken value = true → crowded close taken value = true) :
    Covers close values (reserve blocked values) := by
  induction values using List.reverseRecOn with
  | nil => exact .nil
  | append_singleton before value ih =>
    rw [reserve_append]
    split
    · next hblocked =>
      obtain ⟨other, hmem, hclose⟩ := crowded_iff.1 (h _ _ hblocked)
      exact .left value ih hmem hclose
    · exact .took value ih

theorem pairwise_append_singleton {R : α → α → Prop} {taken : List α} :
    (taken ++ [value]).Pairwise R ↔
    taken.Pairwise R ∧ ∀ other ∈ taken, R other value := by
  rw [List.pairwise_append]
  simp

theorem reserve_crowded_apart :
    (reserve (crowded close) values).Pairwise fun a b => close a b = false := by
  induction values using List.reverseRecOn with
  | nil => exact .nil
  | append_singleton before value ih =>
    rw [reserve_append]
    split
    · exact ih
    · next hfree =>
      refine pairwise_append_singleton.2 ⟨ih, fun other hmem => ?_⟩
      by_contra hclose
      exact hfree (crowded_iff.2 ⟨other, hmem, by simpa using hclose⟩)

theorem reserve_eq_of_apart
    (h : ∀ taken value, blocked taken value = true → crowded close taken value = true)
    (hapart : (reserve blocked values).Pairwise fun a b => close a b = false) :
    reserve blocked values = reserve (crowded close) values := by
  induction values using List.reverseRecOn with
  | nil => rfl
  | append_singleton before value ih =>
    have hbefore := ih (hapart.sublist (reserve_append_left before [value]).sublist)
    rw [reserve_append] at hapart ⊢
    rw [reserve_append, ← hbefore]
    by_cases hblocked : blocked (reserve blocked before) value = true
    · rw [if_pos hblocked, if_pos (h _ _ hblocked)]
    · rw [if_neg hblocked] at hapart ⊢
      rw [if_neg]
      intro hcrowded
      obtain ⟨other, hmem, hclose⟩ := crowded_iff.1 hcrowded
      rw [(pairwise_append_singleton.1 hapart).2 other hmem] at hclose
      exact nomatch hclose

/-- A test misses no value that is close, of those that are taken if it misses none. -/
def MissesNone (close : α → α → Bool) (blocked : List α → α → Bool) (values : List α) : Prop :=
  ∀ before value after, values = before ++ value :: after →
    crowded close (reserve (crowded close) before) value = true →
    blocked (reserve (crowded close) before) value = true

theorem reserve_eq_of_missesNone
    (h : ∀ taken value, blocked taken value = true → crowded close taken value = true)
    (hnone : MissesNone close blocked values) : reserve blocked values = reserve
      (crowded close) values := by
  induction values using List.reverseRecOn with
  | nil => rfl
  | append_singleton before value ih =>
    have hbefore : MissesNone close blocked before := by
      intro first other last heq
      refine hnone first other (last ++ [value]) ?_
      rw [heq, List.append_assoc, List.cons_append]
    rw [reserve_append, reserve_append, ih hbefore]
    refine if_congr ⟨h _ _, ?_⟩ rfl rfl
    exact hnone before value [] rfl

theorem reserve_apart_iff
    (h : ∀ taken value, blocked taken value = true → crowded close taken value = true) :
    ((reserve blocked values).Pairwise fun a b => close a b = false) ↔
      MissesNone close blocked values := by
  constructor
  · intro hapart before value after heq hcrowded
    by_contra hfree
    have hprefix := @reserve_append_left _ blocked (before ++ [value]) after
    rw [List.append_assoc, List.singleton_append, ← heq] at hprefix
    have hnext := hapart.sublist hprefix.sublist
    have hbefore := hnext.sublist (reserve_append_left before [value]).sublist
    rw [← reserve_eq_of_apart h hbefore] at hfree hcrowded
    rw [reserve_append, if_neg hfree] at hnext
    obtain ⟨other, hmem, hclose⟩ := crowded_iff.1 hcrowded
    rw [(pairwise_append_singleton.1 hnext).2 other hmem] at hclose
    exact nomatch hclose
  · intro hnone
    rw [reserve_eq_of_missesNone h hnone]
    exact reserve_crowded_apart

end Reservation

section Owners
variable {κ : Type} [DecidableEq κ] (cell : α → κ)

def lastOwner (taken : List α) (k : κ) : Option α :=
  (taken.filter fun value => cell value = k).getLast?

theorem lastOwner_append (taken : List α) (value : α) (k : κ) :
    lastOwner cell (taken ++ [value]) k = if cell value = k then some value
      else lastOwner cell taken k := by
  rw [lastOwner, List.filter_append]
  split
  · next hk => rw [List.filter_singleton, decide_eq_true hk, cond_true, List.getLast?_concat]
  · next hk =>
      rw [List.filter_singleton, decide_eq_false hk, cond_false, List.append_nil, lastOwner]

theorem mem_of_lastOwner (h : lastOwner cell taken k = some value) :
    value ∈ taken ∧ cell value = k := by
  have hmem := List.mem_of_getLast? h
  rw [List.mem_filter] at hmem
  exact ⟨hmem.1, of_decide_eq_true hmem.2⟩

end Owners

section Rounding
variable [Field K] [LinearOrder K] [IsStrictOrderedRing K] [FloorRing K]

/-- The instance of a numeral under a name: a definition over a field that takes it has no proof of
its own for it. -/
theorem atLeastTwo_two : Nat.AtLeastTwo 2 := ⟨Nat.le_refl 2⟩

def roundAway (x : K) : ℤ := if 0 ≤ x then ⌊x + 1 / 2⌋ else ⌈x - 1 / 2⌉

theorem le_roundAway {n : ℤ} {x : K} (h : n ≤ x) : n ≤ roundAway x := by
  rw [roundAway]
  split
  · rw [Int.le_floor]
    linarith
  · rw [Int.le_ceil_iff]
    linarith

theorem roundAway_le {n : ℤ} {x : K} (h : x ≤ n) : roundAway x ≤ n := by
  rw [roundAway]
  split
  · rw [← Int.lt_add_one_iff, Int.floor_lt]
    push_cast
    linarith
  · rw [Int.ceil_le]
    linarith

theorem roundAway_intCast (n : ℤ) : roundAway (n : K) = n :=
  le_antisymm (roundAway_le le_rfl) (le_roundAway le_rfl)

end Rounding

end PalBeacon.Lib
