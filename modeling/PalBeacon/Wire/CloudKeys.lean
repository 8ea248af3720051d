import PalBeacon.Wire.CloudProfile

namespace PalBeacon.Wire
open PalBeacon.Lib
set_option autoImplicit true

theorem exists_digits {n : Nat} (hn : n < 2 ^ 32) :
    ∃ d₃ d₂ d₁ d₀, n = d₃ * 16777216 + d₂ * 65536 + d₁ * 256 + d₀ ∧
      n / 16777216 % 256 = d₃ ∧ n / 65536 % 256 = d₂ ∧ n / 256 % 256 = d₁ ∧ n % 256 = d₀ ∧
      d₂ < 256 ∧ d₁ < 256 ∧ d₀ < 256 := by
  have h₃ : n / 65536 / 256 = n / 16777216 := Nat.div_div_eq_div_mul n 65536 256
  have h₂ : n / 256 / 256 = n / 65536 := Nat.div_div_eq_div_mul n 256 256
  refine ⟨_, _, _, _, ?_, rfl, rfl, rfl, rfl, ?_, ?_, ?_⟩
  all_goals omega

theorem toBeBytes_append_lt {a b : UInt32} (x y : List UInt8) (h : a.toNat < b.toNat) :
    toBeBytes a ++ x < toBeBytes b ++ y := by
  simp only [toBeBytes, List.cons_append, List.nil_append, List.cons_lt_cons_iff]
  simp only [UInt8.lt_iff_toNat_lt, ← UInt8.toNat_inj, UInt32.toNat_toUInt8,
    UInt32.toNat_shiftRight,
    UInt32.reduceToNat, Nat.shiftRight_eq_div_pow, Nat.reduceMod, Nat.reducePow]
  obtain ⟨a₃, a₂, a₁, a₀, ha, ha₃, ha₂, ha₁, ha₀, hla₂, hla₁, hla₀⟩ := exists_digits a.toNat_lt
  obtain ⟨b₃, b₂, b₁, b₀, hb, hb₃, hb₂, hb₁, hb₀, hlb₂, hlb₁, hlb₀⟩ := exists_digits b.toNat_lt
  rw [ha₃, ha₂, ha₁, ha₀, hb₃, hb₂, hb₁, hb₀]
  rw [ha, hb] at h
  omega

theorem toBeBytes_append_lt_of_lt (a : UInt32) {x y : List UInt8} (h : x < y) :
    toBeBytes a ++ x < toBeBytes a ++ y := by
  simp only [toBeBytes, List.cons_append, List.nil_append, List.cons_lt_cons_iff]
  simp only [h, and_self, or_true]

theorem toNat_toUInt32_of_nonneg {v : Int32} (h : 0 ≤ v.toInt) :
    (v.toUInt32.toNat : Int) = v.toInt := by
  have hv : v.toInt = v.toUInt32.toBitVec.toInt := rfl
  have hn : v.toUInt32.toNat = v.toUInt32.toBitVec.toNat := rfl
  rw [hv, BitVec.toInt_eq_toNat_cond] at h ⊢
  rw [hn]
  split at h
  · next hc => rw [if_pos hc]
  · next hc =>
    have := v.toUInt32.toBitVec.isLt
    omega

theorem toBeBytes_lt {a b : UInt32} (h : a.toNat < b.toNat) : toBeBytes a < toBeBytes b := by
  have := toBeBytes_append_lt [] [] h
  rwa [List.append_nil, List.append_nil] at this

theorem kind_append_lt {k k' : Int32} {x y : List UInt8} (hk : 0 ≤ k.toInt) (hk' : 0 ≤ k'.toInt)
    (h : k.toInt < k'.toInt ∨ k.toInt = k'.toInt ∧ x < y) :
    toBeBytes k.toUInt32 ++ x < toBeBytes k'.toUInt32 ++ y := by
  rcases h with h | ⟨h, hxy⟩
  · apply toBeBytes_append_lt
    have hn := toNat_toUInt32_of_nonneg hk
    have hn' := toNat_toUInt32_of_nonneg hk'
    omega
  · rw [Int32.toInt_inj.1 h]
    exact toBeBytes_append_lt_of_lt _ hxy

theorem number_append_lt {a b : UInt32} {x y : List UInt8}
    (h : a.toNat < b.toNat ∨ a.toNat = b.toNat ∧ x < y) : toBeBytes a ++ x < toBeBytes b ++ y := by
  rcases h with h | ⟨h, hxy⟩
  · exact toBeBytes_append_lt x y h
  · rw [UInt32.toNat_inj.1 h]
    exact toBeBytes_append_lt_of_lt b hxy

theorem CloudInventoryEntryV1.key_lt (entry entry' : CloudInventoryEntryV1)
    (hk : 0 ≤ entry.containerKind.toInt) (hk' : 0 ≤ entry'.containerKind.toInt)
    (h : entry.sortKey < entry'.sortKey) : entry.key < entry'.key := by
  rw [CloudInventoryEntryV1.key, CloudInventoryEntryV1.key, inventoryKey, inventoryKey,
    List.append_assoc, List.append_assoc]
  apply kind_append_lt hk hk'
  rw [CloudInventoryEntryV1.sortKey, CloudInventoryEntryV1.sortKey, Prod.Lex.toLex_lt_toLex] at h
  apply h.imp id
  rintro ⟨hkind, hrest⟩
  apply And.intro hkind
  apply number_append_lt
  rw [Prod.Lex.toLex_lt_toLex] at hrest
  exact hrest.imp id fun hslot => ⟨hslot.1, toBeBytes_lt hslot.2⟩

theorem CloudEquipmentEntryV1.key_lt (entry entry' : CloudEquipmentEntryV1)
    (hk : 0 ≤ entry.slotKind.toInt) (hk' : 0 ≤ entry'.slotKind.toInt)
    (h : entry.sortKey < entry'.sortKey) : entry.key < entry'.key := by
  apply kind_append_lt hk hk'
  rw [CloudEquipmentEntryV1.sortKey, CloudEquipmentEntryV1.sortKey, Prod.Lex.toLex_lt_toLex] at h
  exact h.imp id fun hslot => ⟨hslot.1, toBeBytes_lt hslot.2⟩

theorem CloudProgressionUnlockV1.key_lt (entry entry' : CloudProgressionUnlockV1)
    (hk : 0 ≤ entry.kind.toInt) (hk' : 0 ≤ entry'.kind.toInt)
    (h : entry.sortKey < entry'.sortKey) : entry.key < entry'.key := by
  apply kind_append_lt hk hk'
  rw [CloudProgressionUnlockV1.sortKey, CloudProgressionUnlockV1.sortKey,
    Prod.Lex.toLex_lt_toLex] at h
  exact h.imp id fun hid => ⟨hid.1, List.cons_lt_cons_iff.2 (.inr ⟨rfl, hid.2⟩)⟩

theorem CloudInventoryEntryV1.key_eq_of_sortKey_eq (entry entry' : CloudInventoryEntryV1)
    (h : entry.sortKey = entry'.sortKey) : entry.key = entry'.key := by
  have hp := toLex.injective h
  have hkind := Int32.toInt_inj.1 (Prod.mk.inj hp).1
  have hrest := Prod.mk.inj (toLex.injective (Prod.mk.inj hp).2)
  rw [CloudInventoryEntryV1.key, CloudInventoryEntryV1.key, hkind, UInt32.toNat_inj.1 hrest.1,
    UInt32.toNat_inj.1 hrest.2]

theorem CloudEquipmentEntryV1.key_eq_of_sortKey_eq (entry entry' : CloudEquipmentEntryV1)
    (h : entry.sortKey = entry'.sortKey) : entry.key = entry'.key := by
  have hp := Prod.mk.inj (toLex.injective h)
  rw [CloudEquipmentEntryV1.key, CloudEquipmentEntryV1.key, Int32.toInt_inj.1 hp.1,
    UInt32.toNat_inj.1 hp.2]

theorem CloudProgressionUnlockV1.key_eq_of_sortKey_eq (entry entry' : CloudProgressionUnlockV1)
    (h : entry.sortKey = entry'.sortKey) : entry.key = entry'.key := by
  have hp := Prod.mk.inj (toLex.injective h)
  rw [CloudProgressionUnlockV1.key, CloudProgressionUnlockV1.key, Int32.toInt_inj.1 hp.1,
    utf8_inj.1 hp.2]

theorem inventoryContainerKind_nonneg (h : inventoryContainerKind field value = .ok kind) :
    0 ≤ value.toInt := by
  have hk := nonzeroEnum_eq_ok h
  unfold InventoryContainerKind.tryFrom at hk
  split at hk
  all_goals first | decide | cases hk

theorem equipmentSlotKind_nonneg (h : equipmentSlotKind field value = .ok kind) :
    0 ≤ value.toInt := by
  have hk := nonzeroEnum_eq_ok h
  unfold EquipmentSlotKind.tryFrom at hk
  split at hk
  all_goals first | decide | cases hk

theorem progressionUnlockKind_nonneg (h : progressionUnlockKind field value = .ok kind) :
    0 ≤ value.toInt := by
  have hk := nonzeroEnum_eq_ok h
  unfold CloudProgressionUnlockKind.tryFrom at hk
  split at hk
  all_goals first | decide | cases hk

theorem inventory_keys_strict (h : validateInventorySection content = .ok ()) :
    ((sortBy CloudInventoryEntryV1.sortKey content.entries).map CloudInventoryEntryV1.key).Pairwise
      (· < ·) := by
  unfold validateInventorySection at h
  obtain ⟨-, h⟩ := check_bind_eq_ok.1 h
  obtain ⟨_, -, h⟩ := bind_eq_ok.1 h
  obtain ⟨-, h⟩ := check_bind_eq_ok.1 h
  obtain ⟨hall, hfresh⟩ := checkDistinct_eq_ok.1 h
  have hkind : ∀ entry ∈ content.entries, 0 ≤ entry.containerKind.toInt := by
    intro entry he
    obtain ⟨_, hk, -⟩ := bind_eq_ok.1 (hall entry he)
    exact inventoryContainerKind_nonneg hk
  apply map_sortBy_strict CloudInventoryEntryV1.key_eq_of_sortKey_eq _ (fresh_nil.1 hfresh)
  intro a ha b hb hab
  exact a.key_lt b (hkind a ha) (hkind b hb) hab

theorem equipment_keys_strict (h : validateEquipmentSection content = .ok ()) :
    ((sortBy CloudEquipmentEntryV1.sortKey content.entries).map CloudEquipmentEntryV1.key).Pairwise
      (· < ·) := by
  unfold validateEquipmentSection at h
  obtain ⟨-, h⟩ := check_bind_eq_ok.1 h
  obtain ⟨_, -, h⟩ := bind_eq_ok.1 h
  obtain ⟨-, h⟩ := check_bind_eq_ok.1 h
  obtain ⟨hall, hfresh⟩ := checkDistinct_eq_ok.1 h
  have hkind : ∀ entry ∈ content.entries, 0 ≤ entry.slotKind.toInt := by
    intro entry he
    obtain ⟨_, hk, -⟩ := bind_eq_ok.1 (hall entry he)
    exact equipmentSlotKind_nonneg hk
  apply map_sortBy_strict CloudEquipmentEntryV1.key_eq_of_sortKey_eq _ (fresh_nil.1 hfresh)
  intro a ha b hb hab
  exact a.key_lt b (hkind a ha) (hkind b hb) hab

theorem progression_keys_strict (h : validateProgressionSection content = .ok ()) :
    ((sortBy CloudProgressionUnlockV1.sortKey content.entries).map
      CloudProgressionUnlockV1.key).Pairwise (· < ·) := by
  unfold validateProgressionSection at h
  obtain ⟨-, h⟩ := check_bind_eq_ok.1 h
  obtain ⟨_, -, h⟩ := bind_eq_ok.1 h
  obtain ⟨-, h⟩ := check_bind_eq_ok.1 h
  obtain ⟨hall, hfresh⟩ := checkDistinct_eq_ok.1 h
  have hkind : ∀ entry ∈ content.entries, 0 ≤ entry.kind.toInt := by
    intro entry he
    obtain ⟨_, hk, -⟩ := bind_eq_ok.1 (hall entry he)
    exact progressionUnlockKind_nonneg hk
  apply map_sortBy_strict CloudProgressionUnlockV1.key_eq_of_sortKey_eq _ (fresh_nil.1 hfresh)
  intro a ha b hb hab
  exact a.key_lt b (hkind a ha) (hkind b hb) hab

theorem validatePalEntries_ids (h : validatePalEntries ids locations pals = .ok ()) :
    Fresh ids (pals.map CloudPalEntryV1.palInstanceId) := by
  induction pals generalizing ids locations with
  | nil => exact ⟨.nil, fun _ hk => nomatch hk⟩
  | cons pal pals ih =>
    obtain ⟨-, h⟩ := check_bind_eq_ok.1 h
    obtain ⟨seen, hseen, h⟩ := bind_eq_ok.1 h
    obtain ⟨_, -, h⟩ := bind_eq_ok.1 h
    obtain ⟨hnew, rfl⟩ := rejectDuplicate_eq_ok.1 hseen
    exact fresh_cons.2 ⟨hnew, ih h⟩

theorem pal_keys_strict (h : validatePalSection content = .ok ()) :
    (((sortBy CloudPalEntryV1.palInstanceId content.entries).map canonicalizeCloudPal).map
      CloudPalEntryV1.palInstanceId).Pairwise (· < ·) := by
  unfold validatePalSection at h
  obtain ⟨-, h⟩ := check_bind_eq_ok.1 h
  obtain ⟨_, -, h⟩ := bind_eq_ok.1 h
  obtain ⟨-, h⟩ := check_bind_eq_ok.1 h
  rw [List.map_map]
  exact List.pairwise_map.2 (sortBy_strict _ (fresh_nil.1 (validatePalEntries_ids h)))

theorem validateBaseEntries_ids (h : validateBaseEntries totals ids bases = .ok totals') :
    Fresh ids (bases.map CloudBaseEntryV1.baseId) := by
  induction bases generalizing totals ids with
  | nil => exact ⟨.nil, fun _ hk => nomatch hk⟩
  | cons base bases ih =>
    obtain ⟨_, -, h⟩ := bind_eq_ok.1 h
    obtain ⟨seen, hseen, h⟩ := bind_eq_ok.1 h
    obtain ⟨hnew, rfl⟩ := rejectDuplicate_eq_ok.1 hseen
    exact fresh_cons.2 ⟨hnew, ih h⟩

theorem canonicalizeCloudBase_baseId (h : canonicalizeCloudBase base = .ok out) :
    out.baseId = base.baseId := by
  unfold canonicalizeCloudBase at h
  obtain ⟨_, -, h⟩ := bind_eq_ok.1 h
  obtain ⟨_, -, h⟩ := bind_eq_ok.1 h
  cases h
  rfl

theorem mapM_canonicalizeCloudBase_ids {bases out : List CloudBaseEntryV1}
    (h : bases.mapM canonicalizeCloudBase = .ok out) :
    out.map CloudBaseEntryV1.baseId = bases.map CloudBaseEntryV1.baseId := by
  induction bases generalizing out with
  | nil =>
    cases h
    rfl
  | cons base bases ih =>
    rw [List.mapM_cons] at h
    obtain ⟨first, hfirst, h⟩ := bind_eq_ok.1 h
    obtain ⟨rest, hrest, h⟩ := bind_eq_ok.1 h
    cases h
    rw [List.map_cons, List.map_cons, canonicalizeCloudBase_baseId hfirst, ih hrest]

theorem base_keys_strict (h : validateBaseSection content = .ok ())
    (hout : (sortBy CloudBaseEntryV1.baseId content.entries).mapM canonicalizeCloudBase = .ok out) :
    (out.map CloudBaseEntryV1.baseId).Pairwise (· < ·) := by
  unfold validateBaseSection at h
  obtain ⟨-, h⟩ := check_bind_eq_ok.1 h
  obtain ⟨_, -, h⟩ := bind_eq_ok.1 h
  obtain ⟨-, h⟩ := check_bind_eq_ok.1 h
  obtain ⟨_, hbases, -⟩ := bind_eq_ok.1 h
  rw [mapM_canonicalizeCloudBase_ids hout]
  exact List.pairwise_map.2 (sortBy_strict _ (fresh_nil.1 (validateBaseEntries_ids hbases)))

end PalBeacon.Wire
