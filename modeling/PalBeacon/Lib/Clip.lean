import PalBeacon.Lib.Text

namespace PalBeacon.Lib
set_option autoImplicit true

section Reading

theorem fromUTF8_utf8 (text : String) : String.fromUTF8? ⟨(utf8 text).toArray⟩ = some text := by
  have hbytes : (⟨(utf8 text).toArray⟩ : ByteArray) = text.toByteArray := by
    rw [utf8]
    rfl
  rw [hbytes, String.fromUTF8?, dif_pos text.isValidUTF8]
  rfl

theorem fromUTF8_eq_some {bytes : List UInt8} {text : String} :
    String.fromUTF8? ⟨bytes.toArray⟩ = some text ↔ utf8 text = bytes := by
  constructor
  · intro h
    rw [String.fromUTF8?] at h
    split at h
    · cases h
      rfl
    · cases h
  · rintro rfl
    exact fromUTF8_utf8 text

end Reading

section Boundaries

set_option maxRecDepth 4000 in
theorem and_continuation (byte : UInt8) : (byte &&& 0x3f ||| 0x80) &&& 0xC0 = 0x80 := by
  have hall : ∀ n < 256, (UInt8.ofNat n &&& 0x3f ||| 0x80) &&& 0xC0 = 0x80 := by decide
  have h := hall byte.toNat byte.toNat_lt
  rwa [UInt8.ofNat_toNat] at h

theorem continuation_of_pos (c : Char) (hpos : 0 < i)
    (h : (String.utf8EncodeChar c)[i]? = some byte) :
    byte &&& 0xC0 = 0x80 := by
  have hsize := c.utf8Size_pos
  have hmax := c.utf8Size_le_four
  have hi : i < c.utf8Size := by
    rw [← String.length_utf8EncodeChar c]
    exact (List.getElem?_eq_some_iff.1 h).1
  obtain hc | hc | hc | hc : c.utf8Size = 1 ∨ c.utf8Size = 2 ∨ c.utf8Size = 3 ∨ c.utf8Size = 4 := by
    omega
  · omega
  · rw [String.utf8EncodeChar_eq_cons_cons hc] at h
    obtain rfl : i = 1 := by omega
    cases h
    exact and_continuation _
  · rw [String.utf8EncodeChar_eq_cons_cons_cons hc] at h
    obtain rfl | rfl : i = 1 ∨ i = 2 := by omega
    all_goals
      cases h
      exact and_continuation _
  · rw [String.utf8EncodeChar_eq_cons_cons_cons_cons hc] at h
    obtain rfl | rfl | rfl : i = 1 ∨ i = 2 ∨ i = 3 := by omega
    all_goals
      cases h
      exact and_continuation _

theorem isCharBoundary_zero (bytes : List UInt8) : isCharBoundary bytes 0 = true := by
  cases bytes with
  | nil => rfl
  | cons byte bytes => rfl

theorem floorCharBoundary_isCharBoundary (bytes : List UInt8) (n : Nat) :
    isCharBoundary bytes (floorCharBoundary bytes n) = true := by
  induction n with
  | zero => exact isCharBoundary_zero bytes
  | succ n ih =>
    rw [floorCharBoundary]
    split
    · assumption
    · exact ih

theorem isCharBoundary_cons (c : Char) (cs : List Char) (k : Nat) :
    isCharBoundary (utf8 (String.ofList (c :: cs))) (c.utf8Size + k) =
      isCharBoundary (utf8 (String.ofList cs)) k := by
  obtain rfl | hk := Nat.eq_zero_or_pos k
  · rw [Nat.add_zero, isCharBoundary_first, isCharBoundary_zero]
  · rw [utf8_cons, isCharBoundary, isCharBoundary, ← String.length_utf8EncodeChar c,
      List.getElem?_append_right (Nat.le_add_right _ _), Nat.add_sub_cancel_left,
        List.length_append]
    have hne : (k == 0) = false := beq_false_of_ne (by omega)
    have hne' : ((String.utf8EncodeChar c).length + k == 0) = false := beq_false_of_ne (by omega)
    rw [hne, hne']
    cases (utf8 (String.ofList cs))[k]? with
    | some byte => rfl
    | none =>
      dsimp only
      rw [Bool.eq_iff_iff, beq_iff_eq, beq_iff_eq, Nat.add_left_cancel_iff]

theorem not_isCharBoundary_of_lt (cs : List Char) (hpos : 0 < k) (hk : k < c.utf8Size) :
    isCharBoundary (utf8 (String.ofList (c :: cs))) k = false := by
  have hlength : k < (String.utf8EncodeChar c).length := String.length_utf8EncodeChar c ▸ hk
  have hbyte := List.getElem?_eq_getElem hlength
  have hcontinues := continuation_of_pos c hpos hbyte
  rw [utf8_cons, isCharBoundary, List.getElem?_append_left hlength, hbyte]
  have hne : (k == 0) = false := beq_false_of_ne (by omega)
  simp [hne, hcontinues]

theorem isCharBoundary_iff (cs : List Char) (k : Nat) :
    isCharBoundary (utf8 (String.ofList cs)) k = true ↔
      ∃ part, part <+: cs ∧ (utf8 (String.ofList part)).length = k := by
  induction cs generalizing k with
  | nil =>
    have hnil : utf8 (String.ofList []) = [] := rfl
    simp only [List.prefix_nil, exists_eq_left, hnil, List.length_nil]
    cases k <;> simp [isCharBoundary]
  | cons c cs ih =>
    obtain rfl | hpos := Nat.eq_zero_or_pos k
    · exact iff_of_true (isCharBoundary_zero _) ⟨[], List.nil_prefix, rfl⟩
    obtain hk | hk := Nat.lt_or_ge k c.utf8Size
    · rw [not_isCharBoundary_of_lt cs hpos hk]
      refine iff_of_false Bool.false_ne_true ?_
      rintro ⟨part, hpart, hlength⟩
      cases part with
      | nil => exact absurd hlength (Nat.ne_of_lt hpos)
      | cons d part =>
        obtain ⟨rfl, -⟩ := List.cons_prefix_cons.1 hpart
        rw [utf8_cons, List.length_append, String.length_utf8EncodeChar] at hlength
        omega
    · obtain ⟨k, rfl⟩ := Nat.exists_eq_add_of_le hk
      rw [isCharBoundary_cons, ih]
      constructor
      · rintro ⟨part, hpart, rfl⟩
        refine ⟨c :: part, List.cons_prefix_cons.2 ⟨rfl, hpart⟩, ?_⟩
        rw [utf8_cons, List.length_append, String.length_utf8EncodeChar]
      · rintro ⟨part, hpart, hlength⟩
        cases part with
        | nil =>
          have hzero : (utf8 (String.ofList [])).length = 0 := rfl
          omega
        | cons d part =>
          obtain ⟨rfl, hrest⟩ := List.cons_prefix_cons.1 hpart
          rw [utf8_cons, List.length_append, String.length_utf8EncodeChar] at hlength
          exact ⟨part, hrest, Nat.add_left_cancel hlength⟩

end Boundaries

section Clip

/-- The longest part at the start of a text that takes no more than so many bytes. -/
structure LongestPrefix (size : Nat) (text part : String) : Prop where
  starts : part.toList <+: text.toList
  fits : (utf8 part).length ≤ size
  longest : ∀ other : String, other.toList <+: text.toList → (utf8 other).length ≤ size →
    (utf8 other).length ≤ (utf8 part).length

theorem utf8_starts {part text : String} (h : part.toList <+: text.toList) :
    utf8 part <+: utf8 text := by
  obtain ⟨rest, hrest⟩ := h
  refine ⟨utf8 (String.ofList rest), ?_⟩
  rw [← utf8_append]
  congr 1
  rw [← String.toList_inj, String.toList_append, String.toList_ofList, hrest]

theorem exists_longestPrefix (size : Nat) (text : String) :
    ∃ part, LongestPrefix size text part ∧
      floorCharBoundary (utf8 text) (min (utf8 text).length size) = (utf8 part).length := by
  obtain ⟨cs, rfl⟩ : ∃ cs, text = String.ofList cs := ⟨text.toList, String.ofList_toList.symm⟩
  obtain ⟨part, hpart, hlength⟩ :=
    (isCharBoundary_iff cs _).1 (floorCharBoundary_isCharBoundary (utf8 (String.ofList cs))
      (min (utf8 (String.ofList cs)).length size))
  refine ⟨String.ofList part, ⟨?_, ?_, ?_⟩, hlength.symm⟩
  · rw [String.toList_ofList, String.toList_ofList]
    exact hpart
  · rw [hlength]
    exact (floorCharBoundary_le _ _).trans (Nat.min_le_right _ _)
  · intro other hother hfits
    rw [hlength]
    have htext := (utf8_starts hother).length_le
    rw [String.toList_ofList] at hother
    apply le_floorCharBoundary _ (Nat.le_min.2 ⟨htext, hfits⟩)
    refine (isCharBoundary_iff cs _).2 ⟨other.toList, hother, ?_⟩
    rw [String.ofList_toList]

theorem LongestPrefix.unique (h : LongestPrefix size text part)
    (h' : LongestPrefix size text part') :
    part = part' := by
  have hlength :=
    Nat.le_antisymm (h'.longest part h.starts h.fits) (h.longest part' h'.starts h'.fits)
  have hpart :=
    List.prefix_of_prefix_length_le (utf8_starts h.starts) (utf8_starts h'.starts) hlength.le
  exact utf8_inj.1 (hpart.eq_of_length hlength)

end Clip

end PalBeacon.Lib
