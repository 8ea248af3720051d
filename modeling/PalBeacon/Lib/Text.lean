import Mathlib

namespace PalBeacon.Lib
set_option autoImplicit true

/-- The bytes of a text, as the source's `str::as_bytes` gives them. -/
def utf8 (s : String) : List UInt8 := s.toUTF8.data.toList

theorem utf8_inj {s t : String} : utf8 s = utf8 t ↔ s = t := by
  constructor
  · intro h
    exact String.toByteArray_inj.1 (ByteArray.ext (Array.toList_inj.1 h))
  · intro h
    rw [h]

def isAscii (s : String) : Bool := (utf8 s).all fun byte => byte < 128

def isAsciiDigit (byte : UInt8) : Bool := 48 ≤ byte && byte ≤ 57

def isAsciiAlphabetic (byte : UInt8) : Bool :=
  65 ≤ byte && byte ≤ 90 || 97 ≤ byte && byte ≤ 122

def isAsciiAlphanumeric (byte : UInt8) : Bool := isAsciiAlphabetic byte || isAsciiDigit byte

def isAsciiHexdigit (byte : UInt8) : Bool :=
  isAsciiDigit byte || 65 ≤ byte && byte ≤ 70 || 97 ≤ byte && byte ≤ 102

def isAsciiControl (byte : UInt8) : Bool := byte < 32 || byte = 127

def toAsciiLowercase (byte : UInt8) : UInt8 := if 65 ≤ byte && byte ≤ 90 then byte + 32 else byte

def eqIgnoreAsciiCase (s t : String) : Bool :=
  (utf8 s).map toAsciiLowercase = (utf8 t).map toAsciiLowercase

def isWhitespace (c : Char) : Bool :=
  9 ≤ c.toNat && c.toNat ≤ 13 || c.toNat = 32 || c.toNat = 0x85 || c.toNat = 0xA0 ||
    c.toNat = 0x1680 || 0x2000 ≤ c.toNat && c.toNat ≤ 0x200A || c.toNat = 0x2028 ||
    c.toNat = 0x2029 || c.toNat = 0x202F || c.toNat = 0x205F || c.toNat = 0x3000

def isControl (c : Char) : Bool := c.toNat < 32 || 127 ≤ c.toNat && c.toNat < 160

def trim (s : String) : String :=
  .ofList ((s.toList.dropWhile isWhitespace).rdropWhile isWhitespace)

def splitOn (separator : Char) (s : String) : List String :=
  (s.toList.splitOn separator).map String.ofList

example : utf8 "a-세" = [97, 45, 236, 132, 184] := by decide

def isCharBoundary (bytes : List UInt8) (offset : Nat) : Bool :=
  match bytes[offset]? with
  | some byte => offset == 0 || byte &&& 0xC0 != 0x80
  | none => offset == bytes.length

/-- The last boundary up to an offset. -/
def floorCharBoundary (bytes : List UInt8) : Nat → Nat
  | 0 => 0
  | length + 1 =>
    if isCharBoundary bytes (length + 1) then length + 1 else floorCharBoundary bytes length

theorem le_floorCharBoundary (hk : isCharBoundary bytes k = true) (h : k ≤ n) :
    k ≤ floorCharBoundary bytes n := by
  induction n with
  | zero => exact h
  | succ n ih =>
    unfold floorCharBoundary
    split
    · exact h
    · next hno =>
      have hne : k ≠ n + 1 := by
        intro he
        rw [he] at hk
        exact hno hk
      exact ih (by omega)

theorem floorCharBoundary_le (bytes : List UInt8) (n : Nat) : floorCharBoundary bytes n ≤ n := by
  induction n with
  | zero => exact Nat.le_refl 0
  | succ n ih =>
    unfold floorCharBoundary
    split
    · exact Nat.le_refl _
    · omega

theorem utf8_append (s t : String) : utf8 (s ++ t) = utf8 s ++ utf8 t := by
  unfold utf8
  rw [String.toUTF8_eq_toByteArray, String.toUTF8_eq_toByteArray, String.toUTF8_eq_toByteArray,
    String.toByteArray_append]
  simp

theorem utf8_cons (c : Char) (cs : List Char) :
    utf8 (String.ofList (c :: cs)) = String.utf8EncodeChar c ++ utf8 (String.ofList cs) := by
  unfold utf8
  rw [String.toUTF8_eq_toByteArray, String.toUTF8_eq_toByteArray, String.toByteArray_ofList,
    String.toByteArray_ofList, List.utf8Encode_cons, List.utf8Encode_singleton]
  simp

theorem not_continuation_of_first {byte : UInt8} (h : byte.IsUTF8FirstByte) :
    byte &&& 0xC0 ≠ 0x80 := by
  intro hc
  rcases h with h | h | h | h
  · have hb : byte &&& 0xC0 &&& 0x80 = byte &&& 0x80 := UInt8.and_assoc _ _ _
    rw [hc, h] at hb
    exact absurd hb (by decide)
  · have hb : byte &&& 0xe0 &&& 0xC0 = byte &&& 0xC0 := UInt8.and_assoc _ _ _
    rw [hc, h] at hb
    exact absurd hb (by decide)
  · have hb : byte &&& 0xf0 &&& 0xC0 = byte &&& 0xC0 := UInt8.and_assoc _ _ _
    rw [hc, h] at hb
    exact absurd hb (by decide)
  · have hb : byte &&& 0xf8 &&& 0xC0 = byte &&& 0xC0 := UInt8.and_assoc _ _ _
    rw [hc, h] at hb
    exact absurd hb (by decide)

theorem isCharBoundary_first (c : Char) (cs : List Char) :
    isCharBoundary (utf8 (String.ofList (c :: cs))) c.utf8Size = true := by
  rw [utf8_cons, ← String.length_utf8EncodeChar c]
  unfold isCharBoundary
  rw [List.getElem?_append_right (Nat.le_refl _), Nat.sub_self]
  cases cs with
  | nil => simp [utf8]
  | cons d ds => 
    have hd : 0 < (String.utf8EncodeChar d).length := by
      rw [String.length_utf8EncodeChar]
      exact d.utf8Size_pos
    have hfirst := UInt8.isUTF8FirstByte_getElem_zero_utf8EncodeChar (c := d)
    rw [utf8_cons, List.getElem?_append_left hd, List.getElem?_eq_getElem hd]
    simp [not_continuation_of_first hfirst]

/-- A field of four bytes or more takes at least one character of a text that has one. -/
theorem floorCharBoundary_pos (hs : s ≠ "") (hsize : 4 ≤ size) :
    0 < floorCharBoundary (utf8 s) (min (utf8 s).length size) := by
  cases hlist : s.toList with
  | nil => exact absurd (String.toList_eq_nil_iff.1 hlist) hs
  | cons c cs =>
    have he : s = String.ofList (c :: cs) := by
      rw [← hlist, String.ofList_toList]
    have hlength : c.utf8Size ≤ (utf8 s).length := by
      rw [he, utf8_cons, List.length_append, String.length_utf8EncodeChar]
      exact Nat.le_add_right _ _
    have hfirst : isCharBoundary (utf8 s) c.utf8Size = true := by
      rw [he]
      exact isCharBoundary_first c cs
    have hpos := c.utf8Size_pos
    have hmax := c.utf8Size_le_four
    have hle : c.utf8Size ≤ min (utf8 s).length size := by omega
    have hfloor := le_floorCharBoundary hfirst hle
    omega

end PalBeacon.Lib
