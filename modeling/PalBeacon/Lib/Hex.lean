import PalBeacon.Lib.Sha256
import PalBeacon.Lib.Text

namespace PalBeacon.Lib
set_option autoImplicit true

def hexDigits (byte : UInt8) : List Char :=
  [(byte.toNat / 16).digitChar, (byte.toNat % 16).digitChar]

def hexLower (bytes : List UInt8) : String := .ofList (bytes.flatMap hexDigits)

def isHexText (length : Nat) (value : String) : Bool :=
  (utf8 value).length = length && (utf8 value).all isAsciiHexdigit

theorem utf8EncodeChar_digitChar (h : n < 16) :
    ∃ byte, String.utf8EncodeChar n.digitChar = [byte] ∧ isAsciiHexdigit byte = true := by
  have hall : ∀ n < 16, ∃ byte, String.utf8EncodeChar (Nat.digitChar n) = [byte] ∧
      isAsciiHexdigit byte = true := by
    decide
  exact hall n h

theorem isHexText_ofList {cs : List Char} (h : ∀ c ∈ cs, ∃ n < 16, c = Nat.digitChar n) :
    isHexText cs.length (.ofList cs) = true := by
  unfold isHexText
  induction cs with
  | nil => rfl
  | cons c cs ih =>
    obtain ⟨n, hn, rfl⟩ := h c List.mem_cons_self
    obtain ⟨byte, hb, hhex⟩ := utf8EncodeChar_digitChar hn
    have hrest := ih fun c hc => h c (List.mem_cons_of_mem _ hc)
    simp only [Bool.and_eq_true, decide_eq_true_eq] at hrest ⊢
    rw [utf8_cons, hb, List.length_append, List.all_append, hrest.1, hrest.2]
    exact ⟨Nat.add_comm _ _, by simp [hhex]⟩

theorem mem_hexDigits (hc : c ∈ List.flatMap hexDigits bytes) : ∃ n < 16, c = Nat.digitChar n := by
  obtain ⟨byte, -, hb⟩ := List.mem_flatMap.1 hc
  have hlt := byte.toNat_lt
  unfold hexDigits at hb
  rcases List.mem_cons.1 hb with rfl | hb
  · exact ⟨_, by omega, rfl⟩
  · exact ⟨_, by omega, List.mem_singleton.1 hb⟩

theorem length_flatMap_hexDigits (bytes : List UInt8) :
    (bytes.flatMap hexDigits).length = 2 * bytes.length := by
  induction bytes with
  | nil => rfl
  | cons byte bytes ih =>
    rw [List.flatMap_cons, List.length_append, ih, List.length_cons]
    simp only [hexDigits, List.length_cons, List.length_nil]
    omega

theorem isHexText_hexLower (bytes : List UInt8) :
    isHexText (2 * bytes.length) (hexLower bytes) = true := by
  rw [← length_flatMap_hexDigits]
  exact isHexText_ofList fun _ hc => mem_hexDigits hc

theorem isHexText_take (bytes : List UInt8) (h : n ≤ 2 * bytes.length) :
    isHexText n (.ofList ((hexLower bytes).toList.take n)) = true := by
  have hchars : (hexLower bytes).toList = bytes.flatMap hexDigits := String.toList_ofList
  have hlength : (((hexLower bytes).toList).take n).length = n := by
    rw [hchars, List.length_take, length_flatMap_hexDigits, Nat.min_eq_left h]
  have hall : ∀ c ∈ (hexLower bytes).toList.take n, ∃ n < 16, c = Nat.digitChar n :=
    fun c hc => mem_hexDigits (hchars ▸ List.mem_of_mem_take hc)
  have hhex := isHexText_ofList hall
  rw [hlength] at hhex
  exact hhex

theorem Sha256.digest_length (message : List UInt8) : (Sha256.digest message).length = 32 := by
  simp [Sha256.digest, Sha256.bigEndian]

end PalBeacon.Lib
