import PalBeacon.Lib.Check
import PalBeacon.Lib.Clip

namespace PalBeacon.Lib
set_option autoImplicit true

section Ascii

theorem eqIgnoreAsciiCase_iff {s t : String} :
    eqIgnoreAsciiCase s t = true ↔
      (utf8 s).map toAsciiLowercase = (utf8 t).map toAsciiLowercase := by
  rw [eqIgnoreAsciiCase, decide_eq_true_iff]

set_option maxRecDepth 4000 in
theorem leadByte_ge (byte : UInt8) : 128 ≤ byte ||| 0xc0 ∧ 128 ≤ byte ||| 0xe0 ∧
    128 ≤ byte ||| 0xf0 := by
  have hall : ∀ n < 256, 128 ≤ UInt8.ofNat n ||| 0xc0 ∧ 128 ≤ UInt8.ofNat n ||| 0xe0 ∧
      128 ≤ UInt8.ofNat n ||| 0xf0 := by decide
  have h := hall byte.toNat byte.toNat_lt
  rwa [UInt8.ofNat_toNat] at h

theorem utf8EncodeChar_ascii {c : Char} (h : c.toNat < 128) :
    String.utf8EncodeChar c = [UInt8.ofNat c.toNat] := by
  have hval : c.val ≤ 127 := UInt32.le_iff_toNat_le.2 (Nat.le_of_lt_succ h)
  rw [String.utf8EncodeChar_eq_singleton (Char.utf8Size_eq_one_iff.2 hval)]
  rfl

theorem utf8EncodeChar_not_ascii {c : Char} (h : 128 ≤ c.toNat) :
    ∃ byte rest, String.utf8EncodeChar c = byte :: rest ∧ 128 ≤ byte := by
  have hval : ¬ c.val ≤ 127 := fun hle => absurd (UInt32.le_iff_toNat_le.1 hle) (Nat.not_le.2 h)
  obtain hc | hc | hc | hc := c.utf8Size_eq
  · exact absurd (Char.utf8Size_eq_one_iff.1 hc) hval
  · exact ⟨_, _, String.utf8EncodeChar_eq_cons_cons hc, (leadByte_ge _).1⟩
  · exact ⟨_, _, String.utf8EncodeChar_eq_cons_cons_cons hc, (leadByte_ge _).2.1⟩
  · exact ⟨_, _, String.utf8EncodeChar_eq_cons_cons_cons_cons hc, (leadByte_ge _).2.2⟩

theorem all_utf8_eq {p : UInt8 → Bool} {q : Char → Bool}
    (hascii : ∀ n < 128, p (UInt8.ofNat n) = q (Char.ofNat n))
    (hp : ∀ byte, 128 ≤ byte → p byte = false) (hq : ∀ c : Char, 128 ≤ c.toNat → q c = false)
    (s : String) :
    (utf8 s).all p = s.toList.all q := by
  rw [← String.ofList_toList (s := s), String.toList_ofList]
  induction s.toList with
  | nil => rfl
  | cons c cs ih =>
    rw [utf8_cons, List.all_append, ih, List.all_cons]
    by_cases hc : c.toNat < 128
    · have hchar := hascii c.toNat hc
      rw [Char.ofNat_toNat] at hchar
      rw [utf8EncodeChar_ascii hc, List.all_cons, List.all_nil, Bool.and_true, hchar]
    · obtain ⟨byte, rest, hbytes, hbyte⟩ := utf8EncodeChar_not_ascii (Nat.le_of_not_lt hc)
      rw [hbytes, List.all_cons, hp byte hbyte, hq c (Nat.le_of_not_lt hc)]
      rfl

end Ascii

section Blank
variable {text before after : List Char}

def Blank (text : List Char) : Prop := ∀ c ∈ text, isWhitespace c = true

def Tight (text : List Char) : Prop :=
  (∀ c ∈ text.head?, isWhitespace c = false) ∧ ∀ c ∈ text.getLast?, isWhitespace c = false

theorem blank_takeWhile (text : List Char) : Blank (text.takeWhile isWhitespace) :=
  fun _ hc => List.mem_takeWhile_imp hc

theorem dropWhile_blank (hbefore : Blank before)
    (hhead : ∀ c ∈ text.head?, isWhitespace c = false) :
    (before ++ text).dropWhile isWhitespace = text := by
  rw [List.dropWhile_append_of_pos hbefore]
  cases text with
  | nil => rfl
  | cons c cs => rw [List.dropWhile_cons_of_neg (Bool.eq_false_iff.1 (hhead c rfl))]

theorem rdropWhile_blank (hafter : Blank after)
    (hlast : ∀ c ∈ text.getLast?, isWhitespace c = false) :
    (text ++ after).rdropWhile isWhitespace = text := by
  rw [List.rdropWhile, List.reverse_append, dropWhile_blank, List.reverse_reverse]
  · exact fun c hc => hafter c (List.mem_reverse.1 hc)
  · rwa [List.head?_reverse]

theorem trim_between (hbefore : Blank before) (hafter : Blank after) (htext : Tight text) :
    trim (.ofList (before ++ text ++ after)) = .ofList text := by
  rw [trim, String.toList_ofList, List.append_assoc]
  by_cases hnil : text = []
  · subst hnil
    have hall : ∀ c ∈ before ++ ([] ++ after), isWhitespace c = true := by
      rw [List.nil_append]
      intro c hc
      exact (List.mem_append.1 hc).elim (hbefore c) (hafter c)
    rw [List.dropWhile_eq_nil_iff.2 hall]
    rfl
  · rw [dropWhile_blank hbefore, rdropWhile_blank hafter htext.2]
    rw [List.head?_append_of_ne_nil _ hnil]
    exact htext.1

theorem trim_surrounded (s : String) :
    ∃ before after, Blank before ∧ Blank after ∧ s.toList = before ++ (trim s).toList ++ after := by
  refine ⟨s.toList.takeWhile isWhitespace,
    (s.toList.dropWhile isWhitespace).rtakeWhile isWhitespace,
    blank_takeWhile _, ?_, ?_⟩
  · intro c hc
    exact List.mem_rtakeWhile_imp hc
  · rw [trim, String.toList_ofList, List.append_assoc, List.rdropWhile_append_rtakeWhile,
      List.takeWhile_append_dropWhile]

end Blank

section Infixes
variable {pattern before after : List Char}

/-- The parts before and after the first separator of a text. -/
def splitOnce (separator : Char) : List Char → Option (List Char × List Char)
  | [] => none
  | c :: cs =>
    if c = separator then some ([], cs)
    else (splitOnce separator cs).map fun parts => (c :: parts.1, parts.2)

theorem splitOnce_sound (h : splitOnce separator text = some (before, after)) :
    text = before ++ separator :: after := by
  induction text generalizing before with
  | nil => cases h
  | cons c cs ih =>
    rw [splitOnce] at h
    split at h
    · next hc =>
      cases h
      rw [hc, List.nil_append]
    · obtain ⟨⟨first, second⟩, hparts, he⟩ := Option.map_eq_some_iff.1 h
      cases he
      rw [ih hparts, List.cons_append]

theorem splitOnce_complete (h : separator ∉ before) (after : List Char) :
    splitOnce separator (before ++ separator :: after) = some (before, after) := by
  induction before with
  | nil => rw [List.nil_append, splitOnce, if_pos rfl]
  | cons c cs ih =>
    rw [List.mem_cons, not_or] at h
    rw [List.cons_append, splitOnce, if_neg (Ne.symm h.1), ih h.2]
    rfl

theorem infix_of_infix_append_cons (h : pattern <:+: before ++ c :: after) (hc : c ∉ pattern) :
    pattern <:+: before ∨ pattern <:+: after := by
  obtain ⟨front, back, htext⟩ := h
  obtain ⟨rest, hbefore, hback⟩ | ⟨rest, hfront, hback⟩ := List.append_eq_append_iff.1 htext
  · exact .inl ⟨front, rest, hbefore.symm⟩
  · cases rest with
    | nil => exact .inl ⟨front, [], by simpa using hfront⟩
    | cons d rest =>
      obtain ⟨rfl, hafter⟩ := List.cons.inj hback
      obtain ⟨inner, -, hpattern⟩ | ⟨inner, -, hrest⟩ := List.append_eq_append_iff.1 hfront
      · exact absurd (hpattern ▸ List.mem_append_right inner List.mem_cons_self) hc
      · cases inner with
        | nil =>
          rw [List.nil_append] at hrest
          exact absurd (hrest ▸ List.mem_cons_self) hc
        | cons e inner =>
          obtain ⟨-, hrest⟩ := List.cons.inj hrest
          right
          refine ⟨inner, back, ?_⟩
          rw [hafter, hrest]
          rfl

end Infixes

section Spells

/-- The body of a quoted string and the text that it spells, with a backslash before an escaped
character. -/
inductive Spells (escapes : Char → Prop) : List Char → List Char → Prop
  | nil : Spells escapes [] []
  | escaped : escapes c → Spells escapes body value →
    Spells escapes ('\\' :: c :: body) (c :: value)
  | plain : c ≠ '"' → c ≠ '\\' → isControl c = false → Spells escapes body value →
      Spells escapes (c :: body) (c :: value)

variable {escapes : Char → Prop} {body value : List Char}

/-- The body that escapes what cannot stand for itself. -/
def escape : List Char → List Char
  | [] => []
  | c :: cs => if c = '"' ∨ c = '\\' ∨ isControl c then '\\' :: c :: escape cs else c :: escape cs

theorem spells_escape (h : ∀ c ∈ value, c = '"' ∨ c = '\\' ∨ isControl c → escapes c) :
    Spells escapes (escape value) value := by
  induction value with
  | nil => exact .nil
  | cons c cs ih =>
    obtain ⟨hc, hcs⟩ := List.forall_mem_cons.1 h
    rw [escape]
    split
    · next hspecial => exact .escaped (hc hspecial) (ih hcs)
    · next hplain =>
      rw [not_or, not_or] at hplain
      exact .plain hplain.1 hplain.2.1 (Bool.eq_false_iff.2 hplain.2.2) (ih hcs)

end Spells

section Scan

/-- Where a scan stands: inside of quotes, and after a backslash. -/
structure Scan where
  quoted : Bool
  escaped : Bool
deriving DecidableEq, Repr

def Scan.outside : Scan := ⟨false, false⟩

def Scan.next (scan : Scan) (c : Char) : Scan :=
  if scan.escaped then { scan with escaped := false }
  else if c = '\\' ∧ scan.quoted then { scan with escaped := true }
  else if c = '"' then { scan with quoted := !scan.quoted }
  else scan

/-- The scan passes a text in which no separator stands outside of quotes. -/
inductive Passes (separator : Char) : Scan → List Char → Scan → Prop
  | nil : Passes separator s [] s
  | cons : ¬ (c = separator ∧ s = .outside) → Passes separator (s.next c) cs t →
    Passes separator s (c :: cs) t

variable {escapes : Char → Prop} {separator : Char} {s t u : Scan}

theorem Passes.append (h : Passes separator s text t) (h' : Passes separator t text' u) :
    Passes separator s (text ++ text') u := by
  induction h with
  | nil => exact h'
  | cons hc hcs ih => exact .cons hc (ih h')

theorem Passes.foldl_next (h : Passes separator s text t) : text.foldl Scan.next s = t := by
  induction h with
  | nil => rfl
  | cons hc hcs ih => exact ih

theorem passes_plain (h : ∀ c ∈ text, c ≠ separator ∧ c ≠ '"') :
    Passes separator .outside text .outside := by
  induction text with
  | nil => exact .nil
  | cons c cs ih =>
    obtain ⟨⟨hseparator, hquote⟩, hcs⟩ := List.forall_mem_cons.1 h
    have hnext : Scan.outside.next c = .outside := by
      simp [Scan.next, Scan.outside, hquote]
    refine .cons (fun hc => hseparator hc.1) ?_
    rw [hnext]
    exact ih hcs

theorem Spells.passes (h : Spells escapes body value) :
    Passes separator ⟨true, false⟩ body ⟨true, false⟩ := by
  induction h with
  | nil => exact .nil
  | escaped hc hbody ih => exact .cons (fun hs => nomatch hs.2) (.cons (fun hs => nomatch hs.2) ih)
  | plain hquote hbackslash hcontrol hbody ih =>
    refine .cons (fun hs => nomatch hs.2) ?_
    rw [Scan.next, if_neg Bool.false_ne_true, if_neg (fun hc => hbackslash hc.1), if_neg hquote]
    exact ih

theorem Spells.passes_quoted (h : Spells escapes body value) (hseparator : separator ≠ '"') :
    Passes separator .outside ('"' :: body ++ ['"']) .outside := by
  refine .cons (fun hs => hseparator hs.1.symm) ?_
  exact h.passes.append (.cons (fun hs => nomatch hs.2) .nil)

/-- Splits a text at the separators outside of quotes and takes up each part. -/
def splitOutside (separator : Char) (take : List Char → Except ε α) (unclosed : ε) (scan : Scan)
    (part : List Char) : List Char → Except ε (List α)
  | [] => do
    ensure (!(scan.quoted || scan.escaped)) unclosed
    let last ← take part
    return [last]
  | c :: cs =>
    if c = separator ∧ scan = .outside then do
      let first ← take part
      let others ← splitOutside separator take unclosed .outside [] cs
      return first :: others
    else splitOutside separator take unclosed (scan.next c) (part ++ [c]) cs

variable {take : List Char → Except ε α} {unclosed : ε}

theorem splitOutside_sound (h : splitOutside separator take unclosed s part text = .ok values) :
    ∃ parts, part ++ text = [separator].intercalate parts ∧ parts ≠ [] ∧
      List.Forall₂ (fun part value => take part = .ok value) parts values := by
  induction text generalizing s part values with
  | nil =>
    rw [splitOutside, check_bind_eq_ok] at h
    obtain ⟨last, hlast, hvalues⟩ := bind_eq_ok.1 h.2
    cases hvalues
    exact ⟨[part], by simp, List.cons_ne_nil _ _, .cons hlast .nil⟩
  | cons c cs ih =>
    rw [splitOutside] at h
    split at h
    · next hc =>
      obtain ⟨first, hfirst, h⟩ := bind_eq_ok.1 h
      obtain ⟨others, hothers, hvalues⟩ := bind_eq_ok.1 h
      cases hvalues
      obtain ⟨parts, hparts, hne, hall⟩ := ih hothers
      refine ⟨part :: parts, ?_, List.cons_ne_nil _ _, .cons hfirst hall⟩
      rw [List.intercalate_cons_of_ne_nil hne, ← hparts, hc.1]
      simp
    · obtain ⟨parts, hparts, hall⟩ := ih h
      refine ⟨parts, ?_, hall⟩
      rw [← hparts]
      simp

theorem splitOutside_append (h : Passes separator s text t) (part rest : List Char) :
    splitOutside separator take unclosed s part (text ++ rest) =
      splitOutside separator take unclosed t (part ++ text) rest := by
  induction h generalizing part with
  | nil => rw [List.nil_append, List.append_nil]
  | cons hc hcs ih =>
    rw [List.cons_append, splitOutside, if_neg hc, ih, List.append_assoc, List.singleton_append]

theorem splitOutside_complete (hne : parts ≠ [])
    (hparts : ∀ part ∈ parts, Passes separator .outside part .outside)
    (htake : List.Forall₂ (fun part value => take part = .ok value) parts values) :
    splitOutside separator take unclosed .outside [] ([separator].intercalate parts) = .ok
      values := by
  induction htake with
  | nil => exact absurd rfl hne
  | @cons part value parts values hvalue hvalues ih =>
    obtain ⟨hpart, hparts⟩ := List.forall_mem_cons.1 hparts
    by_cases hnil : parts = []
    · subst hnil
      cases hvalues
      have happend : splitOutside separator take unclosed .outside [] (part ++ []) =
          splitOutside separator take unclosed .outside ([] ++ part) [] :=
            splitOutside_append hpart [] []
      rw [List.append_nil, List.nil_append] at happend
      rw [List.intercalate_singleton, happend, splitOutside, hvalue]
      rfl
    · rw [List.intercalate_cons_of_ne_nil hnil, List.append_assoc, splitOutside_append hpart,
        List.nil_append, List.singleton_append, splitOutside, if_pos ⟨rfl, rfl⟩, hvalue,
          ih hnil hparts]
      rfl

end Scan

end PalBeacon.Lib
