import PalBeacon.Lib.Bytes
import PalBeacon.Lib.Text

namespace PalBeacon.Lib
set_option autoImplicit true

section Encodings

/-- Two parts of a stream, if each of them can be written. -/
def both (p q : Option (List β)) : Option (List β) := p.bind fun p => q.map (p ++ ·)

theorem both_eq_some {p q : Option (List β)} :
    both p q = some out ↔ ∃ a b, p = some a ∧ q = some b ∧ a ++ b = out := by
  simp only [both, Option.bind_eq_some_iff, Option.map_eq_some_iff]
  constructor
  · rintro ⟨a, ha, b, hb, rfl⟩
    exact ⟨a, b, ha, hb, rfl⟩
  · rintro ⟨a, b, ha, hb, rfl⟩
    exact ⟨a, ha, b, hb, rfl⟩

/-- The value can be told from what is written for it, whatever follows that in the stream. -/
def Delimited (encode : γ → Option (List β)) : Prop :=
  ∀ ⦃a b p q x y⦄, encode a = some p → encode b = some q → p ++ x = q ++ y → a = b ∧ x = y

theorem Delimited.of_length {encode : γ → Option (List β)} (n : Nat)
    (hlength : ∀ a p, encode a = some p → p.length = n)
    (hinj : ∀ a b p, encode a = some p → encode b = some p → a = b) : Delimited encode := by
  intro a b p q x y ha hb h
  obtain ⟨rfl, hrest⟩ := List.append_inj h ((hlength a p ha).trans (hlength b q hb).symm)
  exact ⟨hinj a b p ha hb, hrest⟩

theorem Delimited.comap {encode : γ → Option (List β)} (h : Delimited encode)
    (hinj : Function.Injective f) :
    Delimited fun a => encode (f a) := by
  intro a b p q x y ha hb hstream
  obtain ⟨heq, hrest⟩ := h ha hb hstream
  exact ⟨hinj heq, hrest⟩

def encodeNat (w n : Nat) : Option (List UInt8) := if n < 256 ^ w then some (leBytes w n) else none

theorem encodeNat_eq_some : encodeNat w n = some p ↔ n < 256 ^ w ∧ leBytes w n = p := by
  rw [encodeNat, Option.ite_none_right_eq_some, Option.some.injEq]

theorem delimited_encodeNat (w : Nat) : Delimited (encodeNat w) := by
  apply Delimited.of_length w
  · intro n p hn
    obtain ⟨-, rfl⟩ := encodeNat_eq_some.1 hn
    exact leBytes_length w n
  · intro m n p hm hn
    obtain ⟨hmlt, rfl⟩ := encodeNat_eq_some.1 hm
    obtain ⟨hnlt, heq⟩ := encodeNat_eq_some.1 hn
    exact (leBytes_inj hmlt hnlt).1 heq.symm

def encodeEnded (stop : UInt8) (bytes : List UInt8) : Option (List UInt8) :=
  if stop ∈ bytes then none else some (bytes ++ [stop])

theorem encodeEnded_eq_some : encodeEnded stop bytes = some p ↔ stop ∉ bytes ∧ bytes ++
    [stop] = p := by
  rw [encodeEnded, Option.ite_none_left_eq_some, Option.some.injEq]

theorem delimited_encodeEnded (stop : UInt8) : Delimited (encodeEnded stop) := by
  intro as bs p q x y ha hb hstream
  obtain ⟨has, rfl⟩ := encodeEnded_eq_some.1 ha
  obtain ⟨hbs, rfl⟩ := encodeEnded_eq_some.1 hb
  rw [List.append_assoc, List.append_assoc, List.singleton_append, List.singleton_append] at hstream
  have hsplit := congrArg (List.splitOn stop) hstream
  rw [List.splitOn_append_cons_self_of_not_mem has,
    List.splitOn_append_cons_self_of_not_mem hbs] at hsplit
  obtain ⟨rfl, -⟩ := List.cons.inj hsplit
  exact ⟨rfl, (List.cons.inj (List.append_cancel_left hstream)).2⟩

def encodeEach (encode : γ → Option (List β)) : List γ → Option (List β)
  | [] => some []
  | a :: as => both (encode a) (encodeEach encode as)

theorem Delimited.each {encode : γ → Option (List β)} (h : Delimited encode)
    (hlength : as.length = bs.length)
    (ha : encodeEach encode as = some p) (hb : encodeEach encode bs = some q)
    (hstream : p ++ x = q ++ y) :
    as = bs ∧ x = y := by
  induction as generalizing bs p q with
  | nil =>
    obtain rfl := List.length_eq_zero_iff.1 hlength.symm
    obtain rfl := Option.some.inj ha
    obtain rfl := Option.some.inj hb
    exact ⟨rfl, hstream⟩
  | cons a as ih =>
    cases bs with
    | nil => cases hlength
    | cons b bs =>
      obtain ⟨p₁, p₂, hp₁, hp₂, rfl⟩ := both_eq_some.1 ha
      obtain ⟨q₁, q₂, hq₁, hq₂, rfl⟩ := both_eq_some.1 hb
      rw [List.append_assoc, List.append_assoc] at hstream
      obtain ⟨rfl, hrest⟩ := h hp₁ hq₁ hstream
      obtain ⟨rfl, hrest⟩ := ih (Nat.succ.inj hlength) hp₂ hq₂ hrest
      exact ⟨rfl, hrest⟩

/-- A stream to its end tells how many values were written, where none is written as nothing. -/
theorem Delimited.each_all {encode : γ → Option (List β)} (h : Delimited encode)
    (hsome : ∀ a, encode a ≠ some []) (ha : encodeEach encode as = some p)
    (hb : encodeEach encode bs = some p) : as = bs := by
  induction as generalizing bs p with
  | nil =>
    obtain rfl := Option.some.inj ha
    cases bs with
    | nil => rfl
    | cons b bs =>
      obtain ⟨q, rest, hq, -, heq⟩ := both_eq_some.1 hb
      obtain ⟨rfl, -⟩ := List.append_eq_nil_iff.1 heq
      exact absurd hq (hsome b)
  | cons a as ih =>
    obtain ⟨p₁, p₂, hp₁, hp₂, rfl⟩ := both_eq_some.1 ha
    cases bs with
    | nil =>
      obtain ⟨rfl, -⟩ := List.append_eq_nil_iff.1 (Option.some.inj hb).symm
      exact absurd hp₁ (hsome a)
    | cons b bs =>
      obtain ⟨q₁, q₂, hq₁, hq₂, heq⟩ := both_eq_some.1 hb
      obtain ⟨rfl, rfl⟩ := h hp₁ hq₁ heq.symm
      rw [ih hp₂ hq₂]

def encodeCounted (w : Nat) (encode : γ → Option (List UInt8)) (as : List γ) :
    Option (List UInt8) :=
  both (encodeNat w as.length) (encodeEach encode as)

theorem Delimited.counted {encode : γ → Option (List UInt8)} (h : Delimited encode) (w : Nat) :
    Delimited (encodeCounted w encode) := by
  intro as bs p q x y ha hb hstream
  obtain ⟨p₁, p₂, hp₁, hp₂, rfl⟩ := both_eq_some.1 ha
  obtain ⟨q₁, q₂, hq₁, hq₂, rfl⟩ := both_eq_some.1 hb
  rw [List.append_assoc, List.append_assoc] at hstream
  obtain ⟨hlength, hrest⟩ := delimited_encodeNat w hp₁ hq₁ hstream
  exact h.each hlength hp₂ hq₂ hrest

def encodeText (w : Nat) (s : String) : Option (List UInt8) :=
  encodeCounted w (fun byte => some [byte]) (utf8 s)

theorem delimited_encodeText (w : Nat) : Delimited (encodeText w) := by
  have hbyte : Delimited fun byte : UInt8 => some [byte] := by
    intro a b p q x y ha hb hstream
    obtain rfl := Option.some.inj ha
    obtain rfl := Option.some.inj hb
    exact List.cons.inj hstream
  exact (hbyte.counted w).comap fun s t h => utf8_inj.1 h

end Encodings

section Records

/-- A part of a value, with how it is written. -/
structure Portion (α : Type) where
  {γ : Type}
  proj : α → γ
  encode : γ → Option (List UInt8)
  delimited : Delimited encode

def encodePortions (a : α) : List (Portion α) → Option (List UInt8)
  | [] => some []
  | portion :: fields => both (portion.encode (portion.proj a)) (encodePortions a fields)

/-- Values that have these parts in common. -/
def Agree (fields : List (Portion α)) (a b : α) : Prop :=
  ∀ portion ∈ fields, portion.proj a = portion.proj b

theorem agree_nil : Agree [] a b := fun _ h => nomatch h

theorem agree_cons {portion : Portion α} {fields : List (Portion α)} :
    Agree (portion :: fields) a b ↔ portion.proj a = portion.proj b ∧ Agree fields a b :=
  List.forall_mem_cons

theorem encodePortions_agree {fields : List (Portion α)} (ha : encodePortions a fields = some p)
    (hb : encodePortions b fields = some q) (hstream : p ++ x = q ++ y) :
    Agree fields a b ∧ x = y := by
  induction fields generalizing p q with
  | nil =>
    obtain rfl := Option.some.inj ha
    obtain rfl := Option.some.inj hb
    exact ⟨agree_nil, hstream⟩
  | cons portion fields ih =>
    obtain ⟨p₁, p₂, hp₁, hp₂, rfl⟩ := both_eq_some.1 ha
    obtain ⟨q₁, q₂, hq₁, hq₂, rfl⟩ := both_eq_some.1 hb
    rw [List.append_assoc, List.append_assoc] at hstream
    obtain ⟨hfield, hrest⟩ := portion.delimited hp₁ hq₁ hstream
    obtain ⟨hfields, hrest⟩ := ih hp₂ hq₂ hrest
    exact ⟨agree_cons.2 ⟨hfield, hfields⟩, hrest⟩

theorem delimited_record {fields : List (Portion α)} (h : ∀ a b, Agree fields a b → a = b) :
    Delimited fun a => encodePortions a fields := by
  intro a b p q x y ha hb hstream
  obtain ⟨hfields, hrest⟩ := encodePortions_agree ha hb hstream
  exact ⟨h a b hfields, hrest⟩

end Records

end PalBeacon.Lib
