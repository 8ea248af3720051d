import Mathlib

namespace PalBeacon.Lib
set_option autoImplicit true

section Parity

def isOdd (s : UInt64) : Bool := s &&& 1 != 0

def nextEven (odd : UInt64) : UInt64 := (odd + 1) &&& ~~~1

theorem isOdd_eq (s : UInt64) : isOdd s = decide (s.toNat % 2 = 1) := by
  have h : (s &&& 1).toNat = s.toNat % 2 := by
    rw [UInt64.toNat_and]
    exact Nat.and_one_is_mod s.toNat
  have h01 : s.toNat % 2 = 0 ∨ s.toNat % 2 = 1 := Nat.mod_two_eq_zero_or_one _
  unfold isOdd
  rcases h01 with h0 | h1
  · have he : s &&& 1 = 0 := UInt64.toNat_inj.1 (h.trans h0)
    rw [he, h0]
    rfl
  · have he : s &&& 1 = 1 := UInt64.toNat_inj.1 (h.trans h1)
    rw [he, h1]
    rfl

theorem isOdd_succ (s : UInt64) : isOdd (s + 1) = !isOdd s := by
  have h : (s + 1).toNat % 2 = (s.toNat + 1) % 2 := by
    rw [UInt64.toNat_add]
    exact Nat.mod_mod_of_dvd _ (by decide)
  rw [isOdd_eq, isOdd_eq, h, ← decide_not, decide_eq_decide]
  omega

theorem or_one_of_even (h : isOdd s = false) : s ||| 1 = s + 1 := by
  rw [isOdd_eq, decide_eq_false_iff_not] at h
  apply UInt64.toNat_inj.1
  have hlt := s.toNat_lt
  have hor : s.toNat ||| 1 = s.toNat + 1 := by
    have heven : Even s.toNat := Nat.even_iff.2 (by omega)
    obtain ⟨n, hn⟩ := heven
    rw [hn, ← two_mul]
    exact (Nat.two_pow_add_eq_or_of_lt (i := 1) (b := 1) (by decide) n).symm
  rw [UInt64.toNat_or, UInt64.toNat_add]
  change s.toNat ||| 1 = (s.toNat + 1) % 2 ^ 64
  rw [hor, Nat.mod_eq_of_lt (by omega)]

theorem and_not_one_of_even (h : isOdd s = false) : s &&& ~~~1 = s := by
  have hlow : s &&& 1 = 0 := by
    simpa [isOdd] using h
  have hsplit : s &&& (~~~1 ||| 1) = (s &&& ~~~1) ||| (s &&& 1) :=
    UInt64.toBitVec_inj.1 BitVec.and_or_distrib_left
  calc s &&& ~~~1 = (s &&& ~~~1) ||| (s &&& 1) := by rw [hlow, UInt64.or_zero]
    _ = s &&& (~~~1 ||| 1) := hsplit.symm
    _ = s := UInt64.and_neg_one

theorem isOdd_nextEven (s : UInt64) : isOdd (nextEven s) = false := by
  have h : (s + 1) &&& ~~~1 &&& 1 = 0 := by
    rw [UInt64.and_assoc]
    exact UInt64.and_zero
  unfold isOdd nextEven
  rw [h]
  rfl

theorem nextEven_of_odd (h : isOdd s = true) : nextEven s = s + 1 := by
  apply and_not_one_of_even
  rw [isOdd_succ, h]
  rfl

end Parity

section Sections

/-- What an access does to a sequence counter and to the data it guards. -/
inductive Role
  | opens
  | closes
  | modifies
  | resets
  | neutral
deriving DecidableEq

/-- Where a program stands that modifies guarded data in one section only. -/
inductive Phase
  | before
  | inside
  | after
deriving DecidableEq

def Phase.next : Phase → Role → Option Phase
  | p, .neutral => some p
  | .before, .opens => some .inside
  | .inside, .modifies => some .inside
  | .inside, .closes => some .after
  | _, _ => none

variable {role : α → Role}

def phaseAfter (role : α → Role) (p : Phase) (program : List α) : Option Phase :=
  program.foldlM (fun p a => p.next (role a)) p

theorem phaseAfter_append (p : Phase) (first second : List α) :
    phaseAfter role p (first ++ second) =
      (phaseAfter role p first).bind fun q => phaseAfter role q second :=
  List.foldlM_append

theorem phaseAfter_cons (p : Phase) (a : α) (rest : List α) :
    phaseAfter role p (a :: rest) = (p.next (role a)).bind fun q => phaseAfter role q rest :=
  List.foldlM_cons

theorem phaseAfter_neutral (p : Phase) (h : ∀ a ∈ program, role a = .neutral) :
    phaseAfter role p program = some p := by
  induction program with
  | nil => rfl
  | cons a program ih =>
    have hnext : p.next .neutral = some p := by
      cases p <;> rfl
    rw [phaseAfter_cons, h a List.mem_cons_self, hnext]
    exact ih fun b hb => h b (List.mem_cons_of_mem a hb)

theorem phaseAfter_inside (h : ∀ a ∈ program, role a = .neutral ∨ role a = .modifies) :
    phaseAfter role .inside program = some .inside := by
  induction program with
  | nil => rfl
  | cons a program ih =>
    have hnext : Phase.next .inside (role a) = some .inside := by
      rcases h a List.mem_cons_self with ha | ha <;> rw [ha] <;> rfl
    rw [phaseAfter_cons, hnext]
    exact ih fun b hb => h b (List.mem_cons_of_mem a hb)

theorem phaseAfter_ne_before (hp : p ≠ .before) (h : phaseAfter role p program = some q) :
    q ≠ .before := by
  induction program generalizing p with
  | nil =>
    cases h
    exact hp
  | cons a program ih =>
    rw [phaseAfter_cons] at h
    obtain ⟨next, hnext, hrest⟩ := Option.bind_eq_some_iff.1 h
    have hne : next ≠ .before := by
      cases p with
      | before => exact absurd rfl hp
      | inside => cases hrole : role a <;> rw [hrole] at hnext <;> cases hnext <;> decide
      | after =>
        cases hrole : role a <;> rw [hrole] at hnext <;> cases hnext
        decide
    exact ih hne hrest

theorem phaseAfter_before (h : phaseAfter role .before program = some .before) :
    ∀ a ∈ program, role a = .neutral := by
  induction program with
  | nil => exact fun _ ha => nomatch ha
  | cons a program ih =>
    rw [phaseAfter_cons] at h
    obtain ⟨next, hnext, hrest⟩ := Option.bind_eq_some_iff.1 h
    have hne : next = .before := by
      by_contra hne
      exact phaseAfter_ne_before hne hrest rfl
    cases hrole : role a with
    | neutral =>
      rw [hne] at hrest
      exact List.forall_mem_cons.2 ⟨hrole, ih hrest⟩
    | opens => rw [hne, hrole] at hnext; cases hnext
    | closes => rw [hne, hrole] at hnext; cases hnext
    | modifies => rw [hne, hrole] at hnext; cases hnext
    | resets => rw [hne, hrole] at hnext; cases hnext

theorem phaseAfter_after (h : phaseAfter role .after program = some q) :
    ∀ a ∈ program, role a = .neutral := by
  induction program with
  | nil => exact fun _ ha => nomatch ha
  | cons a program ih =>
    rw [phaseAfter_cons] at h
    cases hrole : role a with
    | neutral =>
      rw [hrole] at h
      exact List.forall_mem_cons.2 ⟨hrole, ih h⟩
    | opens => rw [hrole] at h; cases h
    | closes => rw [hrole] at h; cases h
    | modifies => rw [hrole] at h; cases h
    | resets => rw [hrole] at h; cases h

theorem phaseAfter_between (hdone : phaseAfter role .before done = some p)
    (hrest : phaseAfter role p rest = some q) (ha : a ∈ done) (hb : b ∈ rest)
    (hma : role a = .modifies) (hmb : role b = .modifies) : p = .inside := by
  cases p with
  | before =>
    have hneutral := phaseAfter_before hdone a ha
    rw [hma] at hneutral
    cases hneutral
  | inside => rfl
  | after =>
    have hneutral := phaseAfter_after hrest b hb
    rw [hmb] at hneutral
    cases hneutral

end Sections

section Epochs
variable {data data' : δ} {seen seen' : δ → Prop}

/-- The counter only grows, and the data keeps still while it rests on an even value. -/
structure Guarded (epoch : Nat) (data : δ) (epoch' : Nat) (data' : δ) : Prop where
  grows : epoch ≤ epoch'
  keeps : epoch' = epoch → Even epoch → data' = data

/-- What a reader saw since an epoch holds of the data for as long as the epoch lasts. -/
structure Saw (since : Nat) (seen : δ → Prop) (epoch : Nat) (data : δ) : Prop where
  begun : since ≤ epoch
  still : epoch = since → seen data

theorem Saw.step (h : Saw since seen epoch data) (hg : Guarded epoch data epoch' data')
    (heven : Even since) : Saw since seen epoch' data' := by
  have hbegun := h.begun
  have hgrows := hg.grows
  refine ⟨by omega, ?_⟩
  intro he
  have hepoch : epoch = since := by omega
  have hdata : data' = data := by
    apply hg.keeps
    · omega
    · rw [hepoch]
      exact heven
  rw [hdata]
  exact h.still hepoch

theorem Saw.mono (h : Saw since seen epoch data) (hseen : seen data → seen' data) :
    Saw since seen' epoch data := ⟨h.begun, fun he => hseen (h.still he)⟩

/-- The same counter word read again, without a wrap in between, means the same epoch. -/
theorem Saw.accept (h : Saw since seen epoch data)
    (hword : UInt64.ofNat since = UInt64.ofNat epoch) (hnear : epoch - since < 2 ^ 64) :
    epoch = since ∧ seen data := by
  have hbegun := h.begun
  have hmod : since % 2 ^ 64 = epoch % 2 ^ 64 := by
    have hnat := congrArg UInt64.toNat hword
    rw [UInt64.toNat_ofNat', UInt64.toNat_ofNat'] at hnat
    exact hnat
  have he : epoch = since := by omega
  exact ⟨he, h.still he⟩

end Epochs

end PalBeacon.Lib
