import Mathlib.Data.Fintype.Basic

namespace PalBeacon.Lib
set_option autoImplicit true

/-- The two writers of a record: one that writes out the copy it keeps, and one that writes over
what it finds. -/
inductive Writer where
  | keeper
  | visitor
deriving DecidableEq, Repr

/-- The last accepted change of a field. -/
structure Change (ν : Type) where
  writer : Writer
  value : ν
deriving DecidableEq

abbrev Ledger (φ ν : Type) := φ → Change ν

namespace Ledger

section Copies
variable (get : ρ → φ → ν)

def opened (record : ρ) : Ledger φ ν := fun f => ⟨.keeper, get record f⟩

/-- Each writer's own copy has the values that this writer changed last. -/
structure Held (ledger : Ledger φ ν) (kept shared : ρ) : Prop where
  keeper : ∀ f, (ledger f).writer = .keeper → get kept f = (ledger f).value
  visitor : ∀ f, (ledger f).writer = .visitor → get shared f = (ledger f).value

def WrittenOut (ledger : Ledger φ ν) (shared : ρ) : Prop :=
  ∀ f, (ledger f).writer = .keeper → get shared f = (ledger f).value

/-- The record has the shared copy's values in all that the visitor changed last. -/
def Respects (ledger : Ledger φ ν) (record shared : ρ) : Prop :=
  ∀ f, (ledger f).writer = .visitor → get record f = get shared f

/-- The shared copy has the visitor's old value in every field that the visitor leaves alone. -/
def Current (base shared' shared : ρ) : Prop :=
  ∀ f, get shared' f = get base f → get shared f = get base f

variable {get} {ledger : Ledger φ ν} {kept shared shared' : ρ}

theorem held_opened (h : ∀ f, get shared f = get kept f) : (opened get kept).Held get kept shared :=
  ⟨fun _ _ => rfl, fun f _ => h f⟩

theorem Held.overwrite (h : ledger.Held get kept shared)
    (hrespects : ledger.Respects get shared' shared) :
    ledger.Held get kept shared' := by
  refine ⟨h.keeper, ?_⟩
  intro f hf
  exact (hrespects f hf).trans (h.visitor f hf)

theorem Held.writtenOut (h : ledger.Held get kept shared)
    (hsame : ∀ f, get shared' f = get kept f) :
    ledger.WrittenOut get shared' := by
  intro f hf
  exact (hsame f).trans (h.keeper f hf)

/-- Once the keeper's changes are written out, the shared copy has every last accepted value. -/
theorem Held.upheld (h : ledger.Held get kept shared) (hout : ledger.WrittenOut get shared)
    (f : φ) :
    get shared f = (ledger f).value := by
  cases hf : (ledger f).writer with
  | keeper => exact hout f hf
  | visitor => exact h.visitor f hf

theorem Held.congr (h : ledger.Held get kept shared) (hsame : ∀ f, get shared' f = get shared f) :
    ledger.Held get kept shared' := by
  apply h.overwrite
  intro f _
  exact hsame f

theorem WrittenOut.congr (h : ledger.WrittenOut get shared)
    (hsame : ∀ f, get shared' f = get shared f) :
    ledger.WrittenOut get shared' := by
  intro f hf
  exact (hsame f).trans (h f hf)

end Copies

section Notes
variable [DecidableEq ν] {get : ρ → φ →
  ν} {ledger : Ledger φ ν} {kept kept' shared shared' base : ρ}

/-- A writer turned one record into another; the fields it left alone keep their entries. -/
def note (get : ρ → φ → ν) (ledger : Ledger φ ν) (writer : Writer) (before after : ρ) :
    Ledger φ ν :=
  fun f => if get after f = get before f then ledger f else ⟨writer, get after f⟩

theorem note_of_eq (h : get after f = get before f) :
    ledger.note get writer before after f = ledger f :=
  if_pos h

theorem note_of_ne (h : get after f ≠ get before f) :
    ledger.note get writer before after f = ⟨writer, get after f⟩ :=
  if_neg h

@[simp] theorem note_self (record : ρ) : ledger.note get writer record record = ledger :=
  funext fun _ => note_of_eq rfl

theorem Held.noteKeeper (h : ledger.Held get kept shared) :
    (ledger.note get .keeper kept kept').Held get kept' shared := by
  constructor
  · intro f hf
    by_cases he : get kept' f = get kept f
    · rw [note_of_eq he] at hf ⊢
      exact he.trans (h.keeper f hf)
    · rw [note_of_ne he]
  · intro f hf
    by_cases he : get kept' f = get kept f
    · rw [note_of_eq he] at hf ⊢
      exact h.visitor f hf
    · rw [note_of_ne he] at hf
      cases hf

theorem Held.noteVisitor (h : ledger.Held get kept shared)
    (hbase : Current get base shared' shared) :
    (ledger.note get .visitor base shared').Held get kept shared' := by
  constructor
  · intro f hf
    by_cases he : get shared' f = get base f
    · rw [note_of_eq he] at hf ⊢
      exact h.keeper f hf
    · rw [note_of_ne he] at hf
      cases hf
  · intro f hf
    by_cases he : get shared' f = get base f
    · rw [note_of_eq he] at hf ⊢
      rw [he, ← hbase f he]
      exact h.visitor f hf
    · rw [note_of_ne he]

theorem WrittenOut.noteVisitor (h : ledger.WrittenOut get shared)
    (hbase : Current get base shared' shared) :
    (ledger.note get .visitor base shared').WrittenOut get shared' := by
  intro f hf
  by_cases he : get shared' f = get base f
  · rw [note_of_eq he] at hf ⊢
    rw [he, ← hbase f he]
    exact h f hf
  · rw [note_of_ne he] at hf
    cases hf

end Notes

section Decidable
variable [Fintype φ] [DecidableEq ν] (get : ρ → φ → ν) (ledger : Ledger φ ν) (a b c : ρ)

instance instDecidableWrittenOut : Decidable (ledger.WrittenOut get a) :=
  inferInstanceAs (Decidable (∀ _, _))

instance instDecidableRespects : Decidable (ledger.Respects get a b) :=
  inferInstanceAs (Decidable (∀ _, _))

instance instDecidableCurrent : Decidable (Current get a b c) :=
  inferInstanceAs (Decidable (∀ _, _))

end Decidable

end Ledger

end PalBeacon.Lib
