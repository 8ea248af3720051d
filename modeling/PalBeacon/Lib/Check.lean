import Mathlib

namespace PalBeacon.Lib
set_option autoImplicit true

theorem bind_eq_ok {x : Except ε α} {f : α → Except ε β} :
    x >>= f = .ok b ↔ ∃ a, x = .ok a ∧ f a = .ok b := by
  cases x with
  | error e => exact ⟨fun h => (nomatch h), fun ⟨_, h, _⟩ => nomatch h⟩
  | ok a => exact ⟨fun h => ⟨a, rfl, h⟩, fun ⟨_, h, hf⟩ => Except.ok.inj h ▸ hf⟩

theorem check_bind_eq_ok {x : Except ε Unit} {y : Except ε β} :
    (x >>= fun _ => y) = .ok b ↔ x = .ok () ∧ y = .ok b := by
  rw [bind_eq_ok]
  exact ⟨fun ⟨_, hx, hy⟩ => ⟨hx, hy⟩, fun ⟨hx, hy⟩ => ⟨(), hx, hy⟩⟩

theorem throw_if_eq_ok {c : Bool} {rest : Except ε Unit} :
    (if c = true then (do throw e; rest) else rest) = .ok () ↔ c = false ∧ rest = .ok () := by
  cases c with
  | false => simp
  | true => exact ⟨fun h => (nomatch h), fun h => nomatch h.1⟩

theorem map_eq_ok {x : Except ε α} {f : α → β} : f <$> x = .ok b ↔ ∃ a, x = .ok a ∧ f a = b := by
  cases x with
  | error e => exact ⟨fun h => (nomatch h), fun ⟨_, h, _⟩ => nomatch h⟩
  | ok a =>
    constructor
    · intro h
      exact ⟨a, rfl, Except.ok.inj h⟩
    · rintro ⟨_, h, rfl⟩
      cases h
      rfl

theorem mapError_eq_ok {x : Except ε α} {f : ε → ε'} : x.mapError f = .ok a ↔ x = .ok a := by
  cases x with
  | ok b => simp only [Except.mapError, Except.ok.injEq]
  | error e => simp only [Except.mapError, reduceCtorEq]

/-- How a call that can fail or panic ends early. -/
inductive Fault (ε : Type) where
  | error (e : ε)
  | panic (message : String)
deriving DecidableEq, Repr

/-- Unwrapping a result whose failure is a defect of the caller. -/
def expect (message : String) : Except ε α → Except (Fault ε') α
  | .ok a => .ok a
  | .error _ => .error (.panic message)

@[simp] theorem expect_ok (message : String) (a : α) :
    (expect message (.ok a : Except ε α) : Except (Fault ε') α) = .ok a := rfl

/-- Unwrapping a value whose absence is a defect of the caller. -/
def expectSome (message : String) : Option α → Except (Fault ε) α
  | some a => .ok a
  | none => .error (.panic message)

def okOr : Option α → ε → Except ε α
  | some a, _ => .ok a
  | none, error => .error error

@[simp] theorem okOr_eq_ok {value : Option α} {error : ε} :
    okOr value error = .ok a ↔ value = some a := by
  cases value <;> simp [okOr]

def NoPanic (x : Except (Fault ε) α) : Prop := ∀ message, x ≠ .error (.panic message)

theorem noPanic_ok (a : α) : NoPanic (.ok a : Except (Fault ε) α) := fun _ h => nomatch h

theorem noPanic_error (e : ε) : NoPanic (.error (.error e) : Except (Fault ε) α) :=
  fun _ h => nomatch h

theorem noPanic_bind {x : Except (Fault ε) α} {f : α → Except (Fault ε) β} (hx : NoPanic x)
    (hf : ∀ a, x = .ok a → NoPanic (f a)) : NoPanic (x >>= f) := by
  cases x with
  | ok a => exact hf a rfl
  | error e =>
    intro message h
    exact hx message (congrArg _ (Except.error.inj h))

theorem noPanic_mapError (x : Except ε α) : NoPanic (x.mapError Fault.error) := by
  cases x with
  | ok a => exact noPanic_ok a
  | error e => exact noPanic_error e

def ensure (condition : Bool) (error : ε) : Except ε Unit :=
  if condition then .ok () else .error error

@[simp] theorem ensure_eq_ok {error : ε} : ensure condition error = .ok () ↔ condition = true := by
  unfold ensure
  split
  · next h => exact ⟨fun _ => h, fun _ => rfl⟩
  · next h => exact ⟨fun he => (nomatch he), fun hc => absurd hc h⟩

theorem noPanic_ensure (condition : Bool) (e : ε) :
    NoPanic (ensure condition (.error e : Fault ε)) := by
  unfold ensure
  split
  · exact noPanic_ok ()
  · exact noPanic_error e

/-- Checks every element, in order, and reports the first failure. -/
def checkEach (check : α → Except ε Unit) : List α → Except ε Unit
  | [] => .ok ()
  | x :: xs => do
    check x
    checkEach check xs

theorem checkEach_eq_ok {check : α → Except ε Unit} {l : List α} :
    checkEach check l = .ok () ↔ ∀ x ∈ l, check x = .ok () := by
  induction l with
  | nil => exact ⟨fun _ _ hx => (nomatch hx), fun _ => rfl⟩
  | cons x xs ih => rw [checkEach, check_bind_eq_ok, ih, List.forall_mem_cons]

theorem foldlM_rel {R : σ → σ → Prop} {step : σ → α → Except ε σ} {l : List α}
    (hrefl : ∀ s, R s s) (htrans : ∀ s t u, R s t → R t u → R s u)
    (hstep : ∀ s x t, step s x = .ok t → R s t) (h : l.foldlM step s = .ok t) : R s t := by
  induction l generalizing s with
  | nil =>
    cases h
    exact hrefl _
  | cons x xs ih =>
    rw [List.foldlM_cons] at h
    obtain ⟨u, hx, hxs⟩ := bind_eq_ok.1 h
    exact htrans _ u t (hstep _ x u hx) (ih hxs)

theorem mapM_eq_ok_map {g : α → Except ε β} {f : α → β} {l : List α}
    (h : ∀ x ∈ l, g x = .ok (f x)) : l.mapM g = .ok (l.map f) := by
  induction l with
  | nil => rfl
  | cons x xs ih =>
    obtain ⟨hx, hxs⟩ := List.forall_mem_cons.1 h
    rw [List.mapM_cons, hx, ih hxs]
    rfl

theorem mem_of_mapM_eq_ok {g : α → Except ε β} {l : List α} (h : l.mapM g = .ok out) :
    ∀ y ∈ out, ∃ x ∈ l, g x = .ok y := by
  induction l generalizing out with
  | nil =>
    rw [List.mapM_nil] at h
    cases h
    exact fun _ hy => nomatch hy
  | cons x xs ih =>
    rw [List.mapM_cons] at h
    obtain ⟨first, hfirst, h⟩ := bind_eq_ok.1 h
    obtain ⟨rest, hrest, h⟩ := bind_eq_ok.1 h
    cases h
    intro y hy
    rcases List.mem_cons.1 hy with rfl | hy
    · exact ⟨x, List.mem_cons_self, hfirst⟩
    · obtain ⟨z, hz, hg⟩ := ih hrest y hy
      exact ⟨z, List.mem_cons_of_mem _ hz, hg⟩

theorem exists_ok_of_mapM_eq_ok {g : α → Except ε β} {l : List α} (h : l.mapM g = .ok out) :
    ∀ x ∈ l, ∃ y, g x = .ok y := by
  induction l generalizing out with
  | nil => exact fun _ hx => nomatch hx
  | cons x xs ih =>
    rw [List.mapM_cons] at h
    obtain ⟨y, hy, h⟩ := bind_eq_ok.1 h
    obtain ⟨ys, hys, _⟩ := bind_eq_ok.1 h
    exact List.forall_mem_cons.2 ⟨⟨y, hy⟩, ih hys⟩

/-- Adds a key to those seen before, or reports that it is there already. -/
def rejectDuplicate [DecidableEq κ] (duplicate : κ → ε) (seen : List κ) (key : κ) :
    Except ε (List κ) :=
  if key ∈ seen then .error (duplicate key) else .ok (key :: seen)

theorem rejectDuplicate_eq_ok [DecidableEq κ] {duplicate : κ → ε} :
    rejectDuplicate duplicate seen key = .ok seen' ↔ key ∉ seen ∧ key :: seen = seen' := by
  unfold rejectDuplicate
  split
  · next h => exact ⟨fun he => (nomatch he), fun hn => absurd h hn.1⟩
  · next h => exact ⟨fun he => ⟨h, Except.ok.inj he⟩, fun hn => congrArg _ hn.2⟩

/-- Checks every element and that no two of them share a key. -/
def checkDistinct [DecidableEq κ] (check : α → Except ε Unit) (duplicate : κ → ε)
    (key : α → κ) : List κ → List α → Except ε Unit
  | _, [] => .ok ()
  | seen, x :: xs => do
    check x
    let seen ← rejectDuplicate duplicate seen (key x)
    checkDistinct check duplicate key seen xs

def Fresh (seen keys : List κ) : Prop := keys.Nodup ∧ ∀ k ∈ keys, k ∉ seen

theorem fresh_nil {keys : List κ} : Fresh [] keys ↔ keys.Nodup :=
  ⟨fun h => h.1, fun h => ⟨h, fun _ _ hs => nomatch hs⟩⟩

theorem fresh_cons {k : κ} {seen keys : List κ} :
    Fresh seen (k :: keys) ↔ k ∉ seen ∧ Fresh (k :: seen) keys := by
  constructor
  · rintro ⟨hn, hs⟩
    obtain ⟨hk, hn⟩ := List.nodup_cons.1 hn
    refine ⟨hs k List.mem_cons_self, hn, ?_⟩
    intro x hx hmem
    rcases List.mem_cons.1 hmem with rfl | hmem
    · exact hk hx
    · exact hs x (List.mem_cons_of_mem _ hx) hmem
  · rintro ⟨hk, hn, hs⟩
    refine ⟨List.nodup_cons.2 ⟨fun hm => hs k hm List.mem_cons_self, hn⟩, ?_⟩
    intro x hx hmem
    rcases List.mem_cons.1 hx with rfl | hx
    · exact hk hmem
    · exact hs x hx (List.mem_cons_of_mem _ hmem)

theorem checkDistinct_eq_ok [DecidableEq κ] {check : α → Except ε Unit} {duplicate : κ → ε}
    {key : α → κ} {l : List α} :
    checkDistinct check duplicate key seen l = .ok () ↔
      (∀ x ∈ l, check x = .ok ()) ∧ Fresh seen (l.map key) := by
  induction l generalizing seen with
  | nil => exact ⟨fun _ => ⟨fun _ hx => (nomatch hx), .nil, fun _ hk => nomatch hk⟩, fun _ => rfl⟩
  | cons x xs ih =>
    rw [checkDistinct, check_bind_eq_ok, bind_eq_ok, List.forall_mem_cons, List.map_cons,
      fresh_cons]
    constructor
    · rintro ⟨hx, seen', hr, hrest⟩
      obtain ⟨hk, rfl⟩ := rejectDuplicate_eq_ok.1 hr
      obtain ⟨hall, hf⟩ := ih.1 hrest
      exact ⟨⟨hx, hall⟩, hk, hf⟩
    · rintro ⟨⟨hx, hall⟩, hk, hf⟩
      exact ⟨hx, _, rejectDuplicate_eq_ok.2 ⟨hk, rfl⟩, ih.2 ⟨hall, hf⟩⟩

section TakeFresh
variable [DecidableEq κ] (key : α → κ)

/-- The first rows up to a budget, without those whose key is taken already. -/
def takeFresh : List κ → Nat → List α → List α
  | _, 0, _ | _, _, [] => []
  | seen, budget + 1, row :: rows =>
    if key row ∈ seen then takeFresh seen (budget + 1) rows
    else row :: takeFresh (key row :: seen) budget rows

@[simp] theorem takeFresh_zero (seen : List κ) (rows : List α) :
    takeFresh key seen 0 rows = [] := by
  cases rows <;> rfl

@[simp] theorem takeFresh_nil (seen : List κ) (budget : Nat) :
    takeFresh key seen budget [] = [] := by
  cases budget <;> rfl

theorem takeFresh_cons (seen : List κ) (budget : Nat) (row : α) (rows : List α) :
    takeFresh key seen (budget + 1) (row :: rows) =
      if key row ∈ seen then takeFresh key seen (budget + 1) rows
      else row :: takeFresh key (key row :: seen) budget rows := by
  rw [takeFresh]

theorem takeFresh_length (seen : List κ) (budget : Nat) (rows : List α) :
    (takeFresh key seen budget rows).length ≤ budget := by
  induction rows generalizing seen budget with
  | nil => simp
  | cons row rows ih =>
    cases budget with
    | zero => simp
    | succ budget =>
      rw [takeFresh_cons]
      split
      · exact ih _ _
      · exact Nat.succ_le_succ (ih _ _)

theorem mem_of_mem_takeFresh (h : row ∈ takeFresh key seen budget rows) : row ∈ rows := by
  induction rows generalizing seen budget with
  | nil => simp at h
  | cons first rows ih =>
    cases budget with
    | zero => simp at h
    | succ budget =>
      rw [takeFresh_cons] at h
      split at h
      · exact List.mem_cons_of_mem _ (ih h)
      · rcases List.mem_cons.1 h with rfl | h
        · exact List.mem_cons_self
        · exact List.mem_cons_of_mem _ (ih h)

theorem takeFresh_fresh (seen : List κ) (budget : Nat) (rows : List α) :
    Fresh seen ((takeFresh key seen budget rows).map key) := by
  induction rows generalizing seen budget with
  | nil => simp [Fresh]
  | cons row rows ih =>
    cases budget with
    | zero => simp [Fresh]
    | succ budget =>
      rw [takeFresh_cons]
      split
      · exact ih _ _
      · next hnew => exact fresh_cons.2 ⟨hnew, ih _ _⟩

theorem takeFresh_append (seen : List κ) (budget : Nat) (rows rows' : List α) :
    ∃ seen' budget', takeFresh key seen budget (rows ++ rows') =
      takeFresh key seen budget rows ++ takeFresh key seen' budget' rows' := by
  induction rows generalizing seen budget with
  | nil => exact ⟨seen, budget, by simp⟩
  | cons row rows ih =>
    cases budget with
    | zero => exact ⟨seen, 0, by simp⟩
    | succ budget =>
      rw [List.cons_append, takeFresh_cons, takeFresh_cons]
      split
      · exact ih _ _
      · obtain ⟨seen', budget', heq⟩ := ih (key row :: seen) budget
        exact ⟨seen', budget', by rw [heq, List.cons_append]⟩

theorem takeFresh_map (f : β → α) (seen : List κ) (budget : Nat) (rows : List β) :
    takeFresh key seen budget (rows.map f) =
      (takeFresh (fun row => key (f row)) seen budget rows).map f := by
  induction rows generalizing seen budget with
  | nil => simp
  | cons row rows ih =>
    cases budget with
    | zero => simp
    | succ budget =>
      rw [List.map_cons, takeFresh_cons, takeFresh_cons]
      split
      · exact ih _ _
      · rw [List.map_cons, ih]

end TakeFresh

end PalBeacon.Lib
