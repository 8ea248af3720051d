import PalBeacon.Lib.Check

namespace PalBeacon.Lib
set_option autoImplicit true

/-- What the system answers to one step of file access. A step that fails, or in which the process
stops, may have written some of its bytes. -/
inductive Answer
  | done
  | fails (written : Nat)
  | stops (written : Nat)
deriving DecidableEq, Repr

inductive IoErrorKind
  | notFound
  | invalidInput
  | other
deriving DecidableEq, Repr

/-- The files under their paths, with the number of steps taken so far. -/
structure Disk (π : Type) where
  files : π → Option (List UInt8)
  steps : Nat

/-- How a program over files ends before its last step. -/
inductive Halt (ε : Type)
  | failed (error : ε)
  | stopped
deriving DecidableEq, Repr

def FileM (π ε α : Type) : Type := (Nat → Answer) → Disk π → Except (Halt ε) α × Disk π

namespace FileM
variable {π ε : Type}

def throw (error : ε) : FileM π ε α := fun _ disk => (.error (.failed error), disk)

def lift : Except ε α → FileM π ε α
  | .ok a => fun _ disk => (.ok a, disk)
  | .error error => throw error

protected def bind (x : FileM π ε α) (f : α → FileM π ε β) : FileM π ε β := fun answers disk =>
  match x answers disk with
  | (.ok a, disk) => f a answers disk
  | (.error halt, disk) => (.error halt, disk)

instance instMonadFileM : Monad (FileM π ε) where
  pure a := fun _ disk => (.ok a, disk)
  bind := FileM.bind

theorem bind_of_ok {x : FileM π ε α} {f : α → FileM π ε β} (h : x answers disk = (.ok a, disk')) :
    (x >>= f) answers disk = f a answers disk' := by
  change FileM.bind x f answers disk = _
  rw [FileM.bind, h]

theorem bind_of_error {x : FileM π ε α} {f : α → FileM π ε β}
    (h : x answers disk = (.error halt, disk')) : (x >>= f) answers disk =
      (.error halt, disk') := by
  change FileM.bind x f answers disk = _
  rw [FileM.bind, h]

@[simp] theorem lift_ok (a : α) : (lift (.ok a) : FileM π ε α) answers disk = (.ok a, disk) := rfl

@[simp] theorem lift_error (error : ε) :
    (lift (.error error) : FileM π ε α) answers disk = (.error (.failed error), disk) := rfl

@[simp] theorem pure_apply (a : α) : (pure a : FileM π ε α) answers disk = (.ok a, disk) := rfl

variable [DecidableEq π] (io : IoErrorKind → ε)

/-- One step with its full effect on the files, and the effect it has when it is cut short. -/
def step (effect : (π → Option (List UInt8)) → π → Option (List UInt8))
    (torn : Nat → (π → Option (List UInt8)) → π → Option (List UInt8)) : FileM π ε Unit :=
  fun answers disk =>
    match answers disk.steps with
    | .done => (.ok (), ⟨effect disk.files, disk.steps + 1⟩)
    | .fails written => (.error (.failed (io .other)), ⟨torn written disk.files, disk.steps + 1⟩)
    | .stops written => (.error .stopped, ⟨torn written disk.files, disk.steps + 1⟩)

def touch : FileM π ε Unit := step io id fun _ => id

def create (path : π) : FileM π ε Unit :=
  step io (fun files => Function.update files path (some [])) fun _ => id

def append (path : π) (bytes : List UInt8) (files : π → Option (List UInt8)) :
    π → Option (List UInt8) :=
  Function.update files path ((files path).map (· ++ bytes))

def writeAll (path : π) (bytes : List UInt8) : FileM π ε Unit :=
  step io (append path bytes) fun written => append path (bytes.take written)

def removeFile (path : π) : FileM π ε Unit := fun answers disk =>
  if (disk.files path).isSome then
    step io (fun files => Function.update files path none) (fun _ => id) answers disk
  else throw (io .notFound) answers disk

/-- Moves a file over another one, if there is any. -/
def rename (source target : π) : FileM π ε Unit := fun answers disk =>
  if (disk.files source).isSome then
    step io (fun files => Function.update (Function.update files target (files source)) source none)
      (fun _ => id) answers disk
  else throw (io .notFound) answers disk

/-- Whether a file is there, as far as the system tells. -/
def fileExists (path : π) : FileM π ε Bool := fun answers disk =>
  match answers disk.steps with
  | .done => (.ok (disk.files path).isSome, ⟨disk.files, disk.steps + 1⟩)
  | .fails _ => (.ok false, ⟨disk.files, disk.steps + 1⟩)
  | .stops _ => (.error .stopped, ⟨disk.files, disk.steps + 1⟩)

def openFile (path : π) : FileM π ε (List UInt8) := fun answers disk =>
  match answers disk.steps with
  | .done =>
    match disk.files path with
    | some bytes => (.ok bytes, ⟨disk.files, disk.steps + 1⟩)
    | none => (.error (.failed (io .notFound)), ⟨disk.files, disk.steps + 1⟩)
  | .fails _ => (.error (.failed (io .other)), ⟨disk.files, disk.steps + 1⟩)
  | .stops _ => (.error .stopped, ⟨disk.files, disk.steps + 1⟩)

variable {files : π → Option (List UInt8)} {disk : Disk π} {path other source target : π}

omit [DecidableEq π] in
/-- A step that spares a path when it is cut short goes on with its effect, or ends the program with
the file at the path as it was. -/
theorem step_bind_cases (answers : Nat → Answer) (f : Unit → FileM π ε β)
    (hspared : ∀ written files, torn written files path = files path) :
    (answers disk.steps = .done ∧
      (step io effect torn >>= f) answers disk = f () answers ⟨effect disk.files, disk.steps + 1⟩) ∨
    (answers disk.steps ≠ .done ∧
      ((step io effect torn >>= f) answers disk).2.files path = disk.files path) := by
  cases ha : answers disk.steps with
  | done =>
    refine .inl ⟨rfl, bind_of_ok ?_⟩
    simp only [step, ha]
  | fails written =>
    have hstep : (step io effect torn : FileM π ε Unit) answers disk =
        (.error (.failed (io .other)), ⟨torn written disk.files, disk.steps + 1⟩) := by
      simp only [step, ha]
    refine .inr ⟨by simp, ?_⟩
    rw [bind_of_error hstep]
    exact hspared written disk.files
  | stops written =>
    have hstep : (step io effect torn : FileM π ε Unit) answers disk =
        (.error .stopped, ⟨torn written disk.files, disk.steps + 1⟩) := by
      simp only [step, ha]
    refine .inr ⟨by simp, ?_⟩
    rw [bind_of_error hstep]
    exact hspared written disk.files

theorem append_of_ne (h : path ≠ other) (files : π → Option (List UInt8)) :
    append path bytes files other = files other := Function.update_of_ne h.symm _ _

theorem append_self (h : files path = some content) :
    append path bytes files path = some (content ++ bytes) := by
  simp [append, h]

theorem removeFile_bind_cases (answers : Nat → Answer) (f : Unit → FileM π ε β)
    (h : (disk.files path).isSome = true) :
    (answers disk.steps = .done ∧ (removeFile io path >>= f) answers disk =
      f () answers ⟨Function.update disk.files path none, disk.steps + 1⟩) ∨
    (answers disk.steps ≠ .done ∧
      ((removeFile io path >>= f) answers disk).2.files path = disk.files path) := by
  have hstep : (removeFile io path >>= f) answers disk =
      (step io (fun files => Function.update files path none) (fun _ => id) >>= f) answers
        disk := by
    change FileM.bind _ f answers disk = FileM.bind _ f answers disk
    simp only [FileM.bind, removeFile, h, if_true]
  rw [hstep]
  exact step_bind_cases io answers f fun _ _ => rfl

theorem rename_cases (answers : Nat → Answer) (h : disk.files source = some bytes)
    (hne : source ≠ target) :
    (answers disk.steps = .done ∧
      ((rename io source target) answers disk).2.files target = some bytes) ∨
    (answers disk.steps ≠ .done ∧
      ((rename io source target) answers disk).2.files target = disk.files target) := by
  have hsome : (disk.files source).isSome = true := by rw [h]; rfl
  cases ha : answers disk.steps <;> simp [rename, step, ha, h, hne.symm]

end FileM

end PalBeacon.Lib
