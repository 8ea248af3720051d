import PalBeacon.Bridge.Memory
import PalBeacon.Lib.Machine

namespace PalBeacon.Bridge
open PalBeacon.Lib
set_option autoImplicit true

section Lanes

def panSubpixelUnits : Float32 := 16

def int16OfInt (value : Int) : Int16 := .ofInt (max (-2 ^ 15) (min value (2 ^ 15 - 1)))

def saturatingAddInt16 (a b : Int16) : Int16 := int16OfInt (a.toInt + b.toInt)

def packPanLanes (x y : Int16) : UInt32 := x.toUInt16.toUInt32 ||| (y.toUInt16.toUInt32 <<< 16)

def unpackPanLanes (packed : UInt32) : Int16 × Int16 :=
  (packed.toUInt16.toInt16, (packed >>> 16).toUInt16.toInt16)

theorem packPanLanes_toNat (x y : Int16) :
    (packPanLanes x y).toNat = x.toUInt16.toNat + y.toUInt16.toNat * 2 ^ 16 := by
  have hx := x.toUInt16.toNat_lt
  have hy := y.toUInt16.toNat_lt
  have hshift : (y.toUInt16.toUInt32 <<< 16).toNat = y.toUInt16.toNat * 2 ^ 16 := by
    rw [UInt32.toNat_shiftLeft, UInt16.toNat_toUInt32, Nat.shiftLeft_eq]
    change y.toUInt16.toNat * 2 ^ 16 % 2 ^ 32 = y.toUInt16.toNat * 2 ^ 16
    omega
  rw [packPanLanes, UInt32.toNat_or, UInt16.toNat_toUInt32, hshift, Nat.or_comm, Nat.mul_comm,
    ← Nat.two_pow_add_eq_or_of_lt hx]
  omega

theorem unpackPanLanes_packPanLanes (x y : Int16) : unpackPanLanes (packPanLanes x y) = (x, y) := by
  have hx := x.toUInt16.toNat_lt
  have hy := y.toUInt16.toNat_lt
  have hlow : (packPanLanes x y).toUInt16 = x.toUInt16 := by
    apply UInt16.toNat_inj.1
    rw [UInt32.toNat_toUInt16, packPanLanes_toNat]
    omega
  have hhigh : (packPanLanes x y >>> 16).toUInt16 = y.toUInt16 := by
    apply UInt16.toNat_inj.1
    rw [UInt32.toNat_toUInt16, UInt32.toNat_shiftRight, packPanLanes_toNat,
      Nat.shiftRight_eq_div_pow]
    change (x.toUInt16.toNat + y.toUInt16.toNat * 2 ^ 16) / 2 ^ 16 % 2 ^ 16 = y.toUInt16.toNat
    omega
  rw [unpackPanLanes, hlow, hhigh, Int16.toInt16_toUInt16, Int16.toInt16_toUInt16]

theorem packPanLanes_unpackPanLanes (packed : UInt32) :
    packPanLanes (unpackPanLanes packed).1 (unpackPanLanes packed).2 = packed := by
  have hlt := packed.toNat_lt
  apply UInt32.toNat_inj.1
  rw [packPanLanes_toNat]
  simp only [unpackPanLanes, UInt16.toUInt16_toInt16, UInt32.toNat_toUInt16,
    UInt32.toNat_shiftRight,
    Nat.shiftRight_eq_div_pow]
  change packed.toNat % 2 ^ 16 + packed.toNat / 2 ^ 16 % 2 ^ 16 * 2 ^ 16 = packed.toNat
  omega

theorem int16OfInt_toInt (h : -2 ^ 15 ≤ value ∧ value < 2 ^ 15) :
    (int16OfInt value).toInt = value := by
  unfold int16OfInt
  rw [Int16.toInt_ofInt_of_le] <;> omega

def accumulatePackedPan (current delta : UInt32) : UInt32 :=
  packPanLanes (saturatingAddInt16 (unpackPanLanes current).1 (unpackPanLanes delta).1)
    (saturatingAddInt16 (unpackPanLanes current).2 (unpackPanLanes delta).2)

/-- The nearest integer, a tie away from zero, where infinities stand for the ends of a range. -/
def nearestInt (low high : Int) : Float.Model.UnpackedFloat → Int
  | .notANumber | .zero _ => 0
  | .infinity .negative => low
  | .infinity .positive => high
  | .finite sign m e _ =>
    let magnitude : Int :=
      if 0 ≤ e then m * 2 ^ e.toNat else (2 * m + 2 ^ (-e).toNat) / 2 ^ ((-e).toNat + 1)
    match sign with
    | .negative => -magnitude
    | .positive => magnitude

/-- An axis of a delta in sixteenths of a pixel. -/
def quantize (value : Float32) : Int16 :=
  int16OfInt (nearestInt (-2 ^ 15) (2 ^ 15 - 1) (value * panSubpixelUnits).toModel.unpack)

example : quantize 10.25 = 164 ∧ quantize (-0.03125) = -1 ∧ quantize (-10000) = -32768 := by
  decide

def encodePanDelta (rasterDeltaX rasterDeltaY : Float32) : Option UInt32 :=
  if !rasterDeltaX.isFinite || !rasterDeltaY.isFinite then none
  else if quantize rasterDeltaX = 0 ∧ quantize rasterDeltaY = 0 then none
  else some (packPanLanes (quantize rasterDeltaX) (quantize rasterDeltaY))

/-- A drained delta; its raster deltas are its units over sixteen. -/
structure ConsumerPanDelta where
  unitsX : Int16
  unitsY : Int16
deriving DecidableEq

def rasterDelta (units : Int16) : Float32 :=
  .ofModel (.pack (.normalize .binary32 units.toInt 0 .positive)) / panSubpixelUnits

def ConsumerPanDelta.rasterDeltaX (delta : ConsumerPanDelta) : Float32 := rasterDelta delta.unitsX

def ConsumerPanDelta.rasterDeltaY (delta : ConsumerPanDelta) : Float32 := rasterDelta delta.unitsY

example : rasterDelta (-52) = -3.25 := by decide

def decodePanDelta (packed : UInt32) : Option ConsumerPanDelta :=
  let (x, y) := unpackPanLanes packed
  if x = 0 ∧ y = 0 then none else some ⟨x, y⟩

end Lanes

section System

def Mapping.setPan (m : Mapping) (word : UInt32) : Mapping :=
  { m with word32 := Function.update m.word32 consumerPanWord word }

def submitPanDelta (m : Mapping) (rasterDeltaX rasterDeltaY : Float32) : Bool × Mapping :=
  match encodePanDelta rasterDeltaX rasterDeltaY with
  | none => (false, m)
  | some delta => (true, m.setPan (accumulatePackedPan (m.word32 consumerPanWord) delta))

def takeConsumerPanDelta (m : Mapping) : Option ConsumerPanDelta × Mapping :=
  if !headerCompatible m then (none, m)
  else (decodePanDelta (m.word32 consumerPanWord), m.setPan 0)

/-- The calls on the pan word, each one atomic access, and changes of the rest of the mapping. -/
inductive PanOp
  | submit (rasterDeltaX rasterDeltaY : Float32)
  | take
  | elsewhere (mapping : Mapping)

inductive PanOutput
  | submitted (accepted : Bool)
  | drained (delta : Option ConsumerPanDelta)
  | silent

def panStep (m : Mapping) : PanOp → PanOutput × Mapping
  | .submit x y => (.submitted (submitPanDelta m x y).1, (submitPanDelta m x y).2)
  | .take => (.drained (takeConsumerPanDelta m).1, (takeConsumerPanDelta m).2)
  | .elsewhere mapping => (.silent, mapping.setPan (m.word32 consumerPanWord))

abbrev PanTransition := Transition Mapping PanOp PanOutput

inductive PanAxis
  | x
  | y
deriving DecidableEq

def PanAxis.of (axis : PanAxis) (pair : α × α) : α :=
  match axis with
  | .x => pair.1
  | .y => pair.2

def pendingUnits (axis : PanAxis) (m : Mapping) : Int16 :=
  axis.of (unpackPanLanes (m.word32 consumerPanWord))

/-- What one axis sees of a call. -/
inductive LaneOp
  | add (units : Int16)
  | drain
  | idle

def laneStep (pending : Int16) : LaneOp → Int16 × Int16
  | .add units => (0, saturatingAddInt16 pending units)
  | .drain => (pending, 0)
  | .idle => (0, pending)

def laneOp (axis : PanAxis) (t : PanTransition) : LaneOp :=
  match t.input with
  | .submit x y => if x.isFinite && y.isFinite then .add (quantize (axis.of (x, y))) else .idle
  | .take => if headerCompatible t.pre then .drain else .idle
  | .elsewhere _ => .idle

def drainedUnits (axis : PanAxis) (t : PanTransition) : Int :=
  match t.output with
  | .drained (some delta) => (axis.of (delta.unitsX, delta.unitsY)).toInt
  | _ => 0

def submittedUnits (axis : PanAxis) (t : PanTransition) : Int :=
  match t.input, t.output with
  | .submit x y, .submitted true => (quantize (axis.of (x, y))).toInt
  | _, _ => 0

/-- The units submitted do not fit into the lane beside those that are pending. -/
def SaturatesLane (axis : PanAxis) (t : PanTransition) : Prop :=
  ¬(-2 ^ 15 ≤ (pendingUnits axis t.pre).toInt + submittedUnits axis t ∧
    (pendingUnits axis t.pre).toInt + submittedUnits axis t < 2 ^ 15)

section Steps
variable {m : Mapping} {axis : PanAxis}

theorem setPan_pan (m : Mapping) (word : UInt32) :
    (m.setPan word).word32 consumerPanWord = word := by
  unfold Mapping.setPan
  exact Function.update_self consumerPanWord word m.word32

theorem pendingUnits_accumulate (axis : PanAxis) (current : UInt32) (x y : Int16) :
    axis.of (unpackPanLanes (accumulatePackedPan current (packPanLanes x y))) =
      saturatingAddInt16 (axis.of (unpackPanLanes current)) (axis.of (x, y)) := by
  rw [accumulatePackedPan, unpackPanLanes_packPanLanes, unpackPanLanes_packPanLanes]
  cases axis <;> rfl

theorem saturatingAddInt16_zero (a : Int16) : saturatingAddInt16 a 0 = a := by
  have hlow := a.le_toInt
  have hhigh := a.toInt_lt
  apply Int16.toInt_inj.1
  rw [saturatingAddInt16, Int16.toInt_zero, Int.add_zero, int16OfInt_toInt ⟨hlow, hhigh⟩]

theorem decodePanDelta_units (axis : PanAxis) (packed : UInt32) :
    (match decodePanDelta packed with
      | some delta => (axis.of (delta.unitsX, delta.unitsY)).toInt
      | none => 0) = (axis.of (unpackPanLanes packed)).toInt := by
  unfold decodePanDelta
  dsimp only
  by_cases hzero : (unpackPanLanes packed).1 = 0 ∧ (unpackPanLanes packed).2 = 0
  · obtain ⟨hx, hy⟩ := hzero
    rw [if_pos ⟨hx, hy⟩]
    cases axis
    · exact (congrArg Int16.toInt hx).symm
    · exact (congrArg Int16.toInt hy).symm
  · rw [if_neg hzero]

theorem encodePanDelta_cases (x y : Float32) :
    ((x.isFinite && y.isFinite) = false ∧ encodePanDelta x y = none) ∨
      (x.isFinite && y.isFinite) = true ∧
        ((quantize x = 0 ∧ quantize y = 0 ∧ encodePanDelta x y = none) ∨
          encodePanDelta x y = some (packPanLanes (quantize x) (quantize y))) := by
  unfold encodePanDelta
  rw [← Bool.not_and]
  cases x.isFinite && y.isFinite with
  | false => exact .inl ⟨rfl, rfl⟩
  | true =>
    right
    by_cases hzero : quantize x = 0 ∧ quantize y = 0
    · exact ⟨rfl, .inl ⟨hzero.1, hzero.2, if_pos hzero⟩⟩
    · exact ⟨rfl, .inr (if_neg hzero)⟩

theorem takeConsumerPanDelta_lane (axis : PanAxis) (m : Mapping) :
    pendingUnits axis (panStep m .take).2 =
        (laneStep (pendingUnits axis m) (laneOp axis (transition panStep m .take))).2 ∧
      drainedUnits axis (transition panStep m .take) =
        (laneStep (pendingUnits axis m) (laneOp axis (transition panStep m .take))).1.toInt := by
  by_cases hc : headerCompatible m = true
  · have hop : laneOp axis (transition panStep m .take) = .drain := if_pos hc
    have htake : takeConsumerPanDelta m =
        (decodePanDelta (m.word32 consumerPanWord), m.setPan 0) := by
      rw [takeConsumerPanDelta, hc]
      rfl
    rw [hop]
    constructor
    · change axis.of (unpackPanLanes ((takeConsumerPanDelta m).2.word32 consumerPanWord)) = 0
      rw [htake, setPan_pan]
      cases axis <;> rfl
    · rw [drainedUnits]
      change (match PanOutput.drained (takeConsumerPanDelta m).1 with
        | .drained (some delta) => (axis.of (delta.unitsX, delta.unitsY)).toInt
        | _ => 0) = (pendingUnits axis m).toInt
      rw [htake, pendingUnits, ← decodePanDelta_units]
      cases decodePanDelta (m.word32 consumerPanWord) <;> rfl
  · have hop : laneOp axis (transition panStep m .take) = .idle := if_neg hc
    have htake : takeConsumerPanDelta m = (none, m) := by
      rw [takeConsumerPanDelta, Bool.eq_false_of_not_eq_true hc]
      rfl
    rw [hop, panStep, drainedUnits]
    simp only [transition, panStep, htake]
    exact ⟨rfl, rfl⟩

theorem submitPanDelta_lane (axis : PanAxis) (m : Mapping) (x y : Float32) :
    pendingUnits axis (submitPanDelta m x y).2 =
      (laneStep (pendingUnits axis m) (laneOp axis (transition panStep m (.submit x y)))).2 := by
  unfold submitPanDelta
  rcases encodePanDelta_cases x y with ⟨hf, he⟩ | ⟨hf, ⟨hx, hy, he⟩ | he⟩
  · have hop : laneOp axis (transition panStep m (.submit x y)) = .idle := by
      simp only [laneOp, transition, hf, Bool.false_eq_true, if_false]
    rw [hop, he]
    rfl
  · have hop : laneOp axis (transition panStep m (.submit x y)) = .add 0 := by
      simp only [laneOp, transition, hf, if_true]
      cases axis
      · exact congrArg LaneOp.add hx
      · exact congrArg LaneOp.add hy
    rw [hop, he]
    exact (saturatingAddInt16_zero _).symm
  · have hop : laneOp axis (transition panStep m (.submit x y)) =
        .add (axis.of (quantize x, quantize y)) := by
      simp only [laneOp, transition, hf, if_true]
      cases axis <;> rfl
    rw [hop, he, pendingUnits, setPan_pan, pendingUnits_accumulate]
    rfl

theorem panStep_lane (axis : PanAxis) (m : Mapping) (op : PanOp) :
    pendingUnits axis (panStep m op).2 =
        (laneStep (pendingUnits axis m) (laneOp axis (transition panStep m op))).2 ∧
      drainedUnits axis (transition panStep m op) =
        (laneStep (pendingUnits axis m) (laneOp axis (transition panStep m op))).1.toInt := by
  cases op with
  | elsewhere mapping =>
    refine ⟨?_, rfl⟩
    change axis.of (unpackPanLanes ((mapping.setPan _).word32 consumerPanWord)) = _
    rw [setPan_pan]
    rfl
  | take => exact takeConsumerPanDelta_lane axis m
  | submit x y =>
    refine ⟨submitPanDelta_lane axis m x y, ?_⟩
    simp only [laneOp, transition]
    split <;> rfl

def LaneOp.units : LaneOp → Int
  | .add units => units.toInt
  | .drain | .idle => 0

theorem submittedUnits_eq (axis : PanAxis) (m : Mapping) (op : PanOp) :
    submittedUnits axis (transition panStep m op) =
      (laneOp axis (transition panStep m op)).units := by
  cases op with
  | elsewhere => rfl
  | take =>
    change 0 = (if headerCompatible m = true then LaneOp.drain else .idle).units
    split <;> rfl
  | submit x y =>
    simp only [submittedUnits, laneOp, transition, panStep, submitPanDelta]
    rcases encodePanDelta_cases x y with ⟨hf, he⟩ | ⟨hf, ⟨hx, hy, he⟩ | he⟩
    · rw [hf, he]
      rfl
    · rw [hf, he]
      cases axis
      · exact (congrArg Int16.toInt hx).symm
      · exact (congrArg Int16.toInt hy).symm
    · rw [hf, he]
      rfl

theorem panStep_conserves (axis : PanAxis) (m : Mapping) (op : PanOp)
    (h : ¬SaturatesLane axis (transition panStep m op)) :
    drainedUnits axis (transition panStep m op) + (pendingUnits axis (panStep m op).2).toInt =
      (pendingUnits axis m).toInt + submittedUnits axis (transition panStep m op) := by
  obtain ⟨hpending, hdrained⟩ := panStep_lane axis m op
  have hfits := not_not.1 h
  change -2 ^ 15 ≤ (pendingUnits axis m).toInt + submittedUnits axis (transition panStep m op) ∧
    (pendingUnits axis m).toInt + submittedUnits axis (transition panStep m op) < 2 ^ 15 at hfits
  rw [submittedUnits_eq] at hfits ⊢
  rw [hpending, hdrained]
  cases hop : laneOp axis (transition panStep m op) with
  | add units =>
    rw [hop] at hfits
    change Int16.toInt 0 + (saturatingAddInt16 (pendingUnits axis m) units).toInt = _ + units.toInt
    have hsum : (saturatingAddInt16 (pendingUnits axis m) units).toInt =
        (pendingUnits axis m).toInt + units.toInt := int16OfInt_toInt hfits
    rw [hsum, Int16.toInt_zero, Int.zero_add]
  | drain => exact congrArg ((pendingUnits axis m).toInt + ·) Int16.toInt_zero
  | idle =>
    change Int16.toInt 0 + (pendingUnits axis m).toInt = _ + 0
    rw [Int16.toInt_zero, Int.zero_add, Int.add_zero]

theorem pendingUnits_run (axis : PanAxis) (m : Mapping) (ops : List PanOp) :
    pendingUnits axis (run panStep m ops) =
        run laneStep (pendingUnits axis m) ((trace panStep m ops).map (laneOp axis)) ∧
      (trace panStep m ops).map (drainedUnits axis) =
        (trace laneStep (pendingUnits axis m) ((trace panStep m ops).map (laneOp axis))).map
          fun t => t.output.toInt := by
  induction ops generalizing m with
  | nil => exact ⟨rfl, rfl⟩
  | cons op ops ih =>
    obtain ⟨hpending, hdrained⟩ := panStep_lane axis m op
    obtain ⟨hrun, htrace⟩ := ih (panStep m op).2
    simp only [run_cons, trace_cons, List.map_cons]
    rw [← hpending]
    exact ⟨hrun, congrArg₂ List.cons hdrained htrace⟩

theorem units_conserved (axis : PanAxis) (m : Mapping) (ops : List PanOp)
    (h : ∀ t ∈ trace panStep m ops, ¬SaturatesLane axis t) :
    ((trace panStep m ops).map (drainedUnits axis)).sum +
        (pendingUnits axis (run panStep m ops)).toInt =
      (pendingUnits axis m).toInt + ((trace panStep m ops).map (submittedUnits axis)).sum := by
  induction ops generalizing m with
  | nil => exact Int.add_comm _ _
  | cons op ops ih =>
    obtain ⟨hfirst, hrest⟩ := List.forall_mem_cons.1 h
    have hstep := panStep_conserves axis m op hfirst
    have htail := ih (panStep m op).2 hrest
    simp only [run_cons, trace_cons, List.map_cons, List.sum_cons]
    omega

end Steps

/-- The lanes of a word are two numbers of their own: after any calls each axis is where its own
units have brought it, and has given away and kept what it was given, unless it was full. -/
theorem pan_lanes_conserved :
    (∀ packed, packPanLanes (unpackPanLanes packed).1 (unpackPanLanes packed).2 = packed) ∧
    (∀ x y, unpackPanLanes (packPanLanes x y) = (x, y)) ∧
    ∀ (axis : PanAxis) (m : Mapping) (ops : List PanOp),
      (pendingUnits axis (run panStep m ops) =
          run laneStep (pendingUnits axis m) ((trace panStep m ops).map (laneOp axis)) ∧
        (trace panStep m ops).map (drainedUnits axis) =
          (trace laneStep (pendingUnits axis m) ((trace panStep m ops).map (laneOp axis))).map
            fun t => t.output.toInt) ∧
      ((∀ t ∈ trace panStep m ops, ¬SaturatesLane axis t) →
        ((trace panStep m ops).map (drainedUnits axis)).sum +
            (pendingUnits axis (run panStep m ops)).toInt =
          (pendingUnits axis m).toInt + ((trace panStep m ops).map (submittedUnits axis)).sum) :=
  ⟨packPanLanes_unpackPanLanes, unpackPanLanes_packPanLanes,
    fun axis m ops => ⟨pendingUnits_run axis m ops, units_conserved axis m ops⟩⟩

end System

end PalBeacon.Bridge
