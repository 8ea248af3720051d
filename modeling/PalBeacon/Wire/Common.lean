import PalBeacon.Lib.Canonical
import PalBeacon.Lib.Check
import PalBeacon.Lib.Text

namespace PalBeacon.Wire
open PalBeacon.Lib
set_option autoImplicit true

inductive ProjectionSectionKind where
  | unspecified
  | character
  | inventory
  | equipment
  | pals
  | bases
  | progression
deriving DecidableEq, Repr

def ProjectionSectionKind.toWire : ProjectionSectionKind → Int32
  | .unspecified => 0
  | .character => 1
  | .inventory => 2
  | .equipment => 3
  | .pals => 4
  | .bases => 5
  | .progression => 6

inductive CanonicalError where
  | missingField (field : String)
  | invalidLength (field : String) (expected actual : Nat)
  | invalidTextId (field : String)
  | invalidEnum (field : String) (value : Int32)
  | invalidValue (field reason : String)
  | tooManyEntries (field : String) (maximum actual : Nat)
  | duplicateSemanticKey (field : String) (stableKey : List UInt8)
  | integerOverflow (field : String)
  | contentTooLarge (encodedLength maximum : Nat)
  | projectionEntryTooLarge (kind : ProjectionSectionKind) (stableKey : List UInt8)
      (encodedLength : Nat)
  | tooManyProjectionPages (actual maximum : Nat)
  | projectionTransportTooLarge (encodedLength maximum : Nat)
deriving DecidableEq

def maxCanonicalContentLen : Nat := 134217728
def maxInventoryEntries : Nat := 100000
def maxEquipmentEntries : Nat := 256
def maxPalEntries : Nat := 10000
def maxPassiveIdsPerPal : Nat := 64
def maxActiveSkillIdsPerPal : Nat := 256
def maxBaseEntries : Nat := 256

def required (value : Option α) (field : String) : Except CanonicalError α :=
  match value with
  | some value => .ok value
  | none => .error (.missingField field)

def validateLen (field : String) (value : List UInt8) (expected : Nat) :
    Except CanonicalError Unit :=
  ensure (value.length = expected) (.invalidLength field expected value.length)

/-- The texts accepted as identifiers; none of their characters is one that trimming removes. -/
def isTextId (value : String) : Bool :=
  !value.isEmpty && value.utf8ByteSize ≤ 128 && isAscii value &&
    (utf8 value).all fun byte =>
      isAsciiAlphanumeric byte || byte = 95 || byte = 45 || byte = 46 || byte = 58

def validateTextId (field value : String) : Except CanonicalError Unit :=
  ensure (isTextId value) (.invalidTextId field)

def validateTextIds (field : String) (values : List String) : Except CanonicalError Unit :=
  checkEach (validateTextId field) values

def checkCount (field : String) (actual maximum : Nat) : Except CanonicalError Unit :=
  ensure (actual ≤ maximum) (.tooManyEntries field maximum actual)

def checkContentLength (encodedLength : Nat) : Except CanonicalError Unit :=
  ensure (encodedLength ≤ maxCanonicalContentLen)
    (.contentTooLarge encodedLength maxCanonicalContentLen)

def toBeBytes (value : UInt32) : List UInt8 :=
  [(value >>> 24).toUInt8, (value >>> 16).toUInt8, (value >>> 8).toUInt8, value.toUInt8]

def inventoryKey (containerKind : Int32) (containerOrdinal slotIndex : UInt32) : List UInt8 :=
  toBeBytes containerKind.toUInt32 ++ toBeBytes containerOrdinal ++ toBeBytes slotIndex

def equipmentKey (slotKind : Int32) (slotIndex : UInt32) : List UInt8 :=
  toBeBytes slotKind.toUInt32 ++ toBeBytes slotIndex

def palLocationKey (containerKind : Int32) (containerOrdinal slotIndex : UInt32)
    (baseId : Option (List UInt8)) : List UInt8 :=
  toBeBytes containerKind.toUInt32 ++ toBeBytes containerOrdinal ++ toBeBytes slotIndex ++
    match baseId with
    | some value => 1 :: value
    | none => [0]

def progressionKey (kind : Int32) (unlockId : String) : List UInt8 :=
  toBeBytes kind.toUInt32 ++ 0 :: utf8 unlockId

def nonzeroEnum (field : String) (value : Int32) (parse : Int32 → Option α) :
    Except CanonicalError α :=
  if value = 0 then .error (.invalidEnum field value)
  else
    match parse value with
    | some kind => .ok kind
    | none => .error (.invalidEnum field value)

theorem nonzeroEnum_eq_ok {parse : Int32 → Option α}
    (h : nonzeroEnum field value parse = .ok kind) :
    parse value = some kind := by
  unfold nonzeroEnum at h
  split at h
  · cases h
  · split at h
    · next hk =>
      cases h
      exact hk
    · cases h

inductive SnapshotCompleteness where
  | unspecified
  | complete
  | partialRecords
  | unavailable
  | unknown
deriving DecidableEq, Repr

def SnapshotCompleteness.tryFrom (value : Int32) : Option SnapshotCompleteness :=
  match value with
  | 0 => some .unspecified
  | 1 => some .complete
  | 2 => some .partialRecords
  | 3 => some .unavailable
  | 4 => some .unknown
  | _ => none

inductive SnapshotSectionKind where
  | unspecified
  | character
  | inventory
  | equipment
  | pals
  | bases
  | progression
deriving DecidableEq, Repr

def SnapshotSectionKind.tryFrom (value : Int32) : Option SnapshotSectionKind :=
  match value with
  | 0 => some .unspecified
  | 1 => some .character
  | 2 => some .inventory
  | 3 => some .equipment
  | 4 => some .pals
  | 5 => some .bases
  | 6 => some .progression
  | _ => none

inductive InventoryContainerKind where
  | unspecified
  | character
  | paldeck
  | base
deriving DecidableEq, Repr

def InventoryContainerKind.tryFrom (value : Int32) : Option InventoryContainerKind :=
  match value with
  | 0 => some .unspecified
  | 1 => some .character
  | 2 => some .paldeck
  | 3 => some .base
  | _ => none

inductive EquipmentSlotKind where
  | unspecified
  | weapon
  | helmet
  | armor
  | glider
  | accessory
deriving DecidableEq, Repr

def EquipmentSlotKind.tryFrom (value : Int32) : Option EquipmentSlotKind :=
  match value with
  | 0 => some .unspecified
  | 1 => some .weapon
  | 2 => some .helmet
  | 3 => some .armor
  | 4 => some .glider
  | 5 => some .accessory
  | _ => none

inductive PalContainerKind where
  | unspecified
  | party
  | palbox
  | base
  | viewingCage
deriving DecidableEq, Repr

def PalContainerKind.tryFrom (value : Int32) : Option PalContainerKind :=
  match value with
  | 0 => some .unspecified
  | 1 => some .party
  | 2 => some .palbox
  | 3 => some .base
  | 4 => some .viewingCage
  | _ => none

def palContainerKindBase : Int32 := 3

def snapshotCompleteness (field : String) (value : Int32) :
    Except CanonicalError SnapshotCompleteness :=
  nonzeroEnum field value SnapshotCompleteness.tryFrom

def snapshotSectionKind (field : String) (value : Int32) :
    Except CanonicalError SnapshotSectionKind :=
  nonzeroEnum field value SnapshotSectionKind.tryFrom

def inventoryContainerKind (field : String) (value : Int32) :
    Except CanonicalError InventoryContainerKind :=
  nonzeroEnum field value InventoryContainerKind.tryFrom

def equipmentSlotKind (field : String) (value : Int32) :
    Except CanonicalError EquipmentSlotKind :=
  nonzeroEnum field value EquipmentSlotKind.tryFrom

def palContainerKind (field : String) (value : Int32) : Except CanonicalError PalContainerKind :=
  nonzeroEnum field value PalContainerKind.tryFrom

def validateBaseLocation (field : String) (containerKind : Int32)
    (baseId : Option (List UInt8)) : Except CanonicalError Unit :=
  if containerKind = palContainerKindBase then do
    let baseId ← required baseId field
    validateLen field baseId 16
  else ensure baseId.isNone
    (.invalidValue field "base_id is allowed only for a base-assigned Pal")

/-- Summing the rows of one list of a base; the error is the only one a sum can raise. -/
def sumRowsOr (w : Nat) (field : String) (rows : List (String × Nat)) :
    Except CanonicalError (List (String × Nat)) :=
  match sumRows w rows with
  | some sums => .ok sums.toList
  | none => .error (.integerOverflow field)

end PalBeacon.Wire
