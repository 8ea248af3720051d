import PalBeacon.Lib.Text

namespace PalBeacon.Lib
set_option autoImplicit true

def varintBytes : Nat → Nat → List UInt8
  | 0, _ => []
  | fuel + 1, n =>
    if n < 128 then [.ofNat n] else .ofNat (n % 128 + 128) :: varintBytes fuel (n / 128)

/-- A number in groups of seven bits, the lowest first, each but the last one marked. -/
def varint (n : Nat) : List UInt8 := varintBytes (n + 1) n

theorem ofNat_inj_of_lt (ha : a < 256) (hb : b < 256) (h : UInt8.ofNat a = UInt8.ofNat b) :
    a = b := by
  have he := congrArg UInt8.toNat h
  rwa [UInt8.toNat_ofNat_of_lt' ha, UInt8.toNat_ofNat_of_lt' hb] at he

theorem varintBytes_append_inj (hn : n < fuel) (hn' : n' < fuel')
    (h : varintBytes fuel n ++ r = varintBytes fuel' n' ++ r') : n = n' ∧ r = r' := by
  induction fuel generalizing n n' fuel' with
  | zero => exact absurd hn (Nat.not_lt_zero n)
  | succ fuel ih =>
    cases fuel' with
    | zero => exact absurd hn' (Nat.not_lt_zero n')
    | succ fuel' =>
      rw [varintBytes, varintBytes] at h
      by_cases hs : n < 128
      · by_cases hs' : n' < 128
        · rw [if_pos hs, if_pos hs', List.singleton_append, List.singleton_append,
            List.cons.injEq] at h
          exact ⟨ofNat_inj_of_lt (by omega) (by omega) h.1, h.2⟩
        · rw [if_pos hs, if_neg hs', List.singleton_append, List.cons_append, List.cons.injEq] at h
          have he := ofNat_inj_of_lt (by omega) (by omega) h.1
          omega
      · by_cases hs' : n' < 128
        · rw [if_neg hs, if_pos hs', List.singleton_append, List.cons_append, List.cons.injEq] at h
          have he := ofNat_inj_of_lt (by omega) (by omega) h.1
          omega
        · rw [if_neg hs, if_neg hs', List.cons_append, List.cons_append, List.cons.injEq] at h
          have hlow := ofNat_inj_of_lt (by omega) (by omega) h.1
          obtain ⟨hhigh, hr⟩ := ih (by omega) (by omega) h.2
          exact ⟨by omega, hr⟩

theorem varint_append_inj (h : varint n ++ r = varint n' ++ r') : n = n' ∧ r = r' :=
  varintBytes_append_inj (Nat.lt_succ_self n) (Nat.lt_succ_self n') h

theorem varint_ne_nil (n : Nat) : varint n ≠ [] := by
  rw [varint, varintBytes]
  split
  · exact List.cons_ne_nil _ _
  · exact List.cons_ne_nil _ _

/-- A value of a field on the wire: a number, or bytes with their length. -/
inductive WireValue where
  | number (n : Nat)
  | bytes (b : List UInt8)
deriving DecidableEq

def WireValue.wireType : WireValue → Nat
  | .number _ => 0
  | .bytes _ => 2

def WireValue.payload : WireValue → List UInt8
  | .number n => varint n
  | .bytes b => varint b.length ++ b

def encodeRecord (record : Nat × WireValue) : List UInt8 :=
  varint (record.1 * 8 + record.2.wireType) ++ record.2.payload

theorem encodeRecord_append_inj (h : encodeRecord x ++ r = encodeRecord x' ++ r') :
    x = x' ∧ r = r' := by
  obtain ⟨number, value⟩ := x
  obtain ⟨number', value'⟩ := x'
  simp only [encodeRecord, List.append_assoc] at h
  obtain ⟨htag, h⟩ := varint_append_inj h
  cases value with
  | number n =>
    cases value' with
    | number n' =>
      obtain ⟨rfl, hr⟩ := varint_append_inj h
      have hnumber : number = number' := by
        simp only [WireValue.wireType] at htag
        omega
      exact ⟨by rw [hnumber], hr⟩
    | bytes b' =>
      simp only [WireValue.wireType] at htag
      omega
  | bytes b =>
    cases value' with
    | number n' =>
      simp only [WireValue.wireType] at htag
      omega
    | bytes b' =>
      simp only [WireValue.payload, List.append_assoc] at h
      obtain ⟨hlength, h⟩ := varint_append_inj h
      obtain ⟨rfl, hr⟩ := List.append_inj h hlength
      have hnumber : number = number' := by
        simp only [WireValue.wireType] at htag
        omega
      exact ⟨by rw [hnumber], hr⟩

theorem encodeRecord_ne_nil (record : Nat × WireValue) : encodeRecord record ≠ [] := by
  intro h
  exact varint_ne_nil _ (List.append_eq_nil_iff.1 h).1

theorem flatMap_encodeRecord_inj {records records' : List (Nat × WireValue)}
    (h : records.flatMap encodeRecord = records'.flatMap encodeRecord) : records = records' := by
  induction records generalizing records' with
  | nil =>
    cases records' with
    | nil => rfl
    | cons x' rest' =>
      rw [List.flatMap_nil, List.flatMap_cons] at h
      exact absurd (List.append_eq_nil_iff.1 h.symm).1 (encodeRecord_ne_nil x')
  | cons x rest ih =>
    cases records' with
    | nil =>
      rw [List.flatMap_nil, List.flatMap_cons] at h
      exact absurd (List.append_eq_nil_iff.1 h).1 (encodeRecord_ne_nil x)
    | cons x' rest' =>
      rw [List.flatMap_cons, List.flatMap_cons] at h
      obtain ⟨rfl, hrest⟩ := encodeRecord_append_inj h
      rw [ih hrest]

/-- The fields of a message, by number, each with the values it puts on the wire. -/
abbrev Fields := List (Nat × List WireValue)

def Fields.records (fields : Fields) : List (Nat × WireValue) :=
  fields.flatMap fun field => field.2.map (Prod.mk field.1)

def encodeFields (fields : Fields) : List UInt8 := fields.records.flatMap encodeRecord

theorem Fields.fst_mem_of_mem_records {fields : Fields} (h : record ∈ fields.records) :
    record.1 ∈ fields.map Prod.fst := by
  obtain ⟨field, hf, hr⟩ := List.mem_flatMap.1 h
  obtain ⟨value, -, rfl⟩ := List.mem_map.1 hr
  exact List.mem_map_of_mem hf

theorem filter_records_of_absent {fields : Fields} (h : number ∉ fields.map Prod.fst) :
    fields.records.filter (fun record => record.1 = number) = [] := by
  apply List.filter_eq_nil_iff.2
  intro record hr he
  rw [← of_decide_eq_true he] at h
  exact h (Fields.fst_mem_of_mem_records hr)

theorem Fields.records_inj {fields fields' : Fields}
    (hnumbers : fields.map Prod.fst = fields'.map Prod.fst) (hn : (fields.map Prod.fst).Nodup)
    (h : fields.records = fields'.records) : fields = fields' := by
  induction fields generalizing fields' with
  | nil =>
    cases fields' with
    | nil => rfl
    | cons _ _ => cases hnumbers
  | cons field rest ih =>
    cases fields' with
    | nil => cases hnumbers
    | cons field' rest' =>
      obtain ⟨number, values⟩ := field
      obtain ⟨number', values'⟩ := field'
      obtain ⟨rfl, hrest⟩ := List.cons.inj hnumbers
      obtain ⟨hfresh, hn⟩ := List.nodup_cons.1 hn
      have hfresh' : number ∉ rest'.map Prod.fst := by
        rw [← hrest]
        exact hfresh
      have hself (values : List WireValue) : (values.map (Prod.mk number)).filter
          (fun record => record.1 = number) = values.map (Prod.mk number) := by
        apply List.filter_eq_self.2
        intro record hr
        obtain ⟨value, -, rfl⟩ := List.mem_map.1 hr
        exact decide_eq_true rfl
      have hsplit (values : List WireValue) (rest : Fields) :
          Fields.records ((number, values) :: rest) = values.map (Prod.mk number) ++ rest.records :=
        rfl
      rw [hsplit, hsplit] at h
      have hvalues := congrArg (List.filter fun record => record.1 = number) h
      rw [List.filter_append, List.filter_append, hself, hself, filter_records_of_absent hfresh,
        filter_records_of_absent hfresh', List.append_nil, List.append_nil] at hvalues
      have hvalues' : values = values' :=
        List.map_injective_iff.2 (Prod.mk_right_injective number) hvalues
      rw [hvalues'] at h
      rw [hvalues', ih hrest hn (List.append_cancel_left h)]

theorem encodeFields_injective {toFields : α → Fields} (numbers : List Nat) (hn : numbers.Nodup)
    (hnumbers : ∀ m, (toFields m).map Prod.fst = numbers) (hinj : Function.Injective toFields) :
    Function.Injective fun m => encodeFields (toFields m) := by
  intro m m' h
  apply hinj
  apply Fields.records_inj
  · rw [hnumbers, hnumbers]
  · rw [hnumbers]
    exact hn
  · exact flatMap_encodeRecord_inj h

def valueUInt32 (v : UInt32) : WireValue := .number v.toNat

def valueUInt64 (v : UInt64) : WireValue := .number v.toNat

def valueEnum (v : Int32) : WireValue := .number v.toInt64.toUInt64.toNat

def valueBool (v : Bool) : WireValue := .number v.toNat

def valueString (v : String) : WireValue := .bytes (utf8 v)

def valueMessage (encode : α → List UInt8) (v : α) : WireValue := .bytes (encode v)

def fieldScalar [DecidableEq α] (default : α) (value : α → WireValue) (v : α) : List WireValue :=
  if v = default then [] else [value v]

def fieldOptional (value : α → WireValue) (v : Option α) : List WireValue := (v.map value).toList

def fieldRepeated (value : α → WireValue) (v : List α) : List WireValue := v.map value

theorem valueUInt32_injective : Function.Injective valueUInt32 := by
  intro v v' h
  exact UInt32.toNat_inj.1 (WireValue.number.inj h)

theorem valueUInt64_injective : Function.Injective valueUInt64 := by
  intro v v' h
  exact UInt64.toNat_inj.1 (WireValue.number.inj h)

theorem valueEnum_injective : Function.Injective valueEnum := by
  intro v v' h
  have h64 : v.toInt64.toUInt64 = v'.toInt64.toUInt64 :=
    UInt64.toNat_inj.1 (WireValue.number.inj h)
  have hint : v.toInt64.toInt = v'.toInt64.toInt := by
    rw [Int64.toInt, Int64.toInt, Int64.toBitVec, Int64.toBitVec, h64]
  rw [Int32.toInt_toInt64, Int32.toInt_toInt64] at hint
  exact Int32.toInt_inj.1 hint

theorem valueBool_injective : Function.Injective valueBool := by
  decide

theorem valueString_injective : Function.Injective valueString := by
  intro v v' h
  exact utf8_inj.1 (WireValue.bytes.inj h)

theorem valueBytes_injective : Function.Injective WireValue.bytes := by
  intro v v' h
  exact WireValue.bytes.inj h

theorem valueMessage_injective {encode : α → List UInt8} (h : Function.Injective encode) :
    Function.Injective (valueMessage encode) := by
  intro v v' he
  exact h (WireValue.bytes.inj he)

theorem fieldScalar_inj [DecidableEq α] {default v v' : α} {value : α → WireValue}
    (hv : Function.Injective value) :
    fieldScalar default value v = fieldScalar default value v' ↔ v = v' := by
  unfold fieldScalar
  split
  · next h =>
    split
    · next h' => exact ⟨fun _ => h.trans h'.symm, fun _ => rfl⟩
    · next h' => exact ⟨fun he => (nomatch he), fun he => absurd (he.symm.trans h) h'⟩
  · next h =>
    split
    · next h' => exact ⟨fun he => (nomatch he), fun he => absurd (he.trans h') h⟩
    · exact ⟨fun he => hv (List.cons.inj he).1, fun he => by rw [he]⟩

theorem fieldOptional_inj {v v' : Option α} {value : α → WireValue}
    (hv : Function.Injective value) :
    fieldOptional value v = fieldOptional value v' ↔ v = v' := by
  unfold fieldOptional
  cases v with
  | none =>
    cases v' with
    | none => exact ⟨fun _ => rfl, fun _ => rfl⟩
    | some b => exact ⟨fun h => (nomatch h), fun h => nomatch h⟩
  | some a =>
    cases v' with
    | none => exact ⟨fun h => (nomatch h), fun h => nomatch h⟩
    | some b =>
      constructor
      · intro h
        rw [hv (List.cons.inj h).1]
      · intro h
        rw [h]

theorem fieldRepeated_inj {v v' : List α} {value : α → WireValue} (hv : Function.Injective value) :
    fieldRepeated value v = fieldRepeated value v' ↔ v = v' := by
  unfold fieldRepeated
  rw [(List.map_injective_iff.2 hv).eq_iff]

def fieldUInt32 : UInt32 → List WireValue := fieldScalar 0 valueUInt32

def fieldUInt64 : UInt64 → List WireValue := fieldScalar 0 valueUInt64

def fieldEnum : Int32 → List WireValue := fieldScalar 0 valueEnum

def fieldBool : Bool → List WireValue := fieldScalar false valueBool

def fieldString : String → List WireValue := fieldScalar "" valueString

def fieldBytes : List UInt8 → List WireValue := fieldScalar [] .bytes

@[simp] theorem fieldUInt32_inj : fieldUInt32 v = fieldUInt32 v' ↔ v = v' :=
  fieldScalar_inj valueUInt32_injective

@[simp] theorem fieldUInt64_inj : fieldUInt64 v = fieldUInt64 v' ↔ v = v' :=
  fieldScalar_inj valueUInt64_injective

@[simp] theorem fieldEnum_inj : fieldEnum v = fieldEnum v' ↔ v = v' :=
  fieldScalar_inj valueEnum_injective

@[simp] theorem fieldBool_inj : fieldBool v = fieldBool v' ↔ v = v' :=
  fieldScalar_inj valueBool_injective

@[simp] theorem fieldString_inj : fieldString v = fieldString v' ↔ v = v' :=
  fieldScalar_inj valueString_injective

@[simp] theorem fieldBytes_inj : fieldBytes v = fieldBytes v' ↔ v = v' :=
  fieldScalar_inj valueBytes_injective

end PalBeacon.Lib
