import WapitiStew.Framework.Throwing
import WapitiStew.Spec.Wse.License

/-!
# What each license function does

One lemma a function: from which state it ends with which value or exception,
and whether a vector was indexed behind its end on the way (`touch`).

* `xorLoop_run`: the keyed loop computes `keyed`, and is outside exactly if the
  key is empty and the data is not.
* `analyzeLicence_run`: the analyzer, case by case.
* `load_run`: a load is its analysis, followed by the commit.
-/

namespace WSE.Proof.Wse

open WSE.Framework WSE.Impl.Wse WSE.Spec.Wse

/-- The state after reads that were outside if `p`. -/
def touch (s : LicenseState) (p : Bool) : LicenseState := { s with outside := s.outside || p }

@[simp] theorem admin_touch (s : LicenseState) (p : Bool) : (touch s p).admin = s.admin := rfl

@[simp] theorem outside_touch (s : LicenseState) (p : Bool) :
    (touch s p).outside = (s.outside || p) := rfl

@[simp] theorem touch_touch (s : LicenseState) (p q : Bool) :
    touch (touch s p) q = touch s (p || q) := by
  simp only [touch, Bool.or_assoc]

@[simp] theorem touch_false (s : LicenseState) : touch s false = s := by
  simp only [touch, Bool.or_false]

section Reads

variable {α : Type} (beyond : Nat → Byte)

theorem index_bind (v : Bytes) (i : Nat) (f : Byte → LicenseM α) (s : LicenseState) :
    (index beyond v i >>= f) s = f (byteAt beyond v i) (touch s (v.length ≤ i)) := rfl

theorem byteAt_of_lt {v : Bytes} {i : Nat} (h : i < v.length) : byteAt beyond v i = v[i] := by
  rw [byteAt, List.getD_eq_getElem?_getD, List.getElem?_eq_getElem h, Option.getD_some]

/-! ## The keyed loop -/

/-- The key byte `j` bytes after the index `keyI`. -/
theorem keyByte_succ {key : Bytes} {keyI : Nat} (h : keyI < key.length) (j : Nat) :
    keyByte beyond key ((if keyI + 1 = key.length then 0 else keyI + 1) + j) =
      keyByte beyond key (keyI + (j + 1)) := by
  have hne : key ≠ [] := List.ne_nil_of_length_pos (by omega)
  rw [keyByte, keyByte, if_neg hne, if_neg hne]
  split
  · rename_i he
    rw [show keyI + (j + 1) = j + key.length by omega, Nat.add_mod_right, Nat.zero_add]
  · rw [show keyI + 1 + j = keyI + (j + 1) by omega]

/-- The loop from a key index in the key. -/
theorem xorLoop_inside {key : Bytes} (data : Bytes) {keyI : Nat} (h : keyI < key.length)
    (s : LicenseState) :
    xorLoop beyond key keyI data s =
      .ok (data.mapIdx fun j d => d ^^^ keyByte beyond key (keyI + j)) s := by
  induction data generalizing keyI with
  | nil => rfl
  | cons d data ih =>
    have hne : key ≠ [] := List.ne_nil_of_length_pos (by omega)
    have hnext : (if keyI + 1 = key.length then 0 else keyI + 1) < key.length := by
      split <;> omega
    have hbyte : byteAt beyond key keyI = keyByte beyond key keyI := by
      rw [keyByte, if_neg hne, Nat.mod_eq_of_lt h]
    have hin : (decide (key.length ≤ keyI)) = false := decide_eq_false (by omega)
    rw [xorLoop, index_bind, hin, touch_false, bind_ok (ih hnext), List.mapIdx_cons, hbyte,
      pure_run]
    simp only [keyByte_succ beyond h, Nat.add_zero]

/-- The loop with the empty key, whose index is never 0 again. -/
theorem xorLoop_outside (data : Bytes) (keyI : Nat) (s : LicenseState) :
    xorLoop beyond [] keyI data s =
      .ok (data.mapIdx fun j d => d ^^^ beyond (keyI + j)) (touch s (data ≠ [])) := by
  induction data generalizing keyI s with
  | nil => simp only [xorLoop, pure_run, List.mapIdx_nil, ne_eq, not_true_eq_false,
      decide_false, touch_false]
  | cons d data ih =>
    have hnext : (if keyI + 1 = ([] : Bytes).length then 0 else keyI + 1) = keyI + 1 :=
      if_neg (by simp)
    rw [xorLoop, index_bind, hnext, bind_ok (ih (keyI + 1) _), List.mapIdx_cons, pure_run,
      touch_touch]
    have hout : (decide (([] : Bytes).length ≤ keyI) || decide (data ≠ [])) =
        decide (d :: data ≠ []) := by simp
    rw [hout]
    simp only [byteAt, List.getD_nil, Nat.add_zero, Nat.add_assoc, Nat.add_comm 1]

/-- The keyed loop from the start of the key. -/
theorem xorLoop_run (key data : Bytes) (s : LicenseState) :
    xorLoop beyond key 0 data s =
      .ok (keyed beyond key data) (touch s (key = [] ∧ data ≠ [])) := by
  by_cases h : key = []
  · subst h
    simp only [xorLoop_outside, keyed, keyByte, Nat.zero_add, true_and, ↓reduceIte]
  · have hpos : 0 < key.length := List.length_pos_iff.mpr h
    simp only [xorLoop_inside beyond data hpos, keyed, Nat.zero_add, h, false_and, decide_false,
      touch_false]

theorem decodeLicense_run (data key : Bytes) (s : LicenseState) :
    decodeLicense beyond data key s =
      .ok (keyed beyond key data) (touch s (key = [] ∧ data ≠ [])) := xorLoop_run beyond key data s

theorem encryptLicense_run (data key : Bytes) (s : LicenseState) :
    encryptLicense beyond data key s =
      .ok (keyed beyond key data) (touch s (key = [] ∧ data ≠ [])) := xorLoop_run beyond key data s

@[simp] theorem length_keyed (key data : Bytes) :
    (keyed beyond key data).length = data.length := List.length_mapIdx

theorem keyed_eq_nil {key data : Bytes} : keyed beyond key data = [] ↔ data = [] := by
  rw [← List.length_eq_zero_iff, length_keyed, List.length_eq_zero_iff]

/-- The transformation undoes itself. -/
theorem keyed_keyed (key data : Bytes) : keyed beyond key (keyed beyond key data) = data := by
  refine List.ext_getElem (by simp) fun i h1 h2 => ?_
  simp only [keyed, List.getElem_mapIdx]
  rw [UInt8.xor_assoc, UInt8.xor_self, UInt8.xor_zero]

/-- What lies behind a key that is not empty does not matter. -/
theorem keyed_beyond {key : Bytes} (h : key ≠ []) (beyond' : Nat → Byte) (data : Bytes) :
    keyed beyond key data = keyed beyond' key data := by
  have hpos : 0 < key.length := List.length_pos_iff.mpr h
  refine List.ext_getElem (by simp) fun i h1 h2 => ?_
  have hi : i % key.length < key.length := Nat.mod_lt i hpos
  simp only [keyed, keyByte, if_neg h, List.getElem_mapIdx, byteAt_of_lt _ hi]

/-! ## The license data -/

/-- The five values of license data. -/
def valuesOf (data : Bytes) : LicenseValues :=
  ⟨⟨byteAt beyond data 0⟩, ⟨byteAt beyond data 1⟩,
    number16 (byteAt beyond data 2) (byteAt beyond data 3),
    number16 (byteAt beyond data 4) (byteAt beyond data 5),
    number32 (byteAt beyond data 6) (byteAt beyond data 7) (byteAt beyond data 8)
      (byteAt beyond data 9)⟩

theorem readValues_run (data : Bytes) (s : LicenseState) :
    readValues beyond data s = .ok (valuesOf beyond data) (touch s (data.length < 10)) := by
  have hlast : (decide (data.length ≤ 0) || decide (data.length ≤ 1) || decide (data.length ≤ 2) ||
      decide (data.length ≤ 3) || decide (data.length ≤ 4) || decide (data.length ≤ 5) ||
      decide (data.length ≤ 6) || decide (data.length ≤ 7) || decide (data.length ≤ 8) ||
      decide (data.length ≤ 9)) = decide (data.length < 10) := by
    simp only [← Bool.decide_or, decide_eq_decide]
    omega
  simp only [readValues, index_bind, pure_run, touch_touch, hlast]
  rfl

theorem readDate_run (data : Bytes) (i : Nat) (s : LicenseState) :
    readDate beyond data i s = .ok (dateAt beyond data i) (touch s (data.length < i + 4)) := by
  have hlast : (decide (data.length ≤ i) || decide (data.length ≤ i + 1) ||
      decide (data.length ≤ i + 2) || decide (data.length ≤ i + 3)) =
      decide (data.length < i + 4) := by
    simp only [← Bool.decide_or, decide_eq_decide]
    omega
  simp only [readDate, index_bind, pure_run, touch_touch, hlast]
  rfl

end Reads

/-! ## The enumerations -/

theorem definedType_cases {type : EType} (h : DefinedType type) :
    type = .free ∨ type = .expirationDate ∨ type = .deviceDependent := by
  obtain ⟨v⟩ := type
  have hv : v.toNat ≤ 2 := h
  have hcases : v.toNat = 0 ∨ v.toNat = 1 ∨ v.toNat = 2 := by omega
  rcases hcases with h0 | h0 | h0
  · exact .inl (congrArg EType.mk (UInt8.toNat_inj.mp h0))
  · exact .inr (.inl (congrArg EType.mk (UInt8.toNat_inj.mp h0)))
  · exact .inr (.inr (congrArg EType.mk (UInt8.toNat_inj.mp h0)))

theorem definedVer_cases {ver : EVer} (h : DefinedVer ver) :
    ver = .alpha ∨ ver = .beta ∨ ver = .stable ∨ ver = .admin := by
  obtain ⟨v⟩ := ver
  have hv : v.toNat ≤ 3 := h
  have hcases : v.toNat = 0 ∨ v.toNat = 1 ∨ v.toNat = 2 ∨ v.toNat = 3 := by omega
  rcases hcases with h0 | h0 | h0 | h0
  · exact .inl (congrArg EVer.mk (UInt8.toNat_inj.mp h0))
  · exact .inr (.inl (congrArg EVer.mk (UInt8.toNat_inj.mp h0)))
  · exact .inr (.inr (.inl (congrArg EVer.mk (UInt8.toNat_inj.mp h0))))
  · exact .inr (.inr (.inr (congrArg EVer.mk (UInt8.toNat_inj.mp h0))))

theorem type_toString_ok {type : EType} (h : DefinedType type) (s : LicenseState) :
    (discard type.toString) s = .ok ⟨⟩ s := by
  rcases definedType_cases h with rfl | rfl | rfl <;> rfl

theorem type_toString_error {type : EType} (h : ¬DefinedType type) (s : LicenseState) :
    (discard type.toString) s = .error typeOutside s := by
  have h0 : type ≠ .free := fun e => h (e ▸ (by decide : DefinedType .free))
  have h1 : type ≠ .expirationDate := fun e => h (e ▸ (by decide : DefinedType .expirationDate))
  have h2 : type ≠ .deviceDependent := fun e => h (e ▸ (by decide : DefinedType .deviceDependent))
  refine discard_error ?_
  rw [EType.toString, if_neg h0, if_neg h1, if_neg h2, throw_run]

theorem ver_toString_ok {ver : EVer} (h : DefinedVer ver) (s : LicenseState) :
    (discard ver.toString) s = .ok ⟨⟩ s := by
  rcases definedVer_cases h with rfl | rfl | rfl | rfl <;> rfl

theorem ver_toString_error {ver : EVer} (h : ¬DefinedVer ver) (s : LicenseState) :
    (discard ver.toString) s = .error versionOutside s := by
  have h0 : ver ≠ .alpha := fun e => h (e ▸ (by decide : DefinedVer .alpha))
  have h1 : ver ≠ .beta := fun e => h (e ▸ (by decide : DefinedVer .beta))
  have h2 : ver ≠ .stable := fun e => h (e ▸ (by decide : DefinedVer .stable))
  have h3 : ver ≠ .admin := fun e => h (e ▸ (by decide : DefinedVer .admin))
  refine discard_error ?_
  rw [EVer.toString, if_neg h0, if_neg h1, if_neg h2, if_neg h3, throw_run]

/-! ## The analyzer -/

section Analyze

variable (beyond : Nat → Byte) (today : LicenseDate) (data mac : Bytes)

/-- The status and the outputs for license data of a defined type and kind. -/
def judged : LicenseStatus × LicenseValues :=
  let values := valuesOf beyond data
  if values.type = .expirationDate then
    if InPeriod beyond data today then (.ok (), values)
    else (.error licenseExpired, { values with type := .free })
  else if values.type = .deviceDependent then
    if mac = [] then (.error deviceUnknown, freeValues)
    else if licenseMacAddr data = mac then (.ok (), values)
    else (.error unlicensedDevice, freeValues)
  else (.ok (), values)

/-- How much data the analyzer reads, besides the address of the device. -/
def needed : Nat := if (valuesOf beyond data).type = .expirationDate then 18 else 10

theorem analyzeLicence_nil (s : LicenseState) :
    analyzeLicence beyond today [] mac s = .ok (.ok (), freeValues) s := rfl

variable {data}

theorem analyzeLicence_run (h : data ≠ []) (s : LicenseState) :
    analyzeLicence beyond today data mac s =
      if ¬DefinedType (valuesOf beyond data).type then
        .error typeOutside (touch s (data.length < 10))
      else if ¬DefinedVer (valuesOf beyond data).ver then
        .error versionOutside (touch s (data.length < 10))
      else .ok (judged beyond today data mac) (touch s (data.length < needed beyond data)) := by
  have hdata : data.isEmpty = false := List.isEmpty_eq_false_iff.mpr h
  simp only [analyzeLicence, hdata, Bool.false_eq_true, ↓reduceIte]
  rw [bind_ok (readValues_run beyond data s)]
  by_cases ht : ¬DefinedType (valuesOf beyond data).type
  · rw [bind_error (type_toString_error ht _), if_pos ht]
  rw [bind_ok (type_toString_ok (not_not.mp ht) _), if_neg ht]
  by_cases hv : ¬DefinedVer (valuesOf beyond data).ver
  · rw [bind_error (ver_toString_error hv _), if_pos hv]
  rw [bind_ok (ver_toString_ok (not_not.mp hv) _), if_neg hv]
  unfold judged needed
  by_cases hd : (valuesOf beyond data).type = .expirationDate
  · have hlen : (decide (data.length < 10) || decide (data.length < 10 + 4) ||
        decide (data.length < 14 + 4)) = decide (data.length < 18) := by
      simp only [← Bool.decide_or, decide_eq_decide]
      omega
    simp only [if_pos hd]
    rw [bind_ok (readDate_run beyond data 10 _), bind_ok (readDate_run beyond data 14 _),
      touch_touch, touch_touch, ← Bool.or_assoc, hlen]
    by_cases hp : InPeriod beyond data today
    · have hp' : (decide (today.number < (dateAt beyond data 14).number) ||
          decide ((dateAt beyond data 10).number < today.number)) = false := by
        simp only [← Bool.decide_or, decide_eq_false_iff_not]
        have := hp.1
        have := hp.2
        omega
      rw [hp', if_pos hp]
      rfl
    · have hp' : (decide (today.number < (dateAt beyond data 14).number) ||
          decide ((dateAt beyond data 10).number < today.number)) = true := by
        simp only [← Bool.decide_or, decide_eq_true_eq]
        unfold InPeriod at hp
        omega
      rw [hp', if_neg hp]
      rfl
  · simp only [if_neg hd]
    by_cases hdev : (valuesOf beyond data).type = .deviceDependent
    · simp only [if_pos hdev, List.isEmpty_iff, ne_eq]
      by_cases hm : mac = []
      · rw [if_pos hm, if_pos hm, pure_run]
      · rw [if_neg hm, if_neg hm]
        by_cases ha : licenseMacAddr data = mac
        · rw [if_neg (not_not_intro ha), if_pos ha, pure_run]
        · rw [if_pos ha, if_neg ha, pure_run]
    · rw [if_neg hdev, if_neg hdev, pure_run]

theorem type_valuesOf (h : 0 < data.length) :
    data[0]? = some (valuesOf beyond data).type.value := by
  rw [List.getElem?_eq_getElem h, ← byteAt_of_lt beyond h]
  rfl

theorem ver_valuesOf (h : 1 < data.length) :
    data[1]? = some (valuesOf beyond data).ver.value := by
  rw [List.getElem?_eq_getElem h, ← byteAt_of_lt beyond h]
  rfl

/-- The analyzer touches the memory behind data that is not long enough, and no other. -/
theorem analyzeLicence_lastState (s : LicenseState) :
    lastState (analyzeLicence beyond today data mac s) = touch s (¬LongEnough data) := by
  by_cases h : data = []
  · have hlong : LongEnough data := .inl h
    subst h
    rw [analyzeLicence_nil, lastState_ok, decide_eq_false (not_not_intro hlong), touch_false]
  have hpos : 0 < data.length := List.length_pos_iff.mpr h
  rw [analyzeLicence_run beyond today mac h]
  by_cases hten : data.length < 10
  · have hshort : ¬LongEnough data := by
      rintro (hn | ⟨hn, -⟩)
      · exact h hn
      · omega
    have hneed : data.length < needed beyond data := by
      unfold needed
      split <;> omega
    rw [decide_eq_true hshort, decide_eq_true hten, decide_eq_true hneed]
    split
    · rfl
    · split <;> rfl
  have hone : 1 < data.length := by omega
  have hlong : LongEnough data ↔ ((valuesOf beyond data).type = .expirationDate →
      DefinedVer (valuesOf beyond data).ver → 18 ≤ data.length) := by
    unfold LongEnough
    rw [type_valuesOf beyond hpos, ver_valuesOf beyond hone]
    simp only [h, false_or, Option.some.injEq, Option.mem_def, forall_eq']
    refine ⟨fun ⟨_, hl⟩ ht hv => hl (congrArg EType.value ht) hv, fun hl => ⟨by omega, ?_⟩⟩
    exact fun ht hv => hl (congrArg EType.mk ht) hv
  simp only [hten, decide_false, touch_false, hlong, needed]
  split
  · rename_i ht
    have hne : (valuesOf beyond data).type ≠ .expirationDate := fun e =>
      ht (e ▸ (by decide : DefinedType .expirationDate))
    simp only [lastState_error, hne, false_implies, not_true_eq_false, decide_false, touch_false]
  · split
    · rename_i hv
      simp only [lastState_error, hv, false_implies, implies_true, not_true_eq_false, decide_false,
        touch_false]
    · rename_i hv
      rw [not_not] at hv
      by_cases ht : (valuesOf beyond data).type = .expirationDate
      · simp only [lastState_ok, ht, hv, ↓reduceIte, true_implies, not_le]
      · simp only [lastState_ok, ht, ↓reduceIte, hten, false_implies, not_true_eq_false,
          decide_false]

/-- A successful analysis gives values of a defined type and kind. -/
theorem analyzeLicence_defined {s t : LicenseState} {values : LicenseValues}
    (h : analyzeLicence beyond today data mac s = .ok (.ok (), values) t) :
    DefinedType values.type ∧ DefinedVer values.ver := by
  by_cases hn : data = []
  · subst hn
    rw [analyzeLicence_nil] at h
    cases h
    exact ⟨by decide, by decide⟩
  rw [analyzeLicence_run beyond today mac hn] at h
  split at h
  · cases h
  rename_i ht
  split at h
  · cases h
  rename_i hv
  have hj : (judged beyond today data mac).1 = .ok () →
      (judged beyond today data mac).2 = valuesOf beyond data := by
    unfold judged
    simp only
    split
    · split <;> simp
    · split
      · split
        · simp
        · split <;> simp
      · simp
  injection h with h _
  rw [h] at hj
  have hvalues : values = valuesOf beyond data := hj rfl
  rw [hvalues]
  exact ⟨not_not.mp ht, not_not.mp hv⟩

end Analyze

/-! ## The loader -/

theorem loadLicence_run {file : LicenseFile} (h : file ≠ .sizeUnknown) (s : LicenseState) :
    loadLicence file s = .ok (content file) s := by
  cases file with
  | sizeUnknown => exact absurd rfl h
  | cannotOpen => rfl
  | readFails => rfl
  | bytes content => rfl

/-- What a load does with the end of its analysis. -/
def committed : EStateM.Result LicenseThrown LicenseState (LicenseStatus × LicenseValues) →
    EStateM.Result LicenseThrown LicenseState LicenseStatus
  | .error e t => .error e t
  | .ok (.error e, _) t => .ok (.error e) t
  | .ok (.ok (), values) t =>
    if t.admin.isAlready then .error (.logicError "a license is already loaded") t
    else .ok (.ok ()) { t with admin := ⟨values, true⟩ }

theorem set_run (values : LicenseValues) (s : LicenseState) :
    LicenceAdmin.set values s =
      if s.admin.isAlready then .error (.logicError "a license is already loaded") s
      else .ok ⟨⟩ { s with admin := ⟨values, true⟩ } := by
  rw [LicenceAdmin.set, bind_ok (get_run s)]
  cases s.admin.isAlready <;> rfl

/-- A load is the analysis of the decoded content, and the commit. -/
theorem load_run (key : Bytes) {env : LoadEnv} (h : env.file ≠ .sizeUnknown) (s : LicenseState) :
    load key env s = committed (analyzeLicence env.beyondLicence env.today
      (keyed env.beyondKey key (content env.file)) env.macAddress
      (touch s (key = [] ∧ content env.file ≠ []))) := by
  rw [load, bind_ok (loadLicence_run h s), bind_ok (decodeLicense_run _ _ key s)]
  cases hr : analyzeLicence env.beyondLicence env.today
      (keyed env.beyondKey key (content env.file)) env.macAddress
      (touch s (key = [] ∧ content env.file ≠ [])) with
  | error e t => rw [bind_error hr]; rfl
  | ok r t =>
    rw [bind_ok hr]
    obtain ⟨status, values⟩ := r
    cases status with
    | error e => rfl
    | ok u =>
      obtain ⟨ht, hv⟩ := analyzeLicence_defined _ _ _ hr
      simp only [committed]
      rw [bind_ok (type_toString_ok ht t), bind_ok (ver_toString_ok hv t)]
      by_cases ha : t.admin.isAlready = true
      · rw [bind_error (by rw [set_run, if_pos ha]), if_pos ha]
      · rw [bind_ok (by rw [set_run, if_neg ha]), if_neg ha]
        rfl

theorem load_sizeUnknown (key : Bytes) {env : LoadEnv} (h : env.file = .sizeUnknown)
    (s : LicenseState) : load key env s = .error .lengthError s := by
  rw [load, h]
  rfl

end WSE.Proof.Wse
