import WapitiStew.Proof.Wse.LicenseRuns

/-!
# Licenses

Which versions a license permits, and what loading one accepts.
-/

namespace WSE.Proof.Wse

open WSE.Impl.Wse WSE.Spec.Wse

/-!
## Which versions a license permits

The number of a version does not wrap (`number_toNat`), so the gates compare the sums of its
weighted parts. `version_gates` says for which licenses and queries they follow the order of the
versions.
-/

section

variable {a : LicenceAdmin} {ver : EVer} {v : Version}

/-! ### Numbers -/

theorem weighted_toNat (major minor : UInt16) :
    (major.toUInt64 * 10000000000000 + minor.toUInt64 * 100000000).toNat =
      major.toNat * 10000000000000 + minor.toNat * 100000000 := by
  have hmajor := major.toNat_lt
  have hminor := minor.toNat_lt
  simp only [UInt64.toNat_add, UInt64.toNat_mul, UInt16.toNat_toUInt64, UInt64.reduceToNat]
  omega

theorem number_toNat (v : Version) : v.number.toNat =
    v.major.toNat * 10000000000000 + v.minor.toNat * 100000000 + v.patch.toNat := by
  have hmajor := v.major.toNat_lt
  have hminor := v.minor.toNat_lt
  have hpatch := v.patch.toNat_lt
  rw [Version.number, UInt64.toNat_add, weighted_toNat, UInt32.toNat_toUInt64]
  omega

theorem major_toNat (major : UInt16) :
    (major.toUInt64 * 10000000000000).toNat = major.toNat * 10000000000000 := by
  have h := weighted_toNat major 0
  simpa using h

/-! ### Gates -/

/-- A gate that compares a number with the one that is asked for. -/
theorem gate_ok {n version : UInt64} {e : LicenseError} :
    (if n < version then .error e else .ok () : LicenseStatus) = .ok () ↔
      version.toNat ≤ n.toNat := by
  split
  · rename_i h
    exact iff_of_false nofun (Nat.not_le.mpr (UInt64.lt_iff_toNat_lt.mp h))
  · rename_i h
    exact iff_of_true rfl (Nat.not_lt.mp (mt UInt64.lt_iff_toNat_lt.mpr h))

variable (hp : a.values.type ≠ .free)
include hp

theorem checkAlpha_ok : a.checkAlpha v.number = .ok () ↔
    v.number.toNat ≤ a.values.masor.toNat * 10000000000000 := by
  rw [LicenceAdmin.checkAlpha, if_neg hp, gate_ok, major_toNat]

theorem checkBeta_ok : a.checkBeta v.number = .ok () ↔
    v.number.toNat ≤ a.values.masor.toNat * 10000000000000 + a.values.minor.toNat * 100000000 := by
  rw [LicenceAdmin.checkBeta, if_neg hp, gate_ok, weighted_toNat]

theorem checkStable_ok : a.checkStable v.number = .ok () ↔
    a.values.ver = .admin ∨ v.number.toNat ≤ (licensedVersion a.values).number.toNat := by
  rw [LicenceAdmin.checkStable, if_neg hp]
  split
  · rename_i hv
    exact iff_of_true rfl (.inl hv)
  · rename_i hv
    rw [gate_ok, or_iff_right hv]
    rfl

omit hp

/-- A free license refuses every query. -/
theorem checkLicence_free (hp : a.values.type = .free) (hv : DefinedVer ver) (n : UInt64) :
    a.checkLicence ver n ≠ .ok () := by
  obtain rfl | rfl | rfl | rfl := definedVer_cases hv <;>
    simp [LicenceAdmin.checkLicence, LicenceAdmin.checkAlpha, LicenceAdmin.checkBeta,
      LicenceAdmin.checkStable, hp, EVer.alpha, EVer.beta, EVer.stable, EVer.admin]

/-- What is asked of a gate that is not the free license's. -/
theorem checkLicence_ok (hp : a.values.type ≠ .free) : a.checkLicence ver v.number = .ok () ↔
    if ver = .alpha then v.number.toNat ≤ a.values.masor.toNat * 10000000000000
    else if ver = .beta then v.number.toNat ≤
      a.values.masor.toNat * 10000000000000 + a.values.minor.toNat * 100000000
    else if ver = .stable ∨ ver = .admin then
      a.values.ver = .admin ∨ v.number.toNat ≤ (licensedVersion a.values).number.toNat
    else True := by
  rw [LicenceAdmin.checkLicence]
  split
  · exact checkAlpha_ok hp
  split
  · exact checkBeta_ok hp
  split
  · rename_i hs
    rw [if_pos (.inl hs)]
    exact checkStable_ok hp
  rename_i hs
  split
  · rename_i had
    rw [if_pos (.inr had)]
    exact checkStable_ok hp
  · rename_i had
    rw [if_neg (not_or.mpr ⟨hs, had⟩)]
    exact iff_of_true rfl trivial

/-- The gates follow the order of the versions exactly where the numbers do. -/
theorem version_gates (a : LicenceAdmin) (v : Version) (hv : DefinedVer ver) :
    (a.checkLicence ver v.number = .ok () ↔ Permits a.values ver v) ↔
      ComparesAsVersions a.values ver v := by
  by_cases hp : a.values.type = .free
  · exact iff_of_true (iff_of_false (checkLicence_free hp hv _) fun h => h.1 hp) (.inl hp)
  have hminor := v.minor.toNat_lt
  have hpatch := v.patch.toNat_lt
  have hminor' := a.values.minor.toNat_lt
  have hpatch' := a.values.patch.toNat_lt
  have hn := number_toNat v
  have hl := number_toNat (licensedVersion a.values)
  simp only [licensedVersion] at hl
  rw [checkLicence_ok hp]
  obtain rfl | rfl | rfl | rfl := definedVer_cases hv <;>
    simp +decide only [Permits, ComparesAsVersions, hp, ne_eq, licensedVersion, Version.MajorLE,
      Version.MinorLE, Version.PatchLE, not_false_eq_true, true_and, false_or, or_false,
      false_and, reduceIte, UInt16.le_iff_toNat_le, UInt16.lt_iff_toNat_lt,
      UInt64.lt_iff_toNat_lt, UInt32.le_iff_toNat_le, ← UInt16.toNat_inj, ← UInt32.toNat_inj,
      UInt16.toNat_zero, UInt32.toNat_zero]
  · omega
  · omega
  · by_cases hadmin : a.values.ver = .admin
    · simp only [hadmin, true_or]
    · simp only [hadmin, false_or]
      omega
  · by_cases hadmin : a.values.ver = .admin
    · simp only [hadmin, true_or]
    · simp only [hadmin, false_or]
      rw [iff_false, Nat.not_le]

/-- A license of version 1.5.0 for a device, and what asks for the stable version 1.4.7. -/
theorem version_gates_stable :
    let a : LicenceAdmin := ⟨⟨.deviceDependent, .stable, 1, 5, 0⟩, true⟩
    a.checkLicence .stable (Version.number ⟨1, 4, 7⟩) = .ok () ↔
      Permits a.values .stable ⟨1, 4, 7⟩ :=
  (version_gates ⟨⟨.deviceDependent, .stable, 1, 5, 0⟩, true⟩ ⟨1, 4, 7⟩ (by decide)).mpr (by decide)

/-- The gate for alpha versions compares the minor version as well, a patch of 200000000 makes two
minor versions, and what is for administrators is taken to be for the stable version. -/
theorem version_gates_broken :
    let a : LicenceAdmin := ⟨⟨.deviceDependent, .stable, 1, 5, 200000000⟩, true⟩
    (Permits a.values .alpha ⟨1, 6, 0⟩ ∧
      a.checkLicence .alpha (Version.number ⟨1, 6, 0⟩) = .error unusableVersion) ∧
    (¬Permits a.values .stable ⟨1, 7, 0⟩ ∧
      a.checkLicence .stable (Version.number ⟨1, 7, 0⟩) = .ok ()) ∧
    (¬Permits a.values .admin ⟨1, 5, 0⟩ ∧
      a.checkLicence .admin (Version.number ⟨1, 5, 0⟩) = .ok ()) := by
  decide

end

/-!
## Loading a license

* `license_reads_inside`: a load stays inside the key and the data exactly if
  both are long enough (`ReadsInside`).
* `license_round_trip`: what the writer creates is decoded and analyzed back,
  and is good exactly where its terms say so (`MayUse`).
* `license_acceptance`: a load that succeeds with more than the free license
  found it licensed by the data, and one that does not succeed changes nothing.
-/

section

open WSE.Framework

/-! ### Staying inside -/

theorem lastState_committed
    (r : EStateM.Result LicenseThrown LicenseState (LicenseStatus × LicenseValues)) :
    (lastState (committed r)).outside = (lastState r).outside := by
  obtain ⟨⟨_ | _, _⟩, t⟩ | ⟨e, t⟩ := r
  · rfl
  · simp only [committed]
    split <;> rfl
  · rfl

/-- A load is outside exactly if it was before, or the key or the data are not long enough. -/
theorem license_reads_inside (key : Bytes) (env : LoadEnv) (s : LicenseState) :
    (lastState (load key env s)).outside =
      (s.outside || decide (¬ReadsInside key (content env.file))) := by
  by_cases h : env.file = .sizeUnknown
  · have hin : ReadsInside key (content env.file) := .inl (by rw [h]; rfl)
    rw [load_sizeUnknown key h, lastState_error, decide_eq_false (not_not_intro hin),
      Bool.or_false]
  rw [load_run key h, lastState_committed, analyzeLicence_lastState, touch_touch, outside_touch,
    ← Bool.decide_or]
  refine congrArg (s.outside || ·) (decide_eq_decide.mpr ?_)
  rw [ReadsInside, not_or, not_and]
  by_cases hc : content env.file = []
  · have hlong : LongEnough (keyed env.beyondKey key (content env.file)) :=
      .inl ((keyed_eq_nil _).mpr hc)
    simp only [hc, ne_eq, not_true_eq_false, and_false, false_or, false_and, iff_false,
      not_not]
    rwa [hc] at hlong
  by_cases hk : key = []
  · simp only [hk, hc, ne_eq, not_false_eq_true, and_self, true_or, not_true_eq_false,
      false_implies]
  · rw [keyed_beyond env.beyondKey hk (fun _ => 0)]
    simp only [hk, hc, ne_eq, not_false_eq_true, false_and, false_or, true_and, true_implies]

/-- One byte of content, and the second byte is read. -/
theorem load_reads_behind_byte :
    (lastState (load [7] { macAddress := [], file := .bytes [7], today := ⟨2025, 2, 17⟩ }
      {})).outside = true := by
  decide +kernel

/-! ### Bytes of numbers -/

/-- A byte, masked at each place of a number. -/
theorem masked_byte : ∀ n < 256,
    (((UInt8.ofNat n).toUInt16 <<< 8 &&& 0xFF00).toNat = n * 256 ∧
      ((UInt8.ofNat n).toUInt16 &&& 0x00FF).toNat = n) ∧
    ((UInt8.ofNat n).toUInt32 <<< 24 &&& 0xFF000000).toNat = n * 16777216 ∧
    ((UInt8.ofNat n).toUInt32 <<< 16 &&& 0x00FF0000).toNat = n * 65536 ∧
    ((UInt8.ofNat n).toUInt32 <<< 8 &&& 0x0000FF00).toNat = n * 256 ∧
    ((UInt8.ofNat n).toUInt32 &&& 0x000000FF).toNat = n := by
  decide +kernel

theorem toNat_number16 (high low : Byte) :
    (number16 high low).toNat = high.toNat * 256 + low.toNat := by
  obtain ⟨⟨hh, -⟩, -⟩ := masked_byte high.toNat high.toNat_lt
  obtain ⟨⟨-, hl⟩, -⟩ := masked_byte low.toNat low.toNat_lt
  rw [UInt8.ofNat_toNat] at hh hl
  have := high.toNat_lt
  have := low.toNat_lt
  rw [number16, UInt16.toNat_add, hh, hl, Nat.mod_eq_of_lt (by omega)]

theorem toNat_number32 (b3 b2 b1 b0 : Byte) :
    (number32 b3 b2 b1 b0).toNat =
      b3.toNat * 16777216 + b2.toNat * 65536 + b1.toNat * 256 + b0.toNat := by
  obtain ⟨-, h3, -⟩ := masked_byte b3.toNat b3.toNat_lt
  obtain ⟨-, -, h2, -⟩ := masked_byte b2.toNat b2.toNat_lt
  obtain ⟨-, -, -, h1, -⟩ := masked_byte b1.toNat b1.toNat_lt
  obtain ⟨-, -, -, -, h0⟩ := masked_byte b0.toNat b0.toNat_lt
  rw [UInt8.ofNat_toNat] at h3 h2 h1 h0
  have := b3.toNat_lt
  have := b2.toNat_lt
  have := b1.toNat_lt
  have := b0.toNat_lt
  simp only [number32, UInt32.toNat_add, h3, h2, h1, h0]
  omega

theorem toNat_low_byte16 (n : UInt16) : (n &&& 0xFF).toUInt8.toNat = n.toNat % 256 := by
  have hmask : UInt16.toNat 0xFF = 2 ^ 8 - 1 := rfl
  rw [UInt16.toNat_toUInt8, UInt16.toNat_and, hmask, Nat.and_two_pow_sub_one_eq_mod, Nat.mod_mod]

theorem toNat_low_byte32 (n : UInt32) : (n &&& 0xFF).toUInt8.toNat = n.toNat % 256 := by
  have hmask : UInt32.toNat 0xFF = 2 ^ 8 - 1 := rfl
  rw [UInt32.toNat_toUInt8, UInt32.toNat_and, hmask, Nat.and_two_pow_sub_one_eq_mod, Nat.mod_mod]

theorem number16_bytes16 (n : UInt16) :
    number16 ((n >>> 8) &&& 0xFF).toUInt8 (n &&& 0xFF).toUInt8 = n := by
  have hshift : (n >>> 8).toNat = n.toNat / 256 := by
    rw [UInt16.toNat_shiftRight, Nat.shiftRight_eq_div_pow]
    rfl
  have := n.toNat_lt
  apply UInt16.toNat_inj.mp
  rw [toNat_number16, toNat_low_byte16, toNat_low_byte16, hshift]
  omega

theorem number32_bytes32 (n : UInt32) :
    number32 ((n >>> 24) &&& 0xFF).toUInt8 ((n >>> 16) &&& 0xFF).toUInt8
      ((n >>> 8) &&& 0xFF).toUInt8 (n &&& 0xFF).toUInt8 = n := by
  have h24 : (n >>> 24).toNat = n.toNat / 16777216 := by
    rw [UInt32.toNat_shiftRight, Nat.shiftRight_eq_div_pow]
    rfl
  have h16 : (n >>> 16).toNat = n.toNat / 65536 := by
    rw [UInt32.toNat_shiftRight, Nat.shiftRight_eq_div_pow]
    rfl
  have h8 : (n >>> 8).toNat = n.toNat / 256 := by
    rw [UInt32.toNat_shiftRight, Nat.shiftRight_eq_div_pow]
    rfl
  have := n.toNat_lt
  apply UInt32.toNat_inj.mp
  rw [toNat_number32, toNat_low_byte32, toNat_low_byte32, toNat_low_byte32, toNat_low_byte32, h24,
    h16, h8]
  omega

/-! ### What the writer creates -/

theorem toLicenseAdminType_ok {type : Byte} (h : DefinedType ⟨type⟩) (s : LicenseState) :
    toLicenseAdminType type s = .ok ⟨type⟩ s := by
  rcases definedType_cases h with h | h | h
  all_goals
    have hv := congrArg EType.value h
    subst hv
    rfl

theorem toLicenseAdminType_error {type : Byte} (h : ¬DefinedType ⟨type⟩) (s : LicenseState) :
    toLicenseAdminType type s = .error typeOutside s := by
  have h0 : type ≠ 0 := fun e => h (e ▸ (by decide : DefinedType ⟨0⟩))
  have h1 : type ≠ 1 := fun e => h (e ▸ (by decide : DefinedType ⟨1⟩))
  have h2 : type ≠ 2 := fun e => h (e ▸ (by decide : DefinedType ⟨2⟩))
  rw [toLicenseAdminType, if_neg h0, if_neg h1, if_neg h2, throw_run]

theorem toLicenseAdminVersion_ok {version : Byte} (h : DefinedVer ⟨version⟩) (s : LicenseState) :
    toLicenseAdminVersion version s = .ok ⟨version⟩ s := by
  rcases definedVer_cases h with h | h | h | h
  all_goals
    have hv := congrArg EVer.value h
    subst hv
    rfl

theorem toLicenseAdminVersion_error {version : Byte} (h : ¬DefinedVer ⟨version⟩)
    (s : LicenseState) : toLicenseAdminVersion version s = .error versionOutside s := by
  have h0 : version ≠ 0 := fun e => h (e ▸ (by decide : DefinedVer ⟨0⟩))
  have h1 : version ≠ 1 := fun e => h (e ▸ (by decide : DefinedVer ⟨1⟩))
  have h2 : version ≠ 2 := fun e => h (e ▸ (by decide : DefinedVer ⟨2⟩))
  have h3 : version ≠ 3 := fun e => h (e ▸ (by decide : DefinedVer ⟨3⟩))
  rw [toLicenseAdminVersion, if_neg h0, if_neg h1, if_neg h2, if_neg h3, throw_run]

/-- The writer accepts configurations of a defined type and version only. -/
theorem create_ok {config : SConfig} {creator data : Bytes} {s t : LicenseState}
    (h : config.create creator s = .ok data t) :
    DefinedType ⟨config.type⟩ ∧ DefinedVer ⟨config.version⟩ ∧
      data = createLicense (configured config) config.limit config.start creator := by
  rw [SConfig.create] at h
  by_cases ht : ¬DefinedType ⟨config.type⟩
  · rw [bind_error (toLicenseAdminType_error ht s)] at h
    cases h
  rw [not_not] at ht
  rw [bind_ok (toLicenseAdminType_ok ht s)] at h
  by_cases hv : ¬DefinedVer ⟨config.version⟩
  · rw [bind_error (toLicenseAdminVersion_error hv s)] at h
    cases h
  rw [not_not] at hv
  rw [bind_ok (toLicenseAdminVersion_ok hv s)] at h
  cases h
  exact ⟨ht, hv, rfl⟩

section Created

variable (beyond : Nat → Byte) (values : LicenseValues) (limit start : LicenseDate)
  (creator : Bytes)

theorem valuesOf_createLicense :
    valuesOf beyond (createLicense values limit start creator) = values := by
  exact (LicenseValues.mk.injEq ..).mpr
    ⟨rfl, rfl, number16_bytes16 _, number16_bytes16 _, number32_bytes32 _⟩

theorem limit_createLicense :
    dateAt beyond (createLicense values limit start creator) 10 = limit :=
  (LicenseDate.mk.injEq ..).mpr ⟨number16_bytes16 _, rfl, rfl⟩

theorem start_createLicense :
    dateAt beyond (createLicense values limit start creator) 14 = start :=
  (LicenseDate.mk.injEq ..).mpr ⟨number16_bytes16 _, rfl, rfl⟩

theorem length_createLicense :
    (createLicense values limit start creator).length = creator.length + 18 := rfl

end Created

/-! ### Days -/

theorem number_le {a b : CalendarDate} : a.number ≤ b.number ↔ a ≤ b := by
  have := a.month_le
  have := b.month_le
  have := a.date_le
  have := b.date_le
  have := a.month_pos
  have := b.month_pos
  have := a.date_pos
  have := b.date_pos
  show _ ↔ a.year < b.year ∨ a.year = b.year ∧
    (a.month < b.month ∨ a.month = b.month ∧ a.date ≤ b.date)
  simp only [LicenseDate.number, UInt16.lt_iff_toNat_lt, ← UInt16.toNat_inj,
    UInt8.lt_iff_toNat_lt, ← UInt8.toNat_inj, UInt8.le_iff_toNat_le]
  omega

/-- The judgement of created license data. -/
theorem judged_createLicense (beyond : Nat → Byte) (values : LicenseValues)
    (start limit today : CalendarDate) (creator device : Bytes) (ht : DefinedType values.type) :
    let r := judged beyond today.toLicenseDate
      (createLicense values limit.toLicenseDate start.toLicenseDate creator) device
    (r.1 = .ok () → r.2 = values) ∧
      (r = (.ok (), values) ↔ MayUse values.type start limit creator today device) := by
  have hperiod : InPeriod beyond
      (createLicense values limit.toLicenseDate start.toLicenseDate creator)
        today.toLicenseDate ↔ start ≤ today ∧ today ≤ limit := by
    rw [InPeriod, start_createLicense, limit_createLicense, number_le, number_le]
  have hmac : licenseMacAddr
      (createLicense values limit.toLicenseDate start.toLicenseDate creator) = creator := rfl
  simp only [judged, valuesOf_createLicense, hmac, hperiod]
  unfold MayUse
  rcases definedType_cases ht with h | h | h
  · have h1 : EType.free ≠ .expirationDate := by decide
    have h2 : EType.free ≠ .deviceDependent := by decide
    rw [h, if_neg h1, if_neg h2]
    exact ⟨fun _ => rfl, iff_of_true rfl (.inl rfl)⟩
  · have h1 : EType.expirationDate ≠ .free := by decide
    have h2 : EType.expirationDate ≠ .deviceDependent := by decide
    rw [h, if_pos rfl]
    by_cases hp : start ≤ today ∧ today ≤ limit
    · rw [if_pos hp]
      exact ⟨fun _ => rfl, iff_of_true rfl (.inr (.inl ⟨rfl, hp⟩))⟩
    · rw [if_neg hp]
      simp [h1, h2, hp]
  · have h1 : EType.deviceDependent ≠ .free := by decide
    have h2 : EType.deviceDependent ≠ .expirationDate := by decide
    rw [h, if_neg h2, if_pos rfl]
    by_cases hm : device = []
    · rw [if_pos hm]
      simp [h1, h2, hm]
    · rw [if_neg hm]
      by_cases hc : creator = device
      · rw [if_pos hc]
        exact ⟨fun _ => rfl, iff_of_true rfl (.inr (.inr ⟨rfl, hm, hc.symm⟩))⟩
      · rw [if_neg hc]
        simp [h1, h2, hm, Ne.symm hc]

/-- What the writer accepts and creates comes back from the file, and is good exactly where its
terms say so. -/
theorem license_round_trip {config : SConfig} {creator data key : Bytes} {s₀ t₀ : LicenseState}
    {start limit : CalendarDate} (hstart : config.start = start.toLicenseDate)
    (hlimit : config.limit = limit.toLicenseDate) (hdata : config.create creator s₀ = .ok data t₀)
    (hkey : key ≠ []) (beyond : Nat → Byte) (today : CalendarDate) (device : Bytes)
    (s : LicenseState) :
    (encryptLicense beyond data key >>= fun e => decodeLicense beyond e key) s = .ok data s ∧
      ∃ r, analyzeLicence beyond today.toLicenseDate data device s = .ok r s ∧
        (r.1 = .ok () → r.2 = configured config) ∧
        (r = (.ok (), configured config) ↔
          MayUse ⟨config.type⟩ start limit creator today device) := by
  obtain ⟨ht, hv, rfl⟩ := create_ok hdata
  rw [hstart, hlimit]
  have hne : createLicense (configured config) limit.toLicenseDate start.toLicenseDate creator ≠
      [] := List.cons_ne_nil _ _
  have hneed : ¬(createLicense (configured config) limit.toLicenseDate start.toLicenseDate
      creator).length < needed beyond (createLicense (configured config) limit.toLicenseDate
        start.toLicenseDate creator) := by
    rw [length_createLicense]
    unfold needed
    split <;> omega
  constructor
  · rw [bind_ok (encryptLicense_run beyond _ key s), decodeLicense_run, keyed_keyed, touch_touch]
    simp [hkey]
  · refine ⟨_, ?_, judged_createLicense beyond (configured config) start limit today creator device
      ht⟩
    have ht' : DefinedType (configured config).type := ht
    have hv' : DefinedVer (configured config).ver := hv
    rw [analyzeLicence_run beyond _ device hne, valuesOf_createLicense, if_neg (not_not_intro ht'),
      if_neg (not_not_intro hv'), decide_eq_false hneed, touch_false]

/-- A license for the year 2025, of the first beta. -/
def datedConfig : SConfig :=
  { type := 1, version := 1, masor := 1, start := ⟨2025, 1, 1⟩, limit := ⟨2025, 12, 31⟩ }

theorem license_round_trip_dated :
    ∃ r, analyzeLicence (fun _ => 0) ⟨2025, 2, 17⟩
        (createLicense (configured datedConfig) datedConfig.limit datedConfig.start []) [] {} =
          .ok r {} ∧ r = (.ok (), configured datedConfig) := by
  have hstart : datedConfig.start = (CalendarDate.toLicenseDate
      ⟨⟨2025, 1, 1⟩, by decide, by decide, by decide, by decide⟩) := rfl
  have hlimit : datedConfig.limit = (CalendarDate.toLicenseDate
      ⟨⟨2025, 12, 31⟩, by decide, by decide, by decide, by decide⟩) := rfl
  have hdata : datedConfig.create [] {} =
      .ok (createLicense (configured datedConfig) datedConfig.limit datedConfig.start []) {} := rfl
  obtain ⟨r, hr, -, hgood⟩ := (license_round_trip hstart hlimit hdata (List.cons_ne_nil 7 [])
    (fun _ => 0) ⟨⟨2025, 2, 17⟩, by decide, by decide, by decide, by decide⟩ [] {}).2
  exact ⟨r, hr, hgood.mpr (by decide)⟩

/-! ### What a load accepts -/

theorem dateAt_inside {beyond beyond' : Nat → Byte} {data : Bytes} {i : Nat}
    (h : i + 3 < data.length) : dateAt beyond data i = dateAt beyond' data i := by
  simp only [dateAt, byteAt_of_lt _ (show i < data.length by omega),
    byteAt_of_lt _ (show i + 1 < data.length by omega),
    byteAt_of_lt _ (show i + 2 < data.length by omega), byteAt_of_lt _ h]

/-- A judgement that grants more than the free license rests on the data alone. -/
theorem licensed_of_judged {beyond : Nat → Byte} {data : Bytes} {today : LicenseDate}
    {device : Bytes} {values : LicenseValues} (hlong : data[0]? = some 1 → 18 ≤ data.length)
    (hne : data ≠ []) (ht : DefinedType (valuesOf beyond data).type)
    (hv : DefinedVer (valuesOf beyond data).ver)
    (hj : judged beyond today data device = (.ok (), values)) (hfree : values.type ≠ .free) :
    Licensed data today device := by
  have h0 := type_valuesOf beyond (List.length_pos_iff.mpr hne)
  unfold judged at hj
  simp only at hj
  rcases definedType_cases ht with h | h | h
  · rw [if_neg (by rw [h]; decide), if_neg (by rw [h]; decide), Prod.mk.injEq] at hj
    exact absurd (hj.2 ▸ h) hfree
  · rw [if_pos h] at hj
    rw [h] at h0
    have hlen := hlong h0
    have hp : InPeriod beyond data today := by
      by_contra hp
      rw [if_neg hp] at hj
      simp at hj
    have h14 : dateAt beyond data 14 = dateAt (fun _ => 0) data 14 := dateAt_inside (by omega)
    have h10 : dateAt beyond data 10 = dateAt (fun _ => 0) data 10 := dateAt_inside (by omega)
    rw [InPeriod, h14, h10] at hp
    exact ⟨⟨1, h0, by decide, by decide⟩, ⟨_, ver_valuesOf beyond (by omega), hv⟩,
      .inl ⟨h0, hlen, hp⟩⟩
  · rw [if_neg (by rw [h]; decide), if_pos h] at hj
    rw [h] at h0
    have hm : device ≠ [] := by
      intro hm
      rw [if_pos hm] at hj
      simp at hj
    rw [if_neg hm] at hj
    have ha : licenseMacAddr data = device := by
      by_contra ha
      rw [if_neg ha] at hj
      simp at hj
    have hlen : 18 < data.length := by
      have hpos := List.length_pos_iff.mpr hm
      rw [← ha, licenseMacAddr, List.length_drop] at hpos
      omega
    exact ⟨⟨2, h0, by decide, by decide⟩, ⟨_, ver_valuesOf beyond (by omega), hv⟩,
      .inr ⟨h0, hm, ha⟩⟩

theorem admin_analyzeLicence (beyond : Nat → Byte) (today : LicenseDate) (data mac : Bytes)
    (s : LicenseState) : (lastState (analyzeLicence beyond today data mac s)).admin = s.admin := by
  rw [analyzeLicence_lastState, admin_touch]

/-- A load that puts more than the free license in force found it licensed by the decoded data,
provided the data holds the dates that it announces, and a load that does not succeed leaves the
administration as it was. -/
theorem license_acceptance (key : Bytes) (env : LoadEnv) (s : LicenseState) :
    (((keyed env.beyondKey key (content env.file))[0]? = some 1 →
        18 ≤ (keyed env.beyondKey key (content env.file)).length) →
      ∀ t, load key env s = .ok (.ok ()) t → t.admin.values.type ≠ .free →
        Licensed (keyed env.beyondKey key (content env.file)) env.today env.macAddress) ∧
    ((∀ t, load key env s ≠ .ok (.ok ()) t) →
      (lastState (load key env s)).admin = s.admin) := by
  by_cases h : env.file = .sizeUnknown
  · rw [load_sizeUnknown key h]
    exact ⟨fun _ t ht => (by cases ht), fun _ => rfl⟩
  rw [load_run key h]
  have hadmin := admin_analyzeLicence env.beyondLicence env.today
    (keyed env.beyondKey key (content env.file)) env.macAddress
    (touch s (key = [] ∧ content env.file ≠ []))
  cases hr : analyzeLicence env.beyondLicence env.today
      (keyed env.beyondKey key (content env.file)) env.macAddress
      (touch s (key = [] ∧ content env.file ≠ [])) with
  | error e t =>
    rw [hr] at hadmin
    exact ⟨fun _ t ht => (by cases ht), fun _ => hadmin⟩
  | ok r t =>
    rw [hr] at hadmin
    obtain ⟨_ | _, values⟩ := r
    · exact ⟨fun _ t ht => (by cases ht), fun _ => hadmin⟩
    simp only [committed]
    by_cases ha : t.admin.isAlready = true
    · rw [if_pos ha]
      exact ⟨fun _ t ht => (by cases ht), fun _ => hadmin⟩
    rw [if_neg ha]
    refine ⟨fun hlong t' ht' hfree => ?_, fun hn => absurd rfl (hn _)⟩
    cases ht'
    by_cases hne : keyed env.beyondKey key (content env.file) = []
    · rw [hne, analyzeLicence_nil] at hr
      cases hr
      exact absurd rfl hfree
    rw [analyzeLicence_run _ _ _ hne] at hr
    split at hr
    · cases hr
    rename_i ht
    split at hr
    · cases hr
    rename_i hv
    injection hr with hj _
    exact licensed_of_judged hlong hne (not_not.mp ht) (not_not.mp hv) hj hfree

/-- A file of one byte, and the memory behind the decoded license. -/
def shortFile : LoadEnv where
  macAddress := []
  file := .bytes [1]
  today := ⟨2025, 2, 17⟩
  beyondLicence i := if i = 10 then 255 else if i = 1 then 3 else 0

/-- The dates of the license that is put in force are not in the file. -/
theorem load_accepts_short :
    load [0] shortFile {} = .ok (.ok ()) ⟨⟨⟨.expirationDate, .admin, 0, 0, 0⟩, true⟩, true⟩ ∧
      ¬Licensed (keyed shortFile.beyondKey [0] (content shortFile.file)) shortFile.today
        shortFile.macAddress := by
  refine ⟨by rfl, fun h => ?_⟩
  obtain ⟨v, hv, -⟩ := h.ver
  exact absurd hv (by simp [keyed, shortFile, content])

end

end WSE.Proof.Wse
