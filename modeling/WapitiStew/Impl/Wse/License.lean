import WapitiStew.Framework.Bytes

/-!
# Licenses

The license writer, the license loader and the license administration of
`core/wse/license`. An enumeration over `uint8_t` may hold any byte, so
`EType` and `EVer` wrap one. A computation may throw, and keeps the state then
(`LicenseM`); the state is the administration and whether a vector was ever
indexed behind its end.

What lies behind the end of a vector is arbitrary: `beyond` gives the byte
found there. The log statements matter only for the arguments they evaluate,
of which `toString` throws.
-/

namespace WSE.Impl.Wse

open WSE.Framework

/-! ## Types -/

/-- `license::eType`. -/
structure EType where
  value : Byte
  deriving DecidableEq, Repr

namespace EType

def free : EType := ⟨0⟩
def expirationDate : EType := ⟨1⟩
def deviceDependent : EType := ⟨2⟩

end EType

/-- `license::eVer`. -/
structure EVer where
  value : Byte
  deriving DecidableEq, Repr

namespace EVer

def alpha : EVer := ⟨0⟩
def beta : EVer := ⟨1⟩
def stable : EVer := ⟨2⟩
def admin : EVer := ⟨3⟩

end EVer

inductive LicenseErrorCategory
  | none | io | verification
  deriving DecidableEq, Repr

inductive LicenseErrorCode
  | none | fileOpenFailed | readFailed | licenseExpired | unlicensedDevice | unusableLicense
  | unusableVersion
  deriving DecidableEq, Repr

structure LicenseError where
  category : LicenseErrorCategory
  code : LicenseErrorCode
  message : String
  deriving DecidableEq, Repr

abbrev LicenseStatus := Except LicenseError Unit

/-- The standard exceptions that leave a license function. -/
inductive LicenseThrown
  | invalidArgument (message : String)
  | logicError (message : String)
  | lengthError
  deriving DecidableEq, Repr

/-- A year, a month and a day, in the widths of the license data. -/
structure LicenseDate where
  year : UInt16
  month : UInt8
  date : UInt8
  deriving DecidableEq, Repr

/-- The five values that are analyzed, and then administered. -/
structure LicenseValues where
  type : EType
  ver : EVer
  masor : UInt16
  minor : UInt16
  patch : UInt32
  deriving DecidableEq, Repr

/-- `LicenceAdmin`. -/
structure LicenceAdmin where
  values : LicenseValues := ⟨.free, .alpha, 0, 0, 0⟩
  isAlready : Bool := false
  deriving DecidableEq, Repr

structure LicenseState where
  admin : LicenceAdmin := {}
  outside : Bool := false
  deriving DecidableEq, Repr

abbrev LicenseM := EStateM LicenseThrown LicenseState

/-- The byte at index `i` of a vector, or of the memory behind it. -/
def byteAt (beyond : Nat → Byte) (v : Bytes) (i : Nat) : Byte := v.getD i (beyond i)

/-- `v[i]`. -/
def index (beyond : Nat → Byte) (v : Bytes) (i : Nat) : LicenseM Byte := do
  modify fun s => { s with outside := s.outside || v.length ≤ i }
  return byteAt beyond v i

/-! ## Enumerations -/

/-- The message of both `toString(eType)` and `toLicenseAdmin(eLicenseType)`. -/
def typeOutside : LicenseThrown :=
  .invalidArgument "the license type value is outside the enumeration"

def versionOutside : LicenseThrown :=
  .invalidArgument "the license version value is outside the enumeration"

def EType.toString (type : EType) : LicenseM String :=
  if type = free then return "Free           "
  else if type = expirationDate then return "ExpirationDate "
  else if type = deviceDependent then return "DeviceDependent"
  else throw typeOutside

def EVer.toString (ver : EVer) : LicenseM String :=
  if ver = alpha then return "Alpha"
  else if ver = beta then return "Beta"
  else if ver = stable then return "Stable"
  else if ver = admin then return "Admin"
  else throw versionOutside

/-! ## The keyed transformation -/

/-- The loop of `encryptLicense` and `decodeLicense`, from the key index `keyI`. -/
def xorLoop (beyond : Nat → Byte) (key : Bytes) : Nat → Bytes → LicenseM Bytes
  | _, [] => return []
  | keyI, d :: data => do
    let k ← index beyond key keyI
    let keyI := if keyI + 1 = key.length then 0 else keyI + 1
    return (d ^^^ k) :: (← xorLoop beyond key keyI data)

def encryptLicense (beyond : Nat → Byte) (data key : Bytes) : LicenseM Bytes :=
  xorLoop beyond key 0 data

def decodeLicense (beyond : Nat → Byte) (data key : Bytes) : LicenseM Bytes :=
  xorLoop beyond key 0 data

/-! ## The writer -/

/-- `LicenseWriter::sConfig` without the output path and name; `type` and `version` are bytes
of `eLicenseType` and `eLicenseVersion`. -/
structure SConfig where
  type : Byte := 0
  version : Byte := 3
  masor : UInt16 := 0
  minor : UInt16 := 0
  patch : UInt32 := 0
  limit : LicenseDate := ⟨0, 0, 0⟩
  start : LicenseDate := ⟨0, 0, 0⟩
  deriving DecidableEq, Repr

/-- `toLicenseAdmin(eLicenseType)`. -/
def toLicenseAdminType (type : Byte) : LicenseM EType :=
  if type = 0 then return .free
  else if type = 1 then return .expirationDate
  else if type = 2 then return .deviceDependent
  else throw typeOutside

/-- `toLicenseAdmin(eLicenseVersion)`. -/
def toLicenseAdminVersion (version : Byte) : LicenseM EVer :=
  if version = 0 then return .alpha
  else if version = 1 then return .beta
  else if version = 2 then return .stable
  else if version = 3 then return .admin
  else throw versionOutside

/-- The two bytes of a 16-bit number, the high one first. -/
def bytes16 (n : UInt16) : Bytes := [((n >>> 8) &&& 0xFF).toUInt8, (n &&& 0xFF).toUInt8]

/-- The four bytes of a 32-bit number, the high one first. -/
def bytes32 (n : UInt32) : Bytes :=
  [((n >>> 24) &&& 0xFF).toUInt8, ((n >>> 16) &&& 0xFF).toUInt8, ((n >>> 8) &&& 0xFF).toUInt8,
    (n &&& 0xFF).toUInt8]

def createLicense (values : LicenseValues) (limit start : LicenseDate) (macAddress : Bytes) :
    Bytes :=
  values.type.value :: values.ver.value :: (bytes16 values.masor ++ bytes16 values.minor ++
    bytes32 values.patch ++ bytes16 limit.year ++ [limit.month, limit.date] ++
    bytes16 start.year ++ [start.month, start.date] ++ macAddress)

/-- The license data of `LicenseWriter::save`, before encryption. -/
def SConfig.create (config : SConfig) (macAddress : Bytes) : LicenseM Bytes := do
  let licenseType ← toLicenseAdminType config.type
  let licenseVersion ← toLicenseAdminVersion config.version
  return createLicense ⟨licenseType, licenseVersion, config.masor, config.minor, config.patch⟩
    config.limit config.start macAddress

/-! ## The analyzer -/

def number16 (high low : Byte) : UInt16 :=
  ((high.toUInt16 <<< 8) &&& 0xFF00) + (low.toUInt16 &&& 0x00FF)

def number32 (b3 b2 b1 b0 : Byte) : UInt32 :=
  ((b3.toUInt32 <<< 24) &&& (0xFF000000 : UInt32)) +
    ((b2.toUInt32 <<< 16) &&& (0x00FF0000 : UInt32)) +
    ((b1.toUInt32 <<< 8) &&& (0x0000FF00 : UInt32)) + (b0.toUInt32 &&& (0x000000FF : UInt32))

/-- A date as the number that is compared. -/
def LicenseDate.number (d : LicenseDate) : Nat :=
  d.year.toNat * 10000 + d.month.toNat * 100 + d.date.toNat

def licenseExpired : LicenseError :=
  ⟨.verification, .licenseExpired, "the license is outside its validity period"⟩

def deviceUnknown : LicenseError :=
  ⟨.verification, .unlicensedDevice, "the device identity cannot be determined"⟩

def unlicensedDevice : LicenseError :=
  ⟨.verification, .unlicensedDevice, "the license does not permit this device"⟩

/-- What an absent license and a foreign one leave in the outputs. -/
def freeValues : LicenseValues := ⟨.free, .alpha, 0, 0, 0⟩

/-- `license_mac_addr`: the loop over the indices from 18 to the size. -/
def licenseMacAddr (licenceData : Bytes) : Bytes := licenceData.drop 18

section Analyze

variable (beyond : Nat → Byte) (today : LicenseDate) (licenceData macAddress : Bytes)

/-- The five values of the license data. -/
def readValues : LicenseM LicenseValues := do
  let at' := index beyond licenceData
  let type : EType := ⟨← at' 0⟩
  let ver : EVer := ⟨← at' 1⟩
  let masor := number16 (← at' 2) (← at' 3)
  let minor := number16 (← at' 4) (← at' 5)
  let patch := number32 (← at' 6) (← at' 7) (← at' 8) (← at' 9)
  return ⟨type, ver, masor, minor, patch⟩

/-- The date at four indices from `i`. -/
def readDate (i : Nat) : LicenseM LicenseDate := do
  let at' := index beyond licenceData
  let year := number16 (← at' i) (← at' (i + 1))
  return ⟨year, ← at' (i + 2), ← at' (i + 3)⟩

/-- The status and the outputs of `analyzeLicence`. -/
def analyzeLicence : LicenseM (LicenseStatus × LicenseValues) := do
  if licenceData.isEmpty then
    return (.ok (), freeValues)
  let values ← readValues beyond licenceData
  discard values.type.toString
  discard values.ver.toString
  if values.type = .expirationDate then
    let limit ← readDate beyond licenceData 10
    let play ← readDate beyond licenceData 14
    if today.number < play.number || limit.number < today.number then
      return (.error licenseExpired, { values with type := .free })
  else if values.type = .deviceDependent then
    if macAddress.isEmpty then
      return (.error deviceUnknown, freeValues)
    if licenseMacAddr licenceData ≠ macAddress then
      return (.error unlicensedDevice, freeValues)
  return (.ok (), values)

end Analyze

/-! ## The loader -/

/-- What `std::ifstream` makes of the license file. -/
inductive LicenseFile
  | cannotOpen
  | sizeUnknown
  | readFails
  | bytes (content : Bytes)
  deriving DecidableEq, Repr

def loadLicence : LicenseFile → LicenseM Bytes
  | .cannotOpen => return []
  | .sizeUnknown => throw .lengthError
  | .readFails => return []
  | .bytes content => return content

/-- `LicenceAdmin::set`. -/
def LicenceAdmin.set (values : LicenseValues) : LicenseM Unit := do
  if (← get).admin.isAlready then
    throw (.logicError "a license is already loaded")
  modify fun s => { s with admin := ⟨values, true⟩ }

/-- What a load finds around it. -/
structure LoadEnv where
  macAddress : Bytes
  file : LicenseFile
  today : LicenseDate
  beyondKey : Nat → Byte := fun _ => 0
  beyondLicence : Nat → Byte := fun _ => 0

/-- `License::load`. -/
def load (key : Bytes) (env : LoadEnv) : LicenseM LicenseStatus := do
  let binary ← loadLicence env.file
  let decodedLicense ← decodeLicense env.beyondKey binary key
  let (analyzed, values) ←
    analyzeLicence env.beyondLicence env.today decodedLicense env.macAddress
  match analyzed with
  | .error e => return .error e
  | .ok () =>
    discard values.type.toString
    discard values.ver.toString
    LicenceAdmin.set values
    return .ok ()

/-! ## The administration -/

def unusableLicense : LicenseError :=
  ⟨.verification, .unusableLicense, "the license does not permit this feature"⟩

def unusableVersion : LicenseError :=
  ⟨.verification, .unusableVersion, "the license does not permit this version"⟩

namespace LicenceAdmin

/-- `version_num`. -/
def versionNum (a : LicenceAdmin) : UInt64 :=
  a.values.masor.toUInt64 * 10000000000000 + a.values.minor.toUInt64 * 100000000 +
    a.values.patch.toUInt64

def checkAlpha (a : LicenceAdmin) (version : UInt64) : LicenseStatus :=
  if a.values.type = .free then .error unusableLicense
  else if a.values.masor.toUInt64 * 10000000000000 < version then .error unusableVersion
  else .ok ()

def checkBeta (a : LicenceAdmin) (version : UInt64) : LicenseStatus :=
  if a.values.type = .free then .error unusableLicense
  else if a.values.masor.toUInt64 * 10000000000000 + a.values.minor.toUInt64 * 100000000 <
      version then .error unusableVersion
  else .ok ()

def checkStable (a : LicenceAdmin) (version : UInt64) : LicenseStatus :=
  if a.values.type = .free then .error unusableLicense
  else if a.values.ver = .admin then .ok ()
  else if a.versionNum < version then .error unusableVersion
  else .ok ()

/-- `checkLicence`, of the administration there is. -/
def checkLicence (a : LicenceAdmin) (ver : EVer) (versionNum : UInt64) : LicenseStatus :=
  if ver = .alpha then a.checkAlpha versionNum
  else if ver = .beta then a.checkBeta versionNum
  else if ver = .stable then a.checkStable versionNum
  else if ver = .admin then a.checkStable versionNum
  else .ok ()

end LicenceAdmin

end WSE.Impl.Wse
