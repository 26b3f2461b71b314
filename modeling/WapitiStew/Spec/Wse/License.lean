import WapitiStew.Impl.Wse.License

/-!
# What a license permits

A license is issued under terms: its values, the days from which and to which
it may be used, and the device it was created on. `MayUse` says on which day
and which device such a license is good. Days of the calendar are ordered by
year, then month, then day.

A license file is data combined byte by byte with a repeated key (`keyed`). The
loader takes the data as it is, so it stays inside only where the key and the
data are long enough (`ReadsInside`).
-/

namespace WSE.Spec.Wse

open WSE.Framework WSE.Impl.Wse

/-! ## Days -/

/-- A day of the calendar. -/
structure CalendarDate extends LicenseDate where
  month_pos : 1 ≤ month.toNat
  month_le : month.toNat ≤ 12
  date_pos : 1 ≤ date.toNat
  date_le : date.toNat ≤ 31

namespace CalendarDate

instance : LE CalendarDate where
  le a b := a.year < b.year ∨ a.year = b.year ∧
    (a.month < b.month ∨ a.month = b.month ∧ a.date ≤ b.date)

instance (a b : CalendarDate) : Decidable (a ≤ b) :=
  inferInstanceAs (Decidable (a.year < b.year ∨ a.year = b.year ∧
    (a.month < b.month ∨ a.month = b.month ∧ a.date ≤ b.date)))

end CalendarDate

/-! ## Keyed data -/

/-- The key byte that byte `i` of the data is combined with. -/
def keyByte (beyond : Nat → Byte) (key : Bytes) (i : Nat) : Byte :=
  if key = [] then beyond i else byteAt beyond key (i % key.length)

def keyed (beyond : Nat → Byte) (key data : Bytes) : Bytes :=
  data.mapIdx fun i d => d ^^^ keyByte beyond key i

/-! ## What a license permits -/

/-- A license with these values, issued on `creator` from `start` to `limit`, is good on the day
`today` and the device `device`. -/
def MayUse (type : EType) (start limit : CalendarDate) (creator : Bytes) (today : CalendarDate)
    (device : Bytes) : Prop :=
  type = .free ∨ type = .expirationDate ∧ start ≤ today ∧ today ≤ limit ∨
    type = .deviceDependent ∧ device ≠ [] ∧ device = creator

instance (type : EType) (start limit : CalendarDate) (creator : Bytes) (today : CalendarDate)
    (device : Bytes) : Decidable (MayUse type start limit creator today device) :=
  inferInstanceAs (Decidable (_ ∨ _ ∨ _))

/-- The values of a configuration. -/
def configured (config : SConfig) : LicenseValues :=
  ⟨⟨config.type⟩, ⟨config.version⟩, config.masor, config.minor, config.patch⟩

/-- The type is one of the enumeration. -/
def DefinedType (type : EType) : Prop := type.value ≤ 2

/-- The kind is one of the enumeration. -/
def DefinedVer (ver : EVer) : Prop := ver.value ≤ 3

instance (type : EType) : Decidable (DefinedType type) := inferInstanceAs (Decidable (_ ≤ _))
instance (ver : EVer) : Decidable (DefinedVer ver) := inferInstanceAs (Decidable (_ ≤ _))

/-! ## License data -/

/-- The date at byte `i` of license data. -/
def dateAt (beyond : Nat → Byte) (data : Bytes) (i : Nat) : LicenseDate :=
  ⟨number16 (byteAt beyond data i) (byteAt beyond data (i + 1)), byteAt beyond data (i + 2),
    byteAt beyond data (i + 3)⟩

/-- The day lies between the two dates of license data, both included, as the numbers
`year * 10000 + month * 100 + day`. -/
def InPeriod (beyond : Nat → Byte) (data : Bytes) (today : LicenseDate) : Prop :=
  (dateAt beyond data 14).number ≤ today.number ∧ today.number ≤ (dateAt beyond data 10).number

instance (beyond : Nat → Byte) (data : Bytes) (today : LicenseDate) :
    Decidable (InPeriod beyond data today) := inferInstanceAs (Decidable (_ ∧ _))

/-- License data of a defined type and kind that licenses more than the free use, on this day and
this device: everything it is judged by stands in the data itself. -/
structure Licensed (data : Bytes) (today : LicenseDate) (device : Bytes) : Prop where
  type : ∃ t, data[0]? = some t ∧ DefinedType ⟨t⟩ ∧ t ≠ 0
  ver : ∃ v, data[1]? = some v ∧ DefinedVer ⟨v⟩
  permitted : data[0]? = some 1 ∧ 18 ≤ data.length ∧ InPeriod (fun _ => 0) data today ∨
    data[0]? = some 2 ∧ device ≠ [] ∧ licenseMacAddr data = device

/-- The bytes that `loadLicence` finds in a file. -/
def content : LicenseFile → Bytes
  | .bytes content => content
  | _ => []

/-- Long enough data: a header, and two dates where the type byte announces them and the kind is
one of the enumeration. -/
def LongEnough (data : Bytes) : Prop :=
  data = [] ∨ 10 ≤ data.length ∧
    (data[0]? = some 1 → ∀ v ∈ data[1]?, DefinedVer ⟨v⟩ → 18 ≤ data.length)

instance (data : Bytes) : Decidable (LongEnough data) := inferInstanceAs (Decidable (_ ∨ _))

/-- The key and the content are long enough for a load to stay inside both. -/
def ReadsInside (key content : Bytes) : Prop :=
  content = [] ∨ key ≠ [] ∧ LongEnough (keyed (fun _ => 0) key content)

instance (key content : Bytes) : Decidable (ReadsInside key content) :=
  inferInstanceAs (Decidable (_ ∨ _))

/-! ## Versions -/

structure Version where
  major : UInt16
  minor : UInt16
  patch : UInt32
  deriving DecidableEq

namespace Version

/-- The number that stands for the version, with the weights of `version_num`. -/
def number (v : Version) : UInt64 :=
  v.major.toUInt64 * 10000000000000 + v.minor.toUInt64 * 100000000 + v.patch.toUInt64

def MajorLE (v w : Version) : Prop := v.major ≤ w.major

def MinorLE (v w : Version) : Prop := v.major < w.major ∨ v.major = w.major ∧ v.minor ≤ w.minor

def PatchLE (v w : Version) : Prop :=
  v.major < w.major ∨ v.major = w.major ∧
    (v.minor < w.minor ∨ v.minor = w.minor ∧ v.patch ≤ w.patch)

instance (v w : Version) : Decidable (v.MajorLE w) := inferInstanceAs (Decidable (_ ≤ _))

instance (v w : Version) : Decidable (v.MinorLE w) := inferInstanceAs (Decidable (_ ∨ _))

instance (v w : Version) : Decidable (v.PatchLE w) := inferInstanceAs (Decidable (_ ∨ _))

end Version

def licensedVersion (values : LicenseValues) : Version := ⟨values.masor, values.minor, values.patch⟩

/-- The license permits what is for this kind and this version on. -/
def Permits (values : LicenseValues) (ver : EVer) (v : Version) : Prop :=
  values.type ≠ .free ∧
    (ver = .alpha ∧ v.MajorLE (licensedVersion values) ∨
      ver = .beta ∧ v.MinorLE (licensedVersion values) ∨
      ver = .stable ∧ (values.ver = .admin ∨ v.PatchLE (licensedVersion values)) ∨
      ver = .admin ∧ values.ver = .admin)

instance (values : LicenseValues) (ver : EVer) (v : Version) : Decidable (Permits values ver v) :=
  inferInstanceAs (Decidable (_ ∧ _))

/-- The parts below the one that is asked for are not compared, and no patch is carried into the
minor version: where they could be, the numbers compare as the versions do. -/
def ComparesAsVersions (values : LicenseValues) (ver : EVer) (v : Version) : Prop :=
  let l := licensedVersion values
  values.type = .free ∨
    (ver = .alpha ∧ (v.major = l.major → v.minor = 0 ∧ v.patch = 0) ∨
      ver = .beta ∧ (v.major = l.major → v.minor ≤ l.minor →
        v.patch.toNat ≤ (l.minor.toNat - v.minor.toNat) * 100000000) ∨
      ver = .stable ∧ (values.ver = .admin ∨ (v.major = l.major →
        (v.minor < l.minor →
          v.patch.toNat ≤ (l.minor.toNat - v.minor.toNat) * 100000000 + l.patch.toNat) ∧
        (l.minor < v.minor →
          l.patch.toNat < (v.minor.toNat - l.minor.toNat) * 100000000 + v.patch.toNat))) ∨
      ver = .admin ∧ (values.ver = .admin ∨ l.number < v.number))

instance (values : LicenseValues) (ver : EVer) (v : Version) :
    Decidable (ComparesAsVersions values ver v) := inferInstanceAs (Decidable (_ ∨ _))

end WSE.Spec.Wse
