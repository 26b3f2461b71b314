import WapitiStew.Spec.Wse.Map

/-!
# Maps keep their shape unless they are moved from

* `shaped_guarded`: the checked accesses trust the extent, and may if the map is shaped.
* `filled_shaped`, `ofData_shaped`, `copy_shaped`, `init_shaped`: the product is checked before
  anything is changed, so what is built or initialized is shaped, and a failure leaves the map as it
  was (`init_error`).
* `allSound_step`: a step keeps all objects sound exactly if it does not move from a map that has
  elements: the move constructor copies the numbers and leaves an empty vector.
* `map_shape`: so for runs.
-/

namespace WSE.Proof.Wse

open WSE.Framework WSE.Impl.Wse WSE.Spec.Wse

variable {α : Type}

/-! ## Access -/

theorem namesOrRefuses_error {m : Map α} {first count : Nat} :
    NamesOrRefuses m (.error Map.outside) first count :=
  .inl ⟨_, rfl⟩

theorem row_within {m : Map α} (h : Shaped m) {y : UInt64} (hy : y < m.height) :
    y.toNat * m.width.toNat + m.width.toNat ≤ m.data.length := by
  have := Nat.mul_le_mul_right m.width.toNat (Nat.succ_le_of_lt (UInt64.lt_iff_toNat_lt.mp hy))
  rw [Nat.succ_mul, Nat.mul_comm m.height.toNat] at this
  rw [h.length]
  exact this

theorem toNat_row {m : Map α} (h : Shaped m) {y : UInt64} (hy : y < m.height) :
    (y * m.width).toNat = y.toNat * m.width.toNat := by
  rw [UInt64.toNat_mul]
  apply Nat.mod_eq_of_lt
  have := row_within h hy
  have := h.length
  have := h.representable
  omega

theorem toNat_at {m : Map α} (h : Shaped m) {x y : UInt64} (hx : x < m.width)
    (hy : y < m.height) :
    (y * m.width + x).toNat = y.toNat * m.width.toNat + x.toNat := by
  rw [UInt64.toNat_add, toNat_row h hy]
  apply Nat.mod_eq_of_lt
  have := row_within h hy
  have := UInt64.lt_iff_toNat_lt.mp hx
  have := h.length
  have := h.representable
  omega

theorem at_ok {m : Map α} {x y : UInt64} (hx : x < m.width) (hy : y < m.height) :
    m.at' x y = .ok (y * m.width + x) := by
  apply if_neg
  rintro (h | h)
  · exact UInt64.not_lt.mpr h hx
  · exact UInt64.not_lt.mpr h hy

theorem row_ok {m : Map α} {y : UInt64} (hy : y < m.height) (hw : 0 < m.width) :
    m.row y = .ok (y * m.width) := by
  apply if_neg
  rintro (h | h)
  · exact UInt64.not_lt.mpr h hy
  · rw [h] at hw
    exact absurd hw (by decide)

theorem shaped_at {m : Map α} (h : Shaped m) (x y : UInt64) :
    NamesOrRefuses m (m.at' x y) (y.toNat * m.width.toNat + x.toNat) 1 := by
  by_cases hx : x < m.width
  · by_cases hy : y < m.height
    · refine .inr ⟨_, at_ok hx hy, toNat_at h hx hy, ?_, Nat.one_pos⟩
      have := row_within h hy
      have := UInt64.lt_iff_toNat_lt.mp hx
      omega
    · rw [Map.at', if_pos (.inr (UInt64.not_lt.mp hy))]
      exact namesOrRefuses_error
  · rw [Map.at', if_pos (.inl (UInt64.not_lt.mp hx))]
    exact namesOrRefuses_error

theorem shaped_row {m : Map α} (h : Shaped m) (y : UInt64) :
    NamesOrRefuses m (m.row y) (y.toNat * m.width.toNat) m.width.toNat := by
  rw [Map.row]
  split
  · exact namesOrRefuses_error
  · rename_i hc
    obtain ⟨hy, hw⟩ := not_or.mp hc
    have hy : y < m.height := UInt64.not_le.mp hy
    refine .inr ⟨_, rfl, toNat_row h hy, row_within h hy, ?_⟩
    exact Nat.pos_of_ne_zero fun h0 => hw (UInt64.toNat_inj.mp h0)

theorem element_names (m : Map α) (index : UInt64) :
    NamesOrRefuses m (m.element index) index.toNat 1 := by
  rw [Map.element]
  split
  · exact namesOrRefuses_error
  · exact .inr ⟨index, rfl, rfl, by omega, Nat.one_pos⟩

theorem front_names (m : Map α) : NamesOrRefuses m m.front 0 1 := by
  rw [Map.front]
  split
  · exact namesOrRefuses_error
  · rename_i h
    refine .inr ⟨0, rfl, rfl, ?_, Nat.one_pos⟩
    exact List.length_pos_iff.mpr fun he => h (List.isEmpty_iff.mpr he)

theorem shaped_guarded {m : Map α} (h : Shaped m) : Guarded m where
  at' := shaped_at h
  row := shaped_row h
  element := element_names m
  front := front_names m
  inside _ _ hx hy := ⟨_, at_ok hx hy⟩
  rows _ hy hw := ⟨_, row_ok hy hw⟩

/-! ## Construction -/

theorem checkedCount_ok {width height count : UInt64}
    (h : Map.checkedCount width height = .ok count) :
    count.toNat = width.toNat * height.toNat ∧ width.toNat * height.toNat < 2 ^ 64 := by
  rw [Map.checkedCount] at h
  split at h
  · cases h
  · rename_i hc
    cases h
    have hlt : width.toNat * height.toNat < 2 ^ 64 := by
      by_cases h0 : height = 0
      · rw [h0, UInt64.toNat_zero, Nat.mul_zero]
        exact Nat.two_pow_pos 64
      · have hle : width ≤ 0xFFFFFFFFFFFFFFFF / height := UInt64.not_lt.mp fun h => hc ⟨h0, h⟩
        have hle := UInt64.le_iff_toNat_le.mp hle
        rw [UInt64.toNat_div] at hle
        have hpos : 0 < height.toNat :=
          Nat.pos_of_ne_zero fun h => h0 (UInt64.toNat_inj.mp h)
        have := (Nat.le_div_iff_mul_le hpos).mp hle
        have hmax : (0xFFFFFFFFFFFFFFFF : UInt64).toNat = 2 ^ 64 - 1 := by decide
        omega
    exact ⟨by rw [UInt64.toNat_mul, Nat.mod_eq_of_lt hlt], hlt⟩

theorem vector_ok {memory : Bool} {count : UInt64} {value : α} {data : List α}
    (h : Map.vector memory count value = .ok data) : data.length = count.toNat := by
  cases memory with
  | false => cases h
  | true =>
    cases h
    exact List.length_replicate

theorem copyVector_ok {memory : Bool} {data copied : List α}
    (h : Map.copyVector memory data = .ok copied) : copied = data := by
  cases memory with
  | false => cases h
  | true =>
    cases h
    rfl

theorem default_shaped : Shaped (Map.default : Map α) := ⟨rfl, Nat.two_pow_pos 64⟩

theorem filled_shaped {memory : Bool} {width height : UInt64} {value : α} {m : Map α}
    (h : Map.filled memory width height value = .ok m) : Shaped m := by
  obtain ⟨count, hcount, h⟩ := except_bind_ok h
  obtain ⟨data, hdata, h⟩ := except_bind_ok h
  cases h
  obtain ⟨hn, hlt⟩ := checkedCount_ok hcount
  exact ⟨(vector_ok hdata).trans hn, hlt⟩

theorem ofData_shaped {memory : Bool} {width height : UInt64} {data : List α} {m : Map α}
    (h : Map.ofData memory width height data = .ok m) : Shaped m := by
  obtain ⟨copied, hcopied, h⟩ := except_bind_ok h
  obtain ⟨count, hcount, h⟩ := except_bind_ok h
  obtain ⟨hn, hlt⟩ := checkedCount_ok hcount
  obtain ⟨hlen, h⟩ := unless_ok h rfl
  cases h
  rw [copyVector_ok hcopied]
  exact ⟨(not_not.mp hlen).symm.trans hn, hlt⟩

/-- A copy is the map again. -/
theorem copy_ok {memory : Bool} {obj m : Map α} (h : obj.copy memory = .ok m) : m = obj := by
  obtain ⟨data, hdata, h⟩ := except_bind_ok h
  cases h
  rw [copyVector_ok hdata]

/-- Moving leaves a shaped map only where there was nothing to move. -/
theorem move_shaped {obj : Map α} (h : Shaped obj) :
    Shaped obj.move.2 ↔ obj.width = 0 ∨ obj.height = 0 := by
  have hiff : obj.width.toNat * obj.height.toNat = 0 ↔ obj.width = 0 ∨ obj.height = 0 := by
    rw [Nat.mul_eq_zero]
    exact or_congr (UInt64.toNat_inj (b := 0)) (UInt64.toNat_inj (b := 0))
  rw [← hiff]
  exact ⟨fun hs => hs.length.symm, fun h0 => ⟨h0.symm, h.representable⟩⟩

theorem init_cases (value : α) (memory : Bool) (width height : UInt64) (m : Map α) :
    (∃ e, Map.init value memory width height m = .error e m) ∨
      ∃ t, Map.init value memory width height m = .ok () t ∧ Shaped t := by
  rw [Map.init]
  cases hc : Map.checkedCount width height >>= (Map.vector memory · value) with
  | error e => exact .inl ⟨e, bind_error rfl⟩
  | ok data =>
    obtain ⟨count, hcount, hdata⟩ := except_bind_ok hc
    obtain ⟨hn, hlt⟩ := checkedCount_ok hcount
    exact .inr ⟨⟨data, width, height⟩, rfl, (vector_ok hdata).trans hn, hlt⟩

theorem write_shaped {m : Map α} (h : Shaped m) (k : Nat) (value : α) :
    Shaped (m.write k value) :=
  ⟨List.length_set.trans h.length, h.representable⟩

/-! ## Objects -/

theorem allSound_iff {s : Maps α} : AllSound s ↔ ∀ i m, s i = some m → Shaped m :=
  ⟨fun h i m hi => (h i m hi).1, fun h i m hi => ⟨h i m hi, shaped_guarded (h i m hi)⟩⟩

theorem allSound_set {s : Maps α} (h : AllSound s) {i : Nat} {m : Map α} (hm : Shaped m) :
    AllSound (s.set i (some m)) := by
  rw [allSound_iff]
  intro k n hk
  obtain ⟨-, hn⟩ | ⟨-, hk⟩ := Table.set_cases hk
  · cases hn
    exact hm
  · exact (h _ _ hk).1

theorem allSound_erase {s : Maps α} (h : AllSound s) (i : Nat) : AllSound (s.set i none) := by
  intro k n hk
  obtain ⟨-, hn⟩ | ⟨-, hk⟩ := Table.set_cases hk
  · cases hn
  · exact h k n hk

/-- Where one map takes another's elements, the other is shaped only if there were none. -/
theorem allSound_moved {s : Maps α} (h : AllSound s) {i j : Nat} {obj : Map α}
    (hj : s j = some obj) (hij : i ≠ j) :
    AllSound ((s.set j (some obj.move.2)).set i (some obj)) ↔ Without s j := by
  have hobj := (h _ _ hj).1
  have hmoved := move_shaped hobj
  constructor
  · intro ht m hm
    cases hj.symm.trans hm
    have hset : (s.set j (some obj.move.2)).set i (some obj) j = some obj.move.2 := by
      rw [Table.set_ne hij.symm, Table.set_same]
    exact hmoved.mp (ht j _ hset).1
  · intro hw
    exact allSound_set (allSound_set h (hmoved.mpr (hw obj hj))) hobj

theorem construct_step {s t : Maps α} (h : AllSound s) {i : Nat} {c : MapConstructor α}
    {memory : Bool} (hs : Maps.step s (.construct i c memory) = some t) :
    AllSound t ↔ MovesEmpty s (.construct i c memory) := by
  obtain ⟨⟨r, t'⟩, hcall, rfl⟩ := Option.map_eq_some_iff.mp hs
  rw [Maps.call] at hcall
  split at hcall
  case isFalse => cases hcall
  case isTrue hi =>
  obtain ⟨r', hr', hcall⟩ := Option.map_eq_some_iff.mp hcall
  cases c with
  | default =>
    cases hr'
    cases hcall
    exact iff_of_true (allSound_set h default_shaped) trivial
  | filled width height value =>
    cases hr'
    refine iff_of_true ?_ trivial
    cases hm : Map.filled memory width height value with
    | error e =>
      rw [hm] at hcall
      cases hcall
      exact h
    | ok m =>
      rw [hm] at hcall
      cases hcall
      exact allSound_set h (filled_shaped hm)
  | ofData width height data =>
    cases hr'
    refine iff_of_true ?_ trivial
    cases hm : Map.ofData memory width height data with
    | error e =>
      rw [hm] at hcall
      cases hcall
      exact h
    | ok m =>
      rw [hm] at hcall
      cases hcall
      exact allSound_set h (ofData_shaped hm)
  | copy j =>
    obtain ⟨obj, hj, rfl⟩ := Option.map_eq_some_iff.mp hr'
    refine iff_of_true ?_ trivial
    cases hm : obj.copy memory with
    | error e =>
      rw [hm] at hcall
      cases hcall
      exact h
    | ok m =>
      rw [hm] at hcall
      cases hcall
      rw [copy_ok hm]
      exact allSound_set h (h _ _ hj).1
  | move j =>
    obtain ⟨obj, hj, rfl⟩ := Option.map_eq_some_iff.mp hr'
    cases hcall
    refine allSound_moved h hj ?_
    rintro rfl
    exact nomatch hi.symm.trans hj

theorem copyAssign_step {s t : Maps α} (h : AllSound s) {i j : Nat} {memory : Bool}
    (hs : Maps.step s (.copyAssign i j memory) = some t) : AllSound t := by
  obtain ⟨⟨r, t'⟩, hcall, rfl⟩ := Option.map_eq_some_iff.mp hs
  obtain ⟨obj, hj, hcall⟩ := Option.bind_eq_some_iff.mp hcall
  obtain ⟨self, hi, hcall⟩ := Option.map_eq_some_iff.mp hcall
  cases hm : obj.copy memory with
  | error e =>
    rw [hm] at hcall
    cases hcall
    exact h
  | ok m =>
    rw [hm] at hcall
    cases hcall
    rw [copy_ok hm]
    exact allSound_set h (h _ _ hj).1

theorem moveAssign_step {s t : Maps α} (h : AllSound s) {i j : Nat}
    (hs : Maps.step s (.moveAssign i j) = some t) :
    AllSound t ↔ MovesEmpty s (.moveAssign i j) := by
  obtain ⟨⟨r, t'⟩, hcall, rfl⟩ := Option.map_eq_some_iff.mp hs
  obtain ⟨obj, hj, hcall⟩ := Option.bind_eq_some_iff.mp hcall
  obtain ⟨self, hi, hcall⟩ := Option.map_eq_some_iff.mp hcall
  cases hcall
  by_cases hij : i = j
  · subst hij
    refine iff_of_true ?_ (.inl rfl)
    rw [allSound_iff]
    intro k n hk
    obtain ⟨-, hn⟩ | ⟨hne, hk⟩ := Table.set_cases hk
    · cases hn
      exact (h _ _ hj).1
    · rw [Table.set_ne hne] at hk
      exact (h _ _ hk).1
  · exact (allSound_moved h hj hij).trans (or_iff_right hij).symm

theorem write_cases {s t : Maps α} {i : Nat} {p : MapPlace} {value : α} {r : Except MapError Unit}
    (h : Maps.write s i p value = some (r, t)) :
    (∃ e, r = .error e ∧ t = s) ∨
      ∃ m k, s i = some m ∧ r = .ok () ∧ t = s.set i (some (m.write k value)) := by
  obtain ⟨m, hi, h⟩ := Option.bind_eq_some_iff.mp h
  obtain ⟨q, hq, h⟩ := Option.bind_eq_some_iff.mp h
  cases q with
  | error e =>
    cases h
    exact .inl ⟨e, rfl, rfl⟩
  | ok k =>
    obtain ⟨-, h⟩ := Option.ite_none_right_eq_some.mp h
    cases h
    exact .inr ⟨m, k, hi, rfl, rfl⟩

/-- One step: the maps stay sound exactly if it does not move elements away. -/
theorem allSound_step (s : Maps α) (c : MapCall α) (t : Maps α) (h : AllSound s)
    (hs : Maps.step s c = some t) : AllSound t ↔ MovesEmpty s c := by
  cases c with
  | construct i c memory => exact construct_step h hs
  | moveAssign i j => exact moveAssign_step h hs
  | copyAssign i j memory => exact iff_of_true (copyAssign_step h hs) trivial
  | destroy i =>
    obtain ⟨⟨r, t'⟩, hcall, rfl⟩ := Option.map_eq_some_iff.mp hs
    obtain ⟨m, hi, hcall⟩ := Option.map_eq_some_iff.mp hcall
    cases hcall
    exact iff_of_true (allSound_erase h i) trivial
  | init i width height value memory =>
    obtain ⟨⟨r, t'⟩, hcall, rfl⟩ := Option.map_eq_some_iff.mp hs
    obtain ⟨m, hi, hcall⟩ := Option.map_eq_some_iff.mp hcall
    refine iff_of_true ?_ trivial
    obtain ⟨e, he⟩ | ⟨n, hn, hshaped⟩ := init_cases value memory width height m
    · rw [he] at hcall
      cases hcall
      exact allSound_set h (h _ _ hi).1
    · rw [hn] at hcall
      cases hcall
      exact allSound_set h hshaped
  | swap i j =>
    obtain ⟨⟨r, t'⟩, hcall, rfl⟩ := Option.map_eq_some_iff.mp hs
    obtain ⟨a, hi, hcall⟩ := Option.bind_eq_some_iff.mp hcall
    obtain ⟨b, hj, hcall⟩ := Option.map_eq_some_iff.mp hcall
    cases hcall
    exact iff_of_true (allSound_set (allSound_set h (h _ _ hj).1) (h _ _ hi).1) trivial
  | write i p value =>
    obtain ⟨⟨r, t'⟩, hcall, rfl⟩ := Option.map_eq_some_iff.mp hs
    refine iff_of_true ?_ trivial
    obtain ⟨e, -, rfl⟩ | ⟨m, k, hi, -, rfl⟩ := write_cases hcall
    · exact h
    · exact allSound_set h (write_shaped (h _ _ hi).1 k value)

/-! ## Failures -/

/-- A call that fails leaves the objects as they were. -/
theorem call_error {s t : Maps α} {c : MapCall α} {e : MapError}
    (h : Maps.call s c = some (.error e, t)) : t = s := by
  cases c with
  | construct i c memory =>
    rw [Maps.call] at h
    split at h
    · obtain ⟨r, hr, h⟩ := Option.map_eq_some_iff.mp h
      cases r <;> cases h
      rfl
    · cases h
  | destroy i =>
    obtain ⟨m, hi, h⟩ := Option.map_eq_some_iff.mp h
    cases h
  | init i width height value memory =>
    obtain ⟨m, hi, h⟩ := Option.map_eq_some_iff.mp h
    obtain ⟨e', he⟩ | ⟨n, hn, -⟩ := init_cases value memory width height m
    · rw [he] at h
      cases h
      exact Table.set_self hi
    · rw [hn] at h
      cases h
  | copyAssign i j memory =>
    obtain ⟨obj, hj, h⟩ := Option.bind_eq_some_iff.mp h
    obtain ⟨self, hi, h⟩ := Option.map_eq_some_iff.mp h
    cases hm : obj.copy memory <;> rw [hm] at h <;> cases h
    rfl
  | moveAssign i j =>
    obtain ⟨obj, hj, h⟩ := Option.bind_eq_some_iff.mp h
    obtain ⟨self, hi, h⟩ := Option.map_eq_some_iff.mp h
    cases h
  | swap i j =>
    obtain ⟨a, hi, h⟩ := Option.bind_eq_some_iff.mp h
    obtain ⟨b, hj, h⟩ := Option.map_eq_some_iff.mp h
    cases h
  | write i p value =>
    obtain ⟨e', -, ht⟩ | ⟨m, k, hi, hr, -⟩ := write_cases h
    · exact ht
    · cases hr

/-! ## Runs -/

theorem allSound_empty : AllSound (∅ : Maps α) := fun _ _ h => nomatch h

/-- All maps of a run keep their shape, and their accesses stay inside, exactly if no step moves
from a map that has elements; a call that fails changes nothing in any run. -/
theorem map_shape {s : Maps α} {cs : List (MapCall α)} (hr : run Maps.step ∅ cs = some s) :
    (Along Maps.step MovesEmpty ∅ cs ↔
      ∀ as bs t, cs = as ++ bs → run Maps.step ∅ as = some t → AllSound t) ∧
    ∀ c e t, Maps.call s c = some (.error e, t) → t = s :=
  ⟨along_iff_invariant allSound_step allSound_empty hr, fun _ _ _ h => call_error h⟩

/-- A map of one element is made, copied, initialized to two and assigned to itself. -/
def mapCalls : List (MapCall Nat) :=
  [.construct 0 (.filled 1 1 7) true, .construct 1 (.copy 0) true, .init 1 2 1 0 true,
    .moveAssign 1 1, .init 0 0xFFFFFFFFFFFFFFFF 2 0 true]

theorem map_shape_kept : ∃ s : Maps Nat, run Maps.step ∅ mapCalls = some s ∧
    (s 0 = some ⟨[7], 1, 1⟩ ∧ s 1 = some ⟨[0, 0], 2, 1⟩) ∧ AllSound s :=
  have hr : run Maps.step (∅ : Maps Nat) mapCalls = some _ := rfl
  ⟨_, hr, ⟨rfl, rfl⟩, (map_shape hr).1.mp (by decide) mapCalls [] _ (List.append_nil _).symm hr⟩

/-- A map of one element is moved from: it still says that it has one, and `at` hands out an
element of an empty vector. -/
theorem map_shape_broken : ¬∀ (s : Maps Nat) (cs : List (MapCall Nat)),
    run Maps.step ∅ cs = some s → AllSound s := by
  intro h
  have hs := h _ [.construct 0 (.filled 1 1 7) true, .construct 1 (.move 0) true] rfl
  have h0 := (hs 0 ⟨[], 1, 1⟩ rfl).2.at' 0 0
  obtain ⟨message, he⟩ | ⟨i, hi, -, hle, -⟩ := h0
  · cases he
  · exact absurd hle (by decide)

end WSE.Proof.Wse
