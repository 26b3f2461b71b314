import WapitiStew.Framework.Throwing
import WapitiStew.Spec.Wse.Range

/-!
# Ranges that are never inverted

Every method comes down to members that are written and then checked: what is written stays
(`call_eq`), so that the call keeps the ranges exactly when it is upright (`keeps_method`).
-/

namespace WSE.Proof.Wse

open WSE.Framework WSE.Impl.Wse WSE.Spec.Wse

variable {overflow : Int → Int → Int} {s s' : RangeObjects} {o p : RangeObject} {name : Nat}

/-! ## One range -/

/-- The check finds out what is not upright. -/
class Judged (ρ : Type) [RangeLike ρ] : Prop where
  inverted_iff : ∀ r : ρ, RangeLike.inverted r = true ↔ ¬ Upright (RangeLike.toAny r)

instance : Judged Range1 where
  inverted_iff r := by
    show decide (r.minimum > r.maximum) = true ↔ ¬ r.minimum ≤ r.maximum
    rw [decide_eq_true_eq]
    omega

instance : Judged Range2 where
  inverted_iff r := by
    show (decide (r.minX > r.maxX) || decide (r.minY > r.maxY)) = true ↔
      ¬ (r.minX ≤ r.maxX ∧ r.minY ≤ r.maxY)
    simp only [Bool.or_eq_true, decide_eq_true_eq]
    omega

instance : Judged Range3 where
  inverted_iff r := by
    show (decide (r.minX > r.maxX) || decide (r.minY > r.maxY) || decide (r.minZ > r.maxZ)) =
      true ↔ ¬ (r.minX ≤ r.maxX ∧ r.minY ≤ r.maxY ∧ r.minZ ≤ r.maxZ)
    simp only [Bool.or_eq_true, decide_eq_true_eq]
    omega

section

variable {ρ : Type} [RangeLike ρ] [Judged ρ] {r : ρ} {f : ρ → ρ}

theorem checkMemberSetting_upright (h : Upright (RangeLike.toAny r)) :
    checkMemberSetting r = .ok () r := by
  have hf : RangeLike.inverted r = false := by
    rw [Bool.eq_false_iff, ne_eq, Judged.inverted_iff, not_not]
    exact h
  show (if RangeLike.inverted r = true then _ else _ : EStateM String ρ Unit) r = _
  rw [hf]
  rfl

theorem checkMemberSetting_inverted (h : ¬ Upright (RangeLike.toAny r)) :
    checkMemberSetting r = .error invertedMessage r := by
  have ht := (Judged.inverted_iff r).mpr h
  show (if RangeLike.inverted r = true then _ else _ : EStateM String ρ Unit) r = _
  rw [ht]
  rfl

/-- What is made by a constructor that checks is upright. -/
theorem makeChecked_cases (r : ρ) : (Upright (RangeLike.toAny r) ∧ makeChecked r = .ok r) ∨
    ∃ e, makeChecked r = .error e := by
  by_cases h : Upright (RangeLike.toAny r)
  · refine .inl ⟨h, ?_⟩
    rw [makeChecked, checkMemberSetting_upright h]
  · refine .inr ⟨invertedMessage, ?_⟩
    rw [makeChecked, checkMemberSetting_inverted h]

end

/-! ## The objects -/

theorem mem_of_object (h : s.object name = some o) : some o ∈ s := by
  rw [RangeObjects.object, Option.join_eq_some_iff] at h
  exact List.mem_of_getElem? h

theorem object_lt (h : s.object name = some o) : name < s.length := by
  rw [RangeObjects.object, Option.join_eq_some_iff] at h
  exact (List.getElem?_eq_some_iff.mp h).1

theorem neverInverted_append (h : NeverInverted s) (ho : Upright o.range) :
    NeverInverted (s ++ [some o]) := by
  intro p hp
  rcases List.mem_append.mp hp with hp | hp
  · exact h p hp
  · cases List.mem_singleton.mp hp
    exact ho

theorem neverInverted_set (h : NeverInverted s) {x : Option RangeObject}
    (hx : ∀ o, x = some o → Upright o.range) : NeverInverted (s.set name x) := by
  intro p hp
  rcases List.mem_or_eq_of_mem_set hp with hp | hp
  · exact h p hp
  · exact hx p hp.symm

theorem upright_argument (h : NeverInverted s) {t : IntegerType} {r : Range1}
    (hr : s.argument t name = some r) : r.minimum ≤ r.maximum := by
  obtain ⟨o, ho, hr⟩ := Option.bind_eq_some_iff.mp hr
  split at hr
  · have hany := RangeLike.ofAny_eq_some.mp hr
    have hup := h o (mem_of_object ho)
    rw [hany] at hup
    exact hup
  · cases hr

/-! ## Calls -/

/-- A call that ends without an exception keeps the ranges if it leaves them upright. -/
theorem keepsUpright_of_ok {c : RangeCall}
    (h : ∀ out, s.perform overflow c = some out → out.1 = .ok () ∧ NeverInverted out.2) :
    KeepsUpright overflow s c := by
  intro result s' hr
  obtain ⟨hok, hup⟩ := h _ hr
  refine ⟨hup, fun e he => ?_⟩
  cases hok.symm.trans he

theorem keepsUpright_make {ρ : Type} [RangeLike ρ] [Judged ρ] (h : NeverInverted s)
    {t : IntegerType} {r : ρ} {result : Except String Unit}
    (hr : s.make t (makeChecked r) = (result, s')) :
    NeverInverted s' ∧ ∀ e, result = .error e → s' = s := by
  rcases makeChecked_cases r with ⟨hup, he⟩ | ⟨e, he⟩
  · rw [he] at hr
    cases hr
    exact ⟨neverInverted_append h hup, nofun⟩
  · rw [he] at hr
    cases hr
    exact ⟨h, fun _ _ => rfl⟩

section

variable {ρ : Type} [RangeLike ρ] [Judged ρ]

/-- What is written stays, whether the check passes or throws. -/
theorem call_eq {f : IntegerType → Option (ρ → ρ)} {r : ρ} {g : ρ → ρ}
    (ho : s.object name = some o) (hr : o.range = RangeLike.toAny r) (hf : f o.type = some g) :
    ∃ result, s.call name (fun t => (f t).map writeMembers) =
        some (result, s.set name (some { o with range := RangeLike.toAny (g r) })) ∧
      (result = .ok () ↔ Upright (RangeLike.toAny (g r))) := by
  have hany : RangeLike.ofAny o.range = some r := RangeLike.ofAny_eq_some.mpr hr
  have hw : writeMembers g r = checkMemberSetting (g r) := rfl
  rw [RangeObjects.call, ho]
  simp only [Option.bind_eq_bind, Option.bind_some, Option.map_some, hany, hf, hw]
  by_cases h : Upright (RangeLike.toAny (g r))
  · rw [checkMemberSetting_upright h]
    exact ⟨_, rfl, iff_of_true rfl h⟩
  · rw [checkMemberSetting_inverted h]
    exact ⟨_, rfl, iff_of_false nofun h⟩

/-- A method keeps the ranges exactly when what it writes is upright. -/
theorem keeps_method (h : NeverInverted s) {c : RangeCall} {f : IntegerType → Option (ρ → ρ)}
    (hc : s.perform overflow c = s.call name fun t => (f t).map writeMembers) :
    KeepsUpright overflow s c ↔ ∀ t r g, s.object name = some ⟨t, RangeLike.toAny r⟩ →
      f t = some g → Upright (RangeLike.toAny (g r)) := by
  constructor
  · intro hk t r g ho hf
    obtain ⟨result, hcall, -⟩ := call_eq ho rfl hf
    obtain ⟨hup, -⟩ := hk _ _ (hc.trans hcall)
    exact hup _ (List.mem_set (object_lt ho) _)
  · intro hk result s' hr
    rw [hc] at hr
    obtain ⟨o, ho, hrest⟩ := Option.bind_eq_some_iff.mp hr
    obtain ⟨r, hany, hrest⟩ := Option.bind_eq_some_iff.mp hrest
    obtain ⟨m, hm, -⟩ := Option.bind_eq_some_iff.mp hrest
    obtain ⟨g, hf, -⟩ := Option.map_eq_some_iff.mp hm
    have hany := RangeLike.ofAny_eq_some.mp hany
    obtain ⟨t, a⟩ := o
    cases hany
    have hup := hk t r g ho hf
    obtain ⟨_, hcall, hok⟩ := call_eq ho rfl hf
    cases hcall.symm.trans hr
    refine ⟨neverInverted_set h ?_, fun e he => ?_⟩
    · rintro _ ⟨⟩
      exact hup
    · cases (hok.mpr hup).symm.trans he

/-- A setup, which writes all members. -/
theorem keeps_setup (h : NeverInverted s) {c : RangeCall} {members : IntegerType → Option ρ}
    (hc : s.perform overflow c = s.setup name members) :
    KeepsUpright overflow s c ↔ ∀ t (r : ρ), s.object name = some ⟨t, RangeLike.toAny r⟩ →
      ∀ m, members t = some m → Upright (RangeLike.toAny m) := by
  have hset : s.setup name members = s.call name fun t =>
      ((members t).map fun m _ => m).map writeMembers := by
    simp only [RangeObjects.setup, Option.map_map]
    rfl
  rw [keeps_method h (hc.trans hset)]
  constructor
  · intro hk t r ho m hm
    exact hk t r (fun _ => m) ho (by rw [hm]; rfl)
  · intro hk t r g ho hg
    obtain ⟨m, hm, rfl⟩ := Option.map_eq_some_iff.mp hg
    exact hk t r ho m hm

/-- A setup from values. -/
theorem keeps_values (h : NeverInverted s) {c : RangeCall} {m : IntegerType → ρ}
    (hc : s.perform overflow c = s.setup name fun t => some (m t)) :
    KeepsUpright overflow s c ↔ ∀ t (r : ρ), s.object name = some ⟨t, RangeLike.toAny r⟩ →
      Upright (RangeLike.toAny (m t)) := by
  rw [keeps_setup h hc]
  constructor
  · intro hk t r ho
    exact hk t r ho (m t) rfl
  · rintro hk t r ho _ ⟨⟩
    exact hk t r ho

/-- A setter. -/
theorem keeps_set (h : NeverInverted s) {c : RangeCall} {f : IntegerType → ρ → ρ}
    (hc : s.perform overflow c = s.call name fun t => some (writeMembers (f t))) :
    KeepsUpright overflow s c ↔ ∀ t (r : ρ), s.object name = some ⟨t, RangeLike.toAny r⟩ →
      Upright (RangeLike.toAny (f t r)) := by
  rw [keeps_method (f := fun t => some (f t)) h hc]
  constructor
  · intro hk t r ho
    exact hk t r (f t) ho rfl
  · rintro hk t r _ ho ⟨⟩
    exact hk t r ho

end

theorem object_of_pair {first second : Nat} (h : s.pair first second = some (o, p)) :
    some o ∈ s ∧ some p ∈ s := by
  obtain ⟨o', ho, h⟩ := Option.bind_eq_some_iff.mp h
  obtain ⟨p', hp, h⟩ := Option.bind_eq_some_iff.mp h
  split at h
  · cases h
    exact ⟨mem_of_object ho, mem_of_object hp⟩
  · cases h

section

variable (h : NeverInverted s)

include h

theorem neverInverted_mem (ho : some o ∈ s) : ∀ p, some o = some p → Upright p.range := by
  rintro _ ⟨⟩
  exact h o ho

theorem keeps_construct {ρ : Type} [RangeLike ρ] [Judged ρ] {c : RangeCall} {t : IntegerType}
    {members : Option ρ}
    (hc : s.perform overflow c = members.bind fun r => some (s.make t (makeChecked r))) :
    KeepsUpright overflow s c := by
  intro result s' hr
  obtain ⟨r, -, hr⟩ := Option.bind_eq_some_iff.mp (hc.symm.trans hr)
  exact keepsUpright_make h (Option.some.inj hr)

theorem keeps_copy (source : Nat) : KeepsUpright overflow s (.copyConstruct source) ∧
    KeepsUpright overflow s (.moveConstruct source) := by
  have hcopy : ∀ out, s.perform overflow (.copyConstruct source) = some out →
      out.1 = .ok () ∧ NeverInverted out.2 := by
    intro out hout
    obtain ⟨o, ho, hout⟩ := Option.bind_eq_some_iff.mp hout
    cases hout
    exact ⟨rfl, neverInverted_append h (h o (mem_of_object ho))⟩
  exact ⟨keepsUpright_of_ok hcopy, keepsUpright_of_ok hcopy⟩

theorem keeps_assign (name source : Nat) : KeepsUpright overflow s (.copyAssign name source) ∧
    KeepsUpright overflow s (.moveAssign name source) := by
  have hassign : ∀ out, s.perform overflow (.copyAssign name source) = some out →
      out.1 = .ok () ∧ NeverInverted out.2 := by
    intro out hout
    obtain ⟨q, hq, hout⟩ := Option.bind_eq_some_iff.mp hout
    cases hout
    exact ⟨rfl, neverInverted_set h (neverInverted_mem h (object_of_pair hq).2)⟩
  exact ⟨keepsUpright_of_ok hassign, keepsUpright_of_ok hassign⟩

theorem keeps_swap (first second : Nat) : KeepsUpright overflow s (.swap first second) := by
  apply keepsUpright_of_ok
  intro out hout
  obtain ⟨q, hq, hout⟩ := Option.bind_eq_some_iff.mp hout
  cases hout
  obtain ⟨ho, hp⟩ := object_of_pair hq
  have hfirst : NeverInverted (s.set first (some q.2)) :=
    neverInverted_set h (neverInverted_mem h hp)
  exact ⟨rfl, neverInverted_set hfirst (neverInverted_mem h ho)⟩

theorem keeps_destroy (name : Nat) : KeepsUpright overflow s (.destroy name) := by
  apply keepsUpright_of_ok
  intro out hout
  obtain ⟨o, -, hout⟩ := Option.bind_eq_some_iff.mp hout
  cases hout
  exact ⟨rfl, neverInverted_set h fun o ho => absurd ho.symm (Option.some_ne_none o)⟩

theorem keeps_default {ρ : Type} [RangeLike ρ] {c : RangeCall} {t : IntegerType} {r : ρ}
    (hr : Upright (RangeLike.toAny r)) (hc : s.perform overflow c = some (s.make t (.ok r))) :
    KeepsUpright overflow s c := by
  apply keepsUpright_of_ok
  intro out hout
  cases hc.symm.trans hout
  exact ⟨rfl, neverInverted_append h hr⟩

/-! ## What suits a call -/

theorem keeps_setup1 (name : Nat) (arguments : Setup1) :
    KeepsUpright overflow s (.setup1 name arguments) ↔
      Suits overflow s (.setup1 name arguments) := by
  cases arguments with
  | bounds minimum maximum =>
    exact keeps_values (c := .setup1 name (.bounds minimum maximum))
      (m := fun t => (⟨t.cast minimum, t.cast maximum⟩ : Range1)) h rfl
  | range source =>
    have hkeeps : KeepsUpright overflow s (.setup1 name (.range source)) ↔ _ := keeps_setup h rfl
    exact iff_of_true (hkeeps.mpr fun t r _ m hm => upright_argument h hm) trivial

theorem upright_ranges2 {t : IntegerType} {xRange yRange : Nat} {m : Range2}
    (hm : (Setup2.ranges xRange yRange).members overflow s t = some m) :
    Upright (.range2 m) := by
  obtain ⟨x, hx, hm⟩ := Option.bind_eq_some_iff.mp hm
  obtain ⟨y, hy, hm⟩ := Option.bind_eq_some_iff.mp hm
  cases hm
  exact ⟨upright_argument h hx, upright_argument h hy⟩

theorem keeps_setup2 (name : Nat) (arguments : Setup2) :
    KeepsUpright overflow s (.setup2 name arguments) ↔
      Suits overflow s (.setup2 name arguments) := by
  cases arguments with
  | bounds xMin xMax yMin yMax =>
    exact keeps_values (c := .setup2 name (.bounds xMin xMax yMin yMax)) (m := fun t =>
      (⟨t.cast xMin, t.cast xMax, t.cast yMin, t.cast yMax⟩ : Range2)) h rfl
  | points minimum maximum =>
    exact keeps_values (c := .setup2 name (.points minimum maximum)) (m := fun t =>
      (⟨t.cast minimum.x, t.cast maximum.x, t.cast minimum.y, t.cast maximum.y⟩ : Range2)) h rfl
  | area start size =>
    exact keeps_values (c := .setup2 name (.area start size)) (m := fun t =>
      (⟨t.cast start.x, t.add overflow (t.cast start.x) (t.cast size.width),
        t.cast start.y, t.add overflow (t.cast start.y) (t.cast size.height)⟩ : Range2)) h rfl
  | ranges xRange yRange =>
    have hkeeps : KeepsUpright overflow s (.setup2 name (.ranges xRange yRange)) ↔ _ :=
      keeps_setup h rfl
    exact iff_of_true (hkeeps.mpr fun t r _ m hm => upright_ranges2 h hm) trivial

theorem upright_ranges3 {t : IntegerType} {xRange yRange zRange : Nat} {m : Range3}
    (hm : (Setup3.ranges xRange yRange zRange).members s t = some m) : Upright (.range3 m) := by
  obtain ⟨x, hx, hm⟩ := Option.bind_eq_some_iff.mp hm
  obtain ⟨y, hy, hm⟩ := Option.bind_eq_some_iff.mp hm
  obtain ⟨z, hz, hm⟩ := Option.bind_eq_some_iff.mp hm
  cases hm
  exact ⟨upright_argument h hx, upright_argument h hy, upright_argument h hz⟩

theorem keeps_setup3 (name : Nat) (arguments : Setup3) :
    KeepsUpright overflow s (.setup3 name arguments) ↔
      Suits overflow s (.setup3 name arguments) := by
  cases arguments with
  | bounds xMin xMax yMin yMax zMin zMax =>
    exact keeps_values (c := .setup3 name (.bounds xMin xMax yMin yMax zMin zMax)) (m := fun t =>
      (⟨t.cast xMin, t.cast xMax, t.cast yMin, t.cast yMax, t.cast zMin, t.cast zMax⟩ : Range3))
      h rfl
  | points minimum maximum =>
    exact keeps_values (c := .setup3 name (.points minimum maximum)) (m := fun t =>
      (⟨t.cast minimum.x, t.cast maximum.x, t.cast minimum.y, t.cast maximum.y,
        t.cast minimum.z, t.cast maximum.z⟩ : Range3)) h rfl
  | ranges xRange yRange zRange =>
    have hkeeps : KeepsUpright overflow s (.setup3 name (.ranges xRange yRange zRange)) ↔ _ :=
      keeps_setup h rfl
    exact iff_of_true (hkeeps.mpr fun t r _ m hm => upright_ranges3 h hm) trivial

/-- A setter of one axis, where the other is upright already. -/
theorem keeps_axis {c : RangeCall} {f : IntegerType → Range2 → Range2}
    {good : IntegerType → Range2 → Prop}
    (hc : s.perform overflow c = s.call name fun t => some (writeMembers (f t)))
    (hf : ∀ t r, Upright (.range2 r) → (Upright (.range2 (f t r)) ↔ good t r)) :
    KeepsUpright overflow s c ↔
      ∀ t r, s.object name = some ⟨t, .range2 r⟩ → good t r := by
  rw [keeps_set h hc]
  refine forall₂_congr fun t r => forall_congr' fun ho => ?_
  exact hf t r (h _ (mem_of_object ho))

/-- A call keeps the ranges exactly when it suits. -/
theorem keeps_iff_suits (c : RangeCall) :
    KeepsUpright overflow s c ↔ Suits overflow s c := by
  cases c with
  | default1 t =>
    exact iff_of_true (keeps_default h (r := ({} : Range1)) (by decide) rfl) trivial
  | default2 t =>
    exact iff_of_true (keeps_default h (r := ({} : Range2)) (by decide) rfl) trivial
  | default3 t =>
    exact iff_of_true (keeps_default h (r := ({} : Range3)) (by decide) rfl) trivial
  | construct1 t minimum maximum =>
    exact iff_of_true (fun result s' hr => keepsUpright_make h (Option.some.inj hr)) trivial
  | construct2 t arguments => exact iff_of_true (keeps_construct (ρ := Range2) h rfl) trivial
  | construct3 t arguments => exact iff_of_true (keeps_construct (ρ := Range3) h rfl) trivial
  | copyConstruct source => exact iff_of_true (keeps_copy h source).1 trivial
  | moveConstruct source => exact iff_of_true (keeps_copy h source).2 trivial
  | copyAssign name source => exact iff_of_true (keeps_assign h name source).1 trivial
  | moveAssign name source => exact iff_of_true (keeps_assign h name source).2 trivial
  | swap first second => exact iff_of_true (keeps_swap h first second) trivial
  | destroy name => exact iff_of_true (keeps_destroy h name) trivial
  | setup1 name arguments => exact keeps_setup1 h name arguments
  | setup2 name arguments => exact keeps_setup2 h name arguments
  | setup3 name arguments => exact keeps_setup3 h name arguments
  | setMinX name value =>
    exact keeps_axis h (f := fun t r => { r with minX := t.cast value }) rfl
      fun t r hup => ⟨And.left, fun hv => ⟨hv, hup.2⟩⟩
  | setMaxX name value =>
    exact keeps_axis h (f := fun t r => { r with maxX := t.cast value }) rfl
      fun t r hup => ⟨And.left, fun hv => ⟨hv, hup.2⟩⟩
  | setMinY name value =>
    exact keeps_axis h (f := fun t r => { r with minY := t.cast value }) rfl
      fun t r hup => ⟨And.right, fun hv => ⟨hup.1, hv⟩⟩
  | setMaxY name value =>
    exact keeps_axis h (f := fun t r => { r with maxY := t.cast value }) rfl
      fun t r hup => ⟨And.right, fun hv => ⟨hup.1, hv⟩⟩

end

/-! ## Programs -/

theorem neverInverted_nil : NeverInverted [] := fun _ ho => absurd ho List.not_mem_nil

theorem perform_of_step {c : RangeCall} (h : rangeStep overflow s c = some s') :
    ∃ result, s.perform overflow c = some (result, s') := by
  obtain ⟨⟨result, t⟩, hr, rfl⟩ := Option.map_eq_some_iff.mp h
  exact ⟨result, hr⟩

theorem keeps_along (h : NeverInverted s) (calls : List RangeCall) :
    Along (rangeStep overflow) (KeepsUpright overflow) s calls ↔
      Along (rangeStep overflow) (Suits overflow) s calls := by
  induction calls generalizing s with
  | nil => exact Iff.rfl
  | cons c calls ih =>
    have hc : KeepsUpright overflow s c ↔ Suits overflow s c := keeps_iff_suits h c
    constructor
    · rintro ⟨hk, hrest⟩
      refine ⟨hc.mp hk, fun s' hs => ?_⟩
      obtain ⟨result, hr⟩ := perform_of_step hs
      exact (ih (hk result s' hr).1).mp (hrest s' hs)
    · rintro ⟨hsuits, hrest⟩
      have hk := hc.mpr hsuits
      refine ⟨hk, fun s' hs => ?_⟩
      obtain ⟨result, hr⟩ := perform_of_step hs
      exact (ih (hk result s' hr).1).mpr (hrest s' hs)

/-- A program keeps its ranges upright, and those of a call that throws as they were, exactly when
every setup and every setter suits. -/
theorem ranges_never_inverted (overflow : Int → Int → Int) (calls : List RangeCall) :
    KeepsRanges overflow calls ↔ Along (rangeStep overflow) (Suits overflow) [] calls :=
  keeps_along neverInverted_nil calls

/-- The setup of a range from bounds in the wrong order throws, and the range is inverted then. -/
theorem ranges_never_inverted_broken :
    RangeObjects.perform [some ⟨.s32, .range1 {}⟩] (fun _ _ => 0) (.setup1 0 (.bounds 5 1)) =
        some (.error invertedMessage, [some ⟨.s32, .range1 ⟨5, 1⟩⟩]) ∧
      ¬ KeepsRanges (fun _ _ => 0) [.default1 .s32, .setup1 0 (.bounds 5 1)] := by
  refine ⟨by rfl, fun h => ?_⟩
  have hsetup := (h.2 [some ⟨.s32, .range1 {}⟩] rfl).1
  obtain ⟨hup, -⟩ := hsetup (.error invertedMessage) [some ⟨.s32, .range1 ⟨5, 1⟩⟩] rfl
  exact absurd (hup ⟨.s32, .range1 ⟨5, 1⟩⟩ List.mem_cons_self) (by decide : ¬ (5 : Int) ≤ 1)

end WSE.Proof.Wse
