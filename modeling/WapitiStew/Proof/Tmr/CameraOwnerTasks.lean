import WapitiStew.Framework.Lists
import WapitiStew.Spec.Tmr.CameraOwnerThread

/-!
# One task at a time

`Served` says which invocation has its task stored (`Slot`) and what the history knows of
all the others (`Settled`). Each step keeps it (`Served.step`).
-/

namespace WSE.Proof.Tmr

open WSE.Framework WSE.Impl.Tmr WSE.Spec.Tmr

variable {σ ε α : Type*} {object : σ} {s s' : CameraOwnerThread σ ε α} {b : OwnerService σ ε α}
  {cur : Option Nat} {i j : Nat} {v w : Invocation σ ε α}

/-! ## Invocations -/

/-- No two tasks that exist have one address. -/
def Distinct (vs : List (Invocation σ ε α)) : Prop :=
  ∀ (i j : Nat) (v w : Invocation σ ε α), vs[i]? = some v → vs[j]? = some w →
    v.active = true → w.active = true → v.address = w.address → i = j

theorem Distinct.set {vs : List (Invocation σ ε α)} (h : Distinct vs) (hv : vs[i]? = some v)
    (ha : w.address = v.address) (hact : w.active = true → v.active = true) :
    Distinct (vs.set i w) := by
  intro j k x y hx hy hxa hya he
  obtain ⟨rfl, rfl⟩ | ⟨-, hx'⟩ := getElem?_set_cases hx
  · obtain ⟨rfl, rfl⟩ | ⟨-, hy'⟩ := getElem?_set_cases hy
    · rfl
    · exact h j k v y hv hy' (hact hxa) hya (ha.symm.trans he)
  · obtain ⟨rfl, rfl⟩ | ⟨-, hy'⟩ := getElem?_set_cases hy
    · exact h j k x v hx' hv hxa (hact hya) (he.trans ha)
    · exact h j k x y hx' hy' hxa hya he

theorem taskAt_eq_none {address : Nat} (h : s.taskAt address = none)
    (hv : s.invocations[i]? = some v) (hact : v.active = true) : v.address ≠ address := by
  have := List.findIdx?_eq_none_iff.mp h v (List.mem_of_getElem? hv)
  simpa [hact] using this

theorem taskAt_eq_some (h : Distinct s.invocations) (hv : s.invocations[i]? = some v)
    (hact : v.active = true) : s.taskAt v.address = some i := by
  cases ht : s.taskAt v.address with
  | none => exact absurd rfl (taskAt_eq_none ht hv hact)
  | some j =>
    obtain ⟨hj, hp, -⟩ := List.findIdx?_eq_some_iff_getElem.mp ht
    obtain ⟨hja, hadr⟩ : s.invocations[j].active = true ∧ s.invocations[j].address = v.address := by
      simpa using hp
    rw [h j i _ v (List.getElem?_eq_getElem hj) hv hja hact hadr]

theorem map_set_same {β : Type*} {f : Invocation σ ε α → β} {vs : List (Invocation σ ε α)}
    (hv : vs[i]? = some v) (hf : f w = f v) : (vs.set i w).map f = vs.map f := by
  rw [List.map_set]
  refine List.ext_getElem? fun j => ?_
  rw [List.getElem?_set]
  split
  · next he =>
    subst he
    rw [List.length_map, if_pos (lt_of_getElem? hv), List.getElem?_map, hv, hf]
    rfl
  · rfl

/-! ## The task that is stored -/

/-- What the history knows. -/
abbrev service (object : σ) (log : List (OwnerEvent σ ε α)) : OwnerService σ ε α :=
  (ownerService object).after log

theorem service_snoc (object : σ) (log : List (OwnerEvent σ ε α)) (e : OwnerEvent σ ε α) :
    service object (log ++ [e]) = (ownerService object).next (service object log) e :=
  Monitor.after_append _ log [e]

theorem begunTasks_snoc (log : List (OwnerEvent σ ε α)) (e : OwnerEvent σ ε α) :
    begunTasks (log ++ [e]) = begunTasks log ++ begunTasks [e] := List.filterMap_append

theorem service_begun (object : σ) (log : List (OwnerEvent σ ε α)) :
    (service object log).begun = begunTasks log := by
  induction log using List.reverseRecOn with
  | nil => rfl
  | append_singleton log e ih =>
    rw [service_snoc, begunTasks_snoc, ← ih]
    cases e with
    | began i => rfl
    | called | submitted | ended | returned => exact (List.append_nil _).symm

theorem begunTasks_nodup {log : List (OwnerEvent σ ε α)} (h : (ownerService object).Accepts log) :
    (begunTasks log).Nodup := by
  refine h.induction (P := fun log => (begunTasks log).Nodup) List.nodup_nil
    fun log e he ih => ?_
  rw [begunTasks_snoc]
  cases e with
  | began i =>
    refine List.nodup_append.mpr ⟨ih, List.pairwise_singleton _ i, fun j hj k hk he' => ?_⟩
    obtain ⟨-, -, hnew⟩ := he
    exact hnew (service_begun object log ▸ List.mem_singleton.mp hk ▸ he' ▸ hj)
  | called | submitted | ended | returned => exact (List.append_nil _).symm ▸ ih

/-- What has come to something has begun. -/
theorem begun_of_outcome {log : List (OwnerEvent σ ε α)}
    (h : (ownerService object).Accepts log) :
    (∀ i, (service object log).running = some i → i ∈ begunTasks log) ∧
      ∀ i r, (i, r) ∈ (service object log).outcomes → i ∈ begunTasks log := by
  refine h.induction
    (P := fun log => (∀ i, (service object log).running = some i → i ∈ begunTasks log) ∧
      ∀ i r, (i, r) ∈ (service object log).outcomes → i ∈ begunTasks log)
    ⟨nofun, fun i r hm => nomatch hm⟩ fun log e he ⟨hrun, hout⟩ => ?_
  rw [service_snoc, begunTasks_snoc]
  cases e with
  | began i =>
    refine ⟨fun j hj => ?_, fun j r hj => List.mem_append_left _ (hout j r hj)⟩
    exact List.mem_append_right _ (List.mem_singleton.mpr (Option.some.inj hj).symm)
  | ended i r =>
    refine ⟨nofun, fun j q hj => List.mem_append_left _ ?_⟩
    obtain hj | hj := List.mem_append.mp hj
    · exact hout j q hj
    · cases List.mem_singleton.mp hj
      exact hrun i he.1
  | called | submitted | returned =>
    exact ⟨fun j hj => List.mem_append_left _ (hrun j hj),
      fun j r hj => List.mem_append_left _ (hout j r hj)⟩

/-- The invocation whose task is stored, and how far its task is. -/
inductive Slot (s : CameraOwnerThread σ ε α) (b : OwnerService σ ε α) : Option Nat → Prop
  | free (ht : s.task = none) (ho : s.owner = .waits ∨ s.owner = .ended) (hp : b.pending = none)
      (hr : b.running = none) : Slot s b none
  | stored {i : Nat} {v : Invocation σ ε α} (hv : s.invocations[i]? = some v)
      (hph : v.phase = .waitsDone) (ht : s.task = some v.address) (ho : s.owner = .waits)
      (hout : v.outcome = none) (hp : b.pending = some i) (hr : b.running = none)
      (hb : i ∉ b.begun) : Slot s b (some i)
  | runs {i : Nat} {v : Invocation σ ε α} (hv : s.invocations[i]? = some v)
      (hph : v.phase = .waitsDone) (ht : s.task = some v.address)
      (ho : s.owner = .running v.address) (hout : v.outcome = none) (hp : b.pending = some i)
      (hr : b.running = some i) (hb : i ∈ b.begun) : Slot s b (some i)
  | ran {i : Nat} {v : Invocation σ ε α} (hv : s.invocations[i]? = some v)
      (hph : v.phase = .waitsDone) (ht : s.task = some v.address) (ho : s.owner = .finishing)
      (hout : v.outcome.isSome = true) (hp : b.pending = none) (hr : b.running = none) :
      Slot s b (some i)

/-- An invocation whose task is not stored: not stored yet, or run. -/
structure Settled (begun : List Nat) (i : Nat) (v : Invocation σ ε α) : Prop where
  before : v.phase = .entering ∨ v.phase = .waitsFree → v.outcome = none ∧ i ∉ begun
  after : v.phase = .waitsDone → v.outcome.isSome = true

structure Served (object : σ) (s : CameraOwnerThread σ ε α) (cur : Option Nat) : Prop where
  accepts : (ownerService object).Accepts s.log
  functions : (service object s.log).functions = s.invocations.map (·.function)
  sameObject : (service object s.log).object = s.object
  slot : Slot s (service object s.log) cur
  distinct : Distinct s.invocations
  settled : ∀ i v, s.invocations[i]? = some v → cur ≠ some i →
    Settled (service object s.log).begun i v
  outcomes : ∀ i v r, s.invocations[i]? = some v → v.outcome = some r →
    (i, r) ∈ (service object s.log).outcomes
  known : ∀ i ∈ begunTasks s.log, i < s.invocations.length
  stopped : s.stop = true → s.unused = true
  finished : s.owner = .ended → s.stop = true

theorem active_of_phase (h : v.phase = .waitsDone) : v.active = true := by
  rw [Invocation.active, h]
  rfl

theorem active_of_waiting (h : v.phase = .entering ∨ v.phase = .waitsFree) : v.active = true := by
  obtain h | h := h
  all_goals
    rw [Invocation.active, h]
    rfl

theorem unused_iff : s.unused = true ↔ ∀ v ∈ s.invocations, v.active = false := by
  simp [CameraOwnerThread.unused]

theorem Slot.frame {b' : OwnerService σ ε α} (h : Slot s b cur)
    (hinv : ∀ i v, cur = some i → s.invocations[i]? = some v → s'.invocations[i]? = some v)
    (ht : s'.task = s.task) (ho : s'.owner = s.owner)
    (hb : b'.pending = b.pending ∧ b'.running = b.running ∧ b'.begun = b.begun) :
    Slot s' b' cur := by
  obtain ⟨hp, hr, hbegun⟩ := hb
  cases h with
  | free h1 h2 h3 h4 => exact .free (ht.trans h1) (ho ▸ h2) (hp.trans h3) (hr.trans h4)
  | stored h1 h2 h3 h4 h5 h6 h7 h8 =>
    exact .stored (hinv _ _ rfl h1) h2 (ht.trans h3) (ho.trans h4) h5 (hp.trans h6) (hr.trans h7)
      (hbegun ▸ h8)
  | runs h1 h2 h3 h4 h5 h6 h7 h8 =>
    exact .runs (hinv _ _ rfl h1) h2 (ht.trans h3) (ho.trans h4) h5 (hp.trans h6) (hr.trans h7)
      (hbegun ▸ h8)
  | ran h1 h2 h3 h4 h5 h6 h7 =>
    exact .ran (hinv _ _ rfl h1) h2 (ht.trans h3) (ho.trans h4) h5 (hp.trans h6) (hr.trans h7)

/-- The invocation whose task is stored waits until it has run. -/
theorem Slot.phase (h : Slot s b (some i)) (hv : s.invocations[i]? = some v) :
    v.phase = .waitsDone ∧ s.task = some v.address := by
  cases h with
  | stored h1 h2 h3 | runs h1 h2 h3 | ran h1 h2 h3 =>
    cases h1.symm.trans hv
    exact ⟨h2, h3⟩

theorem Slot.ne_of_phase (h : Slot s b cur) (hv : s.invocations[i]? = some v)
    (hph : v.phase ≠ .waitsDone) : cur ≠ some i := by
  rintro rfl
  exact hph (h.phase hv).1

theorem Slot.free_of_task (h : Slot s b cur) (ht : s.task = none) : cur = none := by
  cases h with
  | free => rfl
  | stored _ _ h | runs _ _ h | ran _ _ h => cases ht.symm.trans h

/-- The task that is stored is that of the invocation in the slot. -/
theorem Slot.current {address : Nat} (h : Slot s b cur) (ht : s.task = some address) :
    ∃ i v, cur = some i ∧ s.invocations[i]? = some v ∧ v.address = address ∧
      v.phase = .waitsDone := by
  cases h with
  | free h => cases h.symm.trans ht
  | stored h1 h2 h3 | runs h1 h2 h3 | ran h1 h2 h3 =>
    exact ⟨_, _, rfl, h1, Option.some.inj (h3.symm.trans ht), h2⟩

theorem Slot.task_of_running {address : Nat} (h : Slot s b cur)
    (ho : s.owner = .running address) : s.task = some address := by
  cases h with
  | free _ h4 =>
    rw [ho] at h4
    exact absurd h4 (by simp)
  | stored _ _ _ h4 | ran _ _ _ h4 => cases ho.symm.trans h4
  | runs _ _ h3 h4 =>
    cases ho.symm.trans h4
    exact h3

namespace Served

theorem sleepers (h : Served object s cur) (l : List Sleeper) :
    Served object { s with sleepers := l } cur :=
  { h with slot := h.slot.frame (fun _ _ _ hv => hv) rfl rfl ⟨rfl, rfl, rfl⟩ }

/-- The object is not being destroyed while a call is under way. -/
theorem not_stopped (h : Served object s cur) (hv : s.invocations[i]? = some v)
    (hact : v.active = true) : ¬s.stop = true := fun hstop => by
  have := unused_iff.mp (h.stopped hstop) v (List.mem_of_getElem? hv)
  exact absurd (this.symm.trans hact) Bool.noConfusion

theorem call {address : Nat} {f : CameraTask σ ε α} (h : Served object s cur)
    (hs : s.call address f = some s') : Served object s' cur := by
  unfold CameraOwnerThread.call at hs
  split at hs
  · cases hs
  next hc =>
    obtain ⟨hstop, hnone⟩ : s.stop = false ∧ s.taskAt address = none := by simpa using hc
    obtain rfl := Option.some.inj hs
    have hbooks := service_snoc object s.log (.called f)
    have hbegun : begunTasks (s.log ++ [.called f]) = begunTasks s.log := by
      rw [begunTasks_snoc]
      exact List.append_nil _
    have hnew {i : Nat} (hi : i ∈ begunTasks s.log) : i ≠ s.invocations.length :=
      Nat.ne_of_lt (h.known i hi)
    constructor
    case accepts => exact Monitor.accepts_snoc.mpr ⟨h.accepts, trivial⟩
    case stopped => exact fun ht => absurd (hstop.symm.trans ht) Bool.noConfusion
    all_goals simp only [CameraOwnerThread.record, hbooks, hbegun]
    case functions =>
      rw [List.map_append, ← h.functions]
      rfl
    case sameObject => exact h.sameObject
    case slot =>
      exact h.slot.frame (fun _ _ _ hv => getElem?_append_old _ hv) rfl rfl ⟨rfl, rfl, rfl⟩
    case distinct =>
      intro i j v w hv hw hva hwa he
      obtain hv | ⟨rfl, rfl⟩ := getElem?_append_cases hv
      · obtain hw | ⟨rfl, rfl⟩ := getElem?_append_cases hw
        · exact h.distinct i j v w hv hw hva hwa he
        · exact absurd he (taskAt_eq_none hnone hv hva)
      · obtain hw | ⟨rfl, rfl⟩ := getElem?_append_cases hw
        · exact absurd he.symm (taskAt_eq_none hnone hw hwa)
        · rfl
    case settled =>
      intro i v hv hcur
      obtain hv | ⟨rfl, rfl⟩ := getElem?_append_cases hv
      · exact h.settled i v hv hcur
      · refine ⟨fun _ => ⟨rfl, fun hm => ?_⟩, nofun⟩
        exact hnew (service_begun object s.log ▸ hm) rfl
    case outcomes =>
      intro i v r hv hr
      obtain hv | ⟨rfl, rfl⟩ := getElem?_append_cases hv
      · exact h.outcomes i v r hv hr
      · cases hr
    case known =>
      intro i hi
      rw [List.length_append]
      exact Nat.lt_add_right _ (h.known i hi)
    case finished => exact h.finished

/-- An invocation whose task is not stored goes on. -/
theorem rephase {p : CallerPhase} (h : Served object s cur) (hv : s.invocations[i]? = some v)
    (hcur : cur ≠ some i) (hact : v.active = true)
    (hset : Settled (service object s.log).begun i { v with phase := p }) :
    Served object (s.setInvocation i { v with phase := p }) cur where
  accepts := h.accepts
  functions := h.functions.trans (map_set_same (w := { v with phase := p }) hv rfl).symm
  sameObject := h.sameObject
  slot := by
    refine h.slot.frame (fun j w hj hw => ?_) rfl rfl ⟨rfl, rfl, rfl⟩
    subst hj
    show (s.invocations.set i _)[j]? = some w
    rw [List.getElem?_set_ne fun he => hcur (congrArg some he.symm)]
    exact hw
  distinct := h.distinct.set hv rfl fun _ => hact
  settled j w hw hj := by
    obtain ⟨rfl, rfl⟩ | ⟨-, hw⟩ := getElem?_set_cases hw
    · exact hset
    · exact h.settled j w hw hj
  outcomes j w r hw hr := by
    obtain ⟨rfl, rfl⟩ | ⟨-, hw⟩ := getElem?_set_cases hw
    · exact h.outcomes j v r hv hr
    · exact h.outcomes j w r hw hr
  known j hj := List.length_set.symm ▸ h.known j hj
  stopped ht := absurd ht (h.not_stopped hv hact)
  finished := h.finished

theorem returned {r : Except ε α} (h : Served object s cur)
    (hr : (i, r) ∈ (service object s.log).outcomes) :
    Served object (s.record (.returned i r)) cur := by
  have hbooks := service_snoc object s.log (.returned i r)
  have hbegun : begunTasks (s.log ++ [.returned i r]) = begunTasks s.log := by
    rw [begunTasks_snoc]
    exact List.append_nil _
  constructor
  case accepts => exact Monitor.accepts_snoc.mpr ⟨h.accepts, hr⟩
  all_goals simp only [CameraOwnerThread.record, hbooks, hbegun]
  case functions => exact h.functions
  case sameObject => exact h.sameObject
  case slot => exact h.slot.frame (fun _ _ _ hv => hv) rfl rfl ⟨rfl, rfl, rfl⟩
  case distinct => exact h.distinct
  case settled => exact h.settled
  case outcomes => exact h.outcomes
  case known => exact h.known
  case stopped => exact h.stopped
  case finished => exact h.finished

/-- The task is stored while there is none. -/
theorem submits (h : Served object s cur) (hv : s.invocations[i]? = some v)
    (hph : v.phase = .entering ∨ v.phase = .waitsFree) (ht : s.task = none) :
    Served object (({ s.record (.submitted i) with task := some v.address }).setInvocation i
      { v with phase := .waitsDone }) (some i) := by
  obtain rfl := h.slot.free_of_task ht
  obtain ⟨hout, hb⟩ := (h.settled i v hv nofun).before hph
  have hlt := lt_of_getElem? hv
  have hact := active_of_waiting hph
  have hbooks := service_snoc object s.log (.submitted i)
  have hbegun : begunTasks (s.log ++ [.submitted i]) = begunTasks s.log := by
    rw [begunTasks_snoc]
    exact List.append_nil _
  obtain ⟨ho, hp, hr⟩ : (s.owner = .waits ∨ s.owner = .ended) ∧
      (service object s.log).pending = none ∧ (service object s.log).running = none := by
    cases h.slot with
    | free _ ho hp hr => exact ⟨ho, hp, hr⟩
  have ho : s.owner = .waits := ho.resolve_right fun he => h.not_stopped hv hact (h.finished he)
  constructor
  case accepts =>
    refine Monitor.accepts_snoc.mpr ⟨h.accepts, hp, ?_, hb⟩
    rw [h.functions, List.length_map]
    exact hlt
  all_goals simp only [CameraOwnerThread.record, CameraOwnerThread.setInvocation, hbooks, hbegun]
  case functions =>
    exact h.functions.trans (map_set_same (w := { v with phase := .waitsDone }) hv rfl).symm
  case sameObject => exact h.sameObject
  case slot => exact .stored (List.getElem?_set_self hlt) rfl rfl ho hout rfl hr hb
  case distinct => exact h.distinct.set hv rfl fun _ => hact
  case settled =>
    intro j w hw hj
    obtain ⟨rfl, rfl⟩ | ⟨-, hw⟩ := getElem?_set_cases hw
    · exact absurd rfl hj
    · exact h.settled j w hw nofun
  case outcomes =>
    intro j w r hw hr
    obtain ⟨rfl, rfl⟩ | ⟨-, hw⟩ := getElem?_set_cases hw
    · exact h.outcomes j v r hv hr
    · exact h.outcomes j w r hw hr
  case known => exact fun j hj => List.length_set.symm ▸ h.known j hj
  case stopped => exact fun hstop => absurd hstop (h.not_stopped hv hact)
  case finished => exact h.finished

theorem submit (h : Served object s cur) (hv : s.invocations[i]? = some v)
    (hph : v.phase = .entering ∨ v.phase = .waitsFree) :
    ∃ cur, Served object (s.submit i v) cur := by
  unfold CameraOwnerThread.submit
  have hne : v.phase ≠ .waitsDone := by
    obtain hph | hph := hph
    all_goals
      rw [hph]
      nofun
  split
  · next ht => exact ⟨_, (h.submits hv hph ht).sleepers _⟩
  · have hcur := h.slot.ne_of_phase hv hne
    refine ⟨cur, (h.rephase (p := .waitsFree) hv hcur (active_of_waiting hph)
      ⟨fun _ => ?_, nofun⟩).sleepers _⟩
    exact (h.settled i v hv hcur).before hph

theorem finish (h : Served object s cur) (hv : s.invocations[i]? = some v)
    (hph : v.phase = .waitsDone) (hs : s.finish i v = some s') : Served object s' cur := by
  unfold CameraOwnerThread.finish at hs
  split at hs
  · exact Option.some.inj hs ▸ h.sleepers _
  · next ht =>
    obtain ⟨r, hr, rfl⟩ := Option.map_eq_some_iff.mp hs
    have hcur : cur ≠ some i := by
      rintro rfl
      exact ht (h.slot.phase hv).2
    exact (h.returned (h.outcomes i v r hv hr)).rephase hv hcur (active_of_phase hph)
      ⟨fun hw => absurd hw nofun, nofun⟩

/-- The owner begins to run the task that is stored. -/
theorem begins (h : Served object s (some i)) (hv : s.invocations[i]? = some v)
    (ho : s.owner = .waits) :
    Served object { s.record (.began i) with owner := .running v.address } (some i) := by
  obtain ⟨hph, ht, hout, hp, hr, hb⟩ : v.phase = .waitsDone ∧ s.task = some v.address ∧
      v.outcome = none ∧ (service object s.log).pending = some i ∧
      (service object s.log).running = none ∧ i ∉ (service object s.log).begun := by
    cases h.slot with
    | stored h1 h2 h3 h4 h5 h6 h7 h8 =>
      cases h1.symm.trans hv
      exact ⟨h2, h3, h5, h6, h7, h8⟩
    | runs _ _ _ h4 => cases ho.symm.trans h4
    | ran _ _ _ h4 => cases ho.symm.trans h4
  have hbooks := service_snoc object s.log (.began i)
  have hbegun : begunTasks (s.log ++ [.began i]) = begunTasks s.log ++ [i] := begunTasks_snoc _ _
  have hlt := lt_of_getElem? hv
  constructor
  case accepts => exact Monitor.accepts_snoc.mpr ⟨h.accepts, hp, hr, hb⟩
  all_goals simp only [CameraOwnerThread.record, hbooks, hbegun]
  case functions => exact h.functions
  case sameObject => exact h.sameObject
  case slot =>
    exact .runs hv hph ht rfl hout hp rfl (List.mem_append_right _ (List.mem_singleton_self _))
  case distinct => exact h.distinct
  case settled =>
    intro j w hw hj
    obtain ⟨hbefore, hafter⟩ := h.settled j w hw hj
    refine ⟨fun hph => ⟨(hbefore hph).1, fun hm => ?_⟩, hafter⟩
    obtain hm | hm := List.mem_append.mp hm
    · exact (hbefore hph).2 hm
    · exact hj (congrArg some (List.mem_singleton.mp hm).symm)
  case outcomes => exact h.outcomes
  case known =>
    intro j hj
    obtain hj | hj := List.mem_append.mp hj
    · exact h.known j hj
    · exact List.mem_singleton.mp hj ▸ hlt
  case stopped => exact h.stopped
  case finished => exact nofun

/-- The task runs. -/
theorem runs (h : Served object s (some i)) (hv : s.invocations[i]? = some v)
    (ho : s.owner = .running v.address) : Served object (s.runTask i v) (some i) := by
  obtain ⟨hph, ht, hr, hrun⟩ : v.phase = .waitsDone ∧ s.task = some v.address ∧
      (service object s.log).running = some i ∧ i ∈ (service object s.log).begun := by
    cases h.slot with
    | stored _ _ _ h4 => cases ho.symm.trans h4
    | runs h1 h2 h3 h4 h5 h6 h7 h8 =>
      cases h1.symm.trans hv
      exact ⟨h2, h3, h7, h8⟩
    | ran _ _ _ h4 => cases ho.symm.trans h4
  have hbooks := service_snoc object s.log (.ended i (v.function s.object).1)
  have hbegun : begunTasks (s.log ++ [.ended i (v.function s.object).1]) = begunTasks s.log := by
    rw [begunTasks_snoc]
    exact List.append_nil _
  have hlt := lt_of_getElem? hv
  have hfun : (service object s.log).functions[i]? = some v.function := by
    rw [h.functions, List.getElem?_map, hv]
    rfl
  constructor
  case accepts =>
    refine Monitor.accepts_snoc.mpr ⟨h.accepts, hr, v.function, hfun, ?_⟩
    rw [h.sameObject]
  all_goals simp only [CameraOwnerThread.runTask, CameraOwnerThread.record,
    CameraOwnerThread.setInvocation, hbooks, hbegun]
  case functions =>
    exact h.functions.trans
      (map_set_same (w := { v with outcome := some (v.function s.object).1 }) hv rfl).symm
  case sameObject =>
    show ((service object s.log).functions[i]?).elim _ _ = _
    rw [hfun, h.sameObject]
    rfl
  case slot => exact .ran (List.getElem?_set_self hlt) hph ht rfl rfl rfl rfl
  case distinct => exact h.distinct.set hv rfl fun hact => hact
  case settled =>
    intro j w hw hj
    obtain ⟨rfl, rfl⟩ | ⟨-, hw⟩ := getElem?_set_cases hw
    · exact absurd rfl hj
    · exact h.settled j w hw hj
  case outcomes =>
    intro j w r hw hr
    obtain ⟨rfl, rfl⟩ | ⟨-, hw⟩ := getElem?_set_cases hw
    · cases hr
      exact List.mem_append_right _ (List.mem_singleton_self _)
    · exact List.mem_append_left _ (h.outcomes j w r hw hr)
  case known => exact fun j hj => List.length_set.symm ▸ h.known j hj
  case stopped => exact fun hstop => absurd hstop (h.not_stopped hv (active_of_phase hph))
  case finished => exact nofun

/-- The task has run and is not stored any more. -/
theorem clears (h : Served object s cur) (ho : s.owner = .finishing) :
    Served object { s.notifyAll with task := none, owner := .waits } none := by
  obtain ⟨i, v, rfl, hv, hph, hout, hp, hr⟩ : ∃ i v, cur = some i ∧ s.invocations[i]? = some v ∧
      v.phase = .waitsDone ∧ v.outcome.isSome = true ∧ (service object s.log).pending = none ∧
      (service object s.log).running = none := by
    cases h.slot with
    | free _ h2 =>
      rw [ho] at h2
      exact absurd h2 (by simp)
    | stored _ _ _ h4 => cases ho.symm.trans h4
    | runs _ _ _ h4 => cases ho.symm.trans h4
    | ran h1 h2 h3 h4 h5 h6 h7 => exact ⟨_, _, rfl, h1, h2, h5, h6, h7⟩
  refine { h with
    slot := .free rfl (.inl rfl) hp hr, settled := fun j w hw _ => ?_, finished := nofun }
  by_cases hj : some i = some j
  · cases hj
    cases hw.symm.trans hv
    refine ⟨fun hw => ?_, fun _ => hout⟩
    rw [hph] at hw
    exact absurd hw (by simp)
  · exact h.settled j w hw hj

/-- The owner finds the invocation whose task is stored. -/
theorem taskAt_current {address : Nat} (h : Served object s cur) (ht : s.task = some address) :
    ∃ i v, cur = some i ∧ s.invocations[i]? = some v ∧ v.address = address ∧
      s.taskAt address = some i := by
  obtain ⟨i, v, hcur, hv, rfl, hph⟩ := h.slot.current ht
  exact ⟨i, v, hcur, hv, rfl, taskAt_eq_some h.distinct hv (active_of_phase hph)⟩

/-- At the end nobody has stored a task. -/
theorem task_none_of_stop (h : Served object s cur) (hstop : s.stop = true) : s.task = none := by
  cases ht : s.task with
  | none => rfl
  | some address =>
    obtain ⟨i, v, -, hv, -, hph⟩ := h.slot.current ht
    exact absurd hstop (h.not_stopped hv (active_of_phase hph))

theorem ownerStep (h : Served object s cur) (hs : s.ownerStep = some s') :
    ∃ cur, Served object s' cur := by
  unfold CameraOwnerThread.ownerStep at hs
  split at hs
  · next ho =>
    split at hs
    · cases hs
    split at hs
    · next hstop =>
      cases hs
      have ht := h.task_none_of_stop hstop
      obtain ⟨hp, hr⟩ : (service object s.log).pending = none ∧
          (service object s.log).running = none := by
        cases h.slot with
        | free _ _ hp hr => exact ⟨hp, hr⟩
        | stored _ _ h3 | runs _ _ h3 | ran _ _ h3 => cases ht.symm.trans h3
      obtain rfl := h.slot.free_of_task ht
      exact ⟨none, { h with slot := .free ht (.inr rfl) hp hr, finished := fun _ => hstop }⟩
    · split at hs
      · cases hs
        exact ⟨cur, h.sleepers _⟩
      · next address ht =>
        obtain ⟨i, v, rfl, hv, rfl, hi⟩ := h.taskAt_current ht
        rw [hi] at hs
        cases hs
        exact ⟨some i, h.begins hv ho⟩
  · next address ho =>
    obtain ⟨i, v, rfl, hv, rfl, hi⟩ := h.taskAt_current (h.slot.task_of_running ho)
    rw [hi] at hs
    simp only [Option.bind_some, hv, Option.map_some] at hs
    cases hs
    exact ⟨some i, h.runs hv ho⟩
  · next ho =>
    cases hs
    exact ⟨none, h.clears ho⟩
  · cases hs

theorem callerStep (h : Served object s cur)
    (hs : s.callerStep i = some s') : ∃ cur, Served object s' cur := by
  unfold CameraOwnerThread.callerStep at hs
  split at hs
  · cases hs
  obtain ⟨v, hv, hs⟩ := Option.bind_eq_some_iff.mp hs
  split at hs
  · next hph => exact Option.some.inj hs ▸ h.submit hv (.inl hph)
  · next hph => exact Option.some.inj hs ▸ h.submit hv (.inr hph)
  · next hph => exact ⟨cur, h.finish hv hph hs⟩
  · cases hs

end Served

theorem Served.step {a : OwnerThreadAction σ ε α} (h : Served object s cur)
    (hs : cameraOwnerStep s a = some s') : ∃ cur, Served object s' cur := by
  cases a with
  | call address f => exact ⟨cur, h.call hs⟩
  | caller i => exact h.callerStep hs
  | owner => exact h.ownerStep hs
  | wakes w =>
    simp only [cameraOwnerStep, Option.ite_none_right_eq_some, Option.some.injEq] at hs
    obtain ⟨-, rfl⟩ := hs
    exact ⟨cur, h.sleepers _⟩
  | destroy =>
    simp only [cameraOwnerStep, Option.ite_none_right_eq_some, Option.some.injEq,
      Bool.and_eq_true] at hs
    obtain ⟨⟨-, hu⟩, rfl⟩ := hs
    exact ⟨cur, { h with
      slot := h.slot.frame (fun _ _ _ hv => hv) rfl rfl ⟨rfl, rfl, rfl⟩
      stopped := fun _ => hu
      finished := fun _ => rfl }⟩

end WSE.Proof.Tmr
