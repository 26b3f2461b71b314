import WapitiStew.Framework.Ensures
import WapitiStew.Framework.Lists
import WapitiStew.Spec.Oui.Renderer

/-!
# Renderers and their backends

`Sane` is what holds between the steps of a method, for the backend of the renderer and those that
are held elsewhere (`others`). A method is a sequence of steps that keep it (`renderer`), and leaves
the backend of the renderer started (`Rested`).
-/

namespace WSE.Proof.Oui

open WSE.Framework WSE.Impl.Oui WSE.Spec.Oui

variable {s t : RendererState} {k j : Nat} {others : Nat → Prop}

/-! ## Histories -/

@[simp] theorem historyOf_record_self (s : RendererState) (k : Nat) (step : BackendStep) :
    historyOf k (s.record k step).log = historyOf k s.log ++ [step] := by
  simp [RendererState.record, historyOf]

theorem historyOf_record_ne (s : RendererState) {k j : Nat} (step : BackendStep) (h : j ≠ k) :
    historyOf k (s.record j step).log = historyOf k s.log := by
  simp [RendererState.record, historyOf, h]

theorem stageOf_record (s : RendererState) (k : Nat) (step : BackendStep) :
    stageOf k (s.record k step).log = backendLife.next (stageOf k s.log) step := by
  rw [stageOf, historyOf_record_self, Monitor.after_snoc]
  rfl

theorem live_of_started {log : List BackendEvent} (h : IsStarted k log) :
    historyOf k log ≠ [] ∧ stageOf k log ≠ .gone := by
  obtain ⟨ready, hready⟩ := h
  refine ⟨fun hnil => ?_, fun hgone => nomatch hgone.symm.trans hready⟩
  rw [stageOf, hnil] at hready
  cases hready

/-! ## Between the steps of a method -/

/-- What is known of a backend. -/
structure SaneAt (others : Nat → Prop) (s : RendererState) (k : Nat) : Prop where
  accepts : backendLife.Accepts (historyOf k s.log)
  live : historyOf k s.log ≠ [] ∧ stageOf k s.log ≠ .gone ↔ s.backend = some k ∨ others k
  other : others k → IsStarted k s.log
  fresh : s.backends ≤ k → historyOf k s.log = []
  apart : s.backend = some k → ¬others k

def Sane (others : Nat → Prop) (s : RendererState) : Prop := ∀ k, SaneAt others s k

/-- The renderer's backend is started. -/
def Rested (s : RendererState) : Prop := ∀ k, s.backend = some k → IsStarted k s.log

/-- A backend to which nothing was done. -/
theorem SaneAt.same (h : SaneAt others s k) (hlog : historyOf k t.log = historyOf k s.log)
    (hbackend : t.backend = some k ↔ s.backend = some k) (hcount : s.backends ≤ t.backends) :
    SaneAt others t k := by
  have hstage : stageOf k t.log = stageOf k s.log := by rw [stageOf, hlog, stageOf]
  constructor
  · rw [hlog]
    exact h.accepts
  · rw [hlog, hstage, hbackend]
    exact h.live
  · rw [IsStarted, hstage]
    exact h.other
  · rw [hlog]
    exact fun hk => h.fresh (hcount.trans hk)
  · rw [hbackend]
    exact h.apart

theorem SaneAt.lt (h : SaneAt others s k) (hk : s.backend = some k) : k < s.backends := by
  by_contra hle
  exact (h.live.mpr (.inl hk)).1 (h.fresh (Nat.not_lt.mp hle))

/-- A step that does nothing to a backend. -/
theorem Sane.congr (h : Sane others s) (hlog : t.log = s.log) (hb : t.backend = s.backend)
    (hcount : t.backends = s.backends) : Sane others t := by
  intro k
  exact (h k).same (by rw [hlog]) (by rw [hb]) hcount.ge

theorem Rested.congr (h : Rested s) (hlog : t.log = s.log) (hb : t.backend = s.backend) :
    Rested t := by
  intro k hk
  rw [hlog]
  exact h k (hb ▸ hk)

theorem Sane.asked (h : Sane others s) : Sane others s.asked := h.congr rfl rfl rfl

/-- Something is done to the renderer's backend, short of its end. -/
theorem Sane.record {step : BackendStep} (h : Sane others s) (hk : s.backend = some k)
    (hallowed : backendLife.allowed (stageOf k s.log) step)
    (hnext : backendLife.next (stageOf k s.log) step ≠ .gone) :
    Sane others (s.record k step) := by
  intro j
  obtain rfl | hne := eq_or_ne k j
  · have hat := h k
    refine ⟨?_, ?_, fun ho => absurd ho (hat.apart hk), fun hle => ?_, hat.apart⟩
    · rw [historyOf_record_self]
      exact Monitor.accepts_snoc.mpr ⟨hat.accepts, hallowed⟩
    · rw [historyOf_record_self, stageOf_record]
      exact iff_of_true ⟨by simp, hnext⟩ (.inl hk)
    · exact absurd (hat.lt hk) (Nat.not_lt.mpr hle)
  · exact (h j).same (historyOf_record_ne s step hne) Iff.rfl le_rfl

theorem backend_setBackend (himpl : s.impl.isSome = true) (b : Option Nat) :
    (s.setBackend b).backend = b := by
  obtain ⟨impl, hi⟩ := Option.isSome_iff_exists.mp himpl
  unfold RendererState.setBackend RendererState.backend
  rw [hi]
  cases hb : impl.backend <;> simp [RendererState.record, hb]

theorem impl_of_backend (hk : s.backend = some k) : s.impl.isSome = true := by
  obtain ⟨impl, hi, -⟩ := Option.bind_eq_some_iff.mp hk
  rw [hi]
  rfl

theorem historyOf_setBackend (s : RendererState) (b : Option Nat) (k : Nat) :
    historyOf k (s.setBackend b).log =
      if s.backend = some k then historyOf k s.log ++ [.destroyed] else historyOf k s.log := by
  unfold RendererState.setBackend
  cases hb : s.backend with
  | none => rfl
  | some old =>
    dsimp only
    obtain rfl | hne := eq_or_ne old k
    · rw [historyOf_record_self, if_pos rfl]
    · rw [historyOf_record_ne _ _ hne, if_neg fun h => hne (Option.some.inj h)]

theorem backends_setBackend (s : RendererState) (b : Option Nat) :
    (s.setBackend b).backends = s.backends := by
  unfold RendererState.setBackend
  split <;> rfl

theorem backend_setBackend_none (s : RendererState) : (s.setBackend none).backend = none := by
  cases hi : s.impl with
  | none =>
    have hb : s.backend = none := by rw [RendererState.backend, hi]; rfl
    rw [RendererState.setBackend, hb]
    dsimp only
    rw [RendererState.backend, hi]
    rfl
  | some impl => exact backend_setBackend (by rw [hi]; rfl) none

/-- The renderer gives its backend up. -/
theorem Sane.release (h : Sane others s)
    (hallowed : ∀ k, s.backend = some k → backendLife.allowed (stageOf k s.log) .destroyed) :
    Sane others (s.setBackend none) := by
  intro k
  by_cases hk : s.backend = some k
  · have hat := h k
    have hlog : historyOf k (s.setBackend none).log = historyOf k s.log ++ [.destroyed] := by
      rw [historyOf_setBackend, if_pos hk]
    have hstage : stageOf k (s.setBackend none).log = .gone := by
      rw [stageOf, hlog, Monitor.after_snoc]
      rfl
    refine ⟨?_, ?_, fun ho => absurd ho (hat.apart hk), fun hle => ?_, ?_⟩
    · rw [hlog]
      exact Monitor.accepts_snoc.mpr ⟨hat.accepts, hallowed k hk⟩
    · rw [hstage, backend_setBackend_none]
      exact iff_of_false (fun hl => hl.2 rfl) (by simpa using hat.apart hk)
    · rw [backends_setBackend] at hle
      exact absurd (hat.lt hk) (Nat.not_lt.mpr hle)
    · rw [backend_setBackend_none]
      exact nofun
  · have hlog := historyOf_setBackend s none k
    rw [if_neg hk] at hlog
    refine (h k).same hlog ?_ (backends_setBackend s none).ge
    rw [backend_setBackend_none]
    exact iff_of_false nofun hk

/-- The renderer takes a backend that was made, and its old one is destroyed. -/
theorem Sane.adopt {c : RendererConfiguration} (h : Sane others s) (hr : Rested s)
    (himpl : s.impl.isSome = true) (hc : c.validate = .ok ()) :
    Sane others (s.adopt c) ∧ (s.adopt c).backend = some s.backends ∧
      stageOf s.backends (s.adopt c).log = .made c := by
  have hnew : historyOf s.backends s.log = [] := (h s.backends).fresh le_rfl
  have hnot : s.backend ≠ some s.backends := fun hk => Nat.lt_irrefl _ ((h _).lt hk)
  have hbackend : (s.adopt c).backend = some s.backends :=
    backend_setBackend (s := s.create c) himpl _
  have hself : historyOf s.backends (s.adopt c).log = [.created c] := by
    have hcreated : historyOf s.backends (s.create c).log = [.created c] := by
      show historyOf s.backends (s.record s.backends (.created c)).log = _
      rw [historyOf_record_self, hnew]
      rfl
    rw [RendererState.adopt, historyOf_setBackend,
      if_neg (show (s.create c).backend ≠ _ from hnot), hcreated]
  have hstage : stageOf s.backends (s.adopt c).log = .made c := by
    rw [stageOf, hself]
    rfl
  refine ⟨fun k => ?_, hbackend, hstage⟩
  have hcount : (s.adopt c).backends = s.backends + 1 := backends_setBackend (s.create c) _
  obtain rfl | hne := eq_or_ne s.backends k
  · have hother : ¬others s.backends := fun ho => ((h _).live.mpr (.inr ho)).1 hnew
    refine ⟨?_, ?_, fun ho => absurd ho hother, fun hle => ?_, fun _ => hother⟩
    · rw [hself]
      exact Monitor.accepts_snoc.mpr ⟨Monitor.accepts_nil _, hc⟩
    · rw [hself, hstage]
      exact iff_of_true ⟨by simp, by simp⟩ (.inl hbackend)
    · omega
  · have hlog : historyOf k (s.adopt c).log =
        if s.backend = some k then historyOf k s.log ++ [.destroyed] else historyOf k s.log := by
      have hcreated : historyOf k (s.create c).log = historyOf k s.log :=
        historyOf_record_ne s (.created c) hne
      rw [RendererState.adopt, historyOf_setBackend, hcreated]
      rfl
    have hback : (s.adopt c).backend ≠ some k := by
      rw [hbackend]
      exact fun he => hne (Option.some.inj he)
    by_cases hk : s.backend = some k
    · have hat := h k
      rw [if_pos hk] at hlog
      obtain ⟨ready, hready⟩ := hr k hk
      have hgone : stageOf k (s.adopt c).log = .gone := by
        rw [stageOf, hlog, Monitor.after_snoc]
        rfl
      refine ⟨?_, ?_, fun ho => absurd ho (hat.apart hk), fun hle => ?_, fun he => absurd he hback⟩
      · rw [hlog]
        refine Monitor.accepts_snoc.mpr ⟨hat.accepts, ?_⟩
        show backendLife.allowed (stageOf k s.log) .destroyed
        rw [hready]
        trivial
      · rw [hgone]
        exact iff_of_false (fun hl => hl.2 rfl) (not_or.mpr ⟨hback, hat.apart hk⟩)
      · have := hat.lt hk
        omega
    · rw [if_neg hk] at hlog
      exact (h k).same hlog (iff_of_false hback hk) (by omega)

/-! ## Methods -/

/-- The steps of a renderer beside which `others` are held. -/
def renderer (others : Nat → Prop) : Guarantee RendererState where
  step s t := Sane others s → Sane others t
  inv := Sane others
  keeps h hs := h hs

namespace RendererObject

variable {w : BackendWorld} {P : RendererState → Prop}

theorem askWorld_ensures {α : Type} {answer : Nat → α}
    {E : RendererException → RendererState → Prop} (hP : ∀ s, P s → P s.asked) :
    Ensures (renderer others) P (askWorld answer) (fun _ => P) E :=
  fun s hi hs => ⟨.single fun _ => hi.asked, hP s hs⟩

theorem allocate_ensures (hP : ∀ s, P s → P s.asked) :
    Ensures (renderer others) P (allocate w) (fun _ => P) (fun _ => P) := by
  refine Ensures.bind (askWorld_ensures hP) fun a => ?_
  exact Ensures.ite (fun _ => Ensures.pure fun _ _ => id) fun _ => Ensures.throw fun _ _ => id

/-- A question to the renderer's own backend. -/
theorem askBackend_ensures {α : Type} {answer : Nat → α} {step : α → BackendStep}
    {E : RendererException → RendererState → Prop} {st : BackendStage}
    (hallowed : ∀ a, backendLife.allowed st (step a))
    (hnext : ∀ a, backendLife.next st (step a) ≠ .gone) :
    Ensures (renderer others) (fun s => s.backend = some k ∧ stageOf k s.log = st)
      (askBackend k answer step)
      (fun a s => s.backend = some k ∧ stageOf k s.log = backendLife.next st (step a)) E := by
  unfold askBackend
  refine Ensures.bind (askWorld_ensures fun _ h => h) fun a => ?_
  refine Ensures.bind (Ensures.step (Q := fun _ s => s.backend = some k ∧
    stageOf k s.log = backendLife.next st (step a)) fun s _ hs => ?_) fun _ =>
    Ensures.pure fun _ _ => id
  refine ⟨fun hi => hi.record hs.1 ?_ ?_, fun _ => ⟨hs.1, ?_⟩⟩
  · rw [hs.2]
    exact hallowed a
  · rw [hs.2]
    exact hnext a
  · rw [stageOf_record, hs.2]

/-- The renderer's backend is `k`, which is started. -/
theorem rested_of {ready : Bool} (h : s.backend = some k ∧ stageOf k s.log = .started ready) :
    Rested s := by
  intro j hj
  obtain rfl := Option.some.inj (h.1.symm.trans hj)
  exact ⟨ready, h.2⟩

theorem rethrow_ensures {α : Type} {a : Except RendererException α} :
    Ensures (renderer others) P (rethrow a) (fun _ => P) (fun _ => P) := by
  cases a with
  | ok x => exact Ensures.pure fun _ _ => id
  | error e => exact Ensures.throw fun _ _ => id

theorem initialized_ensures (had : Prop) {E : RendererException → RendererState → Prop} :
    Ensures (renderer others) (fun s => Rested s ∧ (had → s.impl.isSome = true))
      (RendererObject.initialized w)
      (fun r s => (Rested s ∧ (had → s.impl.isSome = true)) ∧
        ∀ k, r = some k → s.backend = some k ∧ stageOf k s.log = .started true) E := by
  unfold RendererObject.initialized
  refine Ensures.get_bind fun s hi hs => ?_
  cases hb : s.backend with
  | none => exact Ensures.pure fun t _ ht => ⟨ht ▸ hs, nofun⟩
  | some k =>
    obtain ⟨ready, hready⟩ := hs.1 k hb
    have hask : ∀ a : Bool, backendLife.allowed (.started ready) (.asked a) := fun _ => trivial
    refine Ensures.bind ((askBackend_ensures hask nofun).before fun t _ ht => ht ▸ ⟨hb, hready⟩)
      fun a => ?_
    refine Ensures.pure fun t _ ht =>
      ⟨⟨rested_of ht, fun _ => impl_of_backend ht.1⟩, fun j hj => ?_⟩
    cases a with
    | true =>
      obtain rfl := Option.some.inj hj
      exact ht
    | false => cases hj

theorem callBackend_ensures {call : BackendCall} (hc : CallChecked call) :
    Ensures (renderer others) (fun s => s.backend = some k ∧ stageOf k s.log = .started true)
      (callBackend w k call) (fun _ => Rested) (fun _ => Rested) := by
  refine Ensures.bind (askBackend_ensures (fun _ => ⟨rfl, hc⟩) nofun) fun a => ?_
  exact rethrow_ensures.before fun t _ ht => rested_of ht

theorem forward_ensures {call : BackendCall} {check : RendererStatus}
    (hc : check = .ok () → CallChecked call) :
    Ensures (renderer others) Rested (RendererObject.forward w check call) (fun _ => Rested)
      (fun _ => Rested) := by
  unfold RendererObject.forward
  cases check with
  | error e => exact Ensures.pure fun _ _ => id
  | ok u =>
    refine Ensures.bind ((initialized_ensures False).before fun _ _ h => ⟨h, False.elim⟩)
      fun r => ?_
    cases r with
    | none => exact Ensures.pure fun _ _ h => h.1.1
    | some k => exact (callBackend_ensures (hc rfl)).before fun t _ ht => ht.2 k rfl

theorem checkHandle_ok {resource : String} {valid : Bool}
    (h : RendererObject.checkHandle resource valid = .ok ()) : valid = true := by
  cases valid with
  | true => rfl
  | false => cases h

/-- The handle is checked first. -/
theorem check_ok {resource : String} {valid : Bool} {check : RendererStatus}
    (h : (do RendererObject.checkHandle resource valid; check) = .ok ()) :
    valid = true ∧ check = .ok () := by
  obtain ⟨_, hvalid, hcheck⟩ := except_bind_ok h
  exact ⟨checkHandle_ok hvalid, hcheck⟩

theorem checkTimeout_ok {timeoutMs : UInt32} {message : String}
    (h : RendererObject.checkTimeout timeoutMs message = .ok ()) : timeoutMs ≠ 4294967295 := by
  unfold RendererObject.checkTimeout at h
  split at h
  · cases h
  · assumption

theorem checkExtent_ok {extent : RendererExtent2D}
    (h : (do if extent.empty then throw invalidExtentError : RendererStatus) = .ok ()) :
    extent.empty = false := by
  split at h
  · cases h
  · rename_i he
    simpa using he

/-- A method of a renderer leaves its backend started, whatever comes of it. -/
theorem perform_ensures (call : BackendCall) :
    Ensures (renderer others) Rested (RendererObject.perform w call) (fun _ => Rested)
      (fun _ => Rested) := by
  cases call with
  | getCapabilities =>
    show Ensures _ _ (RendererObject.forward w (pure ()) .getCapabilities) _ _
    exact forward_ensures fun _ => trivial
  | enumerateDisplays =>
    show Ensures _ _ (RendererObject.forward w (pure ()) .enumerateDisplays) _ _
    exact forward_ensures fun _ => trivial
  | createTexture d | createMesh d | createSurface d | executeRenderPass d =>
    exact forward_ensures id
  | destroyTexture | destroyMesh | getSurfaceTexture | getSurfaceState | pollSurfaceEvents
  | destroySurface | processSurfaceEvents | presentSurface =>
    exact forward_ensures checkHandle_ok
  | uploadTexture | updateMesh | setSurfaceWindowMode => exact forward_ensures check_ok
  | resizeSurface => exact forward_ensures fun h => (check_ok h).imp_right checkExtent_ok
  | waitFence | readTexture => exact forward_ensures fun h => (check_ok h).imp_right checkTimeout_ok

theorem shutdown_ensures {E : RendererException → RendererState → Prop} :
    Ensures (renderer others) Rested RendererObject.shutdown (fun _ s => s.backend = none) E := by
  unfold RendererObject.shutdown
  refine Ensures.get_bind fun s hi hs => ?_
  cases hb : s.backend with
  | none => exact Ensures.pure fun t _ ht => ht ▸ hb
  | some k =>
    obtain ⟨ready, hready⟩ := hs k hb
    refine Ensures.bind (Q := fun _ t => t.backend = some k ∧ stageOf k t.log = .shut)
      (Ensures.step fun t _ ht => ?_) fun _ => Ensures.step fun t _ ht => ?_
    · subst ht
      refine ⟨fun h => h.record hb ?_ ?_, fun _ => ⟨hb, stageOf_record t k _⟩⟩
      · rw [hready]
        trivial
      · nofun
    · refine ⟨fun h => h.release fun j hj => ?_, fun _ => backend_setBackend_none t⟩
      obtain rfl := Option.some.inj (ht.1.symm.trans hj)
      rw [ht.2]
      trivial

/-- The renderer gives its backend up. -/
theorem setBackend_ensures {E : RendererException → RendererState → Prop} :
    Ensures (renderer others) Rested (modify (·.setBackend none) : RendererObjectM PUnit)
      (fun _ s => s.backend = none) E := by
  refine Ensures.step fun t _ ht => ⟨fun h => h.release fun k hk => ?_,
    fun _ => backend_setBackend_none t⟩
  obtain ⟨ready, hready⟩ := ht k hk
  rw [hready]
  trivial

theorem rested_none (h : s.backend = none) : Rested s := by
  intro k hk
  cases h.symm.trans hk

theorem createBackend_ensures {c : RendererConfiguration} (hc : c.validate = .ok ()) :
    Ensures (renderer others) (fun s => Rested s ∧ s.impl.isSome = true) (createBackend w c)
      (fun r s => match r with
        | .error _ => Rested s
        | .ok k => s.backend = some k ∧ stageOf k s.log = .made c) (fun _ => Rested) := by
  unfold createBackend
  refine Ensures.bind (askWorld_ensures fun _ h => h) fun created => ?_
  refine Ensures.bind (rethrow_ensures.error fun _ _ _ h => h.1) fun e => ?_
  cases e with
  | some e =>
    refine Ensures.bind (setBackend_ensures.before fun _ _ h => h.1) fun _ => ?_
    exact Ensures.pure fun _ _ => rested_none
  | none =>
    refine Ensures.get_bind fun s hi hs => ?_
    refine Ensures.bind (Q := fun _ t => t.backend = some s.backends ∧
      stageOf s.backends t.log = .made c) (Ensures.step fun t ht he => ?_) fun _ =>
      Ensures.pure fun _ _ => id
    subst he
    obtain ⟨hsound, hb, hstage⟩ := ht.adopt hs.1 hs.2 hc
    exact ⟨fun _ => hsound, fun _ => ⟨hb, hstage⟩⟩

theorem initializeBackend_ensures {c : RendererConfiguration} :
    Ensures (renderer others) (fun s => s.backend = some k ∧ stageOf k s.log = .made c)
      (initializeBackend w k c) (fun _ => Rested) (fun _ => Rested) := by
  refine Ensures.bind (askBackend_ensures (fun _ => rfl) nofun) fun a => ?_
  exact rethrow_ensures.before fun t _ ht => rested_of ht

theorem ensureImpl_ensures :
    Ensures (renderer others) Rested (RendererObject.ensureImpl w)
      (fun _ s => Rested s ∧ s.impl.isSome = true) (fun _ => Rested) := by
  unfold RendererObject.ensureImpl
  refine Ensures.get_bind fun s hi hs => ?_
  refine Ensures.ite (fun hnone => ?_) fun hsome => ?_
  · have hb : s.impl = none := Option.isNone_iff_eq_none.mp hnone
    have halloc : Ensures (renderer others) (fun t => Rested t ∧ t.impl = none) (allocate w)
        (fun _ t => Rested t ∧ t.impl = none) (fun _ => Rested) :=
      (allocate_ensures fun _ h => h).error fun _ _ _ h => h.1
    refine Ensures.bind (halloc.before fun t _ ht => ht ▸ ⟨hs, hb⟩) fun _ =>
      Ensures.step fun t _ ht => ?_
    have hnone' : t.backend = none := by
      rw [RendererState.backend, ht.2]
      rfl
    exact ⟨fun h => h.congr rfl hnone'.symm rfl,
      fun _ => ⟨ht.1.congr rfl hnone'.symm, rfl⟩⟩
  · refine Ensures.pure fun t _ ht => ht ▸ ⟨hs, ?_⟩
    simpa [Option.isSome_iff_ne_none] using hsome

theorem startBackend_ensures {c : RendererConfiguration} (hc : c.validate = .ok ()) :
    Ensures (renderer others) (fun s => Rested s ∧ s.impl.isSome = true)
      (RendererObject.startBackend w c) (fun _ => Rested) (fun _ => Rested) := by
  unfold RendererObject.startBackend
  refine Ensures.bind ((allocate_ensures fun _ h => h).error fun _ _ _ h => h.1) fun _ => ?_
  refine Ensures.bind (createBackend_ensures hc) fun r => ?_
  cases r with
  | error e => exact Ensures.pure fun _ _ => id
  | ok k =>
    refine Ensures.bind initializeBackend_ensures fun r => ?_
    cases r with
    | error e =>
      exact Ensures.bind setBackend_ensures fun _ => Ensures.pure fun _ _ => rested_none
    | ok u =>
      have hbackend : ∀ t : RendererState, (t.setConfiguration c).backend = t.backend := fun t => by
        rw [RendererState.setConfiguration, RendererState.backend, RendererState.backend]
        cases t.impl <;> rfl
      refine Ensures.bind (Q := fun _ => Rested) (Ensures.step fun t _ ht => ?_) fun _ =>
        Ensures.pure fun _ _ => id
      exact ⟨fun h => h.congr rfl (hbackend t) rfl, fun _ => ht.congr rfl (hbackend t)⟩

theorem initializeWith_ensures (c : RendererConfiguration) :
    Ensures (renderer others) Rested (RendererObject.initializeWith w c) (fun _ => Rested)
      (fun _ => Rested) := by
  unfold RendererObject.initializeWith
  split
  · exact Ensures.pure fun _ _ => id
  · rename_i hc
    refine Ensures.bind ensureImpl_ensures fun _ => ?_
    refine Ensures.bind (Q := fun _ s => Rested s ∧ s.impl.isSome = true) ?_ fun initialized => ?_
    · refine Ensures.bind ((initialized_ensures True).before fun _ _ h => ⟨h.1, fun _ => h.2⟩)
        fun _ => ?_
      exact Ensures.pure fun _ _ h => ⟨h.1.1, h.1.2 trivial⟩
    · refine Ensures.ite (fun _ => ?_) fun _ => startBackend_ensures hc
      refine Ensures.get_bind fun s _ hs => ?_
      exact Ensures.pure fun t _ ht => ht ▸ hs.1

end RendererObject

/-! ## Processes -/

section Processes

variable {w : BackendWorld} {p q : RendererProcess} {i : Nat}

/-- The backend of a renderer, if it has one. -/
def heldIn (renderers : List (Option (Option RendererImpl))) (i : Nat) : Option Nat :=
  renderers[i]?.bind fun r => r.bind fun impl => impl.bind (·.backend)

theorem owns_iff : Owns p i k ↔ heldIn p.renderers i = some k := by
  simp only [Owns, heldIn, Option.bind_eq_some_iff]
  constructor
  · rintro ⟨impl, hi, hk⟩
    exact ⟨_, hi, _, rfl, impl, rfl, hk⟩
  · rintro ⟨_, hi, _, rfl, impl, rfl, hk⟩
    exact ⟨impl, hi, hk⟩

theorem getElem?_of_alive {impl : Option RendererImpl} (hi : p.alive i = some impl) :
    p.renderers[i]? = some (some impl) := Option.join_eq_some_iff.mp hi

theorem heldIn_of {renderers : List (Option (Option RendererImpl))} {impl : Option RendererImpl}
    (hi : renderers[i]? = some (some impl)) : heldIn renderers i = impl.bind (·.backend) := by
  rw [heldIn, hi]
  rfl

theorem heldIn_set (renderers : List (Option (Option RendererImpl)))
    (r : Option (Option RendererImpl)) (hi : i < renderers.length) (j : Nat) :
    heldIn (renderers.set i r) j =
      if j = i then r.bind fun impl => impl.bind (·.backend) else heldIn renderers j := by
  unfold heldIn
  split
  · rename_i h
    rw [h, List.getElem?_set_self hi]
    rfl
  · rename_i h
    rw [List.getElem?_set_ne (Ne.symm h)]

theorem heldIn_length (renderers : List (Option (Option RendererImpl))) :
    heldIn renderers renderers.length = none := by
  rw [heldIn, List.getElem?_eq_none le_rfl]
  rfl

theorem heldIn_append (renderers : List (Option (Option RendererImpl)))
    (impl : Option RendererImpl) (j : Nat) :
    heldIn (renderers ++ [some impl]) j =
      if j = renderers.length then impl.bind (·.backend) else heldIn renderers j := by
  unfold heldIn
  split
  · rename_i h
    rw [h, List.getElem?_concat_length]
    rfl
  · rename_i h
    obtain hlt | hgt := Nat.lt_or_gt_of_ne h
    · rw [List.getElem?_append_left hlt]
    · rw [List.getElem?_eq_none (by simpa using Nat.succ_le_of_lt hgt),
        List.getElem?_eq_none hgt.le]

/-- The books, and no backend is known that was not made. -/
structure Booked (p : RendererProcess) : Prop extends RendererBooks p where
  fresh : ∀ k, p.backends ≤ k → historyOf k p.log = []

/-- What the other renderers hold. -/
def heldElsewhere (p : RendererProcess) (i k : Nat) : Prop := ∃ j, j ≠ i ∧ Owns p j k

theorem owns_backend {impl : Option RendererImpl} (hi : p.renderers[i]? = some (some impl)) :
    Owns p i k ↔ (p.renderer impl).backend = some k := by
  rw [owns_iff, heldIn_of hi]
  rfl

/-- A renderer on its own, when a method begins. -/
theorem Booked.sound {impl : Option RendererImpl} (h : Booked p)
    (hi : p.renderers[i]? = some (some impl)) :
    Sane (heldElsewhere p i) (p.renderer impl) ∧ Rested (p.renderer impl) := by
  have hlive : ∀ k, IsStarted k p.log ↔
      (p.renderer impl).backend = some k ∨ heldElsewhere p i k := by
    intro k
    rw [h.owned, ← owns_backend hi]
    constructor
    · rintro ⟨j, hj⟩
      obtain rfl | hne := eq_or_ne j i
      · exact .inl hj
      · exact .inr ⟨j, hne, hj⟩
    · rintro (hj | ⟨j, -, hj⟩)
      · exact ⟨i, hj⟩
      · exact ⟨j, hj⟩
  refine ⟨fun k => ⟨h.accepts k, ?_, fun ho => (hlive k).mpr (.inr ho), h.fresh k, ?_⟩,
    fun k hk => (hlive k).mpr (.inl hk)⟩
  · rw [← hlive]
    constructor
    · rintro ⟨hne, hgone⟩
      exact (h.settled k).resolve_left hne |>.resolve_left hgone
    · exact live_of_started
  · rintro hk ⟨j, hne, hj⟩
    exact hne (h.once j i k hj ((owns_backend hi).mpr hk))

/-- A renderer is put back when a method has ended. -/
theorem Booked.join {s : RendererState} (h : Booked p) (hs : Sane (heldElsewhere p i) s)
    (hr : Rested s) (hlog : q.log = s.log) (hcount : q.backends = s.backends)
    (howns : ∀ j k, Owns q j k ↔ j = i ∧ s.backend = some k ∨ j ≠ i ∧ Owns p j k) : Booked q := by
  have howned : ∀ k, (∃ j, Owns q j k) ↔ s.backend = some k ∨ heldElsewhere p i k := by
    intro k
    simp only [howns, heldElsewhere, exists_or, exists_eq_left]
  have hstarted : ∀ k, IsStarted k s.log ↔ s.backend = some k ∨ heldElsewhere p i k := by
    intro k
    exact ⟨fun hk => (hs k).live.mp (live_of_started hk), fun hk => hk.elim (hr k) (hs k).other⟩
  constructor
  · constructor
    · rw [hlog]
      exact fun k => (hs k).accepts
    · rw [hlog]
      intro k
      by_cases hnil : historyOf k s.log = []
      · exact .inl hnil
      by_cases hgone : stageOf k s.log = .gone
      · exact .inr (.inl hgone)
      · exact .inr (.inr ((hstarted k).mpr ((hs k).live.mp ⟨hnil, hgone⟩)))
    · rw [hlog]
      exact fun k => (hstarted k).trans (howned k).symm
    · intro j j' k hj hj'
      rw [howns] at hj hj'
      obtain ⟨rfl, hk⟩ | ⟨hne, hj⟩ := hj
      · obtain ⟨rfl, -⟩ | ⟨hne', hj'⟩ := hj'
        · rfl
        · exact absurd ⟨j', hne', hj'⟩ ((hs k).apart hk)
      · obtain ⟨rfl, hk⟩ | ⟨-, hj'⟩ := hj'
        · exact absurd ⟨j, hne, hj⟩ ((hs k).apart hk)
        · exact h.once j j' k hj hj'
  · rw [hlog, hcount]
    exact fun k => (hs k).fresh

/-- Nothing is done to a backend, and each has its owner. -/
theorem Booked.same (h : Booked p) (hlog : q.log = p.log) (hcount : q.backends = p.backends)
    (howns : ∀ j k, Owns q j k ↔ Owns p j k) : Booked q := by
  constructor
  · constructor
    · rw [hlog]
      exact h.accepts
    · rw [hlog]
      exact h.settled
    · intro k
      rw [hlog, h.owned]
      exact exists_congr fun j => (howns j k).symm
    · intro j j' k hj hj'
      exact h.once j j' k ((howns j k).mp hj) ((howns j' k).mp hj')
  · rw [hlog, hcount]
    exact h.fresh

/-- The target takes what the source holds. -/
theorem Booked.move {source target : Nat} (h : Booked p) (hlog : q.log = p.log)
    (hcount : q.backends = p.backends) (hne : source ≠ target)
    (hfree : heldIn p.renderers target = none)
    (hheld : ∀ j, heldIn q.renderers j = if j = target then heldIn p.renderers source
      else if j = source then none else heldIn p.renderers j) : Booked q := by
  have howns : ∀ j k, Owns q j k ↔
      j = target ∧ Owns p source k ∨ j ≠ target ∧ j ≠ source ∧ Owns p j k := by
    intro j k
    simp only [owns_iff, hheld]
    by_cases hj : j = target
    · simp [hj]
    · by_cases hj' : j = source
      · simp [hj', hne]
      · simp [hj, hj']
  have htarget : ∀ k, ¬Owns p target k := fun k hk => nomatch hfree.symm.trans (owns_iff.mp hk)
  constructor
  · constructor
    · rw [hlog]
      exact h.accepts
    · rw [hlog]
      exact h.settled
    · intro k
      rw [hlog, h.owned]
      constructor
      · rintro ⟨i, hi⟩
        obtain rfl | hs := eq_or_ne i source
        · exact ⟨target, (howns _ _).mpr (.inl ⟨rfl, hi⟩)⟩
        · have ht : i ≠ target := fun he => htarget k (he ▸ hi)
          exact ⟨i, (howns _ _).mpr (.inr ⟨ht, hs, hi⟩)⟩
      · rintro ⟨j, hj⟩
        obtain ⟨-, hk⟩ | ⟨-, -, hk⟩ := (howns j k).mp hj
        · exact ⟨source, hk⟩
        · exact ⟨j, hk⟩
    · intro j j' k hj hj'
      rw [howns] at hj hj'
      obtain ⟨rfl, hk⟩ | ⟨ht, hs, hk⟩ := hj
      · obtain ⟨rfl, -⟩ | ⟨-, hs', hk'⟩ := hj'
        · rfl
        · exact absurd (h.once j' source k hk' hk) hs'
      · obtain ⟨-, hk'⟩ | ⟨-, -, hk'⟩ := hj'
        · exact absurd (h.once j source k hk hk') hs
        · exact h.once j j' k hk hk'
  · rw [hlog, hcount]
    exact h.fresh

/-- A method of a renderer, with the renderer that is left. -/
theorem Booked.method {α : Type} {x : RendererObjectM α} {impl : Option RendererImpl}
    {Q : α → RendererState → Prop} {E : RendererException → RendererState → Prop} (h : Booked p)
    (hi : p.renderers[i]? = some (some impl))
    (hx : Ensures (renderer (heldElsewhere p i)) Rested x Q E)
    (hQ : ∀ a s, Q a s → Rested s) (hE : ∀ e s, E e s → Rested s)
    {r : Option (Option RendererImpl)}
    (hleft : r.bind (fun impl => impl.bind (·.backend)) =
      (lastState (x (p.renderer impl))).backend) :
    Booked (.after (lastState (x (p.renderer impl))) (p.renderers.set i r)) := by
  obtain ⟨hs, hr⟩ := h.sound hi
  obtain ⟨hsteps, hmeets⟩ := hx _ hs hr
  have hsound : Sane (heldElsewhere p i) (lastState (x (p.renderer impl))) :=
    (renderer _).inv_of_steps hsteps hs
  have hrested : Rested (lastState (x (p.renderer impl))) := by
    cases hxs : x (p.renderer impl) with
    | ok a t =>
      rw [hxs] at hmeets
      exact hQ a t hmeets
    | error e t =>
      rw [hxs] at hmeets
      exact hE e t hmeets
  refine h.join hsound hrested rfl rfl fun j k => ?_
  have hheld := heldIn_set p.renderers r (lt_of_getElem? hi) j
  rw [hleft] at hheld
  rw [owns_iff, owns_iff]
  show heldIn (p.renderers.set i r) j = some k ↔ _
  rw [hheld]
  split
  · rename_i hj
    simp [hj]
  · rename_i hj
    simp [hj]

theorem Booked.on {α : Type} {x : RendererObjectM α} (h : Booked p)
    (hx : ∀ others, Ensures (renderer others) Rested x (fun _ => Rested) (fun _ => Rested))
    (hq : p.on i x = some q) : Booked q := by
  obtain ⟨impl, hi, rfl⟩ := Option.map_eq_some_iff.mp hq
  exact h.method (getElem?_of_alive hi) (hx _) (fun _ _ => id) (fun _ _ => id) rfl

theorem Booked.destroy (h : Booked p) (hq : p.destroy i = some q) : Booked q := by
  obtain ⟨impl, hi, rfl⟩ := Option.map_eq_some_iff.mp hq
  have hi := getElem?_of_alive hi
  have hx : Ensures (renderer (heldElsewhere p i)) Rested RendererObject.shutdown
      (fun _ s => s.backend = none) (fun _ s => s.backend = none) := RendererObject.shutdown_ensures
  refine h.method hi hx (fun _ _ => RendererObject.rested_none)
    (fun _ _ => RendererObject.rested_none) ?_
  obtain ⟨hs, hr⟩ := h.sound hi
  obtain ⟨-, hmeets⟩ := hx _ hs hr
  cases hxs : RendererObject.shutdown (p.renderer impl) with
  | ok a t =>
    rw [hxs] at hmeets
    exact hmeets.symm
  | error e t =>
    rw [hxs] at hmeets
    exact hmeets.symm

theorem Booked.construct (h : Booked p) : Booked (p.construct w) := by
  refine h.same rfl rfl fun j k => ?_
  rw [owns_iff, owns_iff]
  unfold RendererProcess.construct RendererProcess.after
  dsimp only
  split
  · rw [heldIn_append]
    split
    · rename_i hj
      rw [hj, heldIn_length]
      rfl
    · rfl
  · rfl

theorem Booked.moveConstruct (h : Booked p) (hq : p.moveConstruct i = some q) : Booked q := by
  obtain ⟨impl, hi, rfl⟩ := Option.map_eq_some_iff.mp hq
  have hi := getElem?_of_alive hi
  have hlt := lt_of_getElem? hi
  refine h.move rfl rfl hlt.ne (heldIn_length p.renderers) fun j => ?_
  show heldIn (p.renderers.set i (some none) ++ [some impl]) j = _
  rw [heldIn_append, List.length_set, heldIn_set _ _ hlt, heldIn_of hi]
  rfl

theorem Booked.moveAssign {target source : Nat} (h : Booked p)
    (hq : p.moveAssign target source = some q) : Booked q := by
  obtain ⟨old, ht, hq⟩ := Option.bind_eq_some_iff.mp hq
  obtain ⟨impl, hr, hq⟩ := Option.map_eq_some_iff.mp hq
  have ht := getElem?_of_alive ht
  have hr := getElem?_of_alive hr
  split at hq
  · subst hq
    exact h
  · rename_i hne
    subst hq
    have hlt := lt_of_getElem? ht
    -- The target gives its backend up, and then takes that of the source.
    have hmid : Booked (.after ((p.renderer old).setBackend none)
        (p.renderers.set target (some none))) := by
      have hnone := backend_setBackend_none (p.renderer old)
      exact h.method ht (RendererObject.setBackend_ensures (E := fun _ s => s.backend = none))
        (fun _ _ => RendererObject.rested_none) (fun _ _ => RendererObject.rested_none) hnone.symm
    have hset : ∀ j, heldIn (p.renderers.set target (some none)) j =
        if j = target then none else heldIn p.renderers j := heldIn_set _ _ hlt
    refine hmid.move rfl rfl (Ne.symm hne) ((hset _).trans (if_pos rfl)) fun j => ?_
    show heldIn ((p.renderers.set source (some none)).set target (some impl)) j =
      if j = target then heldIn (p.renderers.set target (some none)) source
      else if j = source then none else heldIn (p.renderers.set target (some none)) j
    rw [heldIn_set _ _ (by simpa using hlt), heldIn_set _ _ (lt_of_getElem? hr), hset, hset,
      if_neg (Ne.symm hne), heldIn_of hr]
    split
    · rfl
    · rfl

theorem Booked.step {a : RendererAction} (h : Booked p) (hq : p.step w a = some q) : Booked q := by
  cases a with
  | construct =>
    obtain rfl := Option.some.inj hq
    exact h.construct
  | moveConstruct source => exact h.moveConstruct hq
  | moveAssign target source => exact h.moveAssign hq
  | destroy i => exact h.destroy hq
  | initializeWith i c => exact h.on (fun _ => RendererObject.initializeWith_ensures c) hq
  | shutdown i =>
    exact h.on (fun _ => (RendererObject.shutdown_ensures (E := fun _ => Rested)).after
      fun _ _ _ => RendererObject.rested_none) hq
  | isInitialized i =>
    refine h.on (fun others => ?_) hq
    refine Ensures.bind ((RendererObject.initialized_ensures False).before
      fun _ _ h => ⟨h, False.elim⟩) fun _ => ?_
    exact Ensures.pure fun _ _ h => h.1.1
  | call i call => exact h.on (fun _ => RendererObject.perform_ensures call) hq

theorem booked_start : Booked {} where
  accepts _ := Monitor.accepts_nil _
  settled _ := .inl rfl
  owned k := iff_of_false (fun h => (live_of_started h).1 rfl) fun ⟨i, hi⟩ => by
    rw [owns_iff] at hi
    cases hi
  once i j k hi := by
    rw [owns_iff] at hi
    cases hi
  fresh _ _ := rfl

end Processes

/-- Whatever is done with any number of renderers, and whatever the backends answer or throw: each
backend is made with a configuration that passes its checks, is then initialized, gets a call only
when it has just answered that it is initialized, and arguments that pass their checks, and is
destroyed once, after which nothing is asked of it; the backends that are left are held by one
renderer each. -/
theorem renderer_backends {w : BackendWorld} {actions : List RendererAction} {p : RendererProcess}
    (h : run (RendererProcess.step w) {} actions = some p) : RendererBooks p :=
  (run_invariant (fun _ _ _ => Booked.step) booked_start h).toRendererBooks

/-- Backends that answer, some of the calls with an error. -/
def steadyWorld : BackendWorld where
  allocates _ := true
  create _ := .ok none
  initializeWith _ := .ok (.ok ())
  isInitialized _ := true
  capabilities _ := {}
  answer
    | _, .enumerateDisplays => .ok (.ok [])
    | _, .destroyTexture _ => .error .exception
    | _, _ => .ok (.error notInitializedError)

/-- Two renderers, of which one takes the backend of the other. -/
def handOver : List RendererAction :=
  [.construct, .construct, .initializeWith 0 {}, .initializeWith 1 { backend := .vulkan12 },
    .call 0 .enumerateDisplays, .call 1 (.destroyTexture ⟨1, 1⟩), .call 1 (.destroyTexture ⟨0, 1⟩),
    .moveAssign 1 0, .call 0 .enumerateDisplays, .shutdown 0, .initializeWith 0 {}, .destroy 0,
    .destroy 1]

theorem renderer_backends_hand_over :
    ∃ p, run (RendererProcess.step steadyWorld) {} handOver = some p ∧ p.backends = 3 ∧
      p.renderers = [none, none] ∧ RendererBooks p :=
  ⟨_, rfl, rfl, rfl,
    renderer_backends (show run (RendererProcess.step steadyWorld) {} handOver = some _ from rfl)⟩

end WSE.Proof.Oui
