import WapitiStew.Framework.Transition
import WapitiStew.Proof.Oui.VulkanRendering

/-!
# Runs of the Vulkan backend

The start and the end of the backend's life, and `perform`: every call is a sequence of moves from
a state between calls to the next (`vulkanStep_moves`). What every move keeps, and what a call
keeps on the way it ends, holds along every run.
-/

namespace WSE.Proof.Oui

open WSE.Framework WSE.Impl.Oui WSE.Spec.Oui Relation

variable {c : Scope} {steady kept : Prop} {r r' : Records} {held : Multiset Native}
  {work : Option VulkanSubmission} {E : RendererError → Vulkan → Prop} {id : Nat}
  {sf : SurfaceRecord}

/-! ## Shutting down -/

theorem waitDeviceIdle_rests :
    Ensures (moves c) (Begins c r) waitDeviceIdleForRelease
      (fun _ s => Calm s ∧ Begins c r s) E := by
  refine Ensures.modify fun s _ hs => ?_
  have hnotice := idleAnswers_notice s.answers
  have hmoves : ReflTransGen (Move c) s { s.record (idleAnswers s.answers).1 with
      answers := (idleAnswers s.answers).2 } := by
    refine (ReflTransGen.single (Move.notice s _ ?_)).tail (quiet_answers _)
    obtain he | he := hnotice <;> rw [he] <;> trivial
  have hcalm : Calm (s.record (idleAnswers s.answers).1) := by
    unfold Calm
    show (ownership.after (s.log ++ [_])).inFlight = none
    rw [Monitor.after_snoc]
    obtain he | he := hnotice <;> rw [he] <;> rfl
  refine ⟨hmoves, hcalm, ?_⟩
  exact {
    rests := {
      held := hs.rests.held
      work := hs.rests.work
      calm := fun _ => hcalm
      terminated := fun ht => hs.rests.terminated (by
        replace ht : (ownership.after (s.log ++ [_])).terminal = true := ht
        rw [Monitor.after_snoc] at ht
        obtain he | he := hnotice <;> rw [he] at ht <;> exact ht) }
    records := by
      rw [← hs.records]
      unfold Oui.records
      show Records.mk _ _ _ _ _ _ (realLayouts (s.record _)) (imageBooks (s.record _)) = _
      rw [realLayouts_record, imageBooks_record]
      obtain he | he := hnotice <;> rw [he] <;> rfl
    answers := fun hw a ha => hs.answers hw a (idleAnswers_sublist _ a ha) }

/-- Whether a submission has failed for good does not count any more. -/
theorem dropPending_ensures :
    Ensures (moves c) (fun s => Calm s ∧ Begins c r s) dropPending
      (fun _ => Amid c False r 0 none) E := by
  refine Ensures.get_bind fun s _ ⟨hcalm, hs⟩ => ?_
  refine Ensures.bind (Q := fun _ => Amid c False r
    ((s.pendingSubmission.elim [] VulkanSubmission.natives : List Native) + 0) none)
    (Ensures.modify ?_) fun _ => destroyAll_amid _
  rintro t - rfl
  have hquiet : Move c t.closePending { t.closePending with terminalSubmissionError := .success } :=
    .quiet ⟨rfl, rfl, rfl, rfl, rfl, rfl, rfl, rfl, rfl, rfl⟩
  refine ⟨(ReflTransGen.single (Move.closePending t)).tail hquiet, hs.records, ?_, hs.rests.work, rfl,
    hcalm, nofun, hs.answers⟩
  show t.held + _ = _
  rw [hs.rests.held, add_comm]

/-- No surface has an image to wait for. -/
def AllWaited (c : Scope) (r : Records) : Prop :=
  c.waits → ∀ id sf, r.surfaces id = some sf → SurfaceWaited sf

theorem AllWaited.removed (h : AllWaited c r) (hs : r'.surfaces = r.surfaces.set id none) :
    AllWaited c r' := by
  intro hc i sf hsf
  rw [hs] at hsf
  obtain ⟨-, hsf⟩ | ⟨-, hsf⟩ := Table.set_cases hsf
  · exact nomatch hsf
  · exact h hc i sf hsf

theorem shutdownSurface_ensures (hp : AllWaited c r) (id : Nat) :
    Ensures (moves c) (Amid c False r 0 none) (shutdownSurface id)
      (fun _ s => ∃ r', (r'.nextResourceId = r.nextResourceId ∧
        r'.surfaces = r.surfaces.set id none) ∧ Amid c False r' 0 none s) E := by
  refine Ensures.get_bind fun s _ hs => ?_
  refine Ensures.before (P := Amid c False r 0 none) ?_ (by rintro t - rfl; exact hs)
  rw [hs.surfaces]
  cases hsf : r.surfaces id with
  | none => exact Ensures.pure fun t _ ht => ⟨r, ⟨rfl, (Table.set_none hsf).symm⟩, ht⟩
  | some sf =>
    have hbare : (r.dropped id sf).surfaces id = some sf.bared := Table.set_same
    refine Ensures.bind (Ensures.bind waitDeviceIdle_ensures fun _ =>
      releaseSwapchain_ensures hsf fun hc => hp hc id sf hsf) fun _ => ?_
    refine Ensures.bind (releaseSurface_ensures hbare rfl rfl rfl) fun _ =>
      Ensures.pure fun t _ ht => ⟨_, ⟨?_, ?_⟩, ht⟩
    · exact rfl
    · funext i
      show ((r.surfaces.set id (some sf.bared)).set id none) i = _
      simp only [Table.set_apply]
      split <;> rfl

theorem shutdownMesh_ensures (id : Nat) :
    Ensures (moves c) (Amid c False r 0 none) (shutdownMesh id)
      (fun _ => Amid c False { r with meshes := r.meshes.set id none } 0 none) E := by
  refine Ensures.get_bind fun s _ hs => ?_
  refine Ensures.bind (Q := fun _ => Amid c False { r with meshes := r.meshes.set id none }
    (((s.meshes id).elim [] MeshRecord.natives : List Native) + 0) none) (moving ?_) fun _ =>
      destroyAll_amid _
  rintro t - rfl
  refine ⟨.takeMesh t id, { hs with records := ?_, held := ?_ }⟩
  · rw [← hs.records]
    rfl
  · show t.held + _ = _
    rw [hs.held, add_comm]

/-- A loop over all numbers empties a table, if each turn takes out what has its number. -/
theorem empties {α : Type} (table : Records → Table α) {I : Records → Prop} {f : Nat → RendererM Unit}
    (hf : ∀ r id, I r → Ensures (moves c) (Amid c False r 0 none) (f id)
      (fun _ s => ∃ r', (I r' ∧ table r' = (table r).set id none) ∧ Amid c False r' 0 none s) E)
    {n : Nat} (hb : (table r).Below n) (hI : I r) :
    Ensures (moves c) (Amid c False r 0 none) ((List.range n).forM f)
      (fun _ s => ∃ r', (I r' ∧ ∀ i, table r' i = none) ∧ Amid c False r' 0 none s) E := by
  refine Ensures.imp (Ensures.forM (I := fun ids s => ∃ r', (I r' ∧ ∀ i, i ∉ ids → table r' i = none) ∧
    Amid c False r' 0 none s) (List.range n) fun id ids => ?_) (fun s _ hs =>
    ⟨r, ⟨hI, fun i hi => ?_⟩, hs⟩)
    (fun _ _ _ ⟨r', ⟨hI', hr'⟩, hs⟩ => ⟨r', ⟨hI', fun i => hr' i List.not_mem_nil⟩, hs⟩) fun _ _ _ hs => hs
  · refine Ensures.exists_pre fun r₁ => Ensures.and_pre fun ⟨hI₁, hr₁⟩ => ?_
    refine (hf r₁ id hI₁).after fun _ s _ ⟨r₂, ⟨hI₂, hr₂⟩, hs⟩ => ⟨r₂, ⟨hI₂, fun i hi => ?_⟩, hs⟩
    rw [hr₂, Table.set_apply]
    split
    · rfl
    · rename_i hne
      exact hr₁ i fun hm => (List.mem_cons.mp hm).elim hne hi
  · exact hb i (Nat.not_lt.mp fun hlt => hi (List.mem_range.mpr hlt))

/-- Nothing is left of the backend. -/
structure Gone (s : Vulkan) : Prop where
  rests : Rests s
  initialized : s.initialized = false
  surfaces : ∀ id, s.surfaces id = none

theorem table_empty {α : Type} {table : Table α} (h : ∀ i, table i = none) : table = ∅ := funext h

theorem closed_ensures (hs : ∀ i, r.surfaces i = none) (ht : ∀ i, r.textures i = none)
    (hm : ∀ i, r.meshes i = none) :
    Ensures (moves c) (Amid c False r 0 none) (modify (·.closed)) (fun _ => Gone) E := by
  refine moving fun s _ ha => ⟨.closed s ?_ (ha.textures ▸ ht) (ha.meshes ▸ hm) (ha.surfaces ▸ hs), ?_⟩
  · simp only [allNatives, ha.held, ha.work, ha.pending, ha.textures, ha.meshes, ha.surfaces,
      table_empty hs, table_empty ht, table_empty hm, Table.worth_none, Table.sum_empty, add_zero]
  · refine ⟨⟨ha.held, ha.work, fun _ => ?_, fun hterminal => ?_⟩, rfl, ha.surfaces ▸ hs⟩
    · have hcalm := ha.calm
      unfold Calm at hcalm ⊢
      show (ownership.after (s.log ++ [.shutDown])).inFlight = none
      rw [Monitor.after_snoc]
      exact hcalm
    · replace hterminal : (ownership.after (s.log ++ [.shutDown])).terminal = true := hterminal
      rw [Monitor.after_snoc] at hterminal
      exact absurd hterminal Bool.false_ne_true

theorem shutdown_ensures (hp : AllWaited c r) :
    Ensures (moves c) (Begins c r) shutdown (fun _ => Gone) E := by
  refine Ensures.bind waitDeviceIdle_rests fun _ => Ensures.bind dropPending_ensures fun _ => ?_
  refine Ensures.get_bind fun s _ hs => ?_
  refine Ensures.before (P := Amid c False r 0 none) ?_ (by rintro t - rfl; exact hs)
  rw [hs.nextResourceId]
  refine Ensures.assume (fun s hs h => h.facts hs) fun hf => ?_
  refine Ensures.bind (empties Records.surfaces
    (I := fun r' => r'.nextResourceId = r.nextResourceId ∧ AllWaited c r') (fun r₁ id hI => ?_)
      hf.surfaces ⟨rfl, hp⟩) fun _ =>
        Ensures.exists_pre fun r₁ => Ensures.and_pre fun ⟨⟨hn₁, _⟩, hs₁⟩ => ?_
  · exact (shutdownSurface_ensures hI.2 id).after fun _ _ _ ⟨r₂, ⟨hn, hr₂⟩, hs⟩ =>
      ⟨r₂, ⟨⟨hn.trans hI.1, hI.2.removed hr₂⟩, hr₂⟩, hs⟩
  refine Ensures.assume (fun s hs h => h.facts hs) fun hf₁ => ?_
  refine Ensures.bind (empties Records.textures
    (I := fun r' => r'.nextResourceId = r.nextResourceId ∧ ∀ i, r'.surfaces i = none)
      (fun r₂ id hI => ?_) (hn₁ ▸ hf₁.textures) ⟨hn₁, hs₁⟩) fun _ =>
        Ensures.exists_pre fun r₂ => Ensures.and_pre fun ⟨⟨hn₂, hs₂⟩, ht₂⟩ => ?_
  · refine (destroyTextureRecord_ensures fun surface sf hsf => ?_).after fun _ _ _ hs =>
      ⟨r₂.withoutTexture id, ⟨hI, rfl⟩, hs⟩
    exact nomatch (hI.2 surface).symm.trans hsf
  refine Ensures.assume (fun s hs h => h.facts hs) fun hf₂ => ?_
  refine Ensures.bind (empties Records.meshes
    (I := fun r' => (∀ i, r'.surfaces i = none) ∧ ∀ i, r'.textures i = none)
      (fun r₃ id hI => ?_) (hn₂ ▸ hf₂.meshes) ⟨hs₂, ht₂⟩) fun _ =>
        Ensures.exists_pre fun r₃ => Ensures.and_pre fun ⟨⟨hs₃, ht₃⟩, hm₃⟩ => ?_
  · exact (shutdownMesh_ensures id).after fun _ _ _ hs =>
      ⟨{ r₃ with meshes := r₃.meshes.set id none }, ⟨hI, rfl⟩, hs⟩
  exact closed_ensures hs₃ ht₃ hm₃

/-! ## Calls -/

/-- What holds between calls. -/
structure Idle (s : Vulkan) : Prop where
  sound : Sound s
  rests : Rests s
  closed : s.initialized = false → ∀ id, s.surfaces id = none

/-- What a call leaves; `kept` says that no swapchain was created again in vain. -/
structure CallLeaves (kept : Prop) (r : Records) (s : Vulkan) : Prop where
  rests : Rests s
  closed : s.initialized = false → ∀ id, s.surfaces id = none
  whole : kept → AllWhole r.surfaces → AllWhole s.surfaces

/-- A call succeeds. -/
structure Succeeds (call : VulkanCall) (kept : Prop) (r : Records) (s : Vulkan) : Prop
    extends CallLeaves kept r s where
  steady : call.operates = true → (ownership.after s.log).terminal = false

/-- A call fails; a transition leaves what the surfaces tell. -/
structure Fails (call : VulkanCall) (kept : Prop) (r : Records) (s : Vulkan) : Prop
    extends CallLeaves kept r s where
  views : transitionedSurface call ≠ none → kept → SameViews r.surfaces s.surfaces

section Calls

variable {call : VulkanCall} {s : Vulkan}

theorem Begins.leaves (hclosed : r.initialized = false → ∀ id, r.surfaces id = none)
    (h : Begins c r s) : CallLeaves kept r s where
  rests := h.rests
  closed hi := by
    rw [← h.records] at hclosed
    exact hclosed hi
  whole _ hw := by
    rw [← h.records] at hw
    exact hw

theorem Begins.fails (hclosed : r.initialized = false → ∀ id, r.surfaces id = none)
    (h : Begins c r s) : Fails call kept r s :=
  { h.leaves hclosed with
    views := fun _ _ => by
      rw [← h.records]
      exact .refl _ }

theorem Failed.fails {k : Prop} (hi : r.initialized = true) (hk : kept → k) (h : Failed k r 0 s) :
    Fails call kept r s where
  rests := h.rests
  closed hno := nomatch hno.symm.trans (h.initialized.trans hi)
  whole hw := (h.views (hk hw)).whole
  views _ hw := h.views (hk hw)

theorem Done.leaves (hi : r.initialized = true) (h : Done c True r s) : CallLeaves kept r s := by
  obtain ⟨r', hr, hs⟩ := h
  refine ⟨hs.rests, fun hno => ?_, fun _ hw => ?_⟩
  · have hi' := (congrArg Records.initialized hs.records).trans (hr.initialized.trans hi)
    exact nomatch hno.symm.trans hi'
  · rw [hs.surfaces]
    exact hr.whole trivial hw

theorem Done.succeeds (hi : r.initialized = true) (h : Done c True r s) : Succeeds call kept r s :=
  { h.leaves hi with
    steady := fun _ => by
      obtain ⟨r', -, hs⟩ := h
      exact (hs.steady trivial).2 }

theorem Amid.done (ha : Amid c True r' 0 none s) (hs : r'.surfaces = r.surfaces)
    (hi : r'.initialized = r.initialized) : Done c True r s :=
  ⟨r', .of_surfaces hs hi, ha⟩

theorem check_ensures {P : Vulkan → Prop} {result : RendererStatus} :
    Ensures (moves c) P (check result) (fun _ s => result = .ok () ∧ P s) (fun _ => P) := by
  unfold check
  split
  · exact Ensures.pure fun _ _ hs => ⟨rfl, hs⟩
  · exact Ensures.throw fun _ _ hs => hs

theorem requireInitialized_ensures :
    Ensures (moves c) (Begins c r) requireInitialized (fun _ s => r.initialized = true ∧ Begins c r s)
      (fun _ => Begins c r) := by
  refine Ensures.get_bind fun s _ hs => ?_
  refine Ensures.before (P := Begins c r) ?_ (by rintro t - rfl; exact hs)
  refine failIf_ensures.after fun _ t _ ht => ⟨?_, ht.2⟩
  rw [← hs.records]
  exact Bool.eq_true_of_not_eq_false ht.1

/-- A call of the backend that fails when nothing was initialized. -/
theorem guarded_ensures {x : RendererM Unit} {k : Prop}
    (hclosed : r.initialized = false → ∀ id, r.surfaces id = none) (hk : kept → k)
    (hx : Ensures (moves c) (Begins c r) x (fun _ => Done c True r) (fun _ => Failed k r 0)) :
    Ensures (moves c) (Begins c r) (requireInitialized >>= fun _ => x)
      (fun _ => Succeeds call kept r) (fun _ => Fails call kept r) := by
  refine Ensures.bind (requireInitialized_ensures.error fun _ _ _ hs => hs.fails hclosed) fun _ =>
    Ensures.and_pre fun hi => ?_
  exact hx.imp (fun _ _ hs => hs) (fun _ _ _ hs => hs.succeeds hi) fun _ _ _ hs => hs.fails hi hk

end Calls

/-- What is known of a call. -/
def scopeOf (s : Vulkan) (a : VulkanAction) : Scope where
  names := NamesAcquired s (imageBooks s) a.call
  restores := ReadsUndefined s a.call
  waits := GivesUpWaited s a.call
  whole := recreates a.call = true ∧ RecreatesWell a

theorem findTexture_live {s : Vulkan} {h : TextureHandle} {t : TextureRecord}
    (hg : h.generation = s.handleGeneration) (ht : s.textures h.value = some t) :
    s.findTexture h = some t := by
  rw [Vulkan.findTexture, if_neg (not_not.mpr hg), ht]

theorem findSurface_live {s : Vulkan} {h : SurfaceHandle}
    (hg : h.generation = s.handleGeneration) (ht : s.surfaces h.value = some sf) :
    s.findSurface h = some sf := by
  rw [Vulkan.findSurface, if_neg (not_not.mpr hg), ht]

theorem waited_live {s : Vulkan} {a : VulkanAction} {h : SurfaceHandle}
    (hc : GivesUpWaited s a.call → ∀ sf, s.findSurface h = some sf → SurfaceWaited sf) :
    Waited (scopeOf s a) (records s) h :=
  fun hw sf hg hsf => hc hw sf (findSurface_live hg hsf)

theorem initializeWith_ensures {generation : Nat} {device : RendererResult VulkanDevice}
    {call : VulkanCall}
    (hcall : call.operates = false)
    (hclosed : r.initialized = false → ∀ id, r.surfaces id = none) :
    Ensures (moves c) (Begins c r) (initializeWith generation device)
      (fun _ => Succeeds call kept r) (fun _ => Fails call kept r) := by
  have hno : call.operates = true → ∀ s : Vulkan, (ownership.after s.log).terminal = false :=
    fun ho => nomatch hcall.symm.trans ho
  refine Ensures.get_bind fun s _ hs => ?_
  refine Ensures.before (P := Begins c r) ?_ (by rintro t - rfl; exact hs)
  refine Ensures.ite (fun _ => Ensures.pure fun t _ ht =>
    { ht.leaves hclosed with steady := fun ho => hno ho t }) fun hi => ?_
  refine Ensures.bind (failIf_ensures.error fun _ _ _ ht => ht.fails hclosed) fun _ =>
    Ensures.and_pre fun _ => ?_
  cases device with
  | error e => exact Ensures.throw fun _ _ ht => ht.fails hclosed
  | ok device =>
    refine Ensures.modify fun t _ ht => ?_
    have hnone : ∀ id, t.surfaces id = none := by
      have hsurfaces : t.surfaces = r.surfaces := congrArg Records.surfaces ht.records
      have hinit : r.initialized = false :=
        (congrArg Records.initialized hs.records).symm.trans (Bool.eq_false_iff.mpr hi)
      rw [hsurfaces]
      exact hclosed hinit
    have hquiet : Move c { t with handleGeneration := generation } { t with
        initialized := true
        handleGeneration := generation
        maximumTextureExtent := device.maximumTextureExtent
        wayland := if device.wayland = true then some 0 else none
        hasSwapchain := device.hasSwapchain
        supportsDirectDisplay := device.supportsDirectDisplay } :=
      .quiet ⟨rfl, rfl, rfl, rfl, rfl, rfl, rfl, rfl, rfl, rfl⟩
    exact ⟨(ReflTransGen.single (Move.opened t generation hnone)).tail hquiet,
      { rests := { ht.rests with }, closed := nofun, whole := (ht.leaves hclosed).whole
        steady := fun ho => hno ho _ }⟩

theorem perform_ensures (s : Vulkan) (a : VulkanAction) (h : Idle s) :
    Ensures (moves (scopeOf s a)) (Begins (scopeOf s a) (records s)) (perform a.call)
      (fun _ => Succeeds a.call (RecreatesWell a) (records s))
      (fun _ => Fails a.call (RecreatesWell a) (records s)) := by
  have hclosed : (records s).initialized = false → ∀ id, (records s).surfaces id = none := h.closed
  have hfail : ∀ {p : Prop} [Decidable p] {e : RendererError} {call : VulkanCall} {k : Prop},
      Ensures (moves (scopeOf s a)) (Begins (scopeOf s a) (records s)) (failIf p e)
        (fun _ t => ¬p ∧ Begins (scopeOf s a) (records s) t) (fun _ => Fails call k (records s)) :=
    failIf_ensures.error fun _ _ _ ht => ht.fails hclosed
  have hcheck : ∀ {result : RendererStatus} {call : VulkanCall} {k : Prop},
      Ensures (moves (scopeOf s a)) (Begins (scopeOf s a) (records s)) (check result)
        (fun _ t => result = .ok () ∧ Begins (scopeOf s a) (records s) t)
        (fun _ => Fails call k (records s)) :=
    check_ensures.error fun _ _ _ ht => ht.fails hclosed
  obtain ⟨call, answers⟩ := a
  cases call with
  | initializeWith generation device => exact initializeWith_ensures rfl hclosed
  | shutdown =>
    refine Ensures.get_bind fun t _ ht => ?_
    refine Ensures.before (P := Begins _ (records s)) ?_ (by rintro u - rfl; exact ht)
    refine Ensures.ite (fun _ => (shutdown_ensures fun hc => hc).after fun _ u _ hu =>
      ⟨⟨hu.rests, fun _ => hu.surfaces, fun _ _ id sf hsf => ?_⟩, nofun⟩) fun _ =>
        Ensures.pure fun u _ hu => { hu.leaves hclosed with steady := nofun }
    exact nomatch (hu.surfaces id).symm.trans hsf
  | createTexture d =>
    refine Ensures.bind hcheck fun _ => Ensures.and_pre fun _ => guarded_ensures hclosed (fun _ => trivial)
      (Ensures.discard ((createTexture_ensures d).after fun _ t _ ⟨r', ⟨_, hr⟩, ht⟩ => ht.done ?_ ?_))
    · rw [hr.records]
      rfl
    · rw [hr.records]
      rfl
  | destroyTexture h =>
    exact Ensures.bind hfail fun _ => Ensures.and_pre fun _ => guarded_ensures hclosed (fun _ => trivial)
      ((destroyTexture_ensures h).after fun _ t _ ht => ht.done rfl rfl)
  | uploadTexture h frame =>
    exact Ensures.bind hfail fun _ => Ensures.and_pre fun _ => Ensures.bind hcheck fun _ =>
      Ensures.and_pre fun _ => guarded_ensures hclosed (fun _ => trivial) (Ensures.discard
        ((uploadTexture_ensures h frame).after fun _ t _ ⟨r', hr, ht⟩ => ht.done hr.1 hr.2))
  | createMesh d =>
    exact Ensures.bind hcheck fun _ => Ensures.and_pre fun _ => guarded_ensures hclosed (fun _ => trivial)
      (Ensures.discard ((createMesh_ensures d).after fun _ t _ ⟨_, _, ht⟩ => ht.done rfl rfl))
  | updateMesh h d =>
    exact Ensures.bind hfail fun _ => Ensures.and_pre fun _ => Ensures.bind hcheck fun _ =>
      Ensures.and_pre fun _ => guarded_ensures hclosed (fun _ => trivial)
        ((updateMesh_ensures h d).after fun _ t _ ⟨r', hr, ht⟩ => ht.done hr.1 hr.2)
  | destroyMesh h =>
    exact Ensures.bind hfail fun _ => Ensures.and_pre fun _ => guarded_ensures hclosed (fun _ => trivial)
      ((destroyMesh_ensures h).after fun _ t _ ht => ht.done rfl rfl)
  | createSurface d =>
    exact Ensures.bind hcheck fun _ => Ensures.and_pre fun hd => guarded_ensures hclosed (fun _ => trivial)
      (Ensures.discard (createSurface_ensures (valid_surface hd)))
  | resizeSurface h extent =>
    exact Ensures.bind hfail fun _ => Ensures.and_pre fun _ => Ensures.bind hfail fun _ =>
      Ensures.and_pre fun he => guarded_ensures hclosed (fun hk => ⟨rfl, hk⟩)
        (resizeSurface_ensures (waited_live id) (Bool.eq_false_iff.mpr he))
  | setSurfaceWindowMode h request =>
    exact Ensures.bind hfail fun _ => Ensures.and_pre fun _ => Ensures.bind hcheck fun _ =>
      Ensures.and_pre fun hr => guarded_ensures hclosed (fun hk => ⟨rfl, hk⟩)
        (setSurfaceWindowMode_ensures (waited_live id) hr)
  | pollSurfaceEvents h =>
    exact Ensures.bind hfail fun _ => Ensures.and_pre fun _ => guarded_ensures hclosed
      (fun hk => ⟨rfl, hk⟩) (Ensures.discard (pollSurfaceEvents_ensures (waited_live id)))
  | processSurfaceEvents h =>
    exact Ensures.bind hfail fun _ => Ensures.and_pre fun _ => guarded_ensures hclosed
      (fun hk => ⟨rfl, hk⟩) (Ensures.discard (processSurfaceEvents_ensures (waited_live id)))
  | destroySurface h =>
    refine Ensures.bind hfail fun _ => Ensures.and_pre fun _ => ?_
    refine Ensures.bind (requireInitialized_ensures.error fun _ _ _ ht => ht.fails hclosed) fun _ =>
      Ensures.and_pre fun hi => ?_
    refine (destroySurface_ensures (waited_live id)).imp (fun _ _ ht => ht)
      (fun _ _ _ ht => ht.succeeds hi) fun _ t _ ht => ?_
    obtain ht | ht := ht
    · exact ht.fails hi fun _ => trivial
    · exact { ht.leaves hi with views := fun hno => absurd rfl hno }
  | presentSurface h =>
    refine Ensures.bind hfail fun _ => Ensures.and_pre fun _ => guarded_ensures hclosed
      (fun hk => ⟨rfl, hk⟩) (Ensures.discard (presentSurface_ensures h fun hc sf sc hg hsf hsc => ?_))
    exact hc sf sc (findSurface_live hg hsf) hsc
  | executeRenderPass d =>
    refine Ensures.bind hcheck fun _ => Ensures.and_pre fun hd => guarded_ensures hclosed
      (fun _ => trivial) (Ensures.discard (executeRenderPass_ensures hd fun hc t hg ht => ?_))
    exact hc t (findTexture_live hg ht)
  | readTexture h timeoutMs =>
    refine Ensures.bind hfail fun _ => Ensures.and_pre fun _ => Ensures.bind hfail fun _ =>
      Ensures.and_pre fun _ => guarded_ensures hclosed (fun _ => trivial) (Ensures.discard
        (readTexture_ensures h (fun hc t hg ht => ?_) fun hc t hg ht hl => ?_))
    · exact hc t (findTexture_live hg ht)
    · exact hc ⟨t, findTexture_live hg ht, hl⟩

/-! ## Steps -/

section Steps

variable {s t : Vulkan} {a : VulkanAction}

theorem Idle.begins (h : Idle s) (a : VulkanAction) :
    Begins (scopeOf s a) (records s) { s with answers := a.answers } where
  rests := { h.rests with }
  records := rfl
  answers hw := hw.2 hw.1

/-- A call from a state between calls is a sequence of moves. -/
theorem calls_moves (h : Idle s) (a : VulkanAction) :
    ReflTransGen (Move (scopeOf s a)) s (lastState (s.calls a)) ∧
      Meets (fun _ => Succeeds a.call (RecreatesWell a) (records s))
        (fun _ => Fails a.call (RecreatesWell a) (records s)) (s.calls a) := by
  have hasked : Move (scopeOf s a) s { s with answers := a.answers } := quiet_answers _
  obtain ⟨hmoves, hmeets⟩ := perform_ensures s a h _ (h.sound.move hasked) (h.begins a)
  exact ⟨.head hasked hmoves, hmeets⟩

theorem CallLeaves.returns (h : CallLeaves kept r s) (call : VulkanCall) (ok : Bool) :
    CallLeaves kept r (s.returns call ok) := by
  unfold Vulkan.returns
  split
  · refine ⟨⟨h.rests.held, h.rests.work, fun hp => ?_, fun ht => h.rests.terminated ?_⟩, h.closed, h.whole⟩
    · have hcalm := h.rests.calm hp
      unfold Calm at hcalm ⊢
      show (ownership.after (s.log ++ [.returned ok])).inFlight = none
      rw [Monitor.after_snoc]
      exact hcalm
    · replace ht : (ownership.after (s.log ++ [.returned ok])).terminal = true := ht
      rw [Monitor.after_snoc] at ht
      exact ht
  · exact h

theorem returns_moves (call : VulkanCall) (ok : Bool)
    (h : ok = true → call.operates = true → (ownership.after s.log).terminal = false) :
    ReflTransGen (Move c) s (s.returns call ok) := by
  unfold Vulkan.returns
  split
  · rename_i ho
    exact .single (.returned s ok fun hok => h hok ho)
  · exact .refl

theorem vulkanStep_moves (h : Idle s) (hs : vulkanStep s a = some t) :
    ReflTransGen (Move (scopeOf s a)) s t ∧ CallLeaves (RecreatesWell a) (records s) t := by
  obtain ⟨hmoves, hmeets⟩ := calls_moves h a
  unfold vulkanStep at hs
  cases hcalls : s.calls a with
  | ok _ u =>
    rw [hcalls] at hmoves hmeets hs
    obtain rfl := Option.some.inj hs
    have hsucceeds : Succeeds a.call (RecreatesWell a) (records s) u := hmeets
    exact ⟨hmoves.trans (returns_moves a.call true fun _ => hsucceeds.steady),
      hsucceeds.toCallLeaves.returns _ _⟩
  | error e u =>
    rw [hcalls] at hmoves hmeets hs
    obtain rfl := Option.some.inj hs
    have hfails : Fails a.call (RecreatesWell a) (records s) u := hmeets
    exact ⟨hmoves.trans (returns_moves a.call false nofun), hfails.toCallLeaves.returns _ _⟩

theorem Idle.step (h : Idle s) (hs : vulkanStep s a = some t) : Idle t := by
  obtain ⟨hmoves, hleaves⟩ := vulkanStep_moves h hs
  exact ⟨(moves (scopeOf s a)).inv_of_steps hmoves h.sound, hleaves.rests, hleaves.closed⟩

/-- Between calls the backend holds nothing, and has no surface before it is initialized. -/
theorem idle_init : Idle {} := by
  have hnone : allNatives {} = 0 := by
    simp only [allNatives, Table.worth_none, Table.sum_empty, add_zero]
  have hempty : ∀ {α : Type} {id : Nat} {a : α}, (∅ : Table α) id ≠ some a :=
    fun h => Option.some_ne_none _ h.symm
  exact {
    sound := {
      owning := {
        accepted := Monitor.accepts_nil _
        live := hnone.symm
        once := hnone ▸ Multiset.nodup_zero
        issued := fun n hn => absurd (hnone ▸ hn) (Multiset.notMem_zero n)
        textures := Table.below_empty
        meshes := Table.below_empty
        surfaces := Table.below_empty }
      records := ⟨fun h => absurd h hempty, fun h => absurd h hempty⟩
      tracked := ⟨fun _ _ h => absurd h hempty, fun _ _ _ _ => rfl⟩
      images := ⟨fun _ _ _ h => absurd h hempty, fun _ _ => rfl⟩
      windows := ⟨fun _ _ _ h => absurd h hempty, fun _ => Monitor.accepts_nil _⟩
      ids := Nat.one_pos }
    rests := ⟨rfl, rfl, fun _ => rfl, fun h => absurd h Bool.false_ne_true⟩
    closed := fun _ _ => rfl }

/-- Every run leads from a state between calls to another. -/
theorem idle_run {as : List VulkanAction} (hr : run vulkanStep {} as = some s) : Idle s :=
  run_invariant (fun _ _ _ h hs => h.step hs) idle_init hr

/-- What every move of a step keeps holds along a run. -/
theorem moves_run {ok : Vulkan → VulkanAction → Prop} {P : Vulkan → Prop}
    (hP : ∀ s a, ok s a → ∀ t u, Move (scopeOf s a) t u → Sound t → P t → P u) (hinit : P {})
    {as : List VulkanAction} (hok : Along vulkanStep ok {} as) (hr : run vulkanStep {} as = some s) :
    P s := by
  have hstep : ∀ s a t, Idle s ∧ P s → ok s a → vulkanStep s a = some t → Idle t ∧ P t := by
    intro s a t h ha hs
    obtain ⟨hmoves, -⟩ := vulkanStep_moves h.1 hs
    refine ⟨h.1.step hs, ?_⟩
    have hboth : Sound t ∧ P t := keeps_of_steps (R := Move (scopeOf s a))
      (I := fun t => Sound t ∧ P t)
      (fun u v hm hu => ⟨hu.1.move hm, hP s a ha u v hm hu.1 hu.2⟩) hmoves ⟨h.1.sound, h.2⟩
    exact hboth.2
  exact (run_invariant_along hstep ⟨idle_init, hinit⟩ hok hr).2

end Steps

end WSE.Proof.Oui
