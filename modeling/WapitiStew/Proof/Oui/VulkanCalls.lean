import WapitiStew.Proof.Oui.VulkanHistory

/-!
# The calls that the operations of the Vulkan backend share

`Amid` says where an operation stands: what the records say, what it holds, and the owner of its
work. Each call is a sequence of moves from there (`Ensures`). `Halted` is what an exception leaves
while there may be an owner, `Failed` when there is none, and `Rests` is the state between
operations.
-/

namespace WSE.Proof.Oui

open WSE.Framework WSE.Impl.Oui WSE.Spec.Oui Relation

/-! ## What every move keeps -/

structure Sound (s : Vulkan) : Prop where
  owning : Owning s
  records : RecordsLinked s
  tracked : Tracked s
  images : ImagesLinked s
  windows : WindowsLinked s
  ids : 0 < s.nextResourceId

theorem ids_move {c : Scope} {s t : Vulkan} (m : Move c s t) (h : 0 < s.nextResourceId) :
    0 < t.nextResourceId := by
  cases m with
  | quiet hq =>
    rw [hq.nextResourceId]
    exact h
  | reserve | keepTexture | keepMesh => exact Nat.succ_pos _
  | closed => exact Nat.one_pos
  | addSurface id sf =>
    unfold Vulkan.addSurface
    cases sf.window <;> exact h
  | dropSwapchain id sf hs =>
    unfold Vulkan.dropSwapchain
    simp only [hs]
    rw [takeTextures_eq]
    exact h
  | installOffscreen id sf texture =>
    unfold Vulkan.installOffscreen
    rw [setTextureOwner_eq]
    exact h
  | replaceOffscreen id sf texture =>
    unfold Vulkan.replaceOffscreen
    rw [setTextureOwner_eq]
    exact h
  | notice | create | destroy | openWork | give | closeWork | recordCommand | ended | submitted
  | refused | retain | closePending | takeTexture | takeMesh | replaceMesh | installSwapchain
  | takeSurface | setMode | window | request | polled | surfacePolled | acquired | presented
  | acquireNext | returned | opened => exact h

theorem Sound.move {c : Scope} {s t : Vulkan} (m : Move c s t) (h : Sound s) : Sound t where
  owning := h.owning.move m
  records := h.records.move m h.owning
  tracked := h.tracked.move m h.owning
  images := h.images.move m h.owning
  windows := h.windows.move m h.records
  ids := ids_move m h.ids

def moves (c : Scope) : Guarantee Vulkan where
  step := Move c
  inv := Sound
  keeps := Sound.move

/-- A change of the state that is a move. -/
theorem moving {c : Scope} {f : Vulkan → Vulkan} {P Q : Vulkan → Prop}
    {E : RendererError → Vulkan → Prop}
    (h : ∀ s, Sound s → P s → Move c s (f s) ∧ Q (f s)) :
    Ensures (moves c) P (modify f) (fun _ => Q) E :=
  Ensures.step fun s hs hp => ⟨(h s hs hp).1, fun _ => (h s hs hp).2⟩

/-! ## Where an operation stands -/

/-- What the operations look up. -/
structure Records where
  initialized : Bool
  generation : Nat
  nextResourceId : Nat
  textures : Table TextureRecord
  meshes : Table MeshRecord
  surfaces : Table SurfaceRecord
  layouts : Layouts
  images : ImageBooks

def records (s : Vulkan) : Records where
  initialized := s.initialized
  generation := s.handleGeneration
  nextResourceId := s.nextResourceId
  textures := s.textures
  meshes := s.meshes
  surfaces := s.surfaces
  layouts := realLayouts s
  images := imageBooks s

/-- A terminal error is known to the backend. -/
def Terminated (s : Vulkan) : Prop :=
  (ownership.after s.log).terminal = true → s.terminalSubmissionError ≠ .success

/-- No submission has failed for good. -/
def Steady (s : Vulkan) : Prop :=
  s.terminalSubmissionError = .success ∧ (ownership.after s.log).terminal = false

/-- What a surface tells its users. -/
def surfaceView (sf : SurfaceRecord) : SurfaceState × List TextureHandle :=
  (reportedState sf, sf.textures)

/-- The surfaces tell what they told before. -/
def SameViews (surfaces surfaces' : Table SurfaceRecord) : Prop :=
  ∀ id, (surfaces' id).map surfaceView = (surfaces id).map surfaceView

/-- Nothing is in flight; the operation holds some objects and has an owner or not. -/
structure Amid (c : Scope) (steady : Prop) (r : Records) (held : Multiset Native)
    (work : Option VulkanSubmission) (s : Vulkan) : Prop where
  records : records s = r
  held : s.held = held
  work : s.work = work
  pending : s.pendingSubmission = none
  calm : Calm s
  steady : steady → Steady s
  answers : c.whole → ∀ a ∈ s.answers, SwapchainSucceeds a.swapchain

/-- An exception is on its way; the surfaces tell what they told before if that is `kept`. -/
structure Halted (kept : Prop) (r : Records) (held : Multiset Native) (s : Vulkan) : Prop where
  held : s.held = held
  initialized : s.initialized = r.initialized
  calm : s.pendingSubmission = none → Calm s
  moved : s.pendingSubmission ≠ none → s.work = none
  terminated : Terminated s
  views : kept → SameViews r.surfaces s.surfaces

/-- And the operation has no owner. -/
structure Failed (kept : Prop) (r : Records) (held : Multiset Native) (s : Vulkan) : Prop
    extends Halted kept r held s where
  work : s.work = none

/-- No operation is under way. -/
structure Rests (s : Vulkan) : Prop where
  held : s.held = 0
  work : s.work = none
  calm : s.pendingSubmission = none → Calm s
  terminated : Terminated s

theorem SameViews.refl (surfaces : Table SurfaceRecord) : SameViews surfaces surfaces :=
  fun _ => rfl

theorem SameViews.trans {a b d : Table SurfaceRecord} (h : SameViews a b) (h' : SameViews b d) :
    SameViews a d :=
  fun id => (h' id).trans (h id)

theorem Steady.terminated {s : Vulkan} (h : Steady s) : Terminated s :=
  fun ht => nomatch h.2.symm.trans ht

theorem Failed.rests {kept : Prop} {r : Records} {s : Vulkan} (h : Failed kept r 0 s) : Rests s :=
  ⟨h.held, h.work, h.calm, h.terminated⟩

section Amid

variable {c : Scope} {steady kept : Prop} {r : Records} {held : Multiset Native}
  {work : Option VulkanSubmission} {s : Vulkan}

theorem Amid.halted (h : Amid c True r held work s) : Halted kept r held s where
  held := h.held
  initialized := congrArg Records.initialized h.records
  calm _ := h.calm
  moved hp := absurd h.pending hp
  terminated := (h.steady trivial).terminated
  views _ := congrArg Records.surfaces h.records ▸ .refl _

theorem Amid.failed (h : Amid c True r held none s) : Failed kept r held s :=
  { h.halted with work := h.work }

theorem Amid.rests (h : Amid c True r 0 none s) : Rests s where
  held := h.held
  work := h.work
  calm _ := h.calm
  terminated := (h.steady trivial).terminated

theorem Amid.textures (h : Amid c steady r held work s) : s.textures = r.textures :=
  congrArg Records.textures h.records

theorem Amid.meshes (h : Amid c steady r held work s) : s.meshes = r.meshes :=
  congrArg Records.meshes h.records

theorem Amid.surfaces (h : Amid c steady r held work s) : s.surfaces = r.surfaces :=
  congrArg Records.surfaces h.records

theorem Amid.generation (h : Amid c steady r held work s) : s.handleGeneration = r.generation :=
  congrArg Records.generation h.records

theorem Amid.nextResourceId (h : Amid c steady r held work s) :
    s.nextResourceId = r.nextResourceId := congrArg Records.nextResourceId h.records

theorem Amid.layouts (h : Amid c steady r held work s) : realLayouts s = r.layouts :=
  congrArg Records.layouts h.records

theorem Amid.images (h : Amid c steady r held work s) : imageBooks s = r.images :=
  congrArg Records.images h.records

/-- An event that neither submits, acquires or presents nor ends anything, nor finds the device lost
in a submission. -/
def IsPlain : VulkanEvent → Prop
  | .submitted _ _ _ _ | .acquired _ _ _ | .presented _ _ _ | .shutDown => False
  | .checked result => result ≠ .deviceLost
  | _ => True

theorem Amid.recorded (h : Amid c steady r held work s) {e : VulkanEvent} (he : IsPlain e) :
    Amid c steady r held work (s.record e) where
  records := by
    rw [← h.records]
    unfold Oui.records
    rw [realLayouts_record, imageBooks_record]
    cases e <;> first | rfl | exact he.elim
  held := h.held
  work := h.work
  pending := h.pending
  calm := by
    have hcalm := h.calm
    unfold Calm at hcalm ⊢
    show (ownership.after (s.log ++ [e])).inFlight = none
    rw [Monitor.after_snoc]
    cases e <;> first | exact hcalm | rfl | exact he.elim
  steady hs := by
    obtain ⟨hsuccess, hterminal⟩ := h.steady hs
    refine ⟨hsuccess, ?_⟩
    show (ownership.after (s.log ++ [e])).terminal = false
    rw [Monitor.after_snoc]
    cases e with
    | checked result =>
      show (_ || decide (result = .deviceLost)) = false
      rw [hterminal, Bool.false_or]
      exact decide_eq_false he
    | _ => first | exact hterminal | exact he.elim
  answers := h.answers

end Amid

/-! ## Calls -/

section Calls

variable {c : Scope} {steady kept : Prop} {r : Records} {held : Multiset Native}
  {work : Option VulkanSubmission} {E : RendererError → Vulkan → Prop} {P : Vulkan → Prop}

theorem failIf_cases {p : Prop} [Decidable p] {e : RendererError} :
    Ensures (moves c) P (failIf p e) (fun _ s => ¬p ∧ P s) (fun _ s => p ∧ P s) :=
  Ensures.ite (fun hp => Ensures.throw fun _ _ hs => ⟨hp, hs⟩) fun hp =>
    Ensures.pure fun _ _ hs => ⟨hp, hs⟩

theorem failIf_ensures {p : Prop} [Decidable p] {e : RendererError} :
    Ensures (moves c) P (failIf p e) (fun _ s => ¬p ∧ P s) (fun _ => P) :=
  failIf_cases.error fun _ _ _ hs => hs.2

theorem quiet_answers {s : Vulkan} (answers : List VulkanAnswer) :
    Move c s { s with answers := answers } :=
  .quiet ⟨rfl, rfl, rfl, rfl, rfl, rfl, rfl, rfl, rfl, rfl⟩

theorem swapchain_succeeds : SwapchainSucceeds {} := by decide

theorem ask_ensures : Ensures (moves c) (Amid c steady r held work) ask
    (fun a s => (c.whole → SwapchainSucceeds a.swapchain) ∧ Amid c steady r held work s) E := by
  refine Ensures.get_bind fun s _ hs => ?_
  refine Ensures.bind (Q := fun _ => Amid c steady r held work) (moving ?_) fun _ =>
    Ensures.pure fun t _ ht => ⟨fun hw => ?_, ht⟩
  · rintro t - rfl
    exact ⟨quiet_answers _,
      { hs with answers := fun hw a ha => hs.answers hw a (List.mem_of_mem_tail ha) }⟩
  · cases ha : s.answers with
    | nil => exact swapchain_succeeds
    | cons a rest => exact hs.answers hw a (ha ▸ List.mem_cons_self)

theorem callNative_ensures {message : String} :
    Ensures (moves c) (Amid c steady r held work) (callNative message)
      (fun _ => Amid c steady r held work) (fun _ => Amid c steady r held work) :=
  Ensures.bind ask_ensures fun _ =>
    (failIf_ensures (P := Amid c steady r held work)).imp (fun _ _ hs => hs.2) (fun _ _ _ hs => hs.2)
      fun _ _ _ => id

/-- What is created was in use nowhere. -/
structure NewNative (r : Records) (n : Native) : Prop where
  layouts : ∀ image : VulkanImage, n ∈ image.natives → r.layouts image = .undefined
  images : r.images n = none

theorem create_ensures {kind : NativeKind} {s : Vulkan} (h : Amid c steady r held work s) :
    Ensures (moves c) (· = s) (modify (·.create kind))
      (fun _ => Amid c steady r (⟨kind, s.nextNative⟩ ::ₘ held) work) E := by
  refine moving ?_
  rintro t - rfl
  exact ⟨.create t kind, { h.recorded (e := .created _) trivial with held := by rw [← h.held]; rfl }⟩

theorem fresh_next {s : Vulkan} (h : Amid c steady r held work s) (hs : Sound s) (kind : NativeKind) :
    NewNative r ⟨kind, s.nextNative⟩ where
  layouts image hn := h.layouts ▸ hs.tracked.fresh image _ hn le_rfl
  images := h.images ▸ hs.images.fresh _ le_rfl

theorem createNative_ensures {message : String} {kind : NativeKind} :
    Ensures (moves c) (Amid c steady r held work) (createNative message kind)
      (fun n s => NewNative r n ∧ n.kind = kind ∧ Amid c steady r (n ::ₘ held) work s)
      (fun _ => Amid c steady r held work) := by
  refine Ensures.bind callNative_ensures fun _ => Ensures.get_bind fun s hs h => ?_
  exact Ensures.bind (create_ensures h) fun _ =>
    Ensures.pure fun t _ ht => ⟨fresh_next h hs kind, rfl, ht⟩

/-- What is held is destroyed one by one. -/
theorem destroyAll_ensures {I : Multiset Native → Vulkan → Prop}
    (hI : ∀ n m s, I (n ::ₘ m) s → n ∈ s.held ∧ Calm s ∧ I m (s.destroy n))
    (ns : List Native) (m : Multiset Native) :
    Ensures (moves c) (I (ns + m)) (destroyAll ns) (fun _ => I m) E := by
  refine (Ensures.forM (I := fun ns => I ((ns : Multiset Native) + m)) ns fun n ns =>
    moving fun s _ hs => ?_).after
    fun _ _ _ hs => by rwa [Multiset.coe_nil, zero_add] at hs
  rw [← Multiset.cons_coe, Multiset.cons_add] at hs
  obtain ⟨hn, hc, ht⟩ := hI n _ s hs
  exact ⟨.destroy s n hn hc, ht⟩

theorem Amid.destroyed {s : Vulkan} {n : Native} (h : Amid c steady r (n ::ₘ held) work s) :
    n ∈ s.held ∧ Calm s ∧ Amid c steady r held work (s.destroy n) := by
  refine ⟨h.held ▸ Multiset.mem_cons_self n held, h.calm,
    { h.recorded (e := .destroyed n) trivial with held := ?_ }⟩
  show s.held.erase n = held
  rw [h.held, Multiset.erase_cons_head]

theorem destroyAll_amid (ns : List Native) :
    Ensures (moves c) (Amid c steady r (ns + held) work) (destroyAll ns)
      (fun _ => Amid c steady r held work) E :=
  destroyAll_ensures (I := fun m => Amid c steady r m work) (fun _ _ _ => Amid.destroyed) ns held

theorem Halted.destroyed {s : Vulkan} {n : Native} (h : Halted kept r (n ::ₘ held) s)
    (hc : Calm s) : n ∈ s.held ∧ Calm s ∧ Calm (s.destroy n) ∧ Halted kept r held (s.destroy n) := by
  have hcalm : Calm (s.destroy n) := by
    unfold Calm
    show (ownership.after (s.log ++ [_])).inFlight = none
    rw [Monitor.after_snoc]
    exact hc
  refine ⟨h.held ▸ Multiset.mem_cons_self n held, hc, hcalm,
    { h with calm := fun _ => hcalm, held := ?_, terminated := ?_ }⟩
  · show s.held.erase n = held
    rw [h.held, Multiset.erase_cons_head]
  · intro ht
    refine h.terminated ?_
    replace ht : (ownership.after (s.log ++ [_])).terminal = true := ht
    rwa [Monitor.after_snoc] at ht

variable (held) in
/-- If the computation fails, what it was to take over is destroyed. -/
theorem orDestroy_ensures {α : Type} {x : RendererM α} {Q : α → Vulkan → Prop} (ns : List Native)
    (hx : Ensures (moves c) (Amid c steady r (ns + held) work) x Q
      (fun _ => Amid c steady r (ns + held) work)) :
    Ensures (moves c) (Amid c steady r (ns + held) work) (orDestroy ns x) Q
      (fun _ => Amid c steady r held work) :=
  Ensures.tryCatch hx fun _ => Ensures.bind (destroyAll_amid ns) fun _ =>
    Ensures.throw fun _ _ hs => hs

theorem idleAnswers_sublist (answers : List VulkanAnswer) :
    ∀ a ∈ (idleAnswers answers).2, a ∈ answers := by
  induction answers with
  | nil => exact fun a ha => ha
  | cons answer rest ih =>
    intro a ha
    unfold idleAnswers at ha
    split at ha
    · exact List.mem_cons_of_mem _ ha
    · exact List.mem_cons_of_mem _ ha
    · exact List.mem_cons_of_mem _ (ih a ha)

theorem idleAnswers_notice (answers : List VulkanAnswer) :
    (idleAnswers answers).1 = .idle ∨ (idleAnswers answers).1 = .lost := by
  induction answers with
  | nil => exact .inl rfl
  | cons answer rest ih =>
    unfold idleAnswers
    split
    · exact .inl rfl
    · exact .inr rfl
    · exact ih

theorem waitDeviceIdle_ensures :
    Ensures (moves c) (Amid c steady r held work) waitDeviceIdleForRelease
      (fun _ => Amid c steady r held work) E := by
  refine Ensures.modify fun s _ hs => ?_
  have hplain : IsPlain (idleAnswers s.answers).1 ∧ IsNotice (idleAnswers s.answers).1 := by
    obtain he | he := idleAnswers_notice s.answers <;> rw [he] <;> exact ⟨trivial, trivial⟩
  refine ⟨(ReflTransGen.single (Move.notice s _ hplain.2)).tail (quiet_answers _), ?_⟩
  exact { hs.recorded hplain.1 with
    answers := fun hw a ha => hs.answers hw a (idleAnswers_sublist _ a ha) }

theorem requireTexture_ensures {h : TextureHandle} {name : String} :
    Ensures (moves c) (Amid c steady r held work) (requireTexture h name)
      (fun t s => (h.generation = r.generation ∧ r.textures h.value = some t) ∧
        Amid c steady r held work s) (fun _ => Amid c steady r held work) := by
  refine Ensures.get_bind fun s _ hs => ?_
  cases hf : s.findTexture h with
  | none => exact Ensures.throw fun t _ ht => ht ▸ hs
  | some t =>
    refine Ensures.pure fun u _ hu => ⟨?_, hu ▸ hs⟩
    rw [Vulkan.findTexture, hs.generation, hs.textures] at hf
    split at hf
    · exact absurd hf.symm (Option.some_ne_none _)
    · exact ⟨of_not_not ‹_›, hf⟩

theorem requireMesh_ensures {h : MeshHandle} :
    Ensures (moves c) (Amid c steady r held work) (requireMesh h)
      (fun m s => (h.generation = r.generation ∧ r.meshes h.value = some m) ∧
        Amid c steady r held work s) (fun _ => Amid c steady r held work) := by
  refine Ensures.get_bind fun s _ hs => ?_
  cases hf : s.findMesh h with
  | none => exact Ensures.throw fun t _ ht => ht ▸ hs
  | some t =>
    refine Ensures.pure fun u _ hu => ⟨?_, hu ▸ hs⟩
    rw [Vulkan.findMesh, hs.generation, hs.meshes] at hf
    split at hf
    · exact nomatch hf
    · exact ⟨of_not_not ‹_›, hf⟩

theorem requireSurface_ensures {h : SurfaceHandle} :
    Ensures (moves c) (Amid c steady r held work) (requireSurface h)
      (fun sf s => (h.generation = r.generation ∧ r.surfaces h.value = some sf) ∧
        Amid c steady r held work s) (fun _ => Amid c steady r held work) := by
  refine Ensures.get_bind fun s _ hs => ?_
  cases hf : s.findSurface h with
  | none => exact Ensures.throw fun t _ ht => ht ▸ hs
  | some t =>
    refine Ensures.pure fun u _ hu => ⟨?_, hu ▸ hs⟩
    rw [Vulkan.findSurface, hs.generation, hs.surfaces] at hf
    split at hf
    · exact nomatch hf
    · exact ⟨of_not_not ‹_›, hf⟩

end Calls

end WSE.Proof.Oui
