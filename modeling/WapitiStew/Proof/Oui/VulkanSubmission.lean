import WapitiStew.Proof.Oui.VulkanCalls

/-!
# Submissions of the Vulkan backend

The owner of an operation's objects, the pending submission, and `submit`: it ends with the work
done and the records settled, or with the owner destroyed, kept by the operation or retained until
the submission is known to be complete.
-/

namespace WSE.Proof.Oui

open WSE.Framework WSE.Impl.Oui WSE.Spec.Oui Relation

variable {c : Scope} {kept : Prop} {r : Records} {held : Multiset Native} {w : VulkanSubmission}
  {E : RendererError → Vulkan → Prop}

/-! ## The owner -/

theorem submissionNatives_eq (w : VulkanSubmission) : submissionNatives w =
    (w.command.toList + w.fence.toList + w.descriptorPool.toList + w.framebuffer.toList +
      w.buffer.toList + w.bufferMemory.toList + w.imageView.toList + w.image.toList +
      w.imageMemory.toList : Multiset Native) := by
  simp only [submissionNatives, VulkanSubmission.natives, ← Multiset.coe_add]

theorem some_natives (n : Native) : ((some n).toList : Multiset Native) = {n} := rfl

theorem none_natives : ((none : Option Native).toList : Multiset Native) = 0 := rfl

theorem submissionNatives_fence {f : Native} (hw : w.fence = none) :
    submissionNatives { w with fence := some f } = f ::ₘ submissionNatives w := by
  simp only [submissionNatives_eq, hw, some_natives, none_natives, ← Multiset.singleton_add]
  abel

theorem give_ensures {steady : Prop} {n : Native} {f : VulkanSubmission → VulkanSubmission}
    (hf : submissionNatives (f w) = n ::ₘ submissionNatives w) :
    Ensures (moves c) (Amid c steady r (n ::ₘ held) (some w)) (modify (·.give n f))
      (fun _ => Amid c steady r held (some (f w))) E := by
  refine moving fun s _ h => ⟨.give s n f w h.work (h.held ▸ Multiset.mem_cons_self n held) hf,
    { h with held := ?_, work := ?_ }⟩
  · show s.held.erase n = held
    rw [h.held, Multiset.erase_cons_head]
  · show s.work.map f = some (f w)
    rw [h.work, Option.map_some]

theorem createInWork_ensures {message : String} {kind : NativeKind}
    {place : Native → VulkanSubmission → VulkanSubmission}
    (hplace : ∀ n, submissionNatives (place n w) = n ::ₘ submissionNatives w) :
    Ensures (moves c) (Amid c True r held (some w)) (createInWork message kind place)
      (fun n s => NewNative r n ∧ Amid c True r held (some (place n w)) s)
      (fun _ => Amid c True r held (some w)) := by
  refine Ensures.bind createNative_ensures fun n => Ensures.and_pre fun hn => Ensures.and_pre fun _ => ?_
  exact Ensures.bind (give_ensures (hplace n)) fun _ => Ensures.pure fun _ _ hs => ⟨hn, hs⟩

theorem closeWork_amid {s : Vulkan} (h : Amid c True r held (some w) s) :
    Amid c True r (submissionNatives w + held) none s.closeWork :=
  { h with
    held := by
      show s.held + _ = _
      rw [h.held, h.work, add_comm]
      rfl
    work := rfl }

theorem releaseWork_amid :
    Ensures (moves c) (Amid c True r held (some w)) releaseWork
      (fun _ => Amid c True r held none) E := by
  refine Ensures.get_bind fun s _ hs => ?_
  refine Ensures.bind (Q := fun _ => Amid c True r (submissionNatives w + held) none) (moving ?_)
    fun _ => ?_
  · rintro t - rfl
    exact ⟨.closeWork t, closeWork_amid hs⟩
  · rw [hs.work]
    exact destroyAll_amid w.natives

/-- Where there is an owner nothing is in flight. -/
theorem Halted.calm_of_work {s : Vulkan} (h : Halted kept r held s) (hw : s.work = some w) :
    Calm s :=
  h.calm (Classical.byContradiction fun hp => nomatch hw.symm.trans (h.moved hp))

theorem releaseWork_halted :
    Ensures (moves c) (Halted kept r held) releaseWork (fun _ => Failed kept r held) E := by
  refine Ensures.get_bind fun s _ hs => ?_
  cases hw : s.work with
  | none =>
    refine Ensures.bind (Q := fun _ => Failed kept r held) (moving ?_) fun _ =>
      Ensures.pure fun _ _ ht => ht
    rintro t - rfl
    refine ⟨.closeWork t, { hs with held := ?_, moved := fun _ => rfl, work := rfl }⟩
    show t.held + _ = held
    rw [hs.held, hw]
    exact add_zero held
  | some w =>
    have hcalm := hs.calm_of_work hw
    refine Ensures.bind
      (Q := fun _ t => Calm t ∧ Failed kept r (submissionNatives w + held) t) (moving ?_) fun _ => ?_
    · rintro t - rfl
      refine ⟨.closeWork t, hcalm, { hs with held := ?_, moved := fun _ => rfl, work := rfl }⟩
      show t.held + _ = _
      rw [hs.held, hw, add_comm]
      rfl
    · refine (destroyAll_ensures (I := fun m t => Calm t ∧ Failed kept r m t) ?_ w.natives held).after
        fun _ _ _ ht => ht.2
      rintro n m t ⟨hc, ht⟩
      obtain ⟨hn, -, hc', ht'⟩ := ht.toHalted.destroyed hc
      exact ⟨hn, hc, hc', { ht' with work := ht.work }⟩

theorem withWork_ensures {α : Type} {body : RendererM α} {R : α → Records → Prop}
    (hbody : Ensures (moves c) (Amid c True r held (some {})) body
      (fun a s => ∃ r' w, R a r' ∧ Amid c True r' held (some w) s) (fun _ => Halted kept r held)) :
    Ensures (moves c) (Amid c True r held none) (withWork body)
      (fun a s => ∃ r', R a r' ∧ Amid c True r' held none s) (fun _ => Failed kept r held) := by
  refine Ensures.bind (Q := fun _ => Amid c True r held (some {})) (moving fun s _ h =>
    ⟨.openWork s h.work, { h with work := rfl }⟩) fun _ => ?_
  refine Ensures.bind (Ensures.tryCatch hbody fun e => Ensures.bind releaseWork_halted fun _ =>
    Ensures.throw fun _ _ hs => hs) fun a => ?_
  refine Ensures.exists_pre fun r' => Ensures.exists_pre fun w => Ensures.and_pre fun hr => ?_
  exact Ensures.bind releaseWork_amid fun _ => Ensures.pure fun _ _ hs => ⟨r', hr, hs⟩

/-! ## The pending submission -/

/-- Where an operation begins. -/
structure Begins (c : Scope) (r : Records) (s : Vulkan) : Prop where
  rests : Rests s
  records : records s = r
  answers : c.whole → ∀ a ∈ s.answers, SwapchainSucceeds a.swapchain

theorem Amid.begins {s : Vulkan} (h : Amid c True r 0 none s) : Begins c r s :=
  ⟨h.rests, h.records, h.answers⟩

theorem Begins.failed {s : Vulkan} (h : Begins c r s) : Failed kept r 0 s where
  held := h.rests.held
  initialized := congrArg Records.initialized h.records
  calm := h.rests.calm
  moved _ := h.rests.work
  terminated := h.rests.terminated
  views _ := congrArg Records.surfaces h.records ▸ .refl _
  work := h.rests.work

theorem Begins.steady {s : Vulkan} (h : Begins c r s) (hs : s.terminalSubmissionError = .success) :
    Steady s :=
  ⟨hs, Bool.eq_false_iff.mpr fun ht => h.rests.terminated ht hs⟩

theorem endTerminally_moves (s : Vulkan) (result : VkResult) : Move c s (s.endTerminally result) :=
  .quiet ⟨rfl, rfl, rfl, rfl, rfl, rfl, rfl, rfl, rfl, rfl⟩

/-- What a native call of a submission answers is recorded. -/
theorem askChecked_ensures {P : Vulkan → Prop}
    (hP : ∀ s, P s → P { s with answers := s.answers.tail }) :
    Ensures (moves c) P askChecked
      (fun result t => ∃ u, P u ∧ t = u.record (.checked result)) E := by
  refine Ensures.bind (Q := fun _ => P) (Ensures.get_bind fun s _ hs => ?_) fun answer => ?_
  · refine Ensures.bind (Q := fun _ => P) (moving ?_) fun _ => Ensures.pure fun _ _ => id
    rintro t - rfl
    exact ⟨quiet_answers _, hP t hs⟩
  · refine Ensures.bind (Q := fun _ t => ∃ u, P u ∧ t = u.record (.checked answer.result))
      (moving fun t _ ht => ⟨.notice t _ trivial, t, ht, rfl⟩) fun _ => Ensures.pure fun _ _ => id

theorem inFlight_checked (s : Vulkan) (result : VkResult) :
    (ownership.after (s.record (.checked result)).log).inFlight =
      (ownership.after s.log).inFlight := by
  show (ownership.after (s.log ++ [.checked result])).inFlight = _
  rw [Monitor.after_snoc]
  rfl

theorem terminal_checked (s : Vulkan) {result : VkResult} (hr : result ≠ .deviceLost) :
    (ownership.after (s.record (.checked result)).log).terminal =
      (ownership.after s.log).terminal := by
  show (ownership.after (s.log ++ [.checked result])).terminal = _
  rw [Monitor.after_snoc]
  show (_ || decide (result = .deviceLost)) = _
  rw [decide_eq_false hr, Bool.or_false]

/-- A failure that leaves the device is not terminal. -/
theorem Halted.checked {s : Vulkan} (h : Halted kept r held s) {result : VkResult}
    (hr : result ≠ .deviceLost) : Halted kept r held (s.record (.checked result)) :=
  { h with
    calm := fun hp => (inFlight_checked s result).trans (h.calm hp)
    terminated := fun ht => h.terminated ((terminal_checked s hr).symm.trans ht) }

/-- The error that ends the submissions is kept, whatever was answered. -/
theorem Halted.endTerminally {s : Vulkan} (h : Halted kept r held s) (answered : VkResult)
    {result : VkResult} (hr : result ≠ .success) :
    Halted kept r held ((s.record (.checked answered)).endTerminally result) :=
  { h with
    calm := fun hp => (inFlight_checked s answered).trans (h.calm hp)
    terminated := fun _ => hr }

theorem Begins.checked {s : Vulkan} (h : Begins c r s) {result : VkResult}
    (hr : result ≠ .deviceLost) : Begins c r (s.record (.checked result)) where
  rests :=
    { h.rests with
      calm := fun hp => (inFlight_checked s result).trans (h.rests.calm hp)
      terminated := fun ht => h.rests.terminated ((terminal_checked s hr).symm.trans ht) }
  records := by
    rw [← h.records]
    unfold Oui.records
    rw [realLayouts_record, imageBooks_record]
    rfl
  answers := h.answers

/-- The pending submission is found complete. -/
theorem signalled_amid {s : Vulkan} {pending : VulkanSubmission} (h : Begins c r s)
    (hs : s.terminalSubmissionError = .success) (hp : s.pendingSubmission = some pending) :
    Amid c True r (submissionNatives pending + 0) none (s.record .signalled).closePending where
  records := by
    rw [← h.records]
    unfold Oui.records
    show Records.mk _ _ _ _ _ _ (realLayouts (s.record .signalled))
      (imageBooks (s.record .signalled)) = _
    rw [realLayouts_record, imageBooks_record]
    rfl
  held := by
    show s.held + ↑(s.pendingSubmission.elim [] VulkanSubmission.natives) = _
    rw [h.rests.held, hp, add_comm]
    rfl
  work := h.rests.work
  pending := rfl
  calm := by
    show (ownership.after (s.log ++ [.signalled])).inFlight = none
    rw [Monitor.after_snoc]
    rfl
  steady _ := by
    refine ⟨hs, ?_⟩
    show (ownership.after (s.log ++ [.signalled])).terminal = false
    rw [Monitor.after_snoc]
    exact (h.steady hs).2
  answers := h.answers

/-- Nothing is in flight when the poll succeeds, and no submission has failed for good. -/
theorem pollPendingSubmission_ensures :
    Ensures (moves c) (Begins c r) pollPendingSubmission
      (fun _ => Amid c True r 0 none) (fun _ => Failed kept r 0) := by
  refine Ensures.get_bind fun s _ hs => ?_
  refine Ensures.bind (failIf_ensures.error fun _ _ _ he => he ▸ hs.failed) fun _ =>
    Ensures.and_pre fun hsuccess => ?_
  replace hsuccess := of_not_not hsuccess
  cases hp : s.pendingSubmission with
  | none =>
    refine Ensures.pure ?_
    rintro t - rfl
    exact ⟨hs.records, hs.rests.held, hs.rests.work, hp, hs.rests.calm hp,
      fun _ => hs.steady hsuccess, hs.answers⟩
  | some pending =>
    let Pending (t : Vulkan) : Prop := Begins c r t ∧ t.terminalSubmissionError = .success ∧
      t.pendingSubmission = some pending
    refine Ensures.bind ((askChecked_ensures (P := Pending) fun t ht => ⟨⟨{ ht.1.rests with },
      ht.1.records, fun hw a ha => ht.1.answers hw a (List.mem_of_mem_tail ha)⟩, ht.2⟩).before
        fun t _ ht => ht ▸ ⟨hs, hsuccess, hp⟩) fun result => ?_
    have hleft : result ≠ .deviceLost → ∀ t,
        (∃ u, Pending u ∧ t = u.record (.checked result)) → Pending t := by
      rintro hr t ⟨u, hu, rfl⟩
      exact ⟨hu.1.checked hr, hu.2⟩
    have hfail (hr : result ≠ .deviceLost) (e) : Ensures (moves c)
        (fun t => ∃ u, Pending u ∧ t = u.record (.checked result))
        (throw e : RendererM Unit) (fun _ => Amid c True r 0 none) (fun _ => Failed kept r 0) :=
      Ensures.throw fun t _ ht => (hleft hr t ht).1.failed
    cases result with
    | success =>
      refine Ensures.bind (Q := fun _ t => ∃ u, Pending u ∧ t = u.record .signalled)
        (moving fun t _ ht => ⟨.notice t .signalled trivial, t, hleft nofun t ht, rfl⟩) fun _ => ?_
      refine Ensures.bind (Q := fun _ => Amid c True r (submissionNatives pending + 0) none)
        (moving ?_) fun _ => destroyAll_amid pending.natives
      rintro t - ⟨u, hu, rfl⟩
      exact ⟨.closePending _, signalled_amid hu.1 hu.2.1 hu.2.2⟩
    | deviceLost =>
      refine Ensures.bind (Q := fun _ => Failed kept r 0) (moving ?_) fun _ =>
        Ensures.throw fun _ _ => id
      rintro t - ⟨u, hu, rfl⟩
      exact ⟨endTerminally_moves _ _,
        { hu.1.failed.toHalted.endTerminally .deviceLost (by decide) with work := hu.1.rests.work }⟩
    | timeout | suboptimal | outOfHostMemory | outOfDeviceMemory | outOfDate | surfaceLost
    | other code => exact hfail nofun _

/-! ## Recording -/

theorem recordCommand_ensures {command : VulkanCommand} :
    Ensures (moves c) (Amid c True r held (some w)) (modify (·.recordCommand command))
      (fun _ => Amid c True r held (some { w with commands := w.commands ++ [command] })) E :=
  moving fun s _ h => ⟨.recordCommand s command, { h with
    work := by
      show s.work.map _ = _
      rw [h.work, Option.map_some] }⟩

/-- The barrier that brings an image from one layout into another. -/
def barrier (image : VulkanImage) (before after : ImageLayout) : List VulkanCommand :=
  if before = after then [] else [.pipelineBarrier image before after]

theorem transitionImage_ensures {image : VulkanImage} {before after : ImageLayout} :
    Ensures (moves c) (Amid c True r held (some w)) (transitionImage image before after)
      (fun _ => Amid c True r held (some { w with commands := w.commands ++ barrier image before after }))
      E := by
  unfold transitionImage barrier
  split
  · refine Ensures.pure fun _ _ hs => ?_
    rwa [List.append_nil]
  · exact recordCommand_ensures

theorem beginCommands_ensures (hw : w.command = none) :
    Ensures (moves c) (Amid c True r held (some w)) beginCommands
      (fun _ s => ∃ n, Amid c True r held (some { w with command := some n }) s)
      (fun _ => Amid c True r held (some w)) := by
  refine Ensures.bind createNative_ensures fun n => Ensures.and_pre fun _ => Ensures.and_pre fun _ => ?_
  refine Ensures.bind (orDestroy_ensures held [n] callNative_ensures) fun _ => ?_
  refine (give_ensures ?_).after fun _ _ _ hs => ⟨n, hs⟩
  simp only [submissionNatives_eq, hw, some_natives, none_natives, ← Multiset.singleton_add]
  abel

/-! ## The submission -/

/-- What the records know. -/
def Known (r : Records) (n : Native) : Prop :=
  (∃ id t, r.textures id = some t ∧ n ∈ t.natives) ∨ (∃ id m, r.meshes id = some m ∧ n ∈ m.natives) ∨
    ∃ id sf, r.surfaces id = some sf ∧ n ∈ sf.natives

/-- The wait is for the acquired image of a surface, which it consumes. -/
def ConsumesOf (surfaces : Table SurfaceRecord) (wait : Option Native) : Option Nat → Prop
  | none => wait = none
  | some id => ∃ sf sc, surfaces id = some sf ∧ sf.swapchain = some sc ∧
      sc.acquirePending = true ∧ wait = some sc.acquireSemaphore

/-- The commands may be submitted. -/
structure Ready (c : Scope) (r : Records) (w : VulkanSubmission) (wait : Option Native)
    (consumed : Option Nat) : Prop where
  live : ∀ n ∈ w.commands.flatMap VulkanCommand.uses ++ wait.toList, n ∈ w.natives ∨ Known r n
  images : c.names → UsesAcquired r.images w.commands wait
  old : OldLayoutsRight r.layouts w.commands
  new : ¬c.restores → NewLayoutsDefined w.commands
  once : (broughtToSampling w.commands).Nodup
  consumes : ConsumesOf r.surfaces wait consumed

/-- What the records say once the commands are submitted. -/
def Records.submitted (r : Records) (commands : List VulkanCommand) (wait : Option Native)
    (states : Nat → TextureState) (consumed : Option Nat) : Records :=
  { r with
    textures := settledTextures commands states r.textures
    surfaces := consumedSurfaces consumed r.surfaces
    layouts := fun image => layoutAfter commands image (r.layouts image)
    images := fun swapChain => (r.images swapChain).map (·.wait wait) }

theorem sum_mem {α : Type} {f : α → Multiset Native} {t : Table α} {bound id : Nat} {a : α} {n : Native}
    (hb : t.Below bound) (ht : t id = some a) (hn : n ∈ f a) : n ∈ Table.sum f t bound :=
  Multiset.mem_of_le (Table.le_sum hb ht) hn

theorem Known.mem {steady : Prop} {work : Option VulkanSubmission} {s : Vulkan} {n : Native}
    (h : Known r n) (hs : Sound s) (ha : Amid c steady r held work s) : n ∈ allNatives s := by
  simp only [allNatives, Multiset.mem_add]
  obtain ⟨id, t, ht, hn⟩ | ⟨id, m, hm, hn⟩ | ⟨id, sf, hsf, hn⟩ := h
  · exact .inl (.inl (.inr (sum_mem hs.owning.textures (ha.textures ▸ ht) hn)))
  · exact .inl (.inr (sum_mem hs.owning.meshes (ha.meshes ▸ hm) hn))
  · exact .inr (sum_mem hs.owning.surfaces (ha.surfaces ▸ hsf) hn)

theorem work_mem {s : Vulkan} {n : Native} (hw : s.work = some w) (hn : n ∈ w.natives) :
    n ∈ allNatives s := by
  simp only [allNatives, hw, Table.worth_some, Multiset.mem_add]
  exact .inl (.inl (.inl (.inl (.inr hn))))

variable {wait : Option Native} {consumed : Option Nat} {states : Nat → TextureState}

/-- The owner has its fence. -/
theorem Ready.submittable {f : Native} (h : Ready c r w wait consumed) {s : Vulkan} (hs : Sound s)
    (ha : Amid c True r held (some { w with fence := some f }) s) (hw : w.fence = none) :
    Submittable c s { w with fence := some f } wait where
  work := ha.work
  calm := ha.calm
  live n hn := by
    have hnatives : ∀ n ∈ w.natives, n ∈ ({ w with fence := some f } : VulkanSubmission).natives := by
      intro n hn
      refine Multiset.mem_coe.mp (?_ : n ∈ submissionNatives { w with fence := some f })
      rw [submissionNatives_fence hw]
      exact Multiset.mem_cons_of_mem (Multiset.mem_coe.mpr hn)
    obtain hn | hn := List.mem_append.mp hn
    · obtain hn | hn := List.mem_append.mp hn
      · exact work_mem ha.work hn
      · obtain hn | hn := h.live n (List.mem_append_left _ hn)
        · exact work_mem ha.work (hnatives n hn)
        · exact hn.mem hs ha
    · obtain hn | hn := h.live n (List.mem_append_right _ hn)
      · exact work_mem ha.work (hnatives n hn)
      · exact hn.mem hs ha
  images hc := by
    rw [ha.images]
    exact h.images hc

theorem ConsumesOf.consumes {s : Vulkan} {surfaces : Table SurfaceRecord}
    (h : ConsumesOf surfaces wait consumed) (hs : s.surfaces = surfaces) :
    Consumes s wait consumed := by
  subst hs
  cases consumed <;> exact h

theorem sameViews_consumed (consumed : Option Nat) (surfaces : Table SurfaceRecord) :
    SameViews surfaces (consumedSurfaces consumed surfaces) := by
  intro i
  cases consumed with
  | none => rfl
  | some id =>
    show ((surfaces.set id ((surfaces id).map SurfaceRecord.consumed)) i).map _ = _
    rw [Table.set_apply]
    split
    · rename_i hi
      rw [hi, Option.map_map]
      rfl
    · rfl

/-- The state once the commands are submitted and the records settled. -/
def submittedState (s : Vulkan) (w : VulkanSubmission) (wait : Option Native)
    (states : Nat → TextureState) (consumed : Option Nat) : Vulkan :=
  settled (s.record (.submitted w.natives w.commands wait .success)) w.commands states consumed

theorem realLayouts_submitted (s : Vulkan) (w : VulkanSubmission) : realLayouts
    (submittedState s w wait states consumed) =
      fun image => layoutAfter w.commands image (realLayouts s image) :=
  realLayouts_record ..

theorem imageBooks_submitted (s : Vulkan) (w : VulkanSubmission) : imageBooks
    (submittedState s w wait states consumed) =
      fun swapChain => (imageBooks s swapChain).map (·.wait wait) :=
  imageBooks_record ..

variable (states consumed) in
theorem terminal_submitted {s : Vulkan} (h : (ownership.after s.log).terminal = false) :
    (ownership.after (submittedState s w wait states consumed).log).terminal = false := by
  show (ownership.after (s.log ++ [_])).terminal = false
  rw [Monitor.after_snoc]
  show ((ownership.after s.log).terminal || failsForGood .success) = false
  rw [h]
  rfl

theorem Amid.signalled {s : Vulkan} (h : Amid c True r held (some w) s) :
    Amid c True (r.submitted w.commands wait states consumed) held (some w)
      (((submittedState s w wait states consumed).record (.checked .success)).record
        .signalled) := by
  have hrecords : Oui.records (((submittedState s w wait states consumed).record
      (.checked .success)).record .signalled) = r.submitted w.commands wait states consumed := by
    rw [← h.records]
    unfold Oui.records
    rw [realLayouts_record, imageBooks_record, realLayouts_record, imageBooks_record,
      realLayouts_submitted, imageBooks_submitted]
    rfl
  have hcalm (log : List VulkanEvent) : (ownership.after (log ++ [.signalled])).inFlight = none := by
    rw [Monitor.after_snoc]
    rfl
  have hterminal : (ownership.after (((submittedState s w wait states consumed).record
      (.checked .success)).log ++ [.signalled])).terminal = false := by
    rw [Monitor.after_snoc]
    refine (terminal_checked _ (by decide : VkResult.success ≠ .deviceLost)).trans ?_
    exact terminal_submitted _ _ (h.steady trivial).2
  -- the records of the other fields are those of `s`
  unfold submittedState settled Vulkan.record at hrecords hterminal ⊢
  exact
    { records := hrecords
      held := h.held
      work := h.work
      pending := h.pending
      calm := hcalm _
      steady := fun _ => ⟨(h.steady trivial).1, hterminal⟩
      answers := h.answers }

theorem Amid.retained {s : Vulkan} (h : Amid c True r held (some w) s) :
    Halted kept r held (submittedState s w wait states consumed).retain where
  held := h.held
  initialized := congrArg Records.initialized h.records
  calm hp := nomatch h.work.symm.trans hp
  moved _ := rfl
  terminated := Steady.terminated
    (s := (submittedState s w wait states consumed).retain)
    ⟨(h.steady trivial).1, terminal_submitted consumed states (h.steady trivial).2⟩
  views _ := by
    show SameViews r.surfaces (consumedSurfaces consumed s.surfaces)
    rw [h.surfaces]
    exact sameViews_consumed consumed r.surfaces

theorem Amid.refused {s : Vulkan} (h : Amid c True r held (some w) s) {result : VkResult}
    (hr : result ≠ .success) : Halted kept r held
      (((s.record (.submitted w.natives w.commands wait result)).endTerminally result).retain) := by
  unfold Vulkan.retain Vulkan.endTerminally Vulkan.record
  exact {
    held := h.held
    initialized := congrArg Records.initialized h.records
    calm := fun hp => nomatch h.work.symm.trans hp
    moved := fun _ => rfl
    terminated := fun _ => hr
    views := fun _ => congrArg Records.surfaces h.records ▸ .refl _ }

/-- The device did not have the memory for the submission. -/
theorem Amid.unqueued {s : Vulkan} (h : Amid c True r held (some w) s) {result : VkResult}
    (hr : mayBeQueued result = false) : Amid c True r held (some w)
      (s.record (.submitted w.natives w.commands wait result)) where
  records := by
    rw [← h.records]
    unfold Oui.records
    rw [realLayouts_record, imageBooks_record]
    cases result <;> first | rfl | exact nomatch hr
  held := h.held
  work := h.work
  pending := h.pending
  calm := by
    have hcalm := h.calm
    unfold Calm at hcalm ⊢
    show (ownership.after (s.log ++ [_])).inFlight = none
    rw [Monitor.after_snoc]
    cases result <;> first | exact hcalm | exact nomatch hr
  steady _ := by
    refine ⟨(h.steady trivial).1, ?_⟩
    show (ownership.after (s.log ++ [_])).terminal = false
    rw [Monitor.after_snoc]
    cases result <;> first | exact (h.steady trivial).2 | exact nomatch hr
  answers := h.answers

/-- Where a submission has ended. -/
def Submitted (c : Scope) (kept : Prop) (r r' : Records) (held : Multiset Native)
    (w : VulkanSubmission) (result : VkResult) (s : Vulkan) : Prop :=
  if result = .success then ∃ f, Amid c True r' held (some { w with fence := f }) s
  else Halted kept r held s

theorem failIf_submission {r' : Records} {result : VkResult} {e : RendererError} :
    Ensures (moves c) (Submitted c kept r r' held w result) (failIf (result ≠ .success) e)
      (fun _ s => ∃ f, Amid c True r' held (some { w with fence := f }) s)
      (fun _ => Halted kept r held) := by
  refine Ensures.ite (fun hr => Ensures.throw fun s _ hs => ?_) fun hr => Ensures.pure fun s _ hs => ?_
  · unfold Submitted at hs
    rwa [if_neg hr] at hs
  · unfold Submitted at hs
    rwa [if_pos (of_not_not hr)] at hs

/-- The records are settled once the work is queued. -/
def settling (settle : Vulkan → Vulkan) (p : Bool × VkResult) : RendererM VkResult := do
  if p.1 = true then modify settle else pure ()
  pure p.2

theorem submit_eq (wait : Option Native) (settle : Vulkan → Vulkan) :
    submit wait settle = submitAndWait wait >>= settling settle := rfl

theorem settling_unqueued (settle : Vulkan → Vulkan) (result : VkResult) (s : Vulkan) :
    settling settle (false, result) s = .ok result s := rfl

theorem ask_run (s : Vulkan) :
    ask s = .ok (s.answers.headD {}) { s with answers := s.answers.tail } := rfl

theorem askChecked_run (s : Vulkan) : askChecked s = .ok (s.answers.headD {}).result
    ({ s with answers := s.answers.tail }.record (.checked (s.answers.headD {}).result)) := rfl

theorem noteLoss_run (result : VkResult) (s : Vulkan) : noteLoss result s =
    .ok () (if result = .deviceLost then s.endTerminally result else s) := by
  unfold noteLoss
  split <;> rfl

section Queue

variable {settle : Vulkan → Vulkan} {f : Native}

/-- The state that asks next, with one answer less. -/
theorem Amid.asked {steady : Prop} {work : Option VulkanSubmission} {s : Vulkan}
    (h : Amid c steady r held work s) :
    Amid c steady r held work { s with answers := s.answers.tail } :=
  { h with answers := fun hw a ha => h.answers hw a (List.mem_of_mem_tail ha) }

/-- The work is queued and done. -/
theorem queued_done {s : Vulkan} (ha : Amid c True r held (some w) s)
    (hsub : Submittable c s w wait) (hcons : Consumes s wait consumed)
    (hsettle : ∀ s : Vulkan, s.textures = r.textures → s.surfaces = r.surfaces →
      settle s = settled s w.commands states consumed) {t : Vulkan}
    (ht : t = settle (({ s.record (.submitted w.natives w.commands wait .success) with
      answers := s.answers.tail }.record (.checked .success)).record .signalled)) :
    ReflTransGen (Move c) s t ∧
      Amid c True (r.submitted w.commands wait states consumed) held (some w) t := by
  rw [ht, hsettle]
  · exact ⟨(((ReflTransGen.single (.submitted s w wait states consumed hsub hcons)).tail
      (quiet_answers _)).tail (.notice _ (.checked .success) trivial)).tail
        (.notice _ .signalled trivial), ha.signalled.asked⟩
  · exact ha.textures
  · exact ha.surfaces

variable (kept) in
/-- The work is queued, and not known to be done. -/
theorem queued_retained {s : Vulkan} (ha : Amid c True r held (some w) s)
    (hsub : Submittable c s w wait) (hcons : Consumes s wait consumed)
    (hsettle : ∀ s : Vulkan, s.textures = r.textures → s.surfaces = r.surfaces →
      settle s = settled s w.commands states consumed) {waited : VkResult} (hw : waited ≠ .success)
    {t u : Vulkan} (hu : u = ({ s.record (.submitted w.natives w.commands wait .success) with
      answers := s.answers.tail }.record (.checked waited)).retain)
    (ht : t = settle (if waited = .deviceLost then u.endTerminally waited else u)) :
    ReflTransGen (Move c) s t ∧ Halted kept r held t := by
  subst hu
  let v : Vulkan := { submittedState s w wait states consumed with answers := s.answers.tail }
  have hretain : ReflTransGen (Move c) s (v.record (.checked waited)).retain :=
    (((ReflTransGen.single (.submitted s w wait states consumed hsub hcons)).tail
      (quiet_answers _)).tail (.notice _ (.checked waited) trivial)).tail (.retain _ ha.pending)
  have hhalted : Halted kept r held v.retain :=
    { (ha.retained : Halted kept r held (submittedState s w wait states consumed).retain) with }
  have hsettled : ∀ u : Vulkan, u.textures = s.textures ∧ u.surfaces = s.surfaces →
      settle u = settled u w.commands states consumed :=
    fun u hu => hsettle u (hu.1.trans ha.textures) (hu.2.trans ha.surfaces)
  split at ht
  · rw [hsettled _ (by simp only [Vulkan.retain, Vulkan.endTerminally, Vulkan.record, and_self])] at ht
    rw [ht]
    exact ⟨hretain.tail (endTerminally_moves _ waited), hhalted.endTerminally waited hw⟩
  · rename_i hlost
    rw [hsettled _ (by simp only [Vulkan.retain, Vulkan.record, and_self])] at ht
    rw [ht]
    exact ⟨hretain, hhalted.checked hlost⟩

variable (kept) in
/-- The device did not have the memory. -/
theorem unqueued {s : Vulkan} (ha : Amid c True r held (some w) s) (hsub : Submittable c s w wait)
    (hcons : Consumes s wait consumed) {result : VkResult} (hr : mayBeQueued result = false) :
    ReflTransGen (Move c) s (s.record (.submitted w.natives w.commands wait result)) ∧
      Halted kept r held (s.record (.submitted w.natives w.commands wait result)) :=
  ⟨.single (.refused s w wait result consumed hsub hcons (by rintro rfl; cases hr)),
    (ha.unqueued hr).halted⟩

variable (kept) in
/-- The submission has failed for good. -/
theorem refused_retained {s : Vulkan} (ha : Amid c True r held (some w) s)
    (hsub : Submittable c s w wait) (hcons : Consumes s wait consumed) {result : VkResult}
    (hr : result ≠ .success) {t : Vulkan}
    (ht : t = ((s.record (.submitted w.natives w.commands wait result)).endTerminally result).retain) :
    ReflTransGen (Move c) s t ∧ Halted kept r held t := by
  subst ht
  refine ⟨?_, ha.refused hr⟩
  exact ((ReflTransGen.single (.refused s w wait result consumed hsub hcons hr)).tail
    (endTerminally_moves _ result)).tail (.retain _ ha.pending)

theorem queueAndWait_ensures (hready : Ready c r w wait consumed) (hw : w.fence = none)
    (hsettle : ∀ s : Vulkan, s.textures = r.textures → s.surfaces = r.surfaces →
      settle s = settled s w.commands states consumed) :
    Ensures (moves c) (Amid c True r held (some { w with fence := some f }))
      (queueAndWait { w with fence := some f } wait >>= settling settle)
      (Submitted c kept r (r.submitted w.commands wait states consumed) held w) E := by
  intro s hs ha
  let w' : VulkanSubmission := { w with fence := some f }
  let s₁ : Vulkan := { s with answers := s.answers.tail }
  have ha₁ : Amid c True r held (some w') s₁ := ha.asked
  have hs₁ : Sound s₁ := Sound.move (quiet_answers (c := c) _) hs
  have hquiet : ReflTransGen (Move c) s s₁ := .single (quiet_answers _)
  have hsub : Submittable c s₁ w' wait := hready.submittable hs₁ ha₁ hw
  have hcons := hready.consumes.consumes ha₁.surfaces
  unfold queueAndWait
  rw [bind_assoc, bind_ok (ask_run s), bind_assoc, bind_ok (modify_run _ _)]
  generalize (s.answers.headD {}).result = result
  split
  · rw [bind_assoc, bind_ok (askChecked_run _)]
    split
    · rename_i hwaited
      rw [bind_assoc, bind_ok (modify_run _ _)]
      obtain ⟨hmoves, hamid⟩ := queued_done ha₁ hsub hcons hsettle rfl
      rw [hwaited]
      refine ⟨hquiet.trans hmoves, ?_⟩
      exact ⟨some f, hamid⟩
    · rename_i hwaited
      rw [bind_assoc, bind_ok (modify_run _ _), bind_assoc, bind_ok (noteLoss_run _ _)]
      obtain ⟨hmoves, hhalted⟩ := queued_retained kept ha₁ hsub hcons hsettle hwaited rfl rfl
      refine ⟨hquiet.trans hmoves, ?_⟩
      show Submitted _ _ _ _ _ _ _ _
      unfold Submitted
      rw [if_neg hwaited]
      exact hhalted
  · rw [bind_ok (pure_run _ _), settling_unqueued]
    obtain ⟨hmoves, hhalted⟩ :=
      unqueued kept ha₁ hsub hcons (by decide : mayBeQueued .outOfHostMemory = false)
    exact ⟨hquiet.trans hmoves, hhalted⟩
  · rw [bind_ok (pure_run _ _), settling_unqueued]
    obtain ⟨hmoves, hhalted⟩ :=
      unqueued kept ha₁ hsub hcons (by decide : mayBeQueued .outOfDeviceMemory = false)
    exact ⟨hquiet.trans hmoves, hhalted⟩
  · rename_i hsuccess _ _
    obtain ⟨hmoves, hhalted⟩ := refused_retained kept ha₁ hsub hcons hsuccess rfl
    refine ⟨hquiet.trans hmoves, ?_⟩
    show Submitted _ _ _ _ _ _ _ _
    unfold Submitted
    rw [if_neg hsuccess]
    exact hhalted

variable (settle) in
/-- A call that has failed is noted, and the submission ends with its result. -/
theorem lost_ensures {result : VkResult} (hr : result ≠ .success) :
    Ensures (moves c) (fun t => ∃ u, Amid c True r held (some w) u ∧ t = u.record (.checked result))
      (noteLoss result >>= fun _ => settling settle (false, result))
      (Submitted c kept r (r.submitted w.commands wait states consumed) held w) E := by
  refine Ensures.bind (Q := fun _ => Halted kept r held) ?_ fun _ => Ensures.pure fun s _ hs => ?_
  · rintro _ - ⟨u, hu, rfl⟩
    rw [noteLoss_run]
    split
    · exact ⟨.single (endTerminally_moves _ result), hu.halted.endTerminally result hr⟩
    · exact ⟨.refl, hu.halted.checked ‹_›⟩
  · unfold Submitted
    rwa [if_neg hr]

variable (kept consumed states) in
theorem submit_ensures (hready : Ready c r w wait consumed) (hw : w.fence = none)
    (hsettle : ∀ s : Vulkan, s.textures = r.textures → s.surfaces = r.surfaces →
      settle s = settled s w.commands states consumed) :
    Ensures (moves c) (Amid c True r held (some w)) (submit wait settle)
      (Submitted c kept r (r.submitted w.commands wait states consumed) held w) E := by
  rw [submit_eq]
  unfold submitAndWait
  rw [bind_assoc]
  refine Ensures.bind (Q := fun _ => Amid c True r held (some w)) (moving fun s _ hs => ?_) fun _ => ?_
  · rw [hs.work]
    refine ⟨.ended s w ⟨hs.work, ?_, hready.new, hready.once⟩, hs.recorded trivial⟩
    rw [hs.layouts]
    exact hready.old
  rw [bind_assoc]
  refine Ensures.bind (askChecked_ensures fun _ hs => hs.asked) fun ended => ?_
  split
  · rename_i hended
    rw [bind_assoc]
    exact lost_ensures settle hended
  rename_i hended
  obtain rfl := of_not_not hended
  rw [bind_assoc]
  refine Ensures.bind ((askChecked_ensures (P := Amid c True r held (some w))
    fun _ hs => hs.asked).before ?_) fun fenced => ?_
  · rintro _ - ⟨u, hu, rfl⟩
    exact hu.recorded (e := .checked .success) nofun
  split
  · rename_i hfenced
    rw [bind_assoc]
    exact lost_ensures settle hfenced
  rename_i hfenced
  obtain rfl := of_not_not hfenced
  refine Ensures.before (P := Amid c True r held (some w)) ?_ ?_
  swap
  · rintro _ - ⟨u, hu, rfl⟩
    exact hu.recorded (e := .checked .success) nofun
  rw [bind_assoc]
  refine Ensures.get_bind fun s _ hs => ?_
  rw [bind_assoc]
  refine Ensures.bind (create_ensures hs) fun _ => ?_
  rw [bind_assoc]
  refine Ensures.bind (give_ensures (submissionNatives_fence hw)) fun _ => ?_
  rw [bind_assoc]
  refine Ensures.get_bind fun t _ ht => ?_
  rw [ht.work]
  refine (queueAndWait_ensures hready hw hsettle).before ?_
  rintro u - rfl
  exact ht

end Queue

end WSE.Proof.Oui
