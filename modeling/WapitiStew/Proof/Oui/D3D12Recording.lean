import WapitiStew.Framework.Throwing
import WapitiStew.Spec.Oui.D3D12Resources

/-!
# Lists that are recorded from the states of the records

When the records say what state each texture is in, the barriers of an upload, of a read-back and
of a render pass find their textures in the states they expect, and what the records are to say
afterwards is what the list leaves (`recordUpload_ok`, `recordReadBack_ok`, `recordPass_ok`). The
checks before see to it that a pass does not sample its attachment (`executeRenderPass_ok`).
-/

namespace WSE.Proof.Oui

open WSE.Framework WSE.Impl.Oui WSE.Spec.Oui

/-! ## What the records say -/

/-- Each texture is in the state its record says. -/
def Stated (textures : Table D3D12TextureRecord) (real : Nat → NativeState) : Prop :=
  ∀ i t, textures i = some t → toNativeState t.state = real t.resource

/-- The resources are the device's, and none is two textures'. -/
structure Apart (textures : Table D3D12TextureRecord) (objects : Nat) : Prop where
  below : ∀ {i t}, textures i = some t → t.resource < objects
  one : ∀ {i j t u}, textures i = some t → textures j = some u → t.resource = u.resource → i = j

def settledState (settles : List (Nat × TextureState)) (i : Nat) (state : TextureState) :
    TextureState := settles.foldl (fun state p => if i = p.1 then p.2 else state) state

@[simp] theorem settledState_nil (i : Nat) (state : TextureState) :
    settledState [] i state = state := rfl

theorem settledState_cons (p : Nat × TextureState) (ps : List (Nat × TextureState)) (i : Nat)
    (state : TextureState) : settledState (p :: ps) i state =
      settledState ps i (if i = p.1 then p.2 else state) := rfl

theorem settledState_other {ps : List (Nat × TextureState)} {i : Nat} (h : i ∉ ps.map (·.1))
    (state : TextureState) : settledState ps i state = state := by
  induction ps generalizing state with
  | nil => rfl
  | cons p ps ih =>
    obtain ⟨hp, hps⟩ := not_or.mp fun hm => h (List.mem_cons.mpr hm)
    rw [settledState_cons, if_neg hp, ih hps]

/-- A texture that is given one state only is in that state. -/
theorem settledState_mem {ps : List (Nat × TextureState)} {i : Nat} {target : TextureState}
    (h : i ∈ ps.map (·.1)) (hps : ∀ p ∈ ps, p.1 = i → p.2 = target) (state : TextureState) :
    settledState ps i state = target := by
  induction ps generalizing state with
  | nil => exact nomatch h
  | cons p ps ih =>
    obtain ⟨hp, hps⟩ := List.forall_mem_cons.mp hps
    rw [settledState_cons]
    by_cases hmem : i ∈ ps.map (·.1)
    · exact ih hmem hps _
    · rw [settledState_other hmem]
      have hi : i = p.1 := (List.mem_cons.mp h).resolve_right hmem
      rw [if_pos hi, hp hi.symm]

theorem setState_some {ts : Table D3D12TextureRecord} {p : Nat × TextureState} {i : Nat}
    {t : D3D12TextureRecord} (h : D3D12Renderer.setState ts p i = some t) :
    ∃ u, ts i = some u ∧ t.resource = u.resource ∧
      t.state = if i = p.1 then p.2 else u.state := by
  rw [D3D12Renderer.setState, Table.set_apply] at h
  split at h
  · rename_i hi
    obtain ⟨u, hu, rfl⟩ := Option.map_eq_some_iff.mp h
    exact ⟨u, hi ▸ hu, rfl, (if_pos hi).symm⟩
  · rename_i hi
    exact ⟨t, h, rfl, (if_neg hi).symm⟩

theorem settled_some {ps : List (Nat × TextureState)} {ts : Table D3D12TextureRecord} {i : Nat}
    {t : D3D12TextureRecord} (h : ps.foldl D3D12Renderer.setState ts i = some t) :
    ∃ u, ts i = some u ∧ t.resource = u.resource ∧ t.state = settledState ps i u.state := by
  induction ps generalizing ts with
  | nil => exact ⟨t, h, rfl, rfl⟩
  | cons p ps ih =>
    obtain ⟨v, hv, hvr, hvs⟩ := ih h
    obtain ⟨u, hu, hur, hus⟩ := setState_some hv
    exact ⟨u, hu, hvr.trans hur, hvs.trans (congrArg _ hus)⟩

/-- What the records will say is the state the commands leave each texture in. -/
def Settles (textures : Table D3D12TextureRecord) (real : Nat → NativeState) (w : RecordedWork) :
    Prop :=
  ∀ i t, textures i = some t → toNativeState (settledState w.settles i t.state) = real t.resource

theorem Settles.tracked {ts : Table D3D12TextureRecord} {real : Nat → NativeState}
    {w : RecordedWork} (h : Settles ts real w) :
    Stated (w.settles.foldl D3D12Renderer.setState ts) real := by
  intro i t ht
  obtain ⟨u, hu, hr, hs⟩ := settled_some ht
  rw [hs, hr]
  exact h i u hu

theorem Apart.settles {ts : Table D3D12TextureRecord} {objects : Nat} (h : Apart ts objects)
    (ps : List (Nat × TextureState)) : Apart (ps.foldl D3D12Renderer.setState ts) objects := by
  refine ⟨fun ht => ?_, fun ht hu he => ?_⟩
  · obtain ⟨t', ht', hr, -⟩ := settled_some ht
    exact hr ▸ h.below ht'
  · obtain ⟨t', ht', htr, -⟩ := settled_some ht
    obtain ⟨u', hu', hur, -⟩ := settled_some hu
    exact h.one ht' hu' (htr.symm.trans (he.trans hur))

/-! ## Recording -/

structure Recorded (textures : Table D3D12TextureRecord) (real : Nat → NativeState)
    (w : RecordedWork) : Prop where
  uses : w.uses ⊆ w.retained
  right : Barrier.Right real (barriers w.commands)
  once : SampledOnce w.commands
  settles : Settles textures (Barrier.applied real (barriers w.commands)) w

theorem barriers_append (xs ys : List D3D12Command) :
    barriers (xs ++ ys) = barriers xs ++ barriers ys := List.filterMap_append

variable {ts : Table D3D12TextureRecord} {real : Nat → NativeState} {objects i : Nat}
  {t : D3D12TextureRecord} {w : RecordedWork} {d d' : D3D12Device}

/-- One texture is brought to another state. -/
theorem settles_one (ht : Stated ts real) (ha : Apart ts objects) (hi : ts i = some t)
    (state : TextureState) (j : Nat) (u : D3D12TextureRecord) (hu : ts j = some u) :
    toNativeState (settledState [(i, state)] j u.state) =
      Function.update real t.resource (toNativeState state) u.resource := by
  rw [settledState_cons, settledState_nil]
  by_cases hj : j = i
  · cases Option.some.inj (hu.symm.trans (hj ▸ hi))
    rw [if_pos hj, Function.update_self]
  · have hne : u.resource ≠ t.resource := fun he => hj (ha.one hu hi he)
    rw [if_neg hj, Function.update_of_ne hne]
    exact ht j u hu

theorem barriers_bring (resource : Nat) (state : TextureState) :
    barriers (if state ≠ .copyDestination then
      [.resourceBarrier ⟨resource, toNativeState state, .copyDest⟩] else []) =
        Barrier.bring resource (toNativeState state) .copyDest := by
  cases state <;> rfl

theorem barriers_bring_source (resource : Nat) (state : TextureState) :
    barriers (if state ≠ .copySource then
      [.resourceBarrier ⟨resource, toNativeState state, .copySource⟩] else []) =
        Barrier.bring resource (toNativeState state) .copySource := by
  cases state <;> rfl

/-- A list that draws nothing samples nothing. -/
theorem sampledOnce_of_nil {commands : List D3D12Command}
    (h : commands.flatMap D3D12Command.sampled = []) : SampledOnce commands := by
  intro resource hr
  rw [h] at hr
  exact nomatch hr

theorem answer_run (message : String) (d : D3D12Device) : D3D12Device.answer message d =
    match d.answers with
    | hr :: rest =>
      if hresultFailed hr then .error (backendError message hr) { d with answers := rest }
      else .ok () { d with answers := rest }
    | [] => .ok () { d with answers := [] } := by
  obtain ⟨answers, objects⟩ := d
  cases answers with
  | nil => rfl
  | cons hr rest =>
    show (if hresultFailed hr then _ else _ : DeviceM Unit) ⟨rest, objects⟩ =
      if hresultFailed hr then _ else _
    by_cases hf : hresultFailed hr = true
    · rw [if_pos hf, if_pos hf]
      rfl
    · rw [if_neg hf, if_neg hf]
      rfl

theorem answer_ok {message : String} {a : Unit}
    (h : D3D12Device.answer message d = .ok a d') : d'.objects = d.objects := by
  rw [answer_run] at h
  split at h
  · split at h <;> cases h
    rfl
  · cases h
    rfl

theorem create_ok {message : String} {n : Nat} (h : D3D12Device.create message d = .ok n d') :
    n = d.objects ∧ d'.objects = d.objects + 1 := by
  obtain ⟨_, d₁, h₁, h⟩ := bind_eq_ok h
  obtain ⟨_, _, h₂, h⟩ := bind_eq_ok h
  cases h₂
  obtain ⟨_, _, h₃, h⟩ := bind_eq_ok h
  cases h₃
  cases h
  rw [answer_ok h₁]
  exact ⟨rfl, rfl⟩

/-- An upload leaves its texture ready to be sampled. -/
theorem recordUpload_ok (ht : Stated ts real) (ha : Apart ts objects) (hi : ts i = some t)
    (h : D3D12Device.recordUpload (i, t) d = .ok w d') : Recorded ts real w := by
  obtain ⟨upload, _, -, h⟩ := bind_eq_ok h
  obtain ⟨_, _, -, h⟩ := bind_eq_ok h
  obtain ⟨⟨allocator, commandList⟩, _, -, h⟩ := bind_eq_ok h
  cases h
  have hreal : real t.resource = toNativeState t.state := (ht i t hi).symm
  have happlied : Barrier.applied real (Barrier.bring t.resource (toNativeState t.state) .copyDest ++
      [⟨t.resource, .copyDest, .pixelShaderResource⟩]) =
        Function.update real t.resource .pixelShaderResource := by
    rw [Barrier.applied_append, Barrier.bring_applied hreal, Barrier.applied_cons,
      Function.update_idem, Barrier.applied_nil]
  refine ⟨?_, ?_, ?_, ?_⟩
  · cases t.state <;> simp [RecordedWork.uses, RecordedWork.retained, D3D12Command.uses]
  · show Barrier.Right real (barriers (_ ++ _))
    rw [barriers_append, barriers_bring]
    refine Barrier.right_append.mpr ⟨Barrier.bring_right hreal, ?_, trivial⟩
    rw [Barrier.bring_applied hreal, Function.update_self]
  · refine sampledOnce_of_nil ?_
    cases t.state <;> rfl
  · intro j u hu
    show _ = Barrier.applied real (barriers (_ ++ _)) u.resource
    rw [barriers_append, barriers_bring]
    exact (settles_one ht ha hi .shaderResource j u hu).trans (congrFun happlied.symm _)

/-- A read-back leaves its texture ready to be copied. -/
theorem recordReadBack_ok (ht : Stated ts real) (ha : Apart ts objects) (hi : ts i = some t)
    (h : D3D12Device.recordReadBack (i, t) d = .ok w d') : Recorded ts real w := by
  obtain ⟨readback, _, -, h⟩ := bind_eq_ok h
  obtain ⟨⟨allocator, commandList⟩, _, -, h⟩ := bind_eq_ok h
  cases h
  have hreal : real t.resource = toNativeState t.state := (ht i t hi).symm
  have hbarriers : ∀ copy, D3D12Command.barrier copy = none → barriers ((if t.state ≠ .copySource then
      [.resourceBarrier ⟨t.resource, toNativeState t.state, .copySource⟩] else []) ++ [copy]) =
        Barrier.bring t.resource (toNativeState t.state) .copySource := by
    intro copy hcopy
    rw [barriers_append, barriers_bring_source, barriers, List.filterMap_cons_none hcopy,
      List.filterMap_nil, List.append_nil]
  refine ⟨?_, ?_, ?_, ?_⟩
  · cases t.state <;> simp [RecordedWork.uses, RecordedWork.retained, D3D12Command.uses]
  · rw [hbarriers _ rfl]
    exact Barrier.bring_right hreal
  · refine sampledOnce_of_nil ?_
    cases t.state <;> rfl
  · intro j u hu
    rw [hbarriers _ rfl, Barrier.bring_applied hreal]
    exact settles_one ht ha hi .copySource j u hu

/-! ## Render passes -/

/-- What a pass samples: a texture of the table, and not the attachment. -/
def Samples (ts : Table D3D12TextureRecord) (target : Nat) (t : D3D12Texture) : Prop :=
  ts t.1 = some t.2 ∧ t.1 ≠ target

def sampledBarrier (t : D3D12Texture) : D3D12Barrier :=
  ⟨t.2.resource, toNativeState t.2.state, .pixelShaderResource⟩

/-- The recording of some draws, while those of `pending` are still to be kept. -/
structure DrawsRecorded (ts : Table D3D12TextureRecord) (target : Nat) (pending : List Nat)
    (r : DrawRecording) : Prop where
  barriers : barriers r.commands = r.transitionedSources.map sampledBarrier
  nodup : (r.transitionedSources.map (·.1)).Nodup
  sources : ∀ t ∈ r.transitionedSources, Samples ts target t
  uses : ∀ o ∈ r.commands.flatMap D3D12Command.uses, o ∈ r.retainedResources ∨ o ∈ pending
  sampled : ∀ o ∈ r.commands.flatMap D3D12Command.sampled,
    ∃ t, Samples ts target t ∧ t.2.resource = o

variable {target : Nat} {pending : List Nat} {r : DrawRecording}

theorem DrawsRecorded.transition (h : DrawsRecorded ts target pending r) {t : D3D12Texture}
    (ht : Samples ts target t) (hp : t.2.resource ∈ pending) :
    DrawsRecorded ts target pending (r.transition t) := by
  rw [DrawRecording.transition]
  split
  · rename_i hnew
    refine ⟨?_, ?_, ?_, ?_, ?_⟩
    · rw [barriers_append, h.barriers, List.map_append]
      rfl
    · rw [List.map_append]
      exact List.nodup_append.mpr ⟨h.nodup, List.nodup_singleton _, fun a ha b hb => by
        rw [List.mem_singleton.mp hb]
        rintro rfl
        exact hnew.2 ha⟩
    · intro u hu
      obtain hu | hu := List.mem_append.mp hu
      · exact h.sources u hu
      · rw [List.mem_singleton.mp hu]
        exact ht
    · intro o ho
      rw [List.flatMap_append] at ho
      obtain ho | ho := List.mem_append.mp ho
      · exact h.uses o ho
      · have he : o = t.2.resource := by simpa [D3D12Command.uses] using ho
        exact .inr (he ▸ hp)
    · intro o ho
      rw [List.flatMap_append] at ho
      obtain ho | ho := List.mem_append.mp ho
      · exact h.sampled o ho
      · exact nomatch ho
  · exact h

theorem DrawsRecorded.transitions {sources : List D3D12Texture} (h : DrawsRecorded ts target pending r)
    (hs : ∀ t ∈ sources, Samples ts target t ∧ t.2.resource ∈ pending) :
    DrawsRecorded ts target pending (sources.foldl DrawRecording.transition r) := by
  induction sources generalizing r with
  | nil => exact h
  | cons t sources ih =>
    obtain ⟨ht, hs⟩ := List.forall_mem_cons.mp hs
    exact ih (h.transition ht.1 ht.2) hs

/-- The draw keeps what it uses. -/
theorem DrawsRecorded.draw (h : DrawsRecorded ts target [] r) {d : D3D12Draw}
    (hd : ∀ t ∈ d.sampled, Samples ts target t) : DrawsRecorded ts target [] (r.draw d) := by
  have hmono : DrawsRecorded ts target (d.sampled.map (·.2.resource)) r :=
    { h with uses := fun o ho => (h.uses o ho).imp_right fun hm => nomatch hm }
  have hs := hmono.transitions fun t ht => ⟨hd t ht, List.mem_map.mpr ⟨t, ht, rfl⟩⟩
  refine ⟨?_, hs.nodup, hs.sources, ?_, ?_⟩
  · show Spec.Oui.barriers (_ ++ _) = _
    rw [barriers_append, hs.barriers]
    exact List.append_nil _
  · intro o ho
    refine .inl ?_
    show o ∈ _ ++ _ ++ _
    rw [show (r.draw d).commands = _ ++ _ from rfl, List.flatMap_append] at ho
    obtain ho | ho := List.mem_append.mp ho
    · exact List.mem_append_left _ (List.mem_append.mpr (hs.uses o ho))
    · simp only [List.flatMap_cons, List.flatMap_nil, List.append_nil, D3D12Command.uses,
        List.mem_cons] at ho
      simp only [List.mem_append, List.mem_cons, List.not_mem_nil, or_false]
      tauto
  · intro o ho
    rw [show (r.draw d).commands = _ ++ _ from rfl, List.flatMap_append] at ho
    obtain ho | ho := List.mem_append.mp ho
    · exact hs.sampled o ho
    · simp only [List.flatMap_cons, List.flatMap_nil, List.append_nil, D3D12Command.sampled] at ho
      obtain ⟨t, ht, rfl⟩ := List.mem_map.mp ho
      exact ⟨t, hd t ht, rfl⟩

theorem DrawsRecorded.draws {draws : List D3D12Draw} (h : DrawsRecorded ts target [] r)
    (hd : ∀ d ∈ draws, ∀ t ∈ d.sampled, Samples ts target t) :
    DrawsRecorded ts target [] (draws.foldl DrawRecording.draw r) := by
  induction draws generalizing r with
  | nil => exact h
  | cons d draws ih =>
    obtain ⟨hd, hds⟩ := List.forall_mem_cons.mp hd
    exact ih (h.draw hd) hds

theorem DrawsRecorded.start : DrawsRecorded ts target [] {} :=
  ⟨rfl, List.nodup_nil, fun _ h => (nomatch h), fun _ h => (nomatch h), fun _ h => (nomatch h)⟩

section Pass

variable {desc : RenderPassDescription} {heap : Option Nat} {draws : List D3D12Draw}

theorem createDescriptors_ok (h : D3D12Device.createDescriptors draws d = .ok heap d') (hn : heap = none) :
    draws = [] := by
  rw [D3D12Device.createDescriptors] at h
  split at h
  · assumption
  · split at h
    · cases h
    · obtain ⟨_, _, -, h⟩ := bind_eq_ok h
      cases h
      cases hn

theorem passCommands_mem {commands : List D3D12Command} {c : D3D12Command}
    (h : c ∈ passCommands desc t heap commands) :
    c ∈ commands ∨ c.sampled = [] ∧ ∀ o ∈ c.uses, o = t.resource ∨ o ∈ heap := by
  simp only [passCommands, List.mem_append] at h
  obtain ((h | h) | h) | h := h
  · split at h
    · rw [List.mem_singleton.mp h]
      exact .inr ⟨rfl, fun o ho => .inl (List.mem_singleton.mp ho)⟩
    · exact nomatch h
  · split at h
    · rw [List.mem_singleton.mp h]
      exact .inr ⟨rfl, fun o ho => .inl (List.mem_singleton.mp ho)⟩
    · exact nomatch h
  · split at h
    · rename_i heap
      obtain rfl | h := List.mem_cons.mp h
      · exact .inr ⟨rfl, fun o ho => .inl (List.mem_singleton.mp ho)⟩
      · obtain rfl | h := List.mem_cons.mp h
        · exact .inr ⟨rfl, fun o ho => .inr (List.mem_singleton.mp ho ▸ rfl)⟩
        · exact .inl h
    · exact nomatch h
  · split at h
    · rw [List.mem_singleton.mp h]
      exact .inr ⟨rfl, fun o ho => .inl (List.mem_singleton.mp ho)⟩
    · exact nomatch h

theorem passCommands_barriers {commands : List D3D12Command} (hn : heap = none → commands = []) :
    barriers (passCommands desc t heap commands) =
      Barrier.bring t.resource (toNativeState t.state) .renderTarget ++ barriers commands ++
        Barrier.bring t.resource .renderTarget (toNativeState desc.finalState) := by
  have hfirst : barriers (if toNativeState t.state ≠ .renderTarget then
      [.resourceBarrier ⟨t.resource, toNativeState t.state, .renderTarget⟩] else []) =
        Barrier.bring t.resource (toNativeState t.state) .renderTarget := by
    cases t.state <;> rfl
  have hlast : barriers (if toNativeState desc.finalState ≠ .renderTarget then
      [.resourceBarrier ⟨t.resource, .renderTarget, toNativeState desc.finalState⟩] else []) =
        Barrier.bring t.resource .renderTarget (toNativeState desc.finalState) := by
    cases desc.finalState <;> rfl
  have hclear : barriers (if desc.loadOperation = .clear then
      [.clearRenderTargetView t.resource] else []) = [] := by
    split <;> rfl
  show barriers (_ ++ _ ++ _ ++ _) = _
  rw [barriers_append, barriers_append, barriers_append, hfirst, hclear, hlast, List.append_nil]
  cases heap with
  | none => rw [hn rfl]
  | some heap => rfl

theorem bring_other (resource : Nat) (a b : NativeState) {o : Nat} (h : o ≠ resource) :
    (Barrier.bring resource a b).filter (·.image = o) = [] :=
  List.filter_eq_nil_iff.mpr fun _ hc he =>
    h ((of_decide_eq_true he).symm.trans (Barrier.bring_image hc))

/-- The sources of a pass are brought over once each. -/
theorem sources_nodup (ha : Apart ts objects) (hr : DrawsRecorded ts target pending r) :
    ((r.transitionedSources.map sampledBarrier).map (·.image)).Nodup := by
  rw [List.map_map]
  have hinj : ∀ a ∈ r.transitionedSources, ∀ b ∈ r.transitionedSources,
      a.2.resource = b.2.resource → a.1 = b.1 :=
    fun a ha' b hb he => ha.one (hr.sources a ha').1 (hr.sources b hb).1 he
  exact List.Nodup.map_on (fun a ha' b hb he =>
    List.inj_on_of_nodup_map hr.nodup ha' hb (hinj a ha' b hb he)) hr.nodup.of_map

theorem sources_image (ha : Apart ts objects) (hi : ts target = some t)
    (hr : DrawsRecorded ts target pending r) :
    t.resource ∉ (r.transitionedSources.map sampledBarrier).map (·.image) := by
  intro hm
  obtain ⟨b, hb, he⟩ := List.mem_map.mp hm
  obtain ⟨u, hu, rfl⟩ := List.mem_map.mp hb
  exact (hr.sources u hu).2 (ha.one (hr.sources u hu).1 hi he)

/-- The barriers of a pass, carried out: the attachment is in the final state, the sources that
were brought over are ready to be sampled, and nothing else has changed. -/
theorem pass_applied (ht : Stated ts real) (hr : DrawsRecorded ts target pending r)
    (ha : Apart ts objects) (hi : ts target = some t) (final : NativeState) :
    let bs := Barrier.bring t.resource (toNativeState t.state) .renderTarget ++
      r.transitionedSources.map sampledBarrier ++ Barrier.bring t.resource .renderTarget final
    Barrier.Right real bs ∧ Barrier.applied real bs =
      Function.update (Barrier.applied (Function.update real t.resource .renderTarget)
        (r.transitionedSources.map sampledBarrier)) t.resource final := by
  have hreal : real t.resource = toNativeState t.state := (ht target t hi).symm
  have himage := sources_image ha hi hr
  have hmid : Barrier.applied (Function.update real t.resource .renderTarget)
      (r.transitionedSources.map sampledBarrier) t.resource = .renderTarget := by
    rw [Barrier.applied_not_mem himage, Function.update_self]
  have hsources : Barrier.Right (Function.update real t.resource .renderTarget)
      (r.transitionedSources.map sampledBarrier) := by
    refine Barrier.right_of_nodup (sources_nodup ha hr) fun b hb => ?_
    have hne : b.image ≠ t.resource := fun he => himage (List.mem_map.mpr ⟨b, hb, he⟩)
    obtain ⟨u, hu, rfl⟩ := List.mem_map.mp hb
    rw [Function.update_of_ne hne]
    exact (ht u.1 u.2 (hr.sources u hu).1).symm
  refine ⟨?_, ?_⟩
  · rw [Barrier.right_append, Barrier.right_append, Barrier.applied_append,
      Barrier.bring_applied hreal]
    exact ⟨⟨Barrier.bring_right hreal, hsources⟩, Barrier.bring_right hmid⟩
  · rw [Barrier.applied_append, Barrier.applied_append, Barrier.bring_applied hreal,
      Barrier.bring_applied hmid]

/-- A sampled texture has at most the barrier that brings it over. -/
theorem pass_once (ha : Apart ts objects) (hi : ts target = some t)
    (hr : DrawsRecorded ts target pending r) (hn : heap = none → r.commands = []) :
    SampledOnce (passCommands desc t heap r.commands) := by
  intro o ho
  obtain ⟨c, hc, hoc⟩ := List.mem_flatMap.mp ho
  have hmem : c ∈ r.commands := by
    obtain hc | ⟨hnil, -⟩ := passCommands_mem hc
    · exact hc
    · rw [hnil] at hoc
      exact nomatch hoc
  obtain ⟨u, hu, rfl⟩ := hr.sampled o (List.mem_flatMap.mpr ⟨c, hmem, hoc⟩)
  have hne : u.2.resource ≠ t.resource := fun he => hu.2 (ha.one hu.1 hi he)
  rw [passCommands_barriers hn, hr.barriers, List.filter_append, List.filter_append,
    bring_other _ _ _ hne, bring_other _ _ _ hne, List.nil_append, List.append_nil,
    ← List.countP_eq_length_filter]
  have hcount := List.nodup_iff_count_le_one.mp (sources_nodup ha hr) u.2.resource
  rw [List.count, List.countP_map] at hcount
  refine Nat.le_trans (Nat.le_of_eq (List.countP_congr fun b _ => ?_)) hcount
  simp

theorem recordPass_ok (ht : Stated ts real) (ha : Apart ts objects) (hi : ts i = some t)
    (hd : ∀ d ∈ draws, ∀ u ∈ d.sampled, Samples ts i u)
    (h : D3D12Device.recordPass desc (i, t) draws d = .ok w d') : Recorded ts real w := by
  obtain ⟨⟨allocator, commandList⟩, _, -, h⟩ := bind_eq_ok h
  obtain ⟨heap, _, hheap, h⟩ := bind_eq_ok h
  cases h
  have hr := DrawsRecorded.start.draws hd
  have hn : heap = none → (draws.foldl DrawRecording.draw {}).commands = [] := by
    intro he
    rw [createDescriptors_ok hheap he]
    rfl
  generalize draws.foldl DrawRecording.draw {} = r at hr hn
  obtain ⟨hright, happlied⟩ := pass_applied ht hr ha hi (toNativeState desc.finalState)
  refine ⟨?_, ?_, pass_once ha hi hr hn, ?_⟩
  · intro o ho
    show o ∈ allocator :: commandList :: (t.resource :: r.retainedResources ++ heap.toList)
    obtain rfl | ho := List.mem_cons.mp ho
    · exact List.mem_cons_self
    obtain rfl | ho := List.mem_cons.mp ho
    · exact List.mem_cons_of_mem _ List.mem_cons_self
    refine List.mem_cons_of_mem _ (List.mem_cons_of_mem _ (List.mem_append.mpr ?_))
    obtain ⟨c, hc, hoc⟩ := List.mem_flatMap.mp ho
    obtain hc | ⟨-, hc⟩ := passCommands_mem hc
    · have hret := hr.uses o (List.mem_flatMap.mpr ⟨c, hc, hoc⟩)
      exact .inl (List.mem_cons_of_mem _ (hret.resolve_right fun hm => nomatch hm))
    · obtain rfl | hh := hc o hoc
      · exact .inl List.mem_cons_self
      · exact .inr (Option.mem_toList.mpr hh)
  · show Barrier.Right real (barriers (passCommands desc t heap r.commands))
    rw [passCommands_barriers hn, hr.barriers]
    exact hright
  · intro j u hu
    show toNativeState (settledState ((i, desc.finalState) ::
      r.transitionedSources.map fun t => (t.1, .shaderResource)) j u.state) =
        Barrier.applied real (barriers (passCommands desc t heap r.commands)) u.resource
    have hids : (r.transitionedSources.map fun t => (t.1, TextureState.shaderResource)).map (·.1) =
        r.transitionedSources.map (·.1) := by
      rw [List.map_map]
      rfl
    rw [passCommands_barriers hn, hr.barriers, happlied, settledState_cons]
    by_cases hj : j = i
    · cases Option.some.inj (hu.symm.trans (hj ▸ hi))
      have hnot : j ∉ (r.transitionedSources.map fun t => (t.1, TextureState.shaderResource)).map
          (·.1) := by
        rw [hids]
        intro hm
        obtain ⟨v, hv, he⟩ := List.mem_map.mp hm
        exact (hr.sources v hv).2 (he.trans hj)
      rw [settledState_other hnot, if_pos hj, Function.update_self]
    · have hne : u.resource ≠ t.resource := fun he => hj (ha.one hu hi he)
      rw [if_neg hj, Function.update_of_ne hne]
      by_cases hmem : j ∈ r.transitionedSources.map (·.1)
      · have hsampled : ∀ p ∈ r.transitionedSources.map fun t => (t.1, TextureState.shaderResource),
            p.1 = j → p.2 = .shaderResource := by
          intro p hp _
          obtain ⟨v, -, rfl⟩ := List.mem_map.mp hp
          rfl
        rw [settledState_mem (hids ▸ hmem) hsampled]
        obtain ⟨v, hv, rfl⟩ := List.mem_map.mp hmem
        cases Option.some.inj (hu.symm.trans (hr.sources v hv).1)
        exact (Barrier.applied_mem (sources_nodup ha hr)
          (List.mem_map.mpr ⟨v, hv, rfl⟩)).symm
      · rw [settledState_other (hids ▸ hmem), Barrier.applied_not_mem, Function.update_of_ne hne]
        · exact ht j u hu
        · intro hm
          obtain ⟨b, hb, he⟩ := List.mem_map.mp hm
          obtain ⟨v, hv, rfl⟩ := List.mem_map.mp hb
          have hjv : v.1 = j := ha.one (hr.sources v hv).1 hu he
          exact hmem (List.mem_map.mpr ⟨v, hv, hjv⟩)

end Pass

/-! ## What the checks have found -/

section Checks

variable {s : D3D12Renderer} {h : TextureHandle} {x : DeviceM RecordedWork}

theorem requireInitialized_ok {u : Unit} (hx : s.requireInitialized = .ok u) :
    s.fence.initialized = true := by
  rw [D3D12Renderer.requireInitialized] at hx
  split at hx
  · assumption
  · cases hx

theorem requireTexture_ok {name : String} (hx : s.requireTexture h name = .ok t) :
    h.generation = s.fence.handleGeneration ∧ s.textures h.value = some t := by
  rw [D3D12Renderer.requireTexture] at hx
  split at hx
  · rename_i u hu
    cases hx
    rw [D3D12Renderer.findTexture] at hu
    split at hu
    · cases hu
    · rename_i hg
      exact ⟨not_not.mp hg, hu⟩
  · cases hx

theorem uploadTexture_ok {f : RendererFrame} (hx : s.uploadTexture h f = .ok x) :
    s.fence.initialized = true ∧
      ∃ t, s.textures h.value = some t ∧ x = D3D12Device.recordUpload (h.value, t) := by
  rw [D3D12Renderer.uploadTexture] at hx
  obtain ⟨-, hx⟩ := unless_ok hx rfl
  obtain ⟨_, -, hx⟩ := except_bind_ok hx
  obtain ⟨_, hi, hx⟩ := except_bind_ok hx
  obtain ⟨t, ht, hx⟩ := except_bind_ok hx
  obtain ⟨-, hx⟩ := unless_ok hx rfl
  obtain ⟨-, hx⟩ := unless_ok hx rfl
  cases hx
  exact ⟨requireInitialized_ok hi, t, (requireTexture_ok ht).2, rfl⟩

theorem readTexture_ok {timeoutMs : UInt32} (hx : s.readTexture h timeoutMs = .ok x) :
    s.fence.initialized = true ∧
      ∃ t, s.textures h.value = some t ∧ x = D3D12Device.recordReadBack (h.value, t) := by
  rw [D3D12Renderer.readTexture] at hx
  obtain ⟨-, hx⟩ := unless_ok hx rfl
  obtain ⟨-, hx⟩ := unless_ok hx rfl
  obtain ⟨_, hi, hx⟩ := except_bind_ok hx
  obtain ⟨t, ht, hx⟩ := except_bind_ok hx
  obtain ⟨-, hx⟩ := unless_ok hx rfl
  cases hx
  exact ⟨requireInitialized_ok hi, t, (requireTexture_ok ht).2, rfl⟩

/-- A texture that is found by another handle than the attachment is another texture. -/
theorem samples_of_found {a : TextureHandle} {name name' : String} {u : D3D12TextureRecord}
    (ha : s.requireTexture a name' = .ok u) (hh : s.requireTexture h name = .ok t) (hne : h ≠ a) :
    Samples s.textures a.value (h.value, t) := by
  obtain ⟨hga, -⟩ := requireTexture_ok ha
  obtain ⟨hgh, ht⟩ := requireTexture_ok hh
  refine ⟨ht, fun hv => hne ?_⟩
  cases h
  cases a
  simp_all

theorem validateDrawCommands_ok {a : TextureHandle} {cs : List MeshDrawCommand} {u : Unit}
    (hx : cs.forM (validateDrawCommand a) = (.ok u : RendererStatus)) :
    ∀ c ∈ cs, c.sourceTexture ≠ a ∧ (c.alphaTexture.valid = true → c.alphaTexture ≠ a) := by
  intro c hmem
  have hc : validateDrawCommand a c = .ok () := forM_ok.mp hx c hmem
  rw [validateDrawCommand] at hc
  obtain ⟨-, hc⟩ := unless_ok hc rfl
  obtain ⟨hsource, hc⟩ := unless_ok hc rfl
  obtain ⟨-, hc⟩ := unless_ok hc rfl
  obtain ⟨halpha, -⟩ := unless_ok hc rfl
  refine ⟨hsource, fun hv he => halpha ?_⟩
  rw [hv, Bool.true_and]
  exact decide_eq_true he

theorem resolveDraw_ok {a : TextureHandle} {name : String} {u : D3D12TextureRecord}
    (ha : s.requireTexture a name = .ok u) {c : MeshDrawCommand} {dr : D3D12Draw}
    (hc : c.sourceTexture ≠ a ∧ (c.alphaTexture.valid = true → c.alphaTexture ≠ a))
    (hx : s.resolveDraw c = .ok dr) : ∀ v ∈ dr.sampled, Samples s.textures a.value v := by
  rw [D3D12Renderer.resolveDraw] at hx
  obtain ⟨mesh, -, hx⟩ := except_bind_ok hx
  obtain ⟨source, hsource, hx⟩ := except_bind_ok hx
  obtain ⟨alpha, halpha, hx⟩ := except_bind_ok hx
  obtain ⟨-, hx⟩ := unless_ok hx rfl
  obtain ⟨-, hx⟩ := unless_ok hx rfl
  cases hx
  refine List.forall_mem_cons.mpr ⟨samples_of_found ha hsource hc.1, fun v hv => ?_⟩
  rw [D3D12Renderer.resolveAlpha] at halpha
  split at halpha
  · rename_i hvalid
    obtain ⟨t, ht, halpha⟩ := except_bind_ok halpha
    cases halpha
    rw [List.mem_singleton.mp hv]
    exact samples_of_found ha ht (hc.2 hvalid)
  · cases halpha
    exact nomatch hv

theorem resolveDraws_ok {cs : List MeshDrawCommand} {draws : List D3D12Draw}
    (hx : s.resolveDraws cs = .ok draws) : ∀ dr ∈ draws, ∃ c ∈ cs, s.resolveDraw c = .ok dr := by
  induction cs generalizing draws with
  | nil =>
    cases hx
    exact fun _ h => nomatch h
  | cons c cs ih =>
    rw [D3D12Renderer.resolveDraws] at hx
    obtain ⟨dr, hdr, hx⟩ := except_bind_ok hx
    obtain ⟨rest, hrest, hx⟩ := except_bind_ok hx
    cases hx
    refine List.forall_mem_cons.mpr ⟨⟨c, List.mem_cons_self, hdr⟩, fun e he => ?_⟩
    obtain ⟨c', hc', he⟩ := ih hrest e he
    exact ⟨c', List.mem_cons_of_mem _ hc', he⟩

theorem executeRenderPass_ok {desc : RenderPassDescription}
    (hx : s.executeRenderPass desc = .ok x) : s.fence.initialized = true ∧
      ∃ t draws, s.textures desc.colorAttachment.value = some t ∧
        (∀ dr ∈ draws, ∀ v ∈ dr.sampled, Samples s.textures desc.colorAttachment.value v) ∧
        x = D3D12Device.recordPass desc (desc.colorAttachment.value, t) draws := by
  rw [D3D12Renderer.executeRenderPass] at hx
  obtain ⟨_, hv, hx⟩ := except_bind_ok hx
  obtain ⟨_, hi, hx⟩ := except_bind_ok hx
  obtain ⟨t, ht, hx⟩ := except_bind_ok hx
  obtain ⟨_, -, hx⟩ := except_bind_ok hx
  obtain ⟨draws, hdraws, hx⟩ := except_bind_ok hx
  obtain ⟨-, hx⟩ := unless_ok hx rfl
  obtain ⟨_, -, hx⟩ := except_bind_ok hx
  cases hx
  refine ⟨requireInitialized_ok hi, t, draws, (requireTexture_ok ht).2, fun dr hdr => ?_, rfl⟩
  obtain ⟨c, hc, hdr⟩ := resolveDraws_ok hdraws dr hdr
  rw [validateRenderPassDescription] at hv
  obtain ⟨-, hv⟩ := unless_ok hv rfl
  obtain ⟨-, hv⟩ := unless_ok hv rfl
  obtain ⟨-, hv⟩ := unless_ok hv rfl
  exact resolveDraw_ok ht (validateDrawCommands_ok hv c hc) hdr

end Checks

end WSE.Proof.Oui
