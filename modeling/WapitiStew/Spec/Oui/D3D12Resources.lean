import WapitiStew.Framework.History
import WapitiStew.Impl.Oui.D3D12Resources

/-!
# What is kept while the GPU works, and the states of the textures

A list is outstanding from its execution to the first value of the fence that was signalled after
it and is reached (`outstandingWork`); until then something holds each object that it uses
(`KeptAlive`). `resourceStates` carries out the barriers of the lists in the order they are
executed: each is recorded with the state its texture is in, and a texture that is sampled has at
most one. Between the calls the records say what state the textures are in (`StatesTracked`).
-/

namespace WSE.Spec.Oui

open WSE.Framework WSE.Impl.Oui

/-! ## Lifetimes -/

structure WorkBooks where
  queued : List Nat := []
  /-- Done by the GPU, with no value reached since. -/
  executed : List Nat := []

def WorkBooks.outstanding (b : WorkBooks) : List Nat := b.queued ++ b.executed

def outstandingWork : Monitor FenceEvent WorkBooks where
  init := {}
  next
    | b, .submitted work => { b with queued := b.queued ++ [work] }
    | b, .executed work => ⟨b.queued.tail, b.executed ++ [work]⟩
    | b, .reached _ => { b with executed := [] }
    | _, .released => {}
    | b, _ => b
  allowed _ _ := True

def outstanding (s : D3D12Renderer) : List Nat := (outstandingWork.after s.fence.log).outstanding

/-- A texture, a mesh, a pending submission or the call under way holds the object. -/
inductive Holds (s : D3D12Renderer) (object : Nat) : Prop
  | texture {i : Nat} {t : D3D12TextureRecord} (ht : s.textures i = some t)
      (ho : object ∈ t.objects)
  | mesh {i : Nat} {m : D3D12MeshRecord} (hm : s.meshes i = some m) (ho : object ∈ m.objects)
  | pending {p : PendingSubmission} {id : Nat} {w : RecordedWork}
      (hp : p ∈ s.fence.pendingSubmissions) (hid : p.work = some id) (hw : s.works id = some w)
      (ho : object ∈ w.retained)
  | doing {w : RecordedWork} (hw : s.doing = some w) (ho : object ∈ w.retained)

def KeptAlive (s : D3D12Renderer) : Prop :=
  ∀ id ∈ outstanding s, ∃ w, s.works id = some w ∧ ∀ object ∈ w.uses, Holds s object

/-! ## States -/

def barriers (commands : List D3D12Command) : List D3D12Barrier :=
  commands.filterMap D3D12Command.barrier

/-- A texture that is sampled is transitioned at most once. -/
def SampledOnce (commands : List D3D12Command) : Prop :=
  ∀ resource ∈ commands.flatMap D3D12Command.sampled,
    ((barriers commands).filter (·.image = resource)).length ≤ 1

instance (commands : List D3D12Command) : Decidable (SampledOnce commands) :=
  inferInstanceAs (Decidable (∀ _ ∈ _, _))

def resourceStates : Monitor ResourceEvent (Nat → NativeState) where
  init := fun _ => .common
  next
    | real, .created resource state => Function.update real resource state
    | real, .executed commands => Barrier.applied real (barriers commands)
    | real, _ => real
  allowed
    | real, .recorded commands => Barrier.Right real (barriers commands) ∧ SampledOnce commands
    | real, .executed commands => Barrier.Right real (barriers commands)
    | _, _ => True

/-- Not between the execution of a list and the end of its submission. -/
def Settled : D3D12Phase → Prop
  | .signalling (.submit _ _) | .retaining (.submit _ _) _ => False
  | _ => True

def StatesTracked (s : D3D12Renderer) : Prop :=
  Settled s.fence.phase → ∀ i t, s.textures i = some t →
    toNativeState t.state = resourceStates.after s.log t.resource

/-! ## When they hold -/

/-- What may be answered: the values of the fence do not start again, an executed list is followed
by its signal, and a shutdown waits until the fence is there, unless no list is outstanding. -/
def SignalsAnswered (s : D3D12Renderer) (hr : Int) : D3D12Phase → Prop
  | .signalling (.submit _ _) => s.fence.lastFenceValue + 1 < 2 ^ 64 ∧ hresultFailed hr = false
  | .signalling _ =>
    s.fence.lastFenceValue + 1 < 2 ^ 64 ∧ (hresultFailed hr = true → outstanding s = [])
  | .registering ⟨.shutdown _, _, _⟩ => hresultFailed hr = true → outstanding s = []
  | _ => True

def WaitEnds (s : D3D12Renderer) : D3D12Phase → Prop
  | .waiting ⟨.shutdown _, value, _⟩ =>
    value ≤ s.fence.gpu.completedValue ∨ outstanding s = []
  | _ => True

def SubmissionsComplete (s : D3D12Renderer) : ResourceAction → Prop
  | .fence (.answer hr) => SignalsAnswered s hr s.fence.phase
  | .fence (.waits _) => WaitEnds s s.fence.phase
  | _ => True

instance (s : D3D12Renderer) (hr : Int) (p : D3D12Phase) : Decidable (SignalsAnswered s hr p) :=
  match p with
  | .signalling (.submit _ _) => inferInstanceAs (Decidable (_ ∧ _))
  | .signalling .present | .signalling .idle | .signalling (.leave _)
  | .signalling (.shutdown _) => inferInstanceAs (Decidable (_ ∧ _))
  | .registering ⟨.shutdown _, _, _⟩ => inferInstanceAs (Decidable (_ → _))
  | .registering ⟨.waitFence, _, _⟩ | .registering ⟨.readTexture _, _, _⟩
  | .registering ⟨.idle, _, _⟩ | .registering ⟨.leave _, _, _⟩ => isTrue trivial
  | .idle | .initializing | .recording _ | .presenting | .retaining _ _ | .checking _ | .waiting _
  | .collecting _ | .copying _ | .closing _ => isTrue trivial

instance (s : D3D12Renderer) (p : D3D12Phase) : Decidable (WaitEnds s p) :=
  match p with
  | .waiting ⟨.shutdown _, _, _⟩ => inferInstanceAs (Decidable (_ ∨ _))
  | .waiting ⟨.waitFence, _, _⟩ | .waiting ⟨.readTexture _, _, _⟩
  | .waiting ⟨.idle, _, _⟩ | .waiting ⟨.leave _, _, _⟩ => isTrue trivial
  | .idle | .initializing | .recording _ | .presenting | .signalling _ | .retaining _ _
  | .checking _ | .registering _ | .collecting _ | .copying _ | .closing _ => isTrue trivial

instance (s : D3D12Renderer) (a : ResourceAction) : Decidable (SubmissionsComplete s a) :=
  match a with
  | .fence (.answer hr) => inferInstanceAs (Decidable (SignalsAnswered s hr s.fence.phase))
  | .fence (.waits _) => inferInstanceAs (Decidable (WaitEnds s s.fence.phase))
  | .call _ _ | .fence (.call _) | .fence (.refuse _) | .fence (.abandon _)
  | .fence (.pipeline _) | .fence .proceed | .fence .leaves | .fence .executes
  | .fence (.raises _) => isTrue trivial

end WSE.Spec.Oui
