import WapitiStew.Framework.History
import WapitiStew.Impl.Oui.D3D12Fence

/-!
# What a fence wait promises

`fenceWaits` reads the promise off a history: a wait succeeds when the fence has reached its
value, a frame is copied when the work that writes it has been executed, and a wait for the idle
GPU succeeds when all that was submitted has been.
-/

namespace WSE.Spec.Oui

open WSE.Framework WSE.Impl.Oui

structure FenceBooks where
  completed : Nat := 0
  submitted : List Nat := []
  executed : List Nat := []

def fenceWaits : Monitor FenceEvent FenceBooks where
  init := {}
  next
    | b, .submitted work => { b with submitted := b.submitted ++ [work] }
    | b, .executed work => { b with executed := b.executed ++ [work] }
    | b, .reached value => { b with completed := value }
    | _, .released => {}
    | b, _ => b
  allowed
    | b, .waited value => value ≤ b.completed
    | b, .copied work => work ∈ b.executed
    | b, .idled => b.submitted ⊆ b.executed
    | _, _ => True

/-- A wait that succeeds in registering the event finds it unset, and registered for no smaller
value; and the values of the fence do not start again. -/
def AloneIn (s : D3D12Fence) (hr : Int) : D3D12Phase → Prop
  | .registering w => hresultFailed hr = false →
      s.gpu.event = false ∧ ∀ value ∈ s.gpu.registered, w.value ≤ value
  | .signalling _ => s.lastFenceValue + 1 < 2 ^ 64
  | _ => True

def WaitsAlone (s : D3D12Fence) : D3D12Action → Prop
  | .answer hr => AloneIn s hr s.phase
  | _ => True

instance (s : D3D12Fence) (hr : Int) (p : D3D12Phase) : Decidable (AloneIn s hr p) :=
  match p with
  | .registering _ => inferInstanceAs (Decidable (_ → _))
  | .signalling _ => inferInstanceAs (Decidable (_ < _))
  | .idle | .initializing | .recording _ | .presenting | .retaining _ _ | .checking _ | .waiting _
  | .collecting _ | .copying _ | .closing _ => isTrue trivial

instance (s : D3D12Fence) (a : D3D12Action) : Decidable (WaitsAlone s a) :=
  match a with
  | .answer hr => inferInstanceAs (Decidable (AloneIn s hr s.phase))
  | .call _ | .refuse _ | .abandon _ | .pipeline _ | .waits _ | .proceed | .leaves | .executes
  | .raises _ => isTrue trivial

end WSE.Spec.Oui
