import WapitiStew.Impl.Xpt.Socket
import WapitiStew.Proof.Xpt.Deadline
import WapitiStew.Spec.Xpt.Handles

/-!
# The calls of a transport

What a call asks of the world, and what it leaves of the handles.
-/

namespace WSE.Proof.Xpt

open WSE.Framework WSE.Framework.Running WSE.Impl.Xpt

/-!
## Calls that only ask

`Asks x s`: from `s` the computation `x` ends, and all it did was to ask the
world. Waiting for a socket is such a computation: it ends, because the clock
reaches every deadline.
-/

section

variable {ι α β : Type} {s : CallState ι}

section States

variable (s : CallState ι) (j k : Nat)

@[simp] theorem later_tick : (s.later k).tick = k := rfl

@[simp] theorem later_handles : (s.later k).handles = s.handles := rfl

@[simp] theorem later_lists : (s.later k).lists = s.lists := rfl

@[simp] theorem later_accepted : (s.later k).accepted = s.accepted := rfl

@[simp] theorem later_client : (s.later k).client = s.client := rfl

@[simp] theorem later_later : (s.later j).later k = s.later k := rfl

theorem observe_run (answer : Nat → α) :
    observe answer s = some (answer s.tick, s.later (s.tick + 1)) := rfl

end States

/-- A call of a part that changes nothing but the tick. -/
theorem withPart_later {κ : Type} {part : κ → ι} {replace : κ → ι → κ} {x : CallM ι α}
    {s : CallState κ} {a : α} {k : Nat} (hpart : replace s.client (part s.client) = s.client)
    (h : x ⟨s.tick, s.handles, s.lists, s.accepted, part s.client⟩ =
      some (a, ⟨k, s.handles, s.lists, s.accepted, part s.client⟩)) :
    withPart part replace x s = some (a, s.later k) := by
  rw [withPart, h]
  show some (a, (⟨k, s.handles, s.lists, s.accepted, replace s.client (part s.client)⟩ :
    CallState κ)) = _
  rw [hpart]
  rfl

def Asks (x : CallM ι α) (s : CallState ι) : Prop :=
  ∃ a k, x s = some (a, s.later k) ∧ s.tick ≤ k

theorem asks_pure (a : α) (s : CallState ι) : Asks (pure a) s := ⟨a, s.tick, rfl, Nat.le_refl _⟩

theorem asks_observe (answer : Nat → α) (s : CallState ι) : Asks (observe answer) s :=
  ⟨answer s.tick, s.tick + 1, rfl, Nat.le_succ _⟩

theorem Asks.bind {x : CallM ι α} {f : α → CallM ι β} (hx : Asks x s)
    (hf : ∀ a k, s.tick ≤ k → Asks (f a) (s.later k)) : Asks (x >>= f) s := by
  obtain ⟨a, k, hx, hk⟩ := hx
  obtain ⟨b, k', hf, hk'⟩ := hf a k hk
  exact ⟨b, k', (bind_some hx).trans hf, Nat.le_trans hk hk'⟩

/-- The first part is known to end with `a`. -/
theorem Asks.next {x : CallM ι α} {f : α → CallM ι β} {a : α} {k : Nat}
    (hx : x s = some (a, s.later k)) (hk : s.tick ≤ k) (hf : Asks (f a) (s.later k)) :
    Asks (x >>= f) s := by
  obtain ⟨b, k', hf, hk'⟩ := hf
  exact ⟨b, k', (bind_some hx).trans hf, Nat.le_trans hk hk'⟩

/-- A native call that creates a handle creates the next one, or fails. -/
theorem openHandle_cases {ε : Type} (answer : Nat → Option ε) (s : CallState ι) :
    openHandle answer s =
        some (.ok s.handles.acquired,
          { s with tick := s.tick + 1, handles := s.handles.acquire }) ∨
      ∃ code, openHandle answer s = some (.error code, s.later (s.tick + 1)) := by
  unfold openHandle
  cases answer s.tick with
  | none => exact .inl rfl
  | some code => exact .inr ⟨code, rfl⟩

theorem getaddrinfo_cases (w : SocketWorld) (s : CallState ι) :
    (∃ addresses, getaddrinfo w s = some (.ok (s.lists.acquired, addresses),
        { s with tick := s.tick + 1, lists := s.lists.acquire })) ∨
      ∃ code, getaddrinfo w s = some (.error code, s.later (s.tick + 1)) := by
  unfold getaddrinfo
  cases w.resolve s.tick with
  | ok addresses => exact .inl ⟨addresses, rfl⟩
  | error code => exact .inr ⟨code, rfl⟩

/-- Whether the call succeeded with the address. -/
def isDone : Candidate → Bool
  | .done => true
  | _ => false

/-! ### Deadlines and waits -/

/-- A reading that is before a deadline is before the tick `K` that is past every deadline. -/
theorem lt_of_clock_lt {w : Surroundings} {K k : Nat} {deadline : Int}
    (hK : timePointMax ≤ w.clock K) (hd : deadline ≤ timePointMax) (h : ¬deadline ≤ w.clock k) :
    k < K := by
  by_contra hn
  have := w.clock_mono (Nat.not_lt.mp hn)
  omega

theorem waitForSocket_ends {w : SocketWorld} {K : Nat} {deadline : Int}
    (hK : timePointMax ≤ w.clock K) (hd : deadline ≤ timePointMax)
    (socketError : NativeCode → TransportErrorCode → String → TransportError) (message : String)
    {fuel : Nat} {s : CallState ι} (hfuel : K - s.tick < fuel) :
    ∃ e k, waitForSocket w socketError message deadline fuel s = some (e, s.later k) ∧
      s.tick < k ∧ (e.ok = true → s.tick < K) := by
  induction fuel generalizing s with
  | zero => exact absurd hfuel (Nat.not_lt_zero _)
  | succ fuel ih =>
    rw [waitForSocket, bind_some (observe_run s _)]
    by_cases hc : w.cancelled s.tick = true
    · rw [if_pos hc]
      exact ⟨_, _, rfl, Nat.lt_succ_self _, fun h => absurd h (by decide)⟩
    rw [if_neg hc, bind_some (observe_run _ _)]
    by_cases hl : deadline ≤ w.clock (s.tick + 1)
    · refine ⟨transportTimeoutError, s.tick + 2, ?_, by omega, fun h => absurd h (by decide)⟩
      rw [later_tick, if_pos hl]
      rfl
    have hlt := lt_of_clock_lt hK hd hl
    obtain ⟨e, k, hrun, hk, -⟩ := ih (s := s.later (s.tick + 3)) (by rw [later_tick]; omega)
    rw [later_tick] at hk
    rw [later_tick, if_neg hl, bind_some (observe_run _ _)]
    simp only [later_later, later_tick] at hrun ⊢
    cases w.select (s.tick + 2) with
    | ready => exact ⟨_, _, rfl, by omega, fun _ => by omega⟩
    | expired => exact ⟨e, k, hrun, by omega, fun _ => by omega⟩
    | failed code =>
      by_cases hi : interruptedError code = true
      · refine ⟨e, k, ?_, by omega, fun _ => by omega⟩
        simp only [if_pos hi]
        exact hrun
      · refine ⟨socketError code .unknown message, s.tick + 3, ?_, by omega, fun _ => by omega⟩
        simp only [if_neg hi]
        rfl

/-- A clock that stands still for a while and then shows the last time point. -/
def lateClock (k : Nat) : Int := if k ≤ 20 then 0 else timePointMax

theorem lateClock_mono {i j : Nat} (h : i ≤ j) : lateClock i ≤ lateClock j := by
  unfold lateClock timePointMax
  grind

theorem lateClock_horizon : timePointMax ≤ lateClock 21 := by decide

end

/-!
## Who owns the handles

`Balanced held s t`: a call that ran from `s` to `t` left every open handle with
its client, or closed what the client held and left it with other handles.
Balanced calls may follow each other, and clients that own their handles own
them after a balanced call. `Settles` is the same for clients that own their
handles.
-/

section

open WSE.Framework.Ledger WSE.Spec.Xpt

variable {ι : Type} {held : ι → List Nat} {s t u : CallState ι}

structure Balanced (held : ι → List Nat) (s t : CallState ι) : Prop where
  lists : s.lists.Changes t.lists [] []
  handles : s.handles.Changes t.handles [] [] ∧ held t.client = held s.client ∨
    s.handles.Changes t.handles (held s.client) (held t.client)
  once : (held t.client).Nodup

theorem Balanced.refl (h : Owns held s) : Balanced held s s :=
  ⟨.refl h.lists, .inl ⟨.refl h.handles, rfl⟩, h.once⟩

theorem Balanced.trans (h : Balanced held s t) (h' : Balanced held t u) : Balanced held s u where
  lists := h.lists.trans_left h'.lists
  handles := by
    obtain ⟨hc, he⟩ | hc := h.handles
    · obtain ⟨hc', he'⟩ | hc' := h'.handles
      · exact .inl ⟨hc.trans_left hc', he'.trans he⟩
      · exact .inr (hc.trans_left (he ▸ hc'))
    · obtain ⟨hc', he'⟩ | hc' := h'.handles
      · exact .inr (he' ▸ hc.trans_right hc')
      · exact .inr (hc.trans hc' (by simp) (by simp))
  once := h'.once

theorem Balanced.owns (h : Balanced held s t) (hs : Owns held s) : Owns held t where
  handles := by
    obtain ⟨hc, -⟩ | hc := h.handles
    · exact hc.after
    · exact hc.after
  lists := h.lists.after
  once := h.once
  isOpen r hr := by
    obtain ⟨hc, he⟩ | hc := h.handles
    · exact hc.live_of_live (hs.isOpen r (he ▸ hr)) (by simp)
    · exact hc.live_of_come hr

/-- A call that left the handles and the lists alone. -/
theorem Balanced.same (hs : Owns held s) (hh : t.handles = s.handles) (hl : t.lists = s.lists)
    (hc : held t.client = held s.client) : Balanced held s t where
  lists := by rw [hl]; exact .refl hs.lists
  handles := by rw [hh]; exact .inl ⟨.refl hs.handles, hc⟩
  once := by rw [hc]; exact hs.once

theorem balanced_later (hs : Owns held s) (k : Nat) : Balanced held s (s.later k) :=
  .same hs rfl rfl rfl

/-- A call that closed what the client held. -/
theorem Balanced.closed (hs : Owns held s) (hh : t.handles = s.handles.release (held s.client))
    (hl : t.lists = s.lists) (hc : held t.client = []) : Balanced held s t where
  lists := by rw [hl]; exact .refl hs.lists
  handles := by
    rw [hh, hc]
    exact .inr (.release hs.handles hs.isOpen hs.once)
  once := by rw [hc]; exact List.nodup_nil

theorem owns_later (hs : Owns held s) (k : Nat) : Owns held (s.later k) :=
  ⟨hs.handles, hs.lists, hs.once, hs.isOpen⟩

/-- A call during which one more handle is open. -/
theorem Balanced.around {k : Nat} (hs : Owns held s)
    (h : Balanced held { s with tick := k, handles := s.handles.acquire } t) :
    Balanced held s { t with handles := t.handles.release [s.handles.acquired] } := by
  have hopened := Changes.acquire hs.handles
  have hold : s.handles.acquired ∉ held s.client := fun hm =>
    absurd (hs.isOpen _ hm).1 (Nat.lt_irrefl _)
  refine ⟨h.lists, ?_, h.once⟩
  obtain ⟨hc, he⟩ | hc := h.handles
  · exact .inl ⟨(hopened.trans_right hc).undo (by simp), he⟩
  · have hnew : s.handles.acquired ∉ held t.client := fun hm =>
      absurd (hc.come_new _ hm).1 (Nat.not_succ_le_self _)
    have hboth : s.handles.Changes t.handles (held s.client)
        (s.handles.acquired :: held t.client) := hopened.trans hc (by grind) (by grind)
    have hclosed := Changes.release hboth.after (g := [s.handles.acquired])
      (fun r hr => hboth.live_of_come (by grind)) (by simp)
    exact .inr (hboth.trans hclosed (by grind) (by grind))

/-! ### Calls of clients that own their handles -/

/-- The call is balanced for a client that owns its handles. -/
def Settles (held : ι → List Nat) (s t : CallState ι) : Prop := Owns held s → Balanced held s t

theorem Settles.trans (h : Settles held s t) (h' : Settles held t u) : Settles held s u :=
  fun hs => (h hs).trans (h' ((h hs).owns hs))

theorem settles_refl (s : CallState ι) : Settles held s s := .refl

theorem settles_later (s : CallState ι) (k : Nat) : Settles held s (s.later k) :=
  fun hs => balanced_later hs k

theorem settles_same (hh : t.handles = s.handles) (hl : t.lists = s.lists)
    (hc : held t.client = held s.client) : Settles held s t :=
  fun hs => .same hs hh hl hc

theorem Settles.around {k : Nat}
    (h : Settles held { s with tick := k, handles := s.handles.acquire } t) :
    Settles held s { t with handles := t.handles.release [s.handles.acquired] } := by
  intro hs
  have hopened := Changes.acquire hs.handles
  exact .around hs (h ⟨hopened.after, hs.lists, hs.once, fun r hr =>
    hopened.live_of_live (hs.isOpen r hr) (by simp)⟩)

end

end WSE.Proof.Xpt
