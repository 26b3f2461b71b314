import Mathlib.Data.List.Nodup
import WapitiStew.Proof.Gef.BinRoundTrip
import WapitiStew.Spec.Gef.AtomicWrite

/-!
# Atomic saves are all or nothing

A step of a call touches its own staging directory or, when it renames, its
destination (`callStep_ok`, said once for all steps). Staging directories belong
to one call each, because a directory is created only where nothing was, and a
rename replaces no directory; so calls do not disturb each other
(`Inv.step`). Every reachable state then holds, at each destination, what the last
finished save to it wrote (`atomicWrite_all_or_nothing`).
-/

namespace WSE.Proof.Gef

open WSE.Framework WSE.Impl.Gef WSE.Spec.Gef

/-! ## One call -/

/-- The staging directory a call works in. -/
def directoryOf : Phase → Option Name
  | .idle | .creating _ | .done _ => none
  | .opening d | .writing d _ _ | .closing d _ _ | .replacing d | .removingFile d _
  | .removingDirectory d _ => some d

/-- The result a call has decided on. -/
def resultOf : Phase → Option SaveResult
  | .removingFile _ r | .removingDirectory _ r | .done r => some r
  | _ => none

def isDone : Phase → Bool
  | .done _ => true
  | _ => false

/-- What a call knows of its staging directory. -/
def PhaseOk (call : SaveCall) (fs : FileSystem) : Phase → Prop
  | .idle | .creating _ | .done _ => True
  | .opening d | .removingFile d _ | .removingDirectory d _ =>
    ∃ data, fs d = some (.directory data)
  | .writing d file rest =>
    fs d = some (.directory (some file.disk)) ∧
      (file.failed = false → file.content ++ rest.flatten = call.bytes)
  | .closing d file flushed =>
    fs d = some (.directory (some file.disk)) ∧
      (flushed = true → file.failed = false ∧ file.content = call.bytes)
  | .replacing d => fs d = some (.directory (some call.bytes))

theorem PhaseOk.directory {call : SaveCall} {fs : FileSystem} {p : Phase} (h : PhaseOk call fs p)
    {d : Name} (hd : directoryOf p = some d) : ∃ data, fs d = some (.directory data) := by
  cases p with
  | idle | creating | done => cases hd
  | opening | removingFile | removingDirectory =>
    cases hd
    exact h
  | writing | closing =>
    cases hd
    exact ⟨_, h.1⟩
  | replacing =>
    cases hd
    exact ⟨_, h⟩

/-- A call keeps what it knows while its directory is left alone. -/
theorem PhaseOk.frame {call : SaveCall} {fs fs' : FileSystem} {p : Phase} (h : PhaseOk call fs p)
    (hd : ∀ d, directoryOf p = some d → fs' d = fs d) : PhaseOk call fs' p := by
  cases p with
  | idle | creating | done => trivial
  | opening d | removingFile d _ | removingDirectory d _ =>
    obtain ⟨data, hdata⟩ := h
    exact ⟨data, (hd d rfl).trans hdata⟩
  | writing d _ _ | closing d _ _ => exact ⟨(hd d rfl).trans h.1, h.2⟩
  | replacing d => exact (hd d rfl).trans h

/-- The result after a rename, and only then, is success. -/
def committedBy : Effect → Bool
  | .replace _ _ => true
  | _ => false

/-- What an effect needs and what it leaves of a call's directory. -/
def EffectOk (call : SaveCall) (fs : FileSystem) (p p' : Phase) : Effect → Prop
  | .none => directoryOf p' = directoryOf p
  | .createDirectory d => fs d = none ∧ directoryOf p = none ∧ directoryOf p' = some d
  | .store d _ | .removeFile d => directoryOf p = some d ∧ directoryOf p' = some d
  | .replace d destination =>
    directoryOf p = some d ∧ directoryOf p' = some d ∧ destination = call.destination ∧
      fs d = some (.directory (some call.bytes)) ∧
      ∀ data, fs destination ≠ some (.directory data)
  | .removeDirectory d => directoryOf p = some d ∧ directoryOf p' = none ∧ isDone p' = true
  | .removalFailed => directoryOf p' = directoryOf p ∨ directoryOf p' = none ∧ isDone p' = true

/-- All that a step of a call can do. -/
structure StepOk (call : SaveCall) (fs : FileSystem) (p p' : Phase) (e : Effect) : Prop where
  phase : PhaseOk call (fs.apply e) p'
  effect : EffectOk call fs p p' e
  committed : resultOf p' = some (.ok .success) ↔
    resultOf p = some (.ok .success) ∨ committedBy e = true
  once : committedBy e = true → resultOf p ≠ some (.ok .success)
  live : isDone p = false

theorem apply_store (fs : FileSystem) (d : Name) (bytes : Bytes) :
    fs.apply (.store d bytes) d = some (.directory (some bytes)) := Function.update_self _ _ _

theorem apply_replace {fs : FileSystem} {d : Name} {bytes : Bytes}
    (h : fs d = some (.directory (some bytes))) (destination : Name) :
    fs.apply (.replace d destination) =
      Function.update (Function.update fs destination (some (.file bytes))) d
        (some (.directory none)) := by
  simp only [FileSystem.apply, h]

theorem renames_true {fs : FileSystem} {d destination : Name}
    (h : fs.renames d destination = true) :
    ∀ data, fs destination ≠ some (.directory data) := by
  intro data hdata
  unfold FileSystem.renames at h
  rw [hdata] at h
  cases h

theorem failure_ne_success {e : GefError} :
    (some (.ok (.failure e)) : Option SaveResult) ≠ some (.ok .success) := by
  intro h
  cases h

theorem thrown_ne_success {e : Exception} :
    (some (.error e) : Option SaveResult) ≠ some (.ok .success) := by
  intro h
  cases h

/-- A step that does not rename and ends on a result other than success. -/
theorem StepOk.of_result {call : SaveCall} {fs : FileSystem} {p p' : Phase} {e : Effect}
    (hp : PhaseOk call (fs.apply e) p') (he : EffectOk call fs p p' e) (hl : isDone p = false)
    (hc : committedBy e = false)
    (hr : resultOf p' = some (.ok .success) ↔ resultOf p = some (.ok .success)) :
    StepOk call fs p p' e :=
  ⟨hp, he, by rw [hr, hc]; simp, fun h => absurd (hc.symm.trans h) Bool.false_ne_true, hl⟩

theorem iff_of_ne {α : Type} {a b c : α} (h1 : a ≠ c) (h2 : b ≠ c) : a = c ↔ b = c :=
  ⟨fun h => absurd h h1, fun h => absurd h h2⟩

theorem none_ne_success : (none : Option SaveResult) ≠ some (.ok .success) := by
  intro h
  cases h

theorem callStep_ok {call : SaveCall} {fs : FileSystem} {p p' : Phase} {a : Act} {e : Effect}
    (hp : PhaseOk call fs p) (h : callStep call fs p a = some (p', e)) :
    StepOk call fs p p' e := by
  unfold callStep at h
  split at h
  -- start
  · cases h
    exact .of_result trivial rfl rfl rfl Iff.rfl
  -- create_directory
  · dsimp only at h
    split at h
    · split at h
      · rename_i hfree
        cases h
        exact .of_result ⟨_, Function.update_self _ _ _⟩ ⟨hfree, rfl, rfl⟩ rfl rfl Iff.rfl
      · cases h
    · split at h
      · cases h
        exact .of_result trivial rfl rfl rfl Iff.rfl
      · cases h
        exact .of_result trivial rfl rfl rfl (iff_of_ne failure_ne_success none_ne_success)
    · cases h
      exact .of_result trivial rfl rfl rfl (iff_of_ne failure_ne_success none_ne_success)
  · cases h
    exact .of_result trivial rfl rfl rfl (iff_of_ne thrown_ne_success none_ne_success)
  -- the open of the staged file
  · split at h
    · cases h
      exact .of_result ⟨apply_store _ _ _, fun _ => rfl⟩ ⟨rfl, rfl⟩ rfl rfl Iff.rfl
    · cases h
      exact .of_result hp rfl rfl rfl (iff_of_ne failure_ne_success none_ne_success)
  · rename_i d _ exists_ _
    cases h
    cases exists_ with
    | true =>
      exact .of_result ⟨_, apply_store _ _ _⟩ ⟨rfl, rfl⟩ rfl rfl
        (iff_of_ne thrown_ne_success none_ne_success)
    | false =>
      exact .of_result hp rfl rfl rfl (iff_of_ne thrown_ne_success none_ne_success)
  -- a write
  · rename_i d file chunk rest r
    cases h
    refine .of_result ⟨apply_store _ _ _, fun hf => ?_⟩ ⟨rfl, rfl⟩ rfl rfl Iff.rfl
    rw [OStream.content_write hf, ← hp.2 (OStream.failed_write hf), List.flatten_cons,
      List.append_assoc]
  -- flush
  · rename_i d file r
    cases h
    refine .of_result ⟨apply_store _ _ _, fun hf => ?_⟩ ⟨rfl, rfl⟩ rfl rfl Iff.rfl
    rw [Bool.not_eq_true'] at hf
    refine ⟨hf, ?_⟩
    have hfile : file.failed = false := OStream.failed_flush hf
    rw [OStream.content_flush, ← hp.2 hfile, List.flatten_nil, List.append_nil]
  · cases h
    exact .of_result ⟨_, apply_store _ _ _⟩ ⟨rfl, rfl⟩ rfl rfl
      (iff_of_ne thrown_ne_success none_ne_success)
  -- close
  · rename_i d file flushed r
    dsimp only at h
    split at h
    · rename_i hgood
      cases h
      obtain ⟨hfl, hfail⟩ := Bool.and_eq_true_iff.mp hgood
      rw [Bool.not_eq_true'] at hfail
      refine .of_result ?_ ⟨rfl, rfl⟩ rfl rfl Iff.rfl
      show fs.apply _ d = some (.directory (some call.bytes))
      rw [apply_store, OStream.close, OStream.disk_pushAll hfail, (hp.2 hfl).2]
    · cases h
      exact .of_result ⟨_, apply_store _ _ _⟩ ⟨rfl, rfl⟩ rfl rfl
        (iff_of_ne failure_ne_success none_ne_success)
  · cases h
    exact .of_result ⟨_, apply_store _ _ _⟩ ⟨rfl, rfl⟩ rfl rfl
      (iff_of_ne thrown_ne_success none_ne_success)
  -- rename
  · rename_i d renamed
    split at h
    · split at h
      · rename_i hren
        cases h
        refine ⟨⟨none, ?_⟩, ⟨rfl, rfl, rfl, hp, renames_true hren⟩, ?_, fun _ => none_ne_success, rfl⟩
        · show fs.apply _ d = _
          rw [apply_replace hp]
          exact Function.update_self _ _ _
        · exact ⟨fun _ => .inr rfl, fun _ => rfl⟩
      · cases h
    · cases h
      exact .of_result ⟨_, hp⟩ rfl rfl rfl (iff_of_ne failure_ne_success none_ne_success)
  · cases h
    exact .of_result ⟨_, hp⟩ rfl rfl rfl (iff_of_ne thrown_ne_success none_ne_success)
  -- the destructor of the staged file
  · split at h
    · cases h
      exact .of_result ⟨_, Function.update_self _ _ _⟩ ⟨rfl, rfl⟩ rfl rfl Iff.rfl
    · cases h
      exact .of_result hp (.inl rfl) rfl rfl Iff.rfl
    · cases h
      exact .of_result trivial (.inr ⟨rfl, rfl⟩) rfl rfl Iff.rfl
  · split at h
    · split at h
      · cases h
        exact .of_result trivial ⟨rfl, rfl, rfl⟩ rfl rfl Iff.rfl
      · cases h
    · cases h
      exact .of_result trivial (.inr ⟨rfl, rfl⟩) rfl rfl Iff.rfl
    · cases h
      exact .of_result trivial (.inr ⟨rfl, rfl⟩) rfl rfl Iff.rfl
  · cases h

/-! ## What an effect leaves alone -/

theorem ne_of_some {o : Option Name} {d n : Name} (hd : o = some d) (hn : o ≠ some n) : n ≠ d :=
  fun h => hn (by rw [hd, h])

section Frame

variable {call : SaveCall} {fs : FileSystem} {p p' : Phase} {e : Effect}

/-- A step changes its call's directory and its destination only. -/
theorem apply_frame (he : EffectOk call fs p p' e) {n : Name} (hp : directoryOf p ≠ some n)
    (hp' : directoryOf p' ≠ some n) (hdest : n ≠ call.destination) : fs.apply e n = fs n := by
  cases e with
  | none | removalFailed => rfl
  | createDirectory d =>
    exact Function.update_of_ne (ne_of_some he.2.2 hp') _ _
  | store d _ | removeFile d | removeDirectory d =>
    exact Function.update_of_ne (ne_of_some he.1 hp) _ _
  | replace d destination =>
    obtain ⟨hd, -, rfl, hfs, -⟩ := he
    rw [apply_replace hfs, Function.update_of_ne (ne_of_some hd hp),
      Function.update_of_ne hdest]

/-- Directories of other calls are never the destination that a step replaces. -/
theorem apply_directory (he : EffectOk call fs p p' e) {n : Name} {data : Option Bytes}
    (hn : fs n = some (.directory data)) (hp : directoryOf p ≠ some n) :
    fs.apply e n = fs n := by
  cases e with
  | none | removalFailed => rfl
  | createDirectory d =>
    refine Function.update_of_ne (fun h => ?_) _ _
    rw [h, he.1] at hn
    cases hn
  | store d _ | removeFile d | removeDirectory d =>
    exact Function.update_of_ne (ne_of_some he.1 hp) _ _
  | replace d destination =>
    obtain ⟨hd, -, -, hfs, hdest⟩ := he
    have hne : n ≠ destination := fun h => hdest data (h ▸ hn)
    rw [apply_replace hfs, Function.update_of_ne (ne_of_some hd hp), Function.update_of_ne hne]

/-- Only a rename changes a content: its destination's, to the complete encoding. -/
theorem content_apply (hp : PhaseOk call fs p) (he : EffectOk call fs p p' e) (n : Name) :
    content (fs.apply e n) =
      if committedBy e = true ∧ n = call.destination then some call.bytes else content (fs n) := by
  -- A directory has no content, before and after.
  have hdir : ∀ d node, directoryOf p = some d → content node = none →
      content (Function.update fs d node n) = content (fs n) := by
    intro d node hd hnode
    by_cases hn : n = d
    · obtain ⟨data, hdata⟩ := hp.directory hd
      rw [hn, Function.update_self, hdata, hnode]
      rfl
    · rw [Function.update_of_ne hn]
  cases e with
  | none | removalFailed => rfl
  | createDirectory d =>
    show content (Function.update fs d _ n) = content (fs n)
    by_cases hn : n = d
    · rw [hn, Function.update_self, he.1]
      rfl
    · rw [Function.update_of_ne hn]
  | store d _ | removeFile d | removeDirectory d => exact hdir d _ he.1 rfl
  | replace d destination =>
    obtain ⟨hd, -, rfl, hfs, hdest⟩ := he
    rw [apply_replace hfs]
    by_cases hn : n = d
    · have hne : d ≠ call.destination := fun h => hdest _ (h ▸ hfs)
      rw [hn, Function.update_self, if_neg fun h => hne h.2, hfs]
      rfl
    · rw [Function.update_of_ne hn]
      by_cases hn' : n = call.destination
      · rw [hn', Function.update_self, if_pos ⟨rfl, rfl⟩]
        rfl
      · rw [Function.update_of_ne hn', if_neg fun h => hn' h.2]

end Frame

/-! ## All calls -/

/-- What holds in every reachable state of the calls. -/
structure Inv (calls : Nat → SaveCall) (before : FileSystem) (s : SaveState) : Prop where
  owned : ∀ i d, directoryOf (s.phase i) = some d → s.owner d = some i
  owns : ∀ i d, s.owner d = some i →
    directoryOf (s.phase i) = some d ∨ isDone (s.phase i) = true ∧ s.leftover i = true
  directories : ∀ i d, s.owner d = some i → ∃ data, s.fs d = some (.directory data)
  phases : ∀ i, PhaseOk (calls i) s.fs (s.phase i)
  committed : ∀ i, i ∈ s.commits ↔ resultOf (s.phase i) = some (.ok .success)
  nodup : s.commits.Nodup
  contents : ∀ n, content (s.fs n) = saved calls before s.commits n

theorem inv_initial (calls : Nat → SaveCall) (fs : FileSystem) :
    Inv calls fs (SaveState.initial fs) where
  owned _ _ h := by cases h
  owns _ _ h := by cases h
  directories _ _ h := by cases h
  phases _ := trivial
  committed _ := ⟨fun h => absurd h List.not_mem_nil, fun h => by cases h⟩
  nodup := List.nodup_nil
  contents _ := rfl

section Step

variable {calls : Nat → SaveCall} {before : FileSystem} {s : SaveState} {i : Nat} {p : Phase}
  {e : Effect}

theorem phase_record_self (s : SaveState) (i : Nat) (p : Phase) (e : Effect) :
    (s.record i p e).phase i = p := Function.update_self _ _ _

theorem phase_record_ne (s : SaveState) {i j : Nat} (h : j ≠ i) (p : Phase) (e : Effect) :
    (s.record i p e).phase j = s.phase j := Function.update_of_ne h _ _

/-- The owner of a name after a step of call `i`. -/
theorem owner_record (he : EffectOk (calls i) s.fs (s.phase i) p e) {d : Name} {j : Nat}
    (h : (s.record i p e).owner d = some j) :
    s.owner d = some j ∨ j = i ∧ directoryOf p = some d ∧ s.fs d = none := by
  cases e with
  | createDirectory d' =>
    by_cases hd : d = d'
    · subst hd
      rw [show (s.record i p (.createDirectory d)).owner d = some i from Function.update_self _ _ _]
        at h
      exact .inr ⟨(Option.some.inj h).symm, he.2.2, he.1⟩
    · exact .inl ((Function.update_of_ne hd _ _).symm.trans h)
  | removeDirectory d' =>
    by_cases hd : d = d'
    · subst hd
      rw [show (s.record i p (.removeDirectory d)).owner d = none from Function.update_self _ _ _]
        at h
      cases h
    · exact .inl ((Function.update_of_ne hd _ _).symm.trans h)
  | none | store | replace | removeFile | removalFailed => exact .inl h

/-- A name that a step of call `i` releases was in `i`'s phase, and no longer is. -/
theorem owner_record_keep (he : EffectOk (calls i) s.fs (s.phase i) p e) {d : Name} {j : Nat}
    (h : s.owner d = some j) (hdir : ∀ i d, s.owner d = some i → s.fs d ≠ none)
    (hkeep : directoryOf (s.phase i) ≠ some d ∨ directoryOf p = some d) :
    (s.record i p e).owner d = some j := by
  cases e with
  | createDirectory d' =>
    have hd : d ≠ d' := fun hd => hdir j d h (hd ▸ he.1)
    exact (Function.update_of_ne hd _ _).trans h
  | removeDirectory d' =>
    have hd : d ≠ d' := by
      rintro rfl
      rcases hkeep with hk | hk
      · exact hk he.1
      · rw [he.2.1] at hk
        cases hk
    exact (Function.update_of_ne hd _ _).trans h
  | none | store | replace | removeFile | removalFailed => exact h

theorem Inv.exists_of_owner (h : Inv calls before s) {j : Nat} {d : Name}
    (ho : s.owner d = some j) : s.fs d ≠ none := fun hn => by
  obtain ⟨data, hdata⟩ := h.directories j d ho
  rw [hdata] at hn
  cases hn

/-- Another call's directory is not the one that call `i` works in. -/
theorem Inv.directory_ne (h : Inv calls before s) {j : Nat} {d : Name} (hj : j ≠ i)
    (ho : s.owner d = some j) : directoryOf (s.phase i) ≠ some d :=
  fun hd => hj (Option.some.inj (ho.symm.trans (h.owned i d hd)))

theorem Inv.record_owned (h : Inv calls before s)
    (he : EffectOk (calls i) s.fs (s.phase i) p e) (j : Nat) (d : Name)
    (hd : directoryOf ((s.record i p e).phase j) = some d) :
    (s.record i p e).owner d = some j := by
  have hexists := fun j d (ho : s.owner d = some j) => h.exists_of_owner ho
  by_cases hj : j = i
  · subst hj
    rw [phase_record_self] at hd
    by_cases hold : directoryOf (s.phase j) = some d
    · exact owner_record_keep he (h.owned j d hold) hexists (.inr hd)
    · -- The directory is new, so this step created it.
      cases e with
      | createDirectory d' =>
        rw [he.2.2] at hd
        cases hd
        exact Function.update_self _ _ _
      | none => exact absurd (he.symm.trans hd) hold
      | store | removeFile => exact absurd (he.1.trans (he.2.symm.trans hd)) hold
      | replace => exact absurd (he.1.trans (he.2.1.symm.trans hd)) hold
      | removeDirectory => exact absurd (he.2.1.symm.trans hd) (by intro hc; cases hc)
      | removalFailed =>
        rcases he with he | he
        · exact absurd (he.symm.trans hd) hold
        · exact absurd (he.1.symm.trans hd) (by intro hc; cases hc)
  · rw [phase_record_ne s hj] at hd
    have ho := h.owned j d hd
    exact owner_record_keep he ho hexists (.inl (h.directory_ne hj ho))

/-- A call that owned a directory before its step still works in it, or met a failing removal. -/
theorem Inv.record_kept (h : Inv calls before s) (hok : StepOk (calls i) s.fs (s.phase i) p e)
    {d : Name} (hold : s.owner d = some i) (ho : (s.record i p e).owner d = some i) :
    directoryOf p = some d ∨ isDone p = true ∧ (s.record i p e).leftover i = true ∧
      e = .removalFailed := by
  have he := hok.effect
  rcases h.owns i d hold with hd | ⟨hdone, -⟩
  · cases e with
    | createDirectory d' =>
      rw [he.2.1] at hd
      cases hd
    | none => exact .inl (he.trans hd)
    | store | removeFile => exact .inl (he.2.trans (he.1.symm.trans hd))
    | replace => exact .inl (he.2.1.trans (he.1.symm.trans hd))
    | removeDirectory d' =>
      rw [he.1] at hd
      cases hd
      rw [show (s.record i p (.removeDirectory d)).owner d = none from
        Function.update_self _ _ _] at ho
      cases ho
    | removalFailed =>
      rcases he with he | he
      · exact .inl (he.trans hd)
      · exact .inr ⟨he.2, Function.update_self _ _ _, rfl⟩
  · exact absurd hdone (by rw [hok.live]; exact Bool.false_ne_true)

theorem Inv.record_owns (h : Inv calls before s) (hok : StepOk (calls i) s.fs (s.phase i) p e)
    (j : Nat) (d : Name) (ho : (s.record i p e).owner d = some j) :
    directoryOf ((s.record i p e).phase j) = some d ∨
      isDone ((s.record i p e).phase j) = true ∧ (s.record i p e).leftover j = true := by
  rcases owner_record hok.effect ho with hold | ⟨rfl, hnew, -⟩
  · by_cases hj : j = i
    · subst hj
      rw [phase_record_self]
      rcases h.record_kept hok hold ho with hd | ⟨hdone, hleft, -⟩
      · exact .inl hd
      · exact .inr ⟨hdone, hleft⟩
    · rw [phase_record_ne s hj]
      rcases h.owns j d hold with hd | ⟨hdone, hleft⟩
      · exact .inl hd
      · refine .inr ⟨hdone, ?_⟩
        cases e with
        | removalFailed => exact (Function.update_of_ne hj _ _).trans hleft
        | none | createDirectory | store | replace | removeFile | removeDirectory => exact hleft
  · rw [phase_record_self]
    exact .inl hnew

theorem Inv.record_directories (h : Inv calls before s)
    (hok : StepOk (calls i) s.fs (s.phase i) p e) (j : Nat) (d : Name)
    (ho : (s.record i p e).owner d = some j) :
    ∃ data, (s.record i p e).fs d = some (.directory data) := by
  by_cases hp : directoryOf p = some d
  · exact hok.phase.directory hp
  · rcases owner_record hok.effect ho with hold | ⟨-, hnew, -⟩
    · obtain ⟨data, hdata⟩ := h.directories j d hold
      by_cases hj : j = i
      · subst hj
        rcases h.record_kept hok hold ho with hd | ⟨-, -, rfl⟩
        · exact absurd hd hp
        · exact ⟨data, hdata⟩
      · exact ⟨data, (apply_directory hok.effect hdata (h.directory_ne hj hold)).trans hdata⟩
    · exact absurd hnew hp

theorem Inv.record_phases (h : Inv calls before s) (hok : StepOk (calls i) s.fs (s.phase i) p e)
    (j : Nat) : PhaseOk (calls j) (s.record i p e).fs ((s.record i p e).phase j) := by
  by_cases hj : j = i
  · subst hj
    rw [phase_record_self]
    exact hok.phase
  · rw [phase_record_ne s hj]
    refine (h.phases j).frame fun d hd => ?_
    have ho := h.owned j d hd
    obtain ⟨data, hdata⟩ := h.directories j d ho
    exact apply_directory hok.effect hdata (h.directory_ne hj ho)

theorem commits_record (s : SaveState) (i : Nat) (p : Phase) (e : Effect) :
    (s.record i p e).commits = if committedBy e then i :: s.commits else s.commits := by
  cases e <;> rfl

theorem Inv.record_committed (h : Inv calls before s)
    (hok : StepOk (calls i) s.fs (s.phase i) p e) (j : Nat) :
    j ∈ (s.record i p e).commits ↔
      resultOf ((s.record i p e).phase j) = some (.ok .success) := by
  rw [commits_record]
  by_cases hj : j = i
  · subst hj
    rw [phase_record_self, hok.committed, ← h.committed]
    cases committedBy e <;> simp
  · rw [phase_record_ne s hj, ← h.committed]
    cases committedBy e <;> simp [hj]

theorem Inv.record_nodup (h : Inv calls before s) (hok : StepOk (calls i) s.fs (s.phase i) p e) :
    (s.record i p e).commits.Nodup := by
  rw [commits_record]
  split
  · rename_i hc
    exact List.nodup_cons.mpr ⟨fun hm => hok.once hc ((h.committed i).mp hm), h.nodup⟩
  · exact h.nodup

theorem Inv.record_contents (h : Inv calls before s)
    (hok : StepOk (calls i) s.fs (s.phase i) p e) (n : Name) :
    content ((s.record i p e).fs n) = saved calls before (s.record i p e).commits n := by
  show content (s.fs.apply e n) = _
  rw [content_apply (h.phases i) hok.effect, h.contents, commits_record]
  cases committedBy e with
  | false => rfl
  | true =>
    rw [if_pos rfl, saved]
    simp only [true_and]

theorem Inv.step {s' : SaveState} {a : Nat × Act} (h : Inv calls before s)
    (hstep : saveStep calls s a = some s') : Inv calls before s' := by
  obtain ⟨⟨p, e⟩, hcall, rfl⟩ := Option.map_eq_some_iff.mp hstep
  have hok := callStep_ok (h.phases a.1) hcall
  exact ⟨h.record_owned hok.effect, h.record_owns hok, h.record_directories hok,
    h.record_phases hok, h.record_committed hok, h.record_nodup hok, h.record_contents hok⟩

/-- A step of call `i` changes its destination, a directory it created before, or one it creates
where nothing was. -/
theorem Inv.frame {s' : SaveState} {i : Nat} {act : Act} (h : Inv calls before s)
    (hstep : saveStep calls s (i, act) = some s') (n : Name) (hn : s'.fs n ≠ s.fs n) :
    n = (calls i).destination ∨ s.owner n = some i ∨
      s.owner n = none ∧ s.fs n = none ∧ s'.owner n = some i := by
  have h' := h.step hstep
  obtain ⟨⟨p, e⟩, hcall, rfl⟩ := Option.map_eq_some_iff.mp hstep
  have hok := callStep_ok (h.phases i) hcall
  by_cases hdest : n = (calls i).destination
  · exact .inl hdest
  by_cases hp : directoryOf (s.phase i) = some n
  · exact .inr (.inl (h.owned i n hp))
  by_cases hp' : directoryOf p = some n
  · have ho := h'.owned i n (by rw [phase_record_self]; exact hp')
    rcases owner_record hok.effect ho with hold | ⟨-, -, hfree⟩
    · exact .inr (.inl hold)
    · refine .inr (.inr ⟨?_, hfree, ho⟩)
      cases hown : s.owner n with
      | none => rfl
      | some j => exact absurd hfree (h.exists_of_owner hown)
  · exact absurd (apply_frame hok.effect hp hp' hdest) hn

end Step

/-! ## Saves of controllers -/

theorem emitted_completes (host : Bool) (c : Saved) : (c.emitted host).ended = .ok () := by
  cases c with
  | bin c h =>
    obtain ⟨bs, rfl⟩ := h
    exact congrArg Emitted.ended (emitted_store host bs)
  | csv c => rfl

/-- The call of `writeAtomic` on a controller. -/
def writeAtomic (host : Bool) (c : Saved) (destination : Name) : SaveCall where
  destination := destination
  emitted := c.emitted host
  completes := emitted_completes host c
  openFailure := c.openFailure

/-- What plain `write` leaves when it succeeds. -/
theorem write_saved {host : Bool} {c : Saved} {env : WriteEnv} {before : Option Bytes}
    {file : Bytes} (h : c.write host env before = (some file, .ok .success)) (destination : Name) :
    file = (writeAtomic host c destination).bytes := by
  cases c with
  | bin c hc => exact Option.some.inj (save_success h)
  | csv c => exact Option.some.inj (save_success (e := c.emitted) h)

/-- Concurrent atomic saves, in every state that any interleaving of their steps and any results
and exceptions of their system calls reach from a directory `before`: each destination holds
what the last finished save to it has saved, else what it held before, and what is saved is what
plain `write` leaves; a call that reports success has finished its save, once, and any other has
not; a step changes its call's destination or a directory the call created, nothing else; and a
call that is done has left nothing behind unless a removal failed. -/
theorem atomicWrite_all_or_nothing (host : Bool) (controllers : Nat → Saved)
    (destinations : Nat → Name) (before : FileSystem) (acts : List (Nat × Act)) (s : SaveState)
    (hrun : run (saveStep fun i => writeAtomic host (controllers i) (destinations i))
      (SaveState.initial before) acts = some s) :
    let calls := fun i => writeAtomic host (controllers i) (destinations i)
    (∀ n, content (s.fs n) = saved calls before s.commits n) ∧
    (∀ i env held file, (controllers i).write host env held = (some file, .ok .success) →
      file = (calls i).bytes) ∧
    (∀ i r, s.phase i = .done r →
      (r = .ok .success → s.commits.count i = 1) ∧ (r ≠ .ok .success → i ∉ s.commits)) ∧
    (∀ i act s', saveStep calls s (i, act) = some s' → ∀ n, s'.fs n ≠ s.fs n →
      n = destinations i ∨ s.owner n = some i ∨
        s.owner n = none ∧ s.fs n = none ∧ s'.owner n = some i) ∧
    (∀ i r, s.phase i = .done r → s.leftover i = false → ∀ n, s.owner n ≠ some i) := by
  intro calls
  have hinv : Inv calls before s :=
    run_invariant (fun _ _ _ h hs => h.step hs) (inv_initial calls before) hrun
  refine ⟨hinv.contents, fun i env held file h => write_saved h (destinations i),
    fun i r hi => ⟨fun hr => ?_, fun hr hm => ?_⟩, fun i act s' hs n hn => hinv.frame hs n hn,
    fun i r hi hleft n ho => ?_⟩
  · refine List.count_eq_one_of_mem hinv.nodup ((hinv.committed i).mpr ?_)
    rw [hi, hr]
    rfl
  · have hres := (hinv.committed i).mp hm
    rw [hi] at hres
    exact hr (Option.some.inj hres)
  · rcases hinv.owns i n ho with hd | ⟨-, hleft'⟩
    · rw [hi] at hd
      cases hd
    · rw [hleft] at hleft'
      cases hleft'

/-- The steps of one save of a table with one cell. -/
def oneSave : List (Nat × Act) :=
  [(0, .start), (0, .createDirectory 7 0 .created), (0, .openFile true), (0, .write ⟨true, 1⟩),
    (0, .write ⟨true, 0⟩), (0, .write ⟨true, 9⟩), (0, .flush ⟨true, 0⟩), (0, .close ⟨true, 0⟩),
    (0, .rename true), (0, .removeFile .removed), (0, .removeDirectory .removed)]

/-- The save of `oneSave` into an empty directory. -/
def savedOne : Option SaveState :=
  run (saveStep fun i => writeAtomic false ((fun _ => Saved.csv ⟨[[[0x61]]]⟩) i)
    ((fun _ => "out") i)) (SaveState.initial fun _ => none) oneSave

theorem atomicWrite_one_save :
    ∃ s, savedOne = some s ∧ s.phase 0 = .done (.ok .success) ∧ s.commits.count 0 = 1 := by
  have hrun : savedOne = some (savedOne.get (by decide +kernel)) := (Option.some_get _).symm
  have hdone : (savedOne.get (by decide +kernel)).phase 0 = .done (.ok .success) := by
    decide +kernel
  have h := atomicWrite_all_or_nothing false (fun _ => Saved.csv ⟨[[[0x61]]]⟩) (fun _ => "out")
    (fun _ => none) oneSave _ hrun
  exact ⟨_, hrun, hdone, (h.2.2.1 0 _ hdone).1 rfl⟩

end WSE.Proof.Gef
