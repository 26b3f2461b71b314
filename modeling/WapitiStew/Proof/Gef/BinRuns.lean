import Mathlib.Data.List.Induction
import WapitiStew.Proof.Gef.BinRead
import WapitiStew.Proof.Gef.BinRoundTrip
import WapitiStew.Spec.Gef.Bin

/-!
# The BIN store over whole runs

Every call on controllers that hold block sequences leaves controllers that hold
block sequences, with the effect of the call on these (`perform_effect`). So
after any run each object represents the blocks of its history
(`run_history`), and `bin_store_invariant` reads the order list, the vectors and
`contents` off that representation.
-/

namespace WSE.Proof.Gef

open WSE.Framework WSE.Impl.Gef WSE.Spec.Gef

/-- Every object holds its block sequence. -/
def Represents (objs : Objects) (blocks : Blocks) : Prop := ∀ x, objs x = (blocks x).map store

theorem Represents.set {objs : Objects} {blocks : Blocks} (h : Represents objs blocks) (x : Nat)
    (bs : Option (List Block)) : Represents (objs.set x (bs.map store)) (blocks.set x bs) := by
  intro y
  unfold Objects.set Blocks.set
  by_cases hy : y = x
  · subst hy
    rw [Function.update_self, Function.update_self]
  · rw [Function.update_of_ne hy, Function.update_of_ne hy, h y]

theorem Represents.some {objs : Objects} {blocks : Blocks} (h : Represents objs blocks) {x : Nat}
    {c : BINController} (hx : objs x = some c) : ∃ bs, blocks x = some bs ∧ c = store bs := by
  rw [h x] at hx
  obtain ⟨bs, hbs, rfl⟩ := Option.map_eq_some_iff.mp hx
  exact ⟨bs, hbs, rfl⟩

/-- Setting an object to what it is changes nothing. -/
theorem set_self {objs : Objects} {x : Nat} {c : BINController} (h : objs x = some c) :
    objs.set x (some c) = objs := by
  rw [← h]
  exact Function.update_eq_self x objs

/-- A call on one object, given what it does to a controller that holds blocks. -/
theorem performOn_effect {objs objs' : Objects} {blocks : Blocks} {x : Nat} {op : BinOp}
    {outcome : Outcome} {f : BINController → BINController × Outcome}
    (hr : Represents objs blocks) (h : performOn objs x f = some (objs', outcome))
    (hf : ∀ bs, blocks x = some bs →
      (f (store bs)).2 ≠ .ok .success ∧ (f (store bs)).1 = store bs ∨
      ∃ bs', (f (store bs)).1 = store bs' ∧
        Effect op (f (store bs)).2 blocks (blocks.set x (some bs'))) :
    ∃ blocks', Represents objs' blocks' ∧ Effect op outcome blocks blocks' := by
  obtain ⟨c, hx, he⟩ := Option.map_eq_some_iff.mp h
  obtain ⟨bs, hbs, rfl⟩ := hr.some hx
  obtain ⟨rfl, rfl⟩ := Prod.mk.inj he
  rcases hf bs hbs with ⟨hne, hsame⟩ | ⟨bs', hc, heff⟩
  · refine ⟨blocks, ?_, .refused hne⟩
    rw [hsame, set_self hx]
    exact hr
  · refine ⟨_, ?_, heff⟩
    rw [hc]
    exact hr.set x (some bs')

theorem readWithLimits_effect (env : ReadEnv) (input : InputFile) (limits : ReadLimits)
    (c : BINController) :
    ((c.readWithLimits env input limits).result ≠ .ok .success ∧
      (c.readWithLimits env input limits).controller = c) ∨
    ∃ bs, (c.readWithLimits env input limits).result = .ok .success ∧
      (c.readWithLimits env input limits).controller = store bs ∧ input.bytes = encode bs := by
  rcases readWithLimits_cases env input limits c with ⟨bs, hb, -, hok⟩ | ⟨r, hr, hne, -⟩
  · rw [hok]
    exact .inr ⟨bs, rfl, rfl, hb⟩
  · rw [hr]
    exact .inl ⟨hne, rfl⟩

theorem perform_effect {objs objs' : Objects} {blocks : Blocks} {op : BinOp} {outcome : Outcome}
    (hr : Represents objs blocks) (h : perform objs op = some (objs', outcome)) :
    ∃ blocks', Represents objs' blocks' ∧ Effect op outcome blocks blocks' := by
  cases op with
  | construct x =>
    dsimp only [perform] at h
    split at h
    · cases h
    · cases h
      exact ⟨_, hr.set x (some []), .construct x⟩
  | setContents x env t values =>
    refine performOn_effect hr h fun bs hbs => ?_
    rcases setContents_store env bs t values with ⟨e, he⟩ | ⟨hb, hok⟩
    · refine .inl ⟨?_, ?_⟩
      · rw [he]
        intro hc
        cases hc
      · rw [he]
    · refine .inr ⟨_, congrArg Prod.fst hok, ?_⟩
      rw [hok]
      exact .setContents env t values hb hbs
  | read x env input =>
    refine performOn_effect hr h fun bs hbs => ?_
    rcases readWithLimits_effect env input .unlimited (store bs) with hno | ⟨bs', hok, hc, hb⟩
    · exact .inl hno
    · refine .inr ⟨bs', hc, ?_⟩
      dsimp only [BINController.read]
      rw [hok]
      exact .read env input hb
  | readWithLimits x env input limits =>
    refine performOn_effect hr h fun bs hbs => ?_
    rcases readWithLimits_effect env input limits (store bs) with hno | ⟨bs', hok, hc, hb⟩
    · exact .inl hno
    · refine .inr ⟨bs', hc, ?_⟩
      dsimp only
      rw [hok]
      exact .readWithLimits env input limits hb
  | copyConstruct x y allocates =>
    dsimp only [perform] at h
    split at h
    · rename_i c hx hy
      obtain ⟨bs, hbs, rfl⟩ := hr.some hy
      cases allocates with
      | false =>
        cases h
        exact ⟨blocks, hr, .refused (by intro h; cases h)⟩
      | true =>
        cases h
        exact ⟨_, hr.set x (some bs), .copyConstruct true hbs⟩
    · cases h
  | moveConstruct x y =>
    dsimp only [perform] at h
    split at h
    · rename_i c hx hy
      obtain ⟨bs, hbs, rfl⟩ := hr.some hy
      cases h
      exact ⟨_, (hr.set y (some [])).set x (some bs), .moveConstruct hbs⟩
    · cases h
  | copyAssign x y allocates =>
    dsimp only [perform] at h
    split at h
    · rename_i c d hx hy
      obtain ⟨bs, hbs, rfl⟩ := hr.some hy
      cases allocates with
      | false =>
        cases h
        exact ⟨blocks, hr, .refused (by intro h; cases h)⟩
      | true =>
        cases h
        exact ⟨_, hr.set x (some bs), .copyAssign true hbs⟩
    · cases h
  | moveAssign x y =>
    dsimp only [perform] at h
    split at h
    · rename_i c d hx hy
      obtain ⟨bs, hbs, rfl⟩ := hr.some hy
      obtain ⟨this, hthis, he⟩ := Option.map_eq_some_iff.mp h
      cases he
      exact ⟨_, (hr.set y (some [])).set x (some bs), .moveAssign hbs⟩
    · cases h
  | swap x y =>
    dsimp only [perform] at h
    split at h
    · rename_i c d hx hy
      obtain ⟨as, has, rfl⟩ := hr.some hx
      obtain ⟨bs, hbs, rfl⟩ := hr.some hy
      cases h
      exact ⟨_, (hr.set x (some bs)).set y (some as), .swap has hbs⟩
    · cases h
  | destroy x =>
    obtain ⟨c, hx, he⟩ := Option.map_eq_some_iff.mp h
    cases he
    exact ⟨_, hr.set x none, .destroy x⟩

/-- After any run each object holds the blocks of its history. By induction on the calls. -/
theorem run_history {calls : List (BinOp × Outcome)} {objs : Objects}
    (h : run objectStep (fun _ => none) calls = some objs) :
    ∃ blocks, History calls blocks ∧ Represents objs blocks := by
  induction calls using List.reverseRecOn generalizing objs with
  | nil =>
    cases h
    exact ⟨_, .nil, fun _ => rfl⟩
  | append_singleton calls call ih =>
    obtain ⟨objs', hrun, hstep⟩ := run_snoc.mp h
    obtain ⟨blocks, hhist, hr⟩ := ih hrun
    unfold objectStep at hstep
    split at hstep
    · cases hstep
    · rename_i objs'' outcome hp
      split at hstep
      · rename_i hout
        cases hstep
        obtain ⟨blocks', hr', heff⟩ := perform_effect hr hp
        rw [hout] at heff
        exact ⟨blocks', hhist.snoc heff, hr'⟩
      · cases hstep

/-- In every state of every run, each live controller holds the block sequence `bs` that its
history built: the order list has an entry for every block, the vector of each type holds index
`i` once for every element of block `i` and nothing else, `write` stays inside the vectors, and
`contents` returns the elements of block `i`, and none past the last block. -/
theorem bin_store_invariant (calls : List (BinOp × Outcome)) (objs : Objects)
    (hrun : run objectStep (fun _ => none) calls = some objs) :
    ∃ blocks, History calls blocks ∧ ∀ x c, objs x = some c →
      ∃ bs, blocks x = some bs ∧ c.indexNum = bs.length ∧ c.orderList.length = c.indexNum ∧
        (∀ t, (c.slot t).map Prod.fst = c.orderList.zipIdx.flatMap fun o =>
          if o.1.1 = t.category then List.replicate o.1.2 o.2 else []) ∧
        (∀ isBigEndian, (c.emitted isBigEndian).ended = .ok ()) ∧
        (∀ {τ : Type} (cast : (t : ElementType) → Element t → τ) (i : Nat),
          (∀ h : i < bs.length, c.contents cast i = bs[i].elements.map (cast bs[i].type)) ∧
          (c.indexNum ≤ i → c.contents cast i = [])) := by
  obtain ⟨blocks, hhist, hr⟩ := run_history hrun
  refine ⟨blocks, hhist, fun x c hx => ?_⟩
  obtain ⟨bs, hbs, rfl⟩ := hr.some hx
  refine ⟨bs, hbs, rfl, List.length_map _, indices_store bs, fun isBigEndian => ?_,
    fun cast i => ⟨fun hi => ?_, fun hi => ?_⟩⟩
  · rw [emitted_store]
  · rw [contents_store, blockContents, List.getElem?_eq_getElem hi]
  · rw [contents_store, blockContents, List.getElem?_eq_none hi]

/-- Two blocks, the second of them empty, in a controller that is then moved. -/
theorem bin_store_invariant_moved :
    ∃ objs blocks, ∃ calls : List (BinOp × Outcome), calls.length = 4 ∧
      run objectStep (fun _ => none) calls = some objs ∧ History calls blocks ∧
      ∀ x c, objs x = some c → c.orderList.length = c.indexNum := by
  let env : AppendEnv := ⟨0, 0, true, true, fun _ => true⟩
  let calls : List (BinOp × Outcome) :=
    [(.construct 0, .ok .success), (.setContents 0 env .int16 [258#16, 7#16], .ok .success),
      (.setContents 0 env .uint8 [], .ok .success), (.moveConstruct 1 0, .ok .success)]
  obtain ⟨blocks, hhist, hall⟩ := bin_store_invariant calls _ rfl
  refine ⟨_, blocks, calls, rfl, rfl, hhist, fun x c hx => ?_⟩
  obtain ⟨bs, -, -, hlen, -⟩ := hall x c hx
  exact hlen

end WSE.Proof.Gef
