import WapitiStew.Spec.Log.LogMessages

/-!
# The builder and the runtime agree on the limits

A valid builder counts its bytes exactly and inside the limit (`Sound`). An append that exceeds a
limit makes it invalid and leaves the parts (`appendText_refused`, `appendControl_refused`), any
other adds its text or makes it invalid (`appendText_cases`); no size wraps on the way
(`builder_step`). The runtime adds up the same bytes (`foldlM_partBytes`).
-/

namespace WSE.Proof.Log

open WSE.Framework WSE.Impl.Log WSE.Spec.Log LogMessageBuilder

variable {endLine : Bytes} {b b' : LogMessageBuilder} {text : Bytes}

/-! ## Parts -/

/-- A part that the builder makes. -/
def Built (p : LogPart) : Prop := p.kind = .text ∨ p.kind = .newLine ∧ p.text = []

@[simp] theorem bytesOf_nil : bytesOf endLine [] = 0 := rfl

@[simp] theorem bytesOf_append (ps qs : List LogPart) :
    bytesOf endLine (ps ++ qs) = bytesOf endLine ps + bytesOf endLine qs := by
  rw [bytesOf, List.map_append, List.sum_append]
  rfl

theorem bytesOf_text {kind : LogPartKind} (h : kind = .text) (text : Bytes) :
    bytesOf endLine [⟨kind, text⟩] = text.length := by
  simp [bytesOf, h]

theorem bytesOf_newLine : bytesOf endLine [{ kind := .newLine }] = endLine.length := by
  simp [bytesOf]

theorem appendBack_concat (ps : List LogPart) (p : LogPart) (text : Bytes) :
    appendBack (ps ++ [p]) text = ps ++ [{ p with text := p.text ++ text }] := by
  rw [appendBack, List.dropLast_concat, List.getLast?_concat]
  rfl

/-- The parts with a text part at the end. -/
def openParts (b : LogMessageBuilder) : List LogPart :=
  if b.needsPart then b.parts ++ [{ kind := .text }] else b.parts

theorem openParts_concat (endLine : Bytes) (b : LogMessageBuilder) : ∃ ps p, openParts b = ps ++ [p] ∧
    p.kind = .text ∧ bytesOf endLine (openParts b) = bytesOf endLine b.parts ∧
    (∀ q ∈ openParts b, q ∈ b.parts ∨ Built q) ∧
    (openParts b).length = b.parts.length + if b.needsPart then 1 else 0 := by
  unfold openParts
  split
  · refine ⟨b.parts, _, rfl, rfl, ?_, fun q hq => ?_, List.length_append⟩
    · rw [bytesOf_append, bytesOf_text rfl []]
      rfl
    · rcases List.mem_append.mp hq with hq | hq
      · exact .inl hq
      · rw [List.mem_singleton.mp hq]
        exact .inr (.inl rfl)
  · rename_i hn
    have hne : b.parts ≠ [] := by
      intro hnil
      rw [needsPart, hnil] at hn
      exact hn rfl
    have hlast := List.dropLast_append_getLast hne
    refine ⟨b.parts.dropLast, b.parts.getLast hne, hlast.symm, ?_, rfl, fun q hq => .inl hq, rfl⟩
    rw [needsPart, List.getLast?_eq_getLast_of_ne_nil hne, Option.all_some] at hn
    simpa using hn

/-! ## The state of a builder -/

structure Sound (endLine : Bytes) (b : LogMessageBuilder) : Prop where
  limit : b.byteLimit < 2 ^ 64
  bytes : b.bytes ≤ b.byteLimit
  counted : b.isValid = true → b.bytes = bytesOf endLine b.parts
  parts : b.isValid = true → b.parts.length ≤ b.partLimit
  built : b.isValid = true → ∀ p ∈ b.parts, Built p

theorem Sound.invalid (h : Sound endLine b) (hl : b'.byteLimit = b.byteLimit)
    (hb : b'.bytes = b.bytes) (hv : b'.isValid = false) : Sound endLine b' where
  limit := hl ▸ h.limit
  bytes := by
    rw [hl, hb]
    exact h.bytes
  counted ht := absurd (hv.symm.trans ht) Bool.noConfusion
  parts ht := absurd (hv.symm.trans ht) Bool.noConfusion
  built ht := absurd (hv.symm.trans ht) Bool.noConfusion

theorem sound_make (separate : Int32) (byteLimit partLimit : UInt64) :
    Sound endLine (make separate byteLimit partLimit) where
  limit := byteLimit.toNat_lt
  bytes := Nat.zero_le _
  counted _ := rfl
  parts _ := Nat.zero_le _
  built _ _ hp := absurd hp List.not_mem_nil

theorem remaining_eq (h : Sound endLine b) :
    remaining b.byteLimit b.bytes = some (b.byteLimit - b.bytes) := if_pos h.bytes

/-! ## Texts -/

/-- A text is inside the limits. -/
def Fits (b : LogMessageBuilder) (text : Bytes) : Prop :=
  b.bytes + b.separator.length + text.length ≤ b.byteLimit ∧
    (b.needsPart = true → b.parts.length < b.partLimit)

/-- The builder with a text added. -/
def withText (b : LogMessageBuilder) (text : Bytes) : LogMessageBuilder :=
  { b with
    parts := appendBack (appendBack (openParts b) b.separator) text
    bytes := b.bytes + (b.separator.length + text.length) }

theorem sound_withText (h : Sound endLine b) (hv : b.isValid = true) (hf : Fits b text) :
    Sound endLine (withText b text) := by
  obtain ⟨ps, ⟨kind, last⟩, ho, hk, hbytes, hbuilt, hlen⟩ := openParts_concat endLine b
  have hparts : (withText b text).parts = ps ++ [⟨kind, last ++ b.separator ++ text⟩] := by
    show appendBack (appendBack (openParts b) b.separator) text = _
    rw [ho, appendBack_concat, appendBack_concat]
  rw [ho, bytesOf_append, bytesOf_text hk] at hbytes
  rw [ho, List.length_append, List.length_singleton] at hlen
  have hcount := h.counted hv
  have hle := h.parts hv
  refine ⟨h.limit, ?_, fun _ => ?_, fun _ => ?_, fun _ q hq => ?_⟩
  · show b.bytes + (b.separator.length + text.length) ≤ b.byteLimit
    have := hf.1
    omega
  · rw [hparts, bytesOf_append, bytesOf_text hk]
    show b.bytes + (b.separator.length + text.length) = _
    simp only [List.length_append]
    omega
  · rw [hparts, List.length_append, List.length_singleton]
    show ps.length + 1 ≤ b.partLimit
    have := hf.2
    split at hlen
    · rename_i hn
      have := this hn
      omega
    · omega
  · rw [hparts] at hq
    rcases List.mem_append.mp hq with hq | hq
    · obtain hq | hq := hbuilt q (ho ▸ List.mem_append_left _ hq)
      · exact h.built hv q hq
      · exact hq
    · rw [List.mem_singleton.mp hq]
      exact .inl hk

theorem appendText_refused (h : Sound endLine b) (hf : ¬Fits b text)
    (fails : Option AppendFailure) : b.appendText text fails = some b.invalidate := by
  rw [appendText, remaining_eq h]
  cases hv : b.isValid with
  | false =>
    simp only [Bool.not_false, if_true]
    exact congrArg some (by rw [invalidate, ← hv])
  | true =>
    simp only [Bool.not_true, Bool.false_eq_true, if_false, Option.bind_eq_bind,
      Option.bind_some]
    by_cases h1 : text.length > b.byteLimit - b.bytes
    · rw [if_pos h1]
      rfl
    rw [if_neg h1, remaining, if_pos (Nat.not_lt.mp h1)]
    simp only [Option.bind_some]
    by_cases h2 : b.separator.length > b.byteLimit - b.bytes - text.length
    · rw [if_pos h2]
      rfl
    rw [if_neg h2]
    by_cases h3 : fails = some .copy
    · rw [if_pos h3]
      rfl
    rw [if_neg h3, if_pos]
    · rfl
    · have hle := h.bytes
      unfold Fits at hf
      rw [Bool.and_eq_true, decide_eq_true_eq]
      by_cases hn : b.needsPart = true
      · exact ⟨hn, by omega⟩
      · exact absurd ⟨by omega, fun hn' => absurd hn' hn⟩ hf

/-- A line end is inside the limits. -/
def FitsLine (endLine : Bytes) (b : LogMessageBuilder) : Prop :=
  b.bytes + endLine.length ≤ b.byteLimit ∧ b.parts.length < b.partLimit

/-- The builder with a line end added. -/
def withLine (endLine : Bytes) (b : LogMessageBuilder) : LogMessageBuilder :=
  { b with parts := b.parts ++ [{ kind := .newLine }], bytes := b.bytes + endLine.length }

/-- An append leaves the builder invalid, or adds what fits. -/
inductive Appended (endLine : Bytes) (b : LogMessageBuilder) : LogMessageBuilder → Prop
  | invalid {b' : LogMessageBuilder} (hl : b'.byteLimit = b.byteLimit)
      (hp : b'.partLimit = b.partLimit) (hb : b'.bytes = b.bytes) (hv : b'.isValid = false) :
      Appended endLine b b'
  | text {text : Bytes} (hv : b.isValid = true) (hf : Fits b text) :
      Appended endLine b (withText b text)
  | line (hv : b.isValid = true) (hf : FitsLine endLine b) :
      Appended endLine b (withLine endLine b)

theorem appended_invalidate (b : LogMessageBuilder) : Appended endLine b b.invalidate :=
  .invalid rfl rfl rfl rfl

theorem appendText_cases (h : Sound endLine b) (text : Bytes) (fails : Option AppendFailure) :
    ∃ b', b.appendText text fails = some b' ∧ Appended endLine b b' := by
  by_cases hf : Fits b text
  · by_cases hv : b.isValid = true
    · obtain ⟨hbytes, hparts⟩ := hf
      have hlimit := h.limit
      rw [appendText, if_neg (by rw [hv]; decide), remaining_eq h]
      simp only [Option.bind_eq_bind, Option.bind_some]
      rw [if_neg (by omega), remaining, if_pos (by omega)]
      simp only [Option.bind_some]
      rw [if_neg (by omega)]
      -- an allocation may fail at four places
      by_cases hcopy : fails = some .copy
      · rw [if_pos hcopy]
        exact ⟨_, rfl, appended_invalidate b⟩
      rw [if_neg hcopy, if_neg]
      · by_cases hpart : b.needsPart && fails = some .part
        · rw [if_pos hpart]
          exact ⟨_, rfl, appended_invalidate b⟩
        rw [if_neg hpart]
        by_cases hseparator : fails = some .separator
        · rw [if_pos hseparator]
          exact ⟨_, rfl, .invalid rfl rfl rfl rfl⟩
        rw [if_neg hseparator]
        by_cases htext : fails = some .text
        · rw [if_pos htext]
          exact ⟨_, rfl, .invalid rfl rfl rfl rfl⟩
        rw [if_neg htext, add64_eq (by omega), Option.bind_some, add64_eq (by omega),
          Option.bind_some]
        exact ⟨_, rfl, .text hv ⟨hbytes, hparts⟩⟩
      · rw [Bool.and_eq_true, decide_eq_true_eq]
        rintro ⟨hn, hfull⟩
        have := hparts hn
        omega
    · have hv := Bool.eq_false_iff.mpr hv
      rw [appendText, if_pos (by rw [hv]; rfl)]
      exact ⟨b, rfl, .invalid rfl rfl rfl hv⟩
  · exact ⟨_, appendText_refused h hf fails, appended_invalidate b⟩

/-! ## The other appends -/

theorem scanLength_eq {α : Type} (available length : Nat) (text : List α)
    (h : length ≤ available + 1) :
    scanLength available length text = min (length + text.length) (available + 1) := by
  induction text generalizing length with
  | nil =>
    rw [scanLength, List.length_nil]
    omega
  | cons c text ih =>
    rw [scanLength, List.length_cons]
    split
    · rw [ih _ (by omega)]
      omega
    · omega

/-- A C string is appended as its text, or is longer than there is room for. -/
theorem appendCText_eq (h : Sound endLine b) (text : Bytes) (fails : Option AppendFailure) :
    b.appendCText (some text) fails = some b.invalidate ∨
      b.appendCText (some text) fails = b.appendText text fails := by
  simp only [appendCText, remaining_eq h, Option.bind_eq_bind, Option.bind_some]
  rw [scanLength_eq _ _ _ (Nat.zero_le _), Nat.zero_add]
  split
  · exact .inl rfl
  · rw [List.take_of_length_le (by omega)]
    exact .inr rfl

theorem appendWide_eq (h : Sound endLine b) (text : List UInt32) (utf8 : Option Bytes)
    (fails : Option AppendFailure) : b.appendWide text utf8 fails = some b.invalidate ∨
      ∃ t, utf8 = some t ∧ b.appendWide text utf8 fails = b.appendText t fails := by
  simp only [appendWide, remaining_eq h, Option.bind_eq_bind, Option.bind_some]
  split
  · exact .inl rfl
  · cases utf8 with
    | none => exact .inl rfl
    | some t => exact .inr ⟨t, rfl, rfl⟩

theorem appendWideC_eq (h : Sound endLine b) (text : List UInt32) (utf8 : Option Bytes)
    (fails : Option AppendFailure) : b.appendWideC (some text) utf8 fails = some b.invalidate ∨
      ∃ t, utf8 = some t ∧ b.appendWideC (some text) utf8 fails = b.appendText t fails := by
  simp only [appendWideC, remaining_eq h, Option.bind_eq_bind, Option.bind_some]
  split
  · exact .inl rfl
  · exact appendWide_eq h _ utf8 fails

theorem appendControl_cases (h : Sound endLine b) (control : Int32) (fails : Bool) :
    ∃ b', b.appendControl endLine control fails = some b' ∧ Appended endLine b b' := by
  unfold appendControl
  split
  · exact ⟨_, rfl, appended_invalidate b⟩
  rename_i hv
  simp only [Bool.or_eq_true, Bool.not_eq_true', decide_eq_true_eq, not_or] at hv
  simp only [remaining_eq h, Option.bind_eq_bind, Option.bind_some]
  split
  · exact ⟨_, rfl, appended_invalidate b⟩
  rename_i hf
  simp only [Bool.or_eq_true, decide_eq_true_eq, not_or] at hf
  split
  · exact ⟨_, rfl, appended_invalidate b⟩
  · have hbytes := h.bytes
    have hlimit := h.limit
    rw [add64_eq (by omega), Option.bind_some]
    exact ⟨_, rfl, .line (Bool.not_eq_false _ ▸ hv.1) ⟨by omega, by omega⟩⟩

theorem appendControl_refused (h : Sound endLine b) (hf : ¬FitsLine endLine b) (fails : Bool) :
    b.appendControl endLine 0 fails = some b.invalidate := by
  unfold appendControl
  split
  · rfl
  · simp only [remaining_eq h, Option.bind_eq_bind, Option.bind_some]
    rw [if_pos]
    · rfl
    · have hbytes := h.bytes
      unfold FitsLine at hf
      simp only [Bool.or_eq_true, decide_eq_true_eq]
      omega

/-! ## Steps -/

/-- Every append but that of a control makes the builder invalid or comes down to a text. -/
theorem builderStep_eq (h : Sound endLine b) (a : LogAppend) :
    builderStep endLine b a = some b.invalidate ∨
      (∃ text fails, textOf a = some text ∧ builderStep endLine b a = b.appendText text fails) ∨
      ∃ control fails, a = .control control fails := by
  cases a with
  | text text fails => exact .inr (.inl ⟨text, fails, rfl, rfl⟩)
  | cText text fails =>
    cases text with
    | none => exact .inl rfl
    | some text => exact (appendCText_eq h text fails).imp_right fun he => .inl ⟨text, fails, rfl, he⟩
  | wide text utf8 fails =>
    exact (appendWide_eq h text utf8 fails).imp_right fun ⟨t, ht, he⟩ => .inl ⟨t, fails, ht, he⟩
  | wideC text utf8 fails =>
    cases text with
    | none => exact .inl rfl
    | some text =>
      exact (appendWideC_eq h text utf8 fails).imp_right fun ⟨t, ht, he⟩ => .inl ⟨t, fails, ht, he⟩
  | bool value fails =>
    exact (appendCText_eq h _ fails).imp_right fun he => .inl ⟨_, fails, rfl, he⟩
  | value text fails =>
    cases text with
    | none => exact .inl rfl
    | some text => exact .inr (.inl ⟨text, fails, rfl, rfl⟩)
  | control control fails => exact .inr (.inr ⟨control, fails, rfl⟩)

/-- No size wraps in an append. -/
theorem builder_step (h : Sound endLine b) (a : LogAppend) :
    ∃ b', builderStep endLine b a = some b' ∧ Appended endLine b b' := by
  obtain he | ⟨text, fails, -, he⟩ | ⟨control, fails, rfl⟩ := builderStep_eq h a
  · exact ⟨_, he, appended_invalidate b⟩
  · rw [he]
    exact appendText_cases h text fails
  · exact appendControl_cases h control fails

/-- An append that would exceed a limit changes no part. -/
theorem builder_exceeds (h : Sound endLine b) {a : LogAppend} (hx : Exceeds endLine b a) :
    builderStep endLine b a = some b.invalidate := by
  obtain ⟨text, ht, hor⟩ | ⟨fails, rfl, hor⟩ := hx
  · have hfit : ¬Fits b text := by
      rintro ⟨hbytes, hparts⟩
      obtain hl | ⟨hn, hp⟩ := hor
      · omega
      · exact Nat.not_le.mpr (hparts hn) hp
    obtain he | ⟨text', fails, ht', he⟩ | ⟨control, fails, rfl⟩ := builderStep_eq h a
    · exact he
    · cases Option.some.inj (ht.symm.trans ht')
      rw [he]
      exact appendText_refused h hfit fails
    · cases ht
  · refine appendControl_refused h (fun hf => ?_) fails
    have := hf.1
    have := hf.2
    omega

theorem sound_withLine (h : Sound endLine b) (hv : b.isValid = true) (hf : FitsLine endLine b) :
    Sound endLine (withLine endLine b) where
  limit := h.limit
  bytes := hf.1
  counted _ := by
    show b.bytes + endLine.length = bytesOf endLine (b.parts ++ [{ kind := .newLine }])
    rw [bytesOf_append, bytesOf_newLine, h.counted hv]
  parts _ := by
    show (b.parts ++ [_]).length ≤ b.partLimit
    rw [List.length_append, List.length_singleton]
    exact hf.2
  built _ p hp := by
    rcases List.mem_append.mp hp with hp | hp
    · exact h.built hv p hp
    · rw [List.mem_singleton.mp hp]
      exact .inr ⟨rfl, rfl⟩

theorem Appended.sound (ha : Appended endLine b b') (h : Sound endLine b) : Sound endLine b' := by
  cases ha with
  | invalid hl hp hb hv => exact h.invalid hl hb hv
  | text hv hf => exact sound_withText h hv hf
  | line hv hf => exact sound_withLine h hv hf

theorem Appended.limits (ha : Appended endLine b b') :
    b'.byteLimit = b.byteLimit ∧ b'.partLimit = b.partLimit := by
  cases ha with
  | invalid hl hp _ _ => exact ⟨hl, hp⟩
  | text _ _ => exact ⟨rfl, rfl⟩
  | line _ _ => exact ⟨rfl, rfl⟩

/-! ## The check of the runtime -/

/-- The runtime adds up the bytes of parts that fit. -/
theorem foldlM_partBytes {limit total : Nat} {ps : List LogPart} (hb : ∀ p ∈ ps, Built p)
    (hfit : total + bytesOf endLine ps ≤ limit) :
    ps.foldlM (fun total part => do addBytes total (← partBytes endLine part) limit) total =
      some (total + bytesOf endLine ps) := by
  induction ps generalizing total with
  | nil => rfl
  | cons p ps ih =>
    have hsplit : bytesOf endLine (p :: ps) = bytesOf endLine [p] + bytesOf endLine ps :=
      bytesOf_append [p] ps
    have hpart : partBytes endLine p = some (bytesOf endLine [p]) := by
      obtain ⟨kind, text⟩ := p
      obtain hk | ⟨hk, ht⟩ := hb _ List.mem_cons_self
      · cases hk
        exact congrArg some (bytesOf_text rfl text).symm
      · cases hk
        cases ht
        exact congrArg some bytesOf_newLine.symm
    rw [hsplit] at hfit ⊢
    have hadd : addBytes total (bytesOf endLine [p]) limit = some (total + bytesOf endLine [p]) :=
      if_neg (by omega)
    rw [List.foldlM_cons, hpart, Option.bind_eq_bind, Option.bind_some, hadd, ← Nat.add_assoc]
    exact ih (fun q hq => hb q (List.mem_cons_of_mem p hq)) (by omega)

theorem validRecord_parts {record : AsyncLogRecord} {settings : AsyncLogSettings}
    {ps : List LogPart} (hb : ∀ p ∈ ps, Built p)
    (hbytes : bytesOf endLine ps ≤ settings.recordByteLimit)
    (hlen : ps.length ≤ settings.recordPartLimit) :
    validRecord endLine { record with parts := ps } settings =
      validRecord endLine { record with parts := [] } settings := by
  unfold validRecord
  dsimp only
  rw [foldlM_partBytes hb (by omega)]
  have h1 : decide (ps.length > settings.recordPartLimit) = false := decide_eq_false (by omega)
  rw [h1]
  rfl

/-- A part of no kind is refused. -/
theorem validRecord_other {record : AsyncLogRecord} {settings : AsyncLogSettings}
    (ps : List LogPart) :
    validRecord endLine { record with parts := ps ++ [{ kind := .other }] } settings = false := by
  unfold validRecord
  dsimp only
  split
  · rfl
  · rw [List.foldlM_append]
    have hnone : ∀ total : Option Nat, (total >>= fun total => [(⟨.other, []⟩ : LogPart)].foldlM
        (fun total part => do addBytes total (← partBytes endLine part) settings.recordByteLimit)
        total) = none := by
      intro total
      cases total <;> rfl
    rw [hnone]
    rfl

theorem Sound.agrees (h : Sound endLine b) (hv : b.isValid = true) : Agrees endLine b where
  counted := h.counted hv
  bytes := h.bytes
  parts := h.parts hv
  accepted record settings hb hp := by
    refine validRecord_parts (h.built hv) ?_ (hp ▸ h.parts hv)
    rw [← h.counted hv, hb]
    exact h.bytes

/-- After any appends no size has wrapped; a valid builder is inside its limits as the runtime
counts them, an invalid one makes a record that the runtime refuses, and an append that would
exceed a limit makes the builder invalid and leaves its parts. -/
theorem builder_agrees (endLine : Bytes) (separate : Int32) (byteLimit partLimit : UInt64)
    (as : List LogAppend) :
    ∃ b, run (builderStep endLine) (make separate byteLimit partLimit) as = some b ∧
      b.byteLimit = byteLimit.toNat ∧ b.partLimit = partLimit.toNat ∧
      (b.isValid = true → Agrees endLine b) ∧
      (∀ record settings, b.isValid = false →
        validRecord endLine (lineRecord b record) settings = false) ∧
      ∀ a, Exceeds endLine b a → ∃ b', builderStep endLine b a = some b' ∧ b'.isValid = false ∧
        b'.parts = b.parts := by
  have hrun : ∀ (as : List LogAppend) (b : LogMessageBuilder), Sound endLine b →
      ∃ b', run (builderStep endLine) b as = some b' ∧ Sound endLine b' ∧
        b'.byteLimit = b.byteLimit ∧ b'.partLimit = b.partLimit := by
    intro as
    induction as with
    | nil => exact fun b h => ⟨b, rfl, h, rfl, rfl⟩
    | cons a as ih =>
      intro b h
      obtain ⟨t, hs, ha⟩ := builder_step h a
      obtain ⟨b', hr, hb', hl, hp⟩ := ih t (ha.sound h)
      exact ⟨b', run_cons.mpr ⟨t, hs, hr⟩, hb', hl.trans ha.limits.1, hp.trans ha.limits.2⟩
  obtain ⟨b, hr, h, hl, hp⟩ := hrun as _ (sound_make separate byteLimit partLimit)
  refine ⟨b, hr, hl, hp, h.agrees, fun record settings hv => ?_, fun a hx =>
    ⟨_, builder_exceeds h hx, rfl, rfl⟩⟩
  rw [lineRecord, hv]
  exact validRecord_other b.parts

end WSE.Proof.Log
