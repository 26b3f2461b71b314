import Mathlib.Data.List.Forall2
import WapitiStew.Spec.Log.LogMessages

/-!
# No text makes a line

Every text of a record is escaped byte by byte (`clean_escape`), and numbers and times are digits
(`clean_decimal`, `clean_stamp`). The prefix goes in right behind the tag, which is always a
position of the text (`insertAt_middle`).
-/

namespace WSE.Proof.Log

open WSE.Framework WSE.Impl.Log WSE.Spec.Log

variable {endLine : Bytes} {a b : Bytes}

/-! ## Clean texts -/

theorem clean_nil : Clean [] := fun _ h => absurd h List.not_mem_nil

theorem clean_append (ha : Clean a) (hb : Clean b) : Clean (a ++ b) :=
  List.forall_mem_append.mpr ⟨ha, hb⟩

theorem clean_cons {c : Byte} : Clean (c :: a) ↔ ¬LineControl c ∧ Clean a := List.forall_mem_cons

theorem clean_ite {p : Prop} [Decidable p] (ha : p → Clean a) (hb : ¬p → Clean b) :
    Clean (if p then a else b) := by
  split
  · exact ha ‹_›
  · exact hb ‹_›

theorem clean_flatMap {α : Type} {l : List α} {f : α → Bytes} (h : ∀ x ∈ l, Clean (f x)) :
    Clean (l.flatMap f) := by
  intro c hc
  obtain ⟨x, hx, hc⟩ := List.mem_flatMap.mp hc
  exact h x hx c hc

theorem clean_map {α : Type} {l : List α} {f : α → Byte} (h : ∀ x ∈ l, ¬LineControl (f x)) :
    Clean (l.map f) := by
  intro c hc
  obtain ⟨x, hx, rfl⟩ := List.mem_map.mp hc
  exact h x hx

theorem count_clean {c : Byte} (ha : Clean a) (hc : LineControl c) : a.count c = 0 :=
  List.count_eq_zero.mpr fun h => ha c h hc

/-- Texts of fixed characters. -/
theorem clean_of_all (h : a.all fun c => !decide (LineControl c)) : Clean a := by
  intro c hc
  have hc := List.all_eq_true.mp h c hc
  simpa using hc

/-! ## Escapes and numbers -/

theorem clean_escapeByte (c : Byte) : Clean (escapeByte c) := by
  unfold escapeByte
  refine clean_ite (fun _ => clean_of_all (by decide)) fun h10 => ?_
  refine clean_ite (fun _ => clean_of_all (by decide)) fun h13 => ?_
  refine clean_ite (fun _ => clean_of_all (by decide)) fun h0 => ?_
  rw [clean_cons]
  refine ⟨fun hc => ?_, clean_nil⟩
  obtain hc | hc | hc := hc
  · exact h10 hc
  · exact h13 hc
  · exact h0 hc

theorem clean_escape (text : Bytes) : Clean (text.flatMap escapeByte) :=
  clean_flatMap fun c _ => clean_escapeByte c

/-- A digit is none of the three bytes. -/
theorem digit_clean {d : Nat} (hd : d < 10) : ¬LineControl (48 + UInt8.ofNat d) := by
  revert d
  decide

theorem clean_decimal (n : Nat) : Clean (decimal n) := by
  refine clean_ite (fun _ => clean_of_all (by decide)) fun _ => clean_map fun d hd => ?_
  exact digit_clean (Nat.digits_lt_base (by decide) (List.mem_reverse.mp hd))

theorem clean_decimalInt (n : Int) : Clean (decimalInt n) :=
  clean_ite (fun _ => clean_cons.mpr ⟨by decide, clean_decimal _⟩) fun _ => clean_decimal _

theorem clean_padRight (width : Nat) (ha : Clean a) : Clean (padRight width a) := by
  refine clean_append ha fun c hc => ?_
  rw [List.eq_of_mem_replicate hc]
  decide

theorem digitAt_clean (place n : Nat) : ¬LineControl (digitAt place n) :=
  digit_clean (Nat.mod_lt _ (by decide))

theorem clean_twoDigits (n : Nat) : Clean (twoDigits n) :=
  clean_cons.mpr ⟨digitAt_clean 10 n, clean_cons.mpr ⟨digitAt_clean 1 n, clean_nil⟩⟩

/-- Three numbers of two digits, with a character between them. -/
theorem clean_threeNumbers {c : Byte} (hc : ¬LineControl c) (l m n : Nat) :
    Clean (twoDigits l ++ [c] ++ twoDigits m ++ [c] ++ twoDigits n) := by
  have hs : Clean [c] := clean_cons.mpr ⟨hc, clean_nil⟩
  have hl : Clean (twoDigits l ++ [c]) := clean_append (clean_twoDigits l) hs
  have hm : Clean (twoDigits l ++ [c] ++ twoDigits m ++ [c]) :=
    clean_append (clean_append hl (clean_twoDigits m)) hs
  exact clean_append hm (clean_twoDigits n)

theorem clean_putDate (t : LocalTime) : Clean (putDate t) := clean_threeNumbers (by decide) _ _ _

theorem clean_putTime (t : LocalTime) : Clean (putTime t) := clean_threeNumbers (by decide) _ _ _

theorem clean_stamp (localTime : Int → LocalTime) (timestamp : Int) (logPrefix : Int32) :
    Clean (timestampPrefix localTime timestamp logPrefix) := by
  refine clean_ite (fun _ => clean_nil) fun _ => ?_
  refine clean_append (clean_append (clean_append (clean_append ?_ ?_) ?_) ?_) ?_
  · exact clean_of_all (by decide)
  · exact clean_ite (fun _ => clean_putDate _) fun _ => clean_nil
  · exact clean_ite (fun _ => clean_of_all (by decide)) fun _ => clean_nil
  · refine clean_ite (fun _ => ?_) fun _ => clean_nil
    have hdot : Clean [46, digitAt 100 (millisecondsOf timestamp)] :=
      clean_cons.mpr ⟨by decide, clean_cons.mpr ⟨digitAt_clean 100 _, clean_nil⟩⟩
    exact clean_append (clean_append (clean_putTime _) hdot) (clean_twoDigits _)
  · exact clean_of_all (by decide)

/-! ## Parts -/

theorem rendered_part (endLine : Bytes) (p : LogPart) :
    Rendered endLine p (renderLogPart endLine p) := by
  unfold Rendered renderLogPart
  split
  · rfl
  · exact clean_escape _

theorem rendered_parts (endLine : Bytes) (parts : List LogPart) :
    RenderedParts endLine parts (renderLogParts endLine parts) := by
  refine ⟨parts.map (renderLogPart endLine), ?_, List.flatMap_def⟩
  rw [List.forall₂_map_right_iff]
  exact List.forall₂_same.mpr fun p _ => rendered_part endLine p

theorem clean_render_text (endLine text : Bytes) :
    Clean (renderLogParts endLine [{ kind := .text, text := text }]) := by
  rw [renderLogParts, List.flatMap_cons, List.flatMap_nil, List.append_nil]
  exact rendered_part endLine { kind := .text, text := text }

/-- A control byte stands in the pieces of new lines only. -/
theorem count_renderedParts {c : Byte} (hc : LineControl c) {parts : List LogPart} {text : Bytes}
    (h : RenderedParts endLine parts text) :
    text.count c = parts.countP (·.kind = .newLine) * endLine.count c := by
  obtain ⟨pieces, hp, rfl⟩ := h
  induction hp with
  | nil => simp
  | @cons p piece ps pieces hpiece _ ih =>
    rw [List.flatten_cons, List.count_append, ih, List.countP_cons, Nat.add_mul, Nat.add_comm]
    congr 1
    unfold Rendered at hpiece
    split at hpiece
    · rename_i hk
      rw [hpiece, if_pos (decide_eq_true hk), Nat.one_mul]
    · rename_i hk
      rw [count_clean hpiece hc, if_neg (by simpa using hk), Nat.zero_mul]

/-! ## The line -/

theorem insertAt_middle (before after inserted : Bytes) :
    insertAt (before ++ after) before.length inserted = some (before ++ inserted ++ after) := by
  rw [insertAt, if_pos (by rw [List.length_append]; omega), List.take_left, List.drop_left]

/-- The place that a record names. -/
theorem clean_location (endLine : Bytes) (record : AsyncLogRecord) :
    Clean ((if record.file.isEmpty then [] else [40, 32] ++
        renderLogParts endLine [{ kind := .text, text := extractFileName record.file }] ++
        [32, 41, 32]) ++
      (if record.line = 0 then [] else padRight 6 (decimalInt record.line.toInt))) := by
  refine clean_append (clean_ite (fun _ => clean_nil) fun _ => ?_)
    (clean_ite (fun _ => clean_nil) fun _ => clean_padRight 6 (clean_decimalInt _))
  have ho : Clean [40, 32] := clean_of_all (by decide)
  have hc : Clean [32, 41, 32] := clean_of_all (by decide)
  exact clean_append (clean_append ho (clean_render_text endLine _)) hc

theorem SafeLine.of_parts {suffix : Int32} {stamp tag place body line : Bytes}
    {parts : List LogPart} (ht : Clean tag) (hs : Clean stamp) (hp : Clean place)
    (hb : RenderedParts endLine parts body)
    (hl : line = [60] ++ tag ++ [62] ++ stamp ++ place ++ body ++
      if suffix = 1 then endLine else []) :
    SafeLine endLine suffix stamp parts line where
  laid_out := ⟨tag, place, body, hl, ht, hp, hb⟩
  stamp_clean := hs
  counted := by
    intro c hc
    have ho : Clean [60] := clean_of_all (by decide)
    have he : Clean [62] := clean_of_all (by decide)
    have hhead : Clean ([60] ++ tag ++ [62] ++ stamp ++ place) :=
      clean_append (clean_append (clean_append (clean_append ho ht) he) hs) hp
    rw [hl, List.count_append, List.count_append, count_renderedParts hc hb,
      count_clean hhead hc, Nat.zero_add, lineEnds, Nat.add_mul]
    split
    · rw [Nat.one_mul]
    · rw [List.count_nil, Nat.zero_mul]

/-- The message behind its tag, with no prefix, no file and no line. -/
theorem formatLogMessage_plain (tag message : Bytes) (suffix : Int32) :
    formatLogMessage endLine tag [] suffix message [] 0 =
      [60] ++ tag ++ [62] ++ (message ++ getLogSuffix endLine suffix) := by
  simp only [formatLogMessage, List.isEmpty_nil, if_true, List.append_nil, List.append_assoc]

/-- The position of the prefix is the one behind the tag, whatever stands there. -/
theorem insert_prefix (tag message stamp : Bytes) (suffix : Int32) :
    insertAt (formatLogMessage endLine tag [] suffix message [] 0) (tag.length + 2) stamp =
      some ([60] ++ tag ++ [62] ++ stamp ++ (message ++ getLogSuffix endLine suffix)) := by
  have hlen : tag.length + 2 = ([60] ++ tag ++ [62]).length := by
    rw [List.length_append, List.length_append, List.length_singleton, List.length_singleton]
    omega
  rw [formatLogMessage_plain, hlen, insertAt_middle]

theorem rendering_safe (endLine : Bytes) (localTime : Int → LocalTime) (record : AsyncLogRecord)
    (settings : AsyncLogSettings) :
    RenderedParts endLine record.parts (renderLogParts endLine record.parts) ∧
    ∃ line, defaultFormat endLine localTime record settings = some line ∧
      SafeLine endLine settings.suffix
        (timestampPrefix localTime record.timestamp settings.logPrefix) record.parts line := by
  have hparts := rendered_parts endLine record.parts
  refine ⟨hparts, _, insert_prefix _ _ _ _, ?_⟩
  refine SafeLine.of_parts (clean_render_text endLine record.tag)
    (clean_stamp localTime record.timestamp settings.logPrefix)
    (clean_location endLine record) hparts ?_
  simp only [getLogSuffix, List.append_assoc]

end WSE.Proof.Log
