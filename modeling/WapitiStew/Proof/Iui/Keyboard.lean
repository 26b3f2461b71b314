import Mathlib.Tactic.FinCases
import WapitiStew.Proof.Iui.LinuxKeyboardDevices
import WapitiStew.Spec.Iui.Keyboard

/-!
# The keyboard

* `keyboard_types`: what captured keys and lights mean. Each call of `setAscii` stands for some
  legends of the keys (`StandsFor`), and together they are those of a US keyboard
  (`mem_setLegends`).
* `keyboard_callbacks`: what the callbacks are told. `rules` says when each event may happen
  (`accepted`), and `Told` is read off the accepted histories.
-/

namespace WSE.Proof.Iui

open WSE.Framework WSE.Impl.Iui WSE.Spec.Iui

/-! ## Characters -/

section Characters

variable (keys : Keys) (shift capsLock numLock : Bool)

/-- A key, when it types, and the character. -/
abbrev KeyChar := Nat × Layer × Nat

def keyChar (l : Legend) : KeyChar := (l.key, l.layer, l.char.toNat)

def Shows (ascii : Nat) (a : KeyChar) : Prop :=
  a.2.2 = ascii ∧ a.2.1.Holds shift capsLock numLock ∧ isPressed keys a.1 = true

/-- A call of `setAscii` sets its character exactly when a pressed key shows it. -/
def StandsFor (e : Nat × Bool) (group : List KeyChar) : Prop :=
  ∀ ascii, e.1 = ascii ∧ e.2 = true ↔ ∃ a ∈ group, Shows keys shift capsLock numLock ascii a

variable {keys shift capsLock numLock}

theorem standsFor_flatten {es : List (Nat × Bool)} {groups : List (List KeyChar)}
    (h : List.Forall₂ (StandsFor keys shift capsLock numLock) es groups) (ascii : Nat) :
    (∃ e ∈ es, e.1 = ascii ∧ e.2 = true) ↔
      ∃ a ∈ groups.flatten, Shows keys shift capsLock numLock ascii a := by
  induction h with
  | nil => simp
  | cons he _ ih =>
    simp only [List.mem_cons, List.flatten_cons, List.mem_append, or_and_right, exists_or,
      exists_eq_left]
    exact or_congr (he ascii) ih

theorem forall₂_map {α : Type} {R : Nat × Bool → List KeyChar → Prop} {f : α → Nat × Bool}
    {g : α → List KeyChar} (h : ∀ x, R (f x) (g x)) (xs : List α) :
    List.Forall₂ R (xs.map f) (xs.map g) := by
  induction xs with
  | nil => exact .nil
  | cons x xs ih => exact .cons (h x) ih

theorem forall₂_flatMap {α : Type} {R : Nat × Bool → List KeyChar → Prop}
    {f : α → List (Nat × Bool)} {g : α → List (List KeyChar)}
    (h : ∀ x, List.Forall₂ R (f x) (g x)) (xs : List α) :
    List.Forall₂ R (xs.flatMap f) (xs.flatMap g) := by
  induction xs with
  | nil => exact .nil
  | cons x xs ih => exact List.rel_append (h x) ih

/-! ### The calls of `setAscii` -/

variable (key other n : Nat)

theorem standsFor_always :
    StandsFor keys shift capsLock numLock (n, isPressed keys key) [(key, .always, n)] := by
  intro ascii
  simp [Shows, Layer.Holds]

theorem standsFor_either :
    StandsFor keys shift capsLock numLock (n, isPressed keys key || isPressed keys other)
      [(key, .always, n), (other, .always, n)] := by
  intro ascii
  simp [Shows, Layer.Holds, and_or_left]

theorem standsFor_plain :
    StandsFor keys shift capsLock numLock (n, !shift && isPressed keys key)
      [(key, .plain, n)] := by
  intro ascii
  simp [Shows, Layer.Holds]

theorem standsFor_shifted :
    StandsFor keys shift capsLock numLock (n, shift && isPressed keys key)
      [(key, .shifted, n)] := by
  intro ascii
  simp [Shows, Layer.Holds]

theorem standsFor_numeric :
    StandsFor keys shift capsLock numLock
      (n, (!shift && isPressed keys key) || (numLock && isPressed keys other))
      [(key, .plain, n), (other, .numeric, n)] := by
  intro ascii
  simp [Shows, Layer.Holds, and_or_left]

theorem standsFor_letter (lower upper : Nat) :
    StandsFor keys shift capsLock numLock
      (if (capsLock != shift) = true then upper else lower, isPressed keys key)
      [(key, .lower, lower), (key, .upper, upper)] := by
  intro ascii
  by_cases h : capsLock = shift
  · simp [Shows, Layer.Holds, h]
  · simp [Shows, Layer.Holds, h]

def letterGroups : List (List KeyChar) :=
  ALPHABET_KEYS.zipIdx.map fun (key, index) =>
    [(key, .lower, 'a'.toNat + index), (key, .upper, 'A'.toNat + index)]

theorem letters_stand :
    List.Forall₂ (StandsFor keys shift capsLock numLock)
      (letterAsciis keys (capsLock != shift)) letterGroups := by
  refine forall₂_map (fun (key, index) => ?_) _
  have h : StandsFor keys shift capsLock numLock
      (if (capsLock != shift) = true then 'A'.toNat + index else 'a'.toNat + index,
        isPressed keys key)
      [(key, .lower, 'a'.toNat + index), (key, .upper, 'A'.toNat + index)] :=
    standsFor_letter _ _ _
  rw [← ite_add, ← apply_ite Char.toNat] at h
  exact h

def numberGroups : List (List KeyChar) :=
  (List.range NUMBER_KEYS.length).flatMap fun index =>
    [[(NUMBER_KEYS.getD index 0, .plain, '0'.toNat + index),
        (KEYPAD_KEYS.getD index 0, .numeric, '0'.toNat + index)],
      [(NUMBER_KEYS.getD index 0, .shifted, (SHIFTED_NUMBERS.getD index ' ').toNat)]]

theorem numbers_stand :
    List.Forall₂ (StandsFor keys shift capsLock numLock)
      (numberAsciis keys shift numLock) numberGroups :=
  forall₂_flatMap (fun _ => .cons (standsFor_numeric _ _ _) (.cons (standsFor_shifted _ _) .nil)) _

/-- A key that shows two characters. -/
def bothGroups (key : Nat) (plain shifted : Char) : List (List KeyChar) :=
  [[(key, .plain, plain.toNat)], [(key, .shifted, shifted.toNat)]]

def symbolGroups : List (List KeyChar) :=
  [[(57, .always, ' '.toNat)]] ++ bothGroups 12 '-' '_' ++ bothGroups 13 '=' '+' ++
    bothGroups 26 '[' '\x7b' ++ bothGroups 27 ']' '\x7d' ++ bothGroups 43 '\x5c' '|' ++
    bothGroups 39 ';' ':' ++ bothGroups 40 '\x27' '\x22' ++ bothGroups 41 '\x60' '~' ++
    bothGroups 51 ',' '<' ++
    [[(52, .plain, '.'.toNat), (83, .numeric, '.'.toNat)], [(52, .shifted, '>'.toNat)]] ++
    bothGroups 53 '/' '?' ++
    [[(55, .always, '*'.toNat)], [(78, .always, '+'.toNat)], [(74, .always, '-'.toNat)],
      [(98, .always, '/'.toNat)]]

theorem symbols_stand :
    List.Forall₂ (StandsFor keys shift capsLock numLock)
      ((symbolAsciis keys shift numLock (commands keys)).map fun e => (e.1.toNat, e.2))
      symbolGroups := by
  have hspace : commands keys COM_SPACE = isPressed keys 57 := rfl
  simp only [symbolAsciis, symbolGroups, bothGroups, hspace, List.map_cons, List.map_nil,
    List.cons_append, List.nil_append, List.forall₂_cons, standsFor_always, standsFor_plain,
    standsFor_shifted, standsFor_numeric, List.Forall₂.nil, and_self]

def controlGroups : List (List KeyChar) :=
  [[(14, .always, 8)], [(15, .always, 9)], [(28, .always, 10), (96, .always, 10)],
    [(28, .always, 13), (96, .always, 13)], [(1, .always, 27)], [(111, .always, 127)]]

theorem controls_stand :
    List.Forall₂ (StandsFor keys shift capsLock numLock)
      (controlAsciis (commands keys)) controlGroups :=
  .cons (standsFor_always 14 8) <| .cons (standsFor_always 15 9) <|
    .cons (standsFor_either 28 96 10) <| .cons (standsFor_either 28 96 13) <|
    .cons (standsFor_always 1 27) <| .cons (standsFor_always 111 127) .nil

/-! ### The legends -/

def setLegends : List KeyChar :=
  (letterGroups ++ numberGroups ++ symbolGroups ++ controlGroups).flatten

/-- The keys of the commands and of the arrows. -/
def commandKeys : Fin COMMAND_NUM → List Nat :=
  ![[57], [28, 96], [111], [1], [15], [42, 54], [29, 97], [14], [56, 100, 139]]

def arrowKeys : Fin ARROW_NUM → List Nat := ![[105], [103], [108], [106]]

/-- The keys that show without a character. -/
def shownKeys : List Nat :=
  (List.finRange COMMAND_NUM).flatMap commandKeys ++ (List.finRange ARROW_NUM).flatMap arrowKeys ++
    (List.finRange FANCTION_NUM).flatMap fun i : Fin FANCTION_NUM => [FUNCTION_KEYS.getD i 0]

/-- The layer of a key with the other state of the modifier. -/
def opposite : Layer → Layer
  | .plain => .shifted
  | .shifted => .plain
  | .lower => .upper
  | .upper => .lower
  | layer => layer

/-- The numbers of a list as the bits of one, so that two lists are compared at once. -/
def bitsOf (codes : List Nat) : Nat := codes.foldr (fun code bits => 2 ^ code ||| bits) 0

theorem testBit_bitsOf (codes : List Nat) (code : Nat) :
    (bitsOf codes).testBit code = true ↔ code ∈ codes := by
  induction codes with
  | nil => simp [bitsOf]
  | cons c codes ih =>
    have hcons : bitsOf (c :: codes) = 2 ^ c ||| bitsOf codes := rfl
    rw [hcons, Nat.testBit_or, Bool.or_eq_true, ih, Nat.testBit_two_pow, decide_eq_true_eq,
      List.mem_cons, eq_comm]

theorem mem_of_bitsOf {codes others : List Nat} (h : bitsOf codes = bitsOf others) {code : Nat}
    (hc : code ∈ codes) : code ∈ others := by
  rwa [← testBit_bitsOf, ← h, testBit_bitsOf]

/-- A key and its layer as one number. -/
def placeCode (key : Nat) (layer : Layer) : Nat := key * 8 + layer.ctorIdx

theorem placeCode_inj {key key' : Nat} {layer layer' : Layer}
    (h : placeCode key layer = placeCode key' layer') : key = key' ∧ layer = layer' := by
  cases layer <;> cases layer' <;> simp [placeCode, Layer.ctorIdx] at h ⊢ <;> omega

def charCode (a : KeyChar) : Nat := placeCode a.1 a.2.1 * ASCII_NUM + a.2.2

theorem charCode_inj {a b : KeyChar} (ha : a.2.2 < ASCII_NUM) (hb : b.2.2 < ASCII_NUM)
    (h : charCode a = charCode b) : a = b := by
  have hplace : placeCode a.1 a.2.1 = placeCode b.1 b.2.1 ∧ a.2.2 = b.2.2 := by
    simp only [charCode, ASCII_NUM] at ha hb h
    omega
  obtain ⟨hkey, hlayer⟩ := placeCode_inj hplace.1
  exact Prod.ext hkey (Prod.ext hlayer hplace.2)

/-- The tables of the keys, compared in one evaluation of them. -/
theorem tables_agree :
    bitsOf (setLegends.map charCode) = bitsOf ((legends.map keyChar).map charCode) ∧
      bitsOf (legends.map fun l => placeCode l.key (opposite l.layer)) =
        bitsOf (legends.map fun l => placeCode l.key l.layer) ∧
      (∀ a ∈ setLegends, a.2.2 < ASCII_NUM) ∧ (∀ l ∈ legends, l.char.toNat < ASCII_NUM) ∧
      otherKeys ⊆ shownKeys ∧ ∀ key ∈ shownKeys,
        key ∈ otherKeys ∨ ∃ l ∈ legends, l.key = key ∧ l.layer = .always := by
  decide +kernel

theorem legends_lt : ∀ l ∈ legends, l.char.toNat < ASCII_NUM := by
  obtain ⟨-, -, -, hlt, -⟩ := tables_agree
  exact hlt

/-- The calls of `setAscii` stand for the legends of the keys, and for no others. -/
theorem mem_setLegends (a : KeyChar) : a ∈ setLegends ↔ a ∈ legends.map keyChar := by
  obtain ⟨hcodes, -, hset, -⟩ := tables_agree
  have hlegends : ∀ b ∈ legends.map keyChar, b.2.2 < ASCII_NUM := by
    intro b hb
    obtain ⟨l, hl, rfl⟩ := List.mem_map.mp hb
    exact legends_lt l hl
  constructor
  · intro ha
    obtain ⟨b, hb, hcode⟩ := List.mem_map.mp (mem_of_bitsOf hcodes (List.mem_map_of_mem ha))
    exact charCode_inj (hlegends b hb) (hset a ha) hcode ▸ hb
  · intro ha
    obtain ⟨b, hb, hcode⟩ := List.mem_map.mp (mem_of_bitsOf hcodes.symm (List.mem_map_of_mem ha))
    exact charCode_inj (hset b hb) (hlegends a ha) hcode ▸ hb

theorem asciis_types (ascii : Nat) :
    (∃ e ∈ asciis keys shift capsLock numLock, e.1 = ascii ∧ e.2 = true) ↔
      ∃ key, isPressed keys key = true ∧ Types shift capsLock numLock key ascii := by
  have hstand : List.Forall₂ (StandsFor keys shift capsLock numLock)
      (asciis keys shift capsLock numLock)
      (letterGroups ++ numberGroups ++ symbolGroups ++ controlGroups) :=
    List.rel_append (List.rel_append (List.rel_append letters_stand numbers_stand) symbols_stand)
      controls_stand
  rw [standsFor_flatten hstand]
  constructor
  · rintro ⟨a, ha, hascii, hholds, hpressed⟩
    obtain ⟨l, hl, rfl⟩ := List.mem_map.mp ((mem_setLegends a).mp ha)
    exact ⟨l.key, hpressed, l, hl, rfl, hascii, hholds⟩
  · rintro ⟨key, hpressed, l, hl, rfl, hascii, hholds⟩
    exact ⟨keyChar l, (mem_setLegends _).mpr (List.mem_map_of_mem hl), hascii, hholds, hpressed⟩

/-! ### Mapped states -/

theorem ascii_foldl (es : List (Nat × Bool)) (s : KeyboardState) (c : Fin ASCII_NUM) :
    (es.foldl (fun s e => setAscii s e.1 e.2) s).ascii c = true ↔
      s.ascii c = true ∨ ∃ e ∈ es, e.1 = c.val ∧ e.2 = true := by
  induction es generalizing s with
  | nil => simp
  | cons e es ih =>
    rw [List.foldl_cons, ih]
    simp only [setAscii, Bool.or_eq_true, Bool.and_eq_true, beq_iff_eq, List.mem_cons,
      or_and_right, exists_or, exists_eq_left, or_assoc, eq_comm (a := c.val)]

/-- The other parts of a state are not touched. -/
theorem foldl_setAscii (es : List (Nat × Bool)) (s : KeyboardState) :
    (es.foldl (fun s e => setAscii s e.1 e.2) s) =
      { s with ascii := (es.foldl (fun s e => setAscii s e.1 e.2) s).ascii } := by
  induction es generalizing s with
  | nil => rfl
  | cons e es ih =>
    rw [List.foldl_cons, ih]
    rfl

theorem mapped_ascii (keys : Keys) (leds : Leds) (c : Fin ASCII_NUM) :
    (mapKeyboardState keys leds).ascii c = true ↔ ∃ key, isPressed keys key = true ∧
      Types (shiftHeld keys) (leds LED_CAPSL) (leds LED_NUML) key c := by
  rw [mapKeyboardState, ascii_foldl, or_iff_right Bool.false_ne_true, asciis_types]

theorem mapped_function (keys : Keys) (leds : Leds) : (mapKeyboardState keys leds).function =
    fun index : Fin FANCTION_NUM => isPressed keys (FUNCTION_KEYS.getD index 0) := by
  rw [mapKeyboardState, foldl_setAscii]

theorem mapped_arrow (keys : Keys) (leds : Leds) :
    (mapKeyboardState keys leds).arrow = arrows keys := by
  rw [mapKeyboardState, foldl_setAscii]

theorem mapped_command (keys : Keys) (leds : Leds) :
    (mapKeyboardState keys leds).command = commands keys := by
  rw [mapKeyboardState, foldl_setAscii]

end Characters

/-! ### Released keys -/

theorem commands_eq (keys : Keys) (i : Fin COMMAND_NUM) :
    commands keys i = (commandKeys i).any (isPressed keys) := by
  fin_cases i <;> simp [commands, commandKeys, shiftHeld, KEY_SPACE, KEY_ENTER, Bool.or_assoc]

theorem arrows_eq (keys : Keys) (i : Fin ARROW_NUM) :
    arrows keys i = (arrowKeys i).any (isPressed keys) := by
  fin_cases i <;> simp [arrows, arrowKeys]

theorem functions_eq (keys : Keys) (i : Fin FANCTION_NUM) :
    isPressed keys (FUNCTION_KEYS.getD i 0) =
      [FUNCTION_KEYS.getD i 0].any (isPressed keys) := (Bool.or_false _).symm

theorem exists_any {n : Nat} {keys : Keys} {p : Fin n → Bool} {lists : Fin n → List Nat}
    (h : ∀ i, p i = (lists i).any (isPressed keys)) :
    (∃ i, p i = true) ↔
      ∃ key ∈ (List.finRange n).flatMap lists, isPressed keys key = true := by
  simp only [h, List.any_eq_true, List.mem_flatMap, List.mem_finRange, true_and]
  constructor
  · rintro ⟨i, key, hkey, hpressed⟩
    exact ⟨key, ⟨i, hkey⟩, hpressed⟩
  · rintro ⟨key, ⟨i, hkey⟩, hpressed⟩
    exact ⟨i, key, hkey, hpressed⟩

theorem isReleased_iff (s : KeyboardState) :
    s.isReleased = true ↔ (¬∃ c, s.ascii c = true) ∧ (¬∃ i, s.command i = true) ∧
      (¬∃ i, s.arrow i = true) ∧ ¬∃ i, s.function i = true := by
  simp only [KeyboardState.isReleased, Bool.not_eq_true', Bool.or_eq_false_iff, List.any_eq_false,
    List.mem_finRange, forall_const, not_exists]
  tauto

theorem telling_of_shown {key : Nat} (h : key ∈ shownKeys) (numLock : Bool) :
    Telling numLock key := by
  obtain ⟨-, -, -, -, -, hall⟩ := tables_agree
  rcases hall key h with hother | ⟨l, hl, hkey, halways⟩
  · exact .inl hother
  · exact .inr ⟨l, hl, hkey, fun hn => by rw [halways] at hn; cases hn⟩

theorem telling_of_types {shift capsLock numLock : Bool} {key ascii : Nat}
    (h : Types shift capsLock numLock key ascii) : Telling numLock key := by
  obtain ⟨l, hl, hkey, -, hholds⟩ := h
  exact .inr ⟨l, hl, hkey, fun hn => by rw [hn] at hholds; exact hholds⟩

theorem holds_or_opposite {layer : Layer} {numLock : Bool}
    (hn : layer = .numeric → numLock = true) (shift capsLock : Bool) :
    layer.Holds shift capsLock numLock ∨ (opposite layer).Holds shift capsLock numLock := by
  cases layer with
  | always => exact .inl trivial
  | numeric => exact .inl (hn rfl)
  | plain => cases shift <;> simp [Layer.Holds, opposite]
  | shifted => cases shift <;> simp [Layer.Holds, opposite]
  | lower => exact em (capsLock = shift)
  | upper => exact (em (capsLock = shift)).symm

theorem types_lt {shift capsLock numLock : Bool} {key ascii : Nat}
    (h : Types shift capsLock numLock key ascii) : ascii < ASCII_NUM := by
  obtain ⟨l, hl, -, rfl, -⟩ := h
  exact legends_lt l hl

/-- A key with a character types one with every state of the modifiers. -/
theorem types_of_legend {l : Legend} (hl : l ∈ legends) {numLock : Bool}
    (hn : l.layer = .numeric → numLock = true) (shift capsLock : Bool) :
    ∃ ascii < ASCII_NUM, Types shift capsLock numLock l.key ascii := by
  obtain ⟨-, hcodes, -⟩ := tables_agree
  rcases holds_or_opposite hn shift capsLock with hholds | hholds
  · exact ⟨_, legends_lt l hl, l, hl, rfl, rfl, hholds⟩
  · obtain ⟨l', hl', hcode⟩ := List.mem_map.mp (mem_of_bitsOf hcodes (List.mem_map_of_mem hl))
    obtain ⟨hkey, hlayer⟩ := placeCode_inj hcode
    exact ⟨_, legends_lt l' hl', l', hl', hkey, rfl, hlayer ▸ hholds⟩

theorem mapped_released (keys : Keys) (leds : Leds) :
    (mapKeyboardState keys leds).isReleased = true ↔
      ∀ key, isPressed keys key = true → ¬Telling (leds LED_NUML) key := by
  have hshown : ((∃ i, commands keys i = true) ∨ (∃ i, arrows keys i = true) ∨
      ∃ i : Fin FANCTION_NUM, isPressed keys (FUNCTION_KEYS.getD i 0) = true) ↔
      ∃ key ∈ shownKeys, isPressed keys key = true := by
    rw [exists_any (commands_eq keys), exists_any (arrows_eq keys),
      exists_any (functions_eq keys), shownKeys]
    simp only [List.mem_append, or_and_right, exists_or, or_assoc]
  rw [isReleased_iff, mapped_command, mapped_arrow, mapped_function]
  constructor
  · rintro ⟨hascii, hcommand, harrow, hfunction⟩ key hpressed hkey
    have hnone : key ∉ shownKeys := fun hmem => by
      rcases hshown.mpr ⟨key, hmem, hpressed⟩ with h | h | h
      · exact hcommand h
      · exact harrow h
      · exact hfunction h
    rcases hkey with hother | ⟨l, hl, rfl, hn⟩
    · obtain ⟨-, -, -, -, hsub, -⟩ := tables_agree
      exact hnone (hsub hother)
    · obtain ⟨ascii, hlt, htypes⟩ := types_of_legend hl hn (shiftHeld keys) (leds LED_CAPSL)
      exact hascii ⟨⟨ascii, hlt⟩, (mapped_ascii keys leds _).mpr ⟨l.key, hpressed, htypes⟩⟩
  · intro h
    have hnone : ¬∃ key ∈ shownKeys, isPressed keys key = true := by
      rintro ⟨key, hmem, hpressed⟩
      exact h key hpressed (telling_of_shown hmem _)
    rw [← hshown, not_or, not_or] at hnone
    refine ⟨?_, hnone⟩
    rintro ⟨c, hc⟩
    obtain ⟨key, hpressed, htypes⟩ := (mapped_ascii keys leds c).mp hc
    exact h key hpressed (telling_of_types htypes)

theorem getASCII_eq {s : KeyboardState} {n : Nat} :
    s.getASCII = n ↔ IsLeast {ascii | ∃ c, s.ascii c = true ∧ c.val = ascii} n ∨
      n = 0 ∧ ∀ c, s.ascii c = false := by
  unfold KeyboardState.getASCII
  cases hfind : (List.finRange ASCII_NUM).find? s.ascii with
  | none =>
    have hnone : ∀ c, s.ascii c = false := fun c => by
      simpa using List.find?_eq_none.mp hfind c (List.mem_finRange c)
    simp [hnone, IsLeast, eq_comm]
  | some c =>
    obtain ⟨hc, before, after, hsplit, hbefore⟩ := List.find?_eq_some_iff_append.mp hfind
    have hleast : IsLeast {ascii | ∃ c, s.ascii c = true ∧ c.val = ascii} c.val := by
      refine ⟨⟨c, hc, rfl⟩, ?_⟩
      rintro _ ⟨d, hd, rfl⟩
      have hmem : d ∈ before ++ c :: after := hsplit ▸ List.mem_finRange d
      rcases List.mem_append.mp hmem with h | h
      · exact absurd hd (by simpa using hbefore d h)
      · have hsorted : (before ++ c :: after).Pairwise (· ≤ ·) :=
          hsplit ▸ (List.pairwise_lt_finRange ASCII_NUM).imp le_of_lt
        rcases List.mem_cons.mp h with rfl | h
        · exact le_refl _
        · exact (List.pairwise_cons.mp (List.pairwise_append.mp hsorted).2.1).1 d h
    constructor
    · rintro rfl
      exact .inl hleast
    · rintro (h | ⟨-, h⟩)
      · exact hleast.unique h
      · exact absurd hc (by simp [h])

/-- What a state is mapped to says exactly which characters the pressed keys of a US keyboard type,
whether any key is pressed that it knows, and which character is the least. -/
theorem keyboard_types (keys : Keys) (leds : Leds) :
    Maps keys leds (mapKeyboardState keys leds) where
  ascii := mapped_ascii keys leds
  released := mapped_released keys leds
  least n := by
    have hset : {ascii | ∃ c, (mapKeyboardState keys leds).ascii c = true ∧ c.val = ascii} =
        {ascii | ∃ key, isPressed keys key = true ∧
          Types (shiftHeld keys) (leds LED_CAPSL) (leds LED_NUML) key ascii} := by
      ext ascii
      constructor
      · rintro ⟨c, hc, rfl⟩
        exact (mapped_ascii keys leds c).mp hc
      · rintro ⟨key, hpressed, htypes⟩
        have hlt := types_lt htypes
        exact ⟨⟨ascii, hlt⟩, (mapped_ascii keys leds _).mpr ⟨key, hpressed, htypes⟩, rfl⟩
    rw [getASCII_eq, hset]
    refine or_congr_right (and_congr_right fun _ => ⟨fun h key hpressed ascii htypes => ?_,
      fun h c => ?_⟩)
    · have hc := (mapped_ascii keys leds ⟨ascii, types_lt htypes⟩).mpr ⟨key, hpressed, htypes⟩
      rw [h] at hc
      cases hc
    · refine Bool.eq_false_iff.mpr fun hc => ?_
      obtain ⟨key, hpressed, htypes⟩ := (mapped_ascii keys leds c).mp hc
      exact h key hpressed c htypes

/-! ## What may happen -/

/-- What has been seen of a keyboard. `due` is the change that is to be told, `asked` are the turns
that had ended when the questions were asked. -/
structure Watch where
  published : KeyboardState := {}
  installed : Option Nat := none
  callbacks : Nat := 0
  due : Option (Nat × KeyboardState) := none
  calling : Option Nat := none
  clearing : Bool := false
  stopped : Bool := false
  turns : Nat := 0
  asked : List Nat := []

def Watch.next (w : Watch) : KeyboardEvent → Watch
  | .published state =>
    { w with
      published := state
      due := if state = w.published then none else w.installed.map (·, state) }
  | .called callback _ => { w with due := none, calling := some callback }
  | .returned _ => { w with calling := none }
  | .threw _ => { w with calling := none, clearing := true }
  | .cleared => { w with installed := none, clearing := false }
  | .installed callback =>
    { w with installed := callback, callbacks := w.callbacks + callback.toList.length }
  | .stopRequested => { w with stopped := true }
  | .counted => { w with turns := w.turns + 1 }
  | .asked _ => { w with asked := w.asked ++ [w.turns] }
  | .answered _ _ _ => w

def Watch.Allows (w : Watch) : KeyboardEvent → Prop
  | .published _ => w.calling = none ∧ w.clearing = false ∧ (w.due = none ∨ w.stopped = true)
  | .called callback state =>
    w.due = some (callback, state) ∧ state = w.published ∧ w.calling = none ∧ w.stopped = false
  | .returned callback | .threw callback => w.calling = some callback
  | .cleared | .stopRequested | .counted => True
  | .installed callback => ∀ c, callback = some c → c = w.callbacks
  | .asked question => question = w.asked.length
  | .answered question released timedOut => released = w.published.isReleased ∧
      ∃ n, w.asked[question]? = some n ∧ (timedOut = true ∨ n ≠ w.turns)

def rules : Framework.Monitor KeyboardEvent Watch := ⟨{}, Watch.next, Watch.Allows⟩

/-! ### The loop follows the rules -/

/-- What is due at a point of the loop. -/
def DueAt (w : Watch) (current : KeyboardState) : LoopPoint → Prop
  | .waiting | .captured | .counting | .ended =>
    w.calling = none ∧ w.clearing = false ∧ (w.due = none ∨ w.stopped = true)
  | .published previous callback => w.calling = none ∧ w.clearing = false ∧
      current = w.published ∧
      w.due = if w.published = previous then none else callback.map (·, w.published)
  | .calling callback => w.calling = some callback ∧ w.clearing = false ∧ w.due = none
  | .clearing => w.calling = none ∧ w.clearing = true ∧ w.due = none

structure Follows (s : Keyboard) (w : Watch) : Prop where
  published : w.published = s.published
  installed : w.installed = s.callback
  callbacks : w.callbacks = s.callbacks
  stopped : w.stopped = s.stopRequested
  turns : w.turns = s.scanCount
  asked : w.asked = s.questions
  due : DueAt w s.monitor.current s.point

structure Orderly (s : Keyboard) : Prop where
  accepted : rules.Accepts s.history
  follows : Follows s (rules.after s.history)
  publishes : Publishes {} mapKeyboardState s.monitor
  captures : ∀ state, .published state ∈ s.history → Captures state

theorem captures_of_publishes {m : Impl.Iui.Monitor KeyboardState}
    (h : Publishes {} mapKeyboardState m) : Captures m.current := by
  by_cases hready : m.accessState = .ready
  · exact .inr (h.ready hready)
  · exact .inl (h.released hready)

theorem statesDiffer_iff (left right : KeyboardState) :
    statesDiffer left right = true ↔ left ≠ right := by
  obtain ⟨a, f, r, l, c⟩ := left
  obtain ⟨a', f', r', l', c'⟩ := right
  simp only [statesDiffer, Bool.or_eq_true, decide_eq_true_eq, ne_eq, KeyboardState.mk.injEq]
  tauto

/-- A step that records an event. -/
theorem Orderly.record {s t : Keyboard} {e : KeyboardEvent} (h : Orderly s)
    (hhistory : t.history = s.history ++ [e]) (hmonitor : t.monitor = s.monitor)
    (hallowed : (rules.after s.history).Allows e)
    (hfollows : Follows t ((rules.after s.history).next e))
    (hcaptures : ∀ state, e = .published state → Captures state) : Orderly t where
  accepted := by
    rw [hhistory]
    exact Monitor.accepts_snoc.mpr ⟨h.accepted, hallowed⟩
  follows := by
    rw [hhistory, Monitor.after_snoc]
    exact hfollows
  publishes := hmonitor ▸ h.publishes
  captures state hmem := by
    rw [hhistory] at hmem
    rcases List.mem_append.mp hmem with hmem | hmem
    · exact h.captures state hmem
    · exact hcaptures state (List.mem_singleton.mp hmem).symm

/-- A step that records nothing. -/
theorem Orderly.same {s t : Keyboard} (h : Orderly s) (hhistory : t.history = s.history)
    (hmonitor : Publishes {} mapKeyboardState t.monitor)
    (hfollows : Follows t (rules.after s.history)) : Orderly t where
  accepted := hhistory ▸ h.accepted
  follows := hhistory ▸ hfollows
  publishes := hmonitor
  captures := hhistory ▸ h.captures

theorem orderly_start : Orderly {} where
  accepted := rules.accepts_nil
  follows := ⟨rfl, rfl, rfl, rfl, rfl, rfl, rfl, rfl, .inl rfl⟩
  publishes := ⟨⟨[], rfl⟩, (fun h => by cases h), fun _ => rfl⟩
  captures _ h := absurd h List.not_mem_nil

section Steps

variable {s t : Keyboard}

/-- What another thread does leaves the loop where it is. -/
theorem Follows.thread {w v : Watch} (h : DueAt w s.monitor.current s.point)
    (hpublished : v.published = w.published) (hcalling : v.calling = w.calling)
    (hclearing : v.clearing = w.clearing) (hdue : v.due = w.due)
    (hstopped : w.stopped = true → v.stopped = true) :
    DueAt v s.monitor.current s.point := by
  unfold DueAt at h ⊢
  rw [hpublished, hcalling, hclearing, hdue]
  cases hpoint : s.point with
  | waiting | captured | counting | ended =>
    rw [hpoint] at h
    exact ⟨h.1, h.2.1, h.2.2.imp_right hstopped⟩
  | published _ _ | calling _ | clearing =>
    rw [hpoint] at h
    exact h

theorem orderly_publish (h : Orderly s) (hpoint : s.point = .captured) : Orderly s.publish := by
  have hw := h.follows
  have hdue := hw.due
  rw [hpoint] at hdue
  refine h.record rfl rfl hdue ⟨rfl, hw.installed, hw.callbacks, hw.stopped, hw.turns, hw.asked,
    hdue.1, hdue.2.1, rfl, ?_⟩ fun state he => ?_
  · show (if s.monitor.current = (rules.after s.history).published then none
      else (rules.after s.history).installed.map (·, s.monitor.current)) = _
    rw [hw.published, hw.installed]
    rfl
  · cases he
    exact captures_of_publishes h.publishes

theorem orderly_check (h : Orderly s) {previous : KeyboardState} {callback : Option Nat}
    (hpoint : s.point = .published previous callback) : Orderly (s.check previous callback) := by
  have hw := h.follows
  have hdue := hw.due
  rw [hpoint] at hdue
  obtain ⟨hcalling, hclearing, hcurrent, hdue⟩ := hdue
  -- the loop goes on without a call, because nothing is due or a stop was requested
  have hskip (hnone : (rules.after s.history).due = none ∨ s.stopRequested = true) :
      Orderly { s with point := .counting } := by
    refine h.same rfl h.publishes { hw with due := ⟨hcalling, hclearing, ?_⟩ }
    exact hnone.imp_right fun hs => hw.stopped.trans hs
  cases callback with
  | none => exact hskip (.inl (by rw [hdue]; split <;> rfl))
  | some c =>
    rw [Keyboard.check]
    split
    · rename_i hcall
      simp only [Bool.and_eq_true, statesDiffer_iff, Bool.not_eq_true'] at hcall
      obtain ⟨hne, hstopped⟩ := hcall
      have hchange : (rules.after s.history).due = some (c, s.monitor.current) := by
        rw [hdue, if_neg fun he => hne (he.symm.trans hcurrent.symm), hcurrent]
        rfl
      refine h.record rfl rfl ⟨hchange, hcurrent, hcalling, hw.stopped.trans hstopped⟩
        ⟨hw.published, hw.installed, hw.callbacks, hw.stopped, hw.turns, hw.asked, rfl,
          hclearing, rfl⟩ fun state he => by cases he
    · rename_i hcall
      simp only [Bool.and_eq_true, statesDiffer_iff, Bool.not_eq_true', not_and,
        Bool.not_eq_false] at hcall
      by_cases hsame : previous = s.monitor.current
      · exact hskip (.inl (by rw [hdue, if_pos (hcurrent.symm.trans hsame.symm)]))
      · exact hskip (.inr (hcall hsame))

theorem orderly_finishCallback (h : Orderly s) {c : Nat} (hpoint : s.point = .calling c)
    (throws : Bool) : Orderly (s.finishCallback c throws) := by
  have hw := h.follows
  have hdue := hw.due
  rw [hpoint] at hdue
  obtain ⟨hcalling, hclearing, hdue⟩ := hdue
  cases throws with
  | true =>
    exact h.record rfl rfl hcalling ⟨hw.published, hw.installed, hw.callbacks, hw.stopped,
      hw.turns, hw.asked, rfl, rfl, hdue⟩ fun state he => by cases he
  | false =>
    exact h.record rfl rfl hcalling ⟨hw.published, hw.installed, hw.callbacks, hw.stopped,
      hw.turns, hw.asked, rfl, hclearing, .inl hdue⟩ fun state he => by cases he

theorem orderly_clearCallback (h : Orderly s) : Orderly s.clearCallback := by
  have hw := h.follows
  exact h.record rfl rfl (fun c hc => by cases hc) ⟨hw.published, rfl, hw.callbacks, hw.stopped,
    hw.turns, hw.asked, Follows.thread (s := s) hw.due rfl rfl rfl rfl id⟩ fun state he => by cases he

theorem orderly_setCallback (h : Orderly s) (given : Bool) : Orderly (s.setCallback given) := by
  cases given with
  | false => exact orderly_clearCallback h
  | true =>
    have hw := h.follows
    refine h.record rfl rfl (fun c hc => ?_) ⟨hw.published, rfl, ?_, hw.stopped,
      hw.turns, hw.asked, Follows.thread (s := s) hw.due rfl rfl rfl rfl id⟩ fun state he => by cases he
    · exact (Option.some.inj hc).symm.trans hw.callbacks.symm
    · exact congrArg (· + 1) hw.callbacks

end Steps

/-- Every step keeps to the rules. -/
theorem orderly_step {s t : Keyboard} {a : KeyboardAction} (h : Orderly s)
    (hs : keyboardStep s a = some t) : Orderly t := by
  have hw := h.follows
  have hdue := hw.due
  cases a with
  | capture d replies =>
    simp only [keyboardStep, Bool.and_eq_true, decide_eq_true_eq] at hs
    split at hs
    · rename_i hcapture
      cases hs
      rw [hcapture.1] at hdue
      exact h.same rfl (publishes_turn {} mapKeyboardState h.publishes d replies)
        { hw with due := hdue }
    · cases hs
  | publish =>
    simp only [keyboardStep] at hs
    split at hs
    · rename_i hpoint
      cases hs
      exact orderly_publish h hpoint
    · cases hs
  | check =>
    simp only [keyboardStep] at hs
    split at hs
    · rename_i hpoint
      cases hs
      exact orderly_check h hpoint
    · cases hs
  | finishCallback throws =>
    simp only [keyboardStep] at hs
    split at hs
    · rename_i hpoint
      cases hs
      exact orderly_finishCallback h hpoint throws
    · cases hs
  | clear =>
    simp only [keyboardStep] at hs
    split at hs
    · rename_i hpoint
      cases hs
      rw [hpoint] at hdue
      exact h.record rfl rfl trivial ⟨hw.published, rfl, hw.callbacks, hw.stopped, hw.turns,
        hw.asked, hdue.1, rfl, .inl hdue.2.2⟩ fun state he => by cases he
    · cases hs
  | count =>
    simp only [keyboardStep] at hs
    split at hs
    · rename_i hpoint
      cases hs
      rw [hpoint] at hdue
      exact h.record rfl rfl trivial ⟨hw.published, hw.installed, hw.callbacks, hw.stopped,
        congrArg (· + 1) hw.turns, hw.asked, hdue⟩ fun state he => by cases he
    · cases hs
  | leave =>
    simp only [keyboardStep, Bool.and_eq_true, decide_eq_true_eq] at hs
    split at hs
    · rename_i hleave
      cases hs
      rw [hleave.1] at hdue
      exact h.same rfl h.publishes { hw with due := hdue }
    · cases hs
  | setCallback given =>
    cases hs
    exact orderly_setCallback h given
  | clearCallback =>
    cases hs
    exact orderly_clearCallback h
  | requestStop =>
    cases hs
    exact h.record rfl rfl trivial ⟨hw.published, hw.installed, hw.callbacks, rfl, hw.turns,
      hw.asked, Follows.thread (s := s) hdue rfl rfl rfl rfl fun _ => rfl⟩ fun state he => by cases he
  | ask =>
    cases hs
    refine h.record rfl rfl (congrArg List.length hw.asked.symm) ⟨hw.published, hw.installed,
      hw.callbacks, hw.stopped, hw.turns, ?_, Follows.thread (s := s) hdue rfl rfl rfl rfl id⟩
      fun state he => by cases he
    show (rules.after s.history).asked ++ [(rules.after s.history).turns] = _
    rw [hw.asked, hw.turns]
  | answer question timedOut =>
    simp only [keyboardStep] at hs
    split at hs
    · cases hs
    · rename_i entryCount hentry
      split at hs
      · rename_i hends
        cases hs
        simp only [Bool.or_eq_true, decide_eq_true_eq] at hends
        refine h.record rfl rfl ⟨by rw [hw.published], entryCount, by rw [hw.asked, hentry], ?_⟩
          ⟨hw.published, hw.installed, hw.callbacks, hw.stopped, hw.turns, hw.asked, hdue⟩
          fun state he => by cases he
        rw [hw.turns]
        exact hends.symm.imp_right Ne.symm
      · cases hs

/-! ### What the rules say of a history -/

section Histories

variable {history : List KeyboardEvent}

/-- What is due is due to a callback that was installed, and nothing is due while one is called. -/
structure Watch.Sound (w : Watch) : Prop where
  due : ∀ c state, w.due = some (c, state) → c < w.callbacks
  installed : ∀ c, w.installed = some c → c < w.callbacks
  calling : ∀ c, w.calling = some c → c < w.callbacks ∧ w.due = none

theorem Watch.Sound.next {w : Watch} (h : w.Sound) {e : KeyboardEvent} (he : w.Allows e) :
    (w.next e).Sound := by
  cases e with
  | published state =>
    refine ⟨fun c k hdue => ?_, h.installed, fun c hc => ?_⟩
    · simp only [Watch.next] at hdue
      split at hdue
      · cases hdue
      · obtain ⟨c', hc', heq⟩ := Option.map_eq_some_iff.mp hdue
        cases heq
        exact h.installed c hc'
    · exact absurd (he.1.symm.trans hc) (Option.some_ne_none _).symm
  | called callback state =>
    refine ⟨(fun c k hdue => by cases hdue), h.installed, fun c hc => ?_⟩
    cases hc
    exact ⟨h.due callback state he.1, rfl⟩
  | returned callback => exact ⟨h.due, h.installed, fun c hc => by cases hc⟩
  | threw callback => exact ⟨h.due, h.installed, fun c hc => by cases hc⟩
  | cleared => exact ⟨h.due, (fun c hc => by cases hc), h.calling⟩
  | installed callback =>
    have hgrows : w.callbacks ≤ w.callbacks + callback.toList.length := Nat.le_add_right _ _
    refine ⟨fun c k hdue => (h.due c k hdue).trans_le hgrows, fun c hc => ?_,
      fun c hc => ⟨(h.calling c hc).1.trans_le hgrows, (h.calling c hc).2⟩⟩
    have hnew := he c hc
    simp only [Watch.next] at hc ⊢
    rw [hc, hnew]
    exact Nat.lt_succ_self _
  | stopRequested => exact ⟨h.due, h.installed, h.calling⟩
  | counted => exact ⟨h.due, h.installed, h.calling⟩
  | asked question => exact ⟨h.due, h.installed, h.calling⟩
  | answered question released timedOut => exact h

theorem sound_after (h : rules.Accepts history) : (rules.after history).Sound := by
  refine h.induction (P := fun log => (rules.after log).Sound)
    ⟨fun c k hc => ?_, fun c hc => ?_, fun c hc => ?_⟩ fun log e he ih => ?_
  · cases hc
  · cases hc
  · cases hc
  · rw [Framework.Monitor.after_snoc]
    exact ih.next he

theorem stopped_after (history : List KeyboardEvent) :
    (rules.after history).stopped = true ↔ .stopRequested ∈ history := by
  induction history using List.reverseRecOn with
  | nil => simp [rules]
  | append_singleton log e ih =>
    rw [Framework.Monitor.after_snoc, List.mem_append, List.mem_singleton, ← ih]
    cases e <;> simp [rules, Watch.next]

theorem known_snoc (log : List KeyboardEvent) (e : KeyboardEvent) :
    known (log ++ [e]) = (known log).next e := by
  rw [known, List.foldl_append]
  rfl

theorem told_snoc (log : List KeyboardEvent) (e : KeyboardEvent) :
    told (log ++ [e]) = told log ++ told [e] := List.filterMap_append

/-- The changes that were told, and what is left of them. -/
structure Pending (log : List KeyboardEvent) : Prop where
  published : (known log).published = (rules.after log).published
  installed : (known log).installed = (rules.after log).installed
  left : ∃ rest, (known log).changes = told log ++ rest ∧
    ((rules.after log).stopped = false → rest = (rules.after log).due.toList)

theorem pending (h : rules.Accepts history) : Pending history := by
  refine h.induction ⟨rfl, rfl, [], rfl, fun _ => rfl⟩ fun log e he ih => ?_
  obtain ⟨hpublished, hinstalled, rest, hchanges, hrest⟩ := ih
  -- an event that neither publishes nor calls
  have hother (hchanged : ((known log).next e).changes = (known log).changes)
      (htold : told [e] = []) (hp : ((known log).next e).published = ((rules.after log).next e).published)
      (hi : ((known log).next e).installed = ((rules.after log).next e).installed)
      (hstopped : ((rules.after log).next e).stopped = false → (rules.after log).stopped = false)
      (hdue : ((rules.after log).next e).due = (rules.after log).due) :
      Pending (log ++ [e]) := by
    refine ⟨?_, ?_, rest, ?_, fun hs => ?_⟩
    · rw [known_snoc, Framework.Monitor.after_snoc]
      exact hp
    · rw [known_snoc, Framework.Monitor.after_snoc]
      exact hi
    · rw [known_snoc, told_snoc, htold, List.append_nil, hchanged, hchanges]
    · rw [Framework.Monitor.after_snoc] at hs ⊢
      exact (hrest (hstopped hs)).trans (congrArg Option.toList hdue.symm)
  cases e with
  | published state =>
    refine ⟨?_, ?_, rest ++ ((rules.after log).next (.published state)).due.toList, ?_,
      fun hs => ?_⟩
    · rw [known_snoc, Framework.Monitor.after_snoc]
      rfl
    · rw [known_snoc, Framework.Monitor.after_snoc]
      exact hinstalled
    · rw [known_snoc, told_snoc, show told [KeyboardEvent.published state] = [] from rfl,
        List.append_nil, ← List.append_assoc, ← hchanges]
      simp only [Known.next, Watch.next, hpublished, hinstalled]
      split
      · rfl
      · rfl
    · rw [Framework.Monitor.after_snoc] at hs ⊢
      obtain ⟨-, -, hnone | hstopped⟩ := he
      · rw [hrest hs, hnone]
        rfl
      · exact absurd (hstopped.symm.trans hs) (Bool.true_eq_false ▸ id)
  | called callback state =>
    obtain ⟨hdue, -, -, hstopped⟩ := he
    refine ⟨?_, ?_, [], ?_, fun _ => ?_⟩
    · rw [known_snoc, Framework.Monitor.after_snoc]
      exact hpublished
    · rw [known_snoc, Framework.Monitor.after_snoc]
      exact hinstalled
    · rw [known_snoc, told_snoc, List.append_nil]
      refine hchanges.trans (congrArg (told log ++ ·) ?_)
      rw [hrest hstopped, hdue]
      rfl
    · rw [Framework.Monitor.after_snoc]
      rfl
  | returned callback => exact hother rfl rfl hpublished hinstalled id rfl
  | threw callback => exact hother rfl rfl hpublished hinstalled id rfl
  | cleared => exact hother rfl rfl hpublished rfl id rfl
  | installed callback => exact hother rfl rfl hpublished rfl id rfl
  | stopRequested => exact hother rfl rfl hpublished hinstalled (fun hs => by cases hs) rfl
  | counted => exact hother rfl rfl hpublished hinstalled id rfl
  | asked question => exact hother rfl rfl hpublished hinstalled id rfl
  | answered question released timedOut => exact hother rfl rfl hpublished hinstalled id rfl

theorem not_publication {w : Watch} {c : Nat} {e : KeyboardEvent} (he : w.Allows e)
    (hc : w.calling = some c) : ¬IsPublication e := by
  rintro ⟨state, rfl⟩
  exact absurd (he.1.symm.trans hc) (Option.some_ne_none _).symm

/-- A callback that is called is called until it ends. -/
theorem calling_next {w : Watch} {c : Nat} {e : KeyboardEvent} (he : w.Allows e)
    (hends : ¬Ends c e) (hc : w.calling = some c) : (w.next e).calling = some c := by
  cases e with
  | called callback state =>
    exact absurd (he.2.2.1.symm.trans hc) (Option.some_ne_none _).symm
  | returned callback =>
    exact absurd (.inl (congrArg KeyboardEvent.returned (Option.some.inj (he.symm.trans hc)))) hends
  | threw callback =>
    exact absurd (.inr (congrArg KeyboardEvent.threw (Option.some.inj (he.symm.trans hc)))) hends
  | _ => exact hc

theorem current_told {pre mid post : List KeyboardEvent} {c : Nat} {state : KeyboardState}
    (h : rules.Accepts (pre ++ .called c state :: (mid ++ post))) (hmid : ∀ e ∈ mid, ¬Ends c e) :
    (known pre).published = state ∧ ∀ e ∈ mid, ¬IsPublication e := by
  refine ⟨(pending h.init).published.trans h.allowed.2.1.symm, fun e he => ?_⟩
  obtain ⟨before, after, rfl⟩ := List.append_of_mem he
  have hsplit : pre ++ .called c state :: (before ++ e :: after ++ post) =
      (pre ++ [.called c state]) ++ before ++ e :: (after ++ post) := by
    simp only [List.append_assoc, List.cons_append, List.nil_append]
  rw [hsplit] at h
  have hcalling : (rules.after (pre ++ [.called c state] ++ before)).calling = some c :=
    h.init.keeps (P := fun w => w.calling = some c) (by rw [Framework.Monitor.after_snoc]; rfl)
      fun f hf w hw => calling_next hw (hmid f (List.mem_append_left _ hf))
  exact not_publication h.allowed hcalling

/-- The callback is not called again, unless it is taken after it threw. -/
structure Finished (c : Nat) (w : Watch) : Prop where
  installed : w.installed = some c → w.clearing = true
  due : ∀ state, w.due ≠ some (c, state)
  known : c < w.callbacks

theorem Finished.next {c : Nat} {w : Watch} (h : Finished c w) {e : KeyboardEvent}
    (he : w.Allows e) : Finished c (w.next e) := by
  cases e with
  | published state =>
    refine ⟨h.installed, fun k hdue => ?_, h.known⟩
    simp only [Watch.next] at hdue
    split at hdue
    · cases hdue
    · obtain ⟨c', hc', heq⟩ := Option.map_eq_some_iff.mp hdue
      cases heq
      exact absurd (he.2.1.symm.trans (h.installed hc')) Bool.false_ne_true
  | called callback state => exact ⟨h.installed, (fun k hk => by cases hk), h.known⟩
  | threw callback => exact ⟨fun _ => rfl, h.due, h.known⟩
  | cleared => exact ⟨(fun hc => by cases hc), h.due, h.known⟩
  | installed callback =>
    refine ⟨fun hc => ?_, h.due, Nat.lt_of_lt_of_le h.known (Nat.le_add_right _ _)⟩
    exact absurd (he c hc) (Nat.ne_of_lt h.known)
  | returned _ | stopRequested | counted | asked _ | answered _ _ _ =>
    exact ⟨h.installed, h.due, h.known⟩

theorem thrown_told {pre post : List KeyboardEvent} {c : Nat}
    (h : rules.Accepts (pre ++ .threw c :: post)) (state : KeyboardState) :
    .called c state ∉ post := by
  intro hmem
  obtain ⟨before, after, rfl⟩ := List.append_of_mem hmem
  have hsplit : pre ++ .threw c :: (before ++ .called c state :: after) =
      (pre ++ [.threw c]) ++ before ++ .called c state :: after := by
    simp only [List.append_assoc, List.cons_append, List.nil_append]
  have hcalling := (sound_after h.init).calling c h.allowed
  rw [hsplit] at h
  have hfinished : Finished c (rules.after (pre ++ [.threw c] ++ before)) := by
    refine h.init.keeps ?_ fun _ _ _ he hw => hw.next he
    rw [Framework.Monitor.after_snoc]
    refine ⟨fun _ => rfl, fun k hk => ?_, hcalling.1⟩
    exact absurd (hcalling.2.symm.trans hk) (Option.some_ne_none _).symm
  exact hfinished.due state h.allowed.1

/-- A change that is due to `c`. -/
def dueTo (c : Nat) (w : Watch) : Nat := (w.due.toList.filter (·.1 = c)).length

theorem dueTo_le (c : Nat) (w : Watch) : dueTo c w ≤ 1 := by
  unfold dueTo
  cases w.due with
  | none => exact Nat.zero_le 1
  | some d => exact List.length_filter_le _ _

theorem replaced_told {pre post : List KeyboardEvent} {c : Nat} {installed : Option Nat}
    (h : rules.Accepts (pre ++ .installed installed :: post))
    (hc : (known pre).installed = some c) : ((told post).filter (·.1 = c)).length ≤ 1 := by
  have hpre := (pending h.init).installed.symm.trans hc
  have hlt := (sound_after h.init).installed c hpre
  have hnew : installed ≠ some c := fun he => Nat.ne_of_lt hlt (h.allowed c he)
  have hsplit : pre ++ .installed installed :: post = (pre ++ [.installed installed]) ++ post := by
    simp only [List.append_assoc, List.cons_append, List.nil_append]
  rw [hsplit] at h
  clear hsplit
  -- `c` is not installed any more, so that no change becomes due to it
  have hcount : ((told post).filter (·.1 = c)).length +
        dueTo c (rules.after (pre ++ [.installed installed] ++ post)) ≤ 1 ∧
      (rules.after (pre ++ [.installed installed] ++ post)).installed ≠ some c ∧
      c < (rules.after (pre ++ [.installed installed] ++ post)).callbacks := by
    induction post using List.reverseRecOn with
    | nil =>
      rw [List.append_nil, Framework.Monitor.after_snoc]
      exact ⟨(Nat.zero_add _).trans_le (dueTo_le c _), hnew,
        Nat.lt_of_lt_of_le hlt (Nat.le_add_right _ _)⟩
    | append_singleton post e ih =>
      rw [← List.append_assoc] at h ⊢
      obtain ⟨hpost, he⟩ := Framework.Monitor.accepts_snoc.mp h
      obtain ⟨hone, hinstalled, hknown⟩ := ih hpost
      rw [Framework.Monitor.after_snoc, told_snoc, List.filter_append, List.length_append]
      cases e with
      | published state =>
        refine ⟨?_, hinstalled, hknown⟩
        have hnone : dueTo c ((rules.after (pre ++ [.installed installed] ++ post)).next
            (.published state)) = 0 := by
          simp only [dueTo, Watch.next, List.length_eq_zero_iff, List.filter_eq_nil_iff]
          intro d hd
          split at hd
          · cases hd
          · obtain ⟨c', hc', rfl⟩ := Option.map_eq_some_iff.mp (Option.mem_toList.mp hd)
            exact fun heq => hinstalled (hc'.trans (congrArg some (of_decide_eq_true heq)))
        show _ + 0 + dueTo c ((rules.after _).next _) ≤ 1
        omega
      | called callback state =>
        refine ⟨?_, hinstalled, hknown⟩
        have hdue : dueTo c (rules.after (pre ++ [.installed installed] ++ post)) =
            ((told [.called callback state]).filter (·.1 = c)).length := by
          rw [dueTo, he.1]
          rfl
        rw [hdue] at hone
        exact hone
      | installed callback =>
        refine ⟨hone, fun hc' => ?_, Nat.lt_of_lt_of_le hknown (Nat.le_add_right _ _)⟩
        exact absurd (he c hc') (Nat.ne_of_lt hknown)
      | cleared => exact ⟨hone, (fun hc' => by cases hc'), hknown⟩
      | returned _ | threw _ | stopRequested | counted | asked _ | answered _ _ _ =>
        exact ⟨hone, hinstalled, hknown⟩
  omega

/-- The turns that have ended since a question was asked. -/
theorem asked_since (h : rules.Accepts history) {question n : Nat}
    (hasked : (rules.after history).asked[question]? = some n) :
    ∃ before since, history = before ++ .asked question :: since ∧
      (n ≠ (rules.after history).turns → .counted ∈ since) := by
  refine h.induction (P := fun log => (rules.after log).asked[question]? = some n →
    ∃ before since, log = before ++ .asked question :: since ∧
      (n ≠ (rules.after log).turns → .counted ∈ since)) (fun hnone => by cases hnone) ?_ hasked
  intro log e he ih hasked
  rw [Framework.Monitor.after_snoc] at hasked ⊢
  have hold (hsame : ((rules.after log).next e).asked = (rules.after log).asked)
      (hturns : ((rules.after log).next e).turns = (rules.after log).turns ∨ e = .counted) :
      ∃ before since, log ++ [e] = before ++ .asked question :: since ∧
        (n ≠ ((rules.after log).next e).turns → .counted ∈ since) := by
    obtain ⟨before, since, rfl, hsince⟩ := ih (hsame ▸ hasked)
    refine ⟨before, since ++ [e], by simp, fun hn => ?_⟩
    rcases hturns with hturns | rfl
    · exact List.mem_append_left _ (hsince (hturns ▸ hn))
    · exact List.mem_append_right _ List.mem_cons_self
  cases e with
  | asked q =>
    change ((rules.after log).asked ++ [(rules.after log).turns])[question]? = some n at hasked
    by_cases hlt : question < (rules.after log).asked.length
    · have hask : (rules.after log).asked[question]? = some n := by
        rw [← hasked]
        exact (List.getElem?_append_left hlt).symm
      obtain ⟨before, since, rfl, hsince⟩ := ih hask
      exact ⟨before, since ++ [.asked q], by simp, fun hn => List.mem_append_left _ (hsince hn)⟩
    · have hq : question = (rules.after log).asked.length := by
        have := (List.getElem?_eq_some_iff.mp hasked).1
        simp only [List.length_append, List.length_singleton] at this
        omega
      have hn : n = (rules.after log).turns := by
        rw [hq, List.getElem?_concat_length] at hasked
        exact (Option.some.inj hasked).symm
      refine ⟨log, [], by rw [he, hq], fun hne => absurd hn hne⟩
  | counted => exact hold rfl (.inr rfl)
  | _ => exact hold rfl (.inl rfl)

theorem told_of_accepts (h : rules.Accepts history) : Told history where
  inOrder := by
    obtain ⟨rest, hrest, -⟩ := (pending h).left
    exact ⟨rest, hrest.symm⟩
  complete hstop := by
    obtain ⟨rest, hrest, hdue⟩ := (pending h).left
    have hrunning : (rules.after history).stopped = false :=
      Bool.eq_false_iff.mpr fun hs => hstop ((stopped_after history).mp hs)
    rw [hrest, List.length_append, hdue hrunning]
    exact Nat.add_le_add_left (by cases (rules.after history).due <;> simp) _
  stopped pre c state post he hmem := by
    have hallowed := (he ▸ h).allowed
    exact absurd (((stopped_after pre).mpr hmem).symm.trans hallowed.2.2.2).symm Bool.false_ne_true
  current pre c state mid post he hmid := current_told (he ▸ h) hmid
  thrown pre c post he state := thrown_told (he ▸ h) state
  replaced pre c installed post he hc := replaced_told (he ▸ h) hc
  answered pre question released timedOut post he := by
    have hpre := he ▸ h
    obtain ⟨hreleased, n, hasked, htime⟩ := hpre.allowed
    refine ⟨?_, ?_⟩
    · rw [(pending hpre.init).published]
      exact hreleased
    · obtain ⟨before, since, heq, hsince⟩ := asked_since hpre.init hasked
      exact ⟨before, since, heq, htime.imp_right hsince⟩

end Histories

/-- In every order of the steps of the worker and the other threads, the callbacks are told the
changes of what is published, and all that is published was captured. -/
theorem keyboard_callbacks {actions : List KeyboardAction} {s : Keyboard}
    (h : run keyboardStep {} actions = some s) :
    Told s.history ∧ ∀ state, .published state ∈ s.history → Captures state := by
  have hs := run_invariant (fun s a t hs ht => orderly_step hs ht) orderly_start h
  exact ⟨told_of_accepts hs.accepted, hs.captures⟩

/-- The only device is a keyboard whose key A is pressed. -/
def keyboardDirectory : Directory :=
  .lists [⟨"event0".toList, true, .ok {
    bustype := { result := .ok 3 }
    capabilities := { result := .ok fun _ => 0xFFFFFFFFFFFFFFFF } }⟩] 0

def pressedReplies : CaptureReplies where
  keys := { result := .ok fun word => if word = 0 then 0x40000000 else 0 }
  leds := { result := .ok fun _ => 0 }

/-- The callback is told the key, and throws; it has been replaced meanwhile. -/
def pressedActions : List KeyboardAction :=
  [.setCallback true, .ask, .capture keyboardDirectory fun _ => pressedReplies, .publish,
    .setCallback true, .check, .finishCallback true, .clear, .count, .answer 0 false, .requestStop,
    .leave]

theorem keyboard_callbacks_pressed : ∃ s, run keyboardStep {} pressedActions = some s ∧
    Told s.history ∧ ∀ state, .published state ∈ s.history → Captures state := by
  have hsome : (run keyboardStep {} pressedActions).isSome = true := by decide +kernel
  obtain ⟨s, hs⟩ := Option.isSome_iff_exists.mp hsome
  exact ⟨s, hs, keyboard_callbacks hs⟩

/-- The first callback is told the letter, the second one was cleared in its place. -/
example : (run keyboardStep {} pressedActions).map
    (fun s => ((told s.history).map fun t => (t.1, t.2.getASCII), s.callback)) =
      some ([(0, 97)], none) := by
  decide +kernel

end WSE.Proof.Iui
