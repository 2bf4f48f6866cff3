import NewGrf.Proofs.Escapes

open List

namespace NewGrf

namespace Text

theorem digitIn?_lt {base d : Nat} {c : Char} (h : digitIn? base c = some d) : d < base := by
  obtain ⟨-, small⟩ := Option.filter_eq_some_iff.1 h
  exact of_decide_eq_true small

theorem digitsIn?_lt {cs : List Char} {value n : Nat} (h : digitsIn? 16 cs value = some n) :
    n < (value + 1) * 16 ^ cs.length := by
  have step {c : Char} {rest : List Char} {value : Nat}
      (ih : ∀ d, digitsIn? 16 rest (value * 16 + d) = some n →
        n < (value * 16 + d + 1) * 16 ^ rest.length)
      (h : ((digitIn? 16 c).bind fun d => digitsIn? 16 rest (value * 16 + d)) = some n) :
      n < (value + 1) * 16 ^ (rest.length + 1) := by
    obtain ⟨d, isDigit, h⟩ := Option.bind_eq_some_iff.1 h
    have small := digitIn?_lt isDigit
    calc n < (value * 16 + d + 1) * 16 ^ rest.length := ih d h
      _ ≤ ((value + 1) * 16) * 16 ^ rest.length := Nat.mul_le_mul_right _ (by omega)
      _ = (value + 1) * 16 ^ (rest.length + 1) := by rw [Nat.mul_assoc, Nat.pow_succ']
  induction cs, value using digitsIn?.induct 16 with
  | case1 value =>
    simp only [digitsIn?, Option.some.injEq] at h
    simp [h]
  | case2 c rest value ih =>
    rw [digitsIn?] at h
    refine Nat.lt_of_lt_of_le (step ih h) (Nat.mul_le_mul_left _ ?_)
    exact Nat.pow_le_pow_right (by decide) (Nat.le_succ _)
  | case3 c rest value other ih =>
    rw [digitsIn?] at h
    · exact step ih h
    · exact other

theorem naturalIn?_lt {cs : List Char} {n : Nat} (h : naturalIn? 16 cs = some n) :
    n < 16 ^ cs.length := by
  cases cs with
  | nil => cases h
  | cons c rest =>
    obtain ⟨d, isDigit, h⟩ := Option.bind_eq_some_iff.1 h
    calc n < (d + 1) * 16 ^ rest.length := digitsIn?_lt h
      _ ≤ 16 * 16 ^ rest.length := Nat.mul_le_mul_right _ (digitIn?_lt isDigit)
      _ = 16 ^ (rest.length + 1) := (Nat.pow_succ' ..).symm

theorem length_strip_le (cs : List Char) : (strip cs).length ≤ cs.length := by
  rw [strip, length_reverse]
  calc _ ≤ (cs.dropWhile isBlank).reverse.length := (dropWhile_sublist _).length_le
    _ ≤ cs.length := by
      rw [length_reverse]
      exact (dropWhile_sublist _).length_le

theorem length_dropBaseMark_le (base : Nat) (cs : List Char) :
    (dropBaseMark base cs).length ≤ cs.length := by
  unfold dropBaseMark
  split
  · split
    · split <;> simp <;> omega
    · simp
  · simp

/-- Two digits are a number of one byte. -/
theorem integerIn?_small {cs : List Char} {v : Int} (h : integerIn? 16 cs = some v)
    (short : cs.length ≤ 2) : v < 256 := by
  have length := length_strip_le cs
  have natural {rest : List Char} {n : Nat} (few : rest.length ≤ 2)
      (h : naturalIn? 16 (dropBaseMark 16 rest) = some n) : n < 256 := by
    calc n < 16 ^ (dropBaseMark 16 rest).length := naturalIn?_lt h
      _ ≤ 16 ^ 2 := Nat.pow_le_pow_right (by decide)
        (Nat.le_trans (length_dropBaseMark_le 16 rest) few)
  unfold integerIn? at h
  split at h
  case h_1 rest same =>
    rw [same, length_cons] at length
    simp [Option.bind_eq_some_iff] at h
    obtain ⟨n, isNatural, rfl⟩ := h
    omega
  case h_2 rest same =>
    rw [same, length_cons] at length
    simp [Option.bind_eq_some_iff] at h
    obtain ⟨n, isNatural, rfl⟩ := h
    have := natural (by omega) isNatural
    omega
  case h_3 =>
    simp [Option.bind_eq_some_iff] at h
    obtain ⟨n, isNatural, rfl⟩ := h
    have := natural (by omega) isNatural
    omega

/-- A character that is no digit, sign or blank begins no number. -/
theorem integerIn?_eq_none {c : Char} {cs : List Char} (blank : isBlank c = false)
    (minus : c ≠ '-') (plus : c ≠ '+') (zero : c ≠ '0') (digit : digitIn? 16 c = none) :
    integerIn? 16 (c :: cs) = none := by
  obtain ⟨more, begins⟩ : ∃ more, strip (c :: cs) = c :: more := by
    rw [strip, dropWhile_cons_of_neg (by simp [blank]), reverse_cons, dropWhile_append]
    split
    · exact ⟨[], by simp [blank]⟩
    · exact ⟨(cs.reverse.dropWhile isBlank).reverse, by simp⟩
  have natural : naturalIn? 16 (dropBaseMark 16 (c :: more)) = none := by
    have same : dropBaseMark 16 (c :: more) = c :: more := by
      unfold dropBaseMark
      split
      · simp_all
      · rfl
    rw [same, naturalIn?, digit]
    rfl
  rw [integerIn?, begins]
  split
  · simp_all
  · simp_all
  · rw [natural]
    rfl

theorem Glyph.size_of_isAscii {g : Glyph} (ascii : g.isAscii = true) : g.size = 1 := by
  cases g with
  | char c =>
    have small : c.toNat < 0x7B := of_decide_eq_true ascii
    rw [Glyph.size, utf8Size, if_pos (by omega)]
  | wide => cases ascii
  | _ => rfl

theorem total_size {gs : List Glyph} (ascii : gs.all Glyph.isAscii = true) :
    Number.total (gs.map Glyph.size) = gs.length := by
  induction gs with
  | nil => rfl
  | cons g gs ih =>
    rw [all_cons, Bool.and_eq_true] at ascii
    rw [map_cons, Number.total_cons, Glyph.size_of_isAscii ascii.1, ih ascii.2, length_cons,
      Nat.add_comm]

theorem size_of_isAscii {s : String} (ascii : isAscii s = true) :
    size s false = (glyphs s.toList).length := by
  unfold isAscii at ascii
  rw [size, if_pos ascii, total_size ascii]
  simp

end Text

theorem bitOr_byte {a r : Int} (low : 0 ≤ a) (high : a < 256) (rest : 0 ≤ r) :
    Number.bitOr a (Number.shiftLeft r 8) = a + 256 * r := by
  obtain ⟨a, rfl⟩ := Int.eq_ofNat_of_zero_le low
  obtain ⟨r, rfl⟩ := Int.eq_ofNat_of_zero_le rest
  have small : a < 2 ^ 8 := by omega
  have shifted : Number.shiftLeft (r : Int) 8 = Int.ofNat (2 ^ 8 * r) := by
    rw [Number.shiftLeft, show Number.twoPow 8 = 2 ^ 8 from rfl]
    simp [Int.mul_comm]
  rw [shifted]
  change Int.ofNat (a ||| 2 ^ 8 * r) = _
  rw [Nat.or_comm, ← Nat.two_pow_add_eq_or_of_lt small]
  simp
  omega

theorem littleEndian_four {a b c d : Int} (low : ∀ x ∈ [a, b, c, d], 0 ≤ x)
    (high : ∀ x ∈ [a, b, c, d], x < 256) :
    littleEndian [a, b, c, d] = a + 256 * (b + 256 * (c + 256 * d)) := by
  simp only [forall_mem_cons, not_mem_nil, false_implies, implies_true, and_true] at low high
  simp only [littleEndian, foldr_cons, foldr_nil]
  rw [bitOr_byte low.2.2.2 high.2.2.2 (by decide), bitOr_byte low.2.2.1 high.2.2.1 (by omega),
    bitOr_byte low.2.1 high.2.1 (by omega), bitOr_byte low.1 high.1 (by omega)]
  omega

namespace Text

variable {g : Glyph} {gs : List Glyph} {s : String}

theorem Glyph.wide_read {digits : List Char} (whole : (wide digits).Whole) :
    integerIn? 16 digits = some (hexadecimal digits : Int) := by
  obtain ⟨length, hex⟩ := whole
  exact integerIn?_hex (ne_nil_of_length_pos (by omega)) hex

theorem Glyph.byte_read {digits : List Char} (whole : (byte digits).Whole) :
    integerIn? 16 digits = some (hexadecimal digits : Int) := by
  obtain ⟨length, hex⟩ := whole
  exact integerIn?_hex (ne_nil_of_length_pos (by omega)) hex

theorem Glyph.length_utf8 (code : Nat) : (utf8 code).length = utf8Size code := by
  simp only [utf8, utf8Size]
  split_ifs <;> first | rfl | omega

/-- A unit has as many bytes as its size says. -/
theorem Glyph.length_bytes (whole : g.Whole) : g.bytes.length = g.size := by
  cases g with
  | char c => exact length_utf8 c.toNat
  | wide digits =>
    rw [bytes, size, wide_read whole, Option.getD_some, Int.toNat_natCast, length_utf8]
  | quoted | byte => rfl

theorem length_flatMap_glyphs (whole : ∀ g ∈ gs, g.Whole) :
    (gs.flatMap Glyph.bytes).length = Number.total (gs.map Glyph.size) := by
  induction gs with
  | nil => rfl
  | cons g gs ih =>
    rw [forall_mem_cons] at whole
    rw [flatMap_cons, length_append, Glyph.length_bytes whole.1, ih whole.2, map_cons,
      Number.total_cons]

theorem Escaped.length_bytes (escaped : Escaped s) (finalZero : Bool) :
    (bytes s finalZero).length = size s finalZero := by
  simp only [bytes, size, length_append, length_flatMap_glyphs escaped]
  split_ifs <;> simp [unicodeMark] <;> omega

theorem Glyph.isSurrogate_wide {digits : List Char} (whole : (wide digits).Whole) :
    (wide digits).isSurrogate = true ↔
      0xD800 ≤ hexadecimal digits ∧ hexadecimal digits < 0xE000 := by
  simp only [isSurrogate, wide_read whole, Option.getD_some, Bool.and_eq_true, decide_eq_true_eq]
  omega

/-- The characters without bytes are the halves of pairs. -/
theorem Escaped.hasSurrogate_eq_false_iff (escaped : Escaped s) : hasSurrogate s = false ↔
    ∀ digits, .wide digits ∈ glyphs s.toList →
      ¬(0xD800 ≤ hexadecimal digits ∧ hexadecimal digits < 0xE000) := by
  rw [hasSurrogate, any_eq_false]
  constructor
  · intro none digits mem
    rw [← Glyph.isSurrogate_wide (escaped _ mem)]
    exact none _ mem
  · intro none g mem
    cases g with
    | wide digits =>
      rw [Glyph.isSurrogate_wide (escaped _ mem)]
      exact none digits mem
    | _ => exact Bool.false_ne_true

theorem hasSurrogate_of_isAscii (ascii : isAscii s = true) : hasSurrogate s = false := by
  refine any_eq_false.2 fun g mem surrogate => ?_
  have plain := all_eq_true.1 ascii g mem
  cases g with
  | wide => cases plain
  | _ => cases surrogate

end Text

open Text

/-- A text with complete escapes is written with as many bytes as its size says exactly if no escape
in it stands for half of a pair. -/
theorem Grf.text_has_size_iff {s : String} {pos} (accepted : escapeFault? s pos = none)
    (finalZero : Bool) (g : Grf) :
    (∃ g' bytes, Grf.text s finalZero false g = .ok () g' ∧
      g'.data = ByteArray.pushAll g.data bytes ∧ bytes.length = Text.size s finalZero ∧
      g'.count = g.count + Text.size s finalZero) ↔
    ∀ digits, .wide digits ∈ glyphs s.toList →
      ¬(0xD800 ≤ hexadecimal digits ∧ hexadecimal digits < 0xE000) := by
  have escaped := escaped_of_accepted accepted
  rw [← escaped.hasSurrogate_eq_false_iff]
  constructor
  · rintro ⟨g', -, written, -⟩
    exact (Grf.text_eq_ok_iff.1 written).2.1
  · intro encodable
    refine ⟨_, Text.bytes s finalZero, Grf.text_eq_ok_iff.2 ⟨rfl, encodable, rfl⟩, rfl,
      escaped.length_bytes finalZero, ?_⟩
    rw [← escaped.length_bytes finalZero]
    rfl

/-- Half of a pair is accepted as an escape of three bytes, but cannot be written. -/
theorem Grf.half_pair_not_written : escapeFault? "\\UD800" none = none ∧
    ¬∃ g' bytes, Grf.text "\\UD800" true false {} = .ok () g' ∧
      g'.data = ByteArray.pushAll .empty bytes ∧ bytes.length = 6 ∧ g'.count = 6 := by
  have units : glyphs "\\UD800".toList = [.wide ['D', '8', '0', '0']] := by simp [glyphs]
  have accepted : escapeFault? "\\UD800" none = none := by
    rw [escapeFault?, units]
    rfl
  have length : Text.size "\\UD800" = 6 := by
    rw [Text.size, units]
    rfl
  refine ⟨accepted, ?_⟩
  rintro ⟨g', bytes, written, data, few, count⟩
  refine (Grf.text_has_size_iff accepted true {}).1
    ⟨g', bytes, written, data, few.trans length.symm, ?_⟩ _ (units ▸ mem_cons_self) (by decide)
  rw [count, length]

namespace Text

variable {g : Glyph} {gs : List Glyph} {s : String}

/-- The value of a unit of one byte. -/
def Glyph.value : Glyph → Nat
  | char c | quoted c => c.toNat
  | wide digits | byte digits => hexadecimal digits

theorem Glyph.bytes_of_isAscii (whole : g.Whole) (ascii : g.isAscii = true) :
    g.bytes = [g.value.toUInt8] ∧ g.value < 256 := by
  cases g with
  | char c =>
    have low : c.toNat < 0x7B := of_decide_eq_true ascii
    refine ⟨?_, by rw [value]; omega⟩
    rw [bytes, utf8, if_pos (by omega), value]
  | quoted c => rcases whole with rfl | rfl <;> exact ⟨rfl, by decide⟩
  | wide => cases ascii
  | byte digits =>
    have read := byte_read whole
    refine ⟨?_, ?_⟩
    · rw [bytes, read, Option.getD_some, toUInt8_low, value]
    · exact Int.ofNat_lt.1 (integerIn?_small read (Nat.le_of_eq whole.1))

theorem flatMap_bytes_of_isAscii (whole : ∀ g ∈ gs, g.Whole) (ascii : gs.all Glyph.isAscii = true) :
    gs.flatMap Glyph.bytes = gs.map fun g => g.value.toUInt8 := by
  induction gs with
  | nil => rfl
  | cons g gs ih =>
    rw [forall_mem_cons] at whole
    rw [all_cons, Bool.and_eq_true] at ascii
    rw [flatMap_cons, (Glyph.bytes_of_isAscii whole.1 ascii.1).1, ih whole.2 ascii.2, map_cons,
      singleton_append]

/-- A unit of a label is read as its value, unless it is a character behind a backslash. -/
theorem labelBytes?_spell (whole : g.Whole) (ascii : g.isAscii = true) (n : Nat)
    (rest : List Char) : labelBytes? (n + 1) (g.spell ++ rest) =
      if g = .quoted '\\' ∨ g = .quoted '"' then none
      else (labelBytes? n rest).map ((g.value : Int) :: ·) := by
  cases g with
  | char c =>
    rw [if_neg (by simp), Glyph.spell, singleton_append, labelBytes?]
    · rfl
    · exact whole
  | quoted c =>
    have unread : integerIn? 16 (take 2 (c :: rest)) = none := by
      rcases whole with rfl | rfl <;>
        exact integerIn?_eq_none rfl (by decide) (by decide) (by decide) rfl
    rw [if_pos (by simpa [Glyph.Whole] using whole), Glyph.spell, cons_append, cons_append,
      nil_append, labelBytes?, unread]
    rfl
  | wide => cases ascii
  | byte digits =>
    rw [if_neg (by simp), Glyph.spell, cons_append, labelBytes?, take_left' whole.1,
      drop_left' whole.1, Glyph.byte_read whole]
    cases labelBytes? n rest <;> rfl

/-- A label is read unit by unit, if none of them is a character behind a backslash. -/
theorem labelBytes?_glyphs (whole : ∀ g ∈ gs, g.Whole) (ascii : gs.all Glyph.isAscii = true) :
    labelBytes? gs.length (gs.flatMap Glyph.spell) =
      if .quoted '\\' ∈ gs ∨ .quoted '"' ∈ gs then none
      else some (gs.map fun g => (g.value : Int)) := by
  induction gs with
  | nil => rfl
  | cons g gs ih =>
    rw [forall_mem_cons] at whole
    rw [all_cons, Bool.and_eq_true] at ascii
    rw [length_cons, flatMap_cons, labelBytes?_spell whole.1 ascii.1, ih whole.2 ascii.2]
    by_cases own : g = .quoted '\\' ∨ g = .quoted '"'
    · rw [if_pos own, if_pos (own.imp (by simp [·]) (by simp [·]))]
    · rw [not_or] at own
      have same : (.quoted '\\' ∈ g :: gs ∨ .quoted '"' ∈ g :: gs) ↔
          .quoted '\\' ∈ gs ∨ .quoted '"' ∈ gs := by
        simp [Ne.symm own.1, Ne.symm own.2]
      rw [if_neg (not_or.2 own)]
      simp only [same]
      split_ifs <;> rfl

end Text

/-- A label of four bytes is written as such, and its number is that of the bytes exactly if no
backslash and no quote in it has a backslash in front. Such labels have no number. -/
theorem Expr.label_of_bytes_iff {s : String} {pos p} (accepted : escapeFault? s pos = none)
    (four : asciiSize s false = .ok 4) (g : Grf) :
    ∃ g' : Grf, ∃ a b c d : UInt8, Grf.text s false true g = .ok () g' ∧
      g'.data = ByteArray.pushAll g.data [a, b, c, d] ∧
      ((Expr.literal s p).label =
          .ok (a.toNat + 256 * (b.toNat + 256 * (c.toNat + 256 * d.toNat)) : Nat) ↔
        ∀ q, .quoted q ∉ glyphs s.toList) ∧
      ((∃ q, .quoted q ∈ glyphs s.toList) → (Expr.literal s p).label =
        .error { cause := .script "Cannot convert string to integer id", pos := p }) := by
  have escaped := escaped_of_accepted accepted
  obtain ⟨ascii, size⟩ : isAscii s = true ∧ Text.size s false = 4 := by
    unfold asciiSize at four
    split at four
    · exact ⟨‹_›, Except.ok.inj four⟩
    · cases four
  have count := (size_of_isAscii ascii).symm.trans size
  have read := labelBytes?_glyphs escaped ascii
  rw [flatMap_spell_glyphs, count] at read
  have bytes : Text.bytes s false = (glyphs s.toList).map fun g => g.value.toUInt8 := by
    rw [← flatMap_bytes_of_isAscii escaped ascii, Text.bytes, if_pos (by exact ascii)]
    simp
  have small : ∀ g ∈ glyphs s.toList, g.value < 256 := fun g mem =>
    (Glyph.bytes_of_isAscii (escaped g mem) (all_eq_true.1 ascii g mem)).2
  have written : Grf.text s false true g = .ok () (g.append (Text.bytes s false)) :=
    Grf.text_eq_ok_iff.2 ⟨by rw [ascii]; rfl, hasSurrogate_of_isAscii ascii, rfl⟩
  obtain ⟨x, y, z, w, units⟩ := length_eq_four.1 count
  refine ⟨_, x.value.toUInt8, y.value.toUInt8, z.value.toUInt8, w.value.toUInt8, written, by
    rw [Grf.append, bytes, units]; rfl, ?_⟩
  by_cases quoted : ∃ q, .quoted q ∈ glyphs s.toList
  · have refused : (Expr.literal s p).label =
        .error { cause := .script "Cannot convert string to integer id", pos := p } := by
      obtain ⟨q, mem⟩ := quoted
      rw [if_pos (by rcases quoted_of_mem_glyphs mem with rfl | rfl <;> simp [mem])] at read
      simp only [label, ascii, size, read]
      rfl
    rw [refused]
    refine ⟨⟨fun h => ?_, fun none => absurd quoted (not_exists.2 none)⟩, fun _ => rfl⟩
    cases h
  · have none := not_exists.1 quoted
    rw [if_neg (by simp [none]), units] at read
    rw [units] at small
    simp only [forall_mem_cons, not_mem_nil, false_implies, implies_true, and_true] at small
    have number : (Expr.literal s p).label =
        .ok (littleEndian [x.value, y.value, z.value, w.value]) := by
      simp only [label, ascii, size, read]
      rfl
    refine ⟨⟨fun _ => none, fun _ => ?_⟩, fun some => absurd some quoted⟩
    rw [number, littleEndian_four (by simp) (by simp; omega)]
    simp only [Nat.toUInt8_eq, UInt8.toNat_ofNat', Nat.mod_eq_of_lt small.1,
      Nat.mod_eq_of_lt small.2.1, Nat.mod_eq_of_lt small.2.2.1, Nat.mod_eq_of_lt small.2.2.2]
    congr 1

/-- A backslash in a label is one byte of it, but leaves it without a number. -/
theorem Expr.backslash_label_refused : escapeFault? "\\\\abc" none = none ∧
    asciiSize "\\\\abc" false = .ok 4 ∧ (Expr.literal "\\\\abc" none).label =
      .error { cause := .script "Cannot convert string to integer id", pos := none } := by
  have units : glyphs "\\\\abc".toList = [.quoted '\\', .char 'a', .char 'b', .char 'c'] := by
    simp [glyphs]
  have accepted : escapeFault? "\\\\abc" none = none := by
    rw [escapeFault?, units]
    rfl
  have four : asciiSize "\\\\abc" false = .ok 4 := by
    rw [asciiSize, isAscii, Text.size, units]
    rfl
  obtain ⟨_, _, _, _, _, -, -, -, refused⟩ := label_of_bytes_iff (p := none) accepted four {}
  exact ⟨accepted, four, refused ⟨_, units ▸ mem_cons_self⟩⟩

end NewGrf
