import Mathlib.Data.List.Basic
import NewGrf.Output.Nfo
import NewGrf.Proofs.Bytes

open List

namespace NewGrf.Text

namespace Glyph

/-- The characters of a unit. -/
def spell : Glyph → List Char
  | char c => [c]
  | quoted c => ['\\', c]
  | wide digits => '\\' :: 'U' :: digits
  | byte digits => '\\' :: digits

/-- A unit with all of its digits. -/
def Whole : Glyph → Prop
  | char c => c ≠ '\\'
  | quoted c => c = '\\' ∨ c = '"'
  | wide digits => digits.length = 4 ∧ ∀ d ∈ digits, isHexDigit d = true
  | byte digits => digits.length = 2 ∧ ∀ d ∈ digits, isHexDigit d = true

end Glyph

variable {c : Char} {cs digits : List Char}

theorem lt_of_isHexDigit (hex : isHexDigit c = true) : c.toNat < 128 := by
  have below {d : Char} (h : c ≤ d) (small : d.toNat < 128) : c.toNat < 128 :=
    Nat.lt_of_le_of_lt (UInt32.le_iff_toNat_le.1 h) small
  simp only [isHexDigit, hexDigit?] at hex
  split_ifs at hex with h h h
  · exact below h.2 (by decide)
  · exact below h.2 (by decide)
  · exact below h.2 (by decide)
  · cases hex

/-- What all digits have in common is shown for each of them. -/
theorem of_isHexDigit {P : Char → Prop} [DecidablePred P]
    (each : ∀ n < 128, isHexDigit (.ofNat n) = true → P (.ofNat n)) (hex : isHexDigit c = true) :
    P c := by
  have := each c.toNat (lt_of_isHexDigit hex)
  rw [Char.ofNat_toNat] at this
  exact this hex

theorem isHexDigit_plain (hex : isHexDigit c = true) : c ≠ '\\' ∧ c ≠ '"' ∧ c ≠ 'U' :=
  of_isHexDigit (P := fun c => c ≠ '\\' ∧ c ≠ '"' ∧ c ≠ 'U') (by decide) hex

theorem digitsIn?_hex (hex : ∀ d ∈ digits, isHexDigit d = true) (n : Nat) : digitsIn? 16 digits n =
    some (digits.foldl (fun n c => n * 16 + (hexDigit? c).getD 0) n) := by
  induction digits generalizing n with
  | nil => rfl
  | cons c rest ih =>
    rw [forall_mem_cons] at hex
    obtain ⟨plain, digit⟩ := of_isHexDigit
      (P := fun c => c ≠ '_' ∧ digitIn? 16 c = some ((hexDigit? c).getD 0)) (by decide) hex.1
    rw [digitsIn?, digit, Option.bind_some, ih hex.2, foldl_cons]
    rintro _ _ rfl
    exact absurd rfl plain

theorem strip_hex (hex : ∀ d ∈ digits, isHexDigit d = true) : strip digits = digits := by
  have kept {cs : List Char} (hex : ∀ d ∈ cs, isHexDigit d = true) : cs.dropWhile isBlank = cs := by
    cases cs with
    | nil => rfl
    | cons c cs =>
      exact dropWhile_cons_of_neg (of_isHexDigit (P := fun c => ¬isBlank c = true) (by decide)
        (hex c mem_cons_self))
  rw [strip, kept hex, kept fun d mem => hex d (mem_reverse.1 mem), reverse_reverse]

/-- Hexadecimal digits are read as the number that they stand for. -/
theorem integerIn?_hex (notEmpty : digits ≠ []) (hex : ∀ d ∈ digits, isHexDigit d = true) :
    integerIn? 16 digits = some (hexadecimal digits : Int) := by
  obtain ⟨c, rest, rfl⟩ := exists_cons_of_ne_nil notEmpty
  obtain ⟨first, more⟩ := forall_mem_cons.1 hex
  obtain ⟨minus, plus, digit⟩ := of_isHexDigit
    (P := fun c => c ≠ '-' ∧ c ≠ '+' ∧ digitIn? 16 c = some ((hexDigit? c).getD 0)) (by decide)
    first
  have unmarked : dropBaseMark 16 (c :: rest) = c :: rest := by
    unfold dropBaseMark
    split
    · rename_i x more same
      obtain ⟨rfl, rfl⟩ := cons.inj same
      have plain := of_isHexDigit (P := fun c => c.toLower ≠ 'x') (by decide) (hex x (by simp))
      simp [baseMark?, plain.symm]
    · rfl
  have natural : naturalIn? 16 (c :: rest) = some (hexadecimal (c :: rest)) := by
    rw [naturalIn?, digit, Option.bind_some, digitsIn?_hex more, hexadecimal, foldl_cons,
      Nat.zero_mul, Nat.zero_add]
  rw [integerIn?, strip_hex hex]
  split <;> simp_all

theorem glyphs_char (other : c ≠ '\\') (rest : List Char) :
    glyphs (c :: rest) = .char c :: glyphs rest := by
  rw [glyphs] <;> intros <;> simp_all

theorem glyphs_spell_append {g : Glyph} (whole : g.Whole) (rest : List Char) :
    glyphs (g.spell ++ rest) = g :: glyphs rest := by
  cases g with
  | char c => exact glyphs_char whole rest
  | quoted c => rcases whole with rfl | rfl <;> simp [Glyph.spell, glyphs]
  | wide digits =>
    obtain ⟨length, -⟩ := whole
    simp [Glyph.spell, glyphs, ← length]
  | byte digits =>
    obtain ⟨length, hex⟩ := whole
    obtain ⟨a, b, rfl⟩ := length_eq_two.1 length
    obtain ⟨bs, quote, u⟩ := isHexDigit_plain (hex a (by simp))
    rw [Glyph.spell, cons_append, glyphs]
    · simp
    all_goals simp_all

theorem glyphs_flatMap_spell {gs : List Glyph} (whole : ∀ g ∈ gs, g.Whole) (rest : List Char) :
    glyphs (gs.flatMap Glyph.spell ++ rest) = gs ++ glyphs rest := by
  induction gs with
  | nil => rfl
  | cons g gs ih =>
    rw [forall_mem_cons] at whole
    rw [flatMap_cons, append_assoc, glyphs_spell_append whole.1, ih whole.2, cons_append]

theorem glyphs_of_spell {gs : List Glyph} (whole : ∀ g ∈ gs, g.Whole) :
    glyphs (gs.flatMap Glyph.spell) = gs := by
  have := glyphs_flatMap_spell whole []
  rwa [append_nil, glyphs, append_nil] at this

/-- A text consists of its units. -/
theorem flatMap_spell_glyphs (cs : List Char) : (glyphs cs).flatMap Glyph.spell = cs := by
  fun_induction glyphs cs with
  | case1 => rfl
  | case2 rest ih => simp [Glyph.spell, ih]
  | case3 rest ih => simp [Glyph.spell, ih]
  | case4 rest ih => simp [Glyph.spell, ih]
  | case5 rest _ _ _ ih => simp [Glyph.spell, ih]
  | case6 c rest _ _ _ _ ih => simp [Glyph.spell, ih]

/-- A text whose escapes all are complete. -/
def Escaped (s : String) : Prop := ∀ g ∈ glyphs s.toList, g.Whole

theorem char_of_mem_glyphs (mem : .char c ∈ glyphs cs) : c ≠ '\\' := by
  fun_induction glyphs cs with
  | case1 => cases mem
  | case6 d rest _ _ _ other ih =>
    rcases mem_cons.1 mem with same | mem
    · cases same
      exact other
    · exact ih mem
  | _ => simp_all

theorem quoted_of_mem_glyphs (mem : .quoted c ∈ glyphs cs) :
    c = '\\' ∨ c = '"' := by
  fun_induction glyphs cs <;> simp_all
  all_goals tauto

theorem escaped_of_accepted {s : String} {pos} (accepted : escapeFault? s pos = none) :
    Escaped s := by
  intro g mem
  have none := findSome?_eq_none_iff.1 accepted g mem
  cases g with
  | char c => exact char_of_mem_glyphs mem
  | quoted c => exact quoted_of_mem_glyphs mem
  | wide digits => simpa [Glyph.Whole] using none
  | byte digits => cases digits <;> simp_all [Glyph.Whole]

theorem Escaped.glyphs_append {s : String} (escaped : Escaped s) (t : String) :
    glyphs (s ++ t).toList = glyphs s.toList ++ glyphs t.toList := by
  rw [String.toList_append]
  nth_rewrite 1 [← flatMap_spell_glyphs s.toList]
  exact glyphs_flatMap_spell escaped _

theorem Glyph.utf8_toNat (c : Char) : utf8 c.toNat = String.utf8EncodeChar c := by
  have valid : c.toNat < 0x110000 := by
    rcases c.valid with h | h
    · exact Nat.lt_trans h (by decide)
    · exact h.2
  have value : c.val.toNat = c.toNat := rfl
  simp only [utf8, String.utf8EncodeChar, value, Nat.toUInt8]
  split_ifs <;> first | omega | rfl | (simp only [cons.injEq]; grind)

/-- Reads a text in quotes behind its first quote, as the textual form of a file means it: the bytes
up to the quote that ends it, and what follows. -/
def readQuoted : List Char → Option (List UInt8 × List Char)
  | '"' :: rest => some ([], rest)
  | '\\' :: '\\' :: rest => (readQuoted rest).map fun (bs, more) => (0x5C :: bs, more)
  | '\\' :: '"' :: rest => (readQuoted rest).map fun (bs, more) => (0x22 :: bs, more)
  | '\\' :: 'U' :: a :: b :: c :: d :: rest =>
    if [a, b, c, d].all isHexDigit then
      (readQuoted rest).map fun (bs, more) => (Glyph.utf8 (hexadecimal [a, b, c, d]) ++ bs, more)
    else none
  | '\\' :: a :: b :: rest =>
    if [a, b].all isHexDigit then
      (readQuoted rest).map fun (bs, more) => ((hexadecimal [a, b]).toUInt8 :: bs, more)
    else none
  | '\\' :: _ => none
  | c :: rest => (readQuoted rest).map fun (bs, more) => (String.utf8EncodeChar c ++ bs, more)
  | [] => none

attribute [local simp] readQuoted

/-- A text in quotes, and a byte behind it if it ends in a zero byte. -/
def Reads (out : String) (finalZero : Bool) (bytes : List UInt8) : Prop :=
  ∃ body text, out.toList = '"' :: body ∧
    readQuoted body = some (text, if finalZero then [' ', '0', '0', ' '] else [' ']) ∧
    bytes = text ++ if finalZero then [0] else []

/-- The characters of a unit in the textual form. -/
def Glyph.inQuotes (g : Glyph) : List Char :=
  g.spell.flatMap fun c => if c == '"' then ['\\', '"'] else [c]

theorem Glyph.inQuotes_hex (hex : ∀ d ∈ digits, isHexDigit d = true) :
    digits.flatMap (fun c => if c == '"' then ['\\', '"'] else [c]) = digits := by
  induction digits with
  | nil => rfl
  | cons c rest ih =>
    rw [forall_mem_cons] at hex
    rw [flatMap_cons, ih hex.2]
    simp [(isHexDigit_plain hex.1).2.1]

theorem toUInt8_low (n : Nat) : ((n : Int) % 256).toNat.toUInt8 = n.toUInt8 := by
  have low : ((n : Int) % 256).toNat = n % 256 := by omega
  rw [low]
  exact UInt8.ofNat_mod_size

/-- A unit is read as its bytes, unless it is a quote that has a backslash already. -/
theorem readQuoted_glyph {g : Glyph} (whole : g.Whole) (other : g ≠ .quoted '"')
    (rest : List Char) :
    readQuoted (g.inQuotes ++ rest) =
      (readQuoted rest).map fun (bs, more) => (g.bytes ++ bs, more) := by
  cases g with
  | char c =>
    by_cases quote : c = '"'
    · subst quote
      simp [Glyph.inQuotes, Glyph.spell, Glyph.bytes, Glyph.utf8]
    · have plain : (Glyph.char c).inQuotes = [c] := by simp [Glyph.inQuotes, Glyph.spell, quote]
      rw [plain, singleton_append, readQuoted, Glyph.bytes, Glyph.utf8_toNat]
      all_goals simp_all [Glyph.Whole]
  | quoted c =>
    rcases whole with rfl | rfl
    · simp [Glyph.inQuotes, Glyph.spell, Glyph.bytes]
    · exact absurd rfl other
  | wide digits =>
    obtain ⟨length, hex⟩ := whole
    obtain ⟨a, b, c, d, rfl⟩ := length_eq_four.1 length
    have plain : (Glyph.wide [a, b, c, d]).inQuotes = '\\' :: 'U' :: [a, b, c, d] := by
      rw [Glyph.inQuotes, Glyph.spell, flatMap_cons, flatMap_cons, Glyph.inQuotes_hex hex]
      rfl
    have all : [a, b, c, d].all isHexDigit = true := all_eq_true.2 hex
    rw [plain, Glyph.bytes, integerIn?_hex (by simp) hex]
    simp [all]
  | byte digits =>
    obtain ⟨length, hex⟩ := whole
    obtain ⟨a, b, rfl⟩ := length_eq_two.1 length
    have plain : (Glyph.byte [a, b]).inQuotes = '\\' :: [a, b] := by
      rw [Glyph.inQuotes, Glyph.spell, flatMap_cons, Glyph.inQuotes_hex hex]
      rfl
    have all : [a, b].all isHexDigit = true := all_eq_true.2 hex
    obtain ⟨bs, quote, u⟩ := isHexDigit_plain (hex a (by simp))
    rw [plain, Glyph.bytes, integerIn?_hex (by simp) hex, Option.getD_some, toUInt8_low,
      cons_append, cons_append, cons_append, readQuoted]
    all_goals simp_all

variable {gs : List Glyph}

theorem readQuoted_glyphs (whole : ∀ g ∈ gs, g.Whole) (other : .quoted '"' ∉ gs)
    (rest : List Char) : readQuoted (gs.flatMap Glyph.inQuotes ++ rest) =
      (readQuoted rest).map fun (bs, more) => (gs.flatMap Glyph.bytes ++ bs, more) := by
  induction gs with
  | nil => simp
  | cons g gs ih =>
    rw [forall_mem_cons] at whole
    obtain ⟨own, others⟩ := not_or.1 (mt mem_cons.2 other)
    rw [flatMap_cons, append_assoc, readQuoted_glyph whole.1 (Ne.symm own), ih whole.2 others,
      Option.map_map]
    congr 1
    funext ⟨bs, more⟩
    simp

theorem toList_escapeQuotes (s : String) :
    (Nfo.escapeQuotes s).toList = (glyphs s.toList).flatMap Glyph.inQuotes := by
  rw [Nfo.escapeQuotes, String.toList_ofList]
  nth_rewrite 1 [← flatMap_spell_glyphs s.toList]
  exact flatMap_assoc

/-- What stands between the first quote of a text and what follows its last one. -/
def quotedBody (s : String) : List Char :=
  (if isAscii s then [] else ['Þ']) ++ (glyphs s.toList).flatMap Glyph.inQuotes

theorem readQuoted_mark (s : String) (rest : List Char) :
    readQuoted ((if isAscii s then [] else ['Þ']) ++ rest) = (readQuoted rest).map fun (bs, more) =>
      ((if isAscii s then [] else unicodeMark) ++ bs, more) := by
  cases isAscii s with
  | true => simp
  | false =>
    rw [if_neg (by decide), if_neg (by decide), singleton_append, readQuoted]
    · rfl
    all_goals simp

/-- A text comes back unless it holds a quote that has a backslash already. Such a quote ends it:
the backslash in front of it is taken for one that the writer has put before the text's own. -/
theorem readQuoted_body_iff {s : String} (escaped : Escaped s) (rest : List Char) :
    readQuoted (quotedBody s ++ '"' :: rest) = some (bytes s false, rest) ↔
      .quoted '"' ∉ glyphs s.toList := by
  have whole : bytes s false = (if isAscii s then [] else unicodeMark)
      ++ (glyphs s.toList).flatMap Glyph.bytes := append_nil _
  rw [quotedBody, append_assoc, readQuoted_mark, whole]
  constructor
  · intro reads mem
    obtain ⟨front, back, split, first⟩ := eq_append_cons_of_mem mem
    have ends : (Glyph.quoted '"').inQuotes = ['\\', '\\', '"'] := rfl
    rw [split, flatMap_append, flatMap_append, flatMap_cons, flatMap_cons, ends, append_assoc,
      readQuoted_glyphs (fun g mem => escaped g (split ▸ mem_append_left _ mem)) first] at reads
    simp [Glyph.bytes] at reads
  · intro other
    rw [readQuoted_glyphs escaped other]
    simp

end NewGrf.Text

namespace NewGrf.Nfo

open Text

/-- Where the binary form takes a text, the textual form has it too. It is read as one text with the
same bytes exactly if no quote in it has a backslash already. -/
theorem text_reads_iff (s : String) (finalZero ascii : Bool) (n : Nfo) {pos} {g g' : Grf}
    (accepted : escapeFault? s pos = none) (binary : Grf.text s finalZero ascii g = .ok () g') :
    ∃ n' out bytes, text s finalZero ascii n = .ok () n' ∧ n'.out = n.out ++ out ∧
      g'.data = ByteArray.pushAll g.data bytes ∧
      (Reads out finalZero bytes ↔ .quoted '"' ∉ glyphs s.toList) := by
  obtain ⟨allowed, -, rfl⟩ := Grf.text_eq_ok_iff.1 binary
  let zero := if finalZero then [' ', '0', '0', ' '] else [' ']
  obtain ⟨n', written, more⟩ : ∃ n', text s finalZero ascii n = .ok () n' ∧
      n'.out = n.out ++ .ofList ('"' :: (quotedBody s ++ '"' :: zero)) := by
    cases same : isAscii s <;> cases ascii <;> simp only [same] at allowed <;> try cases allowed
    all_goals
      cases finalZero <;> simp only [text, same] <;> refine ⟨_, rfl, String.toList_inj.1 ?_⟩ <;>
        simp [zero, quotedBody, toList_escapeQuotes, same]
  refine ⟨n', _, _, written, more, rfl, ?_⟩
  rw [← readQuoted_body_iff (escaped_of_accepted accepted) zero]
  have split : bytes s finalZero = bytes s false ++ if finalZero then [0] else [] := by
    simp [bytes]
  rw [Reads, String.toList_ofList, split]
  constructor
  · rintro ⟨_, text, same, reads, bytes⟩
    obtain rfl := (cons.inj same).2
    rw [append_cancel_right bytes]
    exact reads
  · intro reads
    exact ⟨_, _, rfl, reads, rfl⟩

/-- A quote with a backslash ends the text too early. -/
theorem escaped_quote_ends_text : ∃ n out, text "a\\\"b" true false {} = .ok () n ∧
    n.out = "" ++ out ∧ ¬Reads out true (bytes "a\\\"b") := by
  have units : glyphs "a\\\"b".toList = [.char 'a', .quoted '"', .char 'b'] := by simp [glyphs]
  have accepted : escapeFault? "a\\\"b" none = none := by
    rw [escapeFault?, units]
    rfl
  have encodable : hasSurrogate "a\\\"b" = false := by
    rw [hasSurrogate, units]
    rfl
  obtain ⟨n, out, bytes, written, own, data, reads⟩ :=
    text_reads_iff _ true false {} accepted (g := {}) (Grf.text_eq_ok_iff.2 ⟨rfl, encodable, rfl⟩)
  have same : bytes = Text.bytes "a\\\"b" := by
    have lists := congrArg (·.data.toList) data
    simpa [Grf.append, ByteArray.pushAll, toList_foldl_push] using lists.symm
  refine ⟨n, out, written, own, ?_⟩
  rw [← same, reads, units]
  decide

end NewGrf.Nfo
