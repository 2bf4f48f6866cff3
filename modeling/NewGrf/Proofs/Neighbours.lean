import Mathlib.Data.List.Nodup
import Mathlib.Data.List.Perm.Subperm
import NewGrf.Language.Wording
import NewGrf.Proofs.Build
import NewGrf.Proofs.Escapes

open List

namespace NewGrf

namespace Text

/-- A code of the game in a text: whether it has the long form, its number, and the bytes that
belong to it. -/
structure Control where
  wide : Bool
  code : Nat
  more : List Nat
  deriving Repr, DecidableEq

namespace Glyph

/-- The form and the number of a code that starts here. -/
def control? : Glyph → Option (Bool × Nat)
  | wide digits =>
    if hexadecimal digits / 0x100 = 0xE0 then some (true, hexadecimal digits % 0x100) else none
  | byte digits => if 0x7B ≤ hexadecimal digits then some (false, hexadecimal digits) else none
  | _ => none

def number : Glyph → Nat
  | byte digits => hexadecimal digits
  | _ => 0

end Glyph

/-- How many bytes belong to a code. -/
def followers (code : Nat) (rest : List Glyph) : Nat :=
  match code, rest with
  | 0x81, _ => 2
  | 0x9A, .byte digits :: _ =>
    match hexadecimal digits with
    | 0x03 => 3
    | 0x0E | 0x0F | 0x10 | 0x13 | 0x15 => 2
    | _ => 1
  | _, _ => 0

def controls : List Glyph → List Control
  | [] => []
  | g :: rest =>
    match g.control? with
    | none => controls rest
    | some (wide, code) =>
      ⟨wide, code, (rest.take (followers code rest)).map Glyph.number⟩
        :: controls (rest.drop (followers code rest))
termination_by gs => gs.length
decreasing_by all_goals simp; try omega

/-- The codes of a text are these, whatever follows it. -/
structure Controls (t : String) (cs : List Control) : Prop where
  escaped : Escaped t
  codes : ∀ rest, controls (glyphs t.toList ++ rest) = cs ++ controls rest

namespace Controls

variable {t : String} {cs : List Control}

/-- The codes of a text with these units. -/
theorem ofSpell {gs : List Glyph} (spelled : t.toList = gs.flatMap Glyph.spell)
    (whole : ∀ g ∈ gs, g.Whole)
    (codes : ∀ rest, Text.controls (gs ++ rest) = cs ++ Text.controls rest) :
    Controls t cs := by
  have units : glyphs t.toList = gs := spelled ▸ glyphs_of_spell whole
  constructor
  · rw [Escaped, units]
    exact whole
  · rwa [units]

end Controls

/-- The argument of the choice list that a text starts with, as the game reads it. -/
def listed? (t : String) : Option Nat :=
  match controls (glyphs t.toList) with
  | ⟨_, 0x9A, [kind, n]⟩ :: _ =>
    if (kind = 0x13 ∨ kind = 0x15) ∧ 0x80 ≤ n ∧ n < 0x100 then some (n - 0x80) else none
  | _ => none

theorem lt_of_listed? {t : String} {n : Nat} (h : listed? t = some n) : n < 0x80 := by
  unfold listed? at h
  split at h
  · split_ifs at h with inside
    obtain rfl := Option.some.inj h
    omega
  · cases h

end Text

namespace Language

open Text

/-- The unit that a code starts with. -/
def leadOf (wide : Bool) (a b : Char) : Glyph :=
  if wide then .wide ['E', '0', a, b] else .byte [a, b]

theorem control?_leadOf {a b : Char} (high : 0x7B ≤ hexadecimal [a, b])
    (low : hexadecimal [a, b] < 0x100) (wide : Bool) :
    (leadOf wide a b).control? = some (wide, hexadecimal [a, b]) := by
  cases wide with
  | false => exact if_pos high
  | true =>
    have split : hexadecimal ['E', '0', a, b] = 0xE000 + hexadecimal [a, b] := by
      simp only [hexadecimal, foldl_cons, foldl_nil]
      have : (hexDigit? 'E').getD 0 = 14 ∧ (hexDigit? '0').getD 0 = 0 := by decide
      omega
    simp only [leadOf, if_true, Glyph.control?, split]
    rw [if_pos (by omega)]
    congr 2
    omega

/-- Whether digits are those of a byte. -/
def isByte (digits : List Char) : Bool := digits.length == 2 && digits.all isHexDigit

theorem isByte_iff {digits : List Char} :
    isByte digits = true ↔ digits.length = 2 ∧ ∀ d ∈ digits, isHexDigit d = true := by
  simp [isByte]

/-- A code with the bytes that belong to it. -/
theorem controls_code {t : String} (wide : Bool) (a b : Char) (bytes : List (List Char))
    (spelled : t.toList = (leadOf wide a b :: bytes.map .byte).flatMap Glyph.spell)
    (hex : isByte [a, b] = true) (whole : bytes.all isByte = true)
    (high : 0x7B ≤ hexadecimal [a, b]) (low : hexadecimal [a, b] < 0x100)
    (own : ∀ rest, followers (hexadecimal [a, b]) (bytes.map .byte ++ rest) = bytes.length) :
    Controls t [⟨wide, hexadecimal [a, b], bytes.map hexadecimal⟩] := by
  have bytesWhole : ∀ ds ∈ bytes, (Glyph.byte ds).Whole := fun ds mem =>
    isByte_iff.1 (all_eq_true.1 whole ds mem)
  have digits := (isByte_iff.1 hex).2
  refine .ofSpell spelled (forall_mem_cons.2 ⟨?_, forall_mem_map.2 bytesWhole⟩) fun rest => ?_
  · have hexE : isHexDigit 'E' = true ∧ isHexDigit '0' = true := by decide
    cases wide <;> simp_all [leadOf, Glyph.Whole]
  · have taken : (bytes.map Glyph.byte ++ rest).take bytes.length = bytes.map .byte :=
      take_left' (length_map _)
    have dropped : (bytes.map Glyph.byte ++ rest).drop bytes.length = rest :=
      drop_left' (length_map _)
    rw [cons_append, controls, control?_leadOf high low]
    simp only [own, taken, dropped, map_map]
    rfl

/-- The argument that a part of a text takes, and its size. -/
def Part.argument? (codes : Dict Code) : Part → Option (Nat × Nat)
  | .literal _ => none
  | .command c => (c.size? codes).map fun size => (c.place.getD 0, size)

theorem Phrase.places_eq (codes : Dict Code) (p : Phrase) :
    p.places codes = p.parts.filterMap (Part.argument? codes) := rfl

/-- Arguments by number and size. -/
def arguments (sizes : List Nat) : List (Nat × Nat) := sizes.zipIdx.map fun (size, i) => (i, size)

/-- Sizes that are found belong to the arguments in order. -/
theorem sizes_perm {codes : Dict Code} {p : Phrase} {sizes : List Nat}
    (h : p.sizes codes = .ok sizes) :
    (arguments sizes).map Prod.fst = range sizes.length ∧ arguments sizes ~ p.places codes := by
  unfold Phrase.sizes at h
  simp only at h
  split at h
  · cases h
  split at h
  · cases h
  rename_i found
  obtain rfl := Except.ok.inj h
  have each : ∀ i < (p.places codes).length, ∃ size, (p.places codes).lookup i = some size := by
    intro i small
    have := find?_eq_none.1 found i (mem_range.2 small)
    exact Option.isSome_iff_exists.1 (by simpa [Option.isSome_iff_ne_none] using this)
  have eq : arguments ((range (p.places codes).length).map fun i =>
      ((p.places codes).lookup i).getD 0) =
        (range (p.places codes).length).map fun i => (i, ((p.places codes).lookup i).getD 0) := by
    apply ext_getElem <;> simp [arguments]
  have keys : (arguments ((range (p.places codes).length).map fun i =>
      ((p.places codes).lookup i).getD 0)).map Prod.fst = range (p.places codes).length := by
    rw [eq, map_map]
    exact map_id _
  refine ⟨by rw [keys, length_map, length_range], ?_⟩
  refine (subperm_of_subset (Nodup.of_map Prod.fst (by rw [keys]; exact nodup_range))
    fun q mem => ?_).perm_of_length_le (by rw [eq]; simp)
  rw [eq] at mem
  obtain ⟨i, small, rfl⟩ := mem_map.1 mem
  obtain ⟨size, looked⟩ := each i (mem_range.1 small)
  obtain ⟨_, _, stands, _⟩ := lookup_eq_some_iff.1 looked
  rw [looked, Option.getD_some, stands]
  simp

theorem hexText_two : ∀ n < 0x80, isByte (hexText 2 (0x80 + n : Nat)).toList = true ∧
    hexadecimal (hexText 2 (0x80 + n : Nat)).toList = 0x80 + n := by
  decide +kernel

/-- The game reads the argument that a choice list was written with, if it is not too large. -/
theorem listed?_choice (wide plural : Bool) {n : Nat} (small : n < 0x80) (texts : List String) :
    listed? (choice wide (if plural then "9A\\15" else "9A\\13") n texts) = some n := by
  obtain ⟨whole, value⟩ := hexText_two n small
  obtain ⟨a, b, digits⟩ := length_eq_two.1 (isByte_iff.1 whole).1
  rw [digits] at whole value
  let kind := if plural then ['1', '5'] else ['1', '3']
  have start : Controls
      (gameCode wide (if plural then "9A\\15" else "9A\\13") ++ byteCode (0x80 + n))
      [⟨wide, 0x9A, [hexadecimal kind, 0x80 + n]⟩] := by
    have code := controls_code (t := gameCode wide (if plural then "9A\\15" else "9A\\13")
        ++ byteCode (0x80 + n)) wide '9' 'A' [kind, [a, b]]
      (by
        have text : (byteCode (0x80 + n)).toList = ['\\', a, b] := by
          rw [byteCode, String.toList_append, show ((0x80 : Int) + n) = ((0x80 + n : Nat) : Int) by
            simp, digits]
          rfl
        rw [String.toList_append, text]
        cases wide <;> cases plural <;> rfl)
      (by decide) (by cases plural <;> simp [kind, whole] <;> decide) (by decide) (by decide)
      (fun _ => by cases plural <;> rfl)
    rwa [map_cons, map_cons, map_nil, value] at code
  rw [choice, listed?, String.append_assoc, String.append_assoc, start.escaped.glyphs_append,
    start.codes]
  have byte : 0x80 + n < 0x100 := by omega
  cases plural <;> simp [kind, hexadecimal, hexDigit?, byte]

/-- The arguments that parts take, in the order of the text. -/
def argumentsIn (codes : Dict Code) (parts : List Part) : List (Nat × Nat) :=
  parts.filterMap (Part.argument? codes)

/-- A stack after an argument was taken from it. -/
def Stack.take (st : Stack) (q : Nat × Nat) : Stack :=
  { left := st.left.erase q, front := st.left.head? }

def Stack.after (st : Stack) (qs : List (Nat × Nat)) : Stack := qs.foldl Stack.take st

theorem Stack.left_after (st : Stack) (qs : List (Nat × Nat)) :
    (st.after qs).left = st.left.diff qs := by
  induction qs generalizing st with
  | nil => rfl
  | cons q qs ih => rw [after, foldl_cons, ← after, ih, take, diff_cons]

/-- What one part shows, and the stack behind it. -/
def Setting.showPart (s : Setting) (st : Stack) : Part → Build (String × Stack)
  | .literal text => pure (text, st)
  | .command c =>
    match s.codes.get? c.name with
    | none => do pure (← s.showChoice c st, st)
    | some code =>
      match c.size? s.codes with
      | none => pure (if s.wide then code.wide else code.narrow.getD "", st)
      | some size => s.showArgument c code size st

section Parts

variable {s : Setting} {part : Part} {xs ys parts : List Part} {c : Command} {st rest : Stack}
  {text t : String} {σ τ : Session}

theorem showParts_eq (part : Part) (parts : List Part) (st : Stack) :
    s.showParts (part :: parts) st = (do
      let (t, rest) ← s.showPart st part
      pure (t ++ (← s.showParts parts rest))) := by
  cases part with
  | literal => rfl
  | command c =>
    rw [Setting.showParts, Setting.showPart]
    cases named : s.codes.get? c.name with
    | none => simp
    | some code => cases c.size? s.codes <;> simp

theorem showArgument_stack {code : Code} {size : Nat}
    (h : s.showArgument c code size st σ = .ok (t, rest) τ) :
    rest = st.take (c.place.getD 0, size) := by
  unfold Setting.showArgument at h
  dsimp only at h
  cases given : s.args[c.place.getD 0]? with
  | some e =>
    rw [given] at h
    cases takes : code.argument with
    | none => simp [takes] at h
    | some kind =>
      simp only [takes, Build.bind_eq_ok, Build.pure_eq_ok, Prod.mk.injEq] at h
      obtain ⟨_, _, -, ⟨-, rfl⟩, -⟩ := h
      rfl
  | none =>
    rw [given] at h
    dsimp only at h
    split at h
    · simp at h
    · simp only [Build.pure_eq_ok, Prod.mk.injEq] at h
      exact h.1.2.symm

/-- A part takes its argument from the stack, if it has one. -/
theorem showPart_stack (h : s.showPart st part σ = .ok (t, rest) τ) :
    rest = st.after (part.argument? s.codes).toList := by
  cases part with
  | literal =>
    obtain ⟨same, -⟩ := Build.pure_eq_ok.1 h
    exact (Prod.mk.inj same).2.symm
  | command c =>
    unfold Setting.showPart at h
    cases named : s.codes.get? c.name with
    | none =>
      have unsized : c.size? s.codes = none := by simp [Command.size?, named]
      simp only [named, Build.bind_eq_ok, Build.pure_eq_ok, Prod.mk.injEq] at h
      obtain ⟨_, _, -, ⟨-, rfl⟩, -⟩ := h
      simp [Part.argument?, unsized, Stack.after]
    | some code =>
      cases sized : c.size? s.codes with
      | none =>
        simp only [named, sized, Build.pure_eq_ok, Prod.mk.injEq] at h
        simp [Part.argument?, sized, Stack.after, h.1.2]
      | some size =>
        simp only [named, sized] at h
        simp [Part.argument?, sized, Stack.after, showArgument_stack h]

/-- Parts that follow others find the stack without the arguments of these. -/
theorem showParts_append (h : s.showParts (xs ++ ys) st σ = .ok text τ) :
    ∃ t u υ, s.showParts xs st σ = .ok t υ ∧
      s.showParts ys (st.after (argumentsIn s.codes xs)) υ = .ok u τ ∧ text = t ++ u := by
  induction xs generalizing st σ text with
  | nil => exact ⟨"", text, σ, rfl, h, by simp⟩
  | cons part xs ih =>
    rw [cons_append, showParts_eq] at h
    simp only [Build.bind_eq_ok, Build.pure_eq_ok] at h
    obtain ⟨⟨t, rest⟩, υ, own, v, _, others, rfl, rfl⟩ := h
    obtain ⟨u, w, φ, first, second, rfl⟩ := ih others
    have moved : (rest.after (argumentsIn s.codes xs)) =
        st.after (argumentsIn s.codes (part :: xs)) := by
      rw [showPart_stack own, argumentsIn, argumentsIn]
      cases argument : part.argument? s.codes <;>
        simp [Stack.after, argument]
    refine ⟨t ++ u, w, φ, ?_, moved ▸ second, by rw [String.append_assoc]⟩
    rw [showParts_eq]
    simp only [Build.bind_eq_ok, Build.pure_eq_ok]
    exact ⟨(t, rest), υ, own, u, φ, first, rfl, rfl⟩

/-- The argument of a choice list that names none, when no argument is known. -/
theorem showChoice_unnamed (unknown : s.args = []) (plain : c.offset = none)
    (h : s.showChoice c st σ = .ok text τ) :
    ∃ n size, (if c.name == "P" then st.front else st.left.head?) = some (n, size) ∧
      text = choice s.wide (if c.name == "P" then "9A\\15" else "9A\\13") n c.arguments := by
  unfold Setting.showChoice at h
  simp only [plain, unknown, getElem?_nil, length_nil] at h
  cases plural : c.name == "P" with
  | true =>
    cases front : st.front with
    | none => simp [plural, front] at h
    | some q =>
      simp only [plural, front, if_true, Build.bind_eq_ok, Build.pure_eq_ok] at h
      obtain ⟨_, _, ⟨rfl, rfl⟩, rfl, rfl⟩ := h
      exact ⟨q.1, q.2, by simp, by simp⟩
  | false =>
    cases front : st.left.head? with
    | none => simp [plural, front] at h
    | some q =>
      simp only [plural, front, Bool.false_eq_true, if_false, Build.bind_eq_ok,
        Build.pure_eq_ok] at h
      obtain ⟨_, _, ⟨rfl, rfl⟩, rfl, rfl⟩ := h
      exact ⟨q.1, q.2, by simp, by simp⟩

end Parts

section Front

variable {sizes : List Nat} {qs : List (Nat × Nat)} {q : Nat × Nat} {n size : Nat}

/-- Arguments that are left are in order, so the first of them is the lowest that was not taken. -/
theorem head_left (taken : qs ⊆ arguments sizes) (others : q ∈ (arguments sizes).diff qs)
    (keys : (arguments sizes).map Prod.fst = range sizes.length)
    (first : ((arguments sizes).diff qs).head? = some (n, size)) :
    n ≤ q.1 ∧ (n = q.1 ↔ ∀ i < q.1, i ∈ qs.map Prod.fst) := by
  have single : ((arguments sizes).map Prod.fst).Nodup := keys ▸ nodup_range
  have nodup : (arguments sizes).Nodup := .of_map Prod.fst single
  have ordered : (arguments sizes).Pairwise (·.1 < ·.1) :=
    pairwise_map.1 (keys ▸ pairwise_lt_range)
  obtain ⟨more, split⟩ := head?_eq_some_iff.1 first
  have ahead : ∀ r ∈ (arguments sizes).diff qs, n ≤ r.1 := by
    have left := ordered.sublist (diff_sublist _ qs)
    rw [split] at left ⊢
    rintro r mem
    rcases mem_cons.1 mem with rfl | later
    · exact Nat.le_refl _
    · exact Nat.le_of_lt ((pairwise_cons.1 left).1 r later)
  have untaken : n ∉ qs.map Prod.fst := by
    intro mem
    obtain ⟨r, inside, same⟩ := mem_map.1 mem
    obtain ⟨own, other⟩ := nodup.mem_sdiff_iff.1 (split ▸ mem_cons_self : (n, size) ∈ _)
    exact other (inj_on_of_nodup_map single (taken inside) own same ▸ inside)
  have low := ahead q others
  refine ⟨low, fun same i less => ?_, fun all => ?_⟩
  · have known : i ∈ (arguments sizes).map Prod.fst := by
      have large := mem_map_of_mem (f := Prod.fst) (diff_subset _ _ others)
      rw [keys, mem_range] at large ⊢
      omega
    obtain ⟨r, mem, rfl⟩ := mem_map.1 known
    by_contra absent
    have left := nodup.mem_sdiff_iff.2 ⟨mem, fun inside => absent (mem_map_of_mem inside)⟩
    have := ahead r left
    omega
  · by_contra other
    exact untaken (all n (by omega))

end Front

/-- The argument next to a choice list, which is the last one before a plural and the first one
behind a gender, and all arguments that the text takes before it. -/
def Neighbour (codes : Dict Code) (c : Command) (xs ys : List Part) (before : List (Nat × Nat))
    (q : Nat × Nat) : Prop :=
  if c.name == "P" then argumentsIn codes xs = before ++ [q]
  else argumentsIn codes xs = before ∧ (argumentsIn codes ys).head? = some q

/-- A choice list that names no argument always has a neighbour, and goes by it exactly if the text
takes all arguments before that one earlier. Numbers of arguments have to fit in seven bits. -/
theorem lists_name_neighbours_iff {s : Setting} {p : Phrase} {text : String} {σ τ : Session}
    {xs ys : List Part} {c : Command} (unknown : s.args = [])
    (h : s.showPhrase p σ = .ok text τ) (split : p.parts = xs ++ .command c :: ys)
    (special : s.codes.get? c.name = none) (plain : c.offset = none) :
    ∃ sizes before q t list u υ, p.sizes s.codes = .ok sizes ∧
      Neighbour s.codes c xs ys before q ∧ text = t ++ (list ++ u) ∧
      s.showParts xs ⟨arguments sizes, none⟩ σ = .ok t υ ∧
      (∃ n : Nat, list =
        choice s.wide (if c.name == "P" then "9A\\15" else "9A\\13") n c.arguments) ∧
      (listed? list = some q.1 ↔ q.1 < 0x80 ∧ ∀ i < q.1, i ∈ before.map Prod.fst) := by
  simp only [Setting.showPhrase, Build.bind_eq_ok, Build.ofExcept_eq_ok] at h
  obtain ⟨sizes, _, ⟨sized, rfl⟩, h⟩ := h
  obtain ⟨keys, perm⟩ := sizes_perm sized
  have nodup : (arguments sizes).Nodup := .of_map Prod.fst (keys ▸ nodup_range)
  have unsized : (Part.command c).argument? s.codes = none := by
    simp [Part.argument?, Command.size?, special]
  have whole : arguments sizes ~ argumentsIn s.codes xs ++ argumentsIn s.codes ys := by
    rwa [Phrase.places_eq, split, filterMap_append, filterMap_cons_none unsized] at perm
  have apart := nodup_append.1 (whole.nodup_iff.1 nodup)
  rw [split] at h
  obtain ⟨t, _, υ, first, second, rfl⟩ := showParts_append h
  rw [showParts_eq] at second
  simp only [Setting.showPart, special, Build.bind_eq_ok, Build.pure_eq_ok] at second
  obtain ⟨_, _, ⟨list, φ, shown, rfl, rfl⟩, u, _, -, rfl, rfl⟩ := second
  obtain ⟨n, size, found, rfl⟩ := showChoice_unnamed unknown plain shown
  obtain ⟨before, q, next, inside, front, others⟩ : ∃ before q,
      Neighbour s.codes c xs ys before q ∧ before ⊆ arguments sizes ∧
      ((arguments sizes).diff before).head? = some (n, size) ∧
      q ∈ (arguments sizes).diff before := by
    cases plural : c.name == "P" with
    | true =>
      rw [plural, if_pos rfl] at found
      rcases eq_nil_or_concat (argumentsIn s.codes xs) with none | ⟨before, q, some⟩
      · rw [none] at found
        cases found
      · rw [concat_eq_append] at some
        rw [some, Stack.after, foldl_append, ← Stack.after] at found
        rw [some] at whole apart
        have front : (Stack.after ⟨arguments sizes, none⟩ before).left.head? = _ := found
        rw [Stack.left_after] at front
        refine ⟨before, q, by rw [Neighbour, plural, if_pos rfl, some], fun r mem =>
          whole.mem_iff.2 (by simp [mem]), front,
          nodup.mem_sdiff_iff.2 ⟨whole.mem_iff.2 (by simp), fun mem => ?_⟩⟩
        exact (nodup_append.1 apart.1).2.2 q mem q (by simp) rfl
    | false =>
      rw [plural, if_neg (by decide), Stack.left_after] at found
      have left := nodup.mem_sdiff_iff.1 (mem_of_head? found)
      have behind := (mem_append.1 (whole.mem_iff.1 left.1)).resolve_left left.2
      obtain ⟨q, more, some⟩ := exists_cons_of_ne_nil (ne_nil_of_mem behind)
      have mem : q ∈ argumentsIn s.codes ys := by simp [some]
      refine ⟨_, q, by rw [Neighbour, plural, if_neg (by decide), some]; exact ⟨rfl, rfl⟩,
        fun r mem => whole.mem_iff.2 (mem_append_left _ mem), found,
        nodup.mem_sdiff_iff.2 ⟨whole.mem_iff.2 (mem_append_right _ mem), fun early => ?_⟩⟩
      exact apart.2.2 q early q mem rfl
  obtain ⟨low, least⟩ := head_left inside others keys front
  refine ⟨sizes, before, q, t, _, u, υ, sized, next, rfl, first, ⟨n, rfl⟩, fun read => ?_, ?_⟩
  · have small := lt_of_listed? read
    rw [listed?_choice _ _ (by omega)] at read
    exact ⟨small, least.1 (Option.some.inj read)⟩
  · rintro ⟨small, all⟩
    rw [listed?_choice _ _ (by omega), least.2 all]

/-- A plural behind the second argument, which is shown first, goes by the first one. -/
theorem plural_behind_early_argument :
    let s : Setting :=
      { wide := false, codes := Code.table, args := [], textOf := fun _ => pure "",
        plural := fun _ => pure 0, gender := fun _ => pure 0 }
    let number (n : Nat) : Part :=
      .command { name := "COMMA", place := some n, pos := .line "english.lng" 1 }
    let plural : Command := { name := "P", arguments := ["a", "b"], pos := .line "english.lng" 1 }
    let phrase : Phrase :=
      { parts := [number 1, .command plural, number 0], pos := .line "english.lng" 1 }
    ∃ text t list u, s.showPhrase phrase {} = .ok text {} ∧ text = t ++ (list ++ u) ∧
      (∃ n : Nat, list = choice false "9A\\15" n ["a", "b"]) ∧
      Neighbour s.codes plural [number 1] [number 0] [] (1, 4) ∧ listed? list ≠ some 1 := by
  intro s number plural phrase
  obtain ⟨text, h⟩ : ∃ text, s.showPhrase phrase {} = .ok text {} := ⟨_, rfl⟩
  obtain ⟨sizes, before, q, t, list, u, υ, -, next, rfl, -, isList, read⟩ :=
    lists_name_neighbours_iff rfl h
      (show phrase.parts = [number 1] ++ .command plural :: [number 0] from rfl) rfl rfl
  have own : Neighbour s.codes plural [number 1] [number 0] [] (1, 4) := rfl
  have same : [] ++ [((1 : Nat), (4 : Nat))] = before ++ [q] := own.symm.trans next
  obtain ⟨rfl, same⟩ := append_inj' same rfl
  obtain rfl := (cons.inj same).1
  refine ⟨_, t, list, u, h, rfl, isList, own, fun listed => ?_⟩
  exact absurd ((read.1 listed).2 0 (by decide)) (by simp)

end Language

end NewGrf
