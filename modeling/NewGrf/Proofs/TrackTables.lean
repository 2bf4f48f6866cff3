import NewGrf.Proofs.KnownValues
import NewGrf.Proofs.TextBytes
import NewGrf.Property.Tables

open List

namespace NewGrf

namespace Text

theorem glyphs_escape {rest : List Char} (known : integerIn? 16 (rest.take 2) ≠ none)
    (ascii : (glyphs ('\\' :: rest)).all Glyph.isAscii = true) :
    glyphs ('\\' :: rest) = .byte (rest.take 2) :: glyphs (rest.drop 2) := by
  rcases rest with _ | ⟨c, rest⟩
  · exact absurd rfl known
  by_cases backslash : c = '\\'
  · subst backslash
    exact absurd (integerIn?_eq_none rfl (by decide) (by decide) (by decide) rfl) known
  by_cases quote : c = '"'
  · subst quote
    exact absurd (integerIn?_eq_none rfl (by decide) (by decide) (by decide) rfl) known
  by_cases wide : c = 'U'
  · subst wide
    simp [glyphs, Glyph.isAscii] at ascii
  rw [glyphs]
  all_goals simp_all

/-- The escapes of a text that stand for a byte have no minus sign. -/
def Unsigned (cs : List Char) : Prop :=
  ∀ digits, .byte digits ∈ glyphs cs → ∀ v ∈ integerIn? 16 digits, 0 ≤ v

/-- Numbers that have the bytes of a text, but for their signs. -/
structure Spells (gs : List Glyph) (bs : List Int) : Prop where
  bytes : gs.flatMap Glyph.bytes = bs.map fun b => (b % 256).toNat.toUInt8
  length : bs.length = gs.length
  high : ∀ b ∈ bs, b < 256
  low : (∀ digits, .byte digits ∈ gs → ∀ v ∈ integerIn? 16 digits, 0 ≤ v) → ∀ b ∈ bs, 0 ≤ b

theorem Spells.cons {g : Glyph} {gs : List Glyph} {b : Int} {bs : List Int}
    (spells : Spells gs bs) (byte : g.bytes = [(b % 256).toNat.toUInt8]) (high : b < 256)
    (low : (∀ digits, g = .byte digits → ∀ v ∈ integerIn? 16 digits, 0 ≤ v) → 0 ≤ b) :
    Spells (g :: gs) (b :: bs) where
  bytes := by rw [flatMap_cons, byte, spells.bytes, map_cons, singleton_append]
  length := congrArg (· + 1) spells.length
  high := forall_mem_cons.2 ⟨high, spells.high⟩
  low plain := forall_mem_cons.2 ⟨low fun digits same => plain digits (same ▸ mem_cons_self),
    spells.low fun digits mem => plain digits (mem_cons_of_mem _ mem)⟩

theorem spells_labelBytes? {n : Nat} {cs : List Char} {bs : List Int}
    (h : labelBytes? n cs = some bs) (ascii : (glyphs cs).all Glyph.isAscii = true)
    (count : (glyphs cs).length = n) : Spells (glyphs cs) bs := by
  induction n generalizing cs bs with
  | zero =>
    obtain rfl : bs = [] := by simpa [labelBytes?] using h.symm
    rw [length_eq_zero_iff.1 count]
    exact ⟨rfl, rfl, forall_mem_nil _, fun _ => forall_mem_nil _⟩
  | succ n ih =>
    rcases cs with _ | ⟨c, rest⟩
    · cases h
    by_cases escape : c = '\\'
    · subst escape
      simp only [labelBytes?, Option.bind_eq_bind, Option.bind_eq_some_iff, Option.pure_def,
        Option.some.injEq] at h
      obtain ⟨b, isByte, bs, others, rfl⟩ := h
      have first := glyphs_escape (by simp [isByte]) ascii
      rw [first] at ascii count ⊢
      rw [all_cons, Bool.and_eq_true] at ascii
      refine (ih others ascii.2 (Nat.succ.inj count)).cons ?_
        (integerIn?_small isByte (length_take_le ..)) fun plain => plain _ rfl b isByte
      rw [Glyph.bytes, isByte, Option.getD_some]
    · have isByte : labelBytes? (n + 1) (c :: rest) =
          (labelBytes? n rest).map fun bs => (c.toNat : Int) :: bs := by
        rw [labelBytes?]
        simpa using escape
      rw [isByte] at h
      obtain ⟨bs, others, rfl⟩ := Option.map_eq_some_iff.1 h
      rw [glyphs_char escape rest] at ascii count ⊢
      rw [all_cons, Bool.and_eq_true] at ascii
      have low : c.toNat < 0x7B := of_decide_eq_true ascii.1
      refine (ih others ascii.2 (Nat.succ.inj count)).cons ?_ (by omega) fun _ => by omega
      rw [Glyph.bytes, Glyph.utf8, if_pos (by omega), toUInt8_low]

end Text

/-- The number of a label has the bytes of the label. -/
theorem bytes_littleEndian {bs : List Int} (length : bs.length = 4) (low : ∀ b ∈ bs, 0 ≤ b)
    (high : ∀ b ∈ bs, b < 256) : (Word.ofInt (littleEndian bs)).bytes 4 = bs.map Int.toNat := by
  obtain ⟨a, b, c, d, rfl⟩ := length_eq_four.1 length
  have number := littleEndian_four low high
  simp only [forall_mem_cons, not_mem_nil, false_implies, implies_true, and_true] at low high
  have value : ((Word.ofInt (littleEndian [a, b, c, d])).toNat : Int) =
      a + 256 * (b + 256 * (c + 256 * d)) := by
    rw [BitVec.toNat_ofInt, number]
    omega
  simp only [Word.bytes, show range 4 = [0, 1, 2, 3] from rfl, map_cons, map_nil,
    show Number.twoPow (8 * 0) = 1 from rfl, show Number.twoPow (8 * 1) = 256 from rfl,
    show Number.twoPow (8 * 2) = 65536 from rfl, show Number.twoPow (8 * 3) = 16777216 from rfl,
    cons.injEq, and_true]
  omega

/-- The labels that an entry of a table may be. -/
def TrackEntry.labels : TrackEntry → List Expr
  | .label e => [e]
  | .choice _ es => es

namespace Property

open Build Assign

/-- The bytes of a label. -/
def labelBytes (e : Expr) : List Nat := (Text.bytes (labelOf e) false).map UInt8.toNat

/-- The bytes of the number that stands for a label. -/
def numberBytes (e : Expr) : List Nat :=
  match e.label with
  | .ok n => (Word.ofInt n).bytes 4
  | .error _ => []

/-- The first of some labels that is defined, or else the last. -/
def firstOrLast (defined : List Nat → Bool) (labels : List (List Nat)) : List Nat :=
  (labels.find? defined).getD (labels.getLast?.getD [])

/-- What a table holds for an entry. A label that stands alone is written as it is. -/
def held (defined : List Nat → Bool) (entry : TrackEntry) : List Nat :=
  match entry.labels with
  | [e] => labelBytes e
  | es => firstOrLast defined (es.map numberBytes)

/-- A test for a label that is not defined. -/
def Knows (g : Game) (missing : Nat) (defined : List Nat → Bool) : Prop :=
  ∀ log (s : Skip), s.code = missing → g.test log s = !defined ((Word.ofInt s.value).bytes 4)

theorem label_spec {e : Expr} {n : Int} (h : e.label = .ok n) : ∃ bs,
    n = littleEndian bs ∧ bs.length = 4 ∧
      Text.bytes (labelOf e) false = bs.map (fun b => (b % 256).toNat.toUInt8) ∧
      (∀ b ∈ bs, b < 256) ∧ (Text.Unsigned (labelOf e).toList → ∀ b ∈ bs, 0 ≤ b) := by
  cases e with
  | literal s p =>
    simp only [Expr.label] at h
    split at h
    · cases h
    case isFalse ascii =>
      split at h
      · cases h
      case isFalse size =>
        split at h
        case h_1 bs isLabel =>
          cases h
          have ascii : (Text.glyphs s.toList).all Text.Glyph.isAscii = true := by
            simpa [Text.isAscii] using ascii
          have size : Text.size s false = 4 := by simpa using size
          have count : (Text.glyphs s.toList).length = 4 :=
            (Text.size_of_isAscii ascii).symm.trans size
          have spells := Text.spells_labelBytes? isLabel ascii count
          refine ⟨bs, rfl, spells.length.trans count, ?_, spells.high, spells.low⟩
          rw [labelOf, Text.bytes, if_pos ascii, ← spells.bytes]
          simp
        case h_2 => cases h
  | _ => cases h

theorem length_label {e : Expr} {n : Int} (h : e.label = .ok n) :
    (Text.bytes (labelOf e) false).length = 4 := by
  obtain ⟨bs, -, length, bytes, -⟩ := label_spec h
  rw [bytes, length_map, length]

/-- Without a minus sign in a label, its number has its bytes. -/
theorem numberBytes_eq {e : Expr} {n : Int} (h : e.label = .ok n)
    (unsigned : Text.Unsigned (labelOf e).toList) : numberBytes e = labelBytes e := by
  obtain ⟨bs, rfl, length, bytes, small, nonneg⟩ := label_spec h
  rw [numberBytes, h]
  dsimp only
  rw [bytes_littleEndian length (nonneg unsigned) small, labelBytes, bytes, map_map]
  refine map_congr_left fun b mem => ?_
  have := small b mem
  have := nonneg unsigned b mem
  simp only [Function.comp_apply, Nat.toUInt8_eq, UInt8.toNat_ofNat']
  omega

theorem firstOrLast_singleton (defined : List Nat → Bool) (label : List Nat) :
    firstOrLast defined [label] = label := by
  cases known : defined label <;> simp [firstOrLast, known]

theorem firstOrLast_cons {defined : List Nat → Bool} {label : List Nat} {labels : List (List Nat)}
    (more : labels ≠ []) : firstOrLast defined (label :: labels) =
      if defined label then label else firstOrLast defined labels := by
  obtain ⟨next, rest, rfl⟩ := exists_cons_of_ne_nil more
  cases known : defined label <;> simp [firstOrLast, known, getLast?_cons_cons]

section Slots

variable {α β : Type} {f : α → List β} {entries : List α}

theorem length_slots (four : ∀ a ∈ entries, (f a).length = 4) :
    (entries.flatMap f).length = 4 * entries.length := by
  induction entries with
  | nil => rfl
  | cons a entries ih =>
    rw [forall_mem_cons] at four
    rw [flatMap_cons, length_append, four.1, ih four.2, length_cons]
    omega

theorem slot_eq (four : ∀ a ∈ entries, (f a).length = 4) {k : Nat} {a : α}
    (found : entries[k]? = some a) : ((entries.flatMap f).drop (4 * k)).take 4 = f a := by
  induction entries generalizing k with
  | nil => cases found
  | cons b entries ih =>
    rw [forall_mem_cons] at four
    rw [flatMap_cons]
    cases k with
    | zero =>
      obtain rfl : b = a := by simpa using found
      exact take_left' four.1
    | succ k =>
      rw [show 4 * (k + 1) = (f b).length + 4 * k by omega, ← drop_drop, drop_left]
      exact ih four.2 found

end Slots

theorem length_firstOrLast {labels : List (List Nat)} (nonempty : labels ≠ [])
    (four : ∀ l ∈ labels, l.length = 4) (defined : List Nat → Bool) :
    (firstOrLast defined labels).length = 4 := by
  rw [firstOrLast]
  cases found : labels.find? defined with
  | some l => exact four l (mem_of_find?_eq_some found)
  | none =>
    rw [getLast?_eq_some_getLast nonempty]
    exact four _ (getLast_mem nonempty)

theorem length_numberBytes {e : Expr} {n : Int} (h : e.label = .ok n) :
    (numberBytes e).length = 4 := by
  simp [numberBytes, h, Word.bytes]

/-- An entry with labels of which each has a number. -/
def Labelled (entry : TrackEntry) : Prop :=
  entry.labels ≠ [] ∧ ∀ e ∈ entry.labels, ∃ n, e.label = .ok n

instance : DecidablePred Labelled := fun entry =>
  decidable_of_iff (entry.labels.isEmpty = false ∧ ∀ e ∈ entry.labels, e.label.isOk = true) <| by
    have isOk (e : Expr) : e.label.isOk = true ↔ ∃ n, e.label = .ok n := by
      cases e.label <;> simp [Except.isOk, Except.toBool]
    simp only [Labelled, isEmpty_eq_false_iff, isOk]

theorem Labelled.length_held {entry : TrackEntry} (labelled : Labelled entry)
    (defined : List Nat → Bool) : (held defined entry).length = 4 := by
  obtain ⟨nonempty, labels⟩ := labelled
  unfold held
  split
  case h_1 e single =>
    obtain ⟨n, isLabel⟩ := labels e (by simp [single])
    rw [labelBytes, length_map, length_label isLabel]
  case h_2 =>
    refine length_firstOrLast (by simpa using nonempty) ?_ defined
    rw [forall_mem_map]
    intro e inside
    obtain ⟨n, isLabel⟩ := labels e inside
    exact length_numberBytes isLabel

/-- Without a minus sign in its labels, an entry is the first of them that is defined. -/
theorem Labelled.held_eq {entry : TrackEntry} (labelled : Labelled entry)
    (unsigned : ∀ e ∈ entry.labels, Text.Unsigned (labelOf e).toList)
    (defined : List Nat → Bool) :
    held defined entry = firstOrLast defined (entry.labels.map labelBytes) := by
  unfold held
  split
  case h_1 e single => rw [single, map_singleton, firstOrLast_singleton]
  case h_2 =>
    congr 1
    refine map_congr_left fun e inside => ?_
    obtain ⟨n, isLabel⟩ := labelled.2 e inside
    exact numberBytes_eq isLabel (unsigned e inside)

section Run

variable {g : Game} {missing : Nat} {defined : List Nat → Bool} {free : List Int} {start : Params}
  {s t u : Session} {now : Loading} {param : Int} {before : List Action}

/-- Tests for labels do not compare a parameter. -/
def IsLabelTest (missing : Nat) : Prop := ∀ value w, Skip.compare? missing 4 value w = none

theorem isLabelTest_trackNumbers (kind : TrackKind) : IsLabelTest (trackNumbers kind).2 := by
  intro value w
  cases kind <;> rfl

variable (knows : Knows g missing defined) (test : IsLabelTest missing)
include knows test

theorem run_ifDefined (idle : now.Idle) (param label : Int) :
    (now.run g (ifDefined missing param label)).Idle ∧
      (now.run g (ifDefined missing param label)).params =
        if defined ((Word.ofInt label).bytes 4) then
          Function.update now.params param (Word.ofInt label)
        else now.params := by
  rw [ifDefined, Loading.run_cons, idle.step_skip, Skip.happens, test, Option.getD_none,
    knows _ _ rfl, Word.ofInt_signed32]
  cases defined ((Word.ofInt label).bytes 4) with
  | true =>
    rw [if_neg (by simp), Loading.run_cons, Loading.run_nil]
    refine ⟨idle.idle_step_assign, ?_⟩
    rw [idle.params_step_assign, if_pos rfl]
    congr 1
    exact Word.ofInt_signed32 label
  | false =>
    rw [if_pos (by simp), Skip.passing_of_count (n := 1) rfl (by decide) (by decide)]
    have passed (a : Action) : ({ now with passing := .count 1 } : Loading).run g [a] = now := by
      rw [← length_singleton (a := a), Loading.run_count, idle.stopped]
    rw [passed]
    exact ⟨idle, (if_neg (by simp)).symm⟩

/-- Each label that is defined replaces the one that comes later in the list. -/
theorem run_tries (idle : now.Idle) (param : Int) (labels : List Int) :
    let last := now.run g (labels.reverse.flatMap (ifDefined missing param))
    last.Idle ∧ (∀ n, n ≠ param → last.params n = now.params n) ∧
      (last.params param).bytes 4 = firstOrLast defined
        (labels.map (fun n => (Word.ofInt n).bytes 4) ++ [(now.params param).bytes 4]) := by
  induction labels with
  | nil => exact ⟨idle, fun _ _ => rfl, (firstOrLast_singleton ..).symm⟩
  | cons label labels ih =>
    obtain ⟨idle, other, value⟩ := ih
    rw [reverse_cons, flatMap_append, flatMap_singleton, Loading.run_append]
    obtain ⟨still, params⟩ := run_ifDefined knows test idle param label
    refine ⟨still, fun n apart => ?_, ?_⟩
    · rw [params]
      split
      · rw [Function.update_of_ne apart, other n apart]
      · exact other n apart
    · rw [params, map_cons, cons_append, firstOrLast_cons (by simp), ← value]
      split <;> simp

omit knows test in
theorem mem_of_intoParam {e : Expr} (h : intoParam compile e s = .ok (param, before) t) :
    param ∈ s.params.free := by
  simp only [intoParam, bind_eq_ok, pure_eq_ok, Prod.mk.injEq] at h
  obtain ⟨n, u, popped, actions, _, -, ⟨rfl, rfl⟩, rfl⟩ := h
  obtain ⟨free, -⟩ := popParam_took popped
  simp [free]

theorem firstDefined_right (fit : ∀ n ∈ free, 0x40 ≤ n ∧ n < 0x80) (ready : Ready free start s now)
    {labels : List Int} (nonempty : labels ≠ [])
    (h : firstDefined missing labels s = .ok (param, before) t) :
    Advances s now t (now.run g before) ∧ param ∉ t.params.free ∧
      ((now.run g before).params param).bytes 4 =
        firstOrLast defined (labels.map fun n => (Word.ofInt n).bytes 4) := by
  obtain ⟨others, last, rfl⟩ : ∃ others last, labels = others ++ [last] :=
    ⟨_, _, (dropLast_append_getLast nonempty).symm⟩
  simp only [firstDefined, reverse_append, reverse_singleton, singleton_append, bind_eq_ok,
    pure_eq_ok, Prod.mk.injEq] at h
  obtain ⟨⟨n, actions⟩, _, computed, ⟨rfl, rfl⟩, rfl⟩ := h
  have right : Right g free start (.int last) :=
    right_of_straight (.num _ _) trivial fit (by simp [Expr.int, Expr.turns, Game.Turns])
  obtain ⟨advances, taken, value⟩ := intoParam_right right ready computed
  obtain ⟨idle, other, resolved⟩ := run_tries knows test advances.idle n others
  rw [← Loading.run_append] at idle other resolved
  refine ⟨⟨advances.pool, advances.fewer, idle, fun m outside => ?_, fun v => ?_⟩, taken, ?_⟩
  · rw [other m fun same => outside (same ▸ mem_of_intoParam computed), advances.other m outside]
  · rw [Loading.run_append, Loading.rows_run _ v, advances.rows v]
    simp only [mem_flatMap, forall_exists_index, and_imp]
    intro a label _ inside
    rcases mem_pair.1 inside with rfl | rfl <;> rfl
  · rw [resolved, value, map_append, map_singleton, Expr.int, Expr.value, Word.ofInt_signed32]

/-- The part of a table for the entries up to some entry. -/
structure Laid (g : Game) (defined : List Nat → Bool) (now : Loading) (s : Session)
    (done : List TrackEntry) (t : Session) (table : TrackTable) : Prop where
  advances : Advances s now t (now.run g table.before)
  length : ∀ l ∈ table.labels, (Text.bytes l false).length = 4
  patched : Patched t.params.free (now.run g table.before).params table.patches
    (table.labels.flatMap (Text.bytes · false)) (done.flatMap (held defined))

omit knows test in
theorem mapM_label {es : List Expr} {numbers : List Int}
    (h : (es.mapM fun e => Build.ofExcept e.label) s = .ok numbers t) :
    t = s ∧ es.map numberBytes = numbers.map fun n => (Word.ofInt n).bytes 4 := by
  induction es generalizing s numbers with
  | nil =>
    rw [mapM_nil, pure_eq_ok] at h
    obtain ⟨rfl, rfl⟩ := h
    exact ⟨rfl, rfl⟩
  | cons e es ih =>
    rw [mapM_cons] at h
    simp only [bind_eq_ok, ofExcept_eq_ok, pure_eq_ok] at h
    obtain ⟨n, _, ⟨isLabel, rfl⟩, rest, _, others, rfl, rfl⟩ := h
    obtain ⟨rfl, same⟩ := ih others
    refine ⟨rfl, ?_⟩
    rw [map_cons, map_cons, same, numberBytes, isLabel]

omit knows test in
theorem addTrack_single {entry : TrackEntry} {e : Expr} (single : entry.labels = [e])
    (table : TrackTable) : addTrack missing table entry =
      pure { table with labels := table.labels ++ [labelOf e] } := by
  cases entry with
  | label e' =>
    cases single
    rfl
  | choice name es =>
    obtain rfl : es = [e] := single
    rfl

omit knows test in
theorem addTrack_several {entry : TrackEntry} {a b : Expr} {es : List Expr}
    (several : entry.labels = a :: b :: es) (table : TrackTable) :
    addTrack missing table entry = (do
      let numbers ← (a :: b :: es).mapM fun e => Build.ofExcept e.label
      let first ← firstDefined missing numbers
      pure
        { before := table.before ++ first.2
          patches := table.patches ++ [⟨first.1, 4, 8 + 4 * table.labels.length⟩]
          labels := table.labels ++ ["\\00\\00\\00\\00"] }) := by
  cases entry with
  | label => cases several
  | choice name es' =>
    obtain rfl : es' = a :: b :: es := several
    rfl

omit knows test in
/-- Where a parameter is written, the table has zeros. -/
theorem bytes_zeros : Text.bytes "\\00\\00\\00\\00" false = replicate 4 0 := by
  decide +kernel

theorem addTrack_laid (fit : ∀ n ∈ free, 0x40 ≤ n ∧ n < 0x80) (ready : Ready free start s now)
    {done : List TrackEntry} {entry : TrackEntry} {table table' : TrackTable}
    (laid : Laid g defined now s done t table) (labelled : Labelled entry)
    (h : addTrack missing table entry t = .ok table' u) :
    Laid g defined now s (done ++ [entry]) u table' := by
  obtain ⟨e, es, shape⟩ := exists_cons_of_ne_nil labelled.1
  cases es with
  | nil =>
    rw [addTrack_single shape, pure_eq_ok] at h
    obtain ⟨rfl, rfl⟩ := h
    obtain ⟨n, isLabel⟩ := labelled.2 e (by simp [shape])
    refine ⟨laid.advances, ?_, ?_⟩
    · rw [forall_mem_append, forall_mem_singleton]
      exact ⟨laid.length, length_label isLabel⟩
    · have more := laid.patched.plain (Text.bytes (labelOf e) false)
      simpa [held, shape, labelBytes] using more
  | cons e' es =>
    rw [addTrack_several shape] at h
    simp only [bind_eq_ok, pure_eq_ok] at h
    obtain ⟨numbers, _, read, ⟨param, before⟩, _, first, rfl, rfl⟩ := h
    obtain ⟨rfl, bytes⟩ := mapM_label read
    have several : numbers ≠ [] := by
      rintro rfl
      cases bytes
    obtain ⟨advances, taken, value⟩ :=
      firstDefined_right knows test fit (laid.advances.ready ready) several first
    rw [← Loading.run_append] at advances value
    have placed := (laid.patched.mono advances.fewer advances.other).patch taken 4
    rw [length_slots laid.length, value, ← bytes] at placed
    refine ⟨laid.advances.trans advances, ?_, ?_⟩
    · rw [forall_mem_append, forall_mem_singleton, bytes_zeros]
      exact ⟨laid.length, length_replicate⟩
    · simpa [held, shape, bytes_zeros] using placed

theorem foldlM_laid (fit : ∀ n ∈ free, 0x40 ≤ n ∧ n < 0x80) (ready : Ready free start s now)
    {done entries : List TrackEntry} {table table' : TrackTable}
    (laid : Laid g defined now s done t table)
    (labelled : ∀ entry ∈ entries, Labelled entry)
    (h : entries.foldlM (addTrack missing) table t = .ok table' u) :
    Laid g defined now s (done ++ entries) u table' := by
  induction entries generalizing done t table with
  | nil =>
    rw [foldlM_nil, pure_eq_ok] at h
    obtain ⟨rfl, rfl⟩ := h
    rwa [append_nil]
  | cons entry entries ih =>
    rw [foldlM_cons, bind_eq_ok] at h
    obtain ⟨table₁, t₁, first, rest⟩ := h
    rw [forall_mem_cons] at labelled
    have := ih (addTrack_laid knows test fit ready laid labelled.1 first) labelled.2 rest
    rwa [append_assoc, singleton_append] at this

end Run

theorem bytes_labelTable {p : PropertyAction} {number : Int} {labels : List String}
    (single : p.properties = [.labelTable number labels]) (s : Session) :
    p.bytes s = PropertyRow.head p.feature p.count p.first number ++
      labels.flatMap (Text.bytes · false) := by
  refine PropertyAction.bytes_single rfl single ?_
  simp [PropertyData.fixedPieces, PropertyAction.bytes_inRows, flatMap_map, Piece.hex, Piece.line,
    Piece.content, Piece.bytes, Piece.ascii]

section Whole

variable {g : Game} {kind : TrackKind} {defined : List Nat → Bool} {s t : Session} {start : Loading}
  {entries : List TrackEntry}

/-- The label at a place of a table. -/
def slot (row : PropertyRow) (k : Nat) : List Nat := (row.values.drop (4 * k)).take 4

/-- Every entry of a table is resolved when the file is loaded: one action sets the table, with four
bytes for each entry. These are a label that stands alone, or else the first label of the entry that
is defined, or its last. Labels in a list go by their numbers, which differ from what is written for
a label alone where an escape has a minus sign. -/
theorem track_entries_resolved (pool : Pool s) (idle : start.Idle)
    (knows : Knows g (trackNumbers kind).2 defined)
    (labelled : ∀ entry ∈ entries, Labelled entry) {written : List Action}
    (h : trackTable kind entries s = .ok written t) :
    (start.run g written).Idle ∧
      (∀ n, n ∉ s.params.free → (start.run g written).params n = start.params n) ∧
      ∃ row : PropertyRow,
        (∀ u, (start.run g written).log.rows u = start.log.rows u ++ [some row]) ∧
        row.feature = 8 ∧ row.number = (trackNumbers kind).1 ∧ row.first = 0 ∧
        row.count = entries.length % 256 ∧ row.values.length = 4 * entries.length ∧
        ∀ k entry, entries[k]? = some entry → slot row k = held defined entry ∧
          ((∀ e ∈ entry.labels, Text.Unsigned (labelOf e).toList) →
            slot row k = firstOrLast defined (entry.labels.map labelBytes)) := by
  simp only [trackTable, bind_eq_ok, pure_eq_ok] at h
  obtain ⟨_, s₁, saved, table, s₂, folded, _, _, -, rfl, rfl⟩ := h
  obtain rfl := modify_eq_ok.1 saved
  have ready : Ready s.params.free start.params { s with params := s.params.save } start :=
    ⟨pool.saved, idle, Subset.refl _, fun _ _ => rfl⟩
  have empty : Laid g defined start { s with params := s.params.save } []
      { s with params := s.params.save } {} :=
    ⟨.refl pool.saved idle, forall_mem_nil _, .nil⟩
  have laid := foldlM_laid knows (isLabelTest_trackNumbers kind) pool.fit ready empty labelled
    folded
  have four : ∀ entry ∈ entries, (held defined entry).length = 4 :=
    fun entry inside => (labelled entry inside).length_held defined
  rw [nil_append] at laid
  obtain ⟨idle, params, rows⟩ := Loading.run_row (g := g) laid.advances.idle (forall_mem_nil _)
    laid.patched (bytes_labelTable (p := {
      feature := gameFeature, first := 0, count := entries.length
      properties := [.labelTable (trackNumbers kind).1 table.labels] }) rfl)
  have split (p : PropertyAction) : withPatches table.before table.patches (.properties p) =
      table.before ++ withPatches [] ([] ++ table.patches) (.properties p) := by
    simp [withPatches]
  rw [split, Loading.run_append]
  simp only [laid.advances.rows] at rows
  refine ⟨idle, fun n outside => ?_, _, rows, rfl, ?_, rfl, ?_, length_slots four,
    fun k entry found => ?_⟩
  · rw [params]
    exact laid.advances.other n outside
  · cases kind <;> rfl
  · change Number.lowBytes entries.length 1 = _
    rw [Number.lowBytes_one]
    omega
  · have shown := slot_eq four found
    exact ⟨shown, fun unsigned =>
      shown.trans ((labelled entry (mem_of_getElem? found)).held_eq unsigned defined)⟩

end Whole

/-- A game that knows some labels, and adds nothing else of its own. -/
def labelGame (defined : List Nat → Bool) : Game :=
  { silentGame fun _ => true with test := fun _ s => !defined ((Word.ofInt s.value).bytes 4) }

theorem knows_labelGame (defined : List Nat → Bool) (missing : Nat) :
    Knows (labelGame defined) missing defined := fun _ _ _ => rfl

/-- A label alone, a list with a label in the middle that is defined, and one without any. -/
def mixedTracks : List TrackEntry :=
  let label (s : String) : Expr := .literal s none
  [.label (label "RAIL"), .choice ⟨"fast", none⟩ [label "SAAN", label "ELRL", label "RAIL"],
    .choice ⟨"other", none⟩ [label "MONO", label "MGLV"]]

theorem mixed_tracks_resolved : ∃ written t,
    (∀ entry ∈ mixedTracks, Labelled entry) ∧ trackTable .rail mixedTracks {} = .ok written t ∧
      ∃ row : PropertyRow, (∀ u, (({ params := Word.ofInt } : Loading).run
          (labelGame fun l => l == [69, 76, 82, 76] || l == [82, 65, 73, 76]) written).log.rows u =
            [some row]) ∧
        row.number = 0x12 ∧ row.count = 3 ∧ slot row 0 = [82, 65, 73, 76] ∧
        slot row 1 = [69, 76, 82, 76] ∧ slot row 2 = [77, 71, 76, 86] := by
  have labelled : ∀ entry ∈ mixedTracks, Labelled entry := by decide +kernel
  obtain ⟨written, t, h⟩ := ok_of_works (m := trackTable .rail mixedTracks) (s := {})
    (by decide +kernel)
  have idle : ({ params := Word.ofInt } : Loading).Idle := ⟨rfl, rfl⟩
  obtain ⟨-, -, row, shown, -, number, -, count, -, slots⟩ := track_entries_resolved
    ⟨paramsFit_new, nodup_new⟩ idle
    (knows_labelGame (fun l => l == [69, 76, 82, 76] || l == [82, 65, 73, 76]) _) labelled h
  refine ⟨written, t, labelled, h, row, shown, Int.ofNat.inj number, count, ?_, ?_, ?_⟩
  · rw [(slots 0 _ rfl).1]
    decide +kernel
  · rw [(slots 1 _ rfl).1]
    decide +kernel
  · rw [(slots 2 _ rfl).1]
    decide +kernel

/-- In a list, a label whose escape has a minus sign is not the label that is written for it
alone. -/
theorem signed_label_written_as_number : ∃ written t, ∃ row : PropertyRow,
    trackTable .rail [.choice ⟨"fast", none⟩ [.literal "\\-4abc" none, .literal "RAIL" none]] {} =
      .ok written t ∧
    (({ params := Word.ofInt } : Loading).run (labelGame fun _ => true) written).log.rows {} =
      [some row] ∧
    slot row 0 = [0xFC, 0xFF, 0xFF, 0xFF] ∧
    labelBytes (.literal "\\-4abc" none) = [0xFC, 0x61, 0x62, 0x63] := by
  have signed : (Expr.literal "\\-4abc" none).label = .ok (-4) := by decide +kernel
  have rail : (Expr.literal "RAIL" none).label = .ok 0x4C494152 := by decide +kernel
  have bytes : labelBytes (.literal "\\-4abc" none) = [0xFC, 0x61, 0x62, 0x63] := by decide +kernel
  simp only [trackTable, foldlM_cons, foldlM_nil, addTrack, mapM_cons, mapM_nil, signed, rail]
  refine ⟨_, _, ⟨8, 1, 0, 0x12, [0xFC, 0xFF, 0xFF, 0xFF]⟩, rfl, ?_, rfl, bytes⟩
  decide +kernel

end Property

end NewGrf
