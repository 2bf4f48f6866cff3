import NewGrf.Proofs.Bytes
import NewGrf.Sprite.Pixels

open List

namespace NewGrf

namespace Lz77

/-- Some bytes as they are, or a number of bytes that stand some distance back. -/
inductive Part where
  | plain (bytes : List UInt8)
  | back (distance length : Nat)
  deriving Repr, DecidableEq

/-- The parts of packed data. A code below zero is a reference: its lowest bits belong to the
distance, and the others are its length. Any other code counts plain bytes. -/
def parts? : List UInt8 → Option (List Part)
  | [] => some []
  | code :: rest =>
    let signed := code.toInt8.toInt
    if 0 ≤ signed then
      let count := if signed = 0 then 128 else signed.toNat
      if count ≤ rest.length then (parts? (rest.drop count)).map (.plain (rest.take count) :: ·)
      else none
    else do
      let low ← rest.head?
      let distance := (code &&& 7).toNat <<< 8 ||| low.toNat
      (parts? rest.tail).map (.back distance (-(signed >>> (3 : Nat))).toNat :: ·)
termination_by bytes => bytes.length
decreasing_by all_goals simp; try omega

/-- Appends bytes that stand some distance back, one at a time. -/
def copyBack (distance : Nat) : Nat → List UInt8 → Option (List UInt8)
  | 0, out => some out
  | n + 1, out => do
    let byte ← if distance ≤ out.length then out[out.length - distance]? else none
    copyBack distance n (out ++ [byte])

def Part.unpack (out : List UInt8) : Part → Option (List UInt8)
  | plain bytes => some (out ++ bytes)
  | back distance length => copyBack distance length out

def unpack (bytes : List UInt8) : Option (List UInt8) := do (← parts? bytes).foldlM Part.unpack []

namespace Part

/-- How a part is written. -/
def bytes : Part → List UInt8
  | plain bs => (bs.length % literalRun).toUInt8 :: bs
  | back distance length => [(0x100 - 8 * length + distance / 0x100).toUInt8, distance.toUInt8]

/-- A part that can be written. -/
def Fits : Part → Prop
  | plain bs => 0 < bs.length ∧ bs.length ≤ 128
  | back distance length => (3 ≤ length ∧ length ≤ 15) ∧ 3 ≤ distance ∧ distance ≤ 2047

/-- What the code of a reference tells. -/
theorem code_of_back : ∀ length < 16, ∀ high < 8, 3 ≤ length →
    let code := (0x100 - 8 * length + high).toUInt8
    code.toInt8.toInt < 0 ∧ (code &&& 7).toNat = high ∧
      (-(code.toInt8.toInt >>> (3 : Nat))).toNat = length := by
  decide

theorem code_of_plain : ∀ n < 128, (Nat.toUInt8 n).toInt8.toInt = n := by decide

variable {p : Part} {ps : List Part} {rest out : List UInt8}

theorem parts?_bytes_append (fits : p.Fits) :
    parts? (p.bytes ++ rest) = (parts? rest).map (p :: ·) := by
  cases p with
  | plain bs =>
    obtain ⟨some, few⟩ := fits
    have code := code_of_plain (bs.length % literalRun) (Nat.mod_lt _ (by decide))
    have count : (if ((bs.length % literalRun : Nat) : Int) = 0 then 128
        else ((bs.length % literalRun : Nat) : Int).toNat) = bs.length := by
      unfold literalRun
      split <;> omega
    have room : bs.length ≤ (bs ++ rest).length := by simp
    rw [bytes, cons_append, parts?]
    dsimp only
    rw [code, if_pos (Int.natCast_nonneg _), count, if_pos room, take_left, drop_left]
  | back distance length =>
    obtain ⟨⟨low, high⟩, -, near⟩ := fits
    obtain ⟨negative, top, count⟩ :=
      code_of_back length (by omega) (distance / 0x100) (by omega) low
    have whole : (distance / 0x100) <<< 8 ||| distance.toUInt8.toNat = distance := by
      have byte : distance.toUInt8.toNat = distance % 256 := UInt8.toNat_ofNat'
      have below : distance % 256 < 2 ^ 8 := Nat.mod_lt _ (by decide)
      rw [byte, ← Nat.shiftLeft_add_eq_or_of_lt below, Nat.shiftLeft_eq]
      omega
    rw [bytes, cons_append, parts?, if_neg (by omega), top, count, singleton_append, head?_cons,
      tail_cons, Option.bind_eq_bind, Option.bind_some, whole]

theorem parts?_bytes (fit : ∀ p ∈ ps, p.Fits) : parts? (ps.flatMap bytes) = some ps := by
  induction ps with
  | nil => rw [flatMap_nil, parts?]
  | cons p rest ih =>
    rw [forall_mem_cons] at fit
    rw [flatMap_cons, parts?_bytes_append fit.1, ih fit.2, Option.map_some]

/-- A reference that is unpacked reaches back no further than to the first byte. -/
theorem distance_le {distance length whole} (copies : 0 < length)
    (h : (back distance length).unpack out = some whole) : distance ≤ out.length := by
  cases length with
  | zero => cases copies
  | succ n =>
    refine Decidable.byContradiction fun far => ?_
    simp [unpack, copyBack, far] at h

theorem foldlM_split {before after : List Part} {whole}
    (h : (before ++ p :: after).foldlM unpack [] = some whole) :
    ∃ out, before.foldlM unpack [] = some out ∧ ∃ more, p.unpack out = some more := by
  rw [foldlM_append, Option.bind_eq_bind, Option.bind_eq_some_iff] at h
  obtain ⟨out, first, h⟩ := h
  rw [foldlM_cons, Option.bind_eq_bind, Option.bind_eq_some_iff] at h
  obtain ⟨more, own, -⟩ := h
  exact ⟨out, first, more, own⟩

end Part

section References

variable {data : ByteArray} {pos i j n length : Nat} {waiting out : List UInt8} {ts : List Token}

theorem byteAt_eq (inside : i < data.size) : data.data.toList[i]? = some (byteAt data i) := by
  rw [byteAt, dif_pos inside, Array.getElem?_toList]
  exact Array.getElem?_eq_getElem inside

theorem byteAt_of_sameBytes (same : sameBytes data i j n = true) :
    ∀ k < n, byteAt data (i + k) = byteAt data (j + k) := by
  induction n with
  | zero => nofun
  | succ n ih =>
    rw [sameBytes, Bool.and_eq_true, beq_iff_eq] at same
    intro k below
    obtain rfl | below := Nat.lt_succ_iff_lt_or_eq.1 below |>.symm
    · exact same.1
    · exact ih same.2 k below

/-- Bytes before a position that also stand there. -/
structure Match (data : ByteArray) (pos i length : Nat) : Prop where
  near : pos - reach ≤ i
  before : i + length ≤ pos
  long : shortest ≤ length
  short : length ≤ min longest (data.size - pos)
  same : sameBytes data i pos length = true

theorem of_find? {fuel start} (found : find? data pos length fuel start = some i) :
    start ≤ i ∧ i + length ≤ pos ∧ sameBytes data i pos length = true := by
  induction fuel generalizing start with
  | zero => cases found
  | succ fuel ih =>
    rw [find?] at found
    split at found
    next room =>
      split at found
      next same =>
        cases found
        exact ⟨Nat.le_refl _, room, same⟩
      next =>
        have later := ih found
        exact ⟨by omega, later.2⟩
    next => cases found

theorem of_extend {more start best} (long : shortest ≤ length) (near : pos - reach ≤ start)
    (room : length + more ≤ min longest (data.size - pos) + 1)
    (isMatch : ∀ i n, best = some (i, n) → Match data pos i n)
    (found : extend data pos more length start best = some (i, n)) : Match data pos i n := by
  induction more generalizing length start best with
  | zero => exact isMatch i n found
  | succ more ih =>
    rw [extend] at found
    split at found
    next i' at_ =>
      obtain ⟨behind, before, same⟩ := of_find? at_
      refine ih (Nat.le_succ_of_le long) (Nat.le_trans near behind) (by omega) ?_ found
      rintro _ _ ⟨⟩
      exact ⟨Nat.le_trans near behind, before, long, by omega, same⟩
    next => exact isMatch i n found

theorem of_longestMatch? (found : longestMatch? data pos = some (i, n)) : Match data pos i n := by
  have nothing (i n : Nat) (same : none = some (i, n)) : Match data pos i n := nomatch same
  by_cases enough : shortest ≤ min longest (data.size - pos)
  · exact of_extend (Nat.le_refl _) (Nat.le_refl _) (by omega) nothing found
  · have few : min longest (data.size - pos) + 1 - shortest = 0 := by omega
    dsimp only [longestMatch?] at found
    rw [few] at found
    cases found

/-- Tokens that stand for the bytes from a position on. -/
def Spells (bytes : List UInt8) : Nat → List Token → Prop
  | pos, [] => bytes.length ≤ pos
  | pos, .literal b :: ts => bytes[pos]? = some b ∧ Spells bytes (pos + 1) ts
  | pos, .copy distance length :: ts =>
    (Part.back distance length).Fits ∧ distance ≤ pos ∧ pos + length ≤ bytes.length ∧
      (∀ k < length, bytes[pos - distance + k]? = bytes[pos + k]?) ∧
      Spells bytes (pos + length) ts

theorem tokensFrom_spells (data : ByteArray) (fuel pos : Nat) (room : data.size ≤ pos + fuel)
    (out : List Token) :
    ∃ ts, tokensFrom data fuel pos out = out.reverse ++ ts ∧
      Spells data.data.toList pos ts := by
  have size : data.data.toList.length = data.size := rfl
  induction fuel generalizing pos out with
  | zero => exact ⟨[], (append_nil _).symm, room⟩
  | succ fuel ih =>
    rw [tokensFrom]
    split
    next inside =>
      split
      next i length found =>
        have m := of_longestMatch? found
        have long : 3 ≤ length := m.long
        have short : length ≤ min 15 (data.size - pos) := m.short
        have near : pos - 2047 ≤ i := m.near
        have before := m.before
        obtain ⟨ts, eq, spells⟩ := ih (pos + length) (by omega) (.copy (pos - i) length :: out)
        refine ⟨.copy (pos - i) length :: ts, by simp [eq], ⟨⟨by omega, by omega⟩, by omega,
          by omega⟩, by omega, by omega, fun k below => ?_, spells⟩
        rw [byteAt_eq (by omega), byteAt_eq (by omega), ← byteAt_of_sameBytes m.same k below]
        congr 2
        omega
      next =>
        obtain ⟨ts, eq, spells⟩ := ih (pos + 1) (by omega) (.literal (byteAt data pos) :: out)
        exact ⟨.literal (byteAt data pos) :: ts, by simp [eq], byteAt_eq inside, spells⟩
    next outside => exact ⟨[], (append_nil _).symm, Nat.not_lt.1 outside⟩

/-- The part that waiting bytes become. -/
def flushed (waiting : List UInt8) : List Part :=
  if waiting.isEmpty then [] else [.plain waiting.reverse]

/-- The parts that tokens are written as. -/
def partsOf : List Token → List UInt8 → List Part
  | [], waiting => flushed waiting
  | .literal b :: rest, waiting =>
    if waiting.length + 1 == literalRun then .plain (b :: waiting).reverse :: partsOf rest []
    else partsOf rest (b :: waiting)
  | .copy distance length :: rest, waiting =>
    flushed waiting ++ .back distance length :: partsOf rest []

theorem flush_eq (out : ByteArray) (waiting : List UInt8) :
    (flush out waiting).data.toList = out.data.toList ++ (flushed waiting).flatMap Part.bytes := by
  cases waiting with
  | nil => simp [flush, flushed]
  | cons b rest =>
    simp only [flush, flushed, isEmpty_cons, Bool.false_eq_true, if_false, toList_foldl_push]
    simp [Part.bytes]

theorem pack_eq (ts : List Token) (waiting : List UInt8) (out : ByteArray) :
    (pack ts waiting waiting.length out).data.toList =
      out.data.toList ++ (partsOf ts waiting).flatMap Part.bytes := by
  induction ts generalizing waiting out with
  | nil => exact flush_eq out waiting
  | cons t rest ih =>
    cases t with
    | literal b =>
      rw [pack, partsOf]
      split
      · have first := flush_eq out (b :: waiting)
        have others := ih [] (flush out (b :: waiting))
        rw [first] at others
        simpa [flushed] using others
      · exact ih (b :: waiting) out
    | copy distance length =>
      refine (ih [] _).trans ?_
      rw [partsOf, ByteArray.data_push, Array.toList_push, ByteArray.data_push, Array.toList_push,
        flush_eq]
      simp [Part.bytes]

theorem flushed_fit (few : waiting.length ≤ 128) : ∀ p ∈ flushed waiting, p.Fits := by
  cases waiting with
  | nil => nofun
  | cons b rest => simpa [flushed, Part.Fits] using few

theorem partsOf_fit {bytes : List UInt8} (spells : Spells bytes pos ts)
    (few : waiting.length < 128) :
    ∀ p ∈ partsOf ts waiting, p.Fits := by
  induction ts generalizing pos waiting with
  | nil => exact flushed_fit (Nat.le_of_lt few)
  | cons t rest ih =>
    cases t with
    | literal b =>
      rw [partsOf]
      split
      · refine forall_mem_cons.2 ⟨?_, ih spells.2 (by decide)⟩
        exact ⟨by simp, by simp only [length_reverse, length_cons]; omega⟩
      next more =>
        have more : waiting.length + 1 ≠ 128 := by simpa [literalRun] using more
        exact ih spells.2 (by rw [length_cons]; omega)
    | copy distance length =>
      exact forall_mem_append.2 ⟨flushed_fit (Nat.le_of_lt few),
        forall_mem_cons.2 ⟨spells.1, ih spells.2.2.2.2 (by decide)⟩⟩

theorem foldlM_flushed {whole} (before : out ++ waiting.reverse = whole) (ps : List Part) :
    (flushed waiting ++ ps).foldlM Part.unpack out = ps.foldlM Part.unpack whole := by
  cases waiting with
  | nil => rw [← before]; simp [flushed]
  | cons b rest => rw [← before]; rfl

theorem take_succ_of_getElem? {bytes : List UInt8} {b} (here : bytes[pos]? = some b) :
    bytes.take (pos + 1) = bytes.take pos ++ [b] := by
  rw [take_add_one, here, Option.toList_some]

/-- Bytes that stand some distance back are those that follow. -/
theorem copyBack_take {distance : Nat} {bytes : List UInt8} (positive : 0 < distance)
    (reaches : distance ≤ pos) (inside : pos + n ≤ bytes.length)
    (same : ∀ k < n, bytes[pos - distance + k]? = bytes[pos + k]?) :
    copyBack distance n (bytes.take pos) = some (bytes.take (pos + n)) := by
  induction n generalizing pos with
  | zero => rfl
  | succ n ih =>
    have here : bytes[pos]? = some bytes[pos] := getElem?_eq_getElem (by omega)
    have length : (bytes.take pos).length = pos := by rw [length_take]; omega
    have back : (bytes.take pos)[pos - distance]? = some bytes[pos] := by
      rw [getElem?_take_of_lt (by omega), ← here]
      exact same 0 (by omega)
    have later : ∀ k < n, bytes[pos + 1 - distance + k]? = bytes[pos + 1 + k]? := by
      intro k below
      have after := same (k + 1) (by omega)
      rwa [← Nat.add_assoc, Nat.add_right_comm, ← Nat.sub_add_comm reaches, ← Nat.add_assoc,
        Nat.add_right_comm pos] at after
    have rest := ih (by omega) (by omega) later
    rw [take_succ_of_getElem? here] at rest
    rw [copyBack, length, if_pos reaches, back, ← Nat.add_assoc, Nat.add_right_comm]
    exact rest

/-- The parts of tokens unpack to what the tokens stand for. -/
theorem foldlM_partsOf {bytes : List UInt8} (spells : Spells bytes pos ts)
    (before : out ++ waiting.reverse = bytes.take pos) :
    (partsOf ts waiting).foldlM Part.unpack out = some bytes := by
  induction ts generalizing pos waiting out with
  | nil =>
    have all := foldlM_flushed before []
    rw [append_nil, take_of_length_le spells] at all
    exact all
  | cons t rest ih =>
    cases t with
    | literal b =>
      have next : out ++ (b :: waiting).reverse = bytes.take (pos + 1) := by
        rw [reverse_cons, ← append_assoc, before, take_succ_of_getElem? spells.1]
      rw [partsOf]
      split
      · exact ih spells.2 (by rw [reverse_nil, append_nil]; exact next)
      · exact ih spells.2 next
    | copy distance length =>
      obtain ⟨⟨-, far, -⟩, reaches, inside, same, spells⟩ := spells
      rw [partsOf, foldlM_flushed before, foldlM_cons, Part.unpack,
        copyBack_take (by omega) reaches inside same]
      exact ih spells (append_nil _)

end References

/-- The parts of packed data, which can all be written and unpack to the data. -/
theorem encode_parts (data : ByteArray) : ∃ ps : List Part, (∀ p ∈ ps, p.Fits) ∧
    (encode data).data.toList = ps.flatMap Part.bytes ∧
    ps.foldlM Part.unpack [] = some data.data.toList := by
  obtain ⟨ts, eq, spells⟩ := tokensFrom_spells data data.size 0 (by omega) []
  have tokens : tokens data = ts := eq
  refine ⟨partsOf ts [], partsOf_fit spells (by decide), ?_, foldlM_partsOf spells rfl⟩
  rw [encode, tokens]
  exact pack_eq ts [] .empty

/-- Data that are not packed stand in runs. -/
theorem store_parts (data : ByteArray) (fuel i : Nat) (room : data.size ≤ i + fuel)
    (out : ByteArray) : ∃ ps : List Part, (∀ p ∈ ps, p.Fits) ∧
      (Pixels.store.go data fuel i out).data.toList = out.data.toList ++ ps.flatMap Part.bytes ∧
      ∀ done, ps.foldlM Part.unpack done = some (done ++ data.data.toList.drop i) := by
  induction fuel generalizing i out with
  | zero =>
    refine ⟨[], nofun, by simp [Pixels.store.go], fun done => ?_⟩
    rw [drop_eq_nil_of_le (by exact room), append_nil]
    rfl
  | succ fuel ih =>
    rw [Pixels.store.go]
    split
    next inside =>
      extract_lets n
      have run : n = min (data.size - i) 127 := rfl
      clear_value n
      obtain ⟨ps, fit, eq, unpacks⟩ :=
        ih (i + n) (by omega) (out.push n.toUInt8 ++ data.extract i (i + n))
      have length : ((data.data.toList.drop i).take n).length = n := by
        have size : data.data.toList.length = data.size := rfl
        rw [length_take, length_drop, size]
        omega
      refine ⟨.plain ((data.data.toList.drop i).take n) :: ps,
        forall_mem_cons.2 ⟨⟨by omega, by omega⟩, fit⟩, ?_, fun done => ?_⟩
      · have code : n % literalRun = n := Nat.mod_eq_of_lt (by unfold literalRun; omega)
        rw [eq, flatMap_cons, Part.bytes, length, code]
        simp [List.extract]
      · rw [foldlM_cons, Part.unpack, Option.bind_eq_bind, Option.bind_some, unpacks, append_assoc,
          ← drop_drop, take_append_drop]
    next outside =>
      refine ⟨[], nofun, by simp, fun done => ?_⟩
      rw [drop_eq_nil_of_le (Nat.not_lt.1 outside), append_nil]
      rfl

theorem unpack_bytes {ps : List Part} (fit : ∀ p ∈ ps, p.Fits) :
    unpack (ps.flatMap Part.bytes) = ps.foldlM Part.unpack [] := by
  rw [unpack, Part.parts?_bytes fit]
  rfl

/-- Data are unpacked as they were, whether they have been packed or only stored. The references in
packed data are as long and reach as far as can be written, and never to bytes that are not
there. -/
theorem unpack_compress (data : ByteArray) :
    unpack (encode data).data.toList = some data.data.toList ∧
    (∃ ps, parts? (encode data).data.toList = some ps ∧
      ∀ before distance length after, ps = before ++ .back distance length :: after →
        (3 ≤ length ∧ length ≤ 15) ∧ (3 ≤ distance ∧ distance ≤ 2047) ∧
        ∃ out, before.foldlM Part.unpack [] = some out ∧ distance ≤ out.length) ∧
    unpack (Pixels.store data).data.toList = some data.data.toList := by
  obtain ⟨ps, fit, packed, unpacks⟩ := encode_parts data
  refine ⟨?_, ⟨ps, ?_, ?_⟩, ?_⟩
  · rw [packed, unpack_bytes fit, unpacks]
  · rw [packed, Part.parts?_bytes fit]
  · rintro before distance length after rfl
    have fits : (Part.back distance length).Fits := fit _ (by simp)
    obtain ⟨out, first, more, own⟩ := Part.foldlM_split unpacks
    exact ⟨fits.1, fits.2, out, first, Part.distance_le (by have := fits.1; omega) own⟩
  · obtain ⟨ps, fit, stored, unpacks⟩ := store_parts data data.size 0 (by omega) .empty
    have bytes : (Pixels.store data).data.toList = ps.flatMap Part.bytes := stored
    rw [bytes, unpack_bytes fit, unpacks, nil_append, drop_zero]

/-- As many bytes as a reference can cover follow a position, and together they also stand among
the bytes before it that a reference can reach. -/
def Recurs (bytes : List UInt8) (pos n : Nat) : Prop :=
  (3 ≤ n ∧ n ≤ 15) ∧ pos + n ≤ bytes.length ∧
    (bytes.drop pos).take n <:+: (bytes.take pos).drop (pos - 2047)

section Longest

variable {data : ByteArray} {pos start length i j n m fuel more : Nat} {best : Option (Nat × Nat)}

theorem sameBytes_iff (left : i + n ≤ data.size) (right : j + n ≤ data.size) :
    sameBytes data i j n = true ↔
      (data.data.toList.drop i).take n = (data.data.toList.drop j).take n := by
  induction n with
  | zero => simp [sameBytes]
  | succ n ih =>
    have first : data.data.toList[i + n]? = some (byteAt data (i + n)) := byteAt_eq (by omega)
    have second : data.data.toList[j + n]? = some (byteAt data (j + n)) := byteAt_eq (by omega)
    have sizes : ((data.data.toList.drop i).take n).length =
        ((data.data.toList.drop j).take n).length := by
      have size : data.data.toList.length = data.size := rfl
      simp only [length_take, length_drop, size]
      omega
    rw [sameBytes, Bool.and_eq_true, beq_iff_eq, ih (by omega) (by omega), take_add_one,
      take_add_one, getElem?_drop, getElem?_drop, first, second]
    constructor
    · rintro ⟨last, same⟩
      rw [last, same]
    · intro whole
      obtain ⟨same, last⟩ := append_inj whole sizes
      exact ⟨by simpa using last, same⟩

theorem Match.recurs (m : Match data pos i n) : Recurs data.data.toList pos n := by
  have size : data.data.toList.length = data.size := rfl
  have long : 3 ≤ n := m.long
  have short : n ≤ min 15 (data.size - pos) := m.short
  have near : pos - 2047 ≤ i := m.near
  have before := m.before
  refine ⟨⟨long, by omega⟩, by omega, ?_⟩
  rw [← (sameBytes_iff (by omega) (by omega)).1 m.same]
  have inside : (data.data.toList.drop i).take n =
      (((data.data.toList.take pos).drop (pos - 2047)).drop (i - (pos - 2047))).take n := by
    rw [drop_drop, Nat.add_sub_cancel' near, drop_take, take_take, Nat.min_eq_left (by omega)]
  rw [inside]
  have front (bytes : List UInt8) : bytes.take n <+: bytes := take_prefix n bytes
  exact (front _).isInfix.trans (drop_suffix _ _).isInfix

theorem Recurs.exists_match (recurs : Recurs data.data.toList pos n) :
    ∃ i, Match data pos i n := by
  have size : data.data.toList.length = data.size := rfl
  obtain ⟨⟨long, short⟩, inside, front, back, window⟩ := recurs
  have total := congrArg List.length window
  simp only [length_append, length_take, length_drop] at total
  have there : (data.data.toList.drop (pos - 2047 + front.length)).take n =
      (data.data.toList.drop pos).take n := by
    have same : (((data.data.toList.take pos).drop (pos - 2047)).drop front.length).take n =
        (data.data.toList.drop pos).take n := by
      have size : ((data.data.toList.drop pos).take n).length = n := by
        rw [length_take, length_drop]
        omega
      rw [← window, append_assoc, drop_left, take_left' size]
    rwa [drop_drop, drop_take, take_take, Nat.min_eq_left (by omega)] at same
  exact ⟨pos - 2047 + front.length, Nat.le_add_right _ _, by omega, long,
    Nat.le_min.2 ⟨short, by omega⟩, (sameBytes_iff (by omega) (by omega)).2 there⟩

theorem sameBytes_mono (shorter : m ≤ n) (same : sameBytes data i j n = true) :
    sameBytes data i j m = true := by
  induction n with
  | zero => rwa [Nat.le_zero.1 shorter]
  | succ n ih =>
    obtain rfl | below := Nat.eq_or_lt_of_le shorter
    · exact same
    · rw [sameBytes, Bool.and_eq_true] at same
      exact ih (Nat.le_of_lt_succ below) same.2

/-- The search finds the first place of all. -/
theorem find?_le (enough : pos ≤ start + fuel) (positive : 0 < length) (behind : start ≤ j)
    (before : j + length ≤ pos) (same : sameBytes data j pos length = true) :
    ∃ i, find? data pos length fuel start = some i ∧ i ≤ j := by
  induction fuel generalizing start with
  | zero => omega
  | succ fuel ih =>
    rw [find?, if_pos (by omega)]
    split
    · exact ⟨start, rfl, behind⟩
    next other =>
      have later : start ≠ j := fun here => other (here ▸ same)
      exact ih (by omega) (by omega)

/-- What has been found is given up only for something longer. -/
theorem extend_keeps (below : n ≤ length) (found : best = some (i, n)) :
    ∃ i' n', extend data pos more length start best = some (i', n') ∧ n ≤ n' := by
  induction more generalizing length start best i n with
  | zero => exact ⟨i, n, found, Nat.le_refl n⟩
  | succ more ih =>
    rw [extend]
    split
    next i' _ =>
      obtain ⟨last, most, eq, least⟩ := ih (Nat.le_succ length) (i := i') rfl
      exact ⟨last, most, eq, Nat.le_trans below least⟩
    next => exact ⟨i, n, found, Nat.le_refl n⟩

/-- A longer match stands nowhere before the first shorter one, so a search from there on misses
none. -/
theorem le_extend (all : min longest (data.size - pos) < length + more)
    (positive : 0 < length) (behind : ∀ {j m}, Match data pos j m → length ≤ m → start ≤ j)
    (isMatch : Match data pos j n) (long : length ≤ n) :
    ∃ i m, extend data pos more length start best = some (i, m) ∧ n ≤ m := by
  induction more generalizing length start best with
  | zero =>
    have := isMatch.short
    omega
  | succ more ih =>
    -- a match of some length is one of every smaller length
    have found {j m} (isMatch : Match data pos j m) (long : length ≤ m) :
        ∃ i, find? data pos length (pos - start) start = some i ∧ i ≤ j :=
      find?_le (by have := isMatch.before; omega) positive (behind isMatch long)
        (by have := isMatch.before; omega) (sameBytes_mono long isMatch.same)
    obtain ⟨i, first, -⟩ := found isMatch long
    rw [extend, first]
    obtain rfl | longer := Nat.eq_or_lt_of_le long
    · exact extend_keeps (Nat.le_succ _) rfl
    · refine ih (by omega) (Nat.succ_pos _) (fun isMatch long => ?_) longer
      obtain ⟨i', again, before⟩ := found isMatch (by omega)
      rw [first, Option.some.injEq] at again
      exact again ▸ before

theorem le_longestMatch? (recurs : Recurs data.data.toList pos n) :
    ∃ i m, longestMatch? data pos = some (i, m) ∧ n ≤ m := by
  obtain ⟨j, isMatch⟩ := recurs.exists_match
  exact le_extend (by omega) (by decide) (fun other _ => other.near) isMatch isMatch.long

end Longest

namespace Part

/-- How many bytes a part unpacks to. -/
def size : Part → Nat
  | plain bytes => bytes.length
  | back _ length => length

/-- A reference that covers as many bytes as any could at its place, or bytes of which none is at
the start of some that recur. -/
def Longest (whole : List UInt8) (pos : Nat) : Part → Prop
  | plain bytes => ∀ k < bytes.length, ∀ n, ¬ Recurs whole (pos + k) n
  | back _ length => Recurs whole pos length ∧ ∀ n, Recurs whole pos n → n ≤ length

/-- Parts from a position on of which each is as long as it can be. -/
def AllLongest (whole : List UInt8) : Nat → List Part → Prop
  | _, [] => True
  | pos, p :: ps => p.Longest whole pos ∧ AllLongest whole (pos + p.size) ps

variable {whole out waiting more : List UInt8} {p : Part} {before after ps : List Part} {pos : Nat}

theorem copyBack_succ {distance n : Nat} : copyBack distance (n + 1) out =
    (if distance ≤ out.length then out[out.length - distance]? else none).bind fun byte =>
      copyBack distance n (out ++ [byte]) := by
  rw [copyBack]
  split <;> rfl

theorem copyBack_append {distance n : Nat} (h : copyBack distance n out = some more) :
    out <+: more ∧ more.length = out.length + n := by
  induction n generalizing out with
  | zero =>
    obtain rfl := Option.some.inj h
    exact ⟨prefix_rfl, rfl⟩
  | succ n ih =>
    obtain ⟨byte, -, h⟩ := Option.bind_eq_some_iff.1 (copyBack_succ.symm.trans h)
    obtain ⟨starts, length⟩ := ih h
    refine ⟨(prefix_append out [byte]).trans starts, ?_⟩
    rw [length, length_append, length_singleton]
    omega

theorem unpack_append (h : p.unpack out = some more) :
    out <+: more ∧ more.length = out.length + p.size := by
  cases p with
  | plain bytes =>
    obtain rfl := Option.some.inj h
    exact ⟨prefix_append _ _, length_append⟩
  | back distance length => exact copyBack_append h

theorem starts_foldlM_unpack (h : ps.foldlM unpack out = some whole) : out <+: whole := by
  induction ps generalizing out with
  | nil =>
    obtain rfl := Option.some.inj h
    exact prefix_rfl
  | cons p ps ih =>
    rw [foldlM_cons, Option.bind_eq_bind, Option.bind_eq_some_iff] at h
    obtain ⟨more, own, h⟩ := h
    exact (unpack_append own).1.trans (ih h)

theorem AllLongest.split (all : AllLongest whole out.length (before ++ p :: after))
    (unpacks : (before ++ p :: after).foldlM unpack out = some whole) :
    ∃ done, before.foldlM unpack out = some done ∧ done <+: whole ∧
      p.Longest whole done.length := by
  induction before generalizing out with
  | nil => exact ⟨out, rfl, starts_foldlM_unpack unpacks, all.1⟩
  | cons q before ih =>
    rw [cons_append, foldlM_cons, Option.bind_eq_bind, Option.bind_eq_some_iff] at unpacks
    obtain ⟨more, own, unpacks⟩ := unpacks
    have here : AllLongest whole more.length (before ++ p :: after) := by
      rw [(unpack_append own).2]
      exact all.2
    obtain ⟨done, first, rest⟩ := ih here unpacks
    refine ⟨done, ?_, rest⟩
    rw [foldlM_cons, own]
    exact first

theorem AllLongest.flushed (none : ∀ k < waiting.length, ∀ n, ¬ Recurs whole (pos + k) n)
    (all : AllLongest whole (pos + waiting.length) ps) :
    AllLongest whole pos (flushed waiting ++ ps) := by
  cases waiting with
  | nil => exact all
  | cons b rest =>
    refine ⟨fun k below => none k ?_, ?_⟩
    · rwa [length_reverse] at below
    · simpa [size] using all

end Part

/-- Tokens from a position on of which each is as long as it can be. -/
def Greedy (whole : List UInt8) : Nat → List Token → Prop
  | _, [] => True
  | pos, .literal _ :: ts => (∀ n, ¬ Recurs whole pos n) ∧ Greedy whole (pos + 1) ts
  | pos, .copy _ length :: ts => (Recurs whole pos length ∧ ∀ n, Recurs whole pos n → n ≤ length) ∧
      Greedy whole (pos + length) ts

theorem tokensFrom_greedy (data : ByteArray) (fuel pos : Nat) (out : List Token) :
    ∃ ts, tokensFrom data fuel pos out = out.reverse ++ ts ∧ Greedy data.data.toList pos ts := by
  induction fuel generalizing pos out with
  | zero => exact ⟨[], (append_nil _).symm, trivial⟩
  | succ fuel ih =>
    rw [tokensFrom]
    split
    next =>
      split
      next i length found =>
        obtain ⟨ts, eq, greedy⟩ := ih (pos + length) (.copy (pos - i) length :: out)
        refine ⟨.copy (pos - i) length :: ts, by simp [eq], ⟨(of_longestMatch? found).recurs, ?_⟩,
          greedy⟩
        intro n recurs
        obtain ⟨_, _, longest, least⟩ := le_longestMatch? recurs
        cases found.symm.trans longest
        exact least
      next found =>
        obtain ⟨ts, eq, greedy⟩ := ih (pos + 1) (.literal (byteAt data pos) :: out)
        refine ⟨.literal (byteAt data pos) :: ts, by simp [eq], fun n recurs => ?_, greedy⟩
        obtain ⟨_, _, longest, -⟩ := le_longestMatch? recurs
        cases found.symm.trans longest
    next => exact ⟨[], (append_nil _).symm, trivial⟩

/-- Literals that wait are bytes at which nothing recurs, so putting them together keeps the parts
as long as they can be. -/
theorem partsOf_longest {whole waiting : List UInt8} {ts : List Token} {pos : Nat}
    (none : ∀ k < waiting.length, ∀ n, ¬ Recurs whole (pos + k) n)
    (greedy : Greedy whole (pos + waiting.length) ts) :
    Part.AllLongest whole pos (partsOf ts waiting) := by
  induction ts generalizing pos waiting with
  | nil =>
    have last : Part.AllLongest whole pos (flushed waiting ++ []) := .flushed none trivial
    rwa [append_nil] at last
  | cons t rest ih =>
    cases t with
    | literal b =>
      have more : ∀ k < (b :: waiting).length, ∀ n, ¬ Recurs whole (pos + k) n := by
        intro k below
        obtain before | rfl := Nat.lt_succ_iff_lt_or_eq.1 below
        · exact none k before
        · exact greedy.1
      rw [partsOf]
      split
      · refine ⟨fun k below => more k (by rwa [length_reverse] at below),
          ih (fun _ below => absurd below (Nat.not_lt_zero _)) ?_⟩
        rw [Part.size, length_reverse]
        exact greedy.2
      · exact ih more greedy.2
    | copy distance length => exact .flushed none ⟨greedy.1,
      ih (fun _ below => absurd below (Nat.not_lt_zero _)) greedy.2⟩

/-- Packing takes the longest reference. The parts of packed data unpack to the data; where they
refer back, the reference covers as many bytes, of 3 to 15, as follow and stand together among the
2047 bytes before; a byte stands as it is only where no such bytes follow. -/
theorem references_are_longest (data : ByteArray) :
    ∃ ps, parts? (encode data).data.toList = some ps ∧
      ps.foldlM Part.unpack [] = some data.data.toList ∧
      ∀ before p after, ps = before ++ p :: after →
        ∃ done, before.foldlM Part.unpack [] = some done ∧ done <+: data.data.toList ∧
          p.Longest data.data.toList done.length := by
  obtain ⟨ts, eq, greedy⟩ := tokensFrom_greedy data data.size 0 []
  obtain ⟨ts', eq', spells⟩ := tokensFrom_spells data data.size 0 (by omega) []
  obtain rfl : ts = ts' := by simpa using eq.symm.trans eq'
  have packed : (encode data).data.toList = (partsOf ts []).flatMap Part.bytes := by
    rw [encode, tokens, eq]
    exact pack_eq ts [] .empty
  have unpacks : (partsOf ts []).foldlM Part.unpack [] = some data.data.toList :=
    foldlM_partsOf spells rfl
  refine ⟨partsOf ts [], ?_, unpacks, ?_⟩
  · rw [packed, Part.parts?_bytes (partsOf_fit spells (by decide))]
  · intro before p after split
    have all : Part.AllLongest data.data.toList ([] : List UInt8).length (partsOf ts []) :=
      partsOf_longest (fun _ below => absurd below (Nat.not_lt_zero _)) greedy
    rw [split] at all unpacks
    exact all.split unpacks

end Lz77

end NewGrf
