import Mathlib.Data.List.TakeWhile
import NewGrf.Token.Scanner

open List

namespace NewGrf

namespace Scanner

namespace Front

/-- A mark that sets the place of what follows. -/
def isMark : Front → Bool
  | mark .. | flaggedMark .. => true
  | _ => false

/-- The line ends by which a step moves the place. -/
def counted : Front → Nat
  | skip lines => lines
  | _ => 0

/-- The line ends inside a literal, which do not move it. -/
def uncounted : Front → Nat
  | token (.literal s) => countLines s.toList
  | _ => 0

end Front

variable {cs chars rest : List Char} {t : Token} {front : Front}

/-- A step takes some characters off the front, and their line ends are those of what it makes of
them. -/
def Takes (cs : List Char) (front : Front) (rest : List Char) : Prop :=
  ∃ chars, chars ≠ [] ∧ cs = chars ++ rest ∧
    (front.isMark = false → countLines chars = front.counted + front.uncounted)

theorem countLines_append (xs ys : List Char) :
    countLines (xs ++ ys) = countLines xs + countLines ys :=
  count_append

theorem countLines_takeWhile {kind : Char → Bool} (other : kind '\n' = false) :
    countLines (cs.takeWhile kind) = 0 := by
  refine count_eq_zero.2 fun inside => ?_
  rw [mem_takeWhile_imp inside] at other
  cases other

theorem afterWord?_eq_some {word : List Char} (h : afterWord? word cs = some rest) :
    cs = word ++ rest := by
  induction word generalizing cs with
  | nil =>
    obtain rfl := Option.some.inj h
    rfl
  | cons w word ih =>
    cases cs with
    | nil => cases h
    | cons c cs =>
      rw [afterWord?] at h
      split at h
      · next same => rw [same, ih h, cons_append]
      · cases h

/-- A run of characters of one kind, no line ends among them. -/
theorem Takes.span {kind : Char → Bool} {c : Char} (other : kind '\n' = false)
    (first : kind c = true) (none : front.counted + front.uncounted = 0) :
    Takes (c :: cs) front ((c :: cs).dropWhile kind) := by
  refine ⟨(c :: cs).takeWhile kind, ?_, takeWhile_append_dropWhile.symm, fun _ => ?_⟩
  · rw [takeWhile_cons_of_pos first]
    exact cons_ne_nil _ _
  · rw [countLines_takeWhile other, none]

/-- A fixed spelling, no line ends in it. -/
theorem Takes.spelling {word : List Char} (found : afterWord? word cs = some rest)
    (plain : (!word.isEmpty && countLines word == 0) = true)
    (none : front.counted + front.uncounted = 0) : Takes cs front rest := by
  simp only [Bool.and_eq_true, Bool.not_eq_true', isEmpty_eq_false_iff, beq_iff_eq] at plain
  exact ⟨word, plain.1, afterWord?_eq_some found, fun _ => plain.2.trans none.symm⟩

theorem number?_takes (h : number? cs = some (t, rest)) : Takes cs (.token t) rest := by
  unfold number? at h
  extract_lets whole behind fraction at h
  have digits : countLines whole = 0 := countLines_takeWhile (by decide)
  have all : cs = whole ++ behind := takeWhile_append_dropWhile.symm
  clear_value whole behind
  have point (found : fraction ≠ []) :
      ∃ r, behind = '.' :: r ∧ fraction = r.takeWhile Text.isDigit := by
    unfold fraction at found ⊢
    split at found
    next r => exact ⟨r, rfl, rfl⟩
    next => exact absurd rfl found
  clear_value fraction
  split at h
  next float =>
    cases h
    obtain ⟨r, rfl, rfl⟩ := point float.2
    have more : countLines (r.takeWhile Text.isDigit) = 0 := countLines_takeWhile (by decide)
    refine ⟨whole ++ '.' :: r.takeWhile Text.isDigit, append_ne_nil_of_left_ne_nil float.1 _, ?_,
      fun _ => ?_⟩
    · have last : r.takeWhile Text.isDigit ++ r.drop (r.takeWhile Text.isDigit).length = r := by
        rw [← prefix_iff_eq_append]
        exact takeWhile_prefix _
      rw [all, drop_succ_cons, append_assoc, cons_append, last]
    · rw [countLines_append, digits]
      simpa [countLines, Front.counted, Front.uncounted] using more
  next =>
    split at h
    next r =>
      extract_lets hex at h
      have none : countLines hex = 0 := countLines_takeWhile (by decide)
      split at h
      next =>
        cases h
        refine ⟨'0' :: 'x' :: hex, cons_ne_nil _ _, ?_, fun _ => ?_⟩
        · rw [cons_append, cons_append, takeWhile_append_dropWhile]
        · simpa [countLines, Front.counted, Front.uncounted] using none
      next =>
        cases h
        exact ⟨['0'], cons_ne_nil _ _, rfl, fun _ => rfl⟩
    next =>
      split at h
      next found =>
        cases h
        exact ⟨whole, found, all, fun _ => digits⟩
      next => cases h

theorem unit?_takes (h : unit? cs = some (t, rest)) : Takes cs (.token t) rest := by
  obtain ⟨u, known, h⟩ := exists_of_findSome?_eq_some h
  obtain ⟨r, found, same⟩ := Option.map_eq_some_iff.1 h
  cases same
  have plain : unitNames.all (fun u => !u.toList.isEmpty && countLines u.toList == 0) = true := by
    decide
  exact .spelling found (all_eq_true.1 plain u known) rfl

theorem word?_takes (h : word? cs = some (t, rest)) : Takes cs (.token t) rest := by
  cases cs with
  | nil => cases h
  | cons c cs =>
    rw [word?] at h
    split at h
    next start =>
      have first : Text.isNameChar c = true := by simp [Text.isNameChar, start]
      obtain ⟨token, rfl⟩ := Prod.mk.inj (Option.some.inj h)
      refine .span (by decide) first ?_
      rw [← token]
      split <;> rfl
    next => cases h

theorem literalBody?_eq_some {body : List Char} (h : literalBody? cs = some (body, rest)) :
    cs = body ++ '"' :: rest := by
  induction cs using literalBody?.induct generalizing body with
  | case1 => cases h
  | case2 r =>
    cases h
    rfl
  | case3 r =>
    rw [literalBody?, if_pos rfl] at h
    cases h
  | case4 c r other ih =>
    rw [literalBody?, if_neg other] at h
    obtain ⟨⟨b, r'⟩, inner, same⟩ := Option.map_eq_some_iff.1 h
    cases same
    rw [ih inner]
    rfl
  | case5 => cases h
  | case6 c r _ _ _ ih =>
    rw [literalBody?] at h
    · obtain ⟨⟨b, r'⟩, inner, same⟩ := Option.map_eq_some_iff.1 h
      cases same
      rw [ih inner]
      rfl
    all_goals assumption

theorem literal?_takes (h : literal? cs = some (t, rest)) : Takes cs (.token t) rest := by
  unfold literal? at h
  split at h
  next r =>
    obtain ⟨⟨body, r'⟩, inside, same⟩ := Option.map_eq_some_iff.1 h
    cases same
    refine ⟨'"' :: (body ++ ['"']), cons_ne_nil _ _, ?_, fun _ => ?_⟩
    · rw [literalBody?_eq_some inside]
      simp
    · simp [countLines, Front.counted, Front.uncounted]
  next => cases h

theorem sign?_takes (h : sign? cs = some (t, rest)) : Takes cs (.token t) rest := by
  obtain ⟨⟨s, spelling, name⟩, known, h⟩ := exists_of_findSome?_eq_some h
  obtain ⟨r, found, same⟩ := Option.map_eq_some_iff.1 h
  cases same
  have plain : Sign.table.all
      (fun s => !s.2.1.toList.isEmpty && countLines s.2.1.toList == 0) = true := by
    decide
  exact .spelling found (all_eq_true.1 plain _ known) rfl

theorem blockEnd?_eq_some {n lines : Nat} (h : blockEnd? cs n = some (rest, lines)) :
    ∃ body, cs = body ++ '*' :: '/' :: rest ∧ lines = n + countLines body := by
  induction cs, n using blockEnd?.induct with
  | case1 r n =>
    cases h
    exact ⟨[], rfl, rfl⟩
  | case2 r n ih =>
    obtain ⟨body, rfl, eq⟩ := ih h
    refine ⟨'\n' :: body, rfl, ?_⟩
    rw [eq, countLines, countLines, count_cons_self]
    omega
  | case3 c r n _ other ih =>
    rw [blockEnd?] at h
    · obtain ⟨body, rfl, eq⟩ := ih h
      refine ⟨c :: body, rfl, ?_⟩
      rw [eq, countLines, countLines, count_cons_of_ne other]
    all_goals assumption
  | case4 => cases h

theorem comment?_takes {lines : Nat} (h : comment? cs = some (lines, rest)) :
    Takes cs (.skip lines) rest := by
  unfold comment? at h
  split at h
  next r =>
    obtain ⟨⟨r', n⟩, ends, same⟩ := Option.map_eq_some_iff.1 h
    cases same
    obtain ⟨body, rfl, eq⟩ := blockEnd?_eq_some ends
    refine ⟨'/' :: '*' :: (body ++ ['*', '/']), cons_ne_nil _ _, by simp, fun _ => ?_⟩
    simp [eq, countLines, Front.counted, Front.uncounted]
  next r =>
    cases h
    have line : countLines (r.takeWhile (· != '\n')) = 0 := countLines_takeWhile (by decide)
    refine ⟨'/' :: '/' :: r.takeWhile (· != '\n'), cons_ne_nil _ _, by simp, fun _ => ?_⟩
    simpa [countLines, Front.counted, Front.uncounted] using line
  next => cases h

theorem lineEnds_take : Takes ('\n' :: cs)
    (.skip (('\n' :: cs).takeWhile (· == '\n')).length) (('\n' :: cs).dropWhile (· == '\n')) := by
  refine ⟨('\n' :: cs).takeWhile (· == '\n'), ?_, takeWhile_append_dropWhile.symm, fun _ => ?_⟩
  · rw [takeWhile_cons_of_pos rfl]
    exact cons_ne_nil _ _
  · refine count_eq_length.2 fun c inside => ?_
    have isEnd : (c == '\n') = true := mem_takeWhile_imp (p := (· == '\n')) inside
    exact (beq_iff_eq.1 isEnd).symm

theorem line?_eq_some {line : List Char} (h : line? cs = some (line, rest)) :
    cs = line ++ '\n' :: rest := by
  unfold line? at h
  split at h
  next => cases h
  next c r ends =>
    cases h
    have last : c = '\n' := by
      have stops := head?_dropWhile_not (· != '\n') cs
      rw [ends] at stops
      simpa using stops
    subst last
    rw [← ends, takeWhile_append_dropWhile]

theorem reverse_takeWhile_suffix (kind : Char → Bool) (xs : List Char) :
    (xs.reverse.takeWhile kind).reverse <:+ xs := by
  rw [← reverse_prefix, reverse_reverse]
  exact takeWhile_prefix kind

theorem lastQuote?_suffix {line name behind : List Char}
    (h : lastQuote? line = some (name, behind)) : behind <:+ line := by
  unfold lastQuote? at h
  split at h
  next => cases h
  next =>
    cases h
    exact reverse_takeWhile_suffix _ line

theorem markEnd?_suffix {blanks out : List Char} {name : Option String} {lines : Nat}
    (h : markEnd? blanks rest = some (name, lines, out)) : out <:+ blanks ++ rest := by
  unfold markEnd? at h
  extract_lets named at h
  have behind : ∀ r, named = some r → r.2.2 <:+ rest := by
    intro r found
    unfold named at found
    split at found
    next more =>
      split at found
      next => cases found
      next line r' ends =>
        have suffix : r' <:+ '"' :: more := by
          rw [line?_eq_some ends]
          exact ⟨'"' :: (line ++ ['\n']), by simp⟩
        split at found
        all_goals cases found
        all_goals exact suffix
    next => cases found
  clear_value named
  split at h
  next r =>
    cases h
    exact (behind _ rfl).trans (suffix_append _ _)
  next =>
    split at h
    next => cases h
    next =>
      cases h
      exact suffix_append_self_iff.2 (reverse_takeWhile_suffix _ blanks)

/-- A mark that starts with a word takes more than nothing. -/
theorem Takes.mark {word behind : List Char} (isMark : front.isMark = true) (some_ : word ≠ [])
    (start : cs = word ++ behind) (suffix : rest <:+ behind) : Takes cs front rest := by
  obtain ⟨more, rfl⟩ := suffix
  refine ⟨word ++ more, append_ne_nil_of_left_ne_nil some_ more, ?_, fun other => ?_⟩
  · rw [start, append_assoc]
  · rw [isMark] at other
    cases other

theorem lineMark?_takes (h : lineMark? cs = some (front, rest)) : Takes cs front rest := by
  obtain ⟨behind, start, h⟩ := Option.bind_eq_some_iff.1 h
  obtain ⟨-, -, h⟩ := Option.bind_eq_some_iff.1 h
  obtain ⟨-, -, h⟩ := Option.bind_eq_some_iff.1 h
  obtain ⟨⟨name, lines, out⟩, ends, h⟩ := Option.bind_eq_some_iff.1 h
  cases h
  refine .mark rfl (by decide) (afterWord?_eq_some start) ((markEnd?_suffix ends).trans ?_)
  rw [takeWhile_append_dropWhile]
  exact (dropWhile_suffix _).trans (dropWhile_suffix _)

theorem givenBack_suffix (kind : Char → Bool) (flags more : List Char) :
    ((flags ++ '\n' :: more.takeWhile kind).reverse.takeWhile (· != '\n')).reverse ++
      more.dropWhile kind <:+ flags ++ '\n' :: more := by
  have all : flags ++ '\n' :: more =
      (flags ++ '\n' :: more.takeWhile kind) ++ more.dropWhile kind := by
    rw [append_assoc, cons_append, takeWhile_append_dropWhile]
  rw [all]
  exact suffix_append_self_iff.2 (reverse_takeWhile_suffix _ _)

theorem flaggedMark?_takes (h : flaggedMark? cs = some (front, rest)) : Takes cs front rest := by
  obtain ⟨behind, start, h⟩ := Option.bind_eq_some_iff.1 h
  obtain ⟨-, -, h⟩ := Option.bind_eq_some_iff.1 h
  obtain ⟨-, -, h⟩ := Option.bind_eq_some_iff.1 h
  obtain ⟨-, -, h⟩ := Option.bind_eq_some_iff.1 h
  obtain ⟨quoted, quote, h⟩ := Option.bind_eq_some_iff.1 h
  obtain ⟨⟨line, more⟩, ends, h⟩ := Option.bind_eq_some_iff.1 h
  obtain ⟨⟨name, flags⟩, last, h⟩ := Option.bind_eq_some_iff.1 h
  obtain ⟨-, -, h⟩ := Option.bind_eq_some_iff.1 h
  cases h
  have name_behind : quoted <:+ behind := by
    have opened : quoted <:+ _ := ⟨['"'], (afterWord?_eq_some quote).symm⟩
    have numbered := opened.trans (dropWhile_suffix _)
    exact (numbered.trans (dropWhile_suffix _)).trans (dropWhile_suffix _)
  have flags_behind : flags ++ '\n' :: more <:+ quoted :=
    line?_eq_some ends ▸ suffix_append_self_iff.2 (lastQuote?_suffix last)
  exact .mark rfl (by decide) (afterWord?_eq_some start)
    (((givenBack_suffix _ flags more).trans flags_behind).trans name_behind)

/-- Every step takes something, and its line ends are counted or inside a literal. -/
theorem front?_takes (h : front? cs = some (front, rest)) : Takes cs front rest := by
  have token {r : Option (Token × List Char)}
      (found : r.map (fun x => (Front.token x.1, x.2)) = some (front, rest))
      (takes : ∀ {t}, r = some (t, rest) → Takes cs (.token t) rest) : Takes cs front rest := by
    obtain ⟨⟨t, rest'⟩, read, same⟩ := Option.map_eq_some_iff.1 found
    cases same
    exact takes read
  simp only [front?, Option.orElse_eq_orElse, Option.orElse_eq_or, Option.or_eq_some_iff] at h
  obtain h | ⟨-, h | ⟨-, h | ⟨-, h | ⟨-, h | ⟨-, h | ⟨-, h | ⟨-, h | ⟨-, h | ⟨-, h⟩⟩⟩⟩⟩⟩⟩⟩⟩ := h
  · exact token h number?_takes
  · exact token h unit?_takes
  · exact token h word?_takes
  · exact token h literal?_takes
  · obtain ⟨⟨lines, rest'⟩, found, same⟩ := Option.map_eq_some_iff.1 h
    cases same
    exact comment?_takes found
  · split at h
    next =>
      split at h
      next blank =>
        cases h
        exact .span (by decide) blank rfl
      next => cases h
    next => cases h
  · exact lineMark?_takes h
  · exact flaggedMark?_takes h
  · split at h
    next =>
      cases h
      exact lineEnds_take
    next => cases h
  · exact token h sign?_takes

/-- The characters that the scanner takes in one step, and what it makes of them. -/
structure Piece where
  front : Front
  chars : List Char

def Piece.token? (p : Piece) : Option Token :=
  match p.front with
  | .token t => some t
  | _ => none

/-- The pieces that the scanner takes off some characters, and what it leaves. -/
inductive Cut : List Char → List Piece → List Char → Prop where
  | nil {rest : List Char} : Cut rest [] rest
  | cons {front : Front} {chars rest last : List Char} {ps : List Piece} :
      chars ≠ [] → front? (chars ++ rest) = some (front, rest) →
      Cut rest ps last → Cut (chars ++ rest) (⟨front, chars⟩ :: ps) last

variable {ps before : List Piece} {last : List Char} {s : State} {fuel : Nat}

theorem Cut.countLines_chars (cut : Cut cs ps last) :
    ∀ q ∈ ps, q.front.isMark = false →
      countLines q.chars = q.front.counted + q.front.uncounted := by
  induction cut with
  | nil => exact fun q mem => absurd mem not_mem_nil
  | cons _ taken _ ih =>
    refine forall_mem_cons.2 ⟨fun plain => ?_, ih⟩
    obtain ⟨chars', -, same, lines⟩ := front?_takes taken
    rw [append_cancel_right same]
    exact lines plain

/-- The lexeme of each token piece stands where the lines that were counted before it say. -/
def Placed (s : State) (ps : List Piece) (ls : List Lexeme) : Prop :=
  ∀ before p after t, ps = before ++ p :: after → p.front = .token t →
    (∀ q ∈ before, q.front.isMark = false) →
    ∃ l, ls[(before.filterMap Piece.token?).length]? = some l ∧ l.token = t ∧
      l.pos.place = .line s.file (s.line + Number.total (before.map fun q => q.front.counted)) ∧
      l.pos.includes = s.includes

theorem Placed.token {l : Lexeme} {ls : List Lexeme} {marks : Nat} (same : l.token = t)
    (here : l.pos.place = s.pos.place ∧ l.pos.includes = s.includes)
    (placed : Placed { s with badMarks := marks } ps ls) :
    Placed s (⟨.token t, chars⟩ :: ps) (l :: ls) := by
  intro before p after t' split isToken plain
  cases before with
  | nil =>
    cases split
    cases isToken
    exact ⟨l, rfl, same, here.1, here.2⟩
  | cons q before =>
    obtain ⟨rfl, others⟩ := cons.inj split
    obtain ⟨l', found, rest⟩ := placed before p after t' others isToken (forall_mem_cons.1 plain).2
    refine ⟨l', found, ?_⟩
    simpa [Front.counted] using rest

theorem Placed.skip {ls : List Lexeme} {n : Nat}
    (placed : Placed { s with line := s.line + n } ps ls) :
    Placed s (⟨.skip n, chars⟩ :: ps) ls := by
  intro before p after t split isToken plain
  cases before with
  | nil =>
    cases split
    cases isToken
  | cons q before =>
    obtain ⟨rfl, others⟩ := cons.inj split
    obtain ⟨l, found, rest⟩ := placed before p after t others isToken (forall_mem_cons.1 plain).2
    refine ⟨l, found, ?_⟩
    simpa [Front.counted, Nat.add_assoc] using rest

theorem Placed.mark {ls : List Lexeme} (isMark : front.isMark = true) :
    Placed s (⟨front, chars⟩ :: ps) ls := by
  intro before p after t split isToken plain
  cases before with
  | nil =>
    cases split
    dsimp only at isToken
    rw [isToken] at isMark
    cases isMark
  | cons q before =>
    obtain ⟨rfl, -⟩ := cons.inj split
    have other := plain _ mem_cons_self
    rw [isMark] at other
    cases other

/-- What a scan gives: the text is cut into pieces as far as it can be, and the lexemes are the
tokens among them. -/
structure Scans (s : State) (cs : List Char) (ls : List Lexeme) (ps : List Piece)
    (last : List Char) : Prop where
  cut : Cut cs ps last
  ends : last = [] ∨ front? last = none
  tokens : ls.map Lexeme.token = ps.filterMap Piece.token?
  placed : Placed s ps ls

theorem scanWith_scans (enough : cs.length ≤ fuel) (s : State) :
    ∃ ps last, Scans s cs (scanWith fuel s cs).1 ps last := by
  induction fuel generalizing cs s with
  | zero =>
    obtain rfl := length_eq_zero_iff.1 (Nat.le_zero.1 enough)
    exact ⟨[], [], .nil, .inl rfl, rfl, fun before p after t split => by simp at split⟩
  | succ fuel ih =>
    cases cs with
    | nil => exact ⟨[], [], .nil, .inl rfl, rfl, fun before p after t split => by simp at split⟩
    | cons c cs =>
      cases found : front? (c :: cs) with
      | none =>
        rw [scanWith, found]
        exact ⟨[], c :: cs, .nil, .inr found, rfl, fun before p after t split => by simp at split⟩
      | some step =>
        obtain ⟨front, rest⟩ := step
        obtain ⟨chars, some_, split, -⟩ := front?_takes found
        have shorter : rest.length ≤ fuel := by
          have length := congrArg List.length split
          have positive := length_pos_iff.2 some_
          rw [length_append] at length
          omega
        have next {ps last} (cut : Cut rest ps last) :
            Cut (c :: cs) (⟨front, chars⟩ :: ps) last := by
          rw [split] at found ⊢
          exact .cons some_ found cut
        rw [scanWith, found]
        cases front with
        | token t =>
          obtain ⟨ps, last, scans⟩ := ih shorter { s with badMarks := 0 }
          exact ⟨_, last, next scans.cut, scans.ends, congrArg (t :: ·) scans.tokens,
            .token rfl ⟨rfl, rfl⟩ scans.placed⟩
        | skip n =>
          obtain ⟨ps, last, scans⟩ := ih shorter { s with line := s.line + n }
          exact ⟨_, last, next scans.cut, scans.ends, scans.tokens, .skip scans.placed⟩
        | mark line file lines =>
          obtain ⟨ps, last, scans⟩ := ih shorter (s.mark line file lines)
          exact ⟨_, last, next scans.cut, scans.ends, scans.tokens, .mark rfl⟩
        | flaggedMark line file flags lines =>
          obtain ⟨ps, last, scans⟩ := ih shorter (s.flaggedMark line file flags lines)
          exact ⟨_, last, next scans.cut, scans.ends, scans.tokens, .mark rfl⟩

theorem countLines_flatMap (lines : ∀ q ∈ before,
    countLines q.chars = q.front.counted + q.front.uncounted) :
    countLines (before.flatMap Piece.chars) = Number.total (before.map fun q => q.front.counted) +
      Number.total (before.map fun q => q.front.uncounted) := by
  induction before with
  | nil => rfl
  | cons q before ih =>
    rw [forall_mem_cons] at lines
    rw [flatMap_cons, countLines_append, ih lines.2, lines.1]
    simp only [map_cons, Number.total_cons]
    omega

theorem uncounted_eq_zero_iff : Number.total (before.map fun q => q.front.uncounted) = 0 ↔
    ∀ q ∈ before, ∀ s, q.front = .token (.literal s) → '\n' ∉ s.toList := by
  induction before with
  | nil => simp
  | cons q before ih =>
    have own : q.front.uncounted = 0 ↔
        ∀ s, q.front = .token (.literal s) → '\n' ∉ s.toList := by
      cases q.front with
      | token t => cases t <;> simp [Front.uncounted, countLines, count_eq_zero]
      | _ => simp [Front.uncounted]
    rw [map_cons, Number.total_cons, Nat.add_eq_zero_iff, ih, own, forall_mem_cons]

/-- The line that a token is said to stand on. It is one more than the number of line ends before
the token, less those inside literals; so it is the line of the source unless a literal before the
token holds a line end. -/
theorem token_line_iff (file text : String) :
    ∃ pieces last, Cut text.toList pieces last ∧ (last = [] ∨ front? last = none) ∧
      (scan file text).1.map Lexeme.token = pieces.filterMap Piece.token? ∧
      ∀ before p after t, pieces = before ++ p :: after → p.front = .token t →
        (∀ q ∈ before, q.front.isMark = false) →
        ∃ l line, (scan file text).1[(before.filterMap Piece.token?).length]? = some l ∧
          l.token = t ∧ l.pos.place = .line file line ∧ l.pos.includes = [] ∧
          line + Number.total (before.map fun q => q.front.uncounted) =
            1 + countLines (before.flatMap Piece.chars) ∧
          (line = 1 + countLines (before.flatMap Piece.chars) ↔
            ∀ q ∈ before, ∀ s, q.front = .token (.literal s) → '\n' ∉ s.toList) := by
  obtain ⟨pieces, last, scans⟩ := scanWith_scans (Nat.le_refl _) { file }
  refine ⟨pieces, last, scans.cut, scans.ends, scans.tokens, ?_⟩
  intro before p after t split isToken plain
  obtain ⟨l, found, same, place, includes⟩ := scans.placed before p after t split isToken plain
  have lines := countLines_flatMap fun q mem =>
    scans.cut.countLines_chars q (split ▸ mem_append_left _ mem) (plain q mem)
  refine ⟨l, _, found, same, place, includes, ?_, ?_⟩
  · rw [lines, Nat.add_assoc]
  · rw [← uncounted_eq_zero_iff, lines]
    dsimp only
    omega

/-- A literal over two lines, and the name behind it: the name is said to stand on the first. -/
theorem literal_lines_not_counted :
    (scan "input.nml" "\"a\nb\" c").1.map (fun l => l.pos.place) =
      [.line "input.nml" 1, .line "input.nml" 1] := by
  decide

variable {ts : List Token}

/-- Characters that are read as these tokens. -/
def Reads (cs : List Char) (ts : List Token) : Prop :=
  ∀ fuel s, cs.length ≤ fuel → ∃ ls marks, scanWith fuel s cs = (ls, .done marks) ∧
    ls.map Lexeme.token = ts

theorem Reads.nil : Reads [] [] := fun fuel s _ => ⟨[], s.badMarks, by cases fuel <;> rfl, rfl⟩

theorem Reads.token (nonempty : cs ≠ []) (front : front? (cs ++ rest) = some (.token t, rest))
    (reads : Reads rest ts) : Reads (cs ++ rest) (t :: ts) := by
  intro fuel s enough
  obtain ⟨c, cs, rfl⟩ := List.exists_cons_of_ne_nil nonempty
  rw [List.cons_append] at front enough ⊢
  simp only [List.length_cons, List.length_append] at enough
  obtain ⟨fuel, rfl⟩ : ∃ k, fuel = k + 1 := ⟨fuel - 1, by omega⟩
  obtain ⟨ls, marks, run, tokens⟩ := reads fuel { s with badMarks := 0 } (by omega)
  refine ⟨⟨t, { s.pos with token := fuel }, s.badMarks⟩ :: ls, marks, ?_,
    by rw [List.map_cons, tokens]⟩
  rw [scanWith, front]
  simp only [run]

theorem Reads.space (stop : ∀ c ∈ rest.head?, isSpace c = false) (reads : Reads rest ts) :
    Reads (' ' :: rest) ts := by
  intro fuel s enough
  rw [List.length_cons] at enough
  obtain ⟨fuel, rfl⟩ : ∃ k, fuel = k + 1 := ⟨fuel - 1, by omega⟩
  obtain ⟨ls, marks, run, tokens⟩ := reads fuel { s with line := s.line + 0 } (by omega)
  have front : front? (' ' :: rest) = some (.skip 0, rest) := by
    have dropped : (' ' :: rest).dropWhile isSpace = rest := by
      rw [List.dropWhile_cons_of_pos rfl]
      cases rest with
      | nil => rfl
      | cons c more => rw [List.dropWhile_cons_of_neg (by simp [stop c rfl])]
    have : front? (' ' :: rest) = some (.skip 0, (' ' :: rest).dropWhile isSpace) := rfl
    rw [this, dropped]
  refine ⟨ls, marks, ?_, tokens⟩
  rw [scanWith, front]
  exact run

/-- What ends a name: a blank or a bracket that closes. -/
def Closed (rest : List Char) : Prop := ∀ c ∈ rest.head?, c ∈ [' ', ')', ']']

theorem Closed.takeWhile {p : Char → Bool} (closed : Closed rest)
    (other : [' ', ')', ']'].all (fun c => !p c) = true) :
    rest.takeWhile p = [] ∧ rest.dropWhile p = rest := by
  cases rest with
  | nil => exact ⟨rfl, rfl⟩
  | cons c cs =>
    have stop : p c = false := by simpa using List.all_eq_true.1 other c (closed c rfl)
    exact ⟨List.takeWhile_cons_of_neg (by simp [stop]),
      List.dropWhile_cons_of_neg (by simp [stop])⟩

theorem afterWord?_append {u cs : List Char} (absent : afterWord? u cs = none)
    (other : ∀ c ∈ rest.head?, c ∉ u) : afterWord? u (cs ++ rest) = none := by
  induction u generalizing cs with
  | nil => cases absent
  | cons w ws ih =>
    cases cs with
    | nil =>
      cases rest with
      | nil => rfl
      | cons c more =>
        rw [List.nil_append, afterWord?, if_neg]
        rintro rfl
        exact other w rfl (.head _)
    | cons c cs =>
      rw [List.cons_append, afterWord?]
      rw [afterWord?] at absent
      split
      · next same =>
        rw [if_pos same] at absent
        exact ih absent fun c mem member => other c mem (.tail _ member)
      · rfl

theorem unit?_append (absent : unit? cs = none) (closed : Closed rest) :
    unit? (cs ++ rest) = none := by
  have apart : unitNames.all (fun u =>
      [' ', ')', ']'].all fun c => !u.toList.contains c) = true := by decide
  rw [unit?, List.findSome?_eq_none_iff] at absent ⊢
  intro u known
  rw [Option.map_eq_none_iff]
  refine afterWord?_append (Option.map_eq_none_iff.1 (absent u known)) fun c mem => ?_
  simpa using List.all_eq_true.1 (List.all_eq_true.1 apart u known) c (closed c mem)

theorem number?_name {c : Char} (start : Text.isNameStart c = true) : number? (c :: cs) = none := by
  have letter : 65 ≤ c.toNat ∧ c.toNat ≤ 122 := by
    simp only [Text.isNameStart, Bool.or_eq_true, Bool.and_eq_true, decide_eq_true_eq, beq_iff_eq,
      Char.le_def, UInt32.le_iff_toNat_le] at start
    obtain (⟨low, high⟩ | ⟨low, high⟩) | rfl := start
    · exact ⟨Nat.le_trans (by decide) low, high⟩
    · exact ⟨low, Nat.le_trans high (by decide)⟩
    · decide
  have plain : Text.isDigit c = false := by
    have above : ¬c.toNat ≤ 57 := by omega
    have below : c.toNat < 1632 := by omega
    simp [Text.isDigit, Text.digit?, above, below]
  have first : c ≠ '0' := by
    rintro rfl
    revert letter
    decide
  simp [number?, plain, first]

theorem front?_name {n : String} (unit : unit? n.toList = none)
    (word : word? n.toList = some (.ident n, [])) (closed : Closed rest) :
    front? (n.toList ++ rest) = some (.token (.ident n), rest) := by
  obtain ⟨none_taken, none_dropped⟩ := closed.takeWhile (p := Text.isNameChar) (by decide)
  have unit' := unit?_append unit closed
  cases shape : n.toList with
  | nil =>
    rw [shape] at word
    cases word
  | cons c cs =>
    rw [shape] at word unit'
    rw [word?] at word
    by_cases start : Text.isNameStart c = true
    · rw [if_pos start] at word
      simp only [Option.some.injEq, Prod.mk.injEq] at word
      obtain ⟨token, dropped⟩ := word
      have chars : ∀ d ∈ c :: cs, Text.isNameChar d = true := by
        exact List.dropWhile_eq_nil_iff.1 dropped
      have word' : word? (c :: cs ++ rest) = some (.ident n, rest) := by
        rw [List.cons_append, word?, if_pos start, ← List.cons_append]
        simp only [List.takeWhile_append_of_pos chars, List.dropWhile_append_of_pos chars,
          none_taken, none_dropped, List.append_nil]
        rw [List.takeWhile_eq_self_iff.2 chars] at token
        rw [token]
      have number : number? (c :: cs ++ rest) = none := number?_name start
      simp only [front?, number, unit', word', Option.map_none, Option.map_some]
      rfl
    · rw [if_neg start] at word
      cases word

/-- A letter or an underscore, and then letters, underscores and digits. -/
def isWord (w : String) : Bool :=
  w.toList.head?.any Text.isNameStart && w.toList.all Text.isNameChar

variable {w : String}

theorem afterWord?_self (u rest : List Char) : afterWord? u (u ++ rest) = some rest := by
  induction u with
  | nil => rfl
  | cons c u ih => rw [cons_append, afterWord?, if_pos rfl, ih]

theorem unit?_eq_none_iff : unit? cs = none ↔ ∀ u ∈ unitNames, ¬ u.toList <+: cs := by
  rw [unit?, findSome?_eq_none_iff]
  refine forall₂_congr fun u _ => ?_
  rw [Option.map_eq_none_iff]
  constructor
  · rintro absent ⟨rest, rfl⟩
    rw [afterWord?_self] at absent
    cases absent
  · intro other
    cases found : afterWord? u.toList cs with
    | none => rfl
    | some rest => exact absurd ⟨rest, (afterWord?_eq_some found).symm⟩ other

theorem exists_of_isWord (word : isWord w = true) :
    ∃ c cs, w.toList = c :: cs ∧ Text.isNameStart c = true := by
  rw [isWord, Bool.and_eq_true, Option.any_eq_true] at word
  obtain ⟨c, first, start⟩ := word.1
  obtain ⟨cs, eq⟩ := head?_eq_some_iff.1 first
  exact ⟨c, cs, eq, start⟩

theorem word?_of_isWord (word : isWord w = true) (free : Keyword.ofText? w = none) :
    word? w.toList = some (.ident w, []) := by
  obtain ⟨c, cs, eq, start⟩ := exists_of_isWord word
  have chars : ∀ d ∈ c :: cs, Text.isNameChar d = true := by
    rw [isWord, Bool.and_eq_true, eq] at word
    exact all_eq_true.1 word.2
  have same : String.ofList (c :: cs) = w := by rw [← eq, String.ofList_toList]
  rw [eq, word?, if_pos start]
  simp only [takeWhile_eq_self_iff.2 chars, dropWhile_eq_nil_iff.2 chars, same, free]

/-- A unit is found before a blank that follows the word is reached. -/
theorem unit_starts_word {tail : List Char} (ends : tail = [] ∨ tail = [' ']) {u : String}
    (known : u ∈ unitNames) (starts : u.toList <+: w.toList ++ tail) : u.toList <+: w.toList := by
  obtain rfl | rfl := ends
  · rwa [append_nil] at starts
  · obtain whole | inside := prefix_concat_iff.1 starts
    · have plain : unitNames.all (fun u => !u.toList.contains ' ') = true := by decide
      have other : ' ' ∉ u.toList := by simpa using all_eq_true.1 plain u known
      exact absurd (whole ▸ mem_append_right _ (mem_singleton.2 rfl)) other
    · exact inside

theorem scan_head {file text : String} {c : Char} (eq : text.toList = c :: cs)
    (front : front? (c :: cs) = some (.token t, rest)) :
    (scan file text).1.head?.map Lexeme.token = some t := by
  rw [scan, eq, length_cons, scanWith, front]
  rfl

/-- A unit at the start of a word is cut off. -/
theorem unit_read_first (file : String) {tail : String} (word : isWord w = true)
    (ends : tail.toList = [] ∨ tail.toList = [' '])
    (starts : ∃ u ∈ unitNames, u.toList <+: w.toList) : ∃ u ∈ unitNames, u.toList <+: w.toList ∧
      (scan file (w ++ tail)).1.head?.map Lexeme.token = some (.unit u) := by
  obtain ⟨c, cs, eq, start⟩ := exists_of_isWord word
  obtain ⟨u, known, starts⟩ := starts
  cases found : unit? (w.toList ++ tail.toList) with
  | none =>
    exact absurd (starts.trans (prefix_append _ _)) (unit?_eq_none_iff.1 found u known)
  | some result =>
    obtain ⟨u', known', h⟩ := exists_of_findSome?_eq_some found
    obtain ⟨r, after, rfl⟩ := Option.map_eq_some_iff.1 h
    have starts' : u'.toList <+: w.toList ++ tail.toList := ⟨r, (afterWord?_eq_some after).symm⟩
    refine ⟨u', known', unit_starts_word ends known' starts', ?_⟩
    have text : (w ++ tail).toList = c :: (cs ++ tail.toList) := by
      rw [String.toList_append, eq, cons_append]
    have first : front? (c :: (cs ++ tail.toList)) = some (.token (.unit u'), r) := by
      rw [eq, cons_append] at found
      simp only [front?, number?_name start, found, Option.map_none, Option.map_some]
      rfl
    exact scan_head text first

/-- A word that no unit starts is read as one name. -/
theorem word_read_whole (file : String) {tail : String} (word : isWord w = true)
    (free : Keyword.ofText? w = none) (ends : tail.toList = [] ∨ tail.toList = [' '])
    (units : ∀ u ∈ unitNames, ¬ u.toList <+: w.toList) :
    ∃ l marks, scan file (w ++ tail) = ([l], .done marks) ∧ l.token = .ident w := by
  have closed : Closed tail.toList := by
    intro c first
    obtain none | blank := ends
    · rw [none] at first
      cases first
    · rw [blank] at first
      cases first
      exact mem_cons_self
  have name : front? (w.toList ++ tail.toList) = some (.token (.ident w), tail.toList) :=
    front?_name (unit?_eq_none_iff.2 units) (word?_of_isWord word free) closed
  have others : Reads tail.toList [] := by
    obtain none | blank := ends
    · rw [none]
      exact .nil
    · rw [blank]
      exact .space (fun c first => by cases first) .nil
  obtain ⟨c, cs, eq, -⟩ := exists_of_isWord word
  have some_ : w.toList ≠ [] := by
    rw [eq]
    exact cons_ne_nil c cs
  obtain ⟨ls, marks, run, tokens⟩ := Reads.token some_ name others _ { file } (Nat.le_refl _)
  obtain ⟨l, rfl, isName⟩ := map_eq_singleton_iff.1 tokens
  refine ⟨l, marks, ?_, isName⟩
  rw [scan, String.toList_append]
  exact run

/-- A word that is not reserved is read as one name exactly if no unit starts it; else the first
token is such a unit. -/
theorem word_read_whole_iff (file : String) {tail : String} (word : isWord w = true)
    (free : Keyword.ofText? w = none) (ends : tail = "" ∨ tail = " ") :
    ((∃ l marks, scan file (w ++ tail) = ([l], .done marks) ∧ l.token = .ident w) ↔
      ∀ u ∈ unitNames, ¬ u.toList <+: w.toList) ∧
    ((∃ u ∈ unitNames, u.toList <+: w.toList) → ∃ u ∈ unitNames, u.toList <+: w.toList ∧
      (scan file (w ++ tail)).1.head?.map Lexeme.token = some (.unit u)) := by
  have blank : tail.toList = [] ∨ tail.toList = [' '] := by
    obtain rfl | rfl := ends
    · exact .inl rfl
    · exact .inr rfl
  refine ⟨⟨?_, word_read_whole file word free blank⟩, unit_read_first file word blank⟩
  rintro ⟨l, marks, run, isName⟩ u known starts
  obtain ⟨u', -, -, first⟩ := unit_read_first file word blank ⟨u, known, starts⟩
  rw [run, head?_cons, Option.map_some, isName] at first
  cases first

/-- `station` is one name, but `tonnage` starts with the unit `ton`. -/
theorem tonnage_starts_with_unit :
    (isWord "station" = true ∧ Keyword.ofText? "station" = none ∧
      ∃ l marks, scan "input.nml" ("station" ++ " ") = ([l], .done marks) ∧
        l.token = .ident "station") ∧
    (isWord "tonnage" = true ∧ Keyword.ofText? "tonnage" = none ∧
      ¬∃ l marks, scan "input.nml" ("tonnage" ++ "") = ([l], .done marks) ∧
        l.token = .ident "tonnage") := by
  have plain : unitNames.all (fun u => !u.toList.isPrefixOf "station".toList) = true := by decide
  have ton : "ton" ∈ unitNames := by decide
  refine ⟨⟨by decide, by decide, ?_⟩, by decide, by decide, fun whole => ?_⟩
  · refine (word_read_whole_iff "input.nml" (by decide) (by decide) (.inr rfl)).1.2 ?_
    intro u known starts
    have other : (!u.toList.isPrefixOf "station".toList) = true := all_eq_true.1 plain u known
    have isFront : u.toList.isPrefixOf "station".toList = true := isPrefixOf_iff_prefix.2 starts
    rw [isFront] at other
    cases other
  · exact (word_read_whole_iff "input.nml" (by decide) (by decide) (.inl rfl)).1.1 whole "ton" ton
      (by decide)

end Scanner

end NewGrf
