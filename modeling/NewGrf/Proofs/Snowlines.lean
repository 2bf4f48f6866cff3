import NewGrf.Proofs.KnownValues

open List

namespace NewGrf

namespace Snowline

open Build

/-- What an entry gives: a day of the year from 0 on, and a height. -/
structure IsPoint (e : SnowEntry) (p : Nat × Expr) : Prop where
  day : p.1 < 365 ∧ ∃ u v pos, e.day.reduce [] u = .ok (.num (p.1 + 1 : Nat) pos) v
  height : ∃ h u v w x, e.height.reduce [] u = .ok h v ∧ heightIn h e.unit w = .ok p.2 x

theorem dayOf_eq_ok {day : Expr} {n : Nat} {s t : Session} (h : dayOf day s = .ok n t) :
    n < 365 ∧ ∃ pos u, day.reduce [] s = .ok (.num (n + 1 : Nat) pos) u := by
  obtain ⟨d, u, reduced, h⟩ := bind_eq_ok.1 h
  cases d with
  | num v p =>
    dsimp only at h
    by_cases outside : (v < 1 || v > 365) = true
    · rw [if_pos outside, fail_ne_ok] at h
      exact h.elim
    · rw [if_neg outside, pure_eq_ok] at h
      obtain ⟨rfl, rfl⟩ := h
      simp only [Bool.or_eq_true, decide_eq_true_eq, not_or] at outside
      have same : (((v - 1).toNat + 1 : Nat) : Int) = v := by omega
      exact ⟨by omega, p, u, same.symm ▸ reduced⟩
  | _ => exact (fail_ne_ok.1 h).elim

theorem isPoint_of_point {e : SnowEntry} {p : Nat × Expr} {linear : Bool} {s t : Session}
    (h : point linear e s = .ok p t) : IsPoint e p := by
  unfold point at h
  obtain ⟨n, u, isDay, h⟩ := bind_eq_ok.1 h
  obtain ⟨height, v, reduced, h⟩ := bind_eq_ok.1 h
  obtain ⟨bound, pos, x, day⟩ := dayOf_eq_ok isDay
  dsimp only at h
  by_cases negative : height.constant?.any (· < 0) = true
  · simp [negative] at h
  · rw [if_neg negative, bind_eq_ok] at h
    obtain ⟨converted, w, isHeight, h⟩ := h
    by_cases late : (linear && !converted.isConstant) = true
    · simp [late] at h
    · rw [if_neg late, pure_eq_ok] at h
      obtain ⟨rfl, rfl⟩ := h
      exact ⟨⟨bound, s, x, pos, day⟩, height, u, v, v, w, reduced, isHeight⟩

/-- The day whose height holds on a day: the largest one up to it that is given, or the largest one
of all if there is none. -/
structure Applies (given : List (Nat × Expr)) (day on : Nat) : Prop where
  mem : on ∈ given.map (·.1)
  latest : ∀ p ∈ given, p.1 ≤ day → p.1 ≤ on
  before : on ≤ day ∨ ∀ p ∈ given, day < p.1 ∧ p.1 ≤ on

theorem lookup_eq_none_iff {given : List (Nat × Expr)} {day : Nat} :
    given.reverse.lookup day = none ↔ day ∉ given.map (·.1) := by
  rw [List.lookup_eq_none_iff, mem_map, not_exists]
  simp only [mem_reverse, bne_iff_ne, not_and]
  exact forall_congr' fun p => ⟨fun differ mem same => differ mem same.symm,
    fun differ mem same => differ mem same.symm⟩

theorem isSome_lookup_iff {given : List (Nat × Expr)} {day : Nat} :
    (given.reverse.lookup day).isSome = true ↔ day ∈ given.map (·.1) := by
  rw [Option.isSome_iff_ne_none, ne_eq, lookup_eq_none_iff, not_not]

section Gaps

variable {given : List (Nat × Expr)} {days : Days} {first start finish day : Day}

theorem daysUntil_spec (first day : Day) : daysUntil first day < 365 ∧
    (daysUntil first day + day = first ∨ daysUntil first day + day = first.val + 365) := by
  simp only [daysUntil, Fin.sub_def]
  omega

theorem daysUntil_next (first day : Day) : daysUntil first (day + 1) < 365 ∧
    (daysUntil first (day + 1) + (day + 1) = first.val ∨
      daysUntil first (day + 1) + (day + 1) = first.val + 365) := by
  simp only [daysUntil, Fin.sub_def, Fin.add_def]
  omega

theorem daysUntil_inj {a b : Day} (same : daysUntil first a = daysUntil first b) : a = b := by
  have left := daysUntil_spec first a
  have right := daysUntil_spec first b
  exact Fin.ext (by omega)

/-- Where the search for the next height ends there is one, or the first day. -/
theorem nextPoint_cases (ends : nextPoint days first day = finish) :
    finish = first ∨ (days.get finish).isSome = true := by
  fun_induction nextPoint days first day with
  | case1 => exact .inl ends.symm
  | case2 day _ found => exact .inr (ends ▸ found)
  | case3 _ _ _ _ ih => exact ih ends

/-- The days that the search has passed have no height. -/
theorem none_of_passed {d : Day}
    (low : daysUntil first (nextPoint days first day) < daysUntil first d)
    (high : daysUntil first d ≤ daysUntil first day) : days.get d = none := by
  fun_induction nextPoint days first day with
  | case1 => omega
  | case2 => omega
  | case3 day other missing closer ih =>
    by_cases here : d = day
    · rw [here]
      exact Option.not_isSome_iff_eq_none.1 missing
    · have apart : daysUntil first d ≠ daysUntil first day := fun same => here (daysUntil_inj same)
      exact ih low (by omega)

theorem get_setIfInBounds (days : Days) (k : Nat) (x : Option Expr) (day : Day) :
    (days.setIfInBounds k x).get day = if k = day.val then x else days.get day :=
  Vector.getElem_setIfInBounds day.2

theorem get_foldl_set (x : Option Expr) (ks : List Nat) (days : Days) (day : Day) :
    let table := ks.foldl (fun days k => days.setIfInBounds (Fin.ofNat 365 k) x) days
    (day ∈ ks.map (Fin.ofNat 365) → table.get day = x) ∧
      (day ∉ ks.map (Fin.ofNat 365) → table.get day = days.get day) := by
  induction ks generalizing days with
  | nil => exact ⟨fun mem => absurd mem not_mem_nil, fun _ => rfl⟩
  | cons k ks ih =>
    obtain ⟨inside, outside⟩ := ih (days.setIfInBounds (Fin.ofNat 365 k) x)
    rw [foldl_cons, map_cons]
    constructor
    · intro mem
      by_cases later : day ∈ ks.map (Fin.ofNat 365)
      · exact inside later
      · have same := (mem_cons.1 mem).resolve_right later
        rw [outside later, get_setIfInBounds, if_pos (congrArg Fin.val same).symm]
    · intro absent
      have other : day ≠ Fin.ofNat 365 k := fun same => absent (mem_cons.2 (.inl same))
      rw [outside fun later => absent (mem_cons_of_mem _ later), get_setIfInBounds,
        if_neg fun same => other (Fin.ext same).symm]

/-- The days behind a start that come before the next height. -/
def InGap (first start finish day : Day) : Prop :=
  daysUntil first finish < daysUntil first day ∧ daysUntil first day ≤ daysUntil first (start + 1)

instance : Decidable (InGap first start finish day) := inferInstanceAs (Decidable (_ ∧ _))

theorem mem_gap (apart : start ≠ finish)
    (within : daysUntil first finish ≤ daysUntil first (start + 1)) :
    day ∈ (range' (start + 1) ((if finish < start then finish.val + 365 else finish.val) -
      (start + 1))).map (Fin.ofNat 365) ↔ InGap first start finish day := by
  have differ := Fin.val_ne_of_ne apart
  have isStart := daysUntil_next first start
  have isFinish := daysUntil_spec first finish
  have isDay := daysUntil_spec first day
  generalize same : (if finish < start then finish.val + 365 else finish.val) = unwrapped
  have wraps : finish.val < start ∧ unwrapped = finish.val + 365 ∨
      start.val ≤ finish ∧ unwrapped = finish := by
    by_cases later : finish.val < start
    · rw [if_pos (Fin.lt_def.2 later)] at same
      omega
    · rw [if_neg fun less => later (Fin.lt_def.1 less)] at same
      omega
  simp only [InGap, mem_map, mem_range'_1, Fin.ext_iff, Fin.val_ofNat]
  constructor
  · rintro ⟨k, inside, rest⟩
    omega
  · intro inside
    by_cases late : day.val ≤ start
    · exact ⟨day.val + 365, by omega, by omega⟩
    · exact ⟨day.val, by omega, by omega⟩

theorem get_fillGap {low high : Expr} (fromHere : days.get start = some low)
    (upTo : days.get finish = some high) (apart : start ≠ finish)
    (within : daysUntil first finish ≤ daysUntil first (start + 1)) (day : Day) :
    (fillGap false start finish days).get day =
      if InGap first start finish day then days.get start else days.get day := by
  unfold fillGap
  rw [fromHere, upTo]
  by_cases inside : InGap first start finish day
  · rw [if_pos inside]
    exact (get_foldl_set (some low) _ days day).1 ((mem_gap apart within).2 inside)
  · rw [if_neg inside]
    exact (get_foldl_set (some low) _ days day).2 fun mem => inside ((mem_gap apart within).1 mem)

theorem fillGap_self (start : Day) (days : Days) : fillGap false start start days = days := by
  unfold fillGap
  cases days.get start with
  | none => rfl
  | some => simp

/-- The height that holds on a day is one that was given last for its own day. -/
def Held (given : List (Nat × Expr)) (day : Day) (height : Option Expr) : Prop :=
  ∃ on, Applies given day on ∧ height = given.reverse.lookup on

/-- All gaps up to a start are filled, and nothing behind it has changed. -/
structure Filled (given : List (Nat × Expr)) (first start : Day) (days : Days) : Prop where
  isGiven : start.val ∈ given.map (·.1)
  here : days.get start = given.reverse.lookup start.val
  behind : ∀ day, day ≠ first → daysUntil first day ≤ daysUntil first (start + 1) →
    days.get day = given.reverse.lookup day.val
  before : ∀ day, day = first ∨ daysUntil first (start + 1) < daysUntil first day →
    Held given day (days.get day)

theorem Held.isSome {height : Option Expr} (held : Held given day height) :
    height.isSome = true := by
  obtain ⟨on, applies, rfl⟩ := held
  exact isSome_lookup_iff.2 applies.mem

/-- On a day that is given its own height holds. -/
theorem held_own (mem : day.val ∈ given.map (·.1)) :
    Held given day (given.reverse.lookup day.val) :=
  ⟨day, ⟨mem, fun _ _ => id, .inl (Nat.le_refl _)⟩, rfl⟩

theorem Filled.get (filled : Filled given first start days)
    (ends : nextPoint days first (start + 1) = finish) (apart : start ≠ finish)
    (known : (days.get finish).isSome = true) (day : Day) :
    (fillGap false start finish days).get day =
      if InGap first start finish day then given.reverse.lookup start.val else days.get day := by
  have within : daysUntil first finish ≤ daysUntil first (start + 1) :=
    ends ▸ daysUntil_nextPoint days first (start + 1)
  obtain ⟨high, upTo⟩ := Option.isSome_iff_exists.1 known
  obtain ⟨low, fromHere⟩ : ∃ low, days.get start = some low := by
    rw [← Option.isSome_iff_exists, filled.here]
    exact isSome_lookup_iff.2 filled.isGiven
  rw [get_fillGap fromHere upTo apart within, filled.here]

section Loop

variable (bounded : ∀ p ∈ given, p.1 < 365)
include bounded

/-- No day between a start and the next height is given. -/
theorem Filled.not_inGap (filled : Filled given first start days)
    (ends : nextPoint days first (start + 1) = finish) {p : Nat × Expr} (mem : p ∈ given)
    (low : daysUntil first finish < daysUntil first ⟨p.1, bounded p mem⟩) :
    daysUntil first (start + 1) < daysUntil first ⟨p.1, bounded p mem⟩ := by
  by_contra high
  have other : (⟨p.1, bounded p mem⟩ : Day) ≠ first := by
    rintro same
    rw [same] at low
    have := daysUntil_spec first first
    omega
  have unchanged := filled.behind _ other (Nat.le_of_not_lt high)
  rw [none_of_passed (ends ▸ low) (Nat.le_of_not_lt high)] at unchanged
  exact lookup_eq_none_iff.1 unchanged.symm (mem_map_of_mem mem)

variable (least : ∀ p ∈ given, first.val ≤ p.1)
include least

/-- The height of the start holds up to the next one. -/
theorem Filled.applies (filled : Filled given first start days)
    (ends : nextPoint days first (start + 1) = finish) (inGap : InGap first start finish day) :
    Applies given day start := by
  have isStart := daysUntil_next first start
  have isDay := daysUntil_spec first day
  have isFinish := daysUntil_spec first finish
  obtain ⟨q, mem, same⟩ := mem_map.1 filled.isGiven
  have late := least q mem
  unfold InGap at inGap
  have upTo (p : Nat × Expr) (mem : p ∈ given) (passed : p.1 ≤ day ∨ day.val < start) :
      p.1 ≤ start := by
    have apart := filled.not_inGap bounded ends mem
    have isPoint := daysUntil_spec first ⟨p.1, bounded p mem⟩
    have := bounded p mem
    have := least p mem
    dsimp only at isPoint
    omega
  refine ⟨filled.isGiven, fun p mem low => upTo p mem (.inl low), ?_⟩
  by_cases wrapped : day.val < start
  · refine .inr fun p mem => ⟨?_, upTo p mem (.inr wrapped)⟩
    have := least p mem
    omega
  · exact .inl (by omega)

/-- Behind a gap that was filled every day up to the next height has its own. -/
theorem Filled.held (filled : Filled given first start days)
    (ends : nextPoint days first (start + 1) = finish) (apart : start ≠ finish)
    (known : (days.get finish).isSome = true)
    (passed : day = first ∨ daysUntil first finish < daysUntil first day) :
    Held given day ((fillGap false start finish days).get day) := by
  rw [filled.get ends apart known]
  by_cases inGap : InGap first start finish day
  · rw [if_pos inGap]
    exact ⟨start, filled.applies bounded least ends inGap, rfl⟩
  · rw [if_neg inGap]
    refine filled.before day (passed.imp_right fun low => ?_)
    exact Nat.lt_of_not_le fun high => inGap ⟨low, high⟩

theorem Filled.next (filled : Filled given first start days)
    (ends : nextPoint days first (start + 1) = finish) (other : finish ≠ first) :
    Filled given first finish (fillGap false start finish days) := by
  have within : daysUntil first finish ≤ daysUntil first (start + 1) :=
    ends ▸ daysUntil_nextPoint days first (start + 1)
  have closer := daysUntil_succ other
  have known := (nextPoint_cases ends).resolve_left other
  have apart : start ≠ finish := by
    rintro rfl
    omega
  have here : days.get finish = given.reverse.lookup finish.val := filled.behind finish other within
  have kept (day : Day) (outside : ¬ InGap first start finish day) :
      (fillGap false start finish days).get day = days.get day := by
    rw [filled.get ends apart known, if_neg outside]
  have isGiven : finish.val ∈ given.map (·.1) := isSome_lookup_iff.1 (here ▸ known)
  constructor
  · exact isGiven
  · rw [kept finish fun inGap => Nat.lt_irrefl _ inGap.1, here]
  · intro day differ late
    rw [kept day fun inGap => by have := inGap.1; omega]
    exact filled.behind day differ (by omega)
  · intro day passed
    by_cases same : day = finish
    · subst same
      rw [kept day fun inGap => Nat.lt_irrefl _ inGap.1, here]
      exact held_own isGiven
    · have differ : daysUntil first day ≠ daysUntil first finish :=
        fun equal => same (daysUntil_inj equal)
      exact filled.held bounded least ends apart known (passed.imp_right fun late => by omega)

/-- When the first day comes round all days have their heights, if two days are given. -/
theorem Filled.fillGaps (filled : Filled given first start days)
    (several : ∃ p ∈ given, p.1 ≠ first) (day : Day) :
    Held given day ((fillGaps false first start days).get day) := by
  fun_induction Snowline.fillGaps false first start days with
  | case1 start days finish result last =>
    obtain ⟨p, mem, other⟩ := several
    have isFirst := daysUntil_spec first first
    have apart : start ≠ finish := by
      intro same
      have inGap := filled.not_inGap bounded (rfl : _ = finish) mem
      have isPoint := daysUntil_spec first ⟨p.1, bounded p mem⟩
      have isStart := daysUntil_next first start
      have := bounded p mem
      rw [same, last] at inGap isStart
      dsimp only at isPoint
      omega
    refine filled.held bounded least rfl apart ?_ ?_
    · rw [last]
      exact (filled.before first (.inl rfl)).isSome
    · by_cases same : day = first
      · exact .inl same
      · have differ : daysUntil first day ≠ daysUntil first first :=
          fun equal => same (daysUntil_inj equal)
        rw [last]
        exact .inr (by omega)
  | case2 start days finish result last ih =>
    exact ih (filled.next bounded least rfl last)

end Loop

/-- The table before any gap is filled. -/
def Given (given : List (Nat × Expr)) (days : Days) : Prop :=
  ∀ day : Day, days.get day = given.reverse.lookup day.val

theorem Given.add (isGiven : Given given days) (p : Nat × Expr) :
    Given (given ++ [p]) (days.setIfInBounds p.1 (some p.2)) := by
  intro day
  obtain ⟨k, height⟩ := p
  rw [reverse_append, reverse_singleton, singleton_append, lookup_cons, ← isGiven day,
    get_setIfInBounds]
  by_cases same : k = day.val
  · simp [same]
  · simp [same, beq_false_of_ne (Ne.symm same)]

theorem Given.filled (isGiven : Given given days) (mem : first.val ∈ given.map (·.1)) :
    Filled given first first days where
  isGiven := mem
  here := isGiven first
  behind day _ _ := isGiven day
  before day passed := by
    have isDay := daysUntil_spec first day
    have isNext := daysUntil_next first first
    obtain rfl : day = first := by
      rcases passed with same | late
      · exact same
      · exact Fin.ext (by omega)
    rw [isGiven day]
    exact held_own mem

/-- A single day leaves no gap between two. -/
theorem Given.fillGaps_single (isGiven : Given given days) (single : ∀ p ∈ given, p.1 = first.val) :
    fillGaps false first first days = days := by
  have ends : nextPoint days first (first + 1) = first := by
    rcases nextPoint_cases (rfl : nextPoint days first (first + 1) = _) with last | known
    · exact last
    · rw [isGiven, isSome_lookup_iff] at known
      obtain ⟨p, inside, same⟩ := mem_map.1 known
      exact Fin.ext (same.symm.trans (single p inside))
  unfold fillGaps
  simp only [ends, fillGap_self, if_true]

/-- What the loop leaves: heights that hold on their days, and no height only if a single day is
given. -/
structure Heights (given : List (Nat × Expr)) (first : Day) (heights : Days) : Prop where
  known : (heights.get first).isSome = true
  held : ∀ day : Day, ∀ height, heights.get day = some height → Held given day (some height)
  single : ∀ day : Day, heights.get day = none → ∃ on, ∀ p ∈ given, p.1 = on

theorem Given.heights (isGiven : Given given days) (bounded : ∀ p ∈ given, p.1 < 365)
    (least : ∀ p ∈ given, first.val ≤ p.1) (mem : first.val ∈ given.map (·.1)) :
    Heights given first (fillGaps false first first days) := by
  by_cases single : ∀ p ∈ given, p.1 = first.val
  · rw [isGiven.fillGaps_single single]
    refine ⟨((isGiven.filled mem).before first (.inl rfl)).isSome, fun day height here => ?_,
      fun _ _ => ⟨_, single⟩⟩
    rw [isGiven day] at here
    rw [← here]
    exact held_own (isSome_lookup_iff.1 (Option.isSome_of_eq_some here))
  · obtain ⟨p, inside, other⟩ := not_forall₂.1 single
    have held := (isGiven.filled mem).fillGaps bounded least ⟨p, inside, other⟩
    refine ⟨(held first).isSome, fun day height here => here ▸ held day, fun day missing => ?_⟩
    have known := (held day).isSome
    rw [missing] at known
    cases known

/-- The first day with a height is the least one that is given. -/
theorem Given.isFirst (isGiven : Given given days)
    (found : (finRange 365).find? (fun day => (days.get day).isSome) = some first) :
    first.val ∈ given.map (·.1) ∧ ∀ p ∈ given, first.val ≤ p.1 := by
  obtain ⟨known, i, inside, rfl, none⟩ := find?_eq_some_iff_getElem.1 found
  have missing {day : Day} : (days.get day).isSome = false ↔ day.val ∉ given.map (·.1) := by
    rw [Option.isSome_eq_false_iff, Option.isNone_iff_eq_none, isGiven day, lookup_eq_none_iff]
  constructor
  · by_contra other
    rw [missing.2 other] at known
    cases known
  · intro p mem
    by_contra low
    rw [getElem_finRange, Fin.val_cast] at low
    have early := none p.1 (Nat.lt_of_not_le low)
    rw [Bool.not_eq_true', missing, getElem_finRange, Fin.val_cast] at early
    exact early (mem_map_of_mem mem)

end Gaps

section Fill

variable {α : Type} {last : Option α} {es : List (Option α)} {i : Nat} {x : α}

@[simp] theorem length_fill (last : Option α) (es : List (Option α)) :
    (fill last es).length = es.length := by
  induction es generalizing last with
  | nil => rfl
  | cons e es ih => rw [fill, length_cons, ih, length_cons]

theorem getElem?_fill_of_some (here : es[i]? = some (some x)) :
    (fill last es)[i]? = some (some x) := by
  induction es generalizing last i with
  | nil => cases here
  | cons e es ih =>
    cases i with
    | zero =>
      cases here
      rfl
    | succ i => exact ih here

theorem getElem?_fill_of_none (here : es[i + 1]? = some none) :
    (fill last es)[i + 1]? = (fill last es)[i]? := by
  induction es generalizing last i with
  | nil => cases here
  | cons e es ih =>
    cases i with
    | zero =>
      cases es with
      | nil => cases here
      | cons e' es =>
        cases here
        rfl
    | succ i => exact ih here

theorem mem_fill {y : Option α} (mem : y ∈ fill last es) : y = last ∨ y ∈ es := by
  induction es generalizing last with
  | nil => cases mem
  | cons e es ih =>
    rw [fill, mem_cons] at mem
    have first {y} (same : y = (e <|> last)) : y = last ∨ y ∈ e :: es := by
      cases e with
      | none => exact .inl same
      | some x => exact .inr (same ▸ mem_cons_self)
    rcases mem with same | mem
    · exact first same
    · rcases ih mem with same | mem
      · exact first same
      · exact .inr (mem_cons_of_mem _ mem)

theorem isSome_fill (known : last.isSome = true) : ∀ y ∈ fill last es, y.isSome = true := by
  induction es generalizing last with
  | nil => exact forall_mem_nil _
  | cons e es ih =>
    have first : (e <|> last).isSome = true := by
      cases e with
      | none => exact known
      | some => rfl
    rw [fill, forall_mem_cons]
    exact ⟨first, ih first⟩

theorem getLast?_fill (mem : some x ∈ es) : (fill last es).getLast?.join.isSome = true := by
  induction es generalizing last with
  | nil => cases mem
  | cons e es ih =>
    rw [fill]
    rcases mem_cons.1 mem with rfl | mem
    · obtain ⟨y, isLast⟩ : ∃ y, (some x :: fill (some x) es).getLast? = some y :=
        ⟨_, getLast?_eq_some_getLast (cons_ne_nil _ _)⟩
      have all : ∀ y ∈ some x :: fill (some x) es, y.isSome = true :=
        forall_mem_cons.2 ⟨rfl, isSome_fill rfl⟩
      have known := all y (mem_of_getLast? isLast)
      exact (congrArg (·.join.isSome) isLast).trans known
    · cases es with
      | nil => cases mem
      | cons e' es =>
        have rest : (fill (e <|> last) (e' :: es)).getLast?.join.isSome = true := ih mem
        rw [fill] at rest ⊢
        rwa [getLast?_cons_cons]

theorem mem_fill_getLast (mem : some x ∈ fill es.getLast?.join es) : some x ∈ es := by
  rcases mem_fill mem with same | mem
  · exact mem_of_getLast? (Option.join_eq_some_iff.1 same.symm)
  · exact mem

/-- Two rounds, each of which begins with what the list ends with. -/
def fillTwice (es : List (Option α)) : List (Option α) :=
  let once := fill es.getLast?.join es
  fill once.getLast?.join once

theorem getElem?_fillTwice_of_some (here : es[i]? = some (some x)) :
    (fillTwice es)[i]? = some (some x) :=
  getElem?_fill_of_some (getElem?_fill_of_some here)

theorem getElem?_fillTwice_of_none (here : es[i + 1]? = some none) :
    (fillTwice es)[i + 1]? = (fillTwice es)[i]? := by
  have once : (fill es.getLast?.join es)[i + 1]? = (fill es.getLast?.join es)[i]? :=
    getElem?_fill_of_none here
  unfold fillTwice
  generalize filled : fill es.getLast?.join es = fs at once ⊢
  cases known : fs[i + 1]? with
  | none =>
    have short := getElem?_eq_none_iff.1 known
    have long := (List.getElem?_eq_some_iff.1 here).1
    rw [← filled, length_fill] at short
    omega
  | some y =>
    cases y with
    | none => exact getElem?_fill_of_none known
    | some x => rw [getElem?_fill_of_some known, getElem?_fill_of_some (once ▸ known)]

theorem isSome_fillTwice (mem : some x ∈ es) : ∀ y ∈ fillTwice es, y.isSome = true :=
  isSome_fill (getLast?_fill mem)

theorem mem_fillTwice (mem : some x ∈ fillTwice es) : some x ∈ es :=
  mem_fill_getLast (mem_fill_getLast mem)

theorem map_some_filterMap (all : ∀ y ∈ es, y.isSome = true) :
    (es.filterMap fun e => e).map some = es := by
  induction es with
  | nil => rfl
  | cons e es ih =>
    rw [forall_mem_cons] at all
    obtain ⟨x, rfl⟩ := Option.isSome_iff_exists.1 all.1
    exact congrArg (some x :: ·) (ih all.2)

end Fill

section Equal

variable {given : List (Nat × Expr)} {s t : Session}

theorem calendar_eq : calendar = (range 384).map fun i =>
    if i % 32 < monthLengths.getD (i / 32) 0 then
      some (Number.total (monthLengths.take (i / 32)) + i % 32) else none := by decide +kernel

theorem calendar_date {month day : Nat} (isMonth : month < 12) (isDay : day < 32) :
    calendar[32 * month + day]? = some (if day < monthLengths.getD month 0 then
      some (Number.total (monthLengths.take month) + day) else none) := by
  have inside : 32 * month + day < 384 := by omega
  have whole : (32 * month + day) / 32 = month := by omega
  have part : (32 * month + day) % 32 = day := by omega
  rw [calendar_eq, getElem?_map, getElem?_range inside, Option.map_some, whole, part]

theorem monthLengths_bounds :
    ∀ month < 12, 0 < monthLengths.getD month 0 ∧ monthLengths.getD month 0 ≤ 32 := by decide

theorem days_calendar : calendar.filterMap id = range 365 := by decide +kernel

theorem foldlM_given {linear : Bool} {entries : List SnowEntry} {days result : Days}
    (isGiven : Given given days) (h : (entries.foldlM (fun days e => do
      let (day, height) ← point linear e
      pure (days.setIfInBounds day (some height))) days : Build Days) s = .ok result t) :
    ∃ more, entries.mapM (point linear) s = .ok more t ∧ Given (given ++ more) result := by
  induction entries generalizing given days s with
  | nil =>
    obtain ⟨rfl, rfl⟩ := pure_eq_ok.1 h
    exact ⟨[], rfl, by rwa [append_nil]⟩
  | cons e entries ih =>
    simp only [foldlM_cons, bind_eq_ok, pure_eq_ok] at h
    obtain ⟨_, _, ⟨p, u, isPoint, rfl, rfl⟩, h⟩ := h
    obtain ⟨more, rest, isGiven⟩ := ih (isGiven.add p) h
    refine ⟨p :: more, ?_, by rwa [append_assoc, singleton_append] at isGiven⟩
    rw [mapM_cons]
    simp only [bind_eq_ok, pure_eq_ok]
    exact ⟨p, u, isPoint, more, t, rest, rfl, rfl⟩

theorem heightAt_eq {heights : Days} {day? : Option Nat} (day : Day) (isDay : day? = some day.val) :
    heightAt heights day? = heights.get day := by
  rw [isDay]
  exact congrArg Option.join (Vector.getElem?_eq_getElem day.2)

/-- What a place of the table gets for its day of the year, before places are filled. -/
def Reaches (heights : Days) (day? : Option Nat) (x : Option Expr) : Prop :=
  (∃ height e, heightAt heights day? = some height ∧ x = some e ∧
    ∃ u v, height.reduce [] u = .ok e v) ∨ heightAt heights day? = none ∧ x = none

section Places

variable {heights : Days} {first : Day} {days : List (Option Expr)} {table : List Expr} {i d : Nat}

theorem exists_of_forall₂ {α β : Type} {R : α → β → Prop} {as : List α} {bs : List β} {a : α}
    (all : Forall₂ R as bs) (here : as[i]? = some a) : ∃ b, bs[i]? = some b ∧ R a b := by
  induction all generalizing i with
  | nil => cases here
  | cons related _ ih =>
    cases i with
    | zero =>
      cases here
      exact ⟨_, rfl, related⟩
    | succ i => exact ih here

theorem day_lt {entries : List SnowEntry} (all : Forall₂ IsPoint entries given) :
    ∀ p ∈ given, p.1 < 365 := by
  induction all with
  | nil => exact forall_mem_nil _
  | cons isPoint _ ih => exact forall_mem_cons.2 ⟨isPoint.day.1, ih⟩

/-- Some place gets a height, as each day of a year has its place. -/
theorem exists_some_mem (holds : Heights given first heights)
    (reaches : Forall₂ (Reaches heights) calendar days) : ∃ e, some e ∈ days := by
  have inYear : first.val ∈ calendar.filterMap id := by
    rw [days_calendar, mem_range]
    exact first.2
  obtain ⟨_, inside, rfl⟩ := mem_filterMap.1 inYear
  obtain ⟨i, here⟩ := mem_iff_getElem?.1 inside
  obtain ⟨x, place, reached⟩ := exists_of_forall₂ reaches here
  rcases reached with ⟨height, e, -, rfl, -⟩ | ⟨missing, -⟩
  · exact ⟨e, mem_of_getElem? place⟩
  · have known := holds.known
    rw [← heightAt_eq first rfl, missing] at known
    cases known

theorem height_at_day (holds : Heights given first heights)
    (reaches : Forall₂ (Reaches heights) calendar days)
    (all : fillTwice days = table.map some) (isDay : calendar[i]? = some (some d)) :
    ∃ on height e, Applies given d on ∧ given.reverse.lookup on = some height ∧
      table[i]? = some e ∧ ∃ v w, height.reduce [] v = .ok e w := by
  obtain ⟨x, place, reached⟩ := exists_of_forall₂ reaches isDay
  have shown {e : Expr} (here : (fillTwice days)[i]? = some (some e)) : table[i]? = some e := by
    rw [all, getElem?_map] at here
    obtain ⟨y, found, same⟩ := Option.map_eq_some_iff.1 here
    rwa [Option.some.inj same] at found
  have inYear {d : Nat} {i : Nat} (isDay : calendar[i]? = some (some d)) : d < 365 := by
    rw [← mem_range, ← days_calendar]
    exact mem_filterMap.2 ⟨_, mem_of_getElem? isDay, rfl⟩
  rcases reached with ⟨height, e, onDay, rfl, reduced⟩ | ⟨missing, rfl⟩
  · rw [heightAt_eq ⟨d, inYear isDay⟩ rfl] at onDay
    obtain ⟨on, applies, last⟩ := holds.held _ _ onDay
    exact ⟨on, height, e, applies, last.symm, shown (getElem?_fillTwice_of_some place), reduced⟩
  · -- There is but one day, and every place has its height.
    rw [heightAt_eq ⟨d, inYear isDay⟩ rfl] at missing
    obtain ⟨on, single⟩ := holds.single _ missing
    have long : i < table.length := by
      have inside := (List.getElem?_eq_some_iff.1 place).1
      have same := congrArg length all
      rw [fillTwice, length_fill, length_fill, length_map] at same
      omega
    have here : table[i]? = some table[i] := getElem?_eq_getElem long
    have source : some table[i] ∈ days :=
      mem_fillTwice (all ▸ mem_map_of_mem (getElem_mem long))
    obtain ⟨j, there⟩ := mem_iff_getElem?.1 source
    obtain ⟨day?, isPlace, reached⟩ := exists_of_forall₂ reaches.flip there
    rcases reached with ⟨height, e, onDay, same, reduced⟩ | ⟨-, same⟩
    · obtain ⟨d', rfl, -⟩ := Option.bind_eq_some_iff.1 onDay
      rw [heightAt_eq ⟨d', inYear isPlace⟩ rfl] at onDay
      obtain ⟨on', applies, last⟩ := holds.held _ _ onDay
      obtain ⟨p, mem, rfl⟩ := mem_map.1 applies.mem
      have everywhere : Applies given d p.1 := by
        refine ⟨applies.mem, fun q inside _ => ?_, ?_⟩
        · exact Nat.le_of_eq ((single q inside).trans (single p mem).symm)
        · refine (Nat.lt_or_ge d p.1).symm.imp_right fun less q inside => ?_
          rw [single q inside, ← single p mem]
          exact ⟨less, Nat.le_refl _⟩
      exact ⟨p.1, height, _, everywhere, last.symm, here, Option.some.inj same ▸ reduced⟩
    · cases same

end Places

/-- On each day of an ordinary year the table holds the height that was last given for the largest
day up to it, or for the largest day of all before the first one; a place without a day repeats the
one before. -/
theorem equal_table_holds_last_height {line : Snowline} {heights : List Expr}
    (isEqual : line.kind = "equal") (h : table line s = .ok heights t) :
    ∃ given u, line.entries.mapM (point false) s = .ok given u ∧
      Forall₂ IsPoint line.entries given ∧ heights.length = 384 ∧
      (∀ month < 12, ∀ day < monthLengths.getD month 0, ∃ on height e,
        Applies given (Number.total (monthLengths.take month) + day) on ∧
        given.reverse.lookup on = some height ∧ heights[32 * month + day]? = some e ∧
        ∃ v w, height.reduce [] v = .ok e w) ∧
      ∀ month < 12, ∀ day < 32, monthLengths.getD month 0 ≤ day →
        heights[32 * month + day]? = heights[32 * month + day - 1]? := by
  have plain : (line.kind != "equal") = false := by rw [isEqual]; rfl
  simp only [table, plain, bind_eq_ok] at h
  obtain ⟨days, u, folded, h⟩ := h
  have none : Given [] (Vector.replicate 365 none) := fun day => Vector.getElem_replicate day.2
  obtain ⟨given, mapped, isGiven⟩ := foldlM_given none folded
  rw [nil_append] at isGiven
  have entries : Forall₂ IsPoint line.entries given :=
    (forall₂_of_mapM mapped).imp fun e p => by
      rintro ⟨v, w, isPoint⟩
      exact isPoint_of_point isPoint
  have bounded := day_lt entries
  cases found : (finRange 365).find? fun day => (days.get day).isSome with
  | none =>
    rw [found] at h
    exact (fail_ne_ok.1 h).elim
  | some first =>
    simp only [found, bind_eq_ok] at h
    obtain ⟨places, v, mappedDays, h⟩ := h
    obtain ⟨rfl, rfl⟩ := pure_eq_ok.1 h
    obtain ⟨mem, least⟩ := isGiven.isFirst found
    have holds := isGiven.heights bounded least mem
    have reaches : Forall₂ (Reaches (fillGaps false first first days)) calendar places :=
      (forall₂_of_mapM mappedDays).imp fun day? x => by
        rintro ⟨v, w, h⟩
        cases found : heightAt (fillGaps false first first days) day? with
        | some height =>
          simp only [found, bind_eq_ok, pure_eq_ok] at h
          obtain ⟨e, w, reduced, rfl, rfl⟩ := h
          exact .inl ⟨height, e, found, rfl, v, w, reduced⟩
        | none =>
          simp only [found, pure_eq_ok] at h
          exact .inr ⟨found, h.1.symm⟩
    obtain ⟨e, mem⟩ := exists_some_mem holds reaches
    have all := (map_some_filterMap (isSome_fillTwice mem)).symm
    refine ⟨given, u, mapped, entries, ?_, fun month isMonth day isDay => ?_,
      fun month isMonth day short long => ?_⟩
    · have size := congrArg length all
      rw [fillTwice, length_fill, length_fill, length_map, ← reaches.length_eq, calendar_eq,
        length_map, length_range] at size
      exact size.symm
    · have inMonth := Nat.lt_of_lt_of_le isDay (monthLengths_bounds month isMonth).2
      have isDate := calendar_date isMonth inMonth
      rw [if_pos isDay] at isDate
      exact height_at_day holds reaches all isDate
    · have noDate := calendar_date isMonth short
      rw [if_neg (Nat.not_lt.2 long)] at noDate
      obtain ⟨x, place, ⟨_, _, found, -⟩ | ⟨-, rfl⟩⟩ := exists_of_forall₂ reaches noDate
      · cases found
      · have later := (monthLengths_bounds month isMonth).1
        obtain ⟨i, next⟩ : ∃ i, 32 * month + day = i + 1 := ⟨32 * month + day - 1, by omega⟩
        rw [next] at place ⊢
        have repeats := getElem?_fillTwice_of_none place
        rw [all, getElem?_map, getElem?_map] at repeats
        exact Option.map_injective (fun _ _ => Option.some.inj) repeats

end Equal

/-- A line with two heights for one day, which is the first one of the year. -/
def winterLine : Snowline :=
  let entry (day height : Expr) : SnowEntry := { day, height, unit := none }
  { kind := "equal"
    entries := [entry (.num 100 none) (.num 50 none), entry (.num 200 none) (Assign.paramOf 1),
      entry (.num 100 none) (.num 60 none)]
    pos := .line "input.nml" 2 }

/-- Before its first day the height of the last day of the year before holds, and from the first day
on the second height for that day. -/
theorem winterLine_table : ∃ heights t, table winterLine {} = .ok heights t ∧
    heights.length = 384 ∧ heights[60]? = heights[59]? ∧
    (∃ e, heights[0]? = some e ∧ ∃ u v, (Assign.paramOf 1).reduce [] u = .ok e v) ∧
    ∃ e, heights[32 * 3 + 9]? = some e ∧ ∃ u v, (Expr.num 60 none).reduce [] u = .ok e v := by
  obtain ⟨heights, t, h⟩ := ok_of_works (m := table winterLine) (s := {}) (by decide +kernel)
  obtain ⟨given, u, mapped, -, size, dates, others⟩ := equal_table_holds_last_height rfl h
  have points : winterLine.entries.mapM (point false) {} =
      .ok [(99, .num 50 none), (199, Assign.paramOf 1), (99, .num 60 none)] {} := rfl
  obtain ⟨rfl, -⟩ := EStateM.Result.ok.inj (points.symm.trans mapped)
  refine ⟨heights, t, h, size, others 1 (by decide) 28 (by decide) (by decide), ?_, ?_⟩
  · obtain ⟨on, height, e, applies, last, here, reduced⟩ := dates 0 (by decide) 0 (by decide)
    have isOn : on = 199 := by
      have mem := applies.mem
      have before := applies.before
      simp at mem before
      omega
    rw [isOn] at last
    cases last
    exact ⟨e, here, reduced⟩
  · obtain ⟨on, height, e, applies, last, here, reduced⟩ := dates 3 (by decide) 9 (by decide)
    have isOn : on = 99 := by
      have mem := applies.mem
      have before := applies.before
      simp [Number.total, monthLengths] at mem before
      omega
    rw [isOn] at last
    cases last
    exact ⟨e, here, reduced⟩

end Snowline

end NewGrf
