import NewGrf.Proofs.KnownValues

open List

namespace NewGrf

open Build

/-- The items that an action sets a property of, with the values that they get. -/
def PropertyRow.assigned (r : PropertyRow) : List (Nat × Nat) :=
  (range' r.first r.values.length).zip r.values

namespace BaseCost

open Assign

/-- The number of a cost, of two bytes. -/
def number (w : World) (cost : Expr × Expr) : Nat := (cost.1.value w).toNat % 65536

/-- The value of a cost, of one byte. -/
def amount (w : World) (cost : Expr × Expr) : Nat := (cost.2.value w).toNat % 256

/-- Names that are constants name a cost. -/
def Named (costs : List (Expr × Expr)) : Prop :=
  ∀ cost ∈ costs, ∀ n ∈ cost.1.constant?, 0 ≤ n ∧ n ≤ names.length

/-- Costs that have their name from the same place, which are those of one group, have one value. -/
def Grouped (costs : List (Expr × Expr)) : Prop :=
  ∀ c ∈ costs, ∀ d ∈ costs, c.1.pos = d.1.pos → c.1.pos.any Position.isOwn = true → c.2 = d.2

/-- Costs whose numbers and values are computed right where they are no constants. -/
structure Valid (g : Game) (free : List Int) (start : Params) (costs : List (Expr × Expr)) :
    Prop where
  named : Named costs
  grouped : Grouped costs
  fit : ∀ c ∈ costs, c.2.CountsFit
  numbers : ∀ c ∈ costs, c.1.constant? = none → Right g free start c.1
  values : ∀ c ∈ costs, c.2.constant? = none → Right g free start c.2

def Next (c d : Expr × Expr) : Prop := follows c.1 d.1 = true

theorem follows_eq_true {a b : Expr} :
    follows a b = true ↔ ∃ n, a.constant? = some n ∧ b.constant? = some (n + 1) := by
  constructor
  · intro h
    unfold follows at h
    split at h
    · exact ⟨_, rfl, congrArg some (beq_iff_eq.1 h)⟩
    · cases h
  · rintro ⟨n, first, second⟩
    obtain ⟨p, rfl⟩ := Expr.constant?_eq_some.1 first
    obtain ⟨q, rfl⟩ := Expr.constant?_eq_some.1 second
    exact beq_iff_eq.2 rfl

theorem exists_run_cons (cost : Expr × Expr) (costs : List (Expr × Expr)) :
    ∃ more rest, runs (cost :: costs) = (cost :: more) :: rest := by
  unfold runs
  split
  · split <;> exact ⟨_, _, rfl⟩
  · exact ⟨_, _, rfl⟩

theorem runs_cons (cost : Expr × Expr) (costs : List (Expr × Expr)) :
    runs (cost :: costs) = [cost] :: runs costs ∨
      ∃ next more rest, runs costs = (next :: more) :: rest ∧ Next cost next ∧
        runs (cost :: costs) = (cost :: next :: more) :: rest := by
  cases costs with
  | nil => exact .inl rfl
  | cons next costs =>
    obtain ⟨more, rest, tail⟩ := exists_run_cons next costs
    rw [runs.eq_def]
    simp only [tail]
    by_cases isNext : follows cost.1 next.1 = true
    · exact .inr ⟨next, more, rest, rfl, isNext, if_pos isNext⟩
    · exact .inl (if_neg isNext)

/-- The runs are the costs again, and in a run each number is one more than the last. -/
theorem runs_spec (costs : List (Expr × Expr)) :
    (runs costs).flatten = costs ∧ ∀ run ∈ runs costs, run ≠ [] ∧ run.IsChain Next := by
  induction costs with
  | nil => exact ⟨rfl, forall_mem_nil _⟩
  | cons cost costs ih =>
    rcases runs_cons cost costs with same | ⟨next, more, rest, tail, follows, same⟩
    · rw [same]
      refine ⟨by rw [flatten_cons, ih.1, singleton_append], ?_⟩
      rw [forall_mem_cons]
      exact ⟨⟨cons_ne_nil _ _, .singleton _⟩, ih.2⟩
    · rw [tail, forall_mem_cons] at ih
      obtain ⟨flat, ⟨-, chain⟩, others⟩ := ih
      rw [same, forall_mem_cons]
      exact ⟨by rw [← flat]; rfl, ⟨cons_ne_nil _ _, .cons_cons follows chain⟩, others⟩

section Row

variable {w : World} {costs : List (Expr × Expr)}

theorem number_constant {cost : Expr × Expr} {n : Int} (known : cost.1.constant? = some n)
    (low : 0 ≤ n) (high : n ≤ names.length) : (number w cost : Int) = n := by
  obtain ⟨p, same⟩ := Expr.constant?_eq_some.1 known
  have limit : (names.length : Int) = 71 := rfl
  rw [number, same, Expr.value, BitVec.toNat_ofInt]
  omega

theorem number_next {c d : Expr × Expr} (next : Next c d) (named : Named [c, d]) :
    number w d = number w c + 1 ∧ number w d ≤ names.length := by
  obtain ⟨n, first, second⟩ := follows_eq_true.1 next
  have bounds := named c (by simp) n first
  have bounds' := named d (by simp) (n + 1) second
  have := number_constant (w := w) first bounds.1 bounds.2
  have := number_constant (w := w) second bounds'.1 bounds'.2
  omega

theorem numbers_of_chain {c : Expr × Expr} {run : List (Expr × Expr)}
    (chain : (c :: run).IsChain Next) (named : Named (c :: run)) :
    (c :: run).map (number w) = range' (number w c) (run.length + 1) ∧
      (run = [] ∨ number w c + run.length ≤ names.length) := by
  induction run generalizing c with
  | nil => exact ⟨rfl, .inl rfl⟩
  | cons d run ih =>
    rw [isChain_cons_cons] at chain
    obtain ⟨next, high⟩ := number_next (w := w) chain.1 fun e mem => named e (by
      simp only [mem_cons, not_mem_nil, or_false] at mem ⊢
      tauto)
    obtain ⟨rest, bound⟩ := ih chain.2 fun e mem => named e (mem_cons_of_mem _ mem)
    refine ⟨by rw [map_cons, rest, next]; rfl, .inr ?_⟩
    rcases bound with rfl | bound
    · simpa [next] using high
    · simp only [length_cons] at bound ⊢
      omega

end Row

/-- Each value that is known is the value of a cost, and has the name of that cost. -/
def Origin (costs : List (Expr × Expr)) (known : Known) : Prop :=
  ∀ k ∈ known, ∃ cost ∈ costs, k.value = cost.2 ∧ k.name = cost.1.pos ∧
    ∃ turned shiftAt, k.computed = cost.2.asOf turned shiftAt

section Run

variable {g : Game} {free : List Int} {start : Params} {costs : List (Expr × Expr)}
  {cost : Expr × Expr} {s t u : Session} {now mid : Loading} {known more : Known} {param : Int}
  {before : List Action} {own : List Patch} {done : List (Expr × Expr)} {r r' : Run}

/-- A parameter that is used again still holds the value that it is used for. -/
theorem inParam_right (valid : Valid g free start costs) (mem : cost ∈ costs)
    (late : cost.2.constant? = none) (ready : Ready free start s now)
    (holds : Holds start s now known) (origin : Origin costs known)
    (h : inParam known cost s = .ok (param, before, more) t) :
    Advances s now t (now.run g before) ∧ param ∉ t.params.free ∧
      (now.run g before).params param = cost.2.value start.world ∧
      Holds start t (now.run g before) more ∧ Origin costs more := by
  simp only [inParam, current, bind_eq_ok, get_eq_ok, pure_eq_ok] at h
  obtain ⟨_, _, ⟨_, _, ⟨rfl, rfl⟩, rfl, rfl⟩, h⟩ := h
  generalize found : known.param? _ = result at h
  cases result with
  | some param =>
    simp only [pure_eq_ok, Prod.mk.injEq] at h
    obtain ⟨⟨rfl, rfl, rfl⟩, rfl⟩ := h
    obtain ⟨k, isFirst, rfl⟩ := Option.map_eq_some_iff.1 found
    have inside := mem_of_find?_eq_some isFirst
    have isIt := find?_some isFirst
    obtain ⟨c, member, value, name, turned, shiftAt, computed⟩ := origin k inside
    have same : k.value.value start.world = cost.2.value start.world := by
      rw [Bool.or_eq_true, Bool.and_eq_true, beq_iff_eq] at isIt
      rcases isIt with same | ⟨place, isOwn⟩
      · rw [value]
        rw [computed] at same
        exact Expr.value_of_same _ _ _ (valid.fit c member) (valid.fit cost mem) same
      · have agree : c.1.pos = cost.1.pos := name.symm.trans place
        rw [value, valid.grouped c member cost mem agree (agree ▸ isOwn)]
    exact ⟨.refl ready.pool ready.idle, (holds k inside).1, (holds k inside).2.trans same, holds,
      origin⟩
  | none =>
    obtain ⟨advances, taken, value, holds, turned, shiftAt, rfl⟩ :=
      compute_right (valid.values cost mem late) ready holds h
    refine ⟨advances, taken, value, holds, ?_⟩
    rw [Origin, forall_mem_cons]
    exact ⟨⟨cost, mem, rfl, rfl, turned, shiftAt, rfl⟩, origin⟩

theorem field_param {name : Expr} {n : Int} (isParam : paramNumber? name = some n)
    (offset size : Nat) : field name offset size = pure (0, [], [⟨n, size, offset⟩]) := by
  unfold paramNumber? at isParam
  split at isParam
  · cases isParam
    rfl
  · cases isParam

theorem field_late {name : Expr} (late : name.constant? = none) (other : paramNumber? name = none)
    (offset size : Nat) : field name offset size =
      (intoParam compile name >>= fun (param, before) =>
        pure ((0 : Int), before, [(⟨param, size, offset⟩ : Patch)])) := by
  unfold field
  rw [other]
  cases name with
  | num => cases late
  | _ => rfl

/-- The number of the first cost, as it stands in the action in the end. -/
theorem field_right {name : Expr} {first : Int}
    (right : name.constant? = none → Right g free start name)
    (ready : Ready free start s now) (h : field name 5 2 s = .ok (first, before, own) t) :
    Advances s now t (now.run g before) ∧ (∀ p ∈ own, p.offset = 5 ∧ p.size = 2) ∧
      ∀ v last, Advances t (now.run g before) v last →
        PropertyRow.firstItem (own.map (Patch.written last.params)) first =
          (name.value start.world).toNat % 65536 := by
  cases known : name.constant? with
  | some n =>
    obtain ⟨p, rfl⟩ := Expr.constant?_eq_some.1 known
    simp only [field, pure_eq_ok, Prod.mk.injEq] at h
    obtain ⟨⟨rfl, rfl, rfl⟩, rfl⟩ := h
    refine ⟨.refl ready.pool ready.idle, forall_mem_nil _, fun v last _ => ?_⟩
    rw [map_nil, PropertyRow.firstItem_nil, Expr.value, BitVec.toNat_ofInt, Number.lowBytes,
      show Number.twoPow (8 * 2) = 65536 from rfl]
    omega
  | none =>
    cases isParam : paramNumber? name with
    | some n =>
      simp only [field_param isParam, pure_eq_ok, Prod.mk.injEq] at h
      obtain ⟨⟨rfl, rfl, rfl⟩, rfl⟩ := h
      refine ⟨.refl ready.pool ready.idle, by simp, fun v last advances => ?_⟩
      rw [map_singleton, Patch.written, PropertyRow.firstItem_written,
        (right known).direct n isParam _ (advances.ready ready).unchanged]
    | none =>
      simp only [field_late known isParam, bind_eq_ok, pure_eq_ok, Prod.mk.injEq] at h
      obtain ⟨⟨param, actions⟩, _, computed, ⟨rfl, rfl, rfl⟩, rfl⟩ := h
      obtain ⟨advances, taken, value⟩ := intoParam_right (right known) ready computed
      refine ⟨advances, by simp, fun v last more => ?_⟩
      rw [map_singleton, Patch.written, PropertyRow.firstItem_written, more.other _ taken, value]

/-- The values of a run up to some cost, behind the actions for the number of its first cost. -/
structure Filled (g : Game) (start : Params) (costs : List (Expr × Expr)) (now : Loading)
    (s : Session) (mid : Loading) (own : List Patch) (done : List (Expr × Expr)) (t : Session)
    (r : Run) : Prop where
  advances : Advances s mid t (now.run g r.before)
  holds : Holds start t (now.run g r.before) r.known
  origin : Origin costs r.known
  filled : ∃ patches, ∃ vs : List Int, r.patches = own ++ patches ∧
    r.values.map (·.1) = vs.map .number ∧
      Patched t.params.free (now.run g r.before).params patches (vs.flatMap (Number.bytes · 1))
        (done.map (amount start.world))

theorem addValue_late (late : cost.2.constant? = none) (r : Run) : addValue r cost =
    (inParam r.known cost >>= fun (param, before, known) => pure {
      before := r.before ++ before
      patches := r.patches ++ [⟨param, 1, 8 + r.values.length⟩]
      values := r.values ++ [(.number 0, none)]
      known }) := by
  obtain ⟨name, value⟩ := cost
  cases value with
  | num => cases late
  | _ => rfl

theorem addValue_filled (valid : Valid g free start costs) (mem : cost ∈ costs)
    (ready : Ready free start s mid) (filled : Filled g start costs now s mid own done t r)
    (h : addValue r cost t = .ok r' u) :
    Filled g start costs now s mid own (done ++ [cost]) u r' := by
  obtain ⟨advances, holds, origin, patches, vs, own, values, patched⟩ := filled
  cases known : cost.2.constant? with
  | some v =>
    obtain ⟨name, value⟩ := cost
    obtain ⟨p, rfl⟩ := Expr.constant?_eq_some.1 known
    simp only [addValue, pure_eq_ok] at h
    obtain ⟨rfl, rfl⟩ := h
    refine ⟨advances, holds, origin, patches, vs ++ [v], own, by simp [values], ?_⟩
    have low : amount start.world (name, .num v p) = Number.lowBytes v 1 := by
      rw [amount, Expr.value, BitVec.toNat_ofInt, Number.lowBytes_one]
      omega
    simpa [low] using patched.constant v
  | none =>
    simp only [addValue_late known, bind_eq_ok, pure_eq_ok] at h
    obtain ⟨⟨param, before, more⟩, _, isIn, rfl, rfl⟩ := h
    obtain ⟨step, taken, value, holds, origin⟩ := inParam_right valid mem known
      (advances.ready ready) holds origin isIn
    have placed := (patched.mono step.fewer step.other).patch taken 1
    rw [← Loading.run_append] at step value holds placed
    have length : (vs.flatMap (Number.bytes · 1)).length = r.values.length := by
      have := congrArg length values
      simp only [length_map] at this
      simp [Number.length_bytes, this]
    rw [length, value, Word.bytes_one] at placed
    refine ⟨advances.trans step, holds, origin, patches ++ [⟨param, 1, 8 + r.values.length⟩],
      vs ++ [0], ?_, by simp [values], ?_⟩
    · rw [own, append_assoc]
    · rw [flatMap_append, map_append]
      exact placed

theorem foldlM_filled (valid : Valid g free start costs) {run : List (Expr × Expr)}
    (sub : run ⊆ costs) (ready : Ready free start s mid)
    (filled : Filled g start costs now s mid own done t r)
    (h : run.foldlM addValue r t = .ok r' u) :
    Filled g start costs now s mid own (done ++ run) u r' := by
  induction run generalizing done t r with
  | nil =>
    rw [foldlM_nil, pure_eq_ok] at h
    obtain ⟨rfl, rfl⟩ := h
    rwa [append_nil]
  | cons cost run ih =>
    rw [foldlM_cons, bind_eq_ok] at h
    obtain ⟨r₁, t₁, first, rest⟩ := h
    rw [cons_subset] at sub
    have := ih sub.2 (addValue_filled valid sub.1 ready filled first) rest
    rwa [append_assoc, singleton_append] at this

theorem forM_same {α : Type} {f : α → Build PUnit} {xs : List α} {x : PUnit}
    (each : ∀ x s t, f x s = .ok ⟨⟩ t → t = s) (h : xs.forM f s = .ok x t) : t = s := by
  induction xs generalizing s with
  | nil => exact (pure_eq_ok.1 h).2.symm
  | cons x xs ih =>
    obtain ⟨_, u, first, rest⟩ := bind_eq_ok.1 h
    exact (ih rest).trans (each x s u first)

theorem valuesOf_eq_ok {n : Int} {values : List (PropertyValue × Option Position)} {size : Nat}
    {data : PropertyData} (h : Property.valuesOf n values size s = .ok data t) :
    data = .values n (values.map (·.1)) size ∧ t = s := by
  simp only [Property.valuesOf, bind_eq_ok, pure_eq_ok] at h
  obtain ⟨_, u, checked, rfl, rfl⟩ := h
  refine ⟨rfl, forM_same (fun x s t h => ?_) checked⟩
  obtain ⟨value, pos⟩ := x
  cases value with
  | number v =>
    by_cases high : Number.twoPow (8 * size) ≤ v
    · simp [high] at h
    · by_cases low : v < 0 && v + (Number.twoPow (8 * size) : Int).fdiv 2 < 0
      · simp [high, low] at h
      · simp [high, low] at h
        exact h.symm
  | _ => exact (pure_eq_ok.1 h).2.symm

/-- What an action with base costs must show of some costs. -/
structure Shows (w : World) (run : List (Expr × Expr)) (row : PropertyRow) : Prop where
  feature : row.feature = 8
  property : row.number = 8
  count : row.count = row.values.length
  assigned : row.assigned = run.map fun cost => (number w cost, amount w cost)

theorem runActions_row (valid : Valid g free start costs) {run : List (Expr × Expr)}
    (sub : run ⊆ costs) (nonempty : run ≠ []) (chain : run.IsChain Next)
    (ready : Ready free start s now) (holds : Holds start s now known)
    (origin : Origin costs known) {actions : List Action}
    (h : runActions known run s = .ok (actions, more) t) :
    let last := now.run g actions
    Ready free start t last ∧ Holds start t last more ∧ Origin costs more ∧
      ∃ row, Shows start.world run row ∧
        ∀ v, last.log.rows v = now.log.rows v ++ [some row] := by
  obtain ⟨⟨name, value⟩, rest, rfl⟩ := exists_cons_of_ne_nil nonempty
  simp only [runActions, bind_eq_ok, pure_eq_ok, Prod.mk.injEq] at h
  obtain ⟨⟨first, before, own⟩, s₁, isField, r, s₂, folded, data, s₃, isData, ⟨made, rfl⟩, rfl⟩ := h
  obtain ⟨rfl, rfl⟩ := valuesOf_eq_ok isData
  obtain ⟨advances, atNumber, isNumber⟩ :=
    field_right (valid.numbers _ (sub mem_cons_self)) ready isField
  have empty : Filled g start costs now s₁ (now.run g before) own [] s₁ ⟨before, own, [], known⟩ :=
    ⟨.refl advances.pool advances.idle, holds.advance advances, origin, [], [],
      (append_nil _).symm, rfl, .nil⟩
  obtain ⟨onwards, holds, origin, patches, vs, isOwn, values, patched⟩ :=
    foldlM_filled valid sub (advances.ready ready) empty folded
  rw [nil_append] at patched
  obtain ⟨numbers, bound⟩ :=
    numbers_of_chain (w := start.world) chain fun c mem => valid.named c (sub mem)
  let p : PropertyAction :=
    { feature := Property.gameFeature, first, count := (rest.length + 1 : Nat)
      properties := [.values 8 (vs.map .number) 1] }
  have together :
      actions = r.before ++ withPatches [] (own ++ patches) (.properties p) := by
    rw [← made, ← isOwn]
    simp [p, withPatches, values]
  obtain ⟨idle, params, rows⟩ := Loading.run_row (g := g) onwards.idle atNumber patched
    (PropertyAction.bytes_values (p := p) rfl)
  rw [← Loading.run_append, ← together] at idle params rows
  have whole := (advances.trans onwards).ready ready
  refine ⟨⟨whole.pool, idle, whole.fewer, params ▸ whole.unchanged⟩, ?_, origin, _, ?_,
    fun v => (rows v).trans (congrArg (· ++ _) ((onwards.rows v).trans (advances.rows v)))⟩
  · unfold Holds
    rw [params]
    exact holds
  · have count : Number.lowBytes p.count 1 = rest.length + 1 := by
      have limit : names.length = 71 := rfl
      have short : rest.length ≤ 71 := by
        rcases bound with rfl | bound
        · exact Nat.zero_le _
        · omega
      rw [Number.lowBytes_one]
      simp only [p]
      omega
    refine ⟨rfl, rfl, by rw [count, length_map, length_cons], ?_⟩
    rw [PropertyRow.assigned, isNumber _ _ onwards, length_map, length_cons, ← zip_map', numbers]
    rfl

/-- Each run is one action, and what is known from one run is used in the next ones. -/
theorem foldlM_rows (valid : Valid g free start costs) {todo : List (List (Expr × Expr))}
    (inRow : ∀ run ∈ todo, run ≠ [] ∧ run.IsChain Next) (sub : todo.flatten ⊆ costs)
    {before actions : List Action} (ready : Ready free start s (now.run g before))
    (holds : Holds start s (now.run g before) known) (origin : Origin costs known)
    (h : (todo.foldlM (fun (done, known) run => do
      let (more, known) ← runActions known run
      pure (done ++ more, known)) (before, known) : Build (List Action × Known)) s =
        .ok (actions, more) t) :
    Ready free start t (now.run g actions) ∧ ∃ rows,
      Forall₂ (Shows start.world) todo rows ∧
        ∀ v, (now.run g actions).log.rows v = (now.run g before).log.rows v ++ rows.map some := by
  induction todo generalizing before s known with
  | nil =>
    simp only [foldlM_nil, pure_eq_ok, Prod.mk.injEq] at h
    obtain ⟨⟨rfl, rfl⟩, rfl⟩ := h
    exact ⟨ready, [], .nil, fun v => (append_nil _).symm⟩
  | cons run todo ih =>
    simp only [foldlM_cons, bind_eq_ok, pure_eq_ok] at h
    obtain ⟨_, _, ⟨⟨one, known'⟩, s', ran, rfl, rfl⟩, h⟩ := h
    rw [forall_mem_cons] at inRow
    rw [flatten_cons, append_subset] at sub
    obtain ⟨ready, holds, origin, row, shows, added⟩ :=
      runActions_row valid sub.1 inRow.1.1 inRow.1.2 ready holds origin ran
    rw [← Loading.run_append] at ready holds added
    obtain ⟨last, rows, all, rest⟩ := ih inRow.2 sub.2 ready holds origin h
    refine ⟨last, row :: rows, .cons shows all, fun v => ?_⟩
    rw [rest, added, append_assoc, singleton_append, map_cons]

end Run

section Whole

variable {g : Game} {s t : Session} {costs : List (Expr × Expr)} {start : Loading}

/-- The ways in which a number or a value is known to be computed right. -/
inductive Computed (g : Game) (free : List Int) (start : Params) (e : Expr) : Prop
  /-- It has no choices and reads parameters that no value in between is put into. -/
  | straight (straight : e.Straight Operator.exact) (defined : e.Defined IsKept start)
    (turned : g.Turns e.turns)
  | right (right : Right g free start e) (fit : e.CountsFit)

theorem Computed.isRight {free : List Int} {params : Params} {e : Expr}
    (fit : ∀ n ∈ free, 0x40 ≤ n ∧ n < 0x80) (computed : Computed g free params e) :
    Right g free params e ∧ e.CountsFit := by
  cases computed with
  | straight straight defined turned =>
    exact ⟨right_of_straight straight defined fit turned, straight.countsFit (by decide)⟩
  | right right fit => exact ⟨right, fit⟩

theorem valid_of_computed (pool : Pool s) {params : Params} (named : Named costs)
    (grouped : Grouped costs) (computed : ∀ cost ∈ costs, ∀ e ∈ [cost.1, cost.2],
      e.constant? = none → Computed g s.params.free params e) :
    Valid g s.params.free params costs where
  named := named
  grouped := grouped
  fit c mem := by
    cases known : c.2.constant? with
    | some n =>
      obtain ⟨p, same⟩ := Expr.constant?_eq_some.1 known
      rw [same]
      trivial
    | none => exact ((computed c mem c.2 (by simp) known).isRight pool.fit).2
  numbers c mem late := ((computed c mem c.1 (by simp) late).isRight pool.fit).1
  values c mem late := ((computed c mem c.2 (by simp) late).isRight pool.fit).1

theorem rows_of_shows {w : World} {runs : List (List (Expr × Expr))} {rows : List PropertyRow}
    (all : Forall₂ (Shows w) runs rows) :
    (∀ row ∈ rows, row.feature = 8 ∧ row.number = 8 ∧ row.count = row.values.length) ∧
      rows.flatMap PropertyRow.assigned =
        runs.flatten.map fun cost => (number w cost, amount w cost) := by
  induction all with
  | nil => exact ⟨forall_mem_nil _, rfl⟩
  | cons shows _ ih =>
    rw [forall_mem_cons, flatMap_cons, shows.assigned, ih.2, flatten_cons, map_append]
    exact ⟨⟨⟨shows.feature, shows.property, shows.count⟩, ih.1⟩, rfl⟩

/-- Every base cost gets its value once, in order: the actions that are read with all their patches
assign to the number of each cost the low byte of its value, with numbers and values as they were
before the first action, and change no parameter but free ones. -/
theorem each_cost_set_in_order (pool : Pool s) (named : Named costs) (grouped : Grouped costs)
    (computed : ∀ cost ∈ costs, ∀ e ∈ [cost.1, cost.2],
      e.constant? = none → Computed g s.params.free start.params e)
    (idle : start.Idle) {written : List Action} (h : actions costs s = .ok written t) :
    (start.run g written).Idle ∧
      (∀ n, n ∉ s.params.free → (start.run g written).params n = start.params n) ∧
      ∃ rows : List PropertyRow,
        (∀ v, (start.run g written).log.rows v = start.log.rows v ++ rows.map some) ∧
        (∀ row ∈ rows, row.feature = 8 ∧ row.number = 8 ∧ row.count = row.values.length) ∧
        rows.flatMap PropertyRow.assigned = costs.map fun cost =>
          (number start.params.world cost, amount start.params.world cost) := by
  have valid := valid_of_computed pool named grouped computed
  simp only [actions, bind_eq_ok, pure_eq_ok] at h
  obtain ⟨_, s₁, saved, ⟨done, known⟩, s₂, folded, _, _, -, rfl, rfl⟩ := h
  obtain rfl := modify_eq_ok.1 saved
  obtain ⟨flat, inRow⟩ := runs_spec costs
  have ready : Ready s.params.free start.params { s with params := s.params.save } start :=
    ⟨pool.saved, idle, Subset.refl _, fun _ _ => rfl⟩
  obtain ⟨ready, rows, all, shown⟩ := foldlM_rows valid inRow (by rw [flat]; exact Subset.refl _)
    ready (forall_mem_nil _) (forall_mem_nil _) folded
  obtain ⟨heads, assigned⟩ := rows_of_shows all
  rw [flat] at assigned
  exact ⟨ready.idle, ready.unchanged, rows, shown, heads, assigned⟩

end Whole

/-- Two costs of a group, a cost with a count of its own, a constant one, and one whose number is
computed and whose value is that of the group. -/
def sharedCosts : List (Expr × Expr) :=
  let place (token : Nat) : Option Position := some { place := .line "input.nml" token, token }
  let product (p : Option Position) : Expr :=
    .binary .add (.binary .mul (paramOf 2) (paramOf 3) p) (.num 8 none) p
  [(.num 16 (place 1), product (place 2)), (.num 17 (place 1), product (place 2)),
    (.num 1 none, .binary .shiftRight (paramOf 40) (.num 2 (place 4)) none),
    (.num 2 none, .num 12 none),
    (.binary .add (paramOf 4) (paramOf 5) none, product (place 6))]

theorem shared_costs_set : ∃ written t,
    Named sharedCosts ∧ Grouped sharedCosts ∧ actions sharedCosts {} = .ok written t ∧
      ∃ rows : List PropertyRow, (∀ v, (({ params := Word.ofInt } : Loading).run
          (silentGame fun _ => true) written).log.rows v = rows.map some) ∧
        rows.flatMap PropertyRow.assigned = [(16, 14), (17, 14), (1, 10), (2, 12), (9, 14)] := by
  have named : Named sharedCosts := by unfold Named; decide
  have grouped : Grouped sharedCosts := by
    simp [Grouped, sharedCosts, Expr.pos, Position.isOwn]
  have straight : ∀ cost ∈ sharedCosts, ∀ e ∈ [cost.1, cost.2],
      e.Straight Operator.exact ∧ e.Defined IsKept Word.ofInt := by
    have reading (n : Int) : (paramOf n).Straight Operator.exact := .param _ (.num _ _)
    have constant (n : Int) (p : Option Position) : (Expr.num n p).Straight Operator.exact ∧
        (Expr.num n p).Defined IsKept Word.ofInt := ⟨.num n p, trivial⟩
    have product (p : Option Position) :
        (Expr.binary .add (.binary .mul (paramOf 2) (paramOf 3) p) (.num 8 none) p).Straight
            Operator.exact ∧
          (Expr.binary .add (.binary .mul (paramOf 2) (paramOf 3) p) (.num 8 none) p).Defined
            IsKept Word.ofInt :=
      ⟨.binary _ (by decide) (.binary _ (by decide) (reading 2) (reading 3)) (.num _ _),
        ⟨⟨trivial, .inl (by decide)⟩, trivial, .inl (by decide)⟩, trivial⟩
    simp only [sharedCosts, forall_mem_cons, not_mem_nil, false_implies, implies_true, and_true]
    exact ⟨⟨constant _ _, product _⟩, ⟨constant _ _, product _⟩,
      ⟨constant _ _, .shift _ _ (by decide) (reading 40) (by decide) (by decide),
        ⟨trivial, .inl (by decide)⟩, trivial⟩,
      ⟨constant _ _, constant _ _⟩,
      ⟨.binary _ (by decide) (reading 4) (reading 5), ⟨trivial, .inl (by decide)⟩, trivial,
        .inl (by decide)⟩, product _⟩
  obtain ⟨written, t, h⟩ := ok_of_works (m := actions sharedCosts) (s := {}) (by decide +kernel)
  refine ⟨_, _, named, grouped, h, ?_⟩
  have idle : ({ params := Word.ofInt } : Loading).Idle := ⟨rfl, rfl⟩
  obtain ⟨-, -, rows, shown, -, assigned⟩ := each_cost_set_in_order (g := silentGame fun _ => true)
    ⟨paramsFit_new, nodup_new⟩ named grouped (fun cost mem e inside _ =>
      .straight (straight cost mem e inside).1 (straight cost mem e inside).2 fun _ _ _ => rfl)
    idle h
  exact ⟨rows, shown, assigned⟩

/-- A number that is read from a parameter for values in between is not the number any more behind
one of these values. -/
theorem number_read_behind_value : ∃ written t, ∃ rows : List PropertyRow,
    ∃ costs : List (Expr × Expr),
    costs = [(.num 1 none, .binary .add (paramOf 2) (.num 8 none) none),
      (paramOf 127, .num 5 none)] ∧
    actions costs {} = .ok written t ∧
    (({ params := Word.ofInt } : Loading).run (silentGame t.hasTurned) written).log.rows {} =
      rows.map some ∧
    rows.flatMap PropertyRow.assigned = [(1, 10), (10, 5)] ∧
    costs.map (fun cost => (number (Params.world Word.ofInt) cost,
      amount (Params.world Word.ofInt) cost)) = [(1, 10), (127, 5)] := by
  refine ⟨_, _, [⟨8, 1, 1, 8, [10]⟩, ⟨8, 1, 10, 8, [5]⟩], _, rfl, rfl, ?_, rfl, rfl⟩
  rfl

end BaseCost

end NewGrf
