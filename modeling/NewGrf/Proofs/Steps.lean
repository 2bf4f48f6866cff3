import NewGrf.Proofs.Straight
import NewGrf.Proofs.Temporaries

open List

namespace NewGrf

open Build

/-- All counts that stand at these positions alone are turned in the end. -/
def Game.Turns (g : Game) (positions : List Position) : Prop :=
  ∀ p ∈ positions, p.isOwn = true → g.turned (some p) = true

namespace Assign

/-- The operators that steps compute in some way. -/
def stepwise : List Operator := Operator.exact ++ Operator.orders

/-- The parameters that a step can read while others are free for values in between. -/
def Readable (free : List Int) (n : Int) : Prop := 0 ≤ n ∧ n < 0xFF ∧ n ∉ free

variable {free : List Int} {n target : Int} {params : Params} {data : Option Int} {v : Word}
  {g : Game} {a b : Expr} {s t : Session} {turns : List Position} {op : Operator}
  {p : Option Position}

theorem Readable.mono {fewer} (within : fewer ⊆ free)
    (readable : Readable free n) : Readable fewer n :=
  ⟨readable.1, readable.2.1, fun mem => readable.2.2 (within mem)⟩

theorem IsParam.readable (isParam : IsParam n) (apart : n ∉ free) : Readable free n :=
  ⟨isParam.1, Int.lt_trans isParam.2 (by decide), apart⟩

/-- Actions that compute a word for an expression into a target, and change nothing else but
parameters for values in between. -/
structure Sets (g : Game) (target : Int) (value : Expr) (s t : Session) (actions : List Action)
    (word : Params → Word) : Prop where
  settles : Settles s t value.turns
  runs : ∀ st : Loading, st.Idle → value.Reads (Readable s.params.free) st.params →
    g.Turns value.turns → st.Changes g actions (fun n => n = target ∨ n ∈ s.params.free) ∧
      (st.run g actions).params target = word st.params

/-- Assignments compiled in this way leave in the target what the steps compute. -/
def LeavesComputed (g : Game) (compile : Compile) : Prop :=
  ∀ ⦃target : Int⦄ ⦃value : Expr⦄ ⦃s t : Session⦄ ⦃actions : List Action⦄ (p q : Option Position),
    compile (.param (.num target p) q) value s = .ok actions t → value.Straight stepwise →
    IsParam target → target ∉ s.params.free → Pool s →
    Sets g target value s t actions fun params => value.computed params

/-- A run for an expression changes only parameters for values in between. -/
def Runs (g : Game) (s : Session) (e : Expr) (actions : List Action)
    (post : (before after : Params) → Prop) : Prop :=
  ∀ st : Loading, st.Idle → e.Reads (Readable s.params.free) st.params → g.Turns e.turns →
    st.Changes g actions (· ∈ s.params.free) ∧ post st.params (st.run g actions).params

/-- A step finds a word as data, or in a parameter. -/
def Held (free : List Int) (params : Params) (n : Int) (data : Option Int) (v : Word) : Prop :=
  (n = 0xFF ∧ ∃ d, data = some d ∧ v = .ofInt d) ∨
    (Readable free n ∧ data = none ∧ params n = v)

theorem Held.later {later} (held : Held free params n data v)
    (same : ∀ m, m ∉ free → later m = params m) :
    Held free later n data v := by
  rcases held with isData | ⟨readable, none, value⟩
  · exact .inl isData
  · exact .inr ⟨readable, none, (same n readable.2.2).trans value⟩

theorem result_of_held (log : Log) {a : ParamStep}
    {free'} {d d' : Option Int} {w} (left : Held free params a.left d v)
    (right : Held free' params a.right d' w) (data : a.data = (d <|> d'))
    (one : d.isNone = false → d' = none) (inside : a.op = .assign → a.right ≠ 0xFE)
    (turned : ∀ p, a.count = some p → p.isOwn = true → g.turned (some p) = true) :
    a.result g log params = a.op.assigned v w := by
  have word : a.word g = .ofInt (a.data.getD 0) := by
    unfold ParamStep.word
    cases count : a.count with
    | none => rfl
    | some p =>
      by_cases own : p.isOwn = true
      · simp [turned p count own]
      · simp [own]
  have read {n : Int} {free : List Int} (readable : Readable free n) :
      a.operand g params n = params n := if_neg (by have := readable.2.1; omega)
  have own : ¬ (a.op = .assign ∧ a.right = 0xFE) := fun both => inside both.1 both.2
  have immediate : a.operand g params 0xFF = .ofInt (a.data.getD 0) := (if_pos rfl).trans word
  rcases left with ⟨isData, v, rfl, rfl⟩ | ⟨readable, rfl, rfl⟩
  · obtain rfl := one rfl
    rcases right with ⟨-, _, none, -⟩ | ⟨readable', -, rfl⟩
    · cases none
    · rw [ParamStep.result, if_neg own, read readable', isData, immediate, data]
      rfl
  · rcases right with ⟨isData, w, rfl, rfl⟩ | ⟨readable', rfl, rfl⟩
    · rw [ParamStep.result, if_neg own, read readable, isData, immediate, data]
      rfl
    · rw [ParamStep.result, if_neg own, read readable, read readable']

theorem result_move (log : Log) (held : Held free params n data v) :
    ({ target, left := n, op := .assign, right := 0, data } : ParamStep).result g log params = v :=
  have right : Held [] params 0 none (params 0) :=
    .inr ⟨⟨by decide, by decide, not_mem_nil⟩, rfl, rfl⟩
  result_of_held log held right (by cases data <;> rfl) (fun _ => rfl)
    (fun _ => (by decide : (0 : Int) ≠ 0xFE)) (by simp)

/-- A second run finds what the first one has computed, and computes what it would have computed at
first. -/
theorem Runs.andThen {as bs left right} (first : Runs g s a as left)
    (took : Took s t turns) (second : Runs g t b bs right) (straight : b.Straight stepwise)
    {st : Loading} (idle : st.Idle) (readsFirst : a.Reads (Readable s.params.free) st.params)
    (readsSecond : b.Reads (Readable s.params.free) st.params)
    (turnedFirst : g.Turns a.turns) (turnedSecond : g.Turns b.turns) :
    st.Changes g (as ++ bs) (· ∈ s.params.free) ∧ ∃ between, left st.params between ∧
      right between (st.run g (as ++ bs)).params ∧ b.computed between = b.computed st.params ∧
      ∀ n, n ∉ t.params.free → (st.run g (as ++ bs)).params n = between n := by
  obtain ⟨changes, atFirst⟩ := first st idle readsFirst turnedFirst
  obtain ⟨reads, same⟩ := straight.unnoticed readsSecond fun n may => changes.other n may.2.2
  obtain ⟨changes', atSecond⟩ := second _ changes.idle
    (straight.reads_mono reads fun _ => Readable.mono took.subset) turnedSecond
  refine ⟨changes.append (changes'.mono fun n mem => took.subset mem), _, atFirst, ?_, same, ?_⟩
  · rw [Loading.run_append]
    exact atSecond
  · rw [Loading.run_append]
    exact changes'.other

section Parts

variable {g : Game} {compile : Compile} {s t : Session} {e : Expr} {actions : List Action}

theorem intoParam_cases (pool : Pool s) (h : intoParam compile e s = .ok (n, actions) t) :
    ∃ u, Took s u [] ∧ s.params.free = n :: u.params.free ∧ Pool u ∧ IsParam n ∧
      n ∉ u.params.free ∧ compile (.param (.num n none) none) e u = .ok actions t := by
  simp only [intoParam, bind_eq_ok, pure_eq_ok, Prod.mk.injEq] at h
  obtain ⟨n, u, popped, actions, u', compiled, ⟨rfl, rfl⟩, rfl⟩ := h
  obtain ⟨free, took⟩ := popParam_took popped
  have isParam : IsParam n := by
    have := pool.fit n (by simp [free])
    exact ⟨by omega, this.2⟩
  have apart : n ∉ u.params.free := by
    have nodup := pool.nodup
    rw [free] at nodup
    exact (nodup_cons.1 nodup).1
  rw [paramOf_eq isParam] at compiled
  exact ⟨u, took, free, took.pool pool, isParam, apart, compiled⟩

variable (sound : LeavesComputed g compile) (pool : Pool s) (straight : e.Straight stepwise)
include sound pool straight

theorem intoParam_sound (h : intoParam compile e s = .ok (n, actions) t) :
    Took s t e.turns ∧ IsParam n ∧ n ∉ t.params.free ∧
      Runs g s e actions fun before after => after n = e.computed before := by
  obtain ⟨u, took, free, pool', isParam, apart, compiled⟩ := intoParam_cases pool h
  have ⟨settles, runs⟩ := sound _ _ compiled straight isParam apart pool'
  refine ⟨took.trans settles.took, isParam, by rwa [settles.free], fun st idle reads turned => ?_⟩
  obtain ⟨changes, value⟩ := runs st idle
    (straight.reads_mono reads fun _ => Readable.mono took.subset) turned
  exact ⟨changes.mono fun m => by simp [free], value⟩

theorem intoParamUnlessOne_sound (h : intoParamUnlessOne compile e s = .ok (n, actions) t) :
    Took s t e.turns ∧ Runs g s e actions fun before after =>
      Readable t.params.free n ∧ after n = e.computed before := by
  cases known : paramNumber? e with
  | some k =>
    simp only [intoParamUnlessOne, known, pure_eq_ok, Prod.mk.injEq] at h
    obtain ⟨⟨rfl, rfl⟩, rfl⟩ := h
    unfold paramNumber? at known
    split at known
    · cases known
      exact ⟨.refl s, fun st idle reads _ => ⟨.nil idle, reads.2, rfl⟩⟩
    · cases known
  | none =>
    simp only [intoParamUnlessOne, known] at h
    obtain ⟨took, isParam, apart, runs⟩ := intoParam_sound sound pool straight h
    refine ⟨took, fun st idle reads turned => ?_⟩
    obtain ⟨changes, value⟩ := runs st idle reads turned
    exact ⟨changes, isParam.readable apart, value⟩

theorem operand_sound {dataFree} (h : operand compile dataFree e s = .ok (n, data, actions) t) :
    Took s t e.turns ∧ (dataFree = false → data = none) ∧
      Runs g s e actions fun before after =>
        Held t.params.free after n data (e.computed before) := by
  have computes (h : (intoParamUnlessOne compile e >>= fun x =>
      pure (x.1, none, x.2) : Build (Int × Option Int × List Action)) s =
        .ok (n, data, actions) t) : Took s t e.turns ∧ (dataFree = false → data = none) ∧
      Runs g s e actions fun before after =>
        Held t.params.free after n data (e.computed before) := by
    simp only [bind_eq_ok, pure_eq_ok, Prod.mk.injEq] at h
    obtain ⟨⟨n, actions⟩, u, computed, ⟨rfl, rfl, rfl⟩, rfl⟩ := h
    obtain ⟨took, runs⟩ := intoParamUnlessOne_sound sound pool straight computed
    refine ⟨took, fun _ => rfl, fun st idle reads turned => ?_⟩
    obtain ⟨changes, readable, value⟩ := runs st idle reads turned
    exact ⟨changes, .inr ⟨readable, rfl, value⟩⟩
  cases dataFree with
  | false => cases straight <;> exact computes h
  | true =>
    cases straight with
    | num v p =>
      obtain ⟨same, rfl⟩ := pure_eq_ok.1 h
      cases same
      exact ⟨.refl s, Bool.noConfusion, fun st idle _ _ => ⟨.nil idle, .inl ⟨rfl, v, rfl, rfl⟩⟩⟩
    | _ => exact computes h

theorem subexpression_sound {simple : Expr}
    (h : subexpression compile e s = .ok (simple, actions) t) :
    Took s t e.turns ∧ simple.turns = [] ∧ simple.Straight stepwise ∧
      Runs g s e actions fun before after =>
        simple.Reads (Readable t.params.free) after ∧
          simple.computed after = e.computed before := by
  unfold subexpression at h
  split at h
  · rename_i isSimple
    obtain ⟨same, rfl⟩ := pure_eq_ok.1 h
    cases same
    have turns : e.turns = [] := by
      cases straight with
      | num => rfl
      | param p inner =>
        cases inner with
        | num => rfl
        | _ => simp [Expr.isConstant, paramNumber?] at isSimple
      | _ => simp [Expr.isConstant, paramNumber?] at isSimple
    refine ⟨by rw [turns]; exact .refl s, turns, straight, fun st idle reads _ => ?_⟩
    exact ⟨.nil idle, reads, rfl⟩
  · simp only [bind_eq_ok, pure_eq_ok, Prod.mk.injEq] at h
    obtain ⟨⟨n, actions⟩, u, computed, ⟨rfl, rfl⟩, rfl⟩ := h
    obtain ⟨took, isParam, apart, runs⟩ := intoParam_sound sound pool straight computed
    rw [paramOf_eq isParam]
    refine ⟨took, rfl, .param _ (.num n _), fun st idle reads turned => ?_⟩
    obtain ⟨changes, value⟩ := runs st idle reads turned
    exact ⟨changes, ⟨trivial, isParam.readable apart⟩, value⟩

end Parts

/-- Once what comes before it is done, a prepared operation computes the word of an expression. It
may use the target until then. -/
structure Prepares (g : Game) (target : Int) (value : Expr) (s t : Session) (p : Prepared)
    (early : List Position) : Prop where
  took : Took s t early
  turns : ∀ q, value.turns.count q = (early ++ p.left.turns ++ p.right.turns).count q
  count : ∀ q, p.count = some q → q ∈ value.turns
  op : p.op ≠ .assign
  left : p.left.Straight stepwise
  right : p.right.Straight stepwise
  runs : ∀ st : Loading, st.Idle → value.Reads (Readable s.params.free) st.params →
    g.Turns value.turns → st.Changes g p.before (fun n => n = target ∨ n ∈ s.params.free) ∧
      p.left.Reads (Readable t.params.free) (st.run g p.before).params ∧
      p.right.Reads (Readable t.params.free) (st.run g p.before).params ∧
      p.op.assigned (p.left.computed (st.run g p.before).params)
        (p.right.computed (st.run g p.before).params) = value.computed st.params

section Operations

theorem straight_op (known : op ∈ stepwise)
    (left : a.Straight stepwise) (right : b.Straight stepwise) :
    (Expr.op op a b).Straight stepwise :=
  .binary _ known (left.atLeastAt _) (right.atLeastAt _)

theorem turns_binary (known : op ∈ stepwise) (a b : Expr) (p : Option Position) :
    (Expr.binary op a b p).turns = a.turns ++ b.turns := by
  simp only [stepwise, Operator.exact, Operator.orders, cons_append, nil_append,
    mem_cons, not_mem_nil, or_false] at known
  rcases known with rfl | rfl | rfl | rfl | rfl | rfl | rfl | rfl | rfl | rfl | rfl | rfl | rfl |
    rfl <;> simp [Expr.turns]

theorem turns_op (known : op ∈ stepwise) (a b : Expr) :
    (Expr.op op a b).turns = a.turns ++ b.turns := by
  rw [Expr.op, turns_binary known, Expr.turns_atLeastAt, Expr.turns_atLeastAt]

variable {g : Game} {compile : Compile} {s t u : Session} {a b value other : Expr}
  {target : Int} {actions more : List Action} {q₁ q₂ : Option Position}

variable {word : Params → Word} {f : Word → Word}

theorem Sets.congr (sets : Sets g target other s t actions word)
    (turns : ∀ q, value.turns.count q = other.turns.count q)
    (reads : ∀ may params, value.Reads may params → other.Reads may params) :
    Sets g target value s t actions word := by
  refine ⟨⟨sets.settles.free, sets.settles.given, sets.settles.labels,
    fun q => by rw [sets.settles.turned, turns]⟩, fun st idle read turned =>
      sets.runs st idle (reads _ _ read) fun q mem => turned q ?_⟩
  rw [← count_pos_iff, turns]
  exact count_pos_iff.2 mem

/-- A second assignment may read the target of the first one. -/
theorem Sets.then (first : Sets g target value s t actions word)
    (second : Sets g target other t u more fun params => other.computed params)
    (turns : other.turns = [])
    (reads : ∀ params, other.Reads (Readable s.params.free) params)
    (computes : ∀ params : Params, other.computed params = f (params target)) :
    Sets g target value s u (actions ++ more) fun params => f (word params) := by
  refine ⟨⟨second.settles.free.trans first.settles.free,
    second.settles.given.trans first.settles.given,
    second.settles.labels.trans first.settles.labels, fun q => ?_⟩, fun st idle read turned => ?_⟩
  · rw [second.settles.turned, first.settles.turned, turns, count_nil, Nat.add_zero]
  · obtain ⟨changes, value⟩ := first.runs st idle read turned
    rw [← first.settles.free] at reads
    obtain ⟨changes', value'⟩ := second.runs _ changes.idle (reads _) (by simp [Game.Turns, turns])
    rw [first.settles.free] at changes'
    refine ⟨changes.append changes', ?_⟩
    rw [Loading.run_append, value', computes, value]

/-- The target and constants are all that is left to read. -/
theorem Sets.prepares {p : Prepared} (isParam : IsParam target) (apart : target ∉ s.params.free)
    (sets : Sets g target value s t p.before word) (count : p.count = none) (op : p.op ≠ .assign)
    (left : p.left = .param (.num target q₁) q₂ ∨ ∃ v, p.left = .int v)
    (right : p.right = .param (.num target q₁) q₂ ∨ ∃ v, p.right = .int v)
    (computes : ∀ params : Params,
      p.op.assigned (p.left.computed params) (p.right.computed params) = f (params target))
    (same : ∀ params, f (word params) = value.computed params) :
    Prepares g target value s t p value.turns := by
  have straight {e : Expr} (h : e = .param (.num target q₁) q₂ ∨ ∃ v, e = .int v) :
      e.turns = [] ∧ e.Straight stepwise ∧ ∀ params, e.Reads (Readable t.params.free) params := by
    rcases h with rfl | ⟨v, rfl⟩
    · refine ⟨rfl, .param _ (.num _ _), fun _ => ⟨trivial, isParam.readable ?_⟩⟩
      rwa [sets.settles.free]
    · exact ⟨rfl, .num _ _, fun _ => trivial⟩
  obtain ⟨turnsLeft, straightLeft, readsLeft⟩ := straight left
  obtain ⟨turnsRight, straightRight, readsRight⟩ := straight right
  refine ⟨sets.settles.took, fun q => by simp [turnsLeft, turnsRight], by simp [count], op,
    straightLeft, straightRight, fun st idle reads turned => ?_⟩
  obtain ⟨changes, value⟩ := sets.runs st idle reads turned
  exact ⟨changes, readsLeft _, readsRight _, by rw [computes, value, same]⟩

/-- The sign of what is in the target. -/
theorem Sets.prepares_sign (isParam : IsParam target)
    (apart : target ∉ s.params.free) (sets : Sets g target value s t actions word)
    (computes : ∀ params, value.computed params = word params >>> 31) :
    Prepares g target value s t { op := .shiftLeftU, left := .param (.num target q₁) q₂
                                  right := .int (-31), before := actions } value.turns := by
  refine Sets.prepares (f := (· >>> 31)) isParam apart sets rfl (by simp) (.inl rfl)
    (.inr ⟨-31, rfl⟩)
    (fun params => ?_) fun params => (computes params).symm
  simp only [Expr.computed, Expr.int, Word.ofInt_signed32, Expr.constant?, Option.getD_some]
  rfl

variable (sound : LeavesComputed g compile) (isParam : IsParam target)
  (apart : target ∉ s.params.free) (pool : Pool s) (left : a.Straight stepwise)
  (right : b.Straight stepwise)
include sound isParam apart pool left right

theorem difference_sets (h : compile (.param (.num target q₁) q₂) (.op .sub a b) s = .ok actions t)
    (turns : ∀ q, value.turns.count q = a.turns.count q + b.turns.count q)
    (reads : ∀ may params, value.Reads may params → a.Reads may params ∧ b.Reads may params) :
    Sets g target value s t actions fun params => a.computed params - b.computed params := by
  have known : Operator.sub ∈ stepwise := by decide
  have sets := sound _ _ h (straight_op known left right) isParam apart pool
  have same (params : Params) : (Expr.op .sub a b).computed params =
      a.computed params - b.computed params := by
    simp only [Expr.op, Expr.computed, Expr.computed_atLeastAt, Operator.computed, Operator.run]
  simp only [same] at sets
  refine sets.congr (fun q => ?_) fun may params read => ?_
  · rw [turns, turns_op known, count_append]
  · simpa only [Expr.op, Expr.Reads, Expr.reads_atLeastAt] using reads may params read

/-- One is taken from a difference for an order that includes equality. -/
theorem lowered_sets (h : compile (.param (.num target q₁) q₂) (.op .sub a b) s = .ok actions t)
    (h' : compile (.param (.num target q₁) q₂) (.op .sub (.param (.num target q₁) q₂) (.int 1)) t =
      .ok more u)
    (turns : ∀ q, value.turns.count q = a.turns.count q + b.turns.count q)
    (reads : ∀ may params, value.Reads may params → a.Reads may params ∧ b.Reads may params) :
    Sets g target value s u (actions ++ more) fun params =>
      a.computed params - b.computed params - 1 := by
  have first := difference_sets sound isParam apart pool left right h turns reads
  have known : Operator.sub ∈ stepwise := by decide
  have self : (Expr.param (.num target q₁) q₂).Straight stepwise := .param _ (.num _ _)
  have second := sound _ _ h' (straight_op known self (.num _ _)) isParam
    (by rwa [first.settles.free]) (first.settles.took.pool pool)
  refine first.then (f := (· - 1)) second (turns_op known _ _) (fun params => ?_) fun params => ?_
  · simp only [Expr.op, Expr.Reads, Expr.reads_atLeastAt, Expr.constant?, Option.getD_some]
    exact ⟨⟨trivial, isParam.readable apart⟩, trivial⟩
  · simp only [Expr.op, Expr.computed, Expr.computed_atLeastAt, Expr.constant?, Option.getD_some,
      Operator.computed, Operator.run, Expr.int]
    rfl

/-- A word other than zero divided by itself is one. -/
theorem clamp_sets (h : compile (.param (.num target q₁) q₂) (.op .sub a b) s = .ok actions t)
    (h' : compile (.param (.num target q₁) q₂)
      (.op .div (.param (.num target q₁) q₂) (.param (.num target q₁) q₂)) t = .ok more u)
    (turns : ∀ q, value.turns.count q = a.turns.count q + b.turns.count q)
    (reads : ∀ may params, value.Reads may params → a.Reads may params ∧ b.Reads may params) :
    Sets g target value s u (actions ++ more) fun params =>
      Word.ofTruth (a.computed params - b.computed params != 0) := by
  have first := difference_sets sound isParam apart pool left right h turns reads
  have known : Operator.div ∈ stepwise := by decide
  have self : (Expr.param (.num target q₁) q₂).Straight stepwise := .param _ (.num _ _)
  have second := sound _ _ h' (straight_op known self self) isParam
    (by rwa [first.settles.free]) (first.settles.took.pool pool)
  refine first.then (f := fun w => Word.ofTruth (w != 0)) second (turns_op known _ _)
    (fun params => ?_) fun params => ?_
  · simp only [Expr.op, Expr.Reads, Expr.reads_atLeastAt, Expr.constant?, Option.getD_some]
    exact ⟨⟨trivial, isParam.readable apart⟩, trivial, isParam.readable apart⟩
  · simp only [Expr.op, Expr.computed, Expr.computed_atLeastAt, Expr.constant?, Option.getD_some,
      Operator.computed, Operator.run, Word.quotient_self]

theorem ne_prepares (h : compile (.param (.num target q₁) q₂) (.op .sub a b) s = .ok actions t) :
    Prepares g target (.binary .ne a b p) s t
      { op := .div, left := .param (.num target q₁) q₂, right := .param (.num target q₁) q₂
        before := actions } (Expr.binary .ne a b p).turns := by
  have sets : Sets g target (.binary .ne a b p) s t actions _ :=
    difference_sets sound isParam apart pool left right h
      (fun q => by rw [turns_binary (by decide), count_append]) fun _ _ reads => reads
  refine Sets.prepares (f := fun w => Word.quotient w w) isParam apart sets rfl (by simp)
    (.inl rfl) (.inl rfl) (fun params => rfl) fun params => ?_
  simp only [Word.quotient_self, Expr.computed, Operator.computed, Operator.run,
    Word.sub_bne_zero]

theorem eq_prepares (h : compile (.param (.num target q₁) q₂) (.op .sub a b) s = .ok actions t)
    (h' : compile (.param (.num target q₁) q₂)
      (.op .div (.param (.num target q₁) q₂) (.param (.num target q₁) q₂)) t = .ok more u) :
    Prepares g target (.binary .eq a b p) s u
      { op := .sub, left := .int 1, right := .param (.num target q₁) q₂
        before := actions ++ more } (Expr.binary .eq a b p).turns := by
  have sets : Sets g target (.binary .eq a b p) s u (actions ++ more) _ :=
    clamp_sets sound isParam apart pool left right h h'
      (fun q => by rw [turns_binary (by decide), count_append]) fun _ _ reads => reads
  refine Sets.prepares (f := fun w => 1 - w) isParam apart sets rfl (by simp) (.inr ⟨1, rfl⟩)
    (.inl rfl)
    (fun params => rfl) fun params => ?_
  simp only [Expr.computed, Operator.computed, Operator.run, Word.sub_bne_zero]
  exact Word.one_sub_ofTruth _ _

end Operations

section Xor

variable {g : Game} {compile : Compile} {s s₁ s₂ s₃ s₄ : Session} {a b a' b' : Expr}
  {first second third fourth : List Action} {either both : Int}

/-- The bits that are in one of two words, less those in both. -/
theorem xor_prepares (sound : LeavesComputed g compile)
    (pool : Pool s) (left : a.Straight stepwise) (right : b.Straight stepwise)
    (h₁ : subexpression compile a s = .ok (a', first) s₁)
    (h₂ : subexpression compile b s₁ = .ok (b', second) s₂)
    (h₃ : intoParam compile (.op .or a' b') s₂ = .ok (either, third) s₃)
    (h₄ : intoParam compile (.op .and a' b') s₃ = .ok (both, fourth) s₄) :
    Prepares g target (.binary .xor a b p) s s₄
      { op := .sub, left := paramOf either, right := paramOf both
        before := first ++ second ++ third ++ fourth } (Expr.binary .xor a b p).turns := by
  obtain ⟨took₁, turnsLeft, left', runs₁⟩ := subexpression_sound sound pool left h₁
  have pool₁ := took₁.pool pool
  obtain ⟨took₂, turnsRight, right', runs₂⟩ := subexpression_sound sound pool₁ right h₂
  have pool₂ := took₂.pool pool₁
  have straight (op : Operator) (known : op ∈ stepwise) : (Expr.op op a' b').Straight stepwise :=
    straight_op known left' right'
  have none (op : Operator) (known : op ∈ stepwise) : (Expr.op op a' b').turns = [] := by
    rw [turns_op known, turnsLeft, turnsRight, append_nil]
  have silent (op : Operator) (known : op ∈ stepwise) : g.Turns (Expr.op op a' b').turns := by
    rw [none op known]
    exact fun _ mem => nomatch mem
  obtain ⟨took₃, isParam, apart, runs₃⟩ := intoParam_sound sound pool₂ (straight .or (by decide)) h₃
  obtain ⟨took₄, isParam', apart', runs₄⟩ := intoParam_sound sound (took₃.pool pool₂)
    (straight .and (by decide)) h₄
  rw [none _ (by decide)] at took₃ took₄
  rw [paramOf_eq isParam, paramOf_eq isParam']
  refine ⟨(((took₁.trans took₂).trans took₃).trans took₄).congr fun q => ?_, fun q => ?_,
    by simp, by simp, .param _ (.num _ _), .param _ (.num _ _), fun st idle reads turned => ?_⟩
  · simp only [turns_binary (show Operator.xor ∈ stepwise by decide), append_nil]
  · simp only [Expr.turns, append_nil]
  have turnedLeft : g.Turns a.turns := fun q mem => turned q (by simp [Expr.turns, mem])
  have turnedRight : g.Turns b.turns := fun q mem => turned q (by simp [Expr.turns, mem])
  obtain ⟨changes, between, ⟨readsLeft, valueLeft⟩, ⟨readsRight, valueRight⟩, same, other⟩ :=
    runs₁.andThen took₁ runs₂ right idle reads.1 reads.2 turnedLeft turnedRight
  obtain ⟨readsLeft, sameLeft⟩ := left'.unnoticed readsLeft fun n may => other n may.2.2
  have readsLeft := left'.reads_mono readsLeft fun _ => Readable.mono took₂.subset
  have reads' (op : Operator) : (Expr.op op a' b').Reads (Readable s₂.params.free)
      (st.run g (first ++ second)).params := by
    simpa only [Expr.op, Expr.Reads, Expr.reads_atLeastAt] using ⟨readsLeft, readsRight⟩
  obtain ⟨changes', between', valueEither, valueBoth, same', other'⟩ :=
    runs₃.andThen took₃ runs₄ (straight .and (by decide)) changes.idle (reads' .or) (reads' .and)
      (silent .or (by decide)) (silent .and (by decide))
  have whole := changes.append
    (changes'.mono fun n mem => took₁.subset (took₂.subset mem))
  rw [← append_assoc] at whole
  rw [← Loading.run_append, ← append_assoc] at valueBoth other'
  refine ⟨whole.mono fun n => .inr, ⟨trivial, isParam.readable fun mem => apart (took₄.subset mem)⟩,
    ⟨trivial, isParam'.readable apart'⟩, ?_⟩
  simp only [Expr.op, Expr.computed, Expr.computed_atLeastAt, Operator.computed, Operator.run]
    at valueEither valueBoth same'
  simp only [Operator.assigned, Operator.run, Expr.computed, Expr.constant?, Option.getD_some,
    Operator.computed, other' _ apart, valueEither, valueBoth, same', sameLeft, valueLeft,
    valueRight, same]
  exact Word.or_sub_and _ _

end Xor

section Compile

-- All lemmas of this section take these two functions apart by their equations.
attribute [local simp] plain prepare

variable {g : Game} {compile : Compile} {s t : Session} {a b value : Expr} {target : Int}
  {actions : List Action} {q₁ q₂ : Option Position}

variable {pos : Option Position}

theorem prepares_self (other : op ≠ .assign) (left : a.Straight stepwise)
    (right : b.Straight stepwise)
    (turns : (Expr.binary op a b pos).turns = a.turns ++ b.turns)
    (computes : ∀ params : Params, op.assigned (a.computed params) (b.computed params) =
      op.computed (a.computed params) (b.computed params)) :
    Prepares g target (.binary op a b pos) s s { op, left := a, right := b } [] :=
  ⟨.refl s, fun q => by rw [turns]; rfl, by simp, other, left, right,
    fun st idle reads _ => ⟨.nil idle, reads.1, reads.2, computes _⟩⟩

/-- A shift to the right is one to the left by a count that is turned. -/
theorem prepares_turned {left : Operator} {done}
    (other : left ≠ .assign) (straight : a.Straight stepwise) (turned : turnCount p s = .ok done t)
    (turns : (Expr.binary op a (.num n p) pos).turns = a.turns ++ p.toList)
    (computes : ∀ w, left.assigned w (.ofInt (-n)) = op.computed w (.ofInt n)) :
    Prepares g target (.binary op a (.num n p) pos) s t
      { op := left, left := a, right := .num (-n) p, count := p } p.toList := by
  have took := turnCount_took turned
  refine ⟨took, fun q => ?_, fun q isCount => ?_, other, straight, .num _ _, fun st idle reads _ =>
    ⟨.nil idle, straight.reads_mono reads.1 fun _ => Readable.mono took.subset, trivial,
      computes _⟩⟩
  · rw [turns, count_append, Nat.add_comm]
    simp [Expr.turns]
  · obtain rfl : p = some q := isCount
    simp [turns]

theorem plain_num_sound {v}
    (h : plain compile (.param (.num target q₁) q₂) (.num v pos) s = .ok actions t) :
    Sets g target (.num v pos) s t actions fun params => (Expr.num v pos).computed params := by
  simp only [plain, saveParams, restoreParams, numberOf, targetNumber, withPatches,
    bind_eq_ok, modify_eq_ok, pure_eq_ok] at h
  obtain ⟨_, _, rfl, _, _, ⟨rfl, rfl⟩, _, _, ⟨rfl, rfl⟩, _, _, rfl, rfl, rfl⟩ := h
  have took := Took.refl { s with params := s.params.save }
  refine ⟨took.restored, fun st idle _ _ => ?_⟩
  have held : Held [] st.params 0xFF (some v) (.ofInt v) := .inl ⟨rfl, v, rfl, rfl⟩
  exact (Loading.Changes.nil idle).append_assign (.inl rfl) (result_move st.log held)

variable (sound : LeavesComputed g compile) (isParam : IsParam target)
  (apart : target ∉ s.params.free) (pool : Pool s)
include sound isParam apart pool

theorem prepare_sound {p} (straight : (Expr.binary op a b pos).Straight stepwise)
    (h : prepare compile (.param (.num target q₁) q₂) op a b s = .ok p t) :
    ∃ early, Prepares g target (.binary op a b pos) s t p early := by
  cases straight with
  | shift p _ isShift left low high =>
    cases op with
    | shiftLeft =>
      obtain ⟨rfl, rfl⟩ := pure_eq_ok.1 h
      exact ⟨[], prepares_self (by simp) left (.num _ _) (by simp [Expr.turns])
        fun params => Operator.assigned_shiftLeft low high _⟩
    | shiftRight =>
      simp only [prepare, bind_eq_ok, pure_eq_ok] at h
      obtain ⟨_, _, turned, rfl, rfl⟩ := h
      exact ⟨_, prepares_turned (by simp) left turned (by simp [Expr.turns])
        fun w => Operator.assigned_turned low high w⟩
    | shiftRightU =>
      simp only [prepare, bind_eq_ok, pure_eq_ok] at h
      obtain ⟨_, _, turned, rfl, rfl⟩ := h
      exact ⟨_, prepares_turned (by simp) left turned (by simp [Expr.turns])
        fun w => Operator.assigned_turnedU low high w⟩
    | _ => exact absurd isShift (by decide)
  | binary _ known left right =>
    have inOrder (q : Position) : (Expr.binary op a b pos).turns.count q =
        a.turns.count q + b.turns.count q := by rw [turns_binary known, count_append]
    have swapped (q : Position) : (Expr.binary op a b pos).turns.count q =
        b.turns.count q + a.turns.count q := by rw [inOrder, Nat.add_comm]
    cases op with
    | add | sub | mul | div | mod | and | or =>
      obtain ⟨rfl, rfl⟩ := pure_eq_ok.1 h
      exact ⟨[], prepares_self (by simp) left right (turns_binary known a b pos) fun _ => rfl⟩
    | xor =>
      simp only [prepare, bind_eq_ok, pure_eq_ok] at h
      obtain ⟨⟨_, _⟩, _, h₁, ⟨_, _⟩, _, h₂, ⟨_, _⟩, _, h₃, ⟨_, _⟩, _, h₄, rfl, rfl⟩ := h
      exact ⟨_, xor_prepares sound pool left right h₁ h₂ h₃ h₄⟩
    | ne =>
      simp only [prepare, bind_eq_ok, pure_eq_ok] at h
      obtain ⟨_, _, h₁, rfl, rfl⟩ := h
      exact ⟨_, ne_prepares sound isParam apart pool left right h₁⟩
    | eq =>
      simp only [prepare, bind_eq_ok, pure_eq_ok] at h
      obtain ⟨_, _, h₁, _, _, h₂, rfl, rfl⟩ := h
      exact ⟨_, eq_prepares sound isParam apart pool left right h₁ h₂⟩
    | lt =>
      simp only [prepare, bind_eq_ok, pure_eq_ok] at h
      obtain ⟨_, _, h₁, rfl, rfl⟩ := h
      exact ⟨_, (difference_sets sound isParam apart pool left right h₁ inOrder
        fun _ _ reads => reads).prepares_sign isParam apart fun _ => rfl⟩
    | gt =>
      simp only [prepare, bind_eq_ok, pure_eq_ok] at h
      obtain ⟨_, _, h₁, rfl, rfl⟩ := h
      exact ⟨_, (difference_sets sound isParam apart pool right left h₁ swapped
        fun _ _ reads => reads.symm).prepares_sign isParam apart fun _ => rfl⟩
    | le =>
      simp only [prepare, bind_eq_ok, pure_eq_ok] at h
      obtain ⟨_, _, h₁, _, _, ⟨_, _, h₂, rfl, rfl⟩, rfl, rfl⟩ := h
      exact ⟨_, (lowered_sets sound isParam apart pool left right h₁ h₂ inOrder
        fun _ _ reads => reads).prepares_sign isParam apart fun _ => rfl⟩
    | ge =>
      simp only [prepare, bind_eq_ok, pure_eq_ok] at h
      obtain ⟨_, _, h₁, _, _, ⟨_, _, h₂, rfl, rfl⟩, rfl, rfl⟩ := h
      exact ⟨_, (lowered_sets sound isParam apart pool right left h₁ h₂ swapped
        fun _ _ reads => reads.symm).prepares_sign isParam apart fun _ => rfl⟩
    | _ => exact absurd known (by decide)

/-- The operands of the last step are read when the target may have been used in between. -/
theorem plain_binary_sound (straight : (Expr.binary op a b pos).Straight stepwise)
    (h : plain compile (.param (.num target q₁) q₂) (.binary op a b pos) s = .ok actions t) :
    Sets g target (.binary op a b pos) s t actions
      fun params => (Expr.binary op a b pos).computed params := by
  simp only [plain, saveParams, restoreParams, numberOf, targetNumber, withPatches,
    bind_eq_ok, modify_eq_ok, pure_eq_ok] at h
  obtain ⟨_, _, rfl, _, _, ⟨rfl, rfl⟩, p, s₁, prepared, ⟨left, d, first⟩, s₂, atLeft,
    ⟨right, d', second⟩, s₃, atRight, _, _, ⟨rfl, rfl⟩, _, _, rfl, rfl, rfl⟩ := h
  obtain ⟨early, prepares⟩ :=
    prepare_sound (s := { s with params := s.params.save }) sound isParam apart pool.saved straight
      prepared
  have pool₁ := prepares.took.pool pool.saved
  obtain ⟨took₁, -, runs₁⟩ := operand_sound sound pool₁ prepares.left atLeft
  obtain ⟨took₂, free, runs₂⟩ := operand_sound sound (took₁.pool pool₁) prepares.right atRight
  have took := ((prepares.took.trans took₁).trans took₂).congr prepares.turns
  refine ⟨took.restored, fun st idle reads turned => ?_⟩
  have turnedPart {qs : List Position} (within : ∀ q, qs.count q ≤
      (early ++ p.left.turns ++ p.right.turns).count q) : g.Turns qs := by
    intro q mem
    refine turned q (count_pos_iff.1 ?_)
    have := within q
    have := count_pos_iff.2 mem
    rw [prepares.turns]
    omega
  obtain ⟨changes, readsLeft, readsRight, value⟩ := prepares.runs st idle reads turned
  obtain ⟨changes', between, held, held', same, other⟩ := runs₁.andThen took₁ runs₂ prepares.right
    changes.idle readsLeft readsRight
    (turnedPart fun q => by simp only [count_append]; omega)
    (turnedPart fun q => by simp only [count_append]; omega)
  have before := changes.append (changes'.mono fun n mem => .inr (prepares.took.subset mem))
  rw [← Loading.run_append] at held' other
  rw [same] at held'
  have result := result_of_held (g := g) (st.run g (p.before ++ (first ++ second))).log
    (a := { target, left, op := p.op, right, data := d <|> d', count := p.count })
    (held.later other) held' rfl free (fun plain => absurd plain prepares.op)
    fun q isCount own => turned q (prepares.count q isCount) own
  simp only [nil_append, isEmpty_nil, if_true, append_nil, append_assoc _ first]
  exact before.append_assign (.inl rfl) (result.trans value)

omit isParam apart in
/-- A parameter whose number is computed is read by a patched step. -/
theorem plain_param_sound {n : Expr} (straight : n.Straight stepwise)
    (h : plain compile (.param (.num target q₁) q₂) (.param n pos) s = .ok actions t) :
    Sets g target (.param n pos) s t actions fun params => (Expr.param n pos).computed params := by
  simp only [plain, saveParams, restoreParams, numberOf, targetNumber, withPatches,
    bind_eq_ok, modify_eq_ok, pure_eq_ok] at h
  obtain ⟨_, _, rfl, _, _, ⟨rfl, rfl⟩, ⟨left, more, patches⟩, u, read, _, _, ⟨rfl, rfl⟩, _, _, rfl,
    rfl, rfl⟩ := h
  simp only [nil_append]
  by_cases constant : ∃ k q, n = .num k q
  · obtain ⟨k, q, rfl⟩ := constant
    obtain ⟨same, rfl⟩ := pure_eq_ok.1 read
    cases same
    have took := Took.refl { s with params := s.params.save }
    refine ⟨took.restored, fun st idle reads _ => ?_⟩
    exact (Loading.Changes.nil idle).append_assign (.inl rfl)
      (result_move st.log (.inr ⟨reads.2, rfl, rfl⟩))
  · have computes : readNumber compile n = (intoParam compile n >>= fun x =>
        pure (0, x.2, [⟨x.1, 1, 3⟩])) := by
      cases straight with
      | num k q => exact absurd ⟨k, q, rfl⟩ constant
      | _ => rfl
    have none : n.constant? = none := by
      cases straight with
      | num k q => exact absurd ⟨k, q, rfl⟩ constant
      | _ => rfl
    simp only [computes, bind_eq_ok, pure_eq_ok, Prod.mk.injEq] at read
    obtain ⟨⟨m, more⟩, u, computed, ⟨rfl, rfl, rfl⟩, rfl⟩ := read
    obtain ⟨took, -, -, runs⟩ := intoParam_sound sound pool.saved straight computed
    refine ⟨took.restored, fun st idle reads turned => ?_⟩
    obtain ⟨changes, number⟩ := runs st idle reads.1 turned
    have readable := reads.2
    rw [none, Option.getD_none] at readable
    have bounded : ((st.run g more).params m).toNat < 0xFF := by
      have := readable.2.1
      rw [number]
      omega
    obtain ⟨whole, value⟩ :=
      (changes.mono fun k mem => .inr mem : st.Changes g more
        fun k => k = target ∨ k ∈ s.params.free).append_read (.inl rfl) bounded
    refine ⟨whole, value.trans ?_⟩
    rw [number, changes.other _ readable.2.2, Expr.computed, none, Option.getD_none]

theorem plain_sound (straight : value.Straight stepwise)
    (h : plain compile (.param (.num target q₁) q₂) value s = .ok actions t) :
    Sets g target value s t actions fun params => value.computed params := by
  cases straight with
  | num v p => exact plain_num_sound h
  | param p inner => exact plain_param_sound sound pool inner h
  | binary p known left right =>
    exact plain_binary_sound sound isParam apart pool (.binary p known left right) h
  | shift p q known left low high =>
    exact plain_binary_sound sound isParam apart pool (.shift p q known left low high) h
  | bitNot | not =>
    simp only [plain, saveParams, numberOf, targetNumber, bind_eq_ok, modify_eq_ok,
      pure_eq_ok, fail_ne_ok] at h
    obtain ⟨_, _, _, _, _, _, _, _, fails, _⟩ := h
    exact fails.elim

theorem complement_sound {c} (straight : b.Straight stepwise)
    (h : plain compile (.param (.num target q₁) q₂) (.op .sub (.int c) b) s = .ok actions t)
    (turns : value.turns = b.turns)
    (reads : ∀ may params, value.Reads may params → b.Reads may params) :
    Sets g target value s t actions fun params => .ofInt c - b.computed params := by
  have known : Operator.sub ∈ stepwise := by decide
  have sets := plain_sound sound isParam apart pool
    (straight_op (a := .int c) known (.num _ _) straight) h
  have same (params : Params) : (Expr.op .sub (.int c) b).computed params =
      .ofInt c - b.computed params := by
    simp only [Expr.op, Expr.computed, Expr.computed_atLeastAt, Operator.computed, Operator.run,
      Expr.int, Word.ofInt_signed32]
  rw [funext same] at sets
  refine sets.congr (fun q => ?_) fun may params read => ?_
  · rw [turns, turns_op known]
    rfl
  · simpa only [Expr.op, Expr.Reads, Expr.reads_atLeastAt, Expr.int, true_and] using
      reads may params read

theorem step_sound (straight : value.Straight stepwise)
    (h : step compile (.param (.num target q₁) q₂) value s = .ok actions t) :
    Sets g target value s t actions fun params => value.computed params := by
  obtain ⟨_, _, checked, h⟩ := bind_eq_ok.1 h
  obtain ⟨-, rfl⟩ := check_eq_ok.1 checked
  have plainly (h : plain compile (.param (.num target q₁) q₂) value s = .ok actions t) :=
    plain_sound sound isParam apart pool straight h
  cases straight with
  | num v p => exact plainly h
  | param p inner => exact plainly h
  | @binary op _ _ p known left right =>
    cases op with
    | hasBit | notHasBit | min | max => exact absurd known (by decide)
    | _ => exact plainly h
  | @shift op _ _ p q known left low high =>
    cases op with
    | hasBit | notHasBit | min | max => exact absurd known (by decide)
    | _ => exact plainly h
  | @bitNot e p inner =>
    have h : plain compile (.param (.num target q₁) q₂) (.op .sub (.int 0xFFFFFFFF) e) s =
      .ok actions t := h
    have sets : Sets g target (.bitNot e p) s t actions _ :=
      complement_sound sound isParam apart pool inner h rfl fun _ _ reads => reads
    simp only [Word.allOnes_sub] at sets
    exact sets
  | @not e p inner =>
    have h : plain compile (.param (.num target q₁) q₂) (.op .sub (.int 1) e) s =
      .ok actions t := h
    exact complement_sound sound isParam apart pool inner h rfl fun _ _ reads => reads

end Compile

theorem compileWith_sound (g : Game) (fuel : Nat) : LeavesComputed g (compileWith fuel) := by
  induction fuel with
  | zero => exact fun _ _ _ _ _ _ _ h => (stop_ne_ok.1 h).elim
  | succ fuel ih =>
    exact fun _ _ _ _ _ _ _ h straight isParam apart pool =>
      step_sound ih isParam apart pool straight h

theorem compile_sound (g : Game) : LeavesComputed g compile := compileWith_sound g 10000

/-- The parameters that no assignment takes for values in between. -/
def IsKept (n : Int) : Prop := 0 ≤ n ∧ n < 0x40 ∨ 0x80 ≤ n ∧ n < 0xFF

theorem IsKept.readable (fit : ParamsFit s) (kept : IsKept n) : Readable s.params.free n := by
  unfold IsKept at kept
  refine ⟨by omega, by omega, fun mem => ?_⟩
  have := fit n mem
  omega

/-- A count that stands at a position of its own is turned once. -/
theorem hasTurned_of_once (settles : Settles s t turns)
    (once : ∀ p ∈ turns, p.isOwn = true → turns.count p = 1 ∧ p ∉ s.turnedCounts)
    (ends : g.turned = t.hasTurned) : g.Turns turns := by
  intro p mem own
  obtain ⟨one, new⟩ := once p mem own
  rw [ends, Session.hasTurned, settles.turned, one, count_eq_zero.2 new]
  simp [own]

/-- An assignment without a choice leaves the value in the target, where the value is that before
the assignment. It changes no other parameter but those for values in between, and all of these are
free again in the end. -/
theorem compile_leaves_value {g : Game} {target : Int} {value : Expr} {q₁ q₂ : Option Position}
    {s t : Session} {actions : List Action} (isTarget : 0 ≤ target ∧ target < 0x40) (pool : Pool s)
    (straight : value.Straight Operator.exact)
    (unshared : ∀ p ∈ value.turns, p.isOwn = true →
      value.turns.count p = 1 ∧ p ∉ s.turnedCounts)
    (ends : g.turned = t.hasTurned)
    (h : compile (.param (.num target q₁) q₂) value s = .ok actions t) :
    t.params.free = s.params.free ∧ ∀ st : Loading, st.Idle → value.Defined IsKept st.params →
      (st.run g actions).Idle ∧
      (st.run g actions).params target = value.value st.params.world ∧
      ∀ n, n ≠ target → ¬ (0x40 ≤ n ∧ n < 0x80) → (st.run g actions).params n = st.params n := by
  have isParam : IsParam target := ⟨isTarget.1, by omega⟩
  have apart : target ∉ s.params.free := fun mem => by
    have := pool.fit target mem
    omega
  have sets := compile_sound g q₁ q₂ h (straight.mono (subset_append_left _ _)) isParam apart
    pool
  refine ⟨sets.settles.free, fun st idle defined => ?_⟩
  obtain ⟨reads, same⟩ := straight.computed_eq_value
    (fun n kept => by unfold IsKept at kept; omega) defined
  obtain ⟨changes, value⟩ := sets.runs st idle
    (straight.reads_mono reads fun n => IsKept.readable pool.fit)
    (hasTurned_of_once sets.settles unshared ends)
  refine ⟨changes.idle, value.trans same, fun n other outside => changes.other n ?_⟩
  rintro (rfl | mem)
  · exact other rfl
  · exact outside (pool.fit n mem)

/-- A game that adds nothing of its own. -/
def silentGame (turned : Option Position → Bool) : Game :=
  { turned, reserved := fun _ _ => 0, foreign := fun _ _ => 0, test := fun _ _ => false }

/-- A parameter is read by a number that is computed, and shifted. -/
def shiftedReading : Expr :=
  .binary .sub (.num 100 none) (.binary .shiftRight
    (.param (.binary .sub (paramOf 4) (paramOf 3) none) none)
    (.num 2 (some { place := .line "input.nml" 2, token := 1 })) none) none

/-- The computed number is that of the target. -/
theorem own_target_read_by_number :
    ∃ actions t, compile (paramOf 1) shiftedReading {} = .ok actions t ∧
      (({ params := fun n => if n = 1 then 40 else .ofInt n } : Loading).run
        (silentGame t.hasTurned) actions).params 1 = 90 := by
  refine ⟨_, _, rfl, ?_⟩
  have number (n : Int) : (paramOf n).Straight Operator.exact := .param _ (.num _ _)
  have straight : shiftedReading.Straight Operator.exact :=
    .binary _ (by decide) (.num _ _) (.shift _ _ (by decide)
      (.param _ (.binary _ (by decide) (number 4) (number 3))) (by decide) (by decide))
  obtain ⟨-, leaves⟩ := compile_leaves_value (g := silentGame _) (by decide)
    ⟨paramsFit_new, nodup_new⟩ straight (by decide) rfl
    (rfl : compile (.param (.num 1 none) none) shiftedReading {} = _)
  refine (leaves _ ⟨rfl, rfl⟩ ?_).2.1
  -- The numbers 4, 3 and 1 are read.
  exact ⟨trivial, ⟨⟨⟨trivial, .inl (by decide)⟩, trivial, .inl (by decide)⟩, .inl (by decide)⟩,
    trivial⟩

/-- A parameter that is kept for values in between is lost when it is read behind one of them. -/
theorem taken_param_lost : ∃ actions t value, value.Straight Operator.exact ∧
      value = .binary .add (paramOf 127) (.binary .mul (paramOf 1) (paramOf 2) none) none ∧
      compile (paramOf 0) value {} = .ok actions t ∧
      (({ params := Word.ofInt } : Loading).run (silentGame t.hasTurned) actions).params 0 = 4 ∧
      value.value (Params.world Word.ofInt) = 129 := by
  refine ⟨_, _, _, ?_, rfl, rfl, ?_, ?_⟩
  · exact .binary _ (by decide) (.param _ (.num _ _))
      (.binary _ (by decide) (.param _ (.num _ _)) (.param _ (.num _ _)))
  · rfl
  · rfl

end Assign

end NewGrf
