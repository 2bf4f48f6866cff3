import NewGrf.Proofs.Steps

namespace NewGrf

open Build

namespace Assign

/-- Computes a value some times, each time into another parameter. -/
def intoParams (e : Expr) : Nat → Build (List (Int × List Action))
  | 0 => pure []
  | n + 1 => do pure ((← intoParam compile e) :: (← intoParams e n))

/-- Steps that are compiled for an expression compute another one. -/
def Means (g : Game) (e meaning : Expr) : Prop :=
  ∀ ⦃target : Int⦄ ⦃s t : Session⦄ ⦃actions : List Action⦄,
    compile (.param (.num target none) none) e s = .ok actions t → IsParam target →
    target ∉ s.params.free → Pool s → Settles s t e.turns ∧ ∀ st : Loading, st.Idle →
      meaning.Reads (Readable s.params.free) st.params →
      st.Changes g actions (fun n => n = target ∨ n ∈ s.params.free) ∧
        (st.run g actions).params target = meaning.computed st.params

theorem means_self {g : Game} {e : Expr} (straight : e.Straight stepwise)
    (turned : g.Turns e.turns) : Means g e e := fun _ _ _ _ compiled isParam apart pool =>
  have ⟨settles, runs⟩ := compile_sound g none none compiled straight isParam apart pool
  ⟨settles, fun st idle reads => runs st idle reads turned⟩

section Unturned

variable {g : Game} {op : Operator} {a : Expr} {k : Int} {p : Position} {q : Option Position}

/-- The step that shifts by a count at a position. -/
def turnedShift (op : Operator) : Operator := if op = .shiftRight then .shiftLeft else .shiftLeftU

theorem assigned_unturned (isShift : op = .shiftRight ∨ op = .shiftRightU) (low : 0 ≤ k)
    (high : k < 32) (w : Word) :
    (turnedShift op).assigned w (.ofInt k) = Operator.shiftLeft.computed w (.ofInt k) := by
  have positive : (Word.ofInt k).msb = false := Word.msb_ofInt_of_nonneg low (by omega)
  rcases isShift with rfl | rfl <;>
    simp [turnedShift, Operator.assigned, Operator.computed, Operator.run, positive,
      Word.count_ofInt low high, Word.toNat_ofInt_of_small low high]

/-- The count is read as it was before it was negated. -/
theorem unturned_result {n free params} (log : Log) (target : Int)
    (readable : Readable free n) (own : p.isOwn = true) (kept : g.turned (some p) = false) :
    ({ target, left := n, op := turnedShift op, right := 0xFF, data := some (-k)
       count := some p } : ParamStep).result g log params =
      (turnedShift op).assigned (params n) (.ofInt k) := by
  have other : n ≠ 0xFF := by
    have := readable.2.1
    omega
  simp [ParamStep.result, ParamStep.operand, ParamStep.word, own, kept, other]

theorem operand_late {compile s t n data actions} (late : a.constant? = none)
    (h : operand compile true a s = .ok (n, data, actions) t) : data = none := by
  simp only [operand, late, bind_eq_ok, pure_eq_ok, Prod.mk.injEq] at h
  obtain ⟨_, _, -, ⟨-, rfl, -⟩, -⟩ := h
  rfl

theorem plain_of_compile {target s t actions} (isShift : op = .shiftRight ∨ op = .shiftRightU)
    (h : compile (.param (.num target none) none) (.binary op a (.num k (some p)) q) s =
      .ok actions t) :
    plain (compileWith 9999) (.param (.num target none) none) (.binary op a (.num k (some p)) q) s =
      .ok actions t := by
  rw [show compile = compileWith (9999 + 1) from rfl, compileWith] at h
  obtain ⟨_, _, checked, h⟩ := bind_eq_ok.1 h
  obtain ⟨-, rfl⟩ := check_eq_ok.1 checked
  rcases isShift with rfl | rfl
  · exact h
  · exact h

theorem prepare_shift {compile target s x t} (isShift : op = .shiftRight ∨ op = .shiftRightU)
    (h : prepare compile target op a (.num k (some p)) s = .ok x t) :
    x = { op := turnedShift op, left := a, right := .num (-k) (some p), count := some p } ∧
      Took s t [p] := by
  have turn : ∃ done u, turnCount (some p) s = .ok done u ∧ u = t ∧
      x = { op := turnedShift op, left := a, right := .num (-k) (some p), count := some p } := by
    rcases isShift with rfl | rfl
    all_goals
      simp only [prepare, bind_eq_ok, pure_eq_ok] at h
      obtain ⟨_, _, turned, rfl, rfl⟩ := h
      exact ⟨_, _, turned, rfl, rfl⟩
  obtain ⟨_, _, turned, rfl, rfl⟩ := turn
  exact ⟨rfl, turnCount_took turned⟩

/-- A shift to the right by a count that is not turned goes to the left. -/
theorem means_left (isShift : op = .shiftRight ∨ op = .shiftRightU) (left : a.Straight stepwise)
    (late : a.constant? = none) (turned : g.Turns a.turns) (low : 0 ≤ k) (high : k < 32)
    (own : p.isOwn = true) (kept : g.turned (some p) = false) :
    Means g (.binary op a (.num k (some p)) q) (.binary .shiftLeft a (.num k none) none) := by
  intro target s t actions compiled isParam apart pool
  have h := plain_of_compile isShift compiled
  simp only [plain, saveParams, restoreParams, numberOf, targetNumber, withPatches,
    bind_eq_ok, modify_eq_ok, pure_eq_ok] at h
  obtain ⟨_, _, rfl, _, _, ⟨rfl, rfl⟩, x, s₁, prepared, ⟨n, d, first⟩, s₂, atLeft,
    ⟨right, d', second⟩, s₃, atRight, _, _, ⟨rfl, rfl⟩, _, _, rfl, rfl, rfl⟩ := h
  obtain ⟨rfl, took⟩ := prepare_shift isShift prepared
  obtain rfl := operand_late late atLeft
  obtain ⟨same, rfl⟩ := pure_eq_ok.1 atRight
  cases same
  obtain ⟨took', -, runs⟩ :=
    operand_sound (compileWith_sound g 9999) (took.pool pool.saved) left atLeft
  have turns : (Expr.binary op a (.num k (some p)) q).turns = a.turns ++ [p] := by
    rcases isShift with rfl | rfl <;> simp [Expr.turns]
  refine ⟨((took.trans took').congr fun r => ?_).restored, fun st idle reads => ?_⟩
  · rw [turns, List.count_append, List.count_append, Nat.add_comm]
  obtain ⟨changes, held⟩ := runs st idle
    (left.reads_mono reads.1 fun _ => Readable.mono took.subset) turned
  obtain ⟨readable, value⟩ : Readable s₂.params.free n ∧
      (st.run g first).params n = a.computed st.params := by
    rcases held with ⟨-, _, none, -⟩ | ⟨readable, -, value⟩
    · cases none
    · exact ⟨readable, value⟩
  have result := (unturned_result (st.run g first).log target readable own kept).trans
    (congrArg ((turnedShift op).assigned · _) value) |>.trans (assigned_unturned isShift low high _)
  have before : st.Changes g first fun m => m = target ∨ m ∈ s.params.free :=
    changes.mono fun m mem => .inr (took.subset mem)
  simp only [List.nil_append, List.isEmpty_nil, if_true, List.append_nil]
  exact before.append_assign (.inl rfl) result

end Unturned

section Repeated

variable {g : Game} {e meaning : Expr} (means : Means g e meaning)
  (straight : meaning.Straight stepwise) {s t : Session} (pool : Pool s)

include means straight pool

theorem intoParam_means {n actions} (h : intoParam compile e s = .ok (n, actions) t) :
    Took s t e.turns ∧ n ∉ t.params.free ∧ ∀ st : Loading, st.Idle →
      meaning.Reads (Readable s.params.free) st.params →
      st.Changes g actions (· ∈ s.params.free) ∧
        (st.run g actions).params n = meaning.computed st.params := by
  obtain ⟨u, took, free, pool', isParam, apart, compiled⟩ := intoParam_cases pool h
  obtain ⟨settles, runs⟩ := means compiled isParam apart pool'
  refine ⟨took.trans settles.took, by rwa [settles.free], fun st idle reads => ?_⟩
  obtain ⟨changes, value⟩ := runs st idle
    (straight.reads_mono reads fun _ => Readable.mono took.subset)
  exact ⟨changes.mono fun m => by simp [free], value⟩

/-- No computation changes what the others have left. -/
theorem intoParams_means {n} {xs : List (Int × List Action)}
    (h : intoParams e n s = .ok xs t) (st : Loading) (idle : st.Idle)
    (reads : meaning.Reads (Readable s.params.free) st.params) :
    st.Changes g (xs.flatMap (·.2)) (· ∈ s.params.free) ∧ ∀ x ∈ xs,
      (st.run g (xs.flatMap (·.2))).params x.1 = meaning.computed st.params := by
  induction n generalizing s xs st with
  | zero =>
    obtain ⟨rfl, rfl⟩ := pure_eq_ok.1 h
    exact ⟨.nil idle, by simp⟩
  | succ n ih =>
    simp only [intoParams, bind_eq_ok, pure_eq_ok] at h
    obtain ⟨⟨k, actions⟩, u, first, xs, _, others, rfl, rfl⟩ := h
    obtain ⟨took, taken, runs⟩ := intoParam_means means straight pool first
    obtain ⟨changes, value⟩ := runs st idle reads
    -- The value does not depend on the parameters that the first computation has changed.
    obtain ⟨reads', same⟩ := straight.unnoticed reads fun m may => changes.other m may.2.2
    obtain ⟨changes', values⟩ := ih (took.pool pool) others _ changes.idle
      (straight.reads_mono reads' fun _ => Readable.mono took.subset)
    rw [List.flatMap_cons, Loading.run_append, List.forall_mem_cons]
    refine ⟨changes.append (changes'.mono fun _ mem => took.subset mem), ?_, fun x inside => ?_⟩
    · rw [changes'.other k taken, value]
    · rw [values x inside, same]

end Repeated

theorem intoParams_took {e : Expr} (straight : e.Straight stepwise) {s t} (pool : Pool s)
    {n} {xs : List (Int × List Action)} (h : intoParams e n s = .ok xs t) :
    xs.length = n ∧ Took s t (List.replicate n e.turns).flatten := by
  induction n generalizing s xs with
  | zero =>
    obtain ⟨rfl, rfl⟩ := pure_eq_ok.1 h
    exact ⟨rfl, .refl s⟩
  | succ n ih =>
    simp only [intoParams, bind_eq_ok, pure_eq_ok] at h
    obtain ⟨⟨k, actions⟩, u, first, xs, _, others, rfl, rfl⟩ := h
    obtain ⟨took, -⟩ :=
      intoParam_sound (compile_sound (silentGame fun _ => false)) pool straight first
    obtain ⟨length, took'⟩ := ih (took.pool pool) others
    exact ⟨congrArg (· + 1) length, took.trans took'⟩

/-- Each count of its own is negated as often as the value is computed. -/
theorem hasTurned_repeated {s t : Session} {e : Expr} {n} {p : Position}
    (took : Took s t (List.replicate n e.turns).flatten) (own : p.isOwn = true)
    (once : e.turns.count p = 1) (new : p ∉ s.turnedCounts) :
    t.hasTurned (some p) = (n % 2 == 1) := by
  have count : (List.replicate n e.turns).flatten.count p = n := by
    rw [List.count_flatten, List.map_replicate, once]
    simp
  simp [Session.hasTurned, own, took.turned, count, List.count_eq_zero.2 new]

/-- A value is computed some times, and the counts by which it is shifted to the right are its own.
After an odd number of times all parameters hold the value. After an even number, those for a value
that was to be shifted to the right hold it shifted to the left. -/
theorem repeated_values_by_parity {g : Game} {e : Expr} {n : Nat} {s t : Session}
    {xs : List (Int × List Action)} (pool : Pool s) (straight : e.Straight Operator.exact)
    (unshared : ∀ p ∈ e.turns, p.isOwn = true → e.turns.count p = 1 ∧ p ∉ s.turnedCounts)
    (run : intoParams e n s = .ok xs t) (ends : g.turned = t.hasTurned) :
    xs.length = n ∧
    (n % 2 = 1 ∨ (∀ p ∈ e.turns, p.isOwn = false) → ∀ st : Loading, st.Idle →
      e.Defined IsKept st.params → ∀ x ∈ xs,
        (st.run g (xs.flatMap (·.2))).params x.1 = e.value st.params.world) ∧
    (n % 2 = 0 → ∀ op a k p q, e = .binary op a (.num k (some p)) q →
      op = .shiftRight ∨ op = .shiftRightU → p.isOwn = true → a.constant? = none →
      (∀ r ∈ a.turns, r.isOwn = false) → ∀ st : Loading, st.Idle → a.Defined IsKept st.params →
      ∀ x ∈ xs, (st.run g (xs.flatMap (·.2))).params x.1 =
        a.value st.params.world <<< k.toNat) := by
  have stepwise := straight.mono (List.subset_append_left _ Operator.orders)
  obtain ⟨length, took⟩ := intoParams_took stepwise pool run
  have parity (p : Position) (mem : p ∈ e.turns) (own : p.isOwn = true) :
      g.turned (some p) = (n % 2 == 1) := by
    rw [ends]
    exact hasTurned_repeated took own (unshared p mem own).1 (unshared p mem own).2
  have kept (m : Int) (isKept : IsKept m) : 0 ≤ m ∧ m < 0xFF := by
    unfold IsKept at isKept
    omega
  refine ⟨length, fun right st idle defined x inside => ?_, ?_⟩
  · obtain ⟨reads, same⟩ := straight.computed_eq_value kept defined
    have turned : g.Turns e.turns := fun p mem own => by
      rcases right with odd | none
      · rw [parity p mem own, odd]
        rfl
      · cases own.symm.trans (none p mem)
    rw [← same]
    exact (intoParams_means (means_self stepwise turned) stepwise pool run st idle
      (stepwise.reads_mono reads fun _ => IsKept.readable pool.fit)).2 x inside
  · rintro even op a k p q rfl isShift own late silent st idle defined x inside
    obtain ⟨left, low, high⟩ : a.Straight Operator.exact ∧ 0 ≤ k ∧ k < 32 := by
      cases straight with
      | binary _ known => rcases isShift with rfl | rfl <;> exact absurd known (by decide)
      | shift _ _ _ left low high => exact ⟨left, low, high⟩
    have turns : p ∈ (Expr.binary op a (.num k (some p)) q).turns := by
      rcases isShift with rfl | rfl <;> simp [Expr.turns]
    have unturned : g.turned (some p) = false := by
      rw [parity p turns own, even]
      rfl
    have inner : g.Turns a.turns := fun r mem own => by cases own.symm.trans (silent r mem)
    have shifted : (Expr.binary .shiftLeft a (.num k none) none).Straight Operator.exact :=
      .shift _ _ (by decide) left low high
    obtain ⟨reads, same⟩ := shifted.computed_eq_value kept ⟨defined, trivial⟩
    have within : Operator.exact ⊆ Assign.stepwise := List.subset_append_left _ _
    rw [(intoParams_means (means_left isShift (left.mono within) late inner low high own unturned)
      (shifted.mono within) pool run st idle
      ((shifted.mono within).reads_mono reads fun _ => IsKept.readable pool.fit)).2 x inside, same]
    simp [Expr.value, Operator.run, Word.count_ofInt low high]

/-- A parameter that is to be shifted to the right. -/
def shiftedParam : Expr :=
  .binary .shiftRight (paramOf 1) (.num 3 (some { place := .line "input.nml" 2, token := 1 })) none

/-- Computed twice, it is shifted to the left. -/
theorem computed_twice_shifts_left : ∃ xs t, intoParams shiftedParam 2 {} = .ok xs t ∧
    xs.map (·.1) = [0x7F, 0x7E] ∧ ∀ x ∈ xs,
      (({ params := fun _ => 1 } : Loading).run (silentGame t.hasTurned)
        (xs.flatMap (·.2))).params x.1 = 8 := by
  refine ⟨_, _, rfl, ?_, fun x inside => ?_⟩
  · rfl
  have straight : shiftedParam.Straight Operator.exact :=
    .shift _ _ (by decide) (.param _ (.num _ _)) (by decide) (by decide)
  obtain ⟨-, -, even⟩ := repeated_values_by_parity (g := silentGame _) ⟨paramsFit_new, nodup_new⟩
    straight (by decide) (rfl : intoParams shiftedParam 2 {} = _) rfl
  exact even rfl _ _ _ _ _ rfl (.inl rfl) rfl rfl (by decide) _ ⟨rfl, rfl⟩
    ⟨trivial, .inl (by decide)⟩ x inside

end Assign

end NewGrf
