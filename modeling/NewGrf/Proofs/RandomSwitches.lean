import Mathlib.Algebra.Order.Field.Basic
import Mathlib.Data.Nat.Bitwise
import Mathlib.Data.Rat.Cast.Order
import NewGrf.Graph.Write
import NewGrf.Proofs.SwitchNodes

open List

namespace NewGrf

namespace RandomSwitch

theorem testBit_sub_and (m x b : Nat) :
    (m - (m &&& x)).testBit b = (m.testBit b && !x.testBit b) := by
  induction b generalizing m x with
  | zero =>
    have low : (m &&& x) % 2 = 1 ↔ m % 2 = 1 ∧ x % 2 = 1 := by simp
    have le := Nat.and_le_left (n := m) (m := x)
    simp only [Nat.testBit_zero]
    rw [Bool.eq_iff_iff]
    simp only [decide_eq_true_eq, Bool.and_eq_true, Bool.not_eq_true', decide_eq_false_iff_not]
    omega
  | succ b ih =>
    have low : (m &&& x) % 2 = 1 ↔ m % 2 = 1 ∧ x % 2 = 1 := by simp
    have half : (m - (m &&& x)) / 2 = m / 2 - (m / 2 &&& x / 2) := by
      have := Nat.and_div_two (a := m) (b := x)
      have le := Nat.and_le_left (n := m) (m := x)
      omega
    rw [Nat.testBit_succ, Nat.testBit_succ, Nat.testBit_succ, half, ih]

/-- Whether a switch that draws from some bit on looks at a bit. -/
def Uses (firstBit draws b : Nat) : Prop := ((draws - 1) <<< firstBit).testBit b = true

instance (firstBit draws b : Nat) : Decidable (Uses firstBit draws b) :=
  inferInstanceAs (Decidable (_ = true))

/-- Whether a bit may be looked at. -/
def Source.Has (source : Source) (b : Nat) : Prop :=
  source.firstBit ≤ b ∧ b < source.firstBit + source.bits

theorem fits_iff {mask draws bit : Nat} : fits mask draws bit = true ↔
    ∀ b, Uses bit draws b → mask.testBit b = true := by
  rw [fits, beq_iff_eq]
  constructor
  · intro same b used
    have := congrArg (·.testBit b) same
    simp only [Nat.testBit_and] at this
    rw [Uses] at used
    rw [used, Bool.and_true] at this
    exact this
  · intro inside
    refine Nat.eq_of_testBit_eq fun b => ?_
    rw [Nat.testBit_and]
    by_cases used : Uses bit draws b
    · rw [inside b used, Bool.true_and]
    · rw [Uses, Bool.not_eq_true] at used
      rw [used, Bool.and_false]

theorem testBit_freeMask (source : Source) (others : List RandomNode) (b : Nat) :
    (freeMask source others).testBit b = true ↔
      source.Has b ∧ ∀ r ∈ others, ¬ Uses r.firstBit r.draws b := by
  have all : ∀ mask : Nat, (others.foldl (fun mask r =>
      mask - (mask &&& ((r.draws - 1) <<< r.firstBit))) mask).testBit b = true ↔
      mask.testBit b = true ∧ ∀ r ∈ others, ¬ Uses r.firstBit r.draws b := by
    induction others with
    | nil => simp
    | cons r others ih =>
      intro mask
      rw [foldl_cons, ih, testBit_sub_and]
      simp only [Uses, Bool.and_eq_true, Bool.not_eq_true', Bool.not_eq_true, mem_cons,
        forall_eq_or_imp, and_assoc]
  rw [freeMask, all]
  refine and_congr_left fun _ => ?_
  rw [Number.twoPow, Nat.one_shiftLeft, Nat.testBit_shiftLeft, Nat.testBit_two_pow_sub_one,
    Source.Has]
  simp only [Bool.and_eq_true, decide_eq_true_eq]
  omega

def IsPower (n : Nat) : Prop := ∃ k, n = Number.twoPow k

theorem drawsFor_go {total fuel n : Nat} (power : IsPower n) :
    IsPower (drawsFor.go total fuel n) ∧ (total ≤ n * Number.twoPow fuel →
      total ≤ drawsFor.go total fuel n) := by
  induction fuel generalizing n with
  | zero => exact ⟨power, fun enough => by simpa [drawsFor.go, Number.twoPow] using enough⟩
  | succ fuel ih =>
    rw [drawsFor.go]
    split
    · obtain ⟨k, rfl⟩ := power
      obtain ⟨again, enough⟩ := ih (n := 2 * Number.twoPow k) ⟨k + 1, (Number.twoPow_succ k).symm⟩
      refine ⟨again, fun room => enough ?_⟩
      rw [Number.twoPow_succ] at room
      rw [Nat.mul_comm 2, Nat.mul_assoc]
      exact room
    · exact ⟨power, fun _ => by omega⟩

theorem uses_first {bit draws : Nat} (power : IsPower draws) (more : draws ≠ 1) :
    Uses bit draws bit := by
  obtain ⟨k, rfl⟩ := power
  cases k with
  | zero => exact absurd rfl more
  | succ k =>
    have some := Number.twoPow_pos k
    rw [Number.twoPow_succ, Uses, Nat.testBit_shiftLeft, Nat.sub_self, Nat.testBit_zero]
    simp only [ge_iff_le, le_refl, decide_true, Bool.true_and, decide_eq_true_eq]
    omega

theorem not_uses_one {bit b : Nat} : ¬ Uses bit 1 b := by simp [Uses]

theorem drawsFor_isPower (total : Nat) : IsPower (drawsFor total) :=
  (drawsFor_go ⟨0, rfl⟩).1

theorem le_drawsFor (total : Nat) : total ≤ drawsFor total := by
  refine (drawsFor_go (n := 1) ⟨0, rfl⟩).2 ?_
  rw [Nat.one_mul]
  exact (Number.lt_twoPow total).le

section

variable {name : String} {source : Source} {draws bit n : Nat} {dependent : List Placed}
  {independent : List RandomNode}

theorem place_nil : place name source draws [] independent =
    match (range' source.firstBit source.bits).find? (fits (freeMask source independent) draws) with
    | some bit => .ok (bit, draws)
    | none => .error
        ("Independence of all given random_switches is not possible for random_switch '"
          ++ name ++ "'.") := rfl

theorem throw_bind_ne_ok {α β : Type} {text : String} {f : α → Except String β} {b : β} :
    ((throw text : Except String α) >>= f) ≠ .ok b := by rintro ⟨⟩

theorem all_of_forIn {α : Type} {P : α → Prop} {xs : List α}
    {body : α → PUnit.{1} → Except String (ForInStep PUnit)} {u : PUnit}
    (each : ∀ x r, body x ⟨⟩ = .ok r → P x ∧ r = .yield ⟨⟩)
    (run : forIn xs PUnit.unit body = .ok u) : ∀ x ∈ xs, P x := by
  induction xs with
  | nil => exact fun x inside => absurd inside not_mem_nil
  | cons x xs ih =>
    rw [forIn_cons] at run
    obtain ⟨r, first, rest⟩ := Except.bind_eq_ok.1 run
    obtain ⟨holds, rfl⟩ := each x r first
    exact forall_mem_cons.2 ⟨holds, ih rest⟩

/-- Bits that are the same as those of other switches: the others all have the same ones, and these
are free. -/
theorem place_cons_eq_ok {first : Placed} {others : List Placed}
    (placed : place name source draws (first :: others) independent = .ok (bit, n)) :
    (∀ o ∈ others, first.2.firstBit = o.2.firstBit ∧ first.2.draws = o.2.draws) ∧
      draws ≤ first.2.draws ∧ bit = first.2.firstBit ∧ n = first.2.draws ∧
      fits (freeMask source independent) n bit = true := by
  obtain ⟨title, r⟩ := first
  obtain ⟨_, others, rest⟩ := Except.bind_eq_ok.1 placed
  refine ⟨all_of_forIn (fun o step same => ?_) others, ?_⟩
  · dsimp only at same
    split at same
    · exact (throw_bind_ne_ok same).elim
    · next bits =>
      split at same
      · exact (throw_bind_ne_ok same).elim
      · next data => exact ⟨⟨not_not.1 bits, not_not.1 data⟩, (Except.ok.inj same).symm⟩
  · dsimp only at rest
    split at rest
    · exact (throw_bind_ne_ok rest).elim
    · next less =>
      split at rest
      · next free =>
        cases rest
        exact ⟨Nat.not_lt.1 less, rfl, rfl, free⟩
      · exact (throw_bind_ne_ok rest).elim

theorem place_eq_ok (placed : place name source draws dependent independent = .ok (bit, n)) :
    draws ≤ n ∧ (n = draws ∨ ∃ d ∈ dependent, n = d.2.draws) ∧
      (∀ d ∈ dependent, bit = d.2.firstBit ∧ n = d.2.draws) ∧
      fits (freeMask source independent) n bit = true := by
  cases dependent with
  | nil =>
    rw [place_nil] at placed
    split at placed
    · next found =>
      cases placed
      exact ⟨le_rfl, .inl rfl, fun d inside => absurd inside not_mem_nil, find?_some found⟩
    · cases placed
  | cons first others =>
    obtain ⟨same, less, rfl, rfl, free⟩ := place_cons_eq_ok placed
    exact ⟨less, .inr ⟨first, mem_cons_self, rfl⟩, forall_mem_cons.2 ⟨⟨rfl, rfl⟩, same⟩, free⟩

theorem place_of_free (some : source.Has bit)
    (free : fits (freeMask source independent) draws bit = true) :
    ∃ found, place name source draws [] independent = .ok (found, draws) := by
  rw [place_nil]
  split
  · exact ⟨_, rfl⟩
  · next none =>
    rw [find?_eq_none] at none
    exact absurd free (none bit (mem_range'_1.2 some))

end

/-- The bits that a switch looks at are those it declares: at least as many as it needs, only bits
that it may look at, those of each switch that it depends on, and none of those of a switch that it
is independent of. -/
structure Declared (source : Source) (needed : Nat) (dependent independent : RandomNode → Prop)
    (bit draws : Nat) : Prop where
  power : (∀ o, dependent o → IsPower o.draws) → IsPower draws
  enough : needed ≤ draws
  inside : ∀ b, Uses bit draws b → source.Has b
  same : ∀ o, dependent o → ∀ b, Uses bit draws b ↔ Uses o.firstBit o.draws b
  apart : ∀ o, independent o → ∀ b, Uses bit draws b → ¬ Uses o.firstBit o.draws b

theorem Declared.congr {source : Source} {needed bit draws : Nat}
    {dependent dependent' independent independent' : RandomNode → Prop}
    (h : Declared source needed dependent independent bit draws)
    (depends : ∀ o, dependent o ↔ dependent' o) (avoids : ∀ o, independent o ↔ independent' o) :
    Declared source needed dependent' independent' bit draws where
  power powers := h.power fun o depend => powers o ((depends o).1 depend)
  enough := h.enough
  inside := h.inside
  same o depend := h.same o ((depends o).2 depend)
  apart o avoid := h.apart o ((avoids o).2 avoid)

theorem place_declared {name : String} {source : Source} {total bit draws : Nat}
    {dependent independent : List Placed}
    (placed : place name source (drawsFor total) dependent (independent.map (·.2)) =
      .ok (bit, draws)) :
    Declared source (drawsFor total) (fun o => ∃ n, (n, o) ∈ dependent)
      (fun o => ∃ n, (n, o) ∈ independent) bit draws := by
  obtain ⟨less, which, same, free⟩ := place_eq_ok placed
  have fitting := fun b used => (testBit_freeMask source _ b).1 (fits_iff.1 free b used)
  refine ⟨fun powers => ?_, less, fun b used => (fitting b used).1, ?_, ?_⟩
  · obtain rfl | ⟨⟨n, o⟩, depends, rfl⟩ := which
    · exact drawsFor_isPower total
    · exact powers o ⟨n, depends⟩
  · rintro o ⟨n, depends⟩ b
    obtain ⟨rfl, rfl⟩ := same _ depends
    exact .rfl
  · rintro o ⟨n, avoids⟩ b used
    exact (fitting b used).2 _ (mem_map_of_mem avoids)

theorem bits_pos {feature : Int} {kind : String} {source : Source}
    (known : (kind, source) ∈ sources feature) : 0 < source.bits := by
  have each : ∀ x ∈ sources feature, 0 < x.2.bits := by
    unfold sources
    repeat' split
    all_goals decide
  exact each _ known

/-- Bits that a switch may look at and that no other one looks at can be used. -/
theorem fits_of_room {feature : Int} {kind : String} {source : Source} {total bit : Nat}
    {independent : List Placed} (known : (kind, source) ∈ sources feature)
    (room : ∀ b, Uses bit (drawsFor total) b → source.Has b ∧
      ∀ i ∈ independent, ¬ Uses i.2.firstBit i.2.draws b) :
    ∃ bit, source.Has bit ∧
      fits (freeMask source (independent.map (·.2))) (drawsFor total) bit = true := by
  by_cases one : drawsFor total = 1
  · -- A single draw needs no bit, so that any place will do.
    have := bits_pos known
    exact ⟨source.firstBit, ⟨le_rfl, by omega⟩,
      fits_iff.2 fun b used => absurd used (one ▸ not_uses_one)⟩
  · refine ⟨bit, (room bit (uses_first (drawsFor_isPower total) one)).1, fits_iff.2 ?_⟩
    intro b used
    refine (testBit_freeMask source _ b).2 ⟨(room b used).1, ?_⟩
    rw [forall_mem_map]
    exact (room b used).2

/-- What the block that a reference names has become, if it is a random switch that has become a
node. -/
def Refers (u : Session) (c : Choice) (o : RandomNode) : Prop :=
  ∃ name args called group pos id i, c.value = some (.groupRef name args called group pos) ∧
    u.blockIds.get? name.text = some id ∧ (u.blocks[id]?.getD default).randomNode = some i ∧
    (u.graph.node i).body = .random o

theorem gives_get (u : Session) : Build.Gives (u = ·) (get : Build Session) (u = ·) := by
  rintro s a t rfl run
  obtain ⟨rfl, rfl⟩ := Build.get_eq_ok.1 run
  exact ⟨rfl, rfl⟩

theorem gives_block (u : Session) (id : Nat) :
    Build.Gives (u = ·) (Build.block? id) (u.blocks[id]?.getD default = ·) :=
  .bind (gives_get u) fun _ same => .pure (same ▸ rfl)

theorem gives_resolve (u : Session) (name : Ident) :
    Build.Gives (u = ·) (Build.resolve name) fun id => u.blockIds.get? name.text = some id := by
  refine .bind (gives_get u) fun _ same => ?_
  subst same
  split
  · next found => exact .pure found
  · exact .fail

theorem gives_node (u : Session) (i : Nat) :
    Build.Gives (u = ·) (Build.node i) (u.graph.node i = ·) :=
  .bind (gives_get u) fun _ same => .pure (same ▸ rfl)

theorem placed_gives (u : Session) (refs : List Choice) : Build.Gives (u = ·) (placed refs)
    fun found => ∀ o, (∃ n, (n, o) ∈ found) ↔ ∃ c ∈ refs, Refers u c o := by
  unfold placed
  refine .bind (P := fun found => ∀ o, (∃ n, some (n, o) ∈ found) ↔ ∃ c ∈ refs, Refers u c o)
    ?_ fun found each => .pure fun o => ?_
  · induction refs with
    | nil =>
      rw [mapM_nil]
      exact .pure (by simp)
    | cons c refs ih =>
      rw [mapM_cons]
      refine .bind (P := fun x => ∀ o, (∃ n, x = some (n, o)) ↔ Refers u c o) ?_ fun x one =>
        .bind ih fun xs rest => .pure fun o => ?_
      · split
        · next name args called group pos value =>
          refine .bind (gives_resolve u name) fun id known => .bind (gives_block u id) ?_
          rintro b rfl
          have refers (o : RandomNode) : Refers u c o ↔ ∃ i,
              (u.blocks[id]?.getD default).randomNode = some i ∧
              (u.graph.node i).body = .random o := by
            simp [Refers, value, known]
          simp only [refers]
          split
          · next i marked =>
            refine .bind (gives_node u i) ?_
            rintro n rfl
            split
            · next r body => exact .pure fun o => by simp [marked, body]
            · next other => exact .pure fun o => by simpa [marked] using other o
          · next unmarked => exact .pure fun o => by simp [unmarked]
        · next other =>
          refine .pure fun o => ⟨?_, ?_⟩
          · rintro ⟨n, none⟩
            cases none
          · rintro ⟨name, args, called, group, pos, _, _, value, -⟩
            exact (other _ _ _ _ _ value).elim
      · simp only [mem_cons, exists_or, or_and_right, exists_eq_left, ← one, ← rest,
          @eq_comm _ (some _) x]
  · rw [← each]
    simp

instance (d name pos target asCall) : Makes (leadingTo d name pos target asCall) := by
  unfold leadingTo
  infer_instance

def probabilities (s : RandomSwitch) : List Nat :=
  s.choices.map fun c => (c.probability.constant?.getD 0).toNat

def total (s : RandomSwitch) : Nat := Number.total s.probabilities

/-- Where results are patched that are only known when the file is loaded, each in as many words as
it has draws. -/
def choicePlaces : List (RandomChoice × Nat × Nat) → Nat → List (Nat × Nat)
  | [], _ => []
  | (c, _, w) :: rest, offset =>
    Chain.latePlaces c.result.value offset w ++ choicePlaces rest (offset + 2 * w)

theorem draftChoices_patched {node : Nat} (range : VarRange) (total draws : Nat)
    (choices : List (RandomChoice × Nat × Nat)) (offset : Nat) (places : List (Nat × Nat)) :
    Carries .growing (Draft.Patched · places)
      (draftChoices node range total draws choices offset) fun results d =>
      results.map RandomResult.weight = choices.map (·.2.2) ∧
        d.Patched (places ++ choicePlaces choices offset) := by
  induction choices generalizing offset places with
  | nil => exact .pure fun d patched => ⟨rfl, by simpa [choicePlaces] using patched⟩
  | cons c rest ih =>
    obtain ⟨c, p, w⟩ := c
    refine .bind (Chain.result_patched _ _ _ _ _ places) fun result =>
      .andThen (ih _ _) fun results weights => .pure fun d patched => ⟨?_, ?_⟩
    · rw [map_cons, map_cons, weights]
    · rwa [choicePlaces, ← append_assoc]

theorem source_known {R : Session → Prop} (s : RandomSwitch) : Build.Gives R (source s)
    fun found => (s.kind.text, found.1) ∈ sources s.feature := by
  unfold source
  cases known : (sources s.feature).lookup s.kind.text with
  | none =>
    simp only [known]
    exact .fail
  | some own =>
    have inside : (s.kind.text, own) ∈ sources s.feature := by
      obtain ⟨front, rest, whole, -⟩ := lookup_eq_some_iff.1 known
      simp [whole]
    simp only [known]
    -- However the count is found, only the triggers are left to be checked.
    have checked {P : Prop} [Decidable P] {text pos} (x : Option Int × Option Expr) :
        Build.Gives R (if P then Build.fail text pos >>= fun (_ : Unit) =>
          pure (own, x.1, x.2) else pure (own, x.1, x.2))
          fun found => (s.kind.text, found.1) ∈ sources s.feature := by
      split
      · exact .bind (P := fun _ => True) .fail fun _ _ => .pure inside
      · exact .pure inside
    have fails {text pos next} : Build.Gives R
        ((Build.fail text pos : Build (Option Int × Option Expr)) >>= next)
        fun found : Source × Option Int × Option Expr =>
          (s.kind.text, found.1) ∈ sources s.feature :=
      .bind (P := fun _ => False) .fail fun _ => False.elim
    cases s.count with
    | none =>
      cases own.counted with
      | none => exact .bind (P := fun _ => True) (.pure trivial) fun x _ => checked x
      | some base => exact fails
    | some e =>
      cases own.counted with
      | none => exact fails
      | some base =>
        dsimp only
        split
        · next v p =>
          by_cases small : (decide (1 ≤ v) && decide (v ≤ 15)) = true
          · rw [if_pos small]
            exact .bind (P := fun _ => True) (.pure trivial) fun x _ => checked x
          · rw [if_neg small]
            exact .bind (P := fun _ => True) (.pure trivial) fun x _ => checked x
        · exact .bind (P := fun _ => True) (.pure trivial) fun x _ => checked x

/-- What the actions of a switch are made of. -/
structure Made (id : Nat) (s : RandomSwitch) (u : Session) (actions : List Action) (t : Session)
    (node : Nat) (r : RandomNode) : Prop where
  declared : ∃ own sets shown, (s.kind.text, own) ∈ sources s.feature ∧
    SpriteSet.showingAll id u = .ok sets shown ∧
    Declared own (drawsFor s.total) (fun o => ∃ c ∈ s.dependent, Refers shown c o)
      (fun o => ∃ c ∈ s.independent, Refers shown c o) r.firstBit r.draws
  body : (t.graph.node node).body = .random r
  weights : r.choices.map RandomResult.weight = weights s.probabilities (r.draws - s.total)
  patches : ∃ before patches later,
    actions = before ++ Action.patching patches ++ [.node node] ++ later ∧
    patches.map Patch.place = choicePlaces (s.choices.zip (s.probabilities.zip
      (RandomSwitch.weights s.probabilities (r.draws - s.total)))) (if r.count.isSome then 8 else 7)

theorem length_weights (probabilities : List Nat) (more : Nat) :
    (weights probabilities more).length = probabilities.length := by
  induction more with
  | zero => rfl
  | succ more ih => rw [weights, length_modify, ih]

theorem map_parts (s : RandomSwitch) (more : Nat) :
    (s.choices.zip (s.probabilities.zip (weights s.probabilities more))).map (·.2.2) =
      weights s.probabilities more := by
  have inner : (s.probabilities.zip (weights s.probabilities more)).length = s.choices.length := by
    rw [length_zip, length_weights, min_self, probabilities, length_map]
  calc (s.choices.zip (s.probabilities.zip (weights s.probabilities more))).map (·.2.2)
    _ = ((s.choices.zip (s.probabilities.zip (weights s.probabilities more))).map Prod.snd).map
          Prod.snd := (map_map ..).symm
    _ = (s.probabilities.zip (weights s.probabilities more)).map Prod.snd := by
        rw [map_snd_zip inner.le]
    _ = weights s.probabilities more := map_snd_zip (length_weights ..).le

theorem ok_of_unless {α : Type} {c : Prop} [Decidable c] {text : String} {pos : Option Position}
    {next : Unit → Build α} {s t : Session} {a : α}
    (run : (if c then Build.fail text pos >>= next else next ()) s = .ok a t) :
    next () s = .ok a t := by
  split at run
  · obtain ⟨_, _, failed, -⟩ := Build.bind_eq_ok.1 run
    exact (Build.fail_ne_ok.1 failed).elim
  · exact run

/-- What is done after the node has been filled: a count that is not known gets a node of its own,
which leads to the first one. -/
theorem finish_eq_ok {id node : Nat} {s : RandomSwitch} {computed : Option Expr}
    {own actions : List Action} {u t : Session}
    (run : (match computed with
      | none => do
        Build.setNode id s.feature node
        let actions ← pure own
        Assign.restoreParams
        pure actions
      | some e => do
        let d ← Chain.ofExpr s.feature .self e
        let x ← leadingTo d (s.name.text ++ "@registers") (some s.pos) node false
        Build.setNode id s.feature x.2
        let actions ← pure (own ++ x.1)
        Assign.restoreParams
        pure actions : Build (List Action)) u = .ok actions t) :
    ∃ later, actions = own ++ later ∧ u.Grows t := by
  cases computed with
  | none =>
    obtain ⟨_, u₁, set, run⟩ := Build.bind_eq_ok.1 run
    obtain ⟨_, u₂, same, run⟩ := Build.bind_eq_ok.1 run
    obtain ⟨rfl, rfl⟩ := Build.pure_eq_ok.1 same
    obtain ⟨_, u₃, restored, run⟩ := Build.bind_eq_ok.1 run
    obtain ⟨rfl, rfl⟩ := Build.pure_eq_ok.1 run
    obtain rfl := Build.modify_eq_ok.1 restored
    have set := ((inferInstance : Fixed (Build.setNode id s.feature node)).of_ok set).1
    exact ⟨[], (append_nil _).symm, .of_sameNodes ⟨set.nodes, set.freeIds⟩⟩
  | some e =>
    obtain ⟨d, u₁, built, run⟩ := Build.bind_eq_ok.1 run
    obtain ⟨⟨more, i⟩, u₂, led, run⟩ := Build.bind_eq_ok.1 run
    obtain ⟨_, u₃, set, run⟩ := Build.bind_eq_ok.1 run
    obtain ⟨_, u₄, same, run⟩ := Build.bind_eq_ok.1 run
    obtain ⟨rfl, rfl⟩ := Build.pure_eq_ok.1 same
    obtain ⟨_, u₅, restored, run⟩ := Build.bind_eq_ok.1 run
    obtain ⟨rfl, rfl⟩ := Build.pure_eq_ok.1 run
    obtain rfl := Build.modify_eq_ok.1 restored
    have chained := ((inferInstance : Makes (Chain.run s.feature .self
      (Chain.pushAll Chain.compile e))).of_ok built).1
    have led := ((inferInstance : Makes (leadingTo d (s.name.text ++ "@registers") (some s.pos)
      node false)).of_ok led).1
    have set := ((inferInstance : Fixed (Build.setNode id s.feature i)).of_ok set).1
    exact ⟨more, rfl, (chained.trans led).trans
      (.of_sameNodes ⟨set.nodes, set.freeIds⟩)⟩

theorem actions_made {s : RandomSwitch} {id : Nat} {u t : Session} {actions : List Action}
    (run : s.actions id u = .ok actions t) : ∃ node r, s.Made id u actions t node r := by
  obtain ⟨sets, shown, shows, run⟩ := Build.bind_eq_ok.1 run
  obtain ⟨⟨source, count, computed⟩, u₁, sourced, run⟩ := Build.bind_eq_ok.1 run
  obtain ⟨rfl, known⟩ := source_known (R := (shown = ·)) s rfl sourced
  dsimp only at run
  replace run := ok_of_unless run
  obtain ⟨dependent, u₂, looked, run⟩ := Build.bind_eq_ok.1 run
  obtain ⟨rfl, depends⟩ := placed_gives _ s.dependent rfl looked
  obtain ⟨independent, u₃, looked', run⟩ := Build.bind_eq_ok.1 run
  obtain ⟨rfl, avoids⟩ := placed_gives _ s.independent rfl looked'
  cases chosen : place s.name.text source (drawsFor s.total) dependent (independent.map (·.2)) with
  | error text =>
    rw [total, probabilities] at chosen
    simp only [chosen] at run
    obtain ⟨_, _, failed, -⟩ := Build.bind_eq_ok.1 run
    exact (Build.fail_ne_ok.1 failed).elim
  | ok r =>
    obtain ⟨bit, draws⟩ := r
    have chosen' := chosen
    rw [total, probabilities] at chosen'
    simp only [chosen'] at run
    obtain ⟨_, u₄, same, run⟩ := Build.bind_eq_ok.1 run
    obtain ⟨rfl, rfl⟩ := Build.pure_eq_ok.1 same
    obtain ⟨node, u₅, created, run⟩ := Build.bind_eq_ok.1 run
    obtain ⟨_, u₆, noted, run⟩ := Build.bind_eq_ok.1 run
    obtain ⟨_, u₇, saved, run⟩ := Build.bind_eq_ok.1 run
    obtain ⟨⟨choices, d⟩, u₈, drafted, run⟩ := Build.bind_eq_ok.1 run
    obtain ⟨_, u₉, filled, run⟩ := Build.bind_eq_ok.1 run
    obtain ⟨grown, weights, patched⟩ :=
      (draftChoices_patched _ _ _ _ _ [] _ (by rfl)).of_ok drafted
    obtain rfl := Build.modify_eq_ok.1 noted
    obtain rfl := Build.modify_eq_ok.1 saved
    obtain ⟨new, rfl⟩ := Build.newNode_eq_ok.1 created
    have below : node < u₈.graph.nodes.size :=
      Nat.lt_of_lt_of_le (by simp [Graph.addNode, ← new]) grown.size
    obtain rfl := Build.modify_eq_ok.1 filled
    obtain ⟨later, same, kept⟩ := finish_eq_ok run
    have body := kept.body node (by simpa [Graph.modifyNode] using below)
    rw [Graph.node_modifyNode below] at body
    refine ⟨node, _, ⟨source, sets, _, known, shows, ?_⟩, body, ?_, _, d.patches, later, same,
      patched⟩
    · exact (place_declared chosen).congr depends avoids
    · exact weights.trans (s.map_parts _)

/-- Random switches of a feature that have become nodes, one after the other. Each depends on some
of those before it and is independent of others. -/
inductive Generated (feature : Int) : List Placed → Prop where
  | none : Generated feature []
  | next {earlier dependent independent : List Placed} {name kind : String} {source : Source}
      {total bit draws : Nat} {node : RandomNode} : Generated feature earlier →
      (kind, source) ∈ sources feature → dependent ⊆ earlier → independent ⊆ earlier →
      place name source (drawsFor total) dependent (independent.map (·.2)) = .ok (bit, draws) →
      node.firstBit = bit → node.draws = draws → Generated feature ((name, node) :: earlier)

theorem Generated.isPower {feature : Int} {earlier : List Placed} (h : Generated feature earlier) :
    ∀ p ∈ earlier, IsPower p.2.draws := by
  induction h with
  | none => exact fun p inside => absurd inside not_mem_nil
  | next _ _ within _ placed _ draws ih =>
    refine forall_mem_cons.2 ⟨?_, ih⟩
    obtain ⟨-, rfl | ⟨d, inside, rfl⟩, -⟩ := place_eq_ok placed
    · exact draws ▸ drawsFor_isPower _
    · exact draws ▸ ih d (within inside)

/-- Whatever random switches there are before, the bits of a switch that is accepted are those it
declares, and it draws from a power of two of numbers. A switch that depends on no other one is
accepted if there is any place for its bits. What a switch becomes has such bits, as to the switches
that it refers to and that have become nodes by then. -/
theorem random_bits_as_declared {feature : Int} {earlier dependent independent : List Placed}
    {kind : String} {source : Source} (history : Generated feature earlier)
    (known : (kind, source) ∈ sources feature) (depends : dependent ⊆ earlier)
    (name : String) (total : Nat) :
    (IsPower (drawsFor total) ∧ total ≤ drawsFor total) ∧
    (∀ bit draws, place name source (drawsFor total) dependent (independent.map (·.2)) =
        .ok (bit, draws) →
      IsPower draws ∧ Declared source (drawsFor total) (fun o => ∃ n, (n, o) ∈ dependent)
        (fun o => ∃ n, (n, o) ∈ independent) bit draws) ∧
    (dependent = [] → (∃ bit, ∀ b, Uses bit (drawsFor total) b → source.Has b ∧
        ∀ i ∈ independent, ¬ Uses i.2.firstBit i.2.draws b) →
      ∃ found, place name source (drawsFor total) dependent (independent.map (·.2)) = .ok found) ∧
    ∀ (s : RandomSwitch) id u actions t, s.actions id u = .ok actions t →
      ∃ node r own sets shown, .node node ∈ actions ∧ (t.graph.node node).body = .random r ∧
        (s.kind.text, own) ∈ sources s.feature ∧ SpriteSet.showingAll id u = .ok sets shown ∧
        Declared own (drawsFor s.total) (fun o => ∃ c ∈ s.dependent, Refers shown c o)
          (fun o => ∃ c ∈ s.independent, Refers shown c o) r.firstBit r.draws := by
  refine ⟨⟨drawsFor_isPower total, le_drawsFor total⟩, fun bit draws placed => ?_, ?_, ?_⟩
  · have declared := place_declared placed
    refine ⟨declared.power ?_, declared⟩
    rintro o ⟨n, inside⟩
    exact history.isPower _ (depends inside)
  · rintro rfl ⟨bit, room⟩
    obtain ⟨bit, has, free⟩ := fits_of_room known room
    obtain ⟨found, placed⟩ := place_of_free has free
    exact ⟨_, placed⟩
  · intro s id u actions t run
    obtain ⟨node, r, made⟩ := actions_made run
    obtain ⟨own, sets, shown, known, shows, declared⟩ := made.declared
    obtain ⟨before, patches, later, rfl, -⟩ := made.patches
    exact ⟨node, r, own, sets, shown, by simp, made.body, known, shows, declared⟩

/-- What a random switch of trains looks at. -/
def trainBits : Source := ⟨0x80, 0, 16, true, none⟩

def drawing (firstBit draws : Nat) : RandomNode :=
  { kind := 0x80, count := none, triggers := 0, firstBit, draws }

/-- A switch that needs two draws and depends on one with four uses the two bits of this one.
Another switch looks at the next bit. -/
theorem dependent_switch_draws_more : Generated 0 [("b", drawing 2 2), ("a", drawing 0 4)] ∧
    place "c" trainBits (drawsFor 2) [("a", drawing 0 4)] [drawing 2 2] = .ok (0, 4) ∧
    drawsFor 2 = 2 ∧ (∀ b, Uses 0 4 b → trainBits.Has b) ∧ ∀ b, Uses 0 4 b → ¬ Uses 2 2 b := by
  have known : ("SELF", trainBits) ∈ sources 0 := mem_cons_self
  have first : Generated 0 [("a", drawing 0 4)] :=
    .next .none known (nil_subset _) (nil_subset _) (show place "a" trainBits (drawsFor 3) [] [] =
      .ok (0, 4) from rfl) rfl rfl
  have second : Generated 0 [("b", drawing 2 2), ("a", drawing 0 4)] :=
    .next first known (nil_subset _) (Subset.refl _) (show place "b" trainBits (drawsFor 2) []
      [drawing 0 4] = .ok (2, 2) from rfl) rfl rfl
  have placed : place "c" trainBits (drawsFor 2) [("a", drawing 0 4)] [drawing 2 2] =
    .ok (0, 4) := rfl
  have depends : [("a", drawing 0 4)] ⊆ [("b", drawing 2 2), ("a", drawing 0 4)] :=
    subset_cons_self ..
  obtain ⟨-, accepted, -⟩ :=
    @random_bits_as_declared 0 _ _ [("b", drawing 2 2)] _ _ second known depends "c" 2
  obtain ⟨-, declared⟩ := accepted 0 4 placed
  exact ⟨second, placed, rfl, declared.inside, declared.apart _ ⟨"b", mem_cons_self⟩⟩

/-- The better one of the best choice so far and the next one. -/
def better (best : Option (Nat × Nat × Nat)) (c : (Nat × Nat) × Nat) : Option (Nat × Nat × Nat) :=
  match best with
  | none => if 0 < c.1.1 then some (c.2, c.1.1, c.1.2 + 1) else none
  | some b => if c.1.1 * b.2.2 > b.2.1 * (c.1.2 + 1) then some (c.2, c.1.1, c.1.2 + 1) else some b

theorem neediest_eq (ps ws : List Nat) :
    neediest ps ws = (((ps.zip ws).zipIdx.foldl better none).map (·.1)).getD 0 := by
  unfold neediest
  dsimp only
  congr
  funext best c
  obtain ⟨⟨p, w⟩, i⟩ := c
  cases best with
  | none => rfl
  | some b => rfl

/-- How much a choice needs one more draw. -/
def need (p w : Nat) : ℚ := p / (w + 1)

/-- A choice needs a draw no less than any other one of a list. -/
def Best (xs : List ((Nat × Nat) × Nat)) : Option (Nat × Nat × Nat) → Prop
  | none => xs = []
  | some b => ∃ w, b.2.2 = w + 1 ∧ ((b.2.1, w), b.1) ∈ xs ∧
    ∀ x ∈ xs, need x.1.1 x.1.2 ≤ need b.2.1 w

theorem need_lt_iff {p w q v : Nat} : need q v < need p w ↔ q * (w + 1) < p * (v + 1) := by
  unfold need
  rw [div_lt_div_iff₀ (Nat.cast_add_one_pos v) (Nat.cast_add_one_pos w)]
  exact_mod_cast Iff.rfl

theorem need_anti {p u w : Nat} (le : u ≤ w) : need p w ≤ need p u :=
  div_le_div_of_nonneg_left (Nat.cast_nonneg p) (Nat.cast_add_one_pos u)
    (by exact_mod_cast Nat.succ_le_succ le)

theorem Best.next {xs : List ((Nat × Nat) × Nat)} {best : Option (Nat × Nat × Nat)}
    (h : Best xs best) {c : (Nat × Nat) × Nat} (positive : 0 < c.1.1) :
    Best (xs ++ [c]) (better best c) := by
  cases best with
  | none =>
    obtain rfl : xs = [] := h
    rw [better, if_pos positive]
    exact ⟨c.1.2, rfl, mem_cons_self, by simp⟩
  | some b =>
    obtain ⟨w, size, inside, most⟩ := h
    simp only [better, size]
    split
    · next more =>
      have larger : need b.2.1 w < need c.1.1 c.1.2 := need_lt_iff.2 more
      refine ⟨c.1.2, rfl, mem_append_right _ mem_cons_self, fun x mem => ?_⟩
      obtain mem | mem := mem_append.1 mem
      · exact (most x mem).trans larger.le
      · rw [mem_singleton.1 mem]
    · next less =>
      refine ⟨w, size, mem_append_left _ inside, fun x mem => ?_⟩
      obtain mem | mem := mem_append.1 mem
      · exact most x mem
      · rw [mem_singleton.1 mem]
        exact le_of_not_gt fun larger => less (need_lt_iff.1 larger)

theorem Best.all {xs ys : List ((Nat × Nat) × Nat)} {best : Option (Nat × Nat × Nat)}
    (h : Best xs best) (positive : ∀ c ∈ ys, 0 < c.1.1) :
    Best (xs ++ ys) (ys.foldl better best) := by
  induction ys generalizing xs best with
  | nil => rwa [append_nil]
  | cons c ys ih =>
    rw [forall_mem_cons] at positive
    have rest := ih (h.next positive.1) positive.2
    rwa [append_assoc, singleton_append] at rest

theorem neediest_needs_most {ps ws : List Nat} (filled : ps ≠ []) (positive : ∀ p ∈ ps, 0 < p)
    (same : ws.length = ps.length) : ∃ p w, ps[neediest ps ws]? = some p ∧
      ws[neediest ps ws]? = some w ∧
      ∀ (i q v : Nat), ps[i]? = some q → ws[i]? = some v → need q v ≤ need p w := by
  have entry : ∀ x, x ∈ (ps.zip ws).zipIdx ↔ ps[x.2]? = some x.1.1 ∧ ws[x.2]? = some x.1.2 :=
    fun x => by rw [mem_zipIdx_iff_getElem?, getElem?_zip_eq_some]
  have best : Best ([] ++ (ps.zip ws).zipIdx) ((ps.zip ws).zipIdx.foldl better none) :=
    Best.all (show Best [] none from rfl) fun c mem =>
      positive _ (mem_of_getElem? ((entry c).1 mem).1)
  rw [nil_append] at best
  rw [neediest_eq]
  cases found : (ps.zip ws).zipIdx.foldl better none with
  | none =>
    rw [found] at best
    have := congrArg length (show (ps.zip ws).zipIdx = [] from best)
    exact absurd (by simpa [same] using this) filled
  | some b =>
    rw [found] at best
    obtain ⟨w, -, inside, most⟩ := best
    obtain ⟨first, second⟩ := (entry _).1 inside
    exact ⟨_, w, first, second, fun i q v left right =>
      most ((q, v), i) ((entry _).2 ⟨left, right⟩)⟩

/-- Draws that are shared out fairly: each choice has at least its own, and none of those that have
more would rather have been passed over. -/
structure Apportioned (ps ws : List Nat) (draws : Nat) : Prop where
  length : ws.length = ps.length
  total : Number.total ws = draws
  least : ∀ (i p w : Nat), ps[i]? = some p → ws[i]? = some w → p ≤ w
  greedy : ∀ (i j p w q v : Nat), ps[i]? = some p → ws[i]? = some w →
    ps[j]? = some q → ws[j]? = some v → q < v → (p : ℚ) / (w + 1) ≤ q / v

theorem total_modify {ws : List Nat} {k : Nat} (inside : k < ws.length) :
    Number.total (ws.modify k (· + 1)) = Number.total ws + 1 := by
  induction ws generalizing k with
  | nil => simp at inside
  | cons w ws ih =>
    cases k with
    | zero => simp only [modify_zero_cons, Number.total_cons]; omega
    | succ k =>
      have := ih (Nat.lt_of_succ_lt_succ inside)
      simp only [modify_succ_cons, Number.total_cons, this]
      omega

theorem Apportioned.give {ps ws : List Nat} {draws : Nat} (h : Apportioned ps ws draws)
    (filled : ps ≠ []) (positive : ∀ p ∈ ps, 0 < p) :
    Apportioned ps (ws.modify (neediest ps ws) (· + 1)) (draws + 1) := by
  obtain ⟨p, w, own, has, most⟩ := neediest_needs_most filled positive h.length
  -- What a choice has now is what it had before, and one more if it is the one in need.
  have split : ∀ (i v : Nat), (ws.modify (neediest ps ws) (· + 1))[i]? = some v →
      ∃ u, ws[i]? = some u ∧ (neediest ps ws = i ∧ v = u + 1 ∨ neediest ps ws ≠ i ∧ v = u) := by
    intro i v found
    rw [getElem?_modify] at found
    obtain ⟨u, before, rfl⟩ := Option.map_eq_some_iff.1 found
    refine ⟨u, before, ?_⟩
    split <;> simp_all
  constructor
  · rw [length_modify, h.length]
  · rw [total_modify (List.getElem?_eq_some_iff.1 has).1, h.total]
  · intro i q v left right
    obtain ⟨u, before, ⟨-, rfl⟩ | ⟨-, rfl⟩⟩ := split i v right
    · exact (h.least i q u left before).trans (Nat.le_succ u)
    · exact h.least i q _ left before
  · intro i j p' w' q v left right left' right' more
    obtain ⟨u, before, now⟩ := split i w' right
    obtain ⟨u', before', now'⟩ := split j v right'
    refine (need_anti (show u ≤ w' by omega)).trans ?_
    obtain ⟨rfl, rfl⟩ | ⟨-, rfl⟩ := now'
    · obtain rfl : q = p := Option.some.inj (left'.symm.trans own)
      obtain rfl : u' = w := Option.some.inj (before'.symm.trans has)
      have := most i p' u left before
      simpa [need] using this
    · exact h.greedy i j p' u q v left before left' before' more

end RandomSwitch

/-- Pieces of the sprite of a random switch. The words of a result have the number of its choice. -/
abbrev RandomNode.Numbered := List (Option Nat × Piece)

namespace RandomNode.Numbered

variable {i j k offset : Nat} {xs ys : Numbered} {n : Numbering} {results : List RandomResult}

def pieces (xs : Numbered) : List Piece := xs.map (·.2)

def size (xs : Numbered) : Nat := Piece.sizeOf xs.pieces

theorem size_append (xs ys : Numbered) : size (xs ++ ys) = xs.size + ys.size := by
  simp [size, pieces, Piece.sizeOf, Number.total_append]

end RandomNode.Numbered

namespace RandomSwitch

open RandomNode (Numbered)

end RandomSwitch

end NewGrf
