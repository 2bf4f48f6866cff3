import Mathlib.Data.List.Nodup
import NewGrf.Proofs.Pieces

open List

namespace NewGrf.Assign

open Build

open Assign.Piece

section Cutting

variable {c : Condition} {param : Int} {pos : Option Position}

variable {as out bs : List Action} {p : Piece} {ways : SkipWays} {run : List Piece} {s t : Session}

/-- What a skip of one kind can pass over is added to a run that only skips of this kind can pass
over. -/
theorem skipRuns_absorb {kind}
    (isKind : kind = 7 ∨ kind = 9) (passable : ∀ a ∈ as, a.passableBy kind = true)
    (rest run : List Action) :
    skipRuns c param pos (as ++ rest) ⟨false, kind == 7, kind == 9⟩ run =
      skipRuns c param pos rest ⟨false, kind == 7, kind == 9⟩ (as.reverse ++ run) := by
  induction as generalizing run with
  | nil => rfl
  | cons a as ih =>
    have own : a.passableBy kind = true := passable a mem_cons_self
    have both : (SkipWays.mk false (kind == 7) (kind == 9)).and (.of a) =
        ⟨false, kind == 7, kind == 9⟩ := by
      rcases isKind with rfl | rfl <;>
        simp_all [SkipWays.and, SkipWays.of, Action.passableBy]
    have any : (SkipWays.mk false (kind == 7) (kind == 9)).any = true := by
      rcases isKind with rfl | rfl <;> rfl
    rw [cons_append, skipRuns]
    simp only [both, any, Bool.and_false, Bool.not_false, Bool.and_true, if_true]
    rw [ih fun b mem => passable b (mem_cons_of_mem a mem)]
    simp

/-- Actions that stand in one piece are added to a run, or begin a new one, as a whole. -/
theorem skipRuns_piece (whole : p.Whole) (rest : List Action) (ways : SkipWays)
    (run : List Action) :
    skipRuns c param pos (p.actions ++ rest) ways run =
      if (ways.and p.ways).any && !(!run.isEmpty && ways.leave && !(ways.and p.ways).leave) then
        skipRuns c param pos rest (ways.and p.ways) (p.actions.reverse ++ run)
      else (do
        let done ← skipRun c param pos ways run.reverse
        pure (done ++ (← skipRuns c param pos rest p.ways p.actions.reverse))) := by
  cases p with
  | leaf a isLeaf => rfl
  | label l => rfl
  | skipped s inner =>
    obtain ⟨isKind, target, passable⟩ := whole
    have own : SkipWays.of (.skip s) = ⟨false, s.kind == 7, s.kind == 9⟩ := by
      simp [SkipWays.of, Action.skipMatters, Action.skippable7, Action.skippable9, target]
    have joined (any : (ways.and (.of (.skip s))).any = true) :
        ways.and (.of (.skip s)) = .of (.skip s) := by
      rw [own] at any ⊢
      rcases isKind with kind | kind <;> simp_all [SkipWays.and, SkipWays.any]
    have absorbed (run : List Action) :
        skipRuns c param pos (actionsAll inner ++ rest) (.of (.skip s)) run =
          skipRuns c param pos rest (.of (.skip s)) ((actionsAll inner).reverse ++ run) := by
      rw [own]
      exact skipRuns_absorb isKind passable rest run
    have same : (skipped s inner).ways = .of (.skip s) := own.symm
    rw [same, actions, cons_append, skipRuns]
    by_cases any : (ways.and (.of (.skip s))).any = true
    · simp only [joined any, absorbed, reverse_cons, append_assoc, cons_append,
        nil_append]
    · simp only [any, Bool.false_and, Bool.false_eq_true, if_false, absorbed, reverse_cons]

/-- What may be done with a run that has begun. -/
structure Begun (ways : SkipWays) (p : Piece) (run : List Piece) : Prop where
  any : ways.any = true
  leave : ways.leave = true → ∀ q ∈ p :: run, q.ways.leave = true
  begins : ways.leave = false → p.ways.leave = false
  by7 : ways.by7 = true → ∀ q ∈ p :: run, q.ways.by7 = true
  by9 : ways.by9 = true → ∀ q ∈ p :: run, q.ways.by9 = true

theorem Piece.any_ways (whole : p.Whole) : p.ways.any = true := by
  cases p with
  | leaf a isLeaf => cases a <;> first | rfl | cases isLeaf
  | label l => rfl
  | skipped s run => rcases whole.1 with kind | kind <;> simp [ways, SkipWays.any, kind]

theorem Begun.single (whole : p.Whole) : Begun p.ways p [] :=
  ⟨any_ways whole, by simp, id, by simp, by simp⟩

theorem Begun.add {q : Piece} (begun : Begun ways p run) (any : (ways.and q.ways).any = true)
    (kept : ways.leave = true → (ways.and q.ways).leave = true) :
    Begun (ways.and q.ways) p (run ++ [q]) := by
  have extend {f : SkipWays → Bool} (old : f ways = true → ∀ r ∈ p :: run, f r.ways = true)
      (both : f (ways.and q.ways) = true → f ways = true ∧ f q.ways = true)
      (h : f (ways.and q.ways) = true) : ∀ r ∈ p :: (run ++ [q]), f r.ways = true := by
    intro r mem
    rw [← cons_append] at mem
    rcases mem_append.1 mem with mem | mem
    · exact old (both h).1 r mem
    · rw [mem_singleton.1 mem]
      exact (both h).2
  refine ⟨any, extend (f := SkipWays.leave) begun.leave (by simp [SkipWays.and]), fun lost => ?_,
    extend (f := SkipWays.by7) begun.by7 (by simp [SkipWays.and]),
    extend (f := SkipWays.by9) begun.by9 (by simp [SkipWays.and])⟩
  refine begun.begins ?_
  cases leave : ways.leave with
  | false => rfl
  | true => rw [kept leave] at lost; cases lost

/-- The labels among some actions are not free any more. -/
def Spent (s : Session) (as : List Action) : Prop :=
  ∀ l ∈ s.labels.free, ∀ a ∈ as, a.isLabelOf l = false

/-- Every label that is free can be told from a count. -/
def LabelsFit (s : Session) : Prop := ∀ l ∈ s.labels.free, 0x10 ≤ l

theorem popLabel_eq_ok {l : Int}
    (h : popLabel pos s = .ok l t) (fit : LabelsFit s) : 0x10 ≤ l ∧ LabelsFit t := by
  simp only [popLabel, Build.bind_eq_ok, Build.get_eq_ok, Build.ofExcept_eq_ok,
    Build.modify_eq_ok, Build.pure_eq_ok] at h
  obtain ⟨_, _, ⟨rfl, rfl⟩, ⟨n, labels⟩, _, ⟨popped, rfl⟩, _, _, rfl, rfl, rfl⟩ := h
  unfold FreeNumbers.pop at popped
  split at popped
  · cases popped
  · rename_i n rest free
    cases popped
    have all := fit
    simp only [LabelsFit, free, mem_cons, forall_eq_or_imp] at all
    exact ⟨all.1, all.2⟩

/-- Labels can be told from counts and from each other. -/
structure LabelsApart (s : Session) : Prop where
  fit : LabelsFit s
  nodup : s.labels.free.Nodup

theorem popLabel_spends {l} (h : popLabel pos s = .ok l t) (apart : LabelsApart s) :
    LabelsApart t ∧ 0x10 ≤ l ∧ s.labels.free = l :: t.labels.free := by
  have fits := popLabel_eq_ok h apart.fit
  simp only [popLabel, bind_eq_ok, get_eq_ok, ofExcept_eq_ok,
    modify_eq_ok, pure_eq_ok] at h
  obtain ⟨_, _, ⟨rfl, rfl⟩, ⟨n, labels⟩, _, ⟨popped, rfl⟩, _, _, rfl, rfl, rfl⟩ := h
  unfold FreeNumbers.pop at popped
  split at popped
  · cases popped
  · rename_i n rest free
    cases popped
    have nodup := apart.nodup
    rw [free] at nodup
    exact ⟨⟨fits.2, (nodup_cons.1 nodup).2⟩, fits.1, free⟩

/-- What is known of labels after some actions have been made of others. -/
structure Spending (s t : Session) (out : List Action) : Prop where
  apart : LabelsApart t
  fewer : t.labels.free ⊆ s.labels.free
  spent : Spent t out

theorem skipRun_wraps (begun : Begun ways p run) (apart : LabelsApart s)
    (spent : Spent s (actionsAll (p :: run)))
    (h : skipRun c param pos ways (actionsAll (p :: run)) s = .ok out t) :
    ∃ qs, out = actionsAll qs ∧ Spending s t out ∧
      ∀ {rest out}, Wrapped c param rest out → Wrapped c param (p :: run ++ rest) (qs ++ out) := by
  unfold skipRun at h
  cases leave : ways.leave with
  | true =>
    simp only [leave, if_true, pure_eq_ok] at h
    obtain ⟨rfl, rfl⟩ := h
    exact ⟨_, rfl, ⟨apart, List.Subset.refl _, spent⟩, .left (begun.leave leave)⟩
  | false =>
    simp only [leave, Bool.false_eq_true, if_false] at h
    obtain ⟨kind, isKind, isChosen, passable⟩ : ∃ kind, (kind = 7 ∨ kind = 9) ∧
        (if ways.by7 then 7 else 9) = kind ∧ ∀ q ∈ p :: run, q.passableBy kind = true := by
      cases by7 : ways.by7 with
      | true => exact ⟨7, .inl rfl, rfl, begun.by7 by7⟩
      | false =>
        have by9 : ways.by9 = true := by simpa [SkipWays.any, leave, by7] using begun.any
        exact ⟨9, .inr rfl, rfl, begun.by9 by9⟩
    rw [isChosen] at h
    split at h
    · rename_i short
      simp only [pure_eq_ok] at h
      obtain ⟨rfl, rfl⟩ := h
      refine ⟨[.skipped _ (p :: run)], by simp [actionsAll, actions],
        ⟨apart, List.Subset.refl _, ?_⟩,
        .counted kind isKind (begun.begins leave) passable short⟩
      intro l free a mem
      rcases mem_cons.1 mem with rfl | mem
      · rfl
      · exact spent l free a mem
    · simp only [bind_eq_ok, pure_eq_ok] at h
      obtain ⟨l, u, popped, rfl, rfl⟩ := h
      obtain ⟨apart', isLabel, free⟩ := popLabel_spends popped apart
      have fewer : u.labels.free ⊆ s.labels.free := by
        rw [free]
        exact subset_cons_self _ _
      refine ⟨[.skipped _ (p :: run), .label l], by simp [actionsAll, actions],
        ⟨apart', fewer, ?_⟩,
        .labelled kind isKind (begun.begins leave) passable l isLabel
          (spent l (by rw [free]; exact mem_cons_self))⟩
      intro m isFree a mem
      rw [cons_append] at mem
      rcases mem_cons.1 mem with rfl | mem
      · rfl
      rcases mem_append.1 mem with mem | mem
      · exact spent m (fewer isFree) a mem
      · rw [mem_singleton.1 mem]
        have nodup := apart.nodup
        rw [free] at nodup
        have other : l ≠ m := fun same => (nodup_cons.1 nodup).1 (same ▸ isFree)
        simpa [Action.isLabelOf] using other

theorem Spent.mono (spent : Spent s as) (fewer : t.labels.free ⊆ s.labels.free) : Spent t as :=
  fun l free => spent l (fewer free)

theorem Spent.append (spent : Spent s as) (spent' : Spent s bs) : Spent s (as ++ bs) := by
  intro l free a mem
  rcases mem_append.1 mem with mem | mem
  · exact spent l free a mem
  · exact spent' l free a mem

theorem Spent.of_append (spent : Spent s (as ++ bs)) : Spent s as ∧ Spent s bs :=
  ⟨fun l free a mem => spent l free a (mem_append_left _ mem),
    fun l free a mem => spent l free a (mem_append_right _ mem)⟩

theorem skipRuns_wraps {rest} (wholes : ∀ p ∈ rest, p.Whole) (begun : Begun ways p run)
    (apart : LabelsApart s) (spent : Spent s (actionsAll (p :: run ++ rest)))
    (h : skipRuns c param pos (actionsAll rest) ways (actionsAll (p :: run)).reverse s =
      .ok out t) :
    ∃ qs, Wrapped c param (p :: run ++ rest) qs ∧ out = actionsAll qs ∧ Spending s t out := by
  induction rest generalizing ways p run s out with
  | nil =>
    rw [actionsAll, skipRuns, reverse_reverse] at h
    rw [append_nil] at spent ⊢
    obtain ⟨qs, rfl, spending, wrap⟩ := skipRun_wraps begun apart spent h
    exact ⟨qs, by simpa using wrap .nil, rfl, spending⟩
  | cons q rest ih =>
    have whole : q.Whole := wholes q mem_cons_self
    have later : ∀ r ∈ rest, r.Whole := fun r mem => wholes r (mem_cons_of_mem q mem)
    rw [actionsAll, skipRuns_piece whole] at h
    split at h
    · rename_i joins
      have some : (actionsAll (p :: run)).isEmpty = false :=
        isEmpty_eq_false_iff.2 (actionsAll_cons_ne_nil p run)
      simp only [isEmpty_reverse, some, Bool.not_false, Bool.true_and, Bool.and_eq_true,
        Bool.not_eq_true', Bool.and_eq_false_iff, Bool.not_eq_false'] at joins
      have added := begun.add joins.1 fun leave => joins.2.resolve_left (by simp [leave])
      rw [← reverse_append] at h
      have whole' : p :: run ++ q :: rest = p :: (run ++ [q]) ++ rest := by simp
      rw [whole'] at spent ⊢
      refine ih later added apart spent ?_
      simpa [actionsAll] using h
    · simp only [reverse_reverse, bind_eq_ok, pure_eq_ok] at h
      obtain ⟨done, u, first, more, t, others, rfl, rfl⟩ := h
      rw [actionsAll_append] at spent
      obtain ⟨qs, rfl, spending, wrap⟩ := skipRun_wraps begun apart spent.of_append.1 first
      obtain ⟨rs, wrapped, rfl, spending'⟩ := ih later (Begun.single whole) spending.apart
        (spent.of_append.2.mono spending.fewer) (by simpa [actionsAll] using others)
      refine ⟨qs ++ rs, wrap wrapped, by simp, spending'.apart,
        List.Subset.trans spending'.fewer spending.fewer, ?_⟩
      exact (spending.spent.mono spending'.fewer).append spending'.spent

theorem behind_wraps {ps} (wholes : ∀ p ∈ ps, p.Whole) (apart : LabelsApart s)
    (spent : Spent s (actionsAll ps)) (h : behind c param pos (actionsAll ps) s = .ok out t) :
    ∃ qs, Wrapped c param ps qs ∧ out = actionsAll qs ∧ Spending s t out := by
  cases ps with
  | nil =>
    obtain ⟨rfl, rfl⟩ := pure_eq_ok.1 h
    exact ⟨[], .nil, rfl, apart, List.Subset.refl _, spent⟩
  | cons p rest =>
    have whole : p.Whole := wholes p mem_cons_self
    have all : ({} : SkipWays).and p.ways = p.ways := by simp [SkipWays.and]
    simp only [behind, isEmpty_eq_false_iff.2 (actionsAll_cons_ne_nil p rest),
      Bool.false_eq_true, if_false] at h
    rw [actionsAll, skipRuns_piece whole] at h
    simp only [all, any_ways whole, isEmpty_nil, Bool.not_true, Bool.false_and,
      Bool.not_false, Bool.and_self, if_true, append_nil] at h
    exact skipRuns_wraps (fun q mem => wholes q (mem_cons_of_mem p mem)) (Begun.single whole)
      apart spent (by simpa [actionsAll] using h)

end Cutting

mutual

theorem Nest.build_nested : ∀ (n : Nest) {s t : Session} {out : List Action},
    LabelsApart s → n.build s = .ok out t →
      ∃ ps, out = actionsAll ps ∧ Spending s t out ∧
        ∀ {ns rs}, Nested ns rs → Nested (n :: ns) (ps ++ rs)
  | .leaf a isLeaf, s, t, out, apart, h => by
    obtain ⟨rfl, rfl⟩ := pure_eq_ok.1 h
    refine ⟨[.leaf a isLeaf], rfl, ⟨apart, List.Subset.refl _, ?_⟩, .leaf⟩
    intro l _ b mem
    rw [mem_singleton.1 mem]
    cases a <;> first | rfl | cases isLeaf
  | .guarded c param pos body, s, t, out, apart, h => by
    obtain ⟨inner, u, first, wraps⟩ := bind_eq_ok.1 h
    obtain ⟨ps, nested, rfl, spending⟩ := Nest.buildAll_nested body apart first
    obtain ⟨qs, wrapped, rfl, spending'⟩ :=
      behind_wraps nested.whole spending.apart spending.spent wraps
    exact ⟨qs, rfl, ⟨spending'.apart, List.Subset.trans spending'.fewer spending.fewer,
      spending'.spent⟩, .guarded nested wrapped⟩

theorem Nest.buildAll_nested : ∀ (ns : List Nest) {s t : Session} {out : List Action},
    LabelsApart s → buildAll ns s = .ok out t →
      ∃ ps, Nested ns ps ∧ out = actionsAll ps ∧ Spending s t out
  | [], s, t, out, apart, h => by
    obtain ⟨rfl, rfl⟩ := pure_eq_ok.1 h
    exact ⟨[], .nil, rfl, apart, List.Subset.refl _, fun _ _ _ mem => nomatch mem⟩
  | n :: ns, s, t, out, apart, h => by
    simp only [buildAll, bind_eq_ok, pure_eq_ok] at h
    obtain ⟨first, u, own, others, t, later, rfl, rfl⟩ := h
    obtain ⟨ps, rfl, spending, extend⟩ := Nest.build_nested n apart own
    obtain ⟨qs, nested, rfl, spending'⟩ := Nest.buildAll_nested ns spending.apart later
    exact ⟨ps ++ qs, extend nested, by simp, spending'.apart,
      List.Subset.trans spending'.fewer spending.fewer,
      (spending.spent.mono spending'.fewer).append spending'.spent⟩

end

/-- Skips that are put around actions at any depth do what they are for: the actions keep their
order, each skip goes on at the end of the run that it was made for and may pass over all of it, and
an action that matters is carried out exactly if all tests around it let it be. -/
theorem nested_skips_sound {ns : List Nest} {s t : Session} {out : List Action}
    (fit : LabelsFit s) (distinct : s.labels.free.Nodup) (h : Nest.buildAll ns s = .ok out t)
    (outcomes : Outcomes) :
    ∃ ps, Nested ns ps ∧ Piece.actionsAll ps = out ∧
      out.filter Action.isLeaf = (Nest.contentsAll outcomes true ns).map Prod.fst ∧
      Piece.EachAll (fun s run after => s.LandsBehind run after ∧
        ∀ a ∈ run, a.passableBy s.kind = true) [] ps ∧
      List.Forall₂ Agree (leafTrace outcomes (.count 0) out)
        (Nest.contentsAll outcomes true ns) := by
  obtain ⟨ps, nested, rfl, -⟩ := Nest.buildAll_nested ns ⟨fit, distinct⟩ h
  have sound : Piece.EachAll Sound [] ps := nested.sound []
  have lands : Piece.EachAll Skip.LandsBehind [] ps :=
    sound.imp Eq (fun run _ _ same => congrArg (run ++ ·) same)
      (fun _ _ _ _ same sound => same ▸ sound.1.lands) rfl
  have traced : leafTrace outcomes (.count 0) (actionsAll ps) =
      leavesAll outcomes true ps := by
    have whole := leafTrace_actionsAll outcomes ps [] lands
    rwa [append_nil, show leafTrace outcomes (.count 0) [] = [] from rfl,
      append_nil] at whole
  have agrees := nested.leaves outcomes true
  refine ⟨ps, nested, rfl, ?_, ?_, ?_⟩
  · rw [← map_fst_leafTrace outcomes (.count 0), traced]
    exact map_fst_of_agree agrees
  · exact sound.imp Eq (fun run _ _ same => congrArg (run ++ ·) same)
      (fun _ _ _ _ same sound => same ▸ ⟨sound.1.lands, sound.2⟩) rfl
  · rw [traced]
    exact agrees

theorem labelsFit_new : LabelsFit {} := by
  intro l mem
  obtain ⟨i, isIndex, rfl⟩ := List.mem_map.1 (List.mem_reverse.1 mem)
  have := List.mem_range.1 isIndex
  omega

theorem labels_nodup_new : ({} : Session).labels.free.Nodup := by
  refine nodup_reverse.2 (List.Nodup.map (fun i j h => ?_) nodup_range)
  have difference : (0xFF : Int) - i = 0xFF - j := h
  omega

/-- A long inner run needs a label, which a skip around it cannot pass over. -/
theorem inner_label_stands_apart : let outcomes : Outcomes := fun param _ _ _ => param == 3
    let inner : Nest := .guarded (whenZero none) 3 none (replicate 16 (.leaf (setTo 4 9) rfl))
    let ns : List Nest := [.guarded (whenZero none) 1 none
      [.leaf (setTo 2 7) rfl, inner, .leaf (.graphics 0) rfl]]
    LabelsFit {} ∧ ({} : Session).labels.free.Nodup ∧
      ∃ out t, Nest.buildAll ns {} = .ok out t ∧
        List.Forall₂ Agree (leafTrace outcomes (.count 0) out)
          ((setTo 2 7, true) ::
            (replicate 16 (setTo 4 9, false) ++ [(.graphics 0, true)])) := by
  intro outcomes inner ns
  obtain ⟨out, t, built⟩ : ∃ out t, Nest.buildAll ns {} = .ok out t := ⟨_, _, rfl⟩
  obtain ⟨ps, -, -, -, -, agrees⟩ :=
    nested_skips_sound labelsFit_new labels_nodup_new built outcomes
  exact ⟨labelsFit_new, labels_nodup_new, out, t, built, agrees⟩

end NewGrf.Assign
