import Mathlib.Data.List.Forall2
import NewGrf.Action.Assign
import NewGrf.Proofs.Build
import NewGrf.Proofs.Loading

open List

namespace NewGrf

/-- Whether a skip of a kind may pass over the action. -/
def Action.passableBy (kind : Nat) (a : Action) : Bool :=
  if kind = 7 then a.skippable7 else a.skippable9

/-- Whether the action is a certain label. -/
def Action.isLabelOf (l : Int) : Action → Bool
  | .label m => m == l
  | _ => false

def Action.isLabel : Action → Bool
  | .label _ => true
  | _ => false

theorem Action.isLeaf_of_isLabel {a : Action} (isLabel : a.isLabel = true) : a.isLeaf = false := by
  cases a with
  | label l => rfl
  | _ => cases isLabel

namespace Passing

/-- What is passed over after an action. A test that is made has the outcome that is given. -/
def next (taken : Skip → Bool) : Passing → Action → Passing
  | .count 0, .skip s => if taken s then s.passing else .count 0
  | .count 0, _ => .count 0
  | .count (n + 1), _ => .count n
  | .upTo l, a => if a.isLabelOf l then .count 0 else .upTo l
  | .rest, _ => .rest

/-- Where loading goes on: behind a number of actions, or behind the first one with a label. -/
def landing : Passing → List Action → List Action
  | .count n, as => as.drop n
  | .upTo l, as => (as.dropWhile fun a => !a.isLabelOf l).tail
  | .rest, _ => []

end Passing

/-- Actions in a row, each with whether it is carried out or passed over. -/
def trace (taken : Skip → Bool) : Passing → List Action → List (Action × Bool)
  | _, [] => []
  | p, a :: as => (a, p == .count 0) :: trace taken (p.next taken a) as

/-- The outcome of each test, by the parameter, the number of bytes, the comparison and the
value. -/
abbrev Outcomes := Int → Nat → Nat → Int → Bool

def Skip.taken (outcomes : Outcomes) (s : Skip) : Bool := outcomes s.param s.size s.code s.value

/-- A skip in front of a run goes on at the end of the run: nothing but labels is passed over of
what comes after it. -/
def Skip.LandsBehind (s : Skip) (run after : List Action) : Prop :=
  ∃ labels rest, after = labels ++ rest ∧ (∀ a ∈ labels, a.isLabel = true) ∧
    s.passing.landing (run ++ after) = rest

namespace Assign

/-- Actions, some of which are put behind skips, at any depth. -/
inductive Nest where
  | leaf (a : Action) (isLeaf : a.isLeaf = true)
  | guarded (c : Condition) (param : Int) (pos : Option Position) (body : List Nest)

namespace Nest

mutual

def build : Nest → Build (List Action)
  | leaf a _ => pure [a]
  | guarded c param pos body => do behind c param pos (← buildAll body)

def buildAll : List Nest → Build (List Action)
  | [] => pure []
  | n :: ns => do
    let first ← n.build
    pure (first ++ (← buildAll ns))

end

mutual

/-- The actions as they stand without skips, each with whether all tests around it let it be carried
out. -/
def contents (outcomes : Outcomes) (reached : Bool) : Nest → List (Action × Bool)
  | leaf a _ => [(a, reached)]
  | guarded c param _ body =>
    contentsAll outcomes (reached && !outcomes param c.size c.code c.value) body

def contentsAll (outcomes : Outcomes) (reached : Bool) : List Nest → List (Action × Bool)
  | [] => []
  | n :: ns => n.contents outcomes reached ++ contentsAll outcomes reached ns

end

end Nest

/-- A skip together with the run that it was made for stays in one piece. -/
inductive Piece where
  | leaf (a : Action) (isLeaf : a.isLeaf = true)
  | label (l : Int)
  | skipped (s : Skip) (run : List Piece)

namespace Piece

mutual

def actions : Piece → List Action
  | leaf a _ => [a]
  | label l => [.label l]
  | skipped s run => .skip s :: actionsAll run

def actionsAll : List Piece → List Action
  | [] => []
  | p :: ps => p.actions ++ actionsAll ps

end

mutual

/-- Whether something is true of every skip, the run it was made for, and what comes after the run,
where the piece itself is followed by some actions. -/
def Each (P : Skip → List Action → List Action → Prop) (after : List Action) : Piece → Prop
  | skipped s run => P s (actionsAll run) after ∧ EachAll P after run
  | _ => True

def EachAll (P : Skip → List Action → List Action → Prop) (after : List Action) : List Piece → Prop
  | [] => True
  | p :: ps => p.Each P (actionsAll ps ++ after) ∧ EachAll P after ps

end

mutual

/-- The leaves, each with whether all tests of the skips around it let it be carried out. -/
def leaves (outcomes : Outcomes) (reached : Bool) : Piece → List (Action × Bool)
  | leaf a _ => [(a, reached)]
  | label _ => []
  | skipped s run => leavesAll outcomes (reached && !s.taken outcomes) run

def leavesAll (outcomes : Outcomes) (reached : Bool) : List Piece → List (Action × Bool)
  | [] => []
  | p :: ps => p.leaves outcomes reached ++ leavesAll outcomes reached ps

end

/-- What may be done with a piece. One with a skip can only be passed over by skips of its kind. -/
def ways : Piece → SkipWays
  | leaf a _ => .of a
  | label l => .of (.label l)
  | skipped s _ => ⟨false, s.kind == 7, s.kind == 9⟩

/-- Whether a piece can be passed over as a whole. -/
def Whole : Piece → Prop
  | skipped s run => (s.kind = 7 ∨ s.kind = 9) ∧ s.target ≠ 0 ∧
      ∀ a ∈ actionsAll run, a.passableBy s.kind = true
  | _ => True

/-- Whether a piece can be passed over by a skip of a kind. -/
def passableBy (kind : Nat) (p : Piece) : Bool := if kind = 7 then p.ways.by7 else p.ways.by9

end Piece

/-- Pieces that are cut into runs, each of which is left as it is or gets a skip in front of it. No
run that gets a skip begins with something that can be left. -/
inductive Wrapped (c : Condition) (param : Int) : List Piece → List Piece → Prop where
  | nil : Wrapped c param [] []
  | left {run rest out : List Piece} (leave : ∀ p ∈ run, p.ways.leave = true) :
      Wrapped c param rest out → Wrapped c param (run ++ rest) (run ++ out)
  | counted {p : Piece} {run rest out : List Piece} (kind : Nat) (isKind : kind = 7 ∨ kind = 9)
      (begins : p.ways.leave = false) (passable : ∀ q ∈ p :: run, q.passableBy kind = true)
      (short : (Piece.actionsAll (p :: run)).length < 0x10) :
      Wrapped c param rest out → Wrapped c param (p :: run ++ rest)
        (.skipped (c.skip kind param (Piece.actionsAll (p :: run)).length) (p :: run) :: out)
  | labelled {p : Piece} {run rest out : List Piece} (kind : Nat) (isKind : kind = 7 ∨ kind = 9)
      (begins : p.ways.leave = false) (passable : ∀ q ∈ p :: run, q.passableBy kind = true)
      (l : Int) (isLabel : 0x10 ≤ l)
      (unused : ∀ a ∈ Piece.actionsAll (p :: run), a.isLabelOf l = false) :
      Wrapped c param rest out → Wrapped c param (p :: run ++ rest)
        (.skipped (c.skip kind param l) (p :: run) :: .label l :: out)

/-- The pieces that nested actions become. -/
inductive Nested : List Nest → List Piece → Prop where
  | nil : Nested [] []
  | leaf {a : Action} {isLeaf : a.isLeaf = true} {ns : List Nest} {ps : List Piece} :
      Nested ns ps → Nested (.leaf a isLeaf :: ns) (.leaf a isLeaf :: ps)
  | guarded {c : Condition} {param : Int} {pos : Option Position} {body ns : List Nest}
      {ps qs rs : List Piece} : Nested body ps → Wrapped c param ps qs → Nested ns rs →
      Nested (.guarded c param pos body :: ns) (qs ++ rs)

namespace Piece

variable {P Q : Skip → List Action → List Action → Prop} {after after' : List Action}

@[simp] theorem actionsAll_append (ps qs : List Piece) :
    actionsAll (ps ++ qs) = actionsAll ps ++ actionsAll qs := by
  induction ps with
  | nil => rfl
  | cons p ps ih => simp only [cons_append, actionsAll, ih, append_assoc]

theorem mem_actionsAll {a ps} : a ∈ actionsAll ps ↔ ∃ p ∈ ps, a ∈ p.actions := by
  induction ps with
  | nil => simp [actionsAll]
  | cons p ps ih => simp [actionsAll, ih]

theorem eachAll_append {ps qs} :
    EachAll P after (ps ++ qs) ↔ EachAll P (actionsAll qs ++ after) ps ∧ EachAll P after qs := by
  induction ps with
  | nil => simp [EachAll]
  | cons p ps ih => simp [EachAll, ih, and_assoc]

mutual

theorem Each.imp (R : List Action → List Action → Prop)
    (longer : ∀ run {as bs : List Action}, R as bs → R (run ++ as) (run ++ bs))
    (imp : ∀ s run as bs, R as bs → P s run as → Q s run bs) {as bs} (h : R as bs) :
    ∀ p : Piece, p.Each P as → p.Each Q bs
  | skipped s run, ⟨own, inner⟩ => ⟨imp s _ _ _ h own, EachAll.imp R longer imp h run inner⟩
  | leaf .., _ | label _, _ => trivial

theorem EachAll.imp (R : List Action → List Action → Prop)
    (longer : ∀ run {as bs : List Action}, R as bs → R (run ++ as) (run ++ bs))
    (imp : ∀ s run as bs, R as bs → P s run as → Q s run bs) {as bs} (h : R as bs) :
    ∀ ps : List Piece, EachAll P as ps → EachAll Q bs ps
  | [], _ => trivial
  | p :: ps, ⟨first, others⟩ =>
    ⟨Each.imp R longer imp (longer _ h) p first, EachAll.imp R longer imp h ps others⟩

end

end Piece

/-- The labels with which some actions begin. -/
def firstLabels (as : List Action) : List Action := as.takeWhile Action.isLabel

/-- Nothing is lost of the labels with which actions begin when others are put before both. -/
theorem firstLabels_append_subset (run : List Action) {as bs}
    (h : firstLabels as ⊆ firstLabels bs) : firstLabels (run ++ as) ⊆ firstLabels (run ++ bs) := by
  induction run with
  | nil => exact h
  | cons a run ih =>
    simp only [firstLabels, cons_append, takeWhile_cons]
    cases a.isLabel with
    | true => exact cons_subset_cons a ih
    | false => exact List.Subset.refl _

/-- A skip that counts its run, or goes to a label that is not in the run but among those right
behind it. -/
def Ends (s : Skip) (run after : List Action) : Prop :=
  (run ≠ [] ∧ run.length < 0x10 ∧ s.target = run.length) ∨
    (0x10 ≤ s.target ∧ (∀ a ∈ run, a.isLabelOf s.target = false) ∧
      ∃ a ∈ firstLabels after, a.isLabelOf s.target = true)

theorem Ends.mono {s run as bs} (more : firstLabels as ⊆ firstLabels bs)
    (ends : Ends s run as) : Ends s run bs := by
  rcases ends with counted | ⟨isLabel, unused, a, mem, found⟩
  · exact .inl counted
  · exact .inr ⟨isLabel, unused, a, more mem, found⟩

/-- The first occurrence of a label that is among those at the beginning. -/
theorem landing_of_firstLabels {l} {after : List Action}
    (found : ∃ a ∈ firstLabels after, a.isLabelOf l = true) :
    ∃ labels rest, after = labels ++ rest ∧ (∀ a ∈ labels, a.isLabel = true) ∧
      (after.dropWhile fun a => !a.isLabelOf l).tail = rest := by
  induction after with
  | nil => simp [firstLabels] at found
  | cons b after ih =>
    obtain ⟨a, mem, isOwn⟩ := found
    simp only [firstLabels, takeWhile_cons] at mem
    cases isLabel : b.isLabel with
    | false => simp [isLabel] at mem
    | true =>
      rw [isLabel, if_pos rfl] at mem
      cases own : b.isLabelOf l with
      | true => exact ⟨[b], after, rfl, by simpa using isLabel, by simp [own]⟩
      | false =>
        have later : a ∈ firstLabels after := by
          rcases mem_cons.1 mem with rfl | later
          · rw [own] at isOwn; cases isOwn
          · exact later
        obtain ⟨labels, rest, rfl, allLabels, lands⟩ := ih ⟨a, later, isOwn⟩
        refine ⟨b :: labels, rest, rfl, ?_, by simpa [own] using lands⟩
        intro x mem
        rcases mem_cons.1 mem with rfl | mem
        · exact isLabel
        · exact allLabels x mem

theorem Ends.lands {s : Skip} {run after} (ends : Ends s run after) : s.LandsBehind run after := by
  rcases ends with ⟨begun, short, target⟩ | ⟨isLabel, unused, found⟩
  · refine ⟨[], after, rfl, by simp, ?_⟩
    rw [Skip.passing_of_count target (length_pos_iff.2 begun) short]
    simp [Passing.landing]
  · obtain ⟨labels, rest, rfl, allLabels, lands⟩ := landing_of_firstLabels found
    refine ⟨labels, rest, rfl, allLabels, ?_⟩
    have passed : ∀ a ∈ run, (!a.isLabelOf s.target) = true := by
      intro a mem
      rw [unused a mem]
      rfl
    rw [Skip.passing_of_label isLabel, Passing.landing, dropWhile_append_of_pos passed]
    exact lands

/-- What is true of every skip: it ends with its run, and is of a kind that may pass over it. -/
def Sound (s : Skip) (run after : List Action) : Prop :=
  Ends s run after ∧ ∀ a ∈ run, a.passableBy s.kind = true

theorem EachAll.sound_mono {ps as bs}
    (more : firstLabels as ⊆ firstLabels bs) (sound : Piece.EachAll Sound as ps) :
    Piece.EachAll Sound bs ps :=
  Piece.EachAll.imp (fun as bs => firstLabels as ⊆ firstLabels bs) firstLabels_append_subset
    (fun _ _ _ _ more sound => ⟨sound.1.mono more, sound.2⟩) more ps sound

namespace Piece

theorem firstLabels_of_begins {p : Piece} (begins : p.ways.leave = false) (rest : List Action) :
    firstLabels (p.actions ++ rest) = [] := by
  cases p with
  | leaf a isLeaf => cases a <;> first | rfl | cases isLeaf
  | label l => cases begins
  | skipped s run => rfl

theorem passableBy_of_mem {p : Piece} {kind} (whole : p.Whole)
    (isKind : kind = 7 ∨ kind = 9) (passable : p.passableBy kind = true) {a : Action}
    (mem : a ∈ p.actions) : a.passableBy kind = true := by
  cases p with
  | leaf b isLeaf =>
    obtain rfl := mem_singleton.1 mem
    exact passable
  | label l =>
    obtain rfl := mem_singleton.1 mem
    exact passable
  | skipped s run =>
    have same : s.kind = kind := by
      rcases isKind with rfl | rfl <;> simpa [passableBy, ways] using passable
    rcases mem_cons.1 mem with rfl | mem
    · rcases isKind with rfl | rfl <;>
        simp [Action.passableBy, Action.skippable7, Action.skippable9, same]
    · rw [← same]
      exact whole.2.2 a mem

theorem passable_of_wholes {ps kind} (wholes : ∀ p ∈ ps, p.Whole)
    (isKind : kind = 7 ∨ kind = 9) (passable : ∀ p ∈ ps, p.passableBy kind = true) :
    ∀ a ∈ actionsAll ps, a.passableBy kind = true := by
  intro a mem
  obtain ⟨p, inside, mem⟩ := mem_actionsAll.1 mem
  exact passableBy_of_mem (wholes p inside) isKind (passable p inside) mem

theorem actions_ne_nil (p : Piece) : p.actions ≠ [] := by
  cases p <;> simp [actions]

theorem actionsAll_cons_ne_nil (p : Piece) (ps : List Piece) : actionsAll (p :: ps) ≠ [] := by
  simp [actionsAll, actions_ne_nil]

end Piece

namespace Wrapped

variable {c : Condition} {param : Int} {ps qs : List Piece}

/-- Labels stay where they are, since a run that begins with one is left as it is. -/
theorem firstLabels_subset (wrapped : Wrapped c param ps qs) (after : List Action) :
    firstLabels (Piece.actionsAll ps ++ after) ⊆ firstLabels (Piece.actionsAll qs ++ after) := by
  induction wrapped with
  | nil => exact List.Subset.refl _
  | left leave _ ih =>
    simp only [Piece.actionsAll_append, append_assoc]
    exact firstLabels_append_subset _ ih
  | counted kind isKind begins passable short _ _ =>
    simp only [cons_append, Piece.actionsAll, append_assoc]
    rw [Piece.firstLabels_of_begins begins]
    exact nil_subset _
  | labelled kind isKind begins passable l isLabel unused _ _ =>
    simp only [cons_append, Piece.actionsAll, append_assoc]
    rw [Piece.firstLabels_of_begins begins]
    exact nil_subset _

theorem whole (wrapped : Wrapped c param ps qs) (wholes : ∀ p ∈ ps, p.Whole) :
    ∀ q ∈ qs, q.Whole := by
  induction wrapped with
  | nil => exact wholes
  | left leave _ ih =>
    intro q mem
    rcases mem_append.1 mem with mem | mem
    · exact wholes q (mem_append_left _ mem)
    · exact ih (fun p inside => wholes p (mem_append_right _ inside)) q mem
  | @counted p run rest out kind isKind begins passable short _ ih =>
    intro q mem
    rcases mem_cons.1 mem with rfl | mem
    · refine ⟨isKind, ?_, Piece.passable_of_wholes
        (fun p inside => wholes p (mem_append_left _ inside)) isKind passable⟩
      have := length_pos_iff.2 (Piece.actionsAll_cons_ne_nil p run)
      simp only [Condition.skip]
      omega
    · exact ih (fun p inside => wholes p (mem_append_right _ inside)) q mem
  | labelled kind isKind begins passable l isLabel unused _ ih =>
    intro q mem
    rcases mem_cons.1 mem with rfl | mem
    · refine ⟨isKind, ?_, Piece.passable_of_wholes
        (fun p inside => wholes p (mem_append_left _ inside)) isKind passable⟩
      simp only [Condition.skip]
      omega
    rcases mem_cons.1 mem with rfl | mem
    · trivial
    · exact ih (fun p inside => wholes p (mem_append_right _ inside)) q mem

theorem sound (wrapped : Wrapped c param ps qs) (wholes : ∀ p ∈ ps, p.Whole)
    {after} (old : Piece.EachAll Sound after ps) : Piece.EachAll Sound after qs := by
  induction wrapped with
  | nil => exact old
  | @left run rest out leave wrapped ih =>
    obtain ⟨inRun, inRest⟩ := Piece.eachAll_append.1 old
    exact Piece.eachAll_append.2 ⟨EachAll.sound_mono (wrapped.firstLabels_subset after) inRun,
      ih (fun p inside => wholes p (mem_append_right _ inside)) inRest⟩
  | @counted p run rest out kind isKind begins passable short wrapped ih =>
    obtain ⟨inRun, inRest⟩ := Piece.eachAll_append.1 old
    have runWhole : ∀ q ∈ p :: run, q.Whole :=
      fun q inside => wholes q (mem_append_left _ inside)
    refine ⟨⟨⟨.inl ⟨Piece.actionsAll_cons_ne_nil p run, short, rfl⟩,
      Piece.passable_of_wholes runWhole isKind passable⟩,
      EachAll.sound_mono (wrapped.firstLabels_subset after) inRun⟩,
      ih (fun p inside => wholes p (mem_append_right _ inside)) inRest⟩
  | @labelled p run rest out kind isKind begins passable l isLabel unused wrapped ih =>
    obtain ⟨inRun, inRest⟩ := Piece.eachAll_append.1 old
    have runWhole : ∀ q ∈ p :: run, q.Whole :=
      fun q inside => wholes q (mem_append_left _ inside)
    have starts : firstLabels (Piece.actionsAll (.label l :: out) ++ after) =
        .label l :: firstLabels (Piece.actionsAll out ++ after) := by
      simp only [firstLabels, Piece.actionsAll, Piece.actions, cons_append, nil_append,
        takeWhile_cons, Action.isLabel, if_true]
    have own : Action.label l ∈ firstLabels (Piece.actionsAll (.label l :: out) ++ after) := by
      rw [starts]
      exact mem_cons_self
    have more : firstLabels (Piece.actionsAll rest ++ after) ⊆
        firstLabels (Piece.actionsAll (.label l :: out) ++ after) := by
      rw [starts]
      exact subset_cons_of_subset _ (wrapped.firstLabels_subset after)
    refine ⟨⟨⟨.inr ⟨isLabel, unused, _, own, ?_⟩,
      Piece.passable_of_wholes runWhole isKind passable⟩, EachAll.sound_mono more inRun⟩,
      trivial, ih (fun p inside => wholes p (mem_append_right _ inside)) inRest⟩
    simp [Action.isLabelOf, Condition.skip]

end Wrapped

namespace Nested

variable {ns : List Nest} {ps : List Piece}

theorem whole (nested : Nested ns ps) : ∀ p ∈ ps, p.Whole := by
  induction nested with
  | nil => simp
  | leaf _ ih =>
    intro p mem
    rcases mem_cons.1 mem with rfl | mem
    · trivial
    · exact ih p mem
  | guarded _ wrapped _ ihBody ih =>
    intro p mem
    rcases mem_append.1 mem with mem | mem
    · exact wrapped.whole ihBody p mem
    · exact ih p mem

theorem sound (nested : Nested ns ps) (after : List Action) : Piece.EachAll Sound after ps := by
  induction nested generalizing after with
  | nil => trivial
  | leaf _ ih => exact ⟨trivial, ih after⟩
  | guarded body wrapped _ ihBody ih =>
    exact Piece.eachAll_append.2 ⟨wrapped.sound body.whole (ihBody _), ih after⟩

end Nested

/-- Two leaves that are the same, and are both carried out or both not, unless that does not
matter. -/
def Agree (x y : Action × Bool) : Prop := x.1 = y.1 ∧ (x.1.skipMatters = true → x.2 = y.2)

theorem Agree.refl (x : Action × Bool) : Agree x x := ⟨rfl, fun _ => rfl⟩

theorem Agree.trans {x y z} (h : Agree x y) (h' : Agree y z) : Agree x z :=
  ⟨h.1.trans h'.1, fun matters => (h.2 matters).trans (h'.2 (h.1 ▸ matters))⟩

theorem agreeAll_trans {xs ys zs} (h : List.Forall₂ Agree xs ys)
    (h' : List.Forall₂ Agree ys zs) : List.Forall₂ Agree xs zs := by
  induction h generalizing zs with
  | nil => exact h'
  | cons first _ ih =>
    cases h' with
    | cons first' others => exact .cons (first.trans first') (ih others)

theorem map_fst_of_agree {xs ys : List (Action × Bool)} (h : List.Forall₂ Agree xs ys) :
    xs.map Prod.fst = ys.map Prod.fst := by
  induction h with
  | nil => rfl
  | cons first _ ih => rw [map_cons, map_cons, first.1, ih]

section Leaves

variable {outcomes : Outcomes}

@[simp] theorem Piece.leavesAll_append (reached : Bool) (ps qs : List Piece) :
    leavesAll outcomes reached (ps ++ qs) =
      leavesAll outcomes reached ps ++ leavesAll outcomes reached qs := by
  induction ps with
  | nil => rfl
  | cons p ps ih => simp only [cons_append, leavesAll, ih, append_assoc]

theorem Piece.agree_of_leave {ps} (leave : ∀ p ∈ ps, p.ways.leave = true)
    (reached reached' : Bool) :
    List.Forall₂ Agree (leavesAll outcomes reached ps) (leavesAll outcomes reached' ps) := by
  induction ps with
  | nil => exact .nil
  | cons p ps ih =>
    have others := ih fun q mem => leave q (mem_cons_of_mem p mem)
    have first : p.ways.leave = true := leave p mem_cons_self
    cases p with
    | leaf a isLeaf =>
      refine .cons ⟨rfl, fun matters => ?_⟩ others
      simp only [ways, SkipWays.of, matters] at first
      cases first
    | label l => exact others
    | skipped s run => cases first

theorem Wrapped.leaves {c : Condition} {param ps qs}
    (wrapped : Wrapped c param ps qs) (reached : Bool) :
    List.Forall₂ Agree (Piece.leavesAll outcomes reached qs)
      (Piece.leavesAll outcomes (reached && !outcomes param c.size c.code c.value) ps) := by
  induction wrapped with
  | nil => exact .nil
  | left leave _ ih =>
    simp only [Piece.leavesAll_append]
    exact rel_append (Piece.agree_of_leave leave _ _) ih
  | counted kind isKind begins passable short _ ih =>
    rw [Piece.leavesAll_append]
    exact rel_append (forall₂_same.2 fun x _ => .refl x) ih
  | labelled kind isKind begins passable l isLabel unused _ ih =>
    rw [Piece.leavesAll_append]
    exact rel_append (forall₂_same.2 fun x _ => .refl x) ih

theorem Nested.leaves {ns ps} (nested : Nested ns ps) (outcomes : Outcomes) (reached : Bool) :
    List.Forall₂ Agree (Piece.leavesAll outcomes reached ps)
      (Nest.contentsAll outcomes reached ns) := by
  induction nested generalizing reached with
  | nil => exact .nil
  | leaf _ ih => exact .cons (.refl _) (ih reached)
  | guarded _ wrapped _ ihBody ih =>
    rw [Piece.leavesAll_append]
    exact rel_append (agreeAll_trans (wrapped.leaves reached) (ihBody _)) (ih reached)

end Leaves

/-- While something is passed over, actions are not carried out; then loading goes on as usual. -/
theorem trace_passing (taken : Skip → Bool) (p : Passing) (as : List Action) :
    ∃ passed, as = passed ++ p.landing as ∧
      trace taken p as = passed.map (·, false) ++ trace taken (.count 0) (p.landing as) := by
  induction as generalizing p with
  | nil =>
    have lands : p.landing [] = [] := by cases p <;> simp [Passing.landing]
    exact ⟨[], by rw [lands]; rfl, by rw [lands]; rfl⟩
  | cons a as ih =>
    match p with
    | .count 0 => exact ⟨[], rfl, rfl⟩
    | .count (n + 1) =>
      obtain ⟨passed, split, same⟩ := ih (.count n)
      exact ⟨a :: passed, congrArg (a :: ·) split, congrArg ((a, false) :: ·) same⟩
    | .upTo l =>
      cases own : a.isLabelOf l with
      | true =>
        have lands : (Passing.upTo l).landing (a :: as) = as := by simp [Passing.landing, own]
        have next : (Passing.upTo l).next taken a = .count 0 := by simp [Passing.next, own]
        refine ⟨[a], by rw [lands]; rfl, ?_⟩
        rw [trace, next, lands]
        rfl
      | false =>
        have lands : (Passing.upTo l).landing (a :: as) = (Passing.upTo l).landing as := by
          simp [Passing.landing, own]
        have next : (Passing.upTo l).next taken a = .upTo l := by simp [Passing.next, own]
        obtain ⟨passed, split, same⟩ := ih (.upTo l)
        refine ⟨a :: passed, by rw [lands]; exact congrArg (a :: ·) split, ?_⟩
        rw [trace, next, lands, same]
        rfl
    | .rest =>
      obtain ⟨passed, split, same⟩ := ih .rest
      exact ⟨a :: passed, congrArg (a :: ·) split, congrArg ((a, false) :: ·) same⟩

section Trace

variable (outcomes : Outcomes)

/-- The leaves of some actions, each with whether it is carried out. -/
def leafTrace (p : Passing) (as : List Action) : List (Action × Bool) :=
  (trace (Skip.taken outcomes) p as).filter fun x => x.1.isLeaf

variable {outcomes}

theorem map_fst_leafTrace (outcomes : Outcomes) (p : Passing) (as : List Action) :
    (leafTrace outcomes p as).map Prod.fst = as.filter Action.isLeaf := by
  induction as generalizing p with
  | nil => rfl
  | cons a as ih =>
    have rest := ih (p.next (Skip.taken outcomes) a)
    rw [leafTrace] at rest ⊢
    cases isLeaf : a.isLeaf <;> simp [trace, isLeaf, rest]

theorem leafTrace_leaf {a : Action} (isLeaf : a.isLeaf = true) (as : List Action) :
    leafTrace outcomes (.count 0) (a :: as) = (a, true) :: leafTrace outcomes (.count 0) as := by
  have next : (Passing.count 0).next (Skip.taken outcomes) a = .count 0 := by
    cases a <;> first | rfl | cases isLeaf
  simp [leafTrace, trace, next, isLeaf]

theorem leafTrace_label (l : Int) (as : List Action) :
    leafTrace outcomes (.count 0) (.label l :: as) = leafTrace outcomes (.count 0) as := rfl

theorem leafTrace_skip (s : Skip) (as : List Action) :
    leafTrace outcomes (.count 0) (.skip s :: as) =
      leafTrace outcomes (if s.taken outcomes then s.passing else .count 0) as := rfl

theorem leafTrace_labels {labels} (allLabels : ∀ a ∈ labels, a.isLabel = true) (as : List Action) :
    leafTrace outcomes (.count 0) (labels ++ as) = leafTrace outcomes (.count 0) as := by
  induction labels with
  | nil => rfl
  | cons a labels ih =>
    have first : a.isLabel = true := allLabels a mem_cons_self
    cases a with
    | label l =>
      rw [cons_append, leafTrace_label]
      exact ih fun b mem => allLabels b (mem_cons_of_mem _ mem)
    | _ => cases first

mutual

theorem Piece.leaves_false : ∀ p : Piece, p.leaves outcomes false =
      (p.actions.map (·, false)).filter fun x => x.1.isLeaf
  | .leaf a isLeaf => by simp [leaves, actions, isLeaf]
  | .label l => rfl
  | .skipped s run => by
    simp only [leaves, actions, Bool.false_and, Piece.leavesAll_false run, map_cons]
    rfl

theorem Piece.leavesAll_false : ∀ ps : List Piece, leavesAll outcomes false ps =
      ((actionsAll ps).map (·, false)).filter fun x => x.1.isLeaf
  | [] => rfl
  | p :: ps => by
    simp only [leavesAll, actionsAll, Piece.leaves_false p, Piece.leavesAll_false ps,
      map_append, filter_append]

end

/-- A skip that happens goes on as if nothing had stood where its run is. -/
theorem leafTrace_taken {s : Skip} {run after}
    (lands : s.LandsBehind (Piece.actionsAll run) after) :
    leafTrace outcomes s.passing (Piece.actionsAll run ++ after) =
      Piece.leavesAll outcomes false run ++ leafTrace outcomes (.count 0) after := by
  obtain ⟨labels, rest, rfl, allLabels, landing⟩ := lands
  obtain ⟨passed, split, same⟩ := trace_passing (Skip.taken outcomes) s.passing
    (Piece.actionsAll run ++ (labels ++ rest))
  rw [landing] at split same
  have isPassed : passed = Piece.actionsAll run ++ labels := by
    rw [← append_assoc] at split
    exact (append_cancel_right split).symm
  have noLeaf : (labels.map (·, false)).filter (fun x => x.1.isLeaf) = [] := by
    rw [filter_eq_nil_iff]
    intro x mem isLeaf
    obtain ⟨a, inside, rfl⟩ := mem_map.1 mem
    rw [Action.isLeaf_of_isLabel (allLabels a inside)] at isLeaf
    cases isLeaf
  rw [leafTrace_labels allLabels, Piece.leavesAll_false, leafTrace, same, isPassed]
  simp only [map_append, filter_append, noLeaf, append_nil]
  rfl

variable (outcomes)

mutual

theorem Piece.leafTrace_actions : ∀ (p : Piece) (after : List Action),
    p.Each Skip.LandsBehind after →
      leafTrace outcomes (.count 0) (p.actions ++ after) =
        p.leaves outcomes true ++ leafTrace outcomes (.count 0) after
  | .leaf a isLeaf, after, _ => leafTrace_leaf isLeaf after
  | .label l, after, _ => leafTrace_label l after
  | .skipped s run, after, ⟨lands, inner⟩ => by
    rw [actions, cons_append, leafTrace_skip, leaves]
    cases s.taken outcomes with
    | true => exact leafTrace_taken lands
    | false => exact leafTrace_actionsAll run after inner

theorem Piece.leafTrace_actionsAll : ∀ (ps : List Piece) (after : List Action),
    EachAll Skip.LandsBehind after ps →
      leafTrace outcomes (.count 0) (actionsAll ps ++ after) =
        leavesAll outcomes true ps ++ leafTrace outcomes (.count 0) after
  | [], _, _ => rfl
  | p :: ps, after, ⟨first, others⟩ => by
    rw [actionsAll, append_assoc, leafTrace_actions p _ first,
      leafTrace_actionsAll ps after others, leavesAll, append_assoc]

end

end Trace

end Assign

end NewGrf
