import Mathlib.Data.List.Forall2
import Mathlib.Data.List.Nodup
import Mathlib.Data.List.Perm.Subperm
import Mathlib.Logic.Relation
import NewGrf.Block.References
import NewGrf.Proofs.Build

namespace NewGrf.Block

open Build List Relation

/-- A block of a session. -/
def look (bs : Array Block) (i : Nat) : Block := bs[i]?.getD default

section Graph

variable (g : Array Block)

/-- One block refers to another one. -/
def Refers (user i : Nat) : Prop := user ∈ (look g i).users

def IsRoot (i : Nat) : Prop := (look g i).isReferable = false

instance (i : Nat) : Decidable (IsRoot g i) :=
  inferInstanceAs (Decidable ((look g i).isReferable = false))

def Reaches : Nat → Nat → Prop := ReflTransGen (Refers g)

/-- Some root reaches a block. -/
def Reached (i : Nat) : Prop := ∃ r, IsRoot g r ∧ Reaches g r i

/-- A graph without cycles of which nothing has been asked yet: nothing refers to roots, and only
blocks with a feature of their own have one. -/
structure Drawn : Prop where
  inside : ∀ i user, Refers g user i → user < g.size
  distinct : ∀ i, (look g i).users.Nodup
  acyclic : ∀ i, ¬ TransGen (Refers g) i i
  roots : ∀ i, IsRoot g i → (look g i).users = []
  fresh : ∀ i, (look g i).prepared = false
  bare : ∀ i, (look g i).hasOwnFeature = false → (look g i).features = []

end Graph

variable {g b c d : Array Block} {i j id user : Nat} {stack : List Nat} {s t : Session}

theorem reached_iff (referable : (look g i).isReferable = true) :
    Reached g i ↔ ∃ user, Refers g user i ∧ Reached g user := by
  constructor
  · rintro ⟨r, root, path⟩
    obtain rfl | ⟨user, before, last⟩ := ReflTransGen.cases_tail_iff (Refers g) r i |>.1 path
    · simp [IsRoot, referable] at root
    · exact ⟨user, last, r, root, before⟩
  · rintro ⟨user, last, r, root, path⟩
    exact ⟨r, root, path.tail last⟩

/-- Blocks that differ at most in what they use. -/
structure Alike (x y : Block) : Prop where
  content : y.content = x.content
  users : y.users = x.users
  features : y.features = x.features
  prepared : y.prepared = x.prepared

theorem Alike.refl (x : Block) : Alike x x := ⟨rfl, rfl, rfl, rfl⟩

theorem Alike.trans {x y z : Block} (first : Alike x y) (second : Alike y z) : Alike x z :=
  ⟨second.content.trans first.content, second.users.trans first.users,
    second.features.trans first.features, second.prepared.trans first.prepared⟩

theorem isReferable_congr {x y : Block} (same : y.content = x.content) :
    y.isReferable = x.isReferable := by
  unfold isReferable
  rw [same]

theorem hasOwnFeature_congr {x y : Block} (same : y.content = x.content) :
    y.hasOwnFeature = x.hasOwnFeature := by
  unfold hasOwnFeature
  rw [same]

theorem look_modify (bs : Array Block) (i j : Nat) (f : Block → Block) :
    look (bs.modify i f) j = if i = j ∧ j < bs.size then f (look bs j) else look bs j := by
  unfold look
  rw [Array.getElem?_modify]
  by_cases same : i = j
  · subst same
    by_cases inside : i < bs.size <;> simp [inside]
  · simp [same]

theorem blockOf_eq_ok {x : Block} (h : Build.block? i s = .ok x t) :
    x = look s.blocks i ∧ s = t := by
  cases h
  exact ⟨rfl, rfl⟩

theorem modifyBlock_eq_ok {f : Block → Block} {u : Unit} (h : Build.modifyBlock i f s = .ok u t) :
    t.blocks = s.blocks.modify i f := by
  cases h
  rfl

/-- What a search leaves of the blocks that it finds: it changes only blocks that have not been
asked for before and that do not wait for it. -/
structure Later (stack : List Nat) (b c : Array Block) : Prop where
  size : c.size = b.size
  content : ∀ i, (look c i).content = (look b i).content
  same : ∀ i, (i ∈ stack ∨ (look b i).prepared = true ∨ (look c i).prepared = false) →
    Alike (look b i) (look c i)

theorem Later.refl (b : Array Block) : Later stack b b := ⟨rfl, fun _ => rfl, fun _ _ => .refl _⟩

theorem Later.trans (first : Later stack b c) (second : Later stack c d) : Later stack b d where
  size := second.size.trans first.size
  content i := (second.content i).trans (first.content i)
  same i kept := by
    obtain waits | asked | unasked := kept
    · exact (first.same i (.inl waits)).trans (second.same i (.inl waits))
    · have left := first.same i (.inr (.inl asked))
      exact left.trans (second.same i (.inr (.inl (left.prepared.trans asked))))
    · have right := second.same i (.inr (.inr unasked))
      exact (first.same i (.inr (.inr (right.prepared.symm.trans unasked)))).trans right

/-- A feature of a root that reaches a block. -/
def Given (g : Array Block) (i : Nat) (f : Int) : Prop :=
  ∃ r, IsRoot g r ∧ Reaches g r i ∧ f ∈ (look g r).features

theorem given_iff {f : Int} (referable : (look g i).isReferable = true) :
    Given g i f ↔ ∃ user, Refers g user i ∧ Given g user f := by
  constructor
  · rintro ⟨r, root, path, has⟩
    obtain rfl | ⟨user, before, last⟩ := ReflTransGen.cases_tail_iff (Refers g) r i |>.1 path
    · simp [IsRoot, referable] at root
    · exact ⟨user, last, r, root, before, has⟩
  · rintro ⟨user, last, r, root, path, has⟩
    exact ⟨r, root, path.tail last, has⟩

theorem Given.reached {f : Int} (h : Given g i f) : Reached g i := by
  obtain ⟨r, root, path, -⟩ := h
  exact ⟨r, root, path⟩

theorem given_root {f : Int} (drawn : Drawn g) (root : IsRoot g i) :
    Given g i f ↔ f ∈ (look g i).features := by
  constructor
  · rintro ⟨r, -, path, has⟩
    obtain rfl | ⟨user, -, last⟩ := ReflTransGen.cases_tail_iff (Refers g) r i |>.1 path
    · exact has
    · rw [Refers, drawn.roots i root] at last
      exact absurd last not_mem_nil
  · exact fun has => ⟨i, root, .refl, has⟩

/-- A block that has been asked for: its users are those that a root reaches, and if there are any,
its features are those of the roots that reach it. -/
structure Settled (g : Array Block) (i : Nat) (x : Block) : Prop where
  users : ∀ user, user ∈ x.users ↔ Refers g user i ∧ Reached g user
  features : Reached g i → ∀ f, f ∈ x.features ↔ Given g i f
  own : (look g i).hasOwnFeature = true → x.features = (look g i).features ∧
    ∀ user ∈ x.users, ∀ f, Given g user f ↔ f ∈ (look g i).features

theorem Settled.alike {x y : Block} (h : Settled g i x) (same : Alike x y) : Settled g i y where
  users user := by rw [same.users, h.users]
  features reached f := by rw [same.features, h.features reached]
  own own := by
    rw [same.features, same.users]
    exact h.own own

/-- What is known of the blocks while a search is at work: those that do not wait are as they were
or settled, and then their users have been asked for as well. -/
structure Searched (g : Array Block) (stack : List Nat) (b : Array Block) : Prop where
  size : b.size = g.size
  content : ∀ i, (look b i).content = (look g i).content
  roots : ∀ i, IsRoot g i → (look b i).prepared = false
  unasked : ∀ i, i ∉ stack → (look b i).prepared = false → Alike (look g i) (look b i)
  settled : ∀ i, i ∉ stack → (look b i).prepared = true → Settled g i (look b i) ∧
    ∀ user ∈ (look b i).users, ¬ IsRoot g user → (look b user).prepared = true

theorem Searched.isReferable_eq (h : Searched g stack b) (i : Nat) :
    (look b i).isReferable = (look g i).isReferable := isReferable_congr (h.content i)

/-- A block that does not wait, has been asked for if it can be, and is reached has the features of
the roots that reach it. -/
theorem Searched.features_iff (drawn : Drawn g) (h : Searched g stack b) (idle : i ∉ stack)
    (asked : ¬ IsRoot g i → (look b i).prepared = true) (reached : Reached g i) (f : Int) :
    f ∈ (look b i).features ↔ Given g i f := by
  by_cases isRoot : IsRoot g i
  · rw [(h.unasked i idle (h.roots i isRoot)).features, given_root drawn isRoot]
  · exact (h.settled i idle (asked isRoot)).1.features reached f

/-- Forgets a user that is not used itself. -/
def forgetUnused (fuel id user : Nat) : Build (ForInStep PUnit) := do
  unless ← isUsed fuel user do
    Build.modifyBlock user fun u => { u with uses := u.uses.erase id }
    Build.modifyBlock id fun b => { b with users := b.users.erase user }
  pure (.yield ⟨⟩)

/-- Takes over the features of a user. -/
def takeFeatures (id user : Nat) : Build (ForInStep PUnit) := do
  let u ← Build.block? user
  Build.modifyBlock id fun b =>
    { b with features := b.features ++ u.features.filter (!b.features.contains ·) }
  pure (.yield ⟨⟩)

/-- What a search does when a block is asked for the first time: it marks the block, forgets users
and looks at the features of the others. -/
def First (fuel id : Nat) (s t : Session) : Prop :=
  ∃ s1 s2 s3, s1.blocks = s.blocks.modify id (fun b => { b with prepared := true }) ∧
    forIn (look s.blocks id).users PUnit.unit (fun user _ => forgetUnused fuel id user) s1 =
      .ok ⟨⟩ s2 ∧
    (if (look s2.blocks id).hasOwnFeature = true then
      (look s2.blocks id).users.forM (checkUser (look s2.blocks id)) s2 = .ok ⟨⟩ s3
    else forIn (look s2.blocks id).users PUnit.unit (fun user _ => takeFeatures id user) s2 =
      .ok ⟨⟩ s3) ∧ t.blocks = s3.blocks

theorem isUsed_cases {fuel : Nat} {r : Bool} (run : isUsed (fuel + 1) id s = .ok r t) :
    (look s.blocks id).isReferable = false ∧ r = true ∧ t = s ∨
    (look s.blocks id).isReferable = true ∧ r = !(look t.blocks id).users.isEmpty ∧
      ((look s.blocks id).prepared = true ∧ t = s ∨
        (look s.blocks id).prepared = false ∧ First fuel id s t) := by
  unfold isUsed at run
  obtain ⟨x, u, found, run⟩ := bind_eq_ok.1 run
  obtain ⟨rfl, rfl⟩ := blockOf_eq_ok found
  have last {v : Session} (run : (do
      let b ← Build.block? id
      pure !b.users.isEmpty : Build Bool) v = .ok r t) :
      r = !(look t.blocks id).users.isEmpty ∧ t = v := by
    cases run
    exact ⟨rfl, rfl⟩
  split at run
  case isTrue root =>
    obtain ⟨rfl, rfl⟩ := pure_eq_ok.1 run
    exact .inl ⟨by simpa using root, rfl, rfl⟩
  case isFalse referable =>
    refine .inr ⟨by simpa using referable, ?_⟩
    split at run
    case isFalse asked =>
      obtain ⟨result, rfl⟩ := last run
      exact ⟨result, .inl ⟨by simpa using asked, rfl⟩⟩
    case isTrue unasked =>
      obtain ⟨_, s1, marked, run⟩ := bind_eq_ok.1 run
      obtain ⟨_, s2, forgotten, run⟩ := bind_eq_ok.1 run
      obtain ⟨y, u, again, run⟩ := bind_eq_ok.1 run
      obtain ⟨rfl, rfl⟩ := blockOf_eq_ok again
      have marks := modifyBlock_eq_ok marked
      dsimp only at run
      by_cases own : (look s2.blocks id).hasOwnFeature = true
      case' pos => rw [if_pos own] at run
      case' neg => rw [if_neg own] at run
      -- both ways of taking features come before the same warning
      all_goals
        obtain ⟨⟨⟩, s3, middle, run⟩ := bind_eq_ok.1 run
        have ends : r = !(look t.blocks id).users.isEmpty ∧ t.blocks = s3.blocks := by
          split at run
          · generalize (look s2.blocks id).outcome = o at run
            cases o with
            | value =>
              obtain ⟨result, rfl⟩ := last run
              exact ⟨result, rfl⟩
            | _ =>
              obtain ⟨⟨⟩, w, warned, run⟩ := bind_eq_ok.1 run
              obtain ⟨result, rfl⟩ := last run
              refine ⟨result, ?_⟩
              cases warned
              rfl
          · obtain ⟨result, rfl⟩ := last run
            exact ⟨result, rfl⟩
        refine ⟨ends.1, .inr ⟨by simpa using unasked, s1, s2, s3, marks, forgotten, ?_, ends.2⟩⟩
      case pos =>
        rw [if_pos own]
        exact middle
      case neg =>
        rw [if_neg own]
        exact middle

theorem forM_checkUser {x : Block} {users : List Nat} {u : PUnit}
    (run : users.forM (checkUser x) s = .ok u t) :
    t = s ∧ ∀ user ∈ users, (look s.blocks user).features = x.features := by
  induction users generalizing s with
  | nil => exact ⟨(pure_eq_ok.1 run).2.symm, fun _ inside => absurd inside not_mem_nil⟩
  | cons user users ih =>
    obtain ⟨_, s1, first, run⟩ := bind_eq_ok.1 run
    obtain ⟨y, s2, found, first⟩ := bind_eq_ok.1 first
    obtain ⟨rfl, rfl⟩ := blockOf_eq_ok found
    split at first
    case isTrue => simp at first
    case isFalse same =>
      obtain ⟨-, rfl⟩ := pure_eq_ok.1 first
      obtain ⟨rfl, rest⟩ := ih run
      exact ⟨rfl, forall_mem_cons.2 ⟨by simpa using same, rest⟩⟩

/-- The features of all users are taken over, and nothing else is changed. -/
theorem forIn_takeFeatures {users : List Nat} {u : PUnit} (here : id < s.blocks.size)
    (apart : id ∉ users)
    (run : forIn users PUnit.unit (fun user _ => takeFeatures id user) s = .ok u t) :
    t.blocks.size = s.blocks.size ∧ (∀ j, j ≠ id → look t.blocks j = look s.blocks j) ∧
      ∃ fs, look t.blocks id = { look s.blocks id with features := fs } ∧
        ∀ f, f ∈ fs ↔ f ∈ (look s.blocks id).features ∨
          ∃ user ∈ users, f ∈ (look s.blocks user).features := by
  induction users generalizing s with
  | nil =>
    obtain ⟨-, rfl⟩ := pure_eq_ok.1 run
    exact ⟨rfl, fun _ _ => rfl, (look s.blocks id).features, rfl, by simp⟩
  | cons user users ih =>
    rw [mem_cons, not_or] at apart
    rw [forIn_cons] at run
    obtain ⟨step, s1, first, run⟩ := bind_eq_ok.1 run
    obtain ⟨y, s2, found, first⟩ := bind_eq_ok.1 first
    obtain ⟨rfl, rfl⟩ := blockOf_eq_ok found
    obtain ⟨_, s3, changed, first⟩ := bind_eq_ok.1 first
    obtain ⟨rfl, rfl⟩ := pure_eq_ok.1 first
    have change := modifyBlock_eq_ok changed
    have size : s3.blocks.size = s.blocks.size := by rw [change, Array.size_modify]
    have others (j : Nat) (other : j ≠ id) : look s3.blocks j = look s.blocks j := by
      rw [change, look_modify, if_neg fun both => other both.1.symm]
    have same : look s3.blocks id = { look s.blocks id with
        features := (look s.blocks id).features ++ (look s.blocks user).features.filter
          (!(look s.blocks id).features.contains ·) } := by
      rw [change, look_modify, if_pos ⟨rfl, here⟩]
    obtain ⟨size', others', fs, same', union⟩ := ih (size ▸ here) apart.2 run
    refine ⟨size'.trans size, fun j other => (others' j other).trans (others j other), fs, ?_, ?_⟩
    · rw [same', same]
    · intro f
      have rest : (∃ v ∈ users, f ∈ (look s3.blocks v).features) ↔
          ∃ v ∈ users, f ∈ (look s.blocks v).features := by
        refine exists_congr fun v => and_congr_right fun inside => ?_
        rw [others v fun same => apart.2 (same ▸ inside)]
      rw [union f, rest, same, mem_append, mem_filter, exists_mem_cons_iff]
      by_cases old : f ∈ (look s.blocks id).features <;> simp [old]

/-- What a search has done for a block while it goes through its users: `done` are those it has
dealt with. -/
structure Sifting (g : Array Block) (stack : List Nat) (id : Nat) (b : Array Block)
    (done : List Nat) (c : Array Block) : Prop where
  searched : Searched g (id :: stack) c
  same : ∀ i, i ≠ id → (i ∈ stack ∨ (look b i).prepared = true ∨ (look c i).prepared = false) →
    Alike (look b i) (look c i)
  marked : (look c id).prepared = true
  features : (look c id).features = (look g id).features
  users : ∀ user, user ∈ (look c id).users ↔ Refers g user id ∧ (user ∈ done → Reached g user)
  distinct : (look c id).users.Nodup
  ready : ∀ user ∈ done, ¬ IsRoot g user → (look c user).prepared = true

/-- The blocks that wait for an answer about a block: it refers to all of them, at least through
others. -/
structure Waiting (g : Array Block) (stack : List Nat) (id : Nat) : Prop where
  above : ∀ j ∈ stack, TransGen (Refers g) id j
  distinct : stack.Nodup
  inside : ∀ j ∈ stack, j < g.size
  here : id < g.size

theorem Waiting.notMem (drawn : Drawn g) (waiting : Waiting g stack id) : id ∉ stack :=
  fun inside => drawn.acyclic id (waiting.above id inside)

theorem Waiting.next (drawn : Drawn g) (waiting : Waiting g stack id) (refers : Refers g user id) :
    Waiting g (id :: stack) user where
  above := forall_mem_cons.2
    ⟨.single refers, fun j inside => .head refers (waiting.above j inside)⟩
  distinct := nodup_cons.2 ⟨waiting.notMem drawn, waiting.distinct⟩
  inside := forall_mem_cons.2 ⟨waiting.here, waiting.inside⟩
  here := drawn.inside id user refers

/-- There are no more blocks waiting than there are blocks. -/
theorem Waiting.length_le (waiting : Waiting g stack id) : stack.length ≤ g.size := by
  have within : stack ⊆ range g.size := fun j inside => mem_range.2 (waiting.inside j inside)
  simpa using (waiting.distinct.subperm within).length_le

/-- The right answer about a block, and what it leaves. -/
structure Answer (g : Array Block) (stack : List Nat) (id : Nat) (b c : Array Block) (r : Bool) :
    Prop where
  searched : Searched g stack c
  later : Later stack b c
  used : r = true ↔ Reached g id
  asked : ¬ IsRoot g id → (look c id).prepared = true

def Answers (g : Array Block) (fuel : Nat) : Prop :=
  ∀ ⦃stack id s t r⦄, Waiting g stack id → g.size < fuel + stack.length →
    Searched g stack s.blocks → isUsed fuel id s = .ok r t → Answer g stack id s.blocks t.blocks r

namespace Sifting

variable {done users : List Nat}

theorem later (h : Sifting g stack id b done c) (later : Later (id :: stack) c d)
    (searched : Searched g (id :: stack) d) : Sifting g stack id b done d := by
  have here := later.same id (.inl mem_cons_self)
  refine ⟨searched, fun i other kept => ?_, here.prepared.trans h.marked,
    here.features.trans h.features, fun v => by rw [here.users, h.users], here.users ▸ h.distinct,
    fun v inside isRoot => ?_⟩
  · obtain waits | asked | unasked := kept
    · exact (h.same i other (.inl waits)).trans (later.same i (.inl (mem_cons_of_mem _ waits)))
    · have left := h.same i other (.inr (.inl asked))
      exact left.trans (later.same i (.inr (.inl (left.prepared.trans asked))))
    · have right := later.same i (.inr (.inr unasked))
      exact (h.same i other (.inr (.inr (right.prepared.symm.trans unasked)))).trans right
  · have asked := h.ready v inside isRoot
    exact (later.same v (.inr (.inl asked))).prepared.trans asked

theorem keep (h : Sifting g stack id b done c) (reached : Reached g user)
    (asked : ¬ IsRoot g user → (look c user).prepared = true) :
    Sifting g stack id b (user :: done) c where
  searched := h.searched
  same := h.same
  marked := h.marked
  features := h.features
  users v := by
    rw [h.users, mem_cons, or_imp]
    exact and_congr_right fun _ => ⟨fun old => ⟨fun same => same ▸ reached, old⟩, And.right⟩
  distinct := h.distinct
  ready := forall_mem_cons.2 ⟨asked, h.ready⟩

/-- A user that is not used is forgotten. -/
theorem forget (h : Sifting g stack id b done c) (unused : ¬ Reached g user)
    (asked : ¬ IsRoot g user → (look c user).prepared = true) (size : d.size = c.size)
    (others : ∀ j, j ≠ id → Alike (look c j) (look d j))
    (here : look d id = { look c id with users := (look c id).users.erase user }) :
    Sifting g stack id b (user :: done) d := by
  have prepared (j : Nat) : (look d j).prepared = (look c j).prepared := by
    by_cases same : j = id
    · rw [same, here]
    · exact (others j same).prepared
  have content (j : Nat) : (look d j).content = (look c j).content := by
    by_cases same : j = id
    · rw [same, here]
    · exact (others j same).content
  have apart {j : Nat} (idle : j ∉ id :: stack) : j ≠ id := fun same => idle (same ▸ mem_cons_self)
  constructor
  · constructor
    · exact size.trans h.searched.size
    · exact fun j => (content j).trans (h.searched.content j)
    · exact fun j root => (prepared j).trans (h.searched.roots j root)
    · exact fun j idle unasked => (h.searched.unasked j idle (prepared j ▸ unasked)).trans
        (others j (apart idle))
    · intro j idle asked
      obtain ⟨settled, ready⟩ := h.searched.settled j idle (prepared j ▸ asked)
      have same := others j (apart idle)
      refine ⟨settled.alike same, fun v inside isRoot => ?_⟩
      rw [prepared]
      exact ready v (same.users ▸ inside) isRoot
  · exact fun j other kept => (h.same j other (prepared j ▸ kept)).trans (others j other)
  · exact (prepared id).trans h.marked
  · rw [here]
    exact h.features
  · intro v
    have inside : v ∈ (look d id).users ↔ v ≠ user ∧ v ∈ (look c id).users := by
      rw [here]
      exact h.distinct.mem_erase_iff
    rw [inside, h.users, mem_cons, or_imp]
    constructor
    · rintro ⟨other, refers, old⟩
      exact ⟨refers, fun same => absurd same other, old⟩
    · rintro ⟨refers, new, old⟩
      exact ⟨fun same => unused (same ▸ new same), refers, old⟩
  · rw [here]
    exact h.distinct.erase user
  · intro v inside isRoot
    rw [prepared]
    exact (forall_mem_cons.2 ⟨asked, h.ready⟩ : ∀ v ∈ user :: done, _) v inside isRoot

theorem step (drawn : Drawn g) {fuel : Nat} (answers : Answers g fuel)
    (waiting : Waiting g stack id) (enough : g.size < fuel + 1 + stack.length)
    (refers : Refers g user id)
    {r : ForInStep PUnit} (h : Sifting g stack id b done s.blocks)
    (run : forgetUnused fuel id user s = .ok r t) :
    r = .yield ⟨⟩ ∧ Sifting g stack id b (user :: done) t.blocks := by
  obtain ⟨used, s1, asked, run⟩ := bind_eq_ok.1 run
  have answer := answers (waiting.next drawn refers) (by simp only [length_cons]; omega) h.searched
    asked
  have now := h.later answer.later answer.searched
  cases used with
  | true =>
    obtain ⟨rfl, rfl⟩ := pure_eq_ok.1 run
    exact ⟨rfl, now.keep (answer.used.1 rfl) answer.asked⟩
  | false =>
    obtain ⟨_, s2, first, run⟩ := bind_eq_ok.1 run
    obtain ⟨_, s3, second, run⟩ := bind_eq_ok.1 run
    obtain ⟨rfl, rfl⟩ := pure_eq_ok.1 run
    have first := modifyBlock_eq_ok first
    have second := modifyBlock_eq_ok second
    have other : user ≠ id := fun same => drawn.acyclic id (.single (same ▸ refers))
    have here : id < s1.blocks.size := now.searched.size ▸ waiting.here
    refine ⟨rfl, now.forget (fun reached => by simpa using answer.used.2 reached) answer.asked ?_
      (fun j apart => ?_) ?_⟩
    · rw [second, Array.size_modify, first, Array.size_modify]
    · rw [second, look_modify, if_neg fun both => apart both.1.symm, first, look_modify]
      split
      · exact ⟨rfl, rfl, rfl, rfl⟩
      · exact .refl _
    · rw [second, look_modify, if_pos ⟨rfl, by rw [first, Array.size_modify]; exact here⟩, first,
        look_modify, if_neg fun both => other both.1]

theorem run (drawn : Drawn g) {fuel : Nat} (answers : Answers g fuel) (waiting : Waiting g stack id)
    (enough : g.size < fuel + 1 + stack.length) (all : ∀ user ∈ users, Refers g user id)
    (h : Sifting g stack id b done s.blocks) {u : PUnit}
    (run : forIn users PUnit.unit (fun user _ => forgetUnused fuel id user) s = .ok u t) :
    Sifting g stack id b (users.reverse ++ done) t.blocks := by
  induction users generalizing s done with
  | nil =>
    obtain ⟨-, rfl⟩ := pure_eq_ok.1 run
    exact h
  | cons user users ih =>
    rw [forall_mem_cons] at all
    rw [forIn_cons] at run
    obtain ⟨r, s1, first, run⟩ := bind_eq_ok.1 run
    obtain ⟨rfl, now⟩ := h.step drawn answers waiting enough all.1 first
    rw [reverse_cons, append_assoc]
    exact ih all.2 now run

section Finish

variable (drawn : Drawn g) (waiting : Waiting g stack id) (h : Sifting g stack id b done c)
  (all : ∀ user, Refers g user id → user ∈ done)

include h all in
/-- Once all users have been dealt with, those that are reached are left. -/
theorem users_iff (v : Nat) : v ∈ (look c id).users ↔ Refers g v id ∧ Reached g v := by
  rw [h.users]
  exact and_congr_right fun refers =>
    ⟨fun reached => reached (all v refers), fun reached _ => reached⟩

include drawn waiting h all in
theorem user_features_iff {v : Nat} (inside : v ∈ (look c id).users) (f : Int) :
    f ∈ (look c v).features ↔ Given g v f := by
  obtain ⟨refers, reached⟩ := (h.users_iff all v).1 inside
  exact h.searched.features_iff drawn ((waiting.next drawn refers).notMem drawn)
    (h.ready v (all v refers)) reached f

include drawn waiting h all in
/-- The block is settled once it has the features of the users that are left. -/
theorem settled (referable : (look g id).isReferable = true) {fs : List Int}
    (own : (look g id).hasOwnFeature = true → fs = (look g id).features ∧
      ∀ user ∈ (look c id).users, (look c user).features = (look g id).features)
    (shared : (look g id).hasOwnFeature = false →
      ∀ f, f ∈ fs ↔ ∃ user ∈ (look c id).users, f ∈ (look c user).features) :
    Settled g id { look c id with features := fs } := by
  have users := h.users_iff all
  have given {v : Nat} (inside : v ∈ (look c id).users) :=
    user_features_iff drawn waiting h all inside
  have reach {v : Nat} {f : Int} (refers : Refers g v id) (has : Given g v f) :
      v ∈ (look c id).users := (users v).2 ⟨refers, has.reached⟩
  refine ⟨users, fun reached f => ?_, fun owns => ⟨(own owns).1, fun v inside f => ?_⟩⟩
  · rw [given_iff referable]
    cases owns : (look g id).hasOwnFeature with
    | true =>
      obtain ⟨same, agree⟩ := own owns
      rw [same]
      constructor
      · intro has
        obtain ⟨v, refers, reached⟩ := (reached_iff referable).1 reached
        have inside := (users v).2 ⟨refers, reached⟩
        exact ⟨v, refers, (given inside f).1 (agree v inside ▸ has)⟩
      · rintro ⟨v, refers, has⟩
        have inside := reach refers has
        exact agree v inside ▸ (given inside f).2 has
    | false =>
      rw [shared owns f]
      constructor
      · rintro ⟨v, inside, has⟩
        exact ⟨v, ((users v).1 inside).1, (given inside f).1 has⟩
      · rintro ⟨v, refers, has⟩
        exact ⟨v, reach refers has, (given (reach refers has) f).2 has⟩
  · rw [← given inside f, (own owns).2 v inside]

include drawn waiting h all in
/-- All users have been dealt with, and the block is settled. -/
theorem finish (unasked : (look b id).prepared = false) (before : Searched g stack b)
    {fs : List Int} (size : d.size = c.size) (others : ∀ j, j ≠ id → look d j = look c j)
    (here : look d id = { look c id with features := fs })
    (settled : Settled g id { look c id with features := fs }) :
    Searched g stack d ∧ Later stack b d ∧ Settled g id (look d id) ∧
      (look d id).prepared = true := by
  have idle := waiting.notMem drawn
  rw [← here] at settled
  have prepared (j : Nat) : (look d j).prepared = (look c j).prepared := by
    by_cases same : j = id
    · rw [same, here]
    · rw [others j same]
  have content (j : Nat) : (look d j).content = (look c j).content := by
    by_cases same : j = id
    · rw [same, here]
    · rw [others j same]
  have away {j : Nat} (quiet : j ∉ stack) (other : j ≠ id) : j ∉ id :: stack := by
    simp [quiet, other]
  refine ⟨⟨size.trans h.searched.size, fun j => (content j).trans (h.searched.content j),
    fun j root => (prepared j).trans (h.searched.roots j root), fun j quiet never => ?_,
    fun j quiet asked => ?_⟩, ⟨?_, fun j => ?_, fun j kept => ?_⟩, settled,
    (prepared id).trans h.marked⟩
  · have other : j ≠ id := by
      rintro rfl
      rw [prepared, h.marked] at never
      cases never
    rw [others j other] at never ⊢
    exact h.searched.unasked j (away quiet other) never
  · by_cases same : j = id
    · subst same
      refine ⟨settled, fun v inside isRoot => ?_⟩
      rw [prepared]
      exact h.ready v (all v ((settled.users v).1 inside).1) isRoot
    · rw [others j same] at asked ⊢
      obtain ⟨settled', ready⟩ := h.searched.settled j (away quiet same) asked
      refine ⟨settled', fun v inside isRoot => ?_⟩
      rw [prepared]
      exact ready v inside isRoot
  · rw [size, h.searched.size, before.size]
  · rw [content, h.searched.content, before.content]
  · have other : j ≠ id := by
      rintro rfl
      obtain waits | asked | never := kept
      · exact idle waits
      · simp [unasked] at asked
      · rw [prepared, h.marked] at never
        cases never
    rw [others j other] at kept ⊢
    exact h.same j other kept

end Finish

end Sifting

theorem Settled.used {x : Block} (h : Settled g i x) (referable : (look g i).isReferable = true) :
    (!x.users.isEmpty) = true ↔ Reached g i := by
  rw [reached_iff referable, Bool.not_eq_true', List.isEmpty_eq_false_iff_exists_mem]
  exact exists_congr h.users

theorem Searched.mark (drawn : Drawn g) (h : Searched g stack b) (idle : id ∉ stack)
    (here : id < g.size) (referable : (look g id).isReferable = true)
    (unasked : (look b id).prepared = false) :
    Sifting g stack id b [] (b.modify id fun x => { x with prepared := true }) := by
  have old := h.unasked id idle unasked
  have marked : look (b.modify id fun x => { x with prepared := true }) id =
      { look b id with prepared := true } := by
    rw [look_modify, if_pos ⟨rfl, h.size ▸ here⟩]
  have others (j : Nat) (other : j ≠ id) :
      look (b.modify id fun x => { x with prepared := true }) j = look b j := by
    rw [look_modify, if_neg fun both => other both.1.symm]
  have size : (b.modify id fun x => { x with prepared := true }).size = b.size := Array.size_modify
  generalize b.modify id (fun x => { x with prepared := true }) = c at marked others size
  have ready {v : Nat} (asked : (look b v).prepared = true) : (look c v).prepared = true := by
    by_cases same : v = id
    · rw [same, marked]
    · rw [others v same, asked]
  have apart {j : Nat} (quiet : j ∉ id :: stack) : j ≠ id ∧ j ∉ stack := by simpa using quiet
  constructor
  · refine ⟨size.trans h.size, fun j => ?_, fun j root => ?_, fun j quiet never => ?_,
      fun j quiet asked => ?_⟩
    · by_cases same : j = id
      · rw [same, marked, h.content]
      · rw [others j same, h.content]
    · rw [others j fun same => by simp [IsRoot, same, referable] at root, h.roots j root]
    · rw [others j (apart quiet).1] at never ⊢
      exact h.unasked j (apart quiet).2 never
    · rw [others j (apart quiet).1] at asked ⊢
      obtain ⟨settled, all⟩ := h.settled j (apart quiet).2 asked
      exact ⟨settled, fun v inside isRoot => ready (all v inside isRoot)⟩
  · intro j other _
    rw [others j other]
    exact .refl _
  · rw [marked]
  · rw [marked, ← old.features]
  · intro v
    simp [marked, old.users, Refers]
  · rw [marked]
    exact old.users ▸ drawn.distinct id
  · simp

/-- Every search answers rightly. -/
theorem answers (drawn : Drawn g) (fuel : Nat) : Answers g fuel := by
  induction fuel with
  | zero =>
    intro stack id s t r waiting enough
    exact absurd waiting.length_le (by omega)
  | succ fuel ih =>
    intro stack id s t r waiting enough known run
    have idle := waiting.notMem drawn
    obtain ⟨root, rfl, rfl⟩ | ⟨referable, rfl, ⟨asked, rfl⟩ | ⟨unasked, steps⟩⟩ := isUsed_cases run
    · rw [known.isReferable_eq] at root
      exact ⟨known, .refl _, iff_of_true rfl ⟨id, root, .refl⟩, fun isRoot => absurd root isRoot⟩
    · rw [known.isReferable_eq] at referable
      obtain ⟨settled, -⟩ := known.settled id idle asked
      exact ⟨known, .refl _, settled.used referable, fun _ => asked⟩
    · rw [known.isReferable_eq] at referable
      obtain ⟨s1, s2, s3, marks, forgotten, features, same⟩ := steps
      have old := known.unasked id idle unasked
      have start := known.mark drawn idle waiting.here referable unasked
      rw [← marks] at start
      have sifted := start.run drawn ih waiting enough
        (fun user inside => by rw [old.users] at inside; exact inside) forgotten
      have all (user : Nat) (refers : Refers g user id) :
          user ∈ (look s.blocks id).users.reverse ++ [] := by
        rw [append_nil, mem_reverse, old.users]
        exact refers
      have content := hasOwnFeature_congr (sifted.searched.content id)
      have result : Searched g stack t.blocks ∧ Later stack s.blocks t.blocks ∧
          Settled g id (look t.blocks id) ∧ (look t.blocks id).prepared = true := by
        rw [same]
        split at features
        case isTrue own =>
          rw [content] at own
          obtain ⟨rfl, agree⟩ := forM_checkUser features
          rw [sifted.features] at agree
          exact sifted.finish drawn waiting all unasked known rfl (fun _ _ => rfl) rfl
            (sifted.settled drawn waiting all referable (fun _ => ⟨sifted.features, agree⟩)
              fun shared => by simp [own] at shared)
        case isFalse shared =>
          rw [content, Bool.not_eq_true] at shared
          have apart : id ∉ (look s2.blocks id).users := fun inside =>
            drawn.acyclic id (.single ((sifted.users id).1 inside).1)
          obtain ⟨size, others, fs, here, union⟩ :=
            forIn_takeFeatures (sifted.searched.size ▸ waiting.here) apart features
          refine sifted.finish drawn waiting all unasked known size others here
            (sifted.settled drawn waiting all referable (fun own => by simp [shared] at own)
              fun _ f => ?_)
          rw [union f, sifted.features, drawn.bare id shared]
          simp
      obtain ⟨searched, later, settled, asked⟩ := result
      exact ⟨searched, later, settled.used referable, fun _ => asked⟩

theorem Drawn.searched (drawn : Drawn g) : Searched g [] g where
  size := rfl
  content _ := rfl
  roots i _ := drawn.fresh i
  unasked _ _ _ := .refl _
  settled i _ asked := by simp [drawn.fresh i] at asked

theorem isNeeded_answer (drawn : Drawn g) {r : Bool} (inside : id < g.size)
    (known : Searched g [] s.blocks) (run : isNeeded id s = .ok r t) :
    Answer g [] id s.blocks t.blocks r := by
  obtain ⟨u, s1, now, run⟩ := bind_eq_ok.1 run
  obtain ⟨rfl, rfl⟩ := get_eq_ok.1 now
  have alone : Waiting g [] id := ⟨by simp, nodup_nil, by simp, inside⟩
  exact answers drawn _ alone (by rw [known.size]; simp) known run

/-- What a sequence of questions leaves. -/
structure Asked (g : Array Block) (ids : List Nat) (b c : Array Block) (rs : List Bool) : Prop where
  searched : Searched g [] c
  later : Later [] b c
  used : Forall₂ (fun id r => r = true ↔ Reached g id) ids rs
  asked : ∀ id ∈ ids, ¬ IsRoot g id → (look c id).prepared = true

theorem mapM_isNeeded (drawn : Drawn g) {ids : List Nat} {rs : List Bool}
    (inside : ∀ id ∈ ids, id < g.size) (known : Searched g [] s.blocks)
    (run : ids.mapM isNeeded s = .ok rs t) : Asked g ids s.blocks t.blocks rs := by
  induction ids generalizing s rs with
  | nil =>
    rw [mapM_nil] at run
    obtain ⟨rfl, rfl⟩ := pure_eq_ok.1 run
    exact ⟨known, .refl _, .nil, by simp⟩
  | cons id ids ih =>
    rw [forall_mem_cons] at inside
    rw [mapM_cons] at run
    obtain ⟨r, s1, first, run⟩ := bind_eq_ok.1 run
    obtain ⟨rest, s2, others, run⟩ := bind_eq_ok.1 run
    obtain ⟨rfl, rfl⟩ := pure_eq_ok.1 run
    have answer := isNeeded_answer drawn inside.1 known first
    have after := ih inside.2 answer.searched others
    refine ⟨after.searched, answer.later.trans after.later, .cons answer.used after.used,
      forall_mem_cons.2 ⟨fun isRoot => ?_, after.asked⟩⟩
    have asked := answer.asked isRoot
    exact (after.later.same id (.inr (.inl asked))).prepared.trans asked

/-- The users that a block is left with are reached, and have the features of the roots that reach
them. -/
theorem Asked.user_features_iff (drawn : Drawn g) {ids : List Nat} {rs : List Bool}
    (h : Asked g ids b c rs) (inside : i ∈ ids) (referable : ¬ IsRoot g i)
    (refers : Refers g user i) (reached : Reached g user) (f : Int) :
    f ∈ (look c user).features ↔ Given g user f := by
  obtain ⟨settled, ready⟩ := h.searched.settled i not_mem_nil (h.asked i inside referable)
  exact h.searched.features_iff drawn not_mem_nil
    (ready user ((settled.users user).2 ⟨refers, reached⟩)) reached f

/-- Blocks that are asked for, in any order and any number of times, are used exactly if a root
reaches them. They keep the users that a root reaches; a block without a feature of its own has the
features of those, which are the features of the roots that reach it, and the users of one with a
feature of its own have just that. -/
theorem needed_iff_reached {ids : List Nat} {rs : List Bool} (drawn : Drawn s.blocks)
    (inside : ∀ id ∈ ids, id < s.blocks.size) (run : ids.mapM isNeeded s = .ok rs t) :
    Forall₂ (fun id r => r = true ↔ Reached s.blocks id) ids rs ∧
      ∀ id ∈ ids, ¬ IsRoot s.blocks id → Reached s.blocks id →
        (∀ user, user ∈ (look t.blocks id).users ↔
          Refers s.blocks user id ∧ Reached s.blocks user) ∧
        (∀ f, f ∈ (look t.blocks id).features ↔ Given s.blocks id f) ∧
        (∀ f, f ∈ (look t.blocks id).features ↔
          ∃ user ∈ (look t.blocks id).users, f ∈ (look t.blocks user).features) ∧
        ((look s.blocks id).hasOwnFeature = true →
          (look t.blocks id).features = (look s.blocks id).features ∧
          ∀ user ∈ (look t.blocks id).users, ∀ f,
            f ∈ (look t.blocks user).features ↔ f ∈ (look s.blocks id).features) := by
  have after := mapM_isNeeded drawn inside drawn.searched run
  refine ⟨after.used, fun id called referable reached => ?_⟩
  obtain ⟨settled, -⟩ := after.searched.settled id not_mem_nil (after.asked id called referable)
  have given {user : Nat} (left : user ∈ (look t.blocks id).users) (f : Int) :
      f ∈ (look t.blocks user).features ↔ Given s.blocks user f := by
    obtain ⟨refers, reached'⟩ := (settled.users user).1 left
    exact after.user_features_iff drawn called referable refers reached' f
  refine ⟨settled.users, settled.features reached, fun f => ?_, fun own => ?_⟩
  · rw [settled.features reached f, given_iff (by simpa [IsRoot] using referable)]
    constructor
    · rintro ⟨user, refers, has⟩
      have left := (settled.users user).2 ⟨refers, has.reached⟩
      exact ⟨user, left, (given left f).2 has⟩
    · rintro ⟨user, left, has⟩
      exact ⟨user, ((settled.users user).1 left).1, (given left f).1 has⟩
  · obtain ⟨same, agree⟩ := settled.own own
    exact ⟨same, fun user left f => (given left f).trans (agree user left f)⟩

/-- Where blocks are used by later ones only, there is no cycle. -/
theorem acyclic_of_lt (later : ∀ i user, Refers g user i → i < user) (i : Nat) :
    ¬ TransGen (Refers g) i i := by
  have down {a b : Nat} (path : TransGen (Refers g) a b) : b < a := by
    induction path with
    | single last => exact later _ _ last
    | tail _ last ih => exact Nat.lt_trans (later _ _ last) ih
  exact fun path => Nat.lt_irrefl i (down path)

/-- The blocks of a script are used by later ones only, so that it can be checked block by block
that nothing has been asked yet. -/
theorem drawn_of_lt (each : ∀ i < g.size,
    (∀ user ∈ (look g i).users, i < user ∧ user < g.size) ∧ (look g i).users.Nodup ∧
      ((look g i).isReferable = false → (look g i).users = []) ∧ (look g i).prepared = false ∧
      ((look g i).hasOwnFeature = false → (look g i).features = [])) : Drawn g := by
  have outside {i : Nat} (h : ¬ i < g.size) : look g i = default := by
    rw [look, Array.getElem?_eq_none (Nat.le_of_not_lt h), Option.getD_none]
  have used {i user : Nat} (refers : Refers g user i) : i < user ∧ user < g.size := by
    by_cases h : i < g.size
    · exact (each i h).1 user refers
    · rw [Refers, outside h] at refers
      exact absurd refers not_mem_nil
  refine ⟨fun i user refers => (used refers).2, fun i => ?_,
    acyclic_of_lt fun i user refers => (used refers).1, fun i => ?_, fun i => ?_, fun i => ?_⟩
  all_goals by_cases h : i < g.size
  · exact (each i h).2.1
  · rw [outside h]
    exact nodup_nil
  · exact (each i h).2.2.1
  · rw [outside h]
    exact fun _ => rfl
  · exact (each i h).2.2.2.1
  · rw [outside h]
    rfl
  · exact (each i h).2.2.2.2
  · rw [outside h]
    exact fun _ => rfl

/-- A sprite group that is shared by the graphics of two features and by another group that nothing
uses, and a switch for the first feature. -/
def sharedGroup : Session where
  blocks := #[
    { content := .spritegroup default, name := none, pos := default, users := [2, 3, 4] },
    { content := .switchBlock default, name := none, pos := default, features := [0],
      users := [3], uses := [] },
    { content := .spritegroup default, name := none, pos := default, uses := [0] },
    { content := .graphics default, name := none, pos := default, features := [0],
      uses := [0, 1] },
    { content := .graphics default, name := none, pos := default, features := [1],
      uses := [0] }]

theorem sharedGroup_needed :
    ∃ t, [0, 1, 2, 0].mapM isNeeded sharedGroup = .ok [true, true, false, true] t ∧
      (look t.blocks 0).features = [0, 1] ∧ (look t.blocks 0).users = [3, 4] ∧
      Reached sharedGroup.blocks 0 ∧ ¬ Reached sharedGroup.blocks 2 ∧
      ∀ f, f ∈ [0, 1] ↔ Given sharedGroup.blocks 0 f := by
  obtain ⟨t, run, features, users⟩ : ∃ t,
      [0, 1, 2, 0].mapM isNeeded sharedGroup = .ok [true, true, false, true] t ∧
        (look t.blocks 0).features = [0, 1] ∧ (look t.blocks 0).users = [3, 4] :=
    ⟨_, rfl, rfl, rfl⟩
  obtain ⟨used, each⟩ := needed_iff_reached (drawn_of_lt (by decide)) (by decide) run
  simp only [forall₂_cons, true_iff, false_iff, Bool.false_eq_true] at used
  obtain ⟨shared, -, unused, -⟩ := used
  obtain ⟨-, given, -⟩ := each 0 (by decide) (by decide) shared
  rw [features] at given
  exact ⟨t, run, features, users, shared, unused, given⟩

end NewGrf.Block
