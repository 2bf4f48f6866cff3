import NewGrf.Graph.Build
import NewGrf.Proofs.Build

namespace NewGrf

/-- What a build may do to a session. -/
structure Frame where
  /-- How a build that succeeds may leave it. -/
  kept : Session → Session → Prop
  /-- How a build that fails may leave it. -/
  left : Session → Session → Prop
  refl : ∀ s, kept s s
  trans : ∀ {s t u}, kept s t → kept t u → kept s u
  left_refl : ∀ s, left s s
  left_trans : ∀ {s t u}, kept s t → left t u → left s u

/-- Whatever stays within the first frame stays within the second one. -/
structure Frame.Within (R R' : Frame) : Prop where
  kept : ∀ s t, R.kept s t → R'.kept s t
  left : ∀ s t, R.left s t → R'.left s t

theorem Frame.Within.refl (R : Frame) : R.Within R := ⟨fun _ _ => id, fun _ _ => id⟩

/-- A build that stays within a frame and only gives what it should. Where it does not matter what a
build gives, instances follow its shape. -/
class Ensures {α : Type} (R : Frame) (m : Build α) (P : α → Prop) : Prop where
  of_ok : ∀ {s t : Session} {a : α}, m s = .ok a t → R.kept s t ∧ P a
  of_error : ∀ {s t : Session} {e : Stop}, m s = .error e t → R.left s t

/-- A build that stays within a frame. -/
abbrev Keeps {α : Type} (R : Frame) (m : Build α) : Prop := Ensures R m fun _ => True

/-- A build with a state of its own that stays within a frame: what it finds of its state is `P`,
and what it gives and leaves is `Q`. -/
def Carries {σ α : Type} (R : Frame) (P : σ → Prop) (m : StateT σ Build α) (Q : α → σ → Prop) :
    Prop :=
  ∀ d, P d → Ensures R (m d) fun x => Q x.1 x.2

variable {fault : Fault} {text : String} {pos : Option Position} {c : Prop}

namespace Ensures

variable {α β : Type} {R R' : Frame} {P : α → Prop} {Q : β → Prop}

theorem mono {m P'} (h : Ensures R m P) (wider : R.Within R')
    (weaker : ∀ a, P a → P' a) : Ensures R' m P' where
  of_ok run :=
    have ⟨frame, holds⟩ := h.of_ok run
    ⟨wider.kept _ _ frame, weaker _ holds⟩
  of_error run := wider.left _ _ (h.of_error run)

theorem keeps {m} (h : Ensures R m P) : Keeps R m := h.mono (.refl R) fun _ _ => trivial

theorem widen {m} (h : Ensures R m P) (wider : R.Within R') : Ensures R' m P :=
  h.mono wider fun _ => id

variable {m : Build α} {next : Unit → Build β} {xs : List α}

/-- What a build without a result to speak of does stays within every wider frame. -/
theorem within (wider : R.Within R') [h : Keeps R m] : Keeps R' m := h.widen wider

instance throw {e} : Ensures R (throw e : Build α) P where
  of_ok h := nomatch h
  of_error h := by
    cases h
    exact R.left_refl _

instance stop : Ensures R (Build.stop fault : Build α) P := throw

instance fail : Ensures R (Build.fail text pos : Build α) P := stop

instance crash : Ensures R (Build.crash : Build α) P := throw

theorem ite {c : Prop} [Decidable c] {m n} (yes : c → Ensures R m P)
    (no : ¬c → Ensures R n P) : Ensures R (if c then m else n) P := by
  split
  · exact yes ‹_›
  · exact no ‹_›

theorem modify {f} (frame : ∀ s, R.kept s (f s)) : Keeps R (modify f : Build Unit) where
  of_ok h := by
    obtain rfl := Build.modify_eq_ok.1 h
    exact ⟨frame _, trivial⟩
  of_error h := nomatch h

theorem pure {a} (holds : P a) : Ensures R (pure a) P where
  of_ok h := by
    obtain ⟨rfl, rfl⟩ := Build.pure_eq_ok.1 h
    exact ⟨R.refl _, holds⟩
  of_error h := nomatch h

instance just {a} : Keeps R (Pure.pure a : Build α) := .pure trivial

theorem bind {m f} (first : Ensures R m P)
    (next : ∀ a, P a → Ensures R (f a) Q) : Ensures R (m >>= f) Q where
  of_ok h := by
    obtain ⟨a, u, left, right⟩ := Build.bind_eq_ok.1 h
    obtain ⟨frame, holds⟩ := first.of_ok left
    obtain ⟨frame', result⟩ := (next a holds).of_ok right
    exact ⟨R.trans frame frame', result⟩
  of_error h := by
    obtain failed | ⟨a, u, left, right⟩ := Build.bind_eq_error.1 h
    · exact first.of_error failed
    · obtain ⟨frame, holds⟩ := first.of_ok left
      exact R.left_trans frame ((next a holds).of_error right)

/-- Behind a failure nothing has to be shown. -/
theorem failThen {next : α → Build β} : Ensures R (Build.fail text pos >>= next) Q :=
  .bind (.fail (P := fun _ => False)) fun _ => False.elim

/-- A test that stops the build does not change what the rest of it does. -/
theorem unlessFails [Decidable c] (h : Ensures R (next ()) Q) :
    Ensures R (if c then Build.fail text pos >>= next else next ()) Q :=
  .ite (fun _ => .failThen) fun _ => h

theorem map {f m} (h : Ensures R m P) (result : ∀ a, P a → Q (f a)) : Ensures R (f <$> m) Q := by
  rw [map_eq_pure_bind]
  exact h.bind fun a holds => .pure (result a holds)

instance get : Keeps R (get : Build Session) where
  of_ok h := by
    obtain ⟨-, rfl⟩ := Build.get_eq_ok.1 h
    exact ⟨R.refl _, trivial⟩
  of_error h := nomatch h

instance : Keeps R (MonadStateOf.get : Build Session) := get

instance ofExcept {e : Except Fault α} : Keeps R (Build.ofExcept e) := by
  cases e with
  | ok a => exact .just
  | error fault => exact .stop

instance check {fault} : Keeps R (Build.check fault) := by
  cases fault with
  | some fault => exact .stop
  | none => exact .just

/-- Goes on after a step whose result does not matter. -/
theorem after {m : Build α} {f : α → Build β} [h : Keeps R m] (next : ∀ a, Ensures R (f a) Q) :
    Ensures R (m >>= f) Q := h.bind fun a _ => next a

theorem andThen {m : Build α} {f : α → Build β} (first : Keeps R m)
    (next : ∀ a, Ensures R (f a) Q) : Ensures R (m >>= f) Q := after next

instance seq {m : Build α} {f : α → Build β} [Keeps R m] [next : ∀ a, Ensures R (f a) Q] :
    Ensures R (m >>= f) Q := after next

instance discard [h : Keeps R m] : Keeps R (discard m) := h.map fun _ _ => trivial

instance [Decidable c] {n : Build α} [yes : Ensures R m P] [no : Ensures R n P] :
    Ensures R (if c then m else n) P := .ite (fun _ => yes) fun _ => no

instance [Decidable c] {m : c → Build α} {n : ¬c → Build α} [∀ h, Ensures R (m h) P]
    [∀ h, Ensures R (n h) P] : Ensures R (dite c m n) P := by
  split <;> infer_instance

instance forM {xs : List α} {f : α → Build PUnit} [each : ∀ x, Keeps R (f x)] :
    Keeps R (xs.forM f) := by
  induction xs with
  | nil => exact .just
  | cons x xs ih => exact .seq

theorem mapM {xs : List α} {f : α → Build β} (each : ∀ x ∈ xs, Ensures R (f x) Q) :
    Ensures R (xs.mapM f) fun ys => ∀ y ∈ ys, Q y := by
  induction xs with
  | nil =>
    rw [List.mapM_nil]
    exact .pure nofun
  | cons x xs ih =>
    rw [List.forall_mem_cons] at each
    rw [List.mapM_cons]
    exact each.1.bind fun y holds => (ih each.2).bind fun ys all =>
      .pure (List.forall_mem_cons.2 ⟨holds, all⟩)

instance {f : α → Build β} [each : ∀ x, Keeps R (f x)] : Keeps R (xs.mapM f) :=
  (mapM fun x _ => each x).keeps

instance filterMapM {xs : List α} {f : α → Build (Option β)} [each : ∀ x, Keeps R (f x)] :
    Keeps R (xs.filterMapM f) := by
  have loop (acc : List β) : Keeps R (List.filterMapM.loop f xs acc) := by
    induction xs generalizing acc with
    | nil => exact .just
    | cons x xs ih => exact .after fun y => by cases y <;> exact ih _
  exact loop []

theorem foldlM {xs : List α} {f init} (start : Q init)
    (each : ∀ x ∈ xs, ∀ b, Q b → Ensures R (f b x) Q) : Ensures R (xs.foldlM f init) Q := by
  induction xs generalizing init with
  | nil =>
    rw [List.foldlM_nil]
    exact .pure start
  | cons x xs ih =>
    rw [List.forall_mem_cons] at each
    rw [List.foldlM_cons]
    exact (each.1 init start).bind fun b holds => ih holds each.2

instance {f : β → α → Build β} {init : β} [each : ∀ b x, Keeps R (f b x)] :
    Keeps R (xs.foldlM f init) := foldlM trivial fun x _ b _ => each b x

instance forIn {xs : List α} {init : β} {body : α → β → Build (ForInStep β)}
    [each : ∀ x b, Keeps R (body x b)] : Keeps R (forIn xs init body) := by
  induction xs generalizing init with
  | nil => exact .just
  | cons x xs ih =>
    rw [List.forIn_cons]
    refine .after fun r => ?_
    cases r with
    | done => exact .just
    | yield b => exact ih

theorem optionMapM {x : Option α} {f : α → Build β} (each : ∀ y ∈ x, Ensures R (f y) Q) :
    Ensures R (x.mapM f) fun z => ∀ y ∈ z, Q y := by
  cases x with
  | none => exact .pure nofun
  | some x =>
    refine (each x rfl).map fun y holds => ?_
    rintro _ ⟨⟩
    exact holds

instance {x : Option α} {f : α → Build β} [each : ∀ y, Keeps R (f y)] : Keeps R (x.mapM f) :=
  (optionMapM fun y _ => each y).keeps

end Ensures

namespace Keeps

variable {α β : Type} {R : Frame} {xs : List α}

theorem forM {f : α → Build PUnit} (each : ∀ x, Keeps R (f x)) : Keeps R (xs.forM f) :=
  inferInstance

theorem mapM {f : α → Build β} (each : ∀ x, Keeps R (f x)) : Keeps R (xs.mapM f) :=
  inferInstance

theorem forIn {init : β} {body : α → β → Build (ForInStep β)}
    (each : ∀ x b, Keeps R (body x b)) : Keeps R (forIn xs init body) := inferInstance

end Keeps

namespace Carries

variable {σ α β : Type} {R : Frame} {P P' : σ → Prop} {Q : α → σ → Prop} {I : β → σ → Prop}

theorem mono {m Q'} (h : Carries R P m Q)
    (stronger : ∀ d, P' d → P d) (weaker : ∀ a d, Q a d → Q' a d) : Carries R P' m Q' :=
  fun d holds => (h d (stronger d holds)).mono (.refl R) fun x => weaker x.1 x.2

theorem ite {c : Prop} [Decidable c] {m n} (yes : c → Carries R P m Q)
    (no : ¬c → Carries R P n Q) : Carries R P (if c then m else n) Q := by
  split
  · exact yes ‹_›
  · exact no ‹_›

theorem lift {m S} (h : Ensures R m S)
    (after : ∀ a d, P d → S a → Q a d) : Carries R P (liftM m : StateT σ Build α) Q :=
  fun d holds => h.bind fun a result => .pure (after a d holds result)

/-- What does not look at the state leaves it as it is. -/
theorem run {m S} (h : Ensures R m S) :
    Carries R P (liftM m : StateT σ Build α) fun a d => S a ∧ P d :=
  lift h fun _ _ holds result => ⟨result, holds⟩

theorem quiet {m} (h : Keeps R m) :
    Carries R P (liftM m : StateT σ Build α) fun _ => P := lift h fun _ _ holds _ => holds

theorem pure {a} (holds : ∀ d, P d → Q a d) : Carries R P (pure a : StateT σ Build α) Q :=
  fun d before => .pure (holds d before)

theorem bind {m f} (first : Carries R P m I)
    (next : ∀ b, Carries R (I b) (f b) Q) : Carries R P (m >>= f) Q :=
  fun d holds => (first d holds).bind fun x middle => next x.1 x.2 middle

theorem just {a} : Carries R P (Pure.pure a : StateT σ Build α) fun _ => P := pure fun _ => id

/-- Goes on after a step that does not look at the state. -/
theorem skip {m : Build β} {f : β → StateT σ Build α} [h : Keeps R m]
    (next : ∀ b, Carries R P (f b) Q) : Carries R P (liftM m >>= f) Q := (quiet h).bind next

theorem failThen {f : α → StateT σ Build β} {Q : β → σ → Prop} :
    Carries R P ((Build.fail text pos : StateT σ Build α) >>= f) Q := by
  intro d _
  rw [Stateful.lift_bind]
  exact .bind (.fail (P := fun _ => False)) fun _ => False.elim

/-- Goes on with what is known of the result. -/
theorem andThen {m : StateT σ Build β} {f : β → StateT σ Build α} {S : β → Prop}
    (first : Carries R P m fun b d => S b ∧ P' d) (next : ∀ b, S b → Carries R P' (f b) Q) :
    Carries R P (m >>= f) Q := first.bind fun b d holds => next b holds.1 d holds.2

/-- Goes on with what is known of the result, whatever the state is. -/
theorem known {m : StateT σ Build β} {f : β → StateT σ Build α} {S : β → Prop}
    (first : Carries R P m fun b _ => S b) (next : ∀ b, S b → Carries R (fun _ => True) (f b) Q) :
    Carries R P (m >>= f) Q := first.bind fun b d holds => next b holds d trivial

theorem modify {f} (step : ∀ d, P d → P' (f d)) :
    Carries R P (modify f : StateT σ Build Unit) fun _ => P' :=
  fun d holds => .pure (step d holds)

end Carries

/-- A build with a state of its own that stays within a frame, whatever its state is. Instances
follow its shape. -/
class Passes {σ α : Type} (R : Frame) (m : StateT σ Build α) : Prop where
  keeps : ∀ d, Keeps R (m d)

namespace Passes

variable {σ α β : Type} {R : Frame} {m : StateT σ Build α}

instance lift {m : Build α} [h : Keeps R m] : Passes R (liftM m : StateT σ Build α) :=
  ⟨fun _ => h.bind fun _ _ => .just⟩

instance pure {a} : Passes R (Pure.pure a : StateT σ Build α) := ⟨fun _ => .just⟩

instance get : Passes R (get : StateT σ Build σ) := ⟨fun _ => .just⟩

instance modify {f} : Passes R (modify f : StateT σ Build Unit) := ⟨fun _ => .just⟩

theorem andThen {f : α → StateT σ Build β} (first : Passes R m) (next : ∀ a, Passes R (f a)) :
    Passes R (m >>= f) := ⟨fun d => (first.keeps d).bind fun x _ => (next x.1).keeps x.2⟩

theorem after {f : α → StateT σ Build β} [first : Passes R m] (next : ∀ a, Passes R (f a)) :
    Passes R (m >>= f) := andThen first next

instance {f : α → StateT σ Build β} [first : Passes R m] [next : ∀ a, Passes R (f a)] :
    Passes R (m >>= f) := after next

instance [Decidable c] {n : StateT σ Build α} [yes : Passes R m] [no : Passes R n] :
    Passes R (if c then m else n) := by
  split <;> assumption

theorem forIn {xs : List α} {init : β} {body : α → β → StateT σ Build (ForInStep β)}
    (each : ∀ x b, Passes R (body x b)) : Passes R (forIn xs init body) := by
  induction xs generalizing init with
  | nil => exact .pure
  | cons x xs ih =>
    rw [List.forIn_cons]
    refine .andThen (each x init) fun r => ?_
    cases r with
    | done b => exact .pure
    | yield b => exact ih

instance {xs : List α} {init : β} {body : α → β → StateT σ Build (ForInStep β)}
    [each : ∀ x b, Passes R (body x b)] : Passes R (ForIn.forIn xs init body) := forIn each

end Passes

/-- Goes on after a part, whatever the state has become. -/
theorem Carries.pass {σ α β : Type} {R : Frame} {P : σ → Prop} {Q : α → σ → Prop}
    {m : StateT σ Build β} {f : β → StateT σ Build α} [first : Passes R m]
    (next : ∀ b, Carries R (fun _ => True) (f b) Q) : Carries R P (m >>= f) Q :=
  fun d _ => (first.keeps d).bind fun x _ => next x.1 x.2 trivial

/-- All nodes stay as they are, and no number is given to one. -/
structure Session.SameNodes (s t : Session) : Prop where
  nodes : t.graph.nodes = s.graph.nodes
  freeIds : t.graph.freeIds = s.graph.freeIds

namespace Session.SameNodes

theorem refl (s : Session) : s.SameNodes s := ⟨rfl, rfl⟩

theorem trans {s t u : Session} (first : s.SameNodes t) (second : t.SameNodes u) : s.SameNodes u :=
  ⟨second.nodes.trans first.nodes, second.freeIds.trans first.freeIds⟩

end Session.SameNodes

/-- All nodes stay as they are, and so do the numbers that are given out and the languages, but not
the record of the texts that are used. -/
structure Session.Same (s t : Session) : Prop extends s.SameNodes t where
  params : t.params = s.params
  labels : t.labels = s.labels
  depth : t.skipDepth = s.skipDepth
  library : { t.library with used := [] } = { s.library with used := [] }

namespace Session.Same

theorem refl (s : Session) : s.Same s := ⟨.refl s, rfl, rfl, rfl, rfl⟩

theorem trans {s t u : Session} (first : s.Same t) (second : t.Same u) : s.Same u :=
  ⟨first.toSameNodes.trans second.toSameNodes, second.params.trans first.params,
    second.labels.trans first.labels, second.depth.trans first.depth,
    second.library.trans first.library⟩

theorem languages {s t : Session} (same : s.Same t) :
    t.library.languages = s.library.languages := by
  have library := congrArg Language.Library.languages same.library
  exact library

end Session.Same

/-- Nodes and numbers stay as they are, also when a build fails. -/
def Frame.fixed : Frame where
  kept := Session.Same
  left := Session.Same
  refl := .refl
  trans := .trans
  left_refl := .refl
  left_trans := .trans

/-- A build that leaves all nodes and numbers as they are. -/
abbrev Fixed {α : Type} (m : Build α) : Prop := Keeps .fixed m

/-- All nodes stay as they are, also when a build fails. -/
def Frame.still : Frame where
  kept := Session.SameNodes
  left := Session.SameNodes
  refl := .refl
  trans := .trans
  left_refl := .refl
  left_trans := .trans

/-- A build that leaves all nodes as they are. -/
abbrev Still {α : Type} (m : Build α) : Prop := Keeps .still m

theorem Frame.fixed_within_still : Frame.fixed.Within .still :=
  ⟨fun _ _ => Session.Same.toSameNodes, fun _ _ => Session.Same.toSameNodes⟩

instance (priority := low) {α : Type} {m : Build α} [Fixed m] : Still m :=
  Ensures.within Frame.fixed_within_still

/-- A change of anything but nodes. -/
theorem Still.modify {f} (same : ∀ s : Session, s.SameNodes (f s) := by exact fun _ => ⟨rfl, rfl⟩) :
    Still (modify f : Build Unit) := Ensures.modify same

/-- A change of anything but nodes and numbers. -/
theorem Fixed.modify {f}
    (same : ∀ s : Session, s.Same (f s) := by exact fun _ => ⟨⟨rfl, rfl⟩, rfl, rfl, rfl, rfl⟩) :
    Fixed (modify f : Build Unit) := Ensures.modify same

/-- Nothing but messages, marks of new values, shifts of accesses, sounds and slots of stations has
been added, and unknown names may be let through or not. -/
def Session.Noted (s t : Session) : Prop :=
  t = { s with console := t.console, made := t.made, shifts := t.shifts, sounds := t.sounds,
               stationSlots := t.stationSlots, lenient := t.lenient }

/-- A frame that allows to note something. -/
class Frame.Noting (R : Frame) : Prop where
  noted : ∀ s t, s.Noted t → R.kept s t

instance : Frame.fixed.Noting where
  noted _ _ h := ⟨⟨congrArg (·.graph.nodes) h, congrArg (·.graph.freeIds) h⟩, congrArg (·.params) h,
    congrArg (·.labels) h, congrArg (·.skipDepth) h,
    congrArg (fun u => { u.library with used := [] }) h⟩

theorem Keeps.note {R : Frame} [h : R.Noting] {f}
    (noted : ∀ s : Session, s.Noted (f s) := by exact fun _ => rfl) :
    Keeps R (modify f : Build Unit) := Ensures.modify fun s => h.noted s _ (noted s)

namespace Build

variable {R : Frame}

instance (id) : Keeps R (block? id) := .seq

instance (name) : Keeps R (resolve name) := by
  refine .after fun s => ?_
  split <;> infer_instance

instance (pos) : Keeps R (isTurned pos) := .seq

instance (e) : Keeps R (current e) := .seq

instance (value low high name pos) : Keeps R (checkRange value low high name pos) := by
  unfold checkRange
  infer_instance

instance [R.Noting] (text pos kind) : Keeps R (warn text pos kind) := Keeps.note

instance [R.Noting] (pos) : Keeps R (ownAt pos) := by
  unfold ownAt
  exact .ite (fun _ => .just) fun _ => .after fun _ => .andThen Keeps.note fun _ => .just

instance [R.Noting] (pos shift) : Keeps R (setShift pos shift) := by
  cases pos <;> first | exact .just | exact Keeps.note

instance (pos) : Fixed (turnCount pos) := by
  cases pos <;> first | exact .just | exact Fixed.modify

instance (id f) : Fixed (modifyBlock id f) := Fixed.modify

instance : Fixed newCell where
  of_ok h := by
    cases h
    exact ⟨⟨⟨rfl, rfl⟩, rfl, rfl, rfl, rfl⟩, trivial⟩
  of_error h := nomatch h

instance : Fixed newLoad where
  of_ok h := by
    cases h
    exact ⟨⟨⟨rfl, rfl⟩, rfl, rfl, rfl, rfl⟩, trivial⟩
  of_error h := nomatch h

end Build

end NewGrf
