import Mathlib.Data.List.Forall2
import NewGrf.Session

namespace NewGrf

theorem Except.bind_eq_ok {ε α β : Type} {x : Except ε α} {f : α → Except ε β} {b : β} :
    (x >>= f) = .ok b ↔ ∃ a, x = .ok a ∧ f a = .ok b := by
  cases x with
  | error e => simp [bind, Except.bind]
  | ok a => simp [bind, Except.bind]

namespace Build

variable {α β : Type}

variable {first m : Build α} {s t : Session} {b : β} {e : Stop} {a : α}

@[simp] theorem bind_eq_ok {next} :
    (first >>= next) s = .ok b t ↔ ∃ a u, first s = .ok a u ∧ next a u = .ok b t := by
  change EStateM.bind first next s = _ ↔ _
  unfold EStateM.bind
  cases first s with
  | ok a u => simp [and_assoc]
  | error e u => simp

theorem bind_eq_error {next : α → Build β} : (first >>= next) s = .error e t ↔
      first s = .error e t ∨ ∃ a u, first s = .ok a u ∧ next a u = .error e t := by
  change EStateM.bind first next s = _ ↔ _
  unfold EStateM.bind
  cases first s with
  | ok a u => simp [and_assoc]
  | error e u => simp

theorem tryCatch_eq_ok {next} : (tryCatch first next) s = .ok a t ↔
      first s = .ok a t ∨ ∃ e u, first s = .error e u ∧ next e u = .ok a t := by
  change EStateM.tryCatch first next s = _ ↔ _
  unfold EStateM.tryCatch
  cases first s with
  | ok a u => simp
  | error e u => simp [EStateM.Backtrackable.restore, EStateM.dummyRestore, and_assoc]

theorem tryCatch_eq_error {next} : (tryCatch first next) s = .error e t ↔
      ∃ e' u, first s = .error e' u ∧ next e' u = .error e t := by
  change EStateM.tryCatch first next s = _ ↔ _
  unfold EStateM.tryCatch
  cases first s with
  | ok a u => simp
  | error e u => simp [EStateM.Backtrackable.restore, EStateM.dummyRestore, and_assoc]

@[simp] theorem pure_eq_ok {b} : (pure a : Build α) s = .ok b t ↔ a = b ∧ s = t := by
  change EStateM.Result.ok a s = .ok b t ↔ _
  simp

@[simp] theorem get_eq_ok {u} : (get : Build Session) s = .ok t u ↔ s = t ∧ s = u := by
  change EStateM.Result.ok s s = .ok t u ↔ _
  simp

@[simp] theorem modify_eq_ok {f u} : (modify f : Build Unit) s = .ok u t ↔ f s = t := by
  change EStateM.Result.ok () (f s) = .ok u t ↔ _
  simp

@[simp] theorem map_eq_ok {f : α → β} : (f <$> m) s = .ok b t ↔ ∃ a, m s = .ok a t ∧ f a = b := by
  change EStateM.map f m s = _ ↔ _
  unfold EStateM.map
  cases m s with
  | ok a u => simp [and_assoc, and_comm (a := f a = b)]
  | error e u => simp

@[simp] theorem discard_eq_ok {u} : (discard m : Build Unit) s = .ok u t ↔ ∃ a, m s = .ok a t := by
  change ((fun _ => ()) <$> m) s = _ ↔ _
  simp

@[simp] theorem stop_ne_ok {f} : (stop f : Build α) s = .ok a t ↔ False := by
  change EStateM.Result.error _ _ = _ ↔ _
  simp

@[simp] theorem fail_ne_ok {text pos} : (fail text pos : Build α) s = .ok a t ↔ False := stop_ne_ok

@[simp] theorem ofExcept_eq_ok {e} : (ofExcept e) s = .ok a t ↔ e = .ok a ∧ s = t := by
  cases e <;> simp [ofExcept]

@[simp] theorem check_eq_ok {fault u} : (check fault) s = .ok u t ↔ fault = none ∧ s = t := by
  cases fault <;> simp [check]

theorem forIn_eq_ok {xs : List α} {body : α → PUnit → Build (ForInStep PUnit)}
    {u : PUnit} (keeps : ∀ x r s t, body x ⟨⟩ s = .ok r t → s = t)
    (h : forIn xs PUnit.unit body s = .ok u t) : s = t := by
  induction xs generalizing s with
  | nil => exact (pure_eq_ok.1 h).2
  | cons x xs ih =>
    simp only [List.forIn_cons, bind_eq_ok] at h
    obtain ⟨r, s', first, h⟩ := h
    obtain rfl := keeps x r s s' first
    cases r with
    | done => exact (pure_eq_ok.1 h).2
    | yield => exact ih h

/-- Each element is built in a session that has what all builds before it keep. -/
theorem forall₂_keeping_of_mapM {P : Session → Prop} {f : α → Build β} {xs : List α} {ys : List β}
    (keeps : ∀ {x u y v}, f x u = .ok y v → P u → P v) (holds : P s)
    (run : xs.mapM f s = .ok ys t) :
    List.Forall₂ (fun x y => ∃ u v, P u ∧ f x u = .ok y v) xs ys := by
  induction xs generalizing s ys with
  | nil =>
    obtain ⟨rfl, -⟩ := pure_eq_ok.1 run
    exact .nil
  | cons x rest ih =>
    rw [List.mapM_cons] at run
    obtain ⟨y, u, own, run⟩ := bind_eq_ok.1 run
    obtain ⟨others, v, loop, run⟩ := bind_eq_ok.1 run
    obtain ⟨rfl, rfl⟩ := pure_eq_ok.1 run
    exact .cons ⟨s, u, holds, own⟩ (ih (keeps own holds) loop)

theorem forall₂_of_mapM {f : α → Build β} {xs : List α} {ys : List β}
    (run : xs.mapM f s = .ok ys t) : List.Forall₂ (fun x y => ∃ u v, f x u = .ok y v) xs ys :=
  (forall₂_keeping_of_mapM (P := fun _ => True) (fun _ _ => trivial) trivial run).imp
    fun _ _ ⟨u, v, _, own⟩ => ⟨u, v, own⟩

/-- A build that keeps a property of the session and whose result has another one. -/
def Gives (R : Session → Prop) (m : Build α) (P : α → Prop) : Prop :=
  ∀ ⦃s a t⦄, R s → m s = .ok a t → R t ∧ P a

namespace Gives

variable {R : Session → Prop} {f : α → Build β} {P : α → Prop} {Q : β → Prop}

theorem pure (holds : P a) : Gives R (pure a) P := by
  intro s b t kept h
  obtain ⟨rfl, rfl⟩ := pure_eq_ok.1 h
  exact ⟨kept, holds⟩

theorem bind (first : Gives R m P) (next : ∀ a, P a → Gives R (f a) Q) : Gives R (m >>= f) Q := by
  intro s b t kept h
  obtain ⟨a, u, left, right⟩ := bind_eq_ok.1 h
  obtain ⟨between, holds⟩ := first kept left
  exact next a holds between right

theorem stop {fault : Fault} : Gives R (stop fault) P := fun _ _ _ _ h => by simp at h

theorem fail {text : String} {pos} : Gives R (fail text pos) P := stop

end Gives

end Build

namespace Stateful

variable {σ α β : Type} {d d' : σ} {s t : Session} {a : α} {b : β} {u : Unit}

variable {next : α → StateT σ Build β} {m : Build α}

theorem bind_eq_ok {first} : (first >>= next) d s = .ok (b, d') t ↔
      ∃ a d1 s1, first d s = .ok (a, d1) s1 ∧ next a d1 s1 = .ok (b, d') t := by
  change (first d >>= fun x : α × σ => next x.1 x.2) s = _ ↔ _
  rw [Build.bind_eq_ok]
  exact Prod.exists

theorem pure_eq_ok {x} :
    (pure x : StateT σ Build α) d s = .ok (a, d') t ↔ x = a ∧ d = d' ∧ s = t := by
  change (pure (x, d) : Build (α × σ)) s = _ ↔ _
  rw [Build.pure_eq_ok, Prod.mk.injEq, and_assoc]

theorem get_eq_ok {x} :
    (get : StateT σ Build σ) d s = .ok (x, d') t ↔ d = x ∧ d = d' ∧ s = t := pure_eq_ok

theorem modify_eq_ok {f} :
    (modify f : StateT σ Build Unit) d s = .ok (u, d') t ↔ f d = d' ∧ s = t := by
  change (pure ((), f d) : Build (Unit × σ)) s = _ ↔ _
  simp

theorem lift_eq_ok : (liftM m : StateT σ Build α) d s = .ok (a, d') t ↔ m s = .ok a t ∧ d = d' := by
  change (m >>= fun x => pure (x, d)) s = _ ↔ _
  rw [Build.bind_eq_ok]
  constructor
  · rintro ⟨x, s1, run, rest⟩
    obtain ⟨same, rfl⟩ := Build.pure_eq_ok.1 rest
    cases same
    exact ⟨run, rfl⟩
  · rintro ⟨run, rfl⟩
    exact ⟨a, t, run, rfl⟩

theorem lift_bind (d : σ) :
    ((liftM m : StateT σ Build α) >>= next) d = m >>= fun a => next a d := by
  change ((m >>= fun a => pure (a, d)) >>= fun x => next x.1 x.2) = _
  rw [bind_assoc]
  rfl

theorem lift_bind_eq_ok : ((liftM m : StateT σ Build α) >>= next) d s = .ok (b, d') t ↔
      ∃ a u, m s = .ok a u ∧ next a d u = .ok (b, d') t := by
  rw [bind_eq_ok]
  constructor
  · rintro ⟨a, _, u, lifted, rest⟩
    obtain ⟨run, rfl⟩ := lift_eq_ok.1 lifted
    exact ⟨a, u, run, rest⟩
  · rintro ⟨a, u, run, rest⟩
    exact ⟨a, d, u, lift_eq_ok.2 ⟨run, rfl⟩, rest⟩

theorem modify_bind_eq_ok {f next} :
    ((modify f : StateT σ Build Unit) >>= next) d s = .ok (b, d') t ↔
      next () (f d) s = .ok (b, d') t := .rfl

end Stateful

end NewGrf
