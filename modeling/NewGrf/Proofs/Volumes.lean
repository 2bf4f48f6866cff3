import NewGrf.Action.Link
import NewGrf.Action.Sounds

open List

namespace NewGrf

def PropertyValue.amount : PropertyValue → Int
  | .number v => v
  | .label _ => 0

/-- The volumes that an action sets: one value for each number from the first one on. -/
def Action.volumes : Action → List (Nat × Int)
  | .properties p =>
    match p.properties with
    | [.values number vs size] =>
      if p.feature = 0x0C ∧ number = 0x08 ∧ size = 1 ∧ p.count = vs.length then
        vs.zipIdx.map fun (v, i) => ((p.first + i).toNat, v.amount)
      else []
    | _ => []
  | _ => []

namespace Sounds

/-- The volumes of a series, with their numbers. -/
def Series.assigned (s : Series) : List (Nat × Int) :=
  (s.volumes.zipIdx s.first).map fun x => (x.2, x.1)

/-- The values that are assigned to a number, in their order. -/
def valuesAt (id : Nat) (assigned : List (Nat × Int)) : List Int :=
  (assigned.filter (·.1 == id)).map (·.2)

/-- The last number does not follow the one before it. -/
def EndsAlone (volumes : List (Nat × Int)) : Prop :=
  ∃ init a b, volumes = init ++ [a, b] ∧ b.1 ≠ a.1 + 1

/-- What is left of volumes if the last one is only written where its number is expected. -/
def kept : Nat → List (Nat × Int) → List (Nat × Int)
  | _, [] => []
  | next, [v] => if v.1 = next then [v] else []
  | _, v :: rest => v :: kept (v.1 + 1) rest

variable {volumes : List (Nat × Int)}

theorem Series.volumes_action (s : Series) : s.action.volumes = s.assigned := by
  simp only [action, Action.volumes, length_map, and_self, if_true, assigned]
  apply ext_getElem
  · simp
  · intro i _ _
    simp [PropertyValue.amount]
    omega

theorem Series.assigned_add (s : Series) (v : Int) :
    ({ s with volumes := s.volumes ++ [v] } : Series).assigned =
      s.assigned ++ [(s.first + s.volumes.length, v)] := by
  simp [assigned, zipIdx_append]

/-- An open series goes on with what is kept of the volumes. -/
theorem series_assigned (s : Series) (some : volumes ≠ []) :
    (series volumes s).flatMap Series.assigned =
      s.assigned ++ kept (s.first + s.volumes.length) volumes := by
  induction volumes generalizing s with
  | nil => exact absurd rfl some
  | cons v rest ih =>
    obtain ⟨id, v⟩ := v
    cases rest with
    | nil =>
      by_cases expected : s.first + s.volumes.length = id
      · simp [series, kept, expected, Series.assigned_add]
      · simp [series, kept, expected, Ne.symm expected]
    | cons w rest =>
      by_cases expected : s.first + s.volumes.length = id
      · simp only [series, expected, beq_self_eq_true, if_true, kept]
        rw [ih _ (cons_ne_nil _ _), Series.assigned_add, length_append, length_singleton,
          ← Nat.add_assoc, expected, append_assoc, singleton_append]
      · have other : (s.first + s.volumes.length == id) = false := beq_false_of_ne expected
        simp only [series, other, Bool.false_eq_true, if_false, kept, flatMap_cons]
        rw [ih _ (cons_ne_nil _ _)]
        simp [Series.assigned]

theorem endsAlone_pair (v w : Nat × Int) : EndsAlone [v, w] ↔ w.1 ≠ v.1 + 1 := by
  constructor
  · rintro ⟨init, a, b, same, alone⟩
    cases init with
    | nil =>
      obtain ⟨rfl, rfl⟩ : v = a ∧ w = b := by simpa using same
      exact alone
    | cons _ init =>
      have := congrArg length same
      simp at this
  · exact fun alone => ⟨[], v, w, rfl, alone⟩

theorem endsAlone_cons (u v w : Nat × Int) (rest : List (Nat × Int)) :
    EndsAlone (u :: v :: w :: rest) ↔ EndsAlone (v :: w :: rest) := by
  constructor
  · rintro ⟨init, a, b, same, alone⟩
    cases init with
    | nil => simp at same
    | cons _ init => exact ⟨init, a, b, (cons.inj same).2, alone⟩
  · rintro ⟨init, a, b, same, alone⟩
    exact ⟨u :: init, a, b, congrArg (u :: ·) same, alone⟩

/-- All is kept but a last volume that stands alone. -/
theorem kept_cases (v : Nat × Int) (rest : List (Nat × Int)) :
    kept v.1 (v :: rest) = v :: rest ∧ ¬ EndsAlone (v :: rest) ∨
      kept v.1 (v :: rest) = (v :: rest).dropLast ∧ EndsAlone (v :: rest) := by
  induction rest generalizing v with
  | nil =>
    refine .inl ⟨by simp [kept], ?_⟩
    rintro ⟨init, a, b, same, -⟩
    have := congrArg length same
    simp at this
  | cons w rest ih =>
    cases rest with
    | nil =>
      rw [endsAlone_pair]
      by_cases follows : w.1 = v.1 + 1
      · exact .inl ⟨by simp [kept, follows], by simp [follows]⟩
      · exact .inr ⟨by simp [kept, follows], follows⟩
    | cons x rest =>
      -- Only the last number is compared with the one that is expected.
      have same : kept v.1 (v :: w :: x :: rest) = v :: kept w.1 (w :: x :: rest) := rfl
      rw [endsAlone_cons, same, dropLast_cons_cons]
      exact (ih w).imp (.imp_left fun h => by rw [h]) (.imp_left fun h => by rw [h])

theorem volumes_assigned (volumes : List (Nat × Int)) :
    (volumeActions volumes).flatMap Action.volumes = volumes ∧ ¬ EndsAlone volumes ∨
      (volumeActions volumes).flatMap Action.volumes = volumes.dropLast ∧ EndsAlone volumes := by
  cases volumes with
  | nil =>
    refine .inl ⟨rfl, ?_⟩
    rintro ⟨init, a, b, same, -⟩
    simp at same
  | cons v rest =>
    have all : (volumeActions (v :: rest)).flatMap Action.volumes = kept v.1 (v :: rest) := by
      obtain ⟨id, w⟩ := v
      simp only [volumeActions, flatMap_map, Series.volumes_action]
      rw [series_assigned _ (cons_ne_nil _ _)]
      rfl
    rw [all]
    exact kept_cases v rest

/-- Each volume is assigned to its own number once, and nothing to any other number. -/
def EachOnce (volumes assigned : List (Nat × Int)) : Prop :=
  (∀ v ∈ volumes, valuesAt v.1 assigned = [v.2]) ∧
    ∀ id, (∀ v ∈ volumes, v.1 ≠ id) → valuesAt id assigned = []

theorem valuesAt_eq_nil {id : Nat} (other : ∀ v ∈ volumes, v.1 ≠ id) :
    valuesAt id volumes = [] := by
  rw [valuesAt, map_eq_nil_iff, filter_eq_nil_iff]
  intro v inside
  simpa using other v inside

theorem eachOnce_self (ordered : volumes.Pairwise fun a b => a.1 < b.1) :
    EachOnce volumes volumes := by
  refine ⟨?_, fun id => valuesAt_eq_nil⟩
  induction volumes with
  | nil => simp
  | cons v rest ih =>
    obtain ⟨first, ordered⟩ := pairwise_cons.1 ordered
    rw [forall_mem_cons]
    constructor
    · have others : valuesAt v.1 rest = [] :=
        valuesAt_eq_nil fun w inside => Nat.ne_of_gt (first w inside)
      simpa [valuesAt] using others
    · intro w inside
      have other : (v.1 == w.1) = false := beq_false_of_ne (Nat.ne_of_lt (first w inside))
      have found := ih ordered w inside
      simpa [valuesAt, other] using found

/-- Volumes with rising numbers are assigned to their own numbers, once each, exactly if the last
number follows the one before it. Otherwise that is so for all volumes but the last, which is not
assigned at all. -/
theorem volumes_set_once_iff (ordered : volumes.Pairwise fun a b => a.1 < b.1) :
    (EachOnce volumes ((volumeActions volumes).flatMap Action.volumes) ↔ ¬ EndsAlone volumes) ∧
      (EndsAlone volumes →
        EachOnce volumes.dropLast ((volumeActions volumes).flatMap Action.volumes)) := by
  rcases volumes_assigned volumes with ⟨same, together⟩ | ⟨same, alone⟩
  · rw [same]
    exact ⟨iff_of_true (eachOnce_self ordered) together, fun alone => absurd alone together⟩
  · rw [same]
    have others := eachOnce_self (ordered.sublist (dropLast_sublist volumes))
    refine ⟨iff_of_false (fun once => ?_) (not_not_intro alone), fun _ => others⟩
    obtain ⟨init, a, b, rfl, -⟩ := alone
    have split : init ++ [a, b] = (init ++ [a]) ++ [b] := by simp
    rw [split] at once ordered
    rw [dropLast_concat] at once
    have lost : valuesAt b.1 (init ++ [a]) = [] := valuesAt_eq_nil fun v inside =>
      Nat.ne_of_lt ((pairwise_append.1 ordered).2.2 v inside b (by simp))
    have found := once.1 b (by simp)
    rw [lost] at found
    cases found

/-- Of two numbers that do not follow each other, only the first one gets its volume. -/
theorem lone_last_volume_is_lost :
    let assigned := (volumeActions [(73, 64), (75, 32)]).flatMap Action.volumes
    ¬ EachOnce [(73, 64), (75, 32)] assigned ∧ EachOnce [(73, 64)] assigned := by
  have alone : EndsAlone [(73, 64), (75, 32)] := (endsAlone_pair _ _).2 (by decide)
  have ordered : [(73, 64), (75, 32)].Pairwise fun a b : Nat × Int => a.1 < b.1 := by decide
  obtain ⟨once, others⟩ := volumes_set_once_iff ordered
  exact ⟨fun all => once.1 all alone, others alone⟩

end Sounds

end NewGrf
