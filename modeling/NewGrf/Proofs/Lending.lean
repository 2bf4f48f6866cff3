import NewGrf.Action.Assign

open List

namespace NewGrf

namespace FreeNumbers

variable {f f' f'' : FreeNumbers} {lost more : List Int} {n : Int} {pos : Option Position}

/-- From one state of a list to a later one some numbers were taken for good, and others that the
next restoring gives back. -/
def Lends (lost : List Int) (f f' : FreeNumbers) : Prop :=
  ∃ popped, popped ++ f'.free <+ f.free ∧ f.free ~ lost ++ (popped ++ f'.free) ∧ ∀ given rest,
    f.given = given :: rest → f'.given = (popped.reverse ++ given) :: rest

theorem Lends.refl (f : FreeNumbers) : f.Lends [] f := ⟨[], .refl _, .refl _, fun _ _ => id⟩

theorem Lends.trans (first : f.Lends lost f') (second : f'.Lends more f'') :
    f.Lends (lost ++ more) f'' := by
  obtain ⟨popped, kept, free, given⟩ := first
  obtain ⟨later, kept', free', given'⟩ := second
  refine ⟨popped ++ later, ?_, ?_, fun g rest starts => ?_⟩
  · rw [append_assoc]
    exact (kept'.append_left popped).trans kept
  · have swap : popped ++ (more ++ (later ++ f''.free)) ~
        more ++ (popped ++ (later ++ f''.free)) := by
      simpa only [append_assoc] using perm_append_comm.append_right (later ++ f''.free)
    rw [append_assoc, append_assoc]
    exact (free.trans ((free'.append_left popped).append_left lost)).trans (swap.append_left lost)
  · rw [given' _ _ (given _ _ starts), reverse_append, append_assoc]

theorem lends_of_pop (h : f.pop pos = .ok (n, f')) : f.Lends [] f' := by
  unfold pop at h
  split at h
  · cases h
  · next n rest free =>
    cases h
    refine ⟨[n], ?_, ?_, fun given rest starts => ?_⟩
    · rw [free]
      exact .refl _
    · rw [free]
      exact .refl _
    · simp [markUsed, starts]

theorem lends_of_popUnused (h : f.popUnused pos = .ok (n, f')) : f.Lends [n] f' := by
  unfold popUnused at h
  split at h
  · cases h
  · next n found =>
    cases h
    have inside : n ∈ f.free.reverse := mem_reverse.2 (mem_of_find?_eq_some found)
    refine ⟨[], ?_, ?_, fun given rest starts => starts⟩
    · simpa [markUsed] using (erase_sublist (a := n) (l := f.free.reverse)).reverse
    · refine ((reverse_perm _).symm.trans (perm_cons_erase inside)).trans (.cons n ?_)
      exact (reverse_perm _).symm

/-- What was lent since a save is there again after the restore. -/
theorem Lends.restored (lends : f.save.Lends lost f') :
    f'.restore.given = f.given ∧ f'.restore.free <+ f.free ∧ f.free ~ lost ++ f'.restore.free := by
  obtain ⟨popped, kept, free, given⟩ := lends
  have top : f'.given = popped.reverse :: f.given := by simpa using given [] f.given rfl
  simp only [restore, top, reverse_reverse]
  exact ⟨trivial, kept, free⟩

theorem used_markUsed (f : FreeNumbers) (n : Int) (pos : Option Position) :
    n ∈ (f.markUsed n pos).used ∧ f.used ⊆ (f.markUsed n pos).used := by
  unfold markUsed
  split
  next known => exact ⟨contains_iff_mem.1 known, List.Subset.refl _⟩
  next => exact ⟨mem_cons_self, subset_cons_self n f.used⟩

theorem of_pop (h : f.pop pos = .ok (n, f')) : f.free = n :: f'.free ∧
    (∀ given rest, f.given = given :: rest → f'.given = (n :: given) :: rest) ∧
    n ∈ f'.used ∧ f.used ⊆ f'.used := by
  unfold pop at h
  split at h
  · cases h
  next free =>
    cases h
    exact ⟨free, fun given rest starts => by simp [markUsed, starts], used_markUsed _ _ _⟩

theorem of_popGlobal (h : f.popGlobal pos = .ok (n, f')) :
    f.free = n :: f'.free ∧ f'.given = f.given ∧ f'.used = f.used := by
  unfold popGlobal at h
  split at h
  · cases h
  next free =>
    cases h
    exact ⟨free, rfl, rfl⟩

theorem of_popUnused (h : f.popUnused pos = .ok (n, f')) : f.free ~ n :: f'.free ∧
    f'.given = f.given ∧ n ∉ f.used ∧ f.used ⊆ f'.used := by
  unfold popUnused at h
  split at h
  · cases h
  next found =>
    cases h
    have inside : n ∈ f.free.reverse := mem_reverse.2 (mem_of_find?_eq_some found)
    have out : f.free ~ n :: (f.free.reverse.erase n).reverse :=
      ((reverse_perm _).symm.trans (perm_cons_erase inside)).trans (.cons n (reverse_perm _).symm)
    have fresh : n ∉ f.used := by simpa using find?_some found
    exact ⟨out, rfl, fresh, (used_markUsed _ n pos).2⟩

theorem lends_of_popGlobal (h : f.popGlobal pos = .ok (n, f')) : f.Lends [n] f' := by
  obtain ⟨free, given, -⟩ := of_popGlobal h
  refine ⟨[], ?_, ?_, fun _ _ starts => given.trans starts⟩
  · rw [free]
    exact sublist_cons_self n f'.free
  · rw [free]
    exact .refl _

/-- Behind a save and its restore stand the numbers that stood before, in the same order and less
those that were taken for good. -/
theorem Lends.restored_eq (lends : f.save.Lends lost f') (nodup : f.free.Nodup) :
    f'.restore.free = f.free.filter (· ∉ lost) := by
  obtain ⟨-, kept, free⟩ := lends.restored
  have apart := (nodup_append.1 (free.nodup_iff.1 nodup)).2.2
  have others : f'.restore.free = f'.restore.free.filter (· ∉ lost) :=
    (filter_eq_self.2 fun n member => by
      simpa using fun gone => apart n gone n member rfl).symm
  have none : lost.filter (· ∉ lost) = [] :=
    filter_eq_nil_iff.2 fun n member => by simpa using member
  refine others.trans ((kept.filter _).eq_of_length ?_)
  have length := (free.filter (· ∉ lost)).length_eq
  rwa [filter_append, none, nil_append, eq_comm] at length

/-- The numbers that are free or to be taken back. -/
def held (f : FreeNumbers) : List Int := f.free ++ f.given.flatten

theorem held_of_pop (isOpen : f.given ≠ []) (h : f.pop pos = .ok (n, f')) : f.held ~ f'.held := by
  obtain ⟨given, rest, top⟩ := exists_cons_of_ne_nil isOpen
  obtain ⟨free, given', -⟩ := of_pop h
  have moved : n :: (f'.free ++ (given ++ rest.flatten)) ~
      f'.free ++ n :: (given ++ rest.flatten) := perm_middle.symm
  simpa [held, free, top, given' _ _ top] using moved

theorem held_of_popGlobal (h : f.popGlobal pos = .ok (n, f')) : f.held ~ n :: f'.held := by
  obtain ⟨free, given, -⟩ := of_popGlobal h
  simp [held, free, given]

theorem held_of_popUnused (h : f.popUnused pos = .ok (n, f')) : f.held ~ n :: f'.held := by
  obtain ⟨free, given, -⟩ := of_popUnused h
  simpa [held, given] using free.append_right f.given.flatten

theorem held_restore (f : FreeNumbers) : f.held ~ f.restore.held := by
  cases top : f.given with
  | nil => simp [held, restore, top]
  | cons given rest =>
    have back : f.free ++ given ~ given.reverse ++ f.free :=
      perm_append_comm.trans ((reverse_perm given).symm.append_right _)
    simpa [held, restore, top] using back.append_right rest.flatten

/-- A call, with the place that its fault would name. -/
inductive Call where
  | save
  | restore
  | pop (pos : Option Position)
  | popGlobal (pos : Option Position)
  | popUnused (pos : Option Position)

/-- The number that was taken, if there was one, and the list behind it. -/
def taken (f : FreeNumbers) : Except Fault (Int × FreeNumbers) → Option Int × FreeNumbers
  | .ok (n, f') => (some n, f')
  | .error _ => (none, f)

theorem taken_eq (f : FreeNumbers) (r : Except Fault (Int × FreeNumbers)) :
    taken f r = (none, f) ∨ ∃ n f', r = .ok (n, f') ∧ taken f r = (some n, f') := by
  cases r with
  | error => exact .inl rfl
  | ok r => exact .inr ⟨r.1, r.2, rfl, rfl⟩

theorem of_taken {r} (h : (taken f r).1 = some n) : r = .ok (n, (taken f r).2) := by
  obtain left | ⟨m, f', rfl, left⟩ := taken_eq f r
  · rw [left] at h
    cases h
  · cases h
    rfl

/-- What holds if nothing is taken, and if a number is, holds behind a call. -/
theorem taken_of {r} {P : List Int → FreeNumbers → Prop} (none : P [] f)
    (one : ∀ {n f'}, r = .ok (n, f') → P [n] f') : P (taken f r).1.toList (taken f r).2 := by
  obtain left | ⟨n, f', ok, left⟩ := taken_eq f r
  · rw [left]
    exact none
  · rw [left]
    exact one ok

namespace Call

/-- What a call returns and leaves. One that finds no number leaves the list as it was. -/
def run (f : FreeNumbers) : Call → Option Int × FreeNumbers
  | save => (none, f.save)
  | restore => (none, f.restore)
  | pop pos => taken f (f.pop pos)
  | popGlobal pos => taken f (f.popGlobal pos)
  | popUnused pos => taken f (f.popUnused pos)

/-- Numbers are lent, and taken back, only behind a save. -/
def allowed (f : FreeNumbers) : Call → Bool
  | restore | pop _ => !f.given.isEmpty
  | _ => true

/-- The number that a call takes for good. -/
def lasting (f : FreeNumbers) (c : Call) : List Int :=
  match c with
  | popGlobal _ | popUnused _ => (c.run f).1.toList
  | _ => []

end Call

/-- The list behind some calls. -/
def after (f : FreeNumbers) (calls : List Call) : FreeNumbers :=
  calls.foldl (fun f c => (c.run f).2) f

def allowed (f : FreeNumbers) : List Call → Bool
  | [] => true
  | c :: calls => c.allowed f && (c.run f).2.allowed calls

/-- The numbers that some calls take for good. -/
def lasting (f : FreeNumbers) : List Call → List Int
  | [] => []
  | c :: calls => c.lasting f ++ (c.run f).2.lasting calls

/-- Calls in which each save has its restore and each restore its save. -/
inductive Balanced : List Call → Prop where
  | nil : Balanced []
  | take {c calls} : c ≠ .save → c ≠ .restore → Balanced calls → Balanced (c :: calls)
  | nest {inner calls} : Balanced inner → Balanced calls →
      Balanced (.save :: (inner ++ .restore :: calls))

section Calls

variable {c : Call} {before inner calls : List Call} {pos' : Option Position}

@[simp] theorem after_cons : f.after (c :: calls) = (c.run f).2.after calls := rfl

theorem after_append : f.after (before ++ calls) = (f.after before).after calls := foldl_append

theorem lasting_append :
    f.lasting (before ++ calls) = f.lasting before ++ (f.after before).lasting calls := by
  induction before generalizing f with
  | nil => rfl
  | cons c before ih => rw [cons_append, lasting, lasting, ih, append_assoc]; rfl

theorem allowed_append : f.allowed (before ++ calls) =
    (f.allowed before && (f.after before).allowed calls) := by
  induction before generalizing f with
  | nil => rfl
  | cons c before ih => rw [cons_append, allowed, allowed, ih, Bool.and_assoc]; rfl

theorem after_nested : f.after (.save :: (inner ++ .restore :: calls)) =
    (f.save.after inner).restore.after calls := by
  rw [after_cons, after_append]
  rfl

theorem lasting_nested : f.lasting (.save :: (inner ++ .restore :: calls)) =
    f.save.lasting inner ++ (f.save.after inner).restore.lasting calls := by
  rw [lasting, lasting_append]
  rfl

/-- One call moves a number between the lists, or takes it from them for good. -/
theorem Call.held_perm (c : Call) (ok : c.allowed f = true) :
    f.held ~ c.lasting f ++ (c.run f).2.held := by
  cases c with
  | save => exact .refl _
  | restore => exact held_restore f
  | pop pos =>
    have isOpen : f.given ≠ [] := by simpa [allowed] using ok
    exact taken_of (P := fun _ g => f.held ~ g.held) (.refl _) (held_of_pop isOpen)
  | popGlobal pos =>
    exact taken_of (P := fun lost g => f.held ~ lost ++ g.held) (.refl _) held_of_popGlobal
  | popUnused pos =>
    exact taken_of (P := fun lost g => f.held ~ lost ++ g.held) (.refl _) held_of_popUnused

/-- No number is lost or doubled by any calls. -/
theorem held_after_perm (ok : f.allowed calls = true) :
    f.held ~ f.lasting calls ++ (f.after calls).held := by
  induction calls generalizing f with
  | nil => exact .refl _
  | cons c calls ih =>
    rw [allowed, Bool.and_eq_true] at ok
    rw [lasting, append_assoc]
    exact (c.held_perm ok.1).trans ((ih ok.2).append_left _)

theorem Call.lends (taking : c ≠ .save) (taking' : c ≠ .restore) :
    f.Lends (c.lasting f) (c.run f).2 := by
  cases c with
  | save => exact absurd rfl taking
  | restore => exact absurd rfl taking'
  | pop pos => exact taken_of (P := fun _ g => f.Lends [] g) (.refl f) lends_of_pop
  | popGlobal pos => exact taken_of (P := fun lost g => f.Lends lost g) (.refl f) lends_of_popGlobal
  | popUnused pos => exact taken_of (P := fun lost g => f.Lends lost g) (.refl f) lends_of_popUnused

theorem Balanced.lends (balanced : Balanced calls) : f.Lends (f.lasting calls) (f.after calls) := by
  induction balanced generalizing f with
  | nil => exact .refl f
  | take taking taking' _ ih => exact (Call.lends taking taking').trans ih
  | @nest inner calls _ _ inside outside =>
    -- what the inner calls lend is back before the outer ones go on
    obtain ⟨given, kept, free⟩ := (inside (f := f.save)).restored
    have inner : f.Lends (f.save.lasting inner) (f.save.after inner).restore :=
      ⟨[], kept, free, fun _ _ starts => given.trans starts⟩
    rw [lasting_nested, after_nested]
    exact inner.trans outside

theorem Call.mem_free (returned : (c.run f).1 = some n) : n ∈ f.free := by
  cases c with
  | save | restore => cases returned
  | pop pos => exact (of_pop (of_taken returned)).1 ▸ mem_cons_self
  | popGlobal pos => exact (of_popGlobal (of_taken returned)).1 ▸ mem_cons_self
  | popUnused pos => exact (of_popUnused (of_taken returned)).1.mem_iff.2 mem_cons_self

/-- A number that was lent once is known for good. -/
theorem Call.used_subset (c : Call) : f.used ⊆ (c.run f).2.used := by
  have taking {r} (kept : ∀ {n f'}, r = .ok (n, f') → f.used ⊆ f'.used) :
      f.used ⊆ (taken f r).2.used :=
    taken_of (P := fun _ g => f.used ⊆ g.used) (List.Subset.refl _) kept
  cases c with
  | save => exact List.Subset.refl _
  | restore => cases given : f.given <;> simp [run, FreeNumbers.restore, given]
  | pop pos => exact taking fun popped => (of_pop popped).2.2.2
  | popGlobal pos => exact taking fun popped => (of_popGlobal popped).2.2 ▸ List.Subset.refl _
  | popUnused pos => exact taking fun popped => (of_popUnused popped).2.2.2

theorem used_after (f : FreeNumbers) (calls : List Call) : f.used ⊆ (f.after calls).used := by
  induction calls generalizing f with
  | nil => exact List.Subset.refl _
  | cons c calls ih => exact List.Subset.trans c.used_subset (ih _)

/-- Each number has one holder at a time: it is free, or lent for a while, or taken for good. -/
structure HeldOnce (f : FreeNumbers) (numbers : List Int) (calls : List Call) : Prop where
  /-- No number is held twice, and none comes or goes. -/
  nodup : ((f.after calls).free ++ (f.after calls).given.flatten ++ f.lasting calls).Nodup
  whole : (f.after calls).free ++ (f.after calls).given.flatten ++ f.lasting calls ~ numbers
  /-- A restore leaves the list as it was at its save, less what was taken for good meanwhile. -/
  restored : ∀ before inner rest, calls = before ++ .save :: (inner ++ .restore :: rest) →
    Balanced inner → (f.after (before ++ .save :: (inner ++ [.restore]))).free =
      (f.after before).free.filter
        (· ∉ (f.after before).lasting (.save :: (inner ++ [.restore])))
  /-- A number taken as unused was not lent before, and nobody gets it again. -/
  unused : ∀ before pos rest n, calls = before ++ .popUnused pos :: rest →
    (Call.run (f.after before) (.popUnused pos)).1 = some n →
      (∀ first pos' last, before = first ++ .pop pos' :: last →
        (Call.run (f.after first) (.pop pos')).1 ≠ some n) ∧
      (∀ first c last, rest = first ++ c :: last →
        (c.run (f.after (before ++ .popUnused pos :: first))).1 ≠ some n)

theorem whole_perm {numbers : List Int} (all : f.held ~ numbers) (ok : f.allowed calls = true) :
    (f.after calls).free ++ (f.after calls).given.flatten ++ f.lasting calls ~ numbers :=
  (perm_append_comm.trans (held_after_perm ok).symm).trans all

theorem allowed_left (ok : f.allowed (before ++ calls) = true) : f.allowed before = true := by
  rw [allowed_append, Bool.and_eq_true] at ok
  exact ok.1

theorem restored_free {numbers : List Int} (nodup : numbers.Nodup) (all : f.held ~ numbers)
    (ok : f.allowed before = true) (balanced : Balanced inner) :
    (f.after (before ++ .save :: (inner ++ [.restore]))).free = (f.after before).free.filter
      (· ∉ (f.after before).lasting (.save :: (inner ++ [.restore]))) := by
  have apart := (whole_perm all ok).nodup_iff.2 nodup
  rw [append_assoc] at apart
  rw [after_append, after_nested, lasting_nested, lasting, append_nil]
  exact balanced.lends.restored_eq (nodup_append.1 apart).1

theorem unused_before {last : List Call} (lent : (Call.run f (.pop pos)).1 = some n) :
    (Call.run (f.after (.pop pos :: last)) (.popUnused pos')).1 ≠ some n := by
  intro returned
  have known : n ∈ (Call.run f (.pop pos)).2.used := (of_pop (of_taken lent)).2.2.1
  exact (of_popUnused (of_taken returned)).2.2.1 (used_after _ last known)

theorem unused_after {numbers : List Int} {first : List Call} (nodup : numbers.Nodup)
    (all : f.held ~ numbers) (ok : f.allowed (before ++ .popUnused pos :: first) = true)
    (returned : (Call.run (f.after before) (.popUnused pos)).1 = some n) :
    (c.run (f.after (before ++ .popUnused pos :: first))).1 ≠ some n := by
  intro again
  have apart := (whole_perm all ok).nodup_iff.2 nodup
  rw [append_assoc] at apart
  have taken : n ∈ f.lasting (before ++ .popUnused pos :: first) := by
    rw [lasting_append, lasting, Call.lasting, returned]
    simp
  exact (nodup_append.1 apart).2.2 n (Call.mem_free again) n (mem_append_right _ taken) rfl

/-- Whatever calls are made on a list of different numbers, as far as they are allowed, each number
has one holder at a time. -/
theorem numbers_held_once {numbers : List Int} (exhausted exhaustedUnused : String)
    (nodup : numbers.Nodup) (ok : (ofList numbers exhausted exhaustedUnused).allowed calls = true) :
    HeldOnce (ofList numbers exhausted exhaustedUnused) numbers calls := by
  have all : (ofList numbers exhausted exhaustedUnused).held ~ numbers := by
    simp [held, ofList]
  refine ⟨(whole_perm all ok).nodup_iff.2 nodup, whole_perm all ok, ?_, ?_⟩
  · rintro before inner rest rfl balanced
    exact restored_free nodup all (allowed_left ok) balanced
  · rintro before pos rest n rfl returned
    refine ⟨?_, ?_⟩
    · rintro first pos' last rfl lent
      rw [after_append] at returned
      exact unused_before lent returned
    · rintro first c last rfl
      rw [← cons_append, ← append_assoc] at ok
      exact unused_after nodup all (allowed_left ok) returned

/-- Nested saves, with numbers taken for good between them: 5 is lent twice, 3 and 2 never again. -/
theorem nested_saves_held_once :
    let calls : List Call := [.save, .pop none, .save, .pop none, .popGlobal none, .restore,
      .popUnused none, .restore, .save, .pop none, .restore]
    let f := ofList [1, 2, 3, 4, 5] "none left" "none left unused"
    [1, 2, 3, 4, 5].Nodup ∧ f.allowed calls = true ∧ f.lasting calls = [3, 2] ∧
      (f.after calls).free = [5, 4, 1] ∧ HeldOnce f [1, 2, 3, 4, 5] calls :=
  ⟨by decide, by decide, by decide, by decide, numbers_held_once _ _ (by decide) (by decide)⟩

end Calls

end FreeNumbers

end NewGrf
