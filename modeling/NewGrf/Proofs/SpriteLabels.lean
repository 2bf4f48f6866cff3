import NewGrf.Proofs.KnownValues
import NewGrf.Proofs.Stock
import NewGrf.Script.Prepare

namespace NewGrf

theorem Dict.get?_cons {α : Type} (d : Dict α) (key name : String) (value : α) :
    get? ((key, value) :: d) name = if name = key then some value else d.get? name := by
  by_cases same : name = key <;> simp [get?, List.lookup_cons, same, beq_false_of_ne]

theorem Dict.length_set_of_new {α : Type} {d : Dict α} {key : String} (new : d.get? key = none)
    (value : α) : (d.set key value).length = d.length + 1 := by
  induction d with
  | nil => rfl
  | cons entry rest ih =>
    obtain ⟨k, v⟩ := entry
    rw [get?_cons] at new
    split at new
    · cases new
    · next other => simp [set, Ne.symm other, ih new]

theorem Build.all_of_forIn_eq_ok {α : Type} {P : α → Prop} {xs : List α} {s t : Session}
    {body : α → PUnit → Build (ForInStep PUnit)} {u : PUnit}
    (run : forIn xs PUnit.unit body s = .ok u t)
    (each : ∀ x ∈ xs, ∀ r t, body x ⟨⟩ s = .ok r t → s = t ∧ r = .yield ⟨⟩ ∧ P x) :
    s = t ∧ ∀ x ∈ xs, P x := by
  induction xs with
  | nil => exact ⟨(pure_eq_ok.1 run).2, fun x inside => absurd inside List.not_mem_nil⟩
  | cons x xs ih =>
    rw [List.forall_mem_cons] at each
    simp only [List.forIn_cons, bind_eq_ok] at run
    obtain ⟨r, s', first, rest⟩ := run
    obtain ⟨rfl, rfl, holds⟩ := each.1 r s' first
    obtain ⟨same, all⟩ := ih rest each.2
    exact ⟨same, List.forall_mem_cons.2 ⟨holds, all⟩⟩

namespace Sprite

/-- Whether a list of sprites uses a template. -/
def Uses (entries : List SpriteEntry) (name : String) : Prop :=
  ∃ label ident args pos, .template label ident args pos ∈ entries ∧ ident.text = name

/-- A template is ranked above those that it uses, and these are known. -/
structure Ranked (templates : Dict Template) (rank : String → Nat) : Prop where
  below : ∀ {name t}, templates.get? name = some t → rank name < templates.length
  uses : ∀ {name t used}, templates.get? name = some t → Uses t.sprites used →
    (templates.get? used).isSome ∧ rank used < rank name

/-- Templates as declarations leave them. -/
structure Declared (templates : Dict Template) : Prop where
  ranked : ∃ rank, Ranked templates rank
  full : ∀ {name t}, templates.get? name = some t → t.sprites ≠ []

theorem Declared.nil : Declared [] where
  ranked := ⟨fun _ => 0, ⟨by simp [Dict.get?], by simp [Dict.get?]⟩⟩
  full found := by cases found

variable {templates : Dict Template} {rank : String → Nat}

/-- A new template that uses known ones is ranked above all of them. -/
theorem Ranked.set {name : String} {t : Template} (ranked : Ranked templates rank)
    (new : templates.get? name = none)
    (known : ∀ used, Uses t.sprites used → (templates.get? used).isSome) :
    Ranked (templates.set name t) fun n => if n = name then templates.length else rank n where
  below {n u} found := by
    rw [Dict.length_set_of_new new]
    rw [Dict.get?_set] at found
    by_cases same : n = name
    · simp [same]
    · rw [if_neg same] at found ⊢
      exact Nat.lt_succ_of_lt (ranked.below found)
  uses {n u used} found uses := by
    -- what is used was known before, so it is not the new template
    have old : (templates.get? used).isSome ∧ (n = name ∨ rank used < rank n) := by
      rw [Dict.get?_set] at found
      by_cases same : n = name
      · rw [if_pos same, Option.some.injEq] at found
        exact ⟨known used (found ▸ uses), .inl same⟩
      · rw [if_neg same] at found
        exact ⟨(ranked.uses found uses).1, .inr (ranked.uses found uses).2⟩
    obtain ⟨here, lower⟩ := old
    have other : used ≠ name := by
      rintro rfl
      simp [new] at here
    obtain ⟨v, here⟩ := Option.isSome_iff_exists.1 here
    refine ⟨by simp [Dict.get?_set, other, here], ?_⟩
    rw [if_neg other]
    split
    · exact ranked.below here
    · next apart => exact lower.resolve_left apart

theorem Declared.set {name : String} {t : Template} (declared : Declared templates)
    (new : templates.get? name = none) (full : t.sprites ≠ [])
    (known : ∀ used, Uses t.sprites used → (templates.get? used).isSome) :
    Declared (templates.set name t) where
  ranked := by
    obtain ⟨rank, ranked⟩ := declared.ranked
    exact ⟨_, ranked.set new known⟩
  full {n u} found := by
    rw [Dict.get?_set] at found
    split at found
    · cases found
      exact full
    · exact declared.full found

/-- A sprite and the labels that stand at it. -/
abbrev Marked := Sprite × List String

def names (label : Option Ident) : List String := (label.map (·.text)).toList

/-- Puts a label at the first sprite. -/
def mark (label : Option Ident) : List Marked → List Marked
  | [] => []
  | (x, others) :: rest => (x, names label ++ others) :: rest

/-- The sprites of a list as `expand` gives them, with the labels that stand at each. What happens
where the limit of the depth is met is left open. -/
def expandMarked (limit : Setting → List SpriteEntry → Build (List Marked)) :
    Nat → Setting → List SpriteEntry → Build (List Marked)
  | 0, s, entries => limit s entries
  | fuel + 1, s, entries => do
    let lists ← entries.mapM fun entry => match entry with
      | .real label params pos => do pure (mark label [(← readImage s params pos, [])])
      | .recolour label mapping _ => do
        pure (mark label [(.recolour (← mapping.mapM (readRecolour s)), [])])
      | .template label name args pos => do
        let t ← template name
        let args ← readArguments s t args pos
        let inner ← expandMarked limit fuel { s with args, places := s.places ++ [pos] } t.sprites
        pure (mark label inner)
    pure lists.flatten

/-- Puts a label in front of the first labels. -/
def markFirst (label : Option Ident) : List (List String) → List (List String)
  | [] => []
  | others :: rest => (names label ++ others) :: rest

/-- The labels that stand at each sprite of an entry, given those of the lists it leads to. -/
def entryMarks (templates : Dict Template) (inner : List SpriteEntry → List (List String)) :
    SpriteEntry → List (List String)
  | .real label .. | .recolour label .. => [names label]
  | .template label name _ _ =>
    markFirst label (((templates.get? name.text).map fun t => inner t.sprites).getD [])

/-- The labels that stand at each sprite of a list. -/
def marks (templates : Dict Template) : Nat → List SpriteEntry → List (List String)
  | 0, _ => []
  | fuel + 1, entries => entries.flatMap (entryMarks templates (marks templates fuel))

theorem map_fst_mark (label : Option Ident) (xs : List Marked) :
    (mark label xs).map Prod.fst = xs.map Prod.fst := by
  cases xs <;> rfl

theorem map_snd_mark (label : Option Ident) (xs : List Marked) :
    (mark label xs).map Prod.snd = markFirst label (xs.map Prod.snd) := by
  cases xs <;> rfl

/-- A build that does what another one does and keeps the templates. Its value has a property, and
stands for the value of the other one. -/
def Follows {α β : Type} (templates : Dict Template) (φ : β → α) (P : β → Prop) (m : Build α)
    (m' : Build β) : Prop :=
  ∀ σ : Session, σ.templates = templates →
    m σ = (φ <$> m') σ ∧ ∀ x ω, m' σ = .ok x ω → P x ∧ ω.templates = templates

namespace Follows

variable {α β γ δ : Type} {φ : β → α} {ψ : δ → γ} {P : β → Prop} {Q : δ → Prop} {m : Build α}
  {m' : Build β}

theorem pure {x : β} (holds : P x) : Follows templates φ P (pure (φ x)) (pure x) := by
  intro σ known
  refine ⟨rfl, fun y ω run => ?_⟩
  obtain ⟨rfl, rfl⟩ := Build.pure_eq_ok.1 run
  exact ⟨holds, known⟩

theorem of_stocked [stocked : Stocked m] {P : α → Prop}
    (gives : ∀ σ x ω, σ.templates = templates → m σ = .ok x ω → P x) :
    Follows templates id P m m := by
  intro σ known
  refine ⟨by rw [id_map], fun x ω run => ⟨gives σ x ω known run, ?_⟩⟩
  exact (stocked.of_ok run).1.templates.trans known

theorem same [Stocked m] : Follows templates id (fun _ => True) m m :=
  .of_stocked fun _ _ _ _ _ => trivial

theorem bind {f : α → Build γ} {f' : β → Build δ} (first : Follows templates φ P m m')
    (next : ∀ x, P x → Follows templates ψ Q (f (φ x)) (f' x)) :
    Follows templates ψ Q (m >>= f) (m' >>= f') := by
  intro σ known
  obtain ⟨agrees, gives⟩ := first σ known
  change EStateM.bind m f σ = EStateM.map ψ (EStateM.bind m' f') σ ∧
    ∀ x ω, EStateM.bind m' f' σ = .ok x ω → Q x ∧ ω.templates = templates
  change m σ = EStateM.map φ m' σ at agrees
  simp only [EStateM.bind, EStateM.map] at agrees ⊢
  cases ran : m' σ with
  | error e τ =>
    rw [ran] at agrees
    simp [agrees]
  | ok x τ =>
    rw [ran] at agrees
    obtain ⟨holds, kept⟩ := gives x τ ran
    simp only [agrees]
    exact next x holds τ kept

theorem mapM {xs : List γ} {f : γ → Build α} {f' : γ → Build β} {P : γ → β → Prop}
    (each : ∀ x ∈ xs, Follows templates φ (P x) (f x) (f' x)) :
    Follows templates (List.map φ) (List.Forall₂ P xs) (xs.mapM f) (xs.mapM f') := by
  induction xs with
  | nil =>
    rw [List.mapM_nil, List.mapM_nil]
    exact .pure List.Forall₂.nil
  | cons x xs ih =>
    rw [List.forall_mem_cons] at each
    rw [List.mapM_cons, List.mapM_cons]
    exact each.1.bind fun y first => (ih each.2).bind fun ys rest =>
      .pure (List.Forall₂.cons first rest)

end Follows

/-- Lists one after another have the marks of each. -/
theorem map_snd_flatten {ms : SpriteEntry → List (List String)} {entries : List SpriteEntry}
    {lists : List (List Marked)}
    (each : List.Forall₂ (fun entry xs => xs.map Prod.snd = ms entry) entries lists) :
    lists.flatten.map Prod.snd = entries.flatMap ms := by
  induction each with
  | nil => rfl
  | cons first _ ih => rw [List.flatten_cons, List.map_append, first, ih, List.flatMap_cons]

/-- Where the templates that a list uses are ranked below its depth, the limit is not met: the list
is filled in with its labels as it is without them. -/
theorem expandMarked_follows (ranked : Ranked templates rank)
    (limit : Setting → List SpriteEntry → Build (List Marked)) {depth fuel : Nat}
    {entries : List SpriteEntry}
    (lower : ∀ name t, Uses entries name → templates.get? name = some t → rank name < depth)
    (enough : depth < fuel) (s : Setting) :
    Follows templates (List.map Prod.fst) (fun xs => xs.map Prod.snd = marks templates fuel entries)
      (expand fuel s entries) (expandMarked limit fuel s entries) := by
  induction fuel generalizing depth entries s with
  | zero => omega
  | succ fuel ih =>
    refine (Follows.mapM (φ := List.map Prod.fst) (P := fun entry xs =>
      xs.map Prod.snd = entryMarks templates (marks templates fuel) entry) ?_).bind ?_
    · intro entry inside
      cases entry with
      | real label params pos =>
        refine Follows.same.bind fun x _ => ?_
        exact .pure (x := mark label [(x, [])]) (by simp [mark, entryMarks])
      | recolour label mapping pos =>
        refine Follows.same.bind fun lines _ => ?_
        exact .pure (x := mark label [(.recolour lines, [])]) (by simp [mark, entryMarks])
      | template label name args pos =>
        have known : Follows templates id (fun t => templates.get? name.text = some t)
            (template name) (template name) :=
          .of_stocked fun _ _ _ same run => same ▸ (template_eq_ok run).1
        refine known.bind fun t found => Follows.same.bind fun args' _ => ?_
        have lowest := lower _ t ⟨label, name, args, pos, inside, rfl⟩ found
        rw [← bind_pure (expand fuel _ _)]
        refine (ih (fun _ _ uses _ => (ranked.uses found uses).2) (by omega) _).bind
          fun xs made => ?_
        rw [← map_fst_mark label]
        exact .pure (by rw [map_snd_mark, made]; simp [entryMarks, found])
    · intro lists all
      rw [← List.map_flatten]
      exact .pure (map_snd_flatten all)

/-- Labels that have the numbers of the places where they stand. -/
def Points (d : Dict Nat) (ms : List (List String)) : Prop :=
  ∀ label i, d.get? label = some i ↔ ∃ names, ms[i]? = some names ∧ label ∈ names

theorem points_nil : Points [] [] := by simp [Points, Dict.get?]

theorem points_own (label : Option Ident) :
    Points (label.map fun l => (l.text, 0)).toList [names label] := by
  intro name i
  cases label with
  | none => cases i <;> simp [Dict.get?, names]
  | some l =>
    rw [Option.map_some, Option.toList_some, Dict.get?_cons]
    by_cases same : name = l.text <;> cases i <;> simp [Dict.get?, names, same]

/-- A label of a whole list stands at its first sprite. -/
theorem Points.set {d : Dict Nat} {ms : List (List String)} {l : Ident} (points : Points d ms)
    (full : ms ≠ []) (new : d.get? l.text = none) :
    Points (d.set l.text 0) (markFirst (some l) ms) := by
  obtain ⟨first, rest, rfl⟩ := List.exists_cons_of_ne_nil full
  intro name i
  have others := points name i
  rw [Dict.get?_set]
  by_cases same : name = l.text
  · -- the label stood nowhere before
    subst same
    rw [new] at others
    cases i with
    | zero => simp [markFirst, names]
    | succ i => simpa [markFirst] using others
  · cases i with
    | zero => simpa [markFirst, names, same] using others
    | succ i => simpa [markFirst, same] using others

theorem Points.lt_length {d : Dict Nat} {ms : List (List String)} (points : Points d ms)
    {label : String} {i : Nat} (found : d.get? label = some i) : i < ms.length := by
  obtain ⟨names, here, -⟩ := (points label i).1 found
  exact (List.getElem?_eq_some_iff.1 here).1

/-- The labels of a list follow those before it. -/
theorem Points.append {d more all : Dict Nat} {ms ms' : List (List String)} (points : Points d ms)
    (points' : Points more ms')
    (apart : ∀ name, (more.get? name).isSome → d.get? name = none)
    (found : ∀ name, all.get? name =
      (d.get? name).or ((more.get? name).map (· + ms.length))) :
    Points all (ms ++ ms') := by
  intro name i
  rw [found]
  by_cases early : i < ms.length
  · rw [List.getElem?_append_left early, ← points name i]
    cases d.get? name with
    | some j => simp
    | none =>
      suffices ∀ j, j + ms.length ≠ i by simpa using fun j _ => this j
      omega
  · have late : ms.length ≤ i := by omega
    rw [List.getElem?_append_right late, ← points' name (i - ms.length)]
    cases known : d.get? name with
    | some j =>
      -- a label that is known stands before, and no further label is the same
      have absent : more.get? name = none := by
        by_contra present
        simp [apart name (Option.isSome_iff_ne_none.2 present)] at known
      have before := points.lt_length known
      simp [absent]
      omega
    | none =>
      cases more.get? name with
      | none => simp
      | some j =>
        simp
        omega

theorem addLabels_eq_ok {pos : Position} {known more all : Labels} {s t : Session}
    (run : addLabels pos known more s = .ok all t) :
    s = t ∧ all.2 = known.2 + more.2 ∧
      (∀ name, (more.1.get? name).isSome → known.1.get? name = none) ∧
      ∀ name, all.1.get? name =
        (known.1.get? name).or ((more.1.get? name).map (· + known.2)) := by
  obtain ⟨known, n⟩ := known
  obtain ⟨more, count⟩ := more
  obtain ⟨d, s', made, done⟩ := Build.bind_eq_ok.1 run
  obtain ⟨rfl, rfl⟩ := Build.pure_eq_ok.1 done
  clear run done
  dsimp only at made ⊢
  suffices s = s' ∧ (∀ name, (more.get? name).isSome → known.get? name = none) ∧
      ∀ name, d.get? name = (known.get? name).or ((more.get? name).map (· + n)) from
    ⟨this.1, rfl, this.2⟩
  induction more generalizing known with
  | nil =>
    obtain ⟨rfl, rfl⟩ := Build.pure_eq_ok.1 made
    simp [Dict.get?]
  | cons entry more ih =>
    obtain ⟨key, offset⟩ := entry
    rw [List.foldlM_cons] at made
    obtain ⟨next, s1, step, made⟩ := Build.bind_eq_ok.1 made
    dsimp only at step
    split at step
    · cases step
    · next new =>
      cases step
      obtain ⟨rfl, apart, found⟩ := ih _ made
      have new : known.get? key = none := by simpa [Dict.contains] using new
      simp only [Dict.get?_set] at apart found
      refine ⟨rfl, fun name has => ?_, fun name => ?_⟩
      · rw [Dict.get?_cons] at has
        by_cases same : name = key
        · rw [same, new]
        · rw [if_neg same] at has
          simpa [same] using apart name has
      · rw [found, Dict.get?_cons]
        by_cases same : name = key <;> simp [same, new]

/-- Labels with the numbers of their places, and the number of all places. -/
structure Numbered (l : Labels) (ms : List (List String)) : Prop where
  points : Points l.1 ms
  count : l.2 = ms.length

variable {σ τ : Session} {pos : Position}

theorem Numbered.add {known more all : Labels} {ms ms' : List (List String)}
    (numbered : Numbered known ms) (numbered' : Numbered more ms')
    (run : addLabels pos known more σ = .ok all τ) : σ = τ ∧ Numbered all (ms ++ ms') := by
  obtain ⟨same, count, apart, found⟩ := addLabels_eq_ok run
  rw [numbered.count] at found
  refine ⟨same, numbered.points.append numbered'.points apart found, ?_⟩
  rw [count, numbered.count, numbered'.count, List.length_append]

/-- The labels of the entries of a list are added one after another. -/
theorem Numbered.foldlM (pos : Position) (ms : SpriteEntry → List (List String))
    {step : Labels → SpriteEntry → Build Labels} {entries : List SpriteEntry} {known all : Labels}
    {before : List (List String)}
    (each : ∀ entry known next τ, step known entry σ = .ok next τ →
      ∃ more, Numbered more (ms entry) ∧ ms entry ≠ [] ∧ addLabels pos known more σ = .ok next τ)
    (numbered : Numbered known before) (run : entries.foldlM step known σ = .ok all τ) :
    σ = τ ∧ Numbered all (before ++ entries.flatMap ms) ∧
      (entries ≠ [] → before ++ entries.flatMap ms ≠ []) := by
  induction entries generalizing known before with
  | nil =>
    obtain ⟨rfl, rfl⟩ := Build.pure_eq_ok.1 run
    exact ⟨rfl, by simpa using numbered, absurd rfl⟩
  | cons entry entries ih =>
    rw [List.foldlM_cons] at run
    obtain ⟨next, σ', step, run⟩ := Build.bind_eq_ok.1 run
    obtain ⟨more, first, full, add⟩ := each entry known next σ' step
    obtain ⟨rfl, next⟩ := numbered.add first add
    obtain ⟨same, rest, -⟩ := ih next run
    rw [List.append_assoc, ← List.flatMap_cons] at rest
    exact ⟨same, rest, fun _ => by simp [full]⟩

theorem numbered_own (label : Option Ident) :
    Numbered ((label.map fun l => (l.text, 0)).toList, 1) [names label] :=
  ⟨points_own label, rfl⟩

theorem markFirst_ne_nil {label : Option Ident} {ms : List (List String)} (full : ms ≠ []) :
    markFirst label ms ≠ [] := by
  obtain ⟨first, rest, rfl⟩ := List.exists_cons_of_ne_nil full
  exact List.cons_ne_nil _ _

theorem markFirst_none (ms : List (List String)) : markFirst none ms = ms := by
  cases ms <;> rfl

theorem length_markFirst (label : Option Ident) (ms : List (List String)) :
    (markFirst label ms).length = ms.length := by
  cases ms <;> rfl

/-- Labels are read without a change. They have the numbers of the sprites at which they stand, and
there is a sprite if the list has any entry. -/
theorem labels_eq_ok {fuel : Nat} {entries : List SpriteEntry} {read : Labels}
    (full : ∀ {name t}, σ.templates.get? name = some t → t.sprites ≠ [])
    (run : labels fuel pos entries σ = .ok read τ) :
    σ = τ ∧ Numbered read (marks σ.templates fuel entries) ∧
      (entries ≠ [] → marks σ.templates fuel entries ≠ []) := by
  induction fuel generalizing pos entries read τ with
  | zero => cases run
  | succ fuel ih =>
    unfold labels at run
    refine Numbered.foldlM pos (entryMarks σ.templates (marks σ.templates fuel))
      (fun entry known next τ step => ?_) (⟨points_nil, rfl⟩ : Numbered ([], 0) []) run
    cases entry with
    | real label params p => exact ⟨_, numbered_own label, List.cons_ne_nil _ _, step⟩
    | recolour label mapping p => exact ⟨_, numbered_own label, List.cons_ne_nil _ _, step⟩
    | template label name args p =>
      obtain ⟨t, σ1, found, step⟩ := Build.bind_eq_ok.1 step
      obtain ⟨has, rfl⟩ := template_eq_ok found
      obtain ⟨⟨inner, count⟩, σ2, inside, step⟩ := Build.bind_eq_ok.1 step
      obtain ⟨rfl, numbered, some⟩ := ih inside
      have some := some (full has)
      simp only [entryMarks, has, Option.map_some, Option.getD_some]
      cases label with
      | none =>
        rw [markFirst_none]
        exact ⟨_, numbered, some, step⟩
      | some l =>
        dsimp only at step
        split at step
        · cases step
        · next new =>
          have new : inner.get? l.text = none := by simpa [Dict.contains] using new
          refine ⟨(inner.set l.text 0, count), ⟨numbered.points.set some new, ?_⟩,
            markFirst_ne_nil some, step⟩
          rw [length_markFirst, ← numbered.count]

end Sprite

namespace Stmt

open Sprite (Uses Declared)

variable {σ τ : Session}

/-- A template is entered if its name is new and all that it uses is known. -/
theorem prepareTemplate_eq_ok {t : Template} {u : Unit} (run : prepareTemplate t σ = .ok u τ) :
    (σ.templates.get? t.name.text = none ∧
      ∀ used, Uses t.sprites used → (σ.templates.get? used).isSome) ∧
      τ = { σ with templates := σ.templates.set t.name.text t } := by
  obtain ⟨_, σ1, checked, run⟩ := Build.bind_eq_ok.1 run
  have loop := Build.all_of_forIn_eq_ok (P := fun entry => ∀ label name args pos,
    entry = .template label name args pos → (σ.templates.get? name.text).isSome) checked
  obtain ⟨rfl, known⟩ := loop fun entry _ r σ2 step => by
    cases entry with
    | real label params pos =>
      obtain ⟨rfl, rfl⟩ := Build.pure_eq_ok.1 step
      exact ⟨rfl, rfl, by simp⟩
    | recolour label mapping pos =>
      obtain ⟨rfl, rfl⟩ := Build.pure_eq_ok.1 step
      exact ⟨rfl, rfl, by simp⟩
    | template label name args pos =>
      dsimp only at step
      split at step
      · cases step
      · obtain ⟨_, _, now, step⟩ := Build.bind_eq_ok.1 step
        obtain ⟨rfl, rfl⟩ := Build.get_eq_ok.1 now
        split at step
        · next has =>
          obtain ⟨rfl, rfl⟩ := Build.pure_eq_ok.1 step
          refine ⟨rfl, rfl, ?_⟩
          rintro _ _ _ _ ⟨⟩
          exact has
        · cases step
  obtain ⟨_, _, now, run⟩ := Build.bind_eq_ok.1 run
  obtain ⟨rfl, rfl⟩ := Build.get_eq_ok.1 now
  cases found : σ.templates.get? t.name.text with
  | some first =>
    rw [found] at run
    cases run
  | none =>
    rw [found] at run
    refine ⟨⟨rfl, ?_⟩, (Build.modify_eq_ok.1 run).symm⟩
    rintro used ⟨label, name, args, pos, inside, rfl⟩
    exact known _ inside label name args pos rfl

/-- Declarations of templates leave nothing but the templates. -/
theorem prepareAll_templates {ds : List Template} {rest done : List Stmt}
    (declared : Declared σ.templates) (full : ∀ t ∈ ds, t.sprites ≠ [])
    (run : prepareAll (ds.map .template ++ rest) σ = .ok done τ) :
    ∃ σ' done', Declared σ'.templates ∧ σ'.blocks = σ.blocks ∧
      prepareAll rest σ' = .ok done' τ := by
  induction ds generalizing σ done with
  | nil => exact ⟨σ, done, declared, rfl, run⟩
  | cons t ds ih =>
    rw [List.forall_mem_cons] at full
    obtain ⟨_, σ1, first, run⟩ := Build.bind_eq_ok.1 run
    obtain ⟨_, σ2, others, run⟩ := Build.bind_eq_ok.1 run
    obtain ⟨-, rfl⟩ := Build.pure_eq_ok.1 run
    obtain ⟨_, σ3, entered, first⟩ := Build.bind_eq_ok.1 first
    obtain ⟨-, rfl⟩ := Build.pure_eq_ok.1 first
    obtain ⟨⟨new, known⟩, same⟩ := prepareTemplate_eq_ok entered
    have more : Declared σ3.templates := by
      rw [same]
      exact declared.set new full.1 known
    obtain ⟨σ', done', declared', blocks, run⟩ := ih more full.2 others
    exact ⟨σ', done', declared', blocks.trans (by rw [same]), run⟩

theorem lt_size_of_spriteset {blocks : Array Block} {id : Nat} {set : SpriteSet}
    (isSet : (Block.look blocks id).content = .spriteset set) : id < blocks.size := by
  by_contra outside
  rw [Block.look, Array.getElem?_eq_none (Nat.le_of_not_lt outside)] at isSet
  cases isSet

/-- The labels of a set are kept with its block. -/
theorem prepareSet_eq_ok {id : Nat} {set : SpriteSet} {u : Unit}
    (full : ∀ {name t}, σ.templates.get? name = some t → t.sprites ≠ [])
    (isSet : (Block.look σ.blocks id).content = .spriteset set) (run : prepareSet id σ = .ok u τ) :
    ∃ count, τ.templates = σ.templates ∧
      Sprite.labels (σ.templates.length + 2) set.pos set.sprites σ =
        .ok ((Block.look τ.blocks id).labels, count) σ := by
  obtain ⟨b, σ1, found, run⟩ := Build.bind_eq_ok.1 run
  obtain ⟨rfl, rfl⟩ := Block.blockOf_eq_ok found
  rw [isSet] at run
  obtain ⟨fuel, σ2, fueled, run⟩ := Build.bind_eq_ok.1 run
  cases fueled
  obtain ⟨⟨labels, count⟩, σ3, read, run⟩ := Build.bind_eq_ok.1 run
  obtain ⟨rfl, -⟩ := Sprite.labels_eq_ok full read
  cases run
  refine ⟨count, rfl, ?_⟩
  simpa [Block.look_modify, lt_size_of_spriteset isSet] using read

end Stmt

namespace Sprite

/-- The labels of a set that is prepared after its templates. To fill in its templates never meets
the limit of the depth, so it does not matter what would happen there. It ends with as many sprites
as were counted for the labels, and a label has the number of the sprite at which it stands. A
template without any sprite could not be written, and a label of it would stand nowhere. -/
theorem labels_name_their_sprites {ds : List Template} {id : Nat} {set : SpriteSet}
    {done : List Stmt} {σ τ : Session} (start : σ.templates = [])
    (full : ∀ t ∈ ds, t.sprites ≠ [])
    (isSet : (Block.look σ.blocks id).content = .spriteset set)
    (run : Stmt.prepareAll (ds.map .template ++ [.block id]) σ = .ok done τ) :
    ∃ ρ fuel count, ρ.templates = τ.templates ∧ templateFuel ρ = .ok fuel ρ ∧
      labels fuel set.pos set.sprites ρ = .ok ((Block.look τ.blocks id).labels, count) ρ ∧
      ∀ (υ : Session) (s : Setting) (limit : Setting → List SpriteEntry → Build (List Marked)),
        υ.templates = τ.templates →
        templateFuel υ = .ok fuel υ ∧
        expand fuel s set.sprites υ =
          (List.map Prod.fst <$> expandMarked limit fuel s set.sprites) υ ∧
        ∀ sprites ω, expand fuel s set.sprites υ = .ok sprites ω →
          sprites.length = count ∧
          ∃ marked, expandMarked limit fuel s set.sprites υ = .ok marked ω ∧
            sprites = marked.map Prod.fst ∧
            ∀ label i, (Block.look τ.blocks id).labels.get? label = some i ↔
              ∃ x names, marked[i]? = some (x, names) ∧ label ∈ names := by
  obtain ⟨ρ, _, declared, blocks, last⟩ :=
    Stmt.prepareAll_templates (start ▸ Declared.nil) full run
  obtain ⟨_, τ', prepared, last⟩ := Build.bind_eq_ok.1 last
  obtain ⟨_, τ'', entered, prepared⟩ := Build.bind_eq_ok.1 prepared
  obtain ⟨-, rfl⟩ := Build.pure_eq_ok.1 prepared
  obtain ⟨-, rfl⟩ := Build.pure_eq_ok.1 last
  rw [← blocks] at isSet
  obtain ⟨count, same, read⟩ := Stmt.prepareSet_eq_ok declared.full isSet entered
  obtain ⟨-, numbered, -⟩ := labels_eq_ok declared.full read
  obtain ⟨rank, ranked⟩ := declared.ranked
  refine ⟨ρ, _, count, same.symm, rfl, read, fun υ s limit known => ?_⟩
  rw [same] at known
  obtain ⟨agrees, gives⟩ := expandMarked_follows ranked limit
    (fun _ _ _ found => ranked.below found) (Nat.lt_add_of_pos_right Nat.two_pos) s υ known
  refine ⟨by rw [← known]; rfl, agrees, fun sprites ω expanded => ?_⟩
  obtain ⟨marked, made, rfl⟩ := Build.map_eq_ok.1 (agrees ▸ expanded)
  obtain ⟨snd, -⟩ := gives marked ω made
  have length : marked.length = count := by
    rw [← List.length_map Prod.snd, snd]
    exact numbered.count.symm
  refine ⟨by rw [List.length_map, length], marked, made, rfl, fun label i => ?_⟩
  rw [numbered.points label i, ← snd]
  constructor
  · rintro ⟨names, here, stands⟩
    rw [List.getElem?_map] at here
    obtain ⟨⟨x, _⟩, found, rfl⟩ := Option.map_eq_some_iff.1 here
    exact ⟨x, _, found, stands⟩
  · rintro ⟨x, names, here, stands⟩
    exact ⟨names, by rw [List.getElem?_map, here]; rfl, stands⟩

/-- Two templates of which the second uses the first, with labels inside and outside of them. -/
def nestedTemplates : List Template :=
  let place := Position.line "" 1
  [{ name := { text := "turn" }, params := [{ text := "x" }], pos := place
     sprites := [.real none [] place, .real (some { text := "left" }) [] place] },
    { name := { text := "both" }, params := [], pos := place
      sprites := [.real (some { text := "still" }) [] place,
        .template (some { text := "moved" }) { text := "turn" } [.int 1] place] }]

/-- A set that uses both templates. -/
def nestedSet : SpriteSet :=
  let place := Position.line "" 9
  { (default : SpriteSet) with
    pos := place
    sprites := [.real (some { text := "first" }) [] place,
      .template (some { text := "group" }) { text := "both" } [] place, .real none [] place] }

def nestedSession : Session :=
  { blocks := #[{ content := .spriteset nestedSet, name := none, pos := nestedSet.pos }] }

def nestedSetting : Setting := { file := none, mask := none, places := [] }

theorem nested_labels_named : ∃ done τ,
    Stmt.prepareAll (nestedTemplates.map .template ++ [.block 0]) nestedSession = .ok done τ ∧
    (Block.look τ.blocks 0).labels =
      [("first", 0), ("still", 1), ("left", 3), ("moved", 2), ("group", 1)] ∧
    ∃ fuel sprites ω, expand fuel nestedSetting nestedSet.sprites τ = .ok sprites ω ∧
      sprites.length = 5 ∧
      ∀ limit, ∃ marked,
        expandMarked limit fuel nestedSetting nestedSet.sprites τ = .ok marked ω ∧
        sprites = marked.map Prod.fst ∧
        ∀ label i, (Block.look τ.blocks 0).labels.get? label = some i ↔
          ∃ x names, marked[i]? = some (x, names) ∧ label ∈ names := by
  have works : Build.works (do
      let _ ← Stmt.prepareAll (nestedTemplates.map .template ++ [.block 0])
      let b ← Build.block? 0
      let fuel ← templateFuel
      let sprites ← expand fuel nestedSetting nestedSet.sprites
      Build.check (if b.labels = [("first", 0), ("still", 1), ("left", 3), ("moved", 2),
        ("group", 1)] ∧ sprites.length = 5 then none else some { cause := .tooDeep }))
      nestedSession = true := by
    decide +kernel
  obtain ⟨_, ω, run⟩ := Build.ok_of_works works
  obtain ⟨done, τ, prepared, run⟩ := Build.bind_eq_ok.1 run
  obtain ⟨b, _, found, run⟩ := Build.bind_eq_ok.1 run
  obtain ⟨rfl, rfl⟩ := Block.blockOf_eq_ok found
  obtain ⟨fuel, _, fueled, run⟩ := Build.bind_eq_ok.1 run
  obtain ⟨sprites, ω', expanded, run⟩ := Build.bind_eq_ok.1 run
  have counted := (Build.check_eq_ok.1 run).1
  obtain ⟨ρ, fuel', count, -, -, -, all⟩ :=
    labels_name_their_sprites rfl (by simp [nestedTemplates]) rfl prepared
  obtain ⟨fueled', -⟩ := all τ nestedSetting (fun _ _ => pure []) rfl
  rw [fueled'] at fueled
  cases fueled
  by_cases right : (Block.look τ.blocks 0).labels = [("first", 0), ("still", 1), ("left", 3),
      ("moved", 2), ("group", 1)] ∧ sprites.length = 5
  · refine ⟨done, τ, prepared, right.1, _, sprites, ω', expanded, right.2, fun limit => ?_⟩
    obtain ⟨-, -, expands⟩ := all τ nestedSetting limit rfl
    exact (expands sprites ω' expanded).2
  · rw [if_neg right] at counted
    cases counted

end Sprite

end NewGrf
