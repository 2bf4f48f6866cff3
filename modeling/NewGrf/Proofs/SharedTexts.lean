import Mathlib.Data.List.Chain
import Mathlib.Data.List.Nodup
import NewGrf.Command.Run
import NewGrf.Proofs.Assignments

open List

namespace NewGrf

open Build

instance (used) : Fixed (Texts.lines used) := .seq

theorem Fixed.same {α : Type} {m : Build α} [fixed : Fixed m] {s t : Session} {a : α}
    (h : m s = .ok a t) : s.Same t := (fixed.of_ok h).1

namespace Language

variable {known : List Nat} {s t : Session} {langs : List Nat}

theorem sublist_of_filterMapM {xs : List (Nat × Language)}
    {f : Nat × Language → Build (Option Nat)}
    (own : ∀ x s r t, f x s = .ok r t → ∀ id ∈ r, id = x.1)
    (h : xs.filterMapM f s = .ok langs t) : langs <+ xs.map (·.1) := by
  induction xs generalizing s langs with
  | nil =>
    rw [filterMapM_nil, pure_eq_ok] at h
    rw [← h.1]
    exact nil_sublist _
  | cons x xs ih =>
    rw [filterMapM_cons, bind_eq_ok] at h
    obtain ⟨r, u, first, h⟩ := h
    cases r with
    | none => exact (ih h).cons _
    | some id =>
      simp only [bind_eq_ok, pure_eq_ok] at h
      obtain ⟨rest, _, others, rfl, rfl⟩ := h
      obtain rfl := own x s _ u first id rfl
      exact (ih others).cons_cons _

/-- With some languages, a build finds none of them twice and no other one. -/
def Distinct (known : List Nat) (m : Build (List Nat)) : Prop :=
  ∀ ⦃s t : Session⦄ ⦃langs : List Nat⦄, s.library.languages.map (·.1) = known →
    m s = .ok langs t → langs.Nodup ∧ langs ⊆ known

theorem Distinct.just {found : List Nat} (nodup : found.Nodup) (sub : found ⊆ known) :
    Distinct known (pure found) := by
  intro s t langs _ h
  rw [pure_eq_ok] at h
  obtain ⟨rfl, rfl⟩ := h
  exact ⟨nodup, sub⟩

theorem Distinct.none : Distinct known (pure []) := .just nodup_nil (nil_subset _)

theorem nodup_append_new {found more : List Nat} (nodup : found.Nodup) (once : more.Nodup) :
    (found ++ more.filter fun id => !found.contains id).Nodup := by
  refine nodup_append.2 ⟨nodup, once.filter _, fun id inFound other new => ?_⟩
  rintro rfl
  simp [inFound] at new

mutual

theorem differing_distinct (distinct : known.Nodup) : ∀ e : Expr, Distinct known (differing e)
  | .string name args _ => by
    intro s t langs languages h
    unfold differing at h
    simp only [bind_eq_ok, get_eq_ok] at h
    obtain ⟨_, _, ⟨rfl, rfl⟩, own, u, found, rest⟩ := h
    have same : s.Same u := Fixed.same found
    have sub : own <+ known := by
      rw [← languages]
      refine sublist_of_filterMapM (fun x s r t made id mem => ?_) found
      split at made
      · simp only [bind_eq_ok, pure_eq_ok] at made
        obtain ⟨text, _, -, master, _, -, rfl, -⟩ := made
        split at mem <;> simp_all
      · rw [pure_eq_ok] at made
        simp [← made.1] at mem
    refine differingAmong_distinct distinct args own (sub.nodup distinct) sub.subset ?_ rest
    rw [same.languages, languages]
  | .num .. | .float .. | .literal .. | .ident .. | .call .. | .array .. | .binary ..
  | .ternary .. | .bitNot .. | .not .. | .boolean .. | .abs .. | .bitmask .. | .param ..
  | .otherParam .. | .access .. | .patchVar .. | .special .. | .groupRef .. | .storage ..
  | .cargo .. | .check .. | .reserve .. | .function .. | .loadTemp .. | .loadArg ..
  | .stationSprites .. => .none

theorem differingAmong_distinct (distinct : known.Nodup) :
    ∀ (es : List Expr) (found : List Nat), found.Nodup → found ⊆ known →
      Distinct known (differingAmong es found)
  | [], _, nodup, sub => .just nodup sub
  | e :: es, found, nodup, sub => by
    intro s t langs languages h
    rw [differingAmong, bind_eq_ok] at h
    obtain ⟨more, u, first, rest⟩ := h
    obtain ⟨once, inside⟩ := differing_distinct distinct e languages first
    have same : s.Same u := Fixed.same first
    refine differingAmong_distinct distinct es _ (nodup_append_new nodup once) ?_ ?_ rest
    · exact append_subset.2 ⟨sub, fun id mem => inside (mem_of_mem_filter mem)⟩
    · rw [same.languages, languages]

end

end Language

/-- The texts of an action. They have numbers in a row from the first one on. -/
def TextAction.lines (a : TextAction) : List Texts.Line :=
  a.texts.mapIdx fun i text =>
    { lang := a.lang, number := a.first + i, text, feature := a.feature }

/-- The texts of an action go on where those of another end. -/
def TextAction.Follows (a b : TextAction) : Prop :=
  b.lang = a.lang ∧ b.feature = a.feature ∧ b.first = a.first + a.texts.length

/-- One action could hold the texts of both. -/
def TextAction.Mergeable (a b : TextAction) : Prop :=
  a.Follows b ∧ a.texts.length + b.texts.length ≤ 0xFF

theorem TextAction.lines_append {a : TextAction} {xs ys : List String}
    (texts : a.texts = xs ++ ys) :
    a.lines = { a with texts := xs }.lines ++
      { a with first := a.first + xs.length, texts := ys }.lines := by
  simp only [lines, texts, mapIdx_append]
  congr 2
  funext i text
  congr 1
  push_cast
  omega

namespace Texts

/-- An action with one text. -/
def Line.alone (l : Line) : TextAction :=
  { feature := l.feature, lang := l.lang, size := 2, first := l.number, texts := [l.text] }

/-- A text has the number right before that of another, in one language and for one feature. -/
def Line.Precedes (l next : Line) : Prop :=
  next.lang = l.lang ∧ next.number = l.number + 1 ∧ next.feature = l.feature

instance (l next : Line) : Decidable (l.Precedes next) :=
  inferInstanceAs (Decidable (_ ∧ _ ∧ _))

/-- An action begins with a text. -/
def Line.Begins (l : Line) (a : TextAction) : Prop :=
  a.lang = l.lang ∧ a.first = l.number ∧ a.feature = l.feature

theorem join_cons_cons {l next : Line} {ls : List Line} {a : TextAction} {as : List TextAction}
    (tail : join (next :: ls) = a :: as) : join (l :: next :: ls) =
      if l.Precedes next then { a with first := l.number, texts := l.text :: a.texts } :: as
      else l.alone :: a :: as := by
  rw [join.eq_def]
  simp only [tail, Line.Precedes, Line.alone, Bool.and_eq_true, beq_iff_eq, and_assoc]
  congr

theorem exists_join_cons (l : Line) (ls : List Line) :
    ∃ a as, join (l :: ls) = a :: as ∧ l.Begins a := by
  induction ls generalizing l with
  | nil => exact ⟨l.alone, [], rfl, rfl, rfl, rfl⟩
  | cons next ls ih =>
    obtain ⟨a, as, tail, lang, -, feature⟩ := ih next
    rw [join_cons_cons tail]
    split
    case isTrue precedes =>
      exact ⟨_, _, rfl, lang.trans precedes.1, rfl, feature.trans precedes.2.2⟩
    case isFalse => exact ⟨_, _, rfl, rfl, rfl, rfl⟩

theorem lines_cons {l next : Line} {a : TextAction} (begins : next.Begins a)
    (precedes : l.Precedes next) :
    ({ a with first := l.number, texts := l.text :: a.texts } : TextAction).lines =
      l :: a.lines := by
  obtain ⟨lang, first, feature⟩ := begins
  rw [TextAction.lines_append (singleton_append (x := l.text)).symm]
  have number : l.number + ([l.text].length : Int) = a.first := by
    simp [first, precedes.2.1]
  rw [number]
  simp [TextAction.lines, lang, feature, precedes.1, precedes.2.2]

/-- Actions for runs of numbers that cannot be longer. -/
structure Runs (ls : List Line) (actions : List TextAction) : Prop where
  lines : actions.flatMap TextAction.lines = ls
  texts : ∀ a ∈ actions, a.size = 2 ∧ a.texts ≠ []
  maximal : actions.IsChain fun a b => ¬a.Follows b

theorem Line.lines_alone (l : Line) : l.alone.lines = [l] := by
  simp [alone, TextAction.lines]

section Runs

variable {l next : Line} {ls : List Line} {a : TextAction} {as : List TextAction}

theorem Runs.extend (runs : Runs ls (a :: as)) (begins : next.Begins a)
    (precedes : l.Precedes next) :
    Runs (l :: ls) ({ a with first := l.number, texts := l.text :: a.texts } :: as) := by
  obtain ⟨lines, texts, maximal⟩ := runs
  rw [flatMap_cons] at lines
  rw [forall_mem_cons] at texts
  rw [isChain_cons] at maximal
  refine ⟨?_, ?_, ?_⟩
  · rw [flatMap_cons, lines_cons begins precedes, cons_append, lines]
  · rw [forall_mem_cons]
    exact ⟨⟨texts.1.1, cons_ne_nil _ _⟩, texts.2⟩
  · rw [isChain_cons]
    refine ⟨fun b isNext follows => maximal.1 b isNext ?_, maximal.2⟩
    -- The action has one text more, but it begins one number earlier.
    have number := begins.2.1.trans precedes.2.1
    refine ⟨follows.1, follows.2.1, follows.2.2.trans ?_⟩
    simp only [length_cons]
    omega

theorem Runs.push (runs : Runs ls (a :: as)) (begins : next.Begins a)
    (apart : ¬l.Precedes next) : Runs (l :: ls) (l.alone :: a :: as) := by
  obtain ⟨lines, texts, maximal⟩ := runs
  refine ⟨?_, forall_mem_cons.2 ⟨⟨rfl, cons_ne_nil _ _⟩, texts⟩, ?_⟩
  · rw [flatMap_cons, l.lines_alone, lines, singleton_append]
  · refine .cons_cons (fun follows => apart ?_) maximal
    exact ⟨begins.1.symm.trans follows.1, begins.2.1.symm.trans follows.2.2,
      begins.2.2.symm.trans follows.2.1⟩

end Runs

theorem runs_join (ls : List Line) : Runs ls (join ls) := by
  induction ls with
  | nil => exact ⟨rfl, forall_mem_nil _, .nil⟩
  | cons l ls ih =>
    cases ls with
    | nil =>
      refine ⟨?_, forall_mem_singleton.2 ⟨rfl, cons_ne_nil _ _⟩, .singleton _⟩
      exact (flatMap_singleton ..).trans l.lines_alone
    | cons next ls =>
      obtain ⟨a, as, tail, begins⟩ := exists_join_cons next ls
      rw [tail] at ih
      rw [join_cons_cons tail]
      split
      case isTrue precedes => exact ih.extend begins precedes
      case isFalse apart => exact ih.push begins apart

/-- Actions that hold the texts of one action, each of them as many as it can. They border on the
same actions as the whole. -/
structure Parts (a : TextAction) (parts : List TextAction) : Prop where
  lines : parts.flatMap TextAction.lines = a.lines
  texts : ∀ p ∈ parts, p.size = a.size ∧ 1 ≤ p.texts.length ∧ p.texts.length ≤ 0xFF
  full : parts.IsChain fun p q => ¬p.Mergeable q
  nonempty : parts ≠ []
  begins : ∀ p ∈ parts.head?, ∀ b : TextAction, b.Follows p → b.Follows a
  ends : ∀ p ∈ parts.getLast?, ∀ b, p.Follows b → a.Follows b

theorem parts_singleton {a : TextAction} (some : a.texts ≠ []) (few : a.texts.length ≤ 0xFF) :
    Parts a [a] where
  lines := flatMap_singleton ..
  texts := by
    rw [forall_mem_singleton]
    exact ⟨rfl, length_pos_iff.2 some, few⟩
  full := .singleton a
  nonempty := cons_ne_nil _ _
  begins := by simp
  ends := by simp

theorem parts_cut {fuel : Nat} {a : TextAction} (some : a.texts ≠ [])
    (enough : a.texts.length ≤ 0xFF * (fuel + 1)) : Parts a (cut fuel a) := by
  induction fuel generalizing a with
  | zero => exact parts_singleton some enough
  | succ fuel ih =>
    rw [cut]
    split
    case isTrue few => exact parts_singleton some few
    case isFalse many =>
      have rest := ih (a := { a with first := a.first + 0xFF, texts := a.texts.drop 0xFF })
        (by simpa using many) (by rw [length_drop]; omega)
      have length : (a.texts.take 0xFF).length = 0xFF := by rw [length_take]; omega
      obtain ⟨p, parts, isCut⟩ := exists_cons_of_ne_nil rest.nonempty
      obtain ⟨lines, texts, full, nonempty, begins, ends⟩ := rest
      constructor
      case lines =>
        rw [flatMap_cons, lines, TextAction.lines_append (take_append_drop 0xFF a.texts).symm,
          length]
        rfl
      case texts =>
        rw [forall_mem_cons, length]
        exact ⟨⟨rfl, by decide, by decide⟩, texts⟩
      case full =>
        rw [isCut] at full texts ⊢
        refine .cons_cons (fun mergeable => ?_) full
        have more := (texts p mem_cons_self).2.1
        have fits := mergeable.2
        rw [length] at fits
        omega
      case nonempty => exact cons_ne_nil _ _
      case begins =>
        intro q isFirst b follows
        obtain rfl := Option.some.inj isFirst
        exact follows
      case ends =>
        rw [isCut] at ends ⊢
        intro q isLast b follows
        obtain ⟨lang, feature, first⟩ := ends q (by rwa [getLast?_cons_cons] at isLast) b follows
        refine ⟨lang, feature, first.trans ?_⟩
        simp only [length_drop]
        omega

theorem cut_join_spec (ls : List Line) :
    let texts := (join ls).flatMap fun a => cut a.texts.length a
    texts.flatMap TextAction.lines = ls ∧
      (∀ a ∈ texts, a.size = 2 ∧ 1 ≤ a.texts.length ∧ a.texts.length ≤ 0xFF) ∧
      texts.IsChain fun a b => ¬a.Mergeable b := by
  obtain ⟨lines, texts, maximal⟩ := runs_join ls
  have parts {a : TextAction} (mem : a ∈ join ls) : Parts a (cut a.texts.length a) :=
    parts_cut (texts a mem).2 (by omega)
  refine ⟨?_, ?_, ?_⟩
  · rw [flatMap_assoc]
    refine Eq.trans ?_ lines
    exact flatMap_congr fun a mem => (parts mem).lines
  · intro p mem
    obtain ⟨a, inside, isPart⟩ := mem_flatMap.1 mem
    obtain ⟨size, length⟩ := (parts inside).texts p isPart
    exact ⟨size.trans (texts a inside).1, length⟩
  · rw [flatMap_def, isChain_flatten, forall_mem_map, isChain_map]
    · refine ⟨fun a mem => (parts mem).full, ?_⟩
      refine maximal.imp_of_mem_imp fun a b inA inB apart p isLast q isFirst mergeable => ?_
      exact apart ((parts inB).begins q isFirst a ((parts inA).ends p isLast q mergeable.1))
    · intro mem
      obtain ⟨a, inside, none⟩ := mem_map.1 mem
      exact (parts inside).nonempty none

variable {s t u v : Session} {used : Int × Expr × Int} {group : List Line} {langs : List Nat}
  {all : List (Int × Expr × Int)} {groups : List (List Line)}

/-- A text that has a number, in one language. -/
structure IsVersion (s : Session) (used : Int × Expr × Int) (id : Nat) (l : Line) : Prop where
  lang : l.lang = id
  feature : l.feature = used.1
  number : l.number = used.2.2
  text : ∃ u v, s.Same u ∧ Language.wording used.2.1 id u = .ok l.text v

/-- A text that has a number, once in the master language and once in each language in which it
differs. -/
def Versions (s : Session) (used : Int × Expr × Int) (group : List Line) : Prop :=
  ∃ langs u v, s.Same u ∧ Language.differing used.2.1 u = .ok langs v ∧
    Forall₂ (IsVersion s used) (Language.masterId :: langs) group

theorem versions_lines (same : s.Same u) (h : lines used u = .ok group v) :
    Versions s used group := by
  obtain ⟨feature, text, number⟩ := used
  simp only [lines, bind_eq_ok, pure_eq_ok] at h
  obtain ⟨master, u₁, worded, langs, u₂, found, others, u₃, mapped, rfl, rfl⟩ := h
  have first := same.trans (Fixed.same worded)
  have second := first.trans (Fixed.same found)
  refine ⟨langs, u₁, u₂, first, found, .cons ⟨rfl, rfl, rfl, u, u₁, same, worded⟩ ?_⟩
  refine (forall₂_keeping_of_mapM (fun made same => same.trans (Fixed.same made)) second
    mapped).imp fun lang l made => ?_
  simp only [bind_eq_ok, pure_eq_ok] at made
  obtain ⟨w, _, same, text, x, worded, rfl, -⟩ := made
  exact ⟨rfl, rfl, rfl, w, x, same, worded⟩

theorem map_lang (versions : Forall₂ (IsVersion s used) langs group) :
    group.map Line.lang = langs := by
  induction versions with
  | nil => rfl
  | cons first _ ih => rw [map_cons, first.lang, ih]

theorem number_eq (versions : Forall₂ (IsVersion s used) langs group) :
    ∀ l ∈ group, l.number = used.2.2 := by
  induction versions with
  | nil => exact forall_mem_nil _
  | cons first _ ih => exact forall_mem_cons.2 ⟨first.number, ih⟩

theorem number_mem (versions : Forall₂ (Versions s) all groups) :
    ∀ l ∈ groups.flatten, l.number ∈ all.map (·.2.2) := by
  induction versions with
  | nil => exact forall_mem_nil _
  | cons first _ ih =>
    obtain ⟨langs, u, v, -, -, each⟩ := first
    rw [flatten_cons, forall_mem_append, map_cons]
    exact ⟨fun l mem => number_eq each l mem ▸ mem_cons_self,
      fun l mem => mem_cons_of_mem _ (ih l mem)⟩

/-- The language and the number of a text. -/
def Line.key (l : Line) : Nat × Int := (l.lang, l.number)

theorem Versions.nodup (versions : Versions s used group)
    (distinct : (Language.masterId :: s.library.languages.map (·.1)).Nodup) :
    (group.map Line.key).Nodup := by
  obtain ⟨langs, u, v, same, found, each⟩ := versions
  obtain ⟨apart, distinct⟩ := nodup_cons.1 distinct
  obtain ⟨nodup, sub⟩ := Language.differing_distinct distinct used.2.1
    (by rw [same.languages]) found
  have once : ((group.map Line.key).map Prod.fst).Nodup := by
    rw [map_map, show Prod.fst ∘ Line.key = Line.lang from rfl, map_lang each]
    exact nodup_cons.2 ⟨fun mem => apart (sub mem), nodup⟩
  exact Nodup.of_map _ once

theorem nodup_keys (versions : Forall₂ (Versions s) all groups)
    (numbers : (all.map (·.2.2)).Nodup)
    (distinct : (Language.masterId :: s.library.languages.map (·.1)).Nodup) :
    (groups.flatten.map Line.key).Nodup := by
  induction versions with
  | nil => exact nodup_nil
  | cons first rest ih =>
    rw [map_cons, nodup_cons] at numbers
    rw [flatten_cons, map_append]
    refine nodup_append.2 ⟨first.nodup distinct, ih numbers.2, ?_⟩
    rw [forall_mem_map]
    intro l mem key other isKey
    obtain ⟨l', mem', rfl⟩ := mem_map.1 other
    obtain ⟨langs, u, v, -, -, each⟩ := first
    have number : l.number = l'.number := congrArg Prod.snd isKey
    rw [number_eq each l mem] at number
    exact numbers.1 (number ▸ number_mem rest l' mem')

/-- Texts that have numbers of their own are written once: reading the actions gives every text
with its number and its feature, in the master language and in those in which it differs, and
nothing else. Each action has some texts and not too many, and no action could take those of the
next one. -/
theorem shared_texts_written_once {actions : List Action}
    (numbers : ((s.callbackTexts.used ++ s.propertyTexts.used).map (·.2.2)).Nodup)
    (distinct : (Language.masterId :: s.library.languages.map (·.1)).Nodup)
    (h : shared s = .ok actions t) : ∃ (texts : List TextAction) (groups : List (List Line)),
      actions = texts.map .texts ∧
      Forall₂ (Versions s) (s.callbackTexts.used ++ s.propertyTexts.used) groups ∧
      texts.flatMap TextAction.lines ~ groups.flatten ∧
      ((texts.flatMap TextAction.lines).map Line.key).Nodup ∧
      (∀ a ∈ texts, a.size = 2 ∧ 1 ≤ a.texts.length ∧ a.texts.length ≤ 0xFF) ∧
      texts.IsChain fun a b => ¬a.Mergeable b := by
  simp only [shared, bind_eq_ok, get_eq_ok, pure_eq_ok] at h
  obtain ⟨_, _, ⟨rfl, rfl⟩, groups, u, mapped, rfl, rfl⟩ := h
  have versions : Forall₂ (Versions s) (s.callbackTexts.used ++ s.propertyTexts.used) groups :=
    (forall₂_keeping_of_mapM (fun made same => same.trans (Fixed.same made)) (.refl s) mapped).imp
      fun used group ⟨v, w, same, made⟩ => versions_lines same made
  obtain ⟨lines, sizes, full⟩ := cut_join_spec (groups.flatten.mergeSort Line.before)
  have sorted : groups.flatten.mergeSort Line.before ~ groups.flatten := mergeSort_perm ..
  refine ⟨_, groups, map_flatMap.symm, versions, ?_, ?_, sizes, full⟩
  · rw [lines]
    exact sorted
  · rw [lines, (sorted.map _).nodup_iff]
    exact nodup_keys versions numbers distinct

/-- Two texts, of which one is translated. It has three numbers: the second one follows that of the
other text, and the third one follows for another feature. -/
def translated : Session :=
  let entry (text : String) : Language.Entry :=
    { phrase := { parts := [.literal text], pos := .line "english.lng" 1 } }
  let text (name : String) : Expr := .string { text := name } [] none
  { library := {
      master := { id := some Language.masterId
                  entries := [("STR_A", entry "road"), ("STR_B", entry "tram")] }
      languages := [(1, { id := some 1, entries := [("STR_A", entry "rue")] }),
        (2, { id := some 2, entries := [("STR_A", entry "weg"), ("STR_B", entry "tram")] })] }
    callbackTexts := { range := 0xD0, total := 0x400, used := [(0, text "STR_B", 0xD000),
      (0, text "STR_A", 0xD001), (5, text "STR_A", 0xD002)] }
    propertyTexts := { range := 0xDC, total := 0x800, used := [(0, text "STR_A", 0xDC00)] } }

theorem translated_texts_written : ∃ actions t,
    ((translated.callbackTexts.used ++ translated.propertyTexts.used).map (·.2.2)).Nodup ∧
    (Language.masterId :: translated.library.languages.map (·.1)).Nodup ∧
    shared translated = .ok actions t ∧
    ∃ (texts : List TextAction) (groups : List (List Line)), actions = texts.map .texts ∧
      Forall₂ (Versions translated)
        (translated.callbackTexts.used ++ translated.propertyTexts.used) groups ∧
      texts.flatMap TextAction.lines ~ groups.flatten ∧
      ((texts.flatMap TextAction.lines).map Line.key).Nodup ∧
      (∀ a ∈ texts, a.size = 2 ∧ 1 ≤ a.texts.length ∧ a.texts.length ≤ 0xFF) ∧
      texts.IsChain fun a b => ¬a.Mergeable b := by
  have numbers :
      ((translated.callbackTexts.used ++ translated.propertyTexts.used).map (·.2.2)).Nodup := by
    decide
  have distinct : (Language.masterId :: translated.library.languages.map (·.1)).Nodup := by decide
  obtain ⟨actions, t, h⟩ : ∃ actions t, shared translated = .ok actions t := ⟨_, _, rfl⟩
  exact ⟨actions, t, numbers, distinct, h, shared_texts_written_once numbers distinct h⟩

end Texts

end NewGrf
