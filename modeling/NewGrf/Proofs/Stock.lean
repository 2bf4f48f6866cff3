import NewGrf.Proofs.Assignments
import NewGrf.Proofs.UsedBlocks
import NewGrf.Sprite.Replace

namespace NewGrf

/-- The sprite set that a block is. -/
def Block.set? (b : Block) : Option SpriteSet :=
  match b.content with
  | .spriteset s => some s
  | _ => none

/-- All that sprites are made from stays as it is, and so do the collections. -/
structure Session.SameStock (s t : Session) : Prop where
  templates : t.templates = s.templates
  containers : t.containers = s.containers
  collections : t.collections = s.collections
  sets : ∀ i, (Block.look t.blocks i).set? = (Block.look s.blocks i).set?

namespace Session.SameStock

variable {s t u : Session}

theorem refl (s : Session) : s.SameStock s := ⟨rfl, rfl, rfl, fun _ => rfl⟩

theorem trans (first : s.SameStock t) (second : t.SameStock u) : s.SameStock u :=
  ⟨second.templates.trans first.templates, second.containers.trans first.containers,
    second.collections.trans first.collections, fun i => (second.sets i).trans (first.sets i)⟩

end Session.SameStock

def Frame.stock : Frame where
  kept := Session.SameStock
  left := Session.SameStock
  refl := .refl
  trans := .trans
  left_refl := .refl
  left_trans := .trans

/-- A build that leaves all that sprites are made from as it is. -/
abbrev Stocked {α : Type} (m : Build α) : Prop := Keeps .stock m

instance : Frame.stock.Noting where
  noted _ _ h := ⟨congrArg (·.templates) h, congrArg (·.containers) h, congrArg (·.collections) h,
    fun i => congrArg (fun u => (Block.look u.blocks i).set?) h⟩

theorem Stocked.tryCatch {α : Type} {m : Build α} {f : Stop → Build α} (first : Stocked m)
    (next : ∀ e, Stocked (f e)) : Stocked (tryCatch m f) where
  of_ok h := by
    obtain found | ⟨e, u, failed, right⟩ := Build.tryCatch_eq_ok.1 h
    · exact first.of_ok found
    · exact ⟨(first.of_error failed).trans ((next e).of_ok right).1, trivial⟩
  of_error h := by
    obtain ⟨e, u, failed, right⟩ := Build.tryCatch_eq_error.1 h
    exact (first.of_error failed).trans ((next e).of_error right)

namespace Block

variable {id : Nat} {s t : Session}

/-- A change of a block that leaves it the sprite set that it is, if it is one. -/
theorem sameStock_modify {f : Block → Block} (same : (f (look s.blocks id)).set? =
    (look s.blocks id).set?) : s.SameStock { s with blocks := s.blocks.modify id f } := by
  refine ⟨rfl, rfl, rfl, fun i => ?_⟩
  rw [look_modify]
  split
  · next here => rw [← here.1, same]
  · rfl

/-- A build that leaves what sprites are made from as it finds it in one session. -/
structure StockedAt {α : Type} (s : Session) (m : Build α) : Prop where
  of_ok : ∀ {a t}, m s = .ok a t → s.SameStock t
  of_error : ∀ {e t}, m s = .error e t → s.SameStock t

namespace StockedAt

variable {α β : Type} {m : Build α}

theorem of_stocked [h : Stocked m] : StockedAt s m :=
  ⟨fun run => (h.of_ok run).1, fun run => h.of_error run⟩

theorem bind {f : α → Build β} (first : StockedAt s m)
    (next : ∀ a t, m s = .ok a t → StockedAt t (f a)) : StockedAt s (m >>= f) where
  of_ok run := by
    obtain ⟨a, t, left, right⟩ := Build.bind_eq_ok.1 run
    exact (first.of_ok left).trans ((next a t left).of_ok right)
  of_error run := by
    obtain failed | ⟨a, t, left, right⟩ := Build.bind_eq_error.1 run
    · exact first.of_error failed
    · exact (first.of_ok left).trans ((next a t left).of_error right)

theorem modifyBlock {f : Block → Block}
    (same : (f (look s.blocks id)).set? = (look s.blocks id).set?) :
    StockedAt s (Build.modifyBlock id f) where
  of_ok run := by
    cases run
    exact sameStock_modify same
  of_error run := by cases run

end StockedAt

/-- A switch may be replaced by a simpler one, but not a sprite set. -/
theorem findOutcome_stockedAt {b : Block} (known : b.set? = (look s.blocks id).set?) :
    StockedAt s (findOutcome id b) := by
  unfold findOutcome
  split
  · next sw content =>
    have none : (look s.blocks id).set? = none := by
      rw [← known]
      simp [set?, content]
    refine .bind .of_stocked fun readOnly t run => ?_
    have same := (StockedAt.of_stocked (m := sw.expr.isReadOnly)).of_ok run
    split
    · exact .of_stocked
    · refine .bind .of_stocked fun _ u run' => ?_
      have same' := same.trans ((StockedAt.of_stocked (m := sayOptimised _ _)).of_ok run')
      split
      · exact .of_stocked
      · refine .bind (.modifyBlock ?_) fun _ _ _ => .of_stocked
        rw [same'.sets, none]
        rfl
  · repeat' first | exact .of_stocked | split
  · exact .of_stocked

theorem outcome?_stockedAt (s : Session) : StockedAt s (outcome? id) := by
  refine .bind .of_stocked fun b t found => ?_
  obtain ⟨rfl, rfl⟩ := blockOf_eq_ok found
  split
  · exact .of_stocked
  · exact .of_stocked
  · refine .bind (findOutcome_stockedAt rfl) fun o t _ => .bind (.modifyBlock rfl) fun _ u _ => ?_
    split <;> exact .of_stocked

end Block

instance : Frame.stock.Reducing where
  outcome _ := ⟨fun run => ⟨(Block.outcome?_stockedAt _).of_ok run, trivial⟩,
    (Block.outcome?_stockedAt _).of_error⟩

namespace Sprite

instance {R : Frame} {args : Arguments} : Scope.Kept R [args.table] :=
  ⟨List.forall_mem_cons.2 ⟨fun _ _ => .just, fun _ inside => absurd inside List.not_mem_nil⟩⟩

section Setting

variable {s : Setting}

instance (e) : Stocked (s.constant e) := by
  unfold Setting.constant
  infer_instance

instance (e) : Stocked (s.literal? e) := by
  refine .after fun _ => ?_
  split <;> exact .just

instance (x y width height) : Stocked (checkRect x y width height) := .seq

instance (params) : Stocked (readRect s params) := by
  unfold readRect
  split <;> infer_instance

instance (v number name) : Stocked (checkOffset v number name) := by
  unfold checkOffset
  infer_instance

instance (params) : Stocked (readFlags s params) := by
  unfold readFlags
  split
  · exact .just
  · refine .tryCatch .seq fun stop => ?_
    split
    · exact .just
    · exact .throw

instance (number params) : Stocked (readFileName s number params) := by
  unfold readFileName
  split
  · infer_instance
  · infer_instance
  · refine .after fun _ => ?_
    split <;> infer_instance

instance (file number params) : Stocked (readMask s file number params) := by
  unfold readMask
  split
  · infer_instance
  · split
    · infer_instance
    · refine .andThen (.after fun _ => ?_) fun _ => inferInstance
      split <;> infer_instance
    · infer_instance
    · refine .andThen (.after fun _ => ?_) fun _ => inferInstance
      split <;> infer_instance
    · infer_instance
  · refine .after fun _ => ?_
    split <;> infer_instance

instance (params pos) : Stocked (readImage s params pos) := by
  unfold readImage
  refine .ite (fun _ => .just) fun _ => .unlessFails (.after fun _ => ?_)
  dsimp only
  split
  · refine .after fun _ => .after fun _ => .after fun _ => .after fun _ => .after fun _ =>
      .after fun _ => ?_
    split
    · infer_instance
    · refine .after fun _ => ?_
      split <;> infer_instance
  · exact .just

instance (r) : Stocked (readRecolour s r) := by
  unfold readRecolour
  split <;> infer_instance

instance (name) : Stocked (template name) := by
  unfold template
  refine .after fun _ => ?_
  split <;> infer_instance

instance (t args pos) : Stocked (readArguments s t args pos) := by
  unfold readArguments
  refine .unlessFails (.andThen (.mapM fun e => .after fun _ => ?_) fun _ => .just)
  split <;> infer_instance

end Setting

variable {s t : Session}

theorem template_eq_ok {name : Ident} {x : Template} (run : template name s = .ok x t) :
    s.templates.get? name.text = some x ∧ s = t := by
  obtain ⟨u, s1, now, run⟩ := Build.bind_eq_ok.1 run
  obtain ⟨rfl, rfl⟩ := Build.get_eq_ok.1 now
  cases found : s.templates.get? name.text with
  | some y =>
    rw [found] at run
    obtain ⟨rfl, rfl⟩ := Build.pure_eq_ok.1 run
    exact ⟨rfl, rfl⟩
  | none =>
    rw [found] at run
    cases run

end Sprite

end NewGrf
