namespace NewGrf

abbrev Dict (α : Type) := List (String × α)

namespace Dict

variable {α : Type}

def get? (d : Dict α) (key : String) : Option α := d.lookup key

def contains (d : Dict α) (key : String) : Bool := (d.get? key).isSome

/-- Sets a value. A new name goes to the end, a known one stays where it is. -/
def set : Dict α → String → α → Dict α
  | [], key, value => [(key, value)]
  | (k, v) :: rest, key, value =>
    if k == key then (key, value) :: rest else (k, v) :: set rest key value

theorem get?_set (d : Dict α) (key name : String) (value : α) :
    (d.set key value).get? name = if name = key then some value else d.get? name := by
  induction d with
  | nil => by_cases same : name = key <;> simp [set, get?, List.lookup_cons, same, beq_false_of_ne]
  | cons p d ih =>
    obtain ⟨k, v⟩ := p
    simp only [get?] at ih
    by_cases known : k = key
    · subst known
      by_cases same : name = k <;> simp [set, get?, List.lookup_cons, same, beq_false_of_ne]
    · by_cases same : name = k
      · subst same
        simp [set, get?, known]
      · simp [set, get?, List.lookup_cons, known, beq_false_of_ne same, ih]

end Dict

end NewGrf
