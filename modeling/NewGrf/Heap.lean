namespace NewGrf.Heap

variable {α : Type}

def rise (before : α → α → Bool) (h : Array α) (i : Nat) : Array α :=
  if i = 0 then h
  else
    let parent := (i - 1) / 2
    match h[i]?, h[parent]? with
    | some x, some p =>
      if before x p then rise before (h.swapIfInBounds i parent) parent else h
    | _, _ => h
termination_by i
decreasing_by omega

def goesRight (before : α → α → Bool) (h : Array α) (i : Nat) : Bool :=
  match h[2 * i + 1]?, h[2 * i + 2]? with
  | some l, some r => !before l r
  | _, _ => false

/-- Moves an entry down to a leaf, along the smaller children, and says where it ends. -/
def sink (before : α → α → Bool) (h : Array α) (i : Nat) : Array α × Nat :=
  let child := if goesRight before h i then 2 * i + 2 else 2 * i + 1
  if child < h.size then sink before (h.swapIfInBounds i child) child else (h, i)
termination_by h.size - i
decreasing_by
  have later : i < child := by
    simp only [child]
    split <;> omega
  simp only [Array.size_swapIfInBounds]
  omega

def push (before : α → α → Bool) (h : Array α) (x : α) : Array α :=
  rise before (h.push x) h.size

/-- Takes out the first entry. The last one takes its place and moves to where it belongs. -/
def pop? (before : α → α → Bool) (h : Array α) : Option (α × Array α) :=
  match h[0]?, h.back? with
  | some first, some last =>
    let rest := h.pop
    if rest.isEmpty then some (first, rest)
    else
      let (sunk, i) := sink before (rest.setIfInBounds 0 last) 0
      some (first, rise before sunk i)
  | _, _ => none

end NewGrf.Heap
