import Mathlib.Data.List.Forall2
import Mathlib.Data.List.Nodup
import NewGrf.Proofs.Bytes

open List

namespace NewGrf

open Input (take_bytes bind_of_eq)

namespace Input

/-- Things that each start with a number, up to a zero. -/
def upToZero {α : Type} (one : Nat → Input α) : Nat → Input (List α)
  | 0 => fun _ => none
  | most + 1 => do
    let n ← take 4
    if n = 0 then pure [] else pure ((← one n) :: (← upToZero one most))

end Input

namespace Grf

/-- What stands in the section of data. -/
inductive Item where
  | data (bytes : List UInt8)
  | image (number : Nat)
  deriving Repr, DecidableEq

def Item.number? : Item → Option Nat
  | data _ => none
  | image number => some number

def item (size : Nat) : Input Item := do
  let kind ← Input.take 1
  if kind = 0xFF then pure (.data (← Input.block size))
  else if kind = 0xFD ∧ size = 4 then pure (.image (← Input.take 4))
  else fun _ => none

def record (number : Nat) : Input (Nat × List UInt8) := do
  let length ← Input.take 4
  pure (number, ← Input.block length)

def magic : List UInt8 := [0, 0, 0x47, 0x52, 0x46, 0x82, 0x0D, 0x0A, 0x1A, 0x0A]

/-- The two sections of a file. The second one starts as far behind as the number in front of the
first one says. -/
def read (file : List UInt8) : Option (List Item × List (Nat × List UInt8)) := do
  let (head, rest) ← Input.block 10 file
  let (offset, rest) ← Input.take 4 rest
  let (packed, data) ← Input.take 1 rest
  if head = magic ∧ packed = 0 then
    let (items, _) ← Input.upToZero item data.length data
    let (records, _) ← Input.upToZero record rest.length (rest.drop offset)
    some (items, records)
  else none

/-- An image as the game finds it. -/
structure Seen where
  info : Nat
  zoom : Nat
  height : Nat
  width : Nat
  xoffset : Nat
  yoffset : Nat
  data : List UInt8
  deriving Repr, DecidableEq

def seen : Input Seen := do
  pure { info := ← Input.take 1, zoom := ← Input.take 1, height := ← Input.take 2
         width := ← Input.take 2, xoffset := ← Input.take 2, yoffset := ← Input.take 2
         data := ← fun bytes => some (bytes, []) }

end Grf

/-- A piece of the content of a sprite that can be written. -/
def Piece.isContent : Piece → Bool
  | start .. | finish => false
  | text s _ ascii => (!ascii || Text.isAscii s) && !Text.hasSurrogate s
  | _ => true

namespace Grf

/-- A sprite: pieces of a certain size, or images. -/
inductive Sprite where
  | data (size : Nat) (pieces : List Piece)
  | images (images : List Image)

namespace Image

/-- What should be found of an image. Negative numbers are found as words. -/
def seen (i : Image) : Seen where
  info := Number.lowBytes i.info 1
  zoom := Number.lowBytes i.zoom 1
  height := Number.lowBytes i.height 2
  width := Number.lowBytes i.width 2
  xoffset := Number.lowBytes i.xoffset 2
  yoffset := Number.lowBytes i.yoffset 2
  data := i.data.data.toList

def bytes (i : Image) : List UInt8 :=
  Number.bytes i.info 1 ++ (Number.bytes i.zoom 1 ++ (Number.bytes i.height 2
    ++ (Number.bytes i.width 2 ++ (Number.bytes i.xoffset 2 ++ (Number.bytes i.yoffset 2
    ++ i.data.data.toList)))))

theorem seen_bytes (i : Image) : Grf.seen i.bytes = some (i.seen, []) := by
  rw [Grf.seen, bytes, bind_of_eq (take_bytes ..), bind_of_eq (take_bytes ..),
    bind_of_eq (take_bytes ..), bind_of_eq (take_bytes ..), bind_of_eq (take_bytes ..),
    bind_of_eq (take_bytes ..)]
  rfl

theorem length_bytes (i : Image) : i.bytes.length = i.data.size + 10 := by
  simp only [bytes, length_append, Number.length_bytes, Array.length_toList, ByteArray.size_data]
  omega

end Image

namespace Sprite

def write : Sprite → Write Unit
  | data size pieces => (Piece.start size false :: pieces ++ [Piece.finish]).forM Grf.write
  | images is => do
    start 0 true
    is.forM image
    finish

/-- A sprite with something in it, whose size is as it says. -/
def Fits : Sprite → Prop
  | data size pieces =>
    (∀ p ∈ pieces, p.isContent = true) ∧ (pieces.flatMap Piece.content).length = size ∧ 0 < size
  | images is => is ≠ []

/-- What is found of a sprite in the section of data. -/
def item (number : Nat) : Sprite → Item
  | data _ pieces => .data (pieces.flatMap Piece.content)
  | images _ => .image number

def records (number : Nat) : Sprite → List (Nat × List UInt8)
  | data .. => []
  | images is => is.map fun i => (number, i.bytes)

def size : Sprite → Nat
  | data size _ => size
  | images _ => 4

/-- The bytes of a sprite in the section of data, behind its size. -/
def body (number : Nat) : Sprite → List UInt8
  | data _ pieces => Number.bytes 0xFF 1 ++ pieces.flatMap Piece.content
  | images _ => Number.bytes 0xFD 1 ++ Number.bytes number 4

def head (number : Nat) (s : Sprite) : List UInt8 := Number.bytes s.size 4 ++ s.body number

end Sprite

def recordBytes (r : Nat × List UInt8) : List UInt8 :=
  Number.bytes r.1 4 ++ (Number.bytes r.2.length 4 ++ r.2)

/-- Writing adds bytes to both sections, and some sprites. -/
def Adds (m : Write Unit) (g : Grf) (data images : List UInt8) (sprites : Nat) : Prop :=
  ∃ g', m g = .ok () g' ∧ g'.data.data.toList = g.data.data.toList ++ data ∧
    g'.images.data.toList = g.images.data.toList ++ images ∧ g'.number = g.number + sprites

section Writing

variable {m n : Write Unit} {g : Grf} {data data' images images' : List UInt8} {k l : Nat}

theorem toList_pushLow (b : ByteArray) (value : Int) (n : Nat) :
    (ByteArray.pushLow b value n).data.toList = b.data.toList ++ Number.bytes value n := by
  rw [ByteArray.pushLow_eq]
  exact toList_foldl_push ..

theorem Adds.andThen (first : Adds m g data images k)
    (second : ∀ g', g'.number = g.number + k → Adds n g' data' images' l) :
    Adds (do m; n) g (data ++ data') (images ++ images') (k + l) := by
  obtain ⟨g₁, run, own, pictures, number⟩ := first
  obtain ⟨g₂, later, own', pictures', number'⟩ := second g₁ number
  refine ⟨g₂, ?_, ?_, ?_, ?_⟩
  · change EStateM.bind m (fun _ => n) g = _
    rw [EStateM.bind, run]
    exact later
  · rw [own', own, append_assoc]
  · rw [pictures', pictures, append_assoc]
  · rw [number', number, Nat.add_assoc]

theorem pure_adds (g : Grf) : Adds (pure ()) g [] [] 0 := ⟨g, rfl, by simp, by simp, rfl⟩

theorem put_adds (value : Int) (size : Nat) (g : Grf) :
    Adds (put value size) g (Number.bytes value size) [] 0 :=
  ⟨_, rfl, toList_pushLow .., (append_nil _).symm, rfl⟩

theorem Adds.finished (h : Adds m g data images 0) : Adds (do m; finish) g data images 1 := by
  have last (g : Grf) : Adds finish g [] [] 1 :=
    ⟨_, rfl, (append_nil _).symm, (append_nil _).symm, rfl⟩
  have both := h.andThen fun g _ => last g
  rwa [append_nil, append_nil] at both

theorem start_adds (size : Nat) (real : Bool) (g : Grf) : Adds (start size real) g
    (if real then Number.bytes 4 4 ++ (Number.bytes 0xFD 1 ++ Number.bytes g.number 4)
      else Number.bytes size 4 ++ Number.bytes 0xFF 1) [] 0 := by
  have reset : Adds (modify fun g => { g with count := 0 }) g [] [] 0 :=
    ⟨_, rfl, (append_nil _).symm, (append_nil _).symm, rfl⟩
  cases real with
  | false =>
    exact reset.andThen fun g _ => (put_adds size 4 g).andThen fun g _ => put_adds 0xFF 1 g
  | true =>
    have number (g' : Grf) (same : g'.number = g.number) :
        Adds (do put (← get).number 4) g' (Number.bytes g.number 4) [] 0 := by
      rw [← same]
      exact put_adds g'.number 4 g'
    exact reset.andThen fun g₁ first => (put_adds 4 4 g₁).andThen fun g₂ second =>
      (put_adds 0xFD 1 g₂).andThen fun g₃ third => number g₃ (by omega)

theorem forM_content_adds {ps : List Piece} (content : ∀ p ∈ ps, p.isContent = true) (g : Grf) :
    Adds (ps.forM Grf.write) g (ps.flatMap Piece.content) [] 0 := by
  induction ps generalizing g with
  | nil => exact pure_adds g
  | cons p rest ih =>
    rw [forall_mem_cons] at content
    have own : Adds (Grf.write p) g p.content [] 0 := by
      cases p with
      | start | finish => cases content.1
      | text s finalZero ascii =>
        have writable := content.1
        simp only [Piece.isContent, Bool.and_eq_true, Bool.or_eq_true,
          Bool.not_eq_true'] at writable
        have allowed : (ascii && !Text.isAscii s) = false := by
          rcases writable.1 with free | plain
          · rw [free, Bool.false_and]
          · rw [plain, Bool.not_true, Bool.and_false]
        exact ⟨_, Grf.text_eq_ok_iff.2 ⟨allowed, writable.2, rfl⟩, toList_foldl_push ..,
          (append_nil _).symm, rfl⟩
      | decimal | newline | comment => exact pure_adds g
      | _ => exact put_adds ..
    exact own.andThen fun g _ => ih content.2 g

theorem forM_image_adds (is : List Image) (g : Grf) : Adds (is.forM image) g []
    ((is.map fun i => (g.number, i.bytes)).flatMap recordBytes) 0 := by
  induction is generalizing g with
  | nil => exact pure_adds g
  | cons i rest ih =>
    have own : Adds (image i) g [] (recordBytes (g.number, i.bytes)) 0 := by
      refine ⟨_, rfl, (append_nil _).symm, ?_, rfl⟩
      rw [ByteArray.data_append, Array.toList_append]
      simp only [toList_pushLow, append_assoc, recordBytes, Image.length_bytes]
      rfl
    have others (g' : Grf) (same : g'.number = g.number) := same ▸ ih g'
    exact own.andThen others

theorem write_adds {s : Sprite} (fits : s.Fits) (g : Grf) :
    Adds s.write g (s.head g.number) ((s.records g.number).flatMap recordBytes) 1 := by
  cases s with
  | data size pieces =>
    have body (g : Grf) : Adds ((pieces ++ [Piece.finish]).forM Grf.write) g
        (pieces.flatMap Piece.content) [] 1 := by
      have both : (pieces ++ [Piece.finish]).forM Grf.write =
          (do pieces.forM Grf.write; finish) := by simp [Grf.write]
      rw [both]
      exact (forM_content_adds fits.1 g).finished
    exact (start_adds size false g).andThen fun g _ => body g
  | images is =>
    have body (g' : Grf) (same : g'.number = g.number) := same ▸ (forM_image_adds is g').finished
    have all := (start_adds 0 true g).andThen body
    rwa [append_nil] at all

theorem forM_write_adds {sprites : List Sprite} (fit : ∀ s ∈ sprites, s.Fits) (g : Grf) :
    Adds (sprites.forM Sprite.write) g
      ((sprites.zipIdx g.number).flatMap fun x => x.1.head x.2)
      (((sprites.zipIdx g.number).flatMap fun x => x.1.records x.2).flatMap recordBytes)
      sprites.length := by
  induction sprites generalizing g with
  | nil => exact pure_adds g
  | cons s rest ih =>
    rw [forall_mem_cons] at fit
    rw [length_cons, Nat.add_comm, zipIdx_cons, flatMap_cons, flatMap_cons, flatMap_append]
    refine (write_adds fit.1 g).andThen fun g' next => ?_
    rw [← next]
    exact ih fit.2 g'

end Writing

section Reading

variable {sprites : List Sprite} {records : List (Nat × List UInt8)}

theorem item_head {s : Sprite} {number : Nat} (fits : s.Fits) (below : number < 2 ^ 32)
    (rest : List UInt8) : item s.size (s.body number ++ rest) = some (s.item number, rest) := by
  cases s with
  | data size pieces =>
    obtain ⟨-, rfl, -⟩ := fits
    rw [Sprite.body, append_assoc, Sprite.size, item, bind_of_eq (take_bytes ..),
      if_pos (by decide), bind_of_eq (Input.block_append ..)]
    rfl
  | images is =>
    rw [Sprite.body, append_assoc, Sprite.size, item, bind_of_eq (take_bytes ..),
      if_neg (by decide), if_pos (by decide), bind_of_eq (Input.take_natCast below rest)]
    rfl

/-- Whatever is read one by one is read up to the zero. -/
theorem upToZero_eq {α β : Type} {one : Nat → Input α} {key : β → Nat} {code : β → List UInt8}
    {value : β → α} {xs : List β} (each : ∀ x ∈ xs, 0 < key x ∧ key x < 2 ^ 32 ∧
      ∀ rest, one (key x) (code x ++ rest) = some (value x, rest))
    {most : Nat} (room : xs.length < most) (rest : List UInt8) :
    Input.upToZero one most ((xs.flatMap fun x => Number.bytes (key x) 4 ++ code x)
      ++ (Number.bytes 0 4 ++ rest)) = some (xs.map value, rest) := by
  induction xs generalizing most with
  | nil =>
    cases most with
    | zero => cases room
    | succ most => rfl
  | cons x others ih =>
    cases most with
    | zero => cases room
    | succ most =>
      rw [forall_mem_cons] at each
      obtain ⟨⟨positive, below, reads⟩, each⟩ := each
      rw [flatMap_cons, append_assoc, append_assoc, Input.upToZero,
        bind_of_eq (Input.take_natCast below _), if_neg (by omega), bind_of_eq (reads _),
        bind_of_eq (ih each (Nat.lt_of_succ_lt_succ room))]
      rfl

theorem length_le_flatMap {β : Type} {f : β → List UInt8} {x : β} {xs : List β} (mem : x ∈ xs) :
    (f x).length ≤ (xs.flatMap f).length := by
  obtain ⟨before, after, rfl⟩ := append_of_mem mem
  simp only [flatMap_append, flatMap_cons, length_append]
  omega

theorem length_le_length_flatMap {β : Type} {f : β → List UInt8} {xs : List β}
    (some : ∀ x ∈ xs, 0 < (f x).length) : xs.length ≤ (xs.flatMap f).length := by
  induction xs with
  | nil => exact Nat.zero_le _
  | cons x others ih =>
    rw [forall_mem_cons] at some
    have := ih some.2
    simp only [flatMap_cons, length_append, length_cons]
    omega

theorem size_lt_head {s : Sprite} (fits : s.Fits) (number : Nat) :
    0 < s.size ∧ s.size < (s.head number).length := by
  cases s with
  | data size pieces =>
    obtain ⟨-, rfl, positive⟩ := fits
    refine ⟨positive, ?_⟩
    simp only [Sprite.head, Sprite.body, Sprite.size, length_append, Number.length_bytes]
    omega
  | images => exact ⟨Nat.succ_pos 3, Nat.le_add_left 5 4⟩

/-- The section of data, if it is not too large. -/
theorem items_of_heads (fit : ∀ s ∈ sprites, s.Fits) (few : sprites.length < 2 ^ 32)
    (small : ((sprites.zipIdx 1).flatMap fun x => x.1.head x.2).length < 2 ^ 32)
    (rest : List UInt8) {most : Nat}
    (room : ((sprites.zipIdx 1).flatMap fun x => x.1.head x.2).length < most) :
    Input.upToZero item most (((sprites.zipIdx 1).flatMap fun x => x.1.head x.2)
      ++ (Number.bytes 0 4 ++ rest)) =
        some ((sprites.zipIdx 1).map fun x => x.1.item x.2, rest) := by
  have fits {x : Sprite × Nat} (mem : x ∈ sprites.zipIdx 1) : x.1.Fits :=
    fit _ (fst_mem_of_mem_zipIdx mem)
  refine upToZero_eq (fun x mem => ?_) (Nat.lt_of_le_of_lt ?_ room) rest
  · have below := (mem_zipIdx mem).2.1
    have inside := length_le_flatMap (f := fun x => x.1.head x.2) mem
    obtain ⟨positive, shorter⟩ := size_lt_head (fits mem) x.2
    exact ⟨positive, by omega, item_head (fits mem) (by omega)⟩
  · exact length_le_length_flatMap fun x mem => Nat.zero_lt_of_lt (size_lt_head (fits mem) x.2).2

/-- The section of images, if it is not too large. -/
theorem records_of_bytes (numbers : ∀ r ∈ records, 0 < r.1 ∧ r.1 < 2 ^ 32)
    (small : (records.flatMap recordBytes).length < 2 ^ 32) {most : Nat}
    (room : (records.flatMap recordBytes).length < most) (rest : List UInt8) :
    Input.upToZero record most (records.flatMap recordBytes ++ (Number.bytes 0 4 ++ rest)) =
      some (records, rest) := by
  have length (r : Nat × List UInt8) : (recordBytes r).length = r.2.length + 8 := by
    simp only [recordBytes, length_append, Number.length_bytes]
    omega
  have all : Input.upToZero record most
      (records.flatMap recordBytes ++ (Number.bytes 0 4 ++ rest)) =
      some (records.map id, rest) :=
    upToZero_eq (fun r mem => ?_) (Nat.lt_of_le_of_lt ?_ room) rest
  · rwa [map_id] at all
  · refine ⟨(numbers r mem).1, (numbers r mem).2, fun rest => ?_⟩
    have inside := length_le_flatMap (f := recordBytes) mem
    rw [length] at inside
    rw [append_assoc, record, bind_of_eq (Input.take_natCast (by omega) _),
      bind_of_eq (Input.block_append ..)]
    rfl
  · exact length_le_length_flatMap fun r _ => by simp [length]

/-- A sprite and what is found of it, given all records. The records with its number are those of
its images. -/
def Shows (records : List (Nat × List UInt8)) : Sprite → Item → Prop
  | .data _ pieces, .data bytes => bytes = pieces.flatMap Piece.content
  | .images is, .image number => number ≠ 0 ∧
    (records.filter (·.1 == number)).map (fun r => seen r.2) = is.map fun i => some (i.seen, [])
  | _, _ => False

theorem mem_records {n : Nat} {r : Nat × List UInt8}
    (mem : r ∈ (sprites.zipIdx n).flatMap fun x => x.1.records x.2) :
    n ≤ r.1 ∧ r.1 < n + sprites.length := by
  obtain ⟨⟨s, k⟩, inside, own⟩ := mem_flatMap.1 mem
  obtain ⟨low, high, -⟩ := mem_zipIdx inside
  cases s with
  | data => cases own
  | images is =>
    obtain ⟨i, -, rfl⟩ := mem_map.1 own
    exact ⟨low, high⟩

/-- The records of other sprites have other numbers. -/
theorem shows_zipIdx {n : Nat} (positive : 0 < n) (before : List (Nat × List UInt8))
    (apart : ∀ r ∈ before, r.1 < n) :
    Forall₂ (Shows (before ++ (sprites.zipIdx n).flatMap fun x => x.1.records x.2)) sprites
      ((sprites.zipIdx n).map fun x => x.1.item x.2) := by
  induction sprites generalizing n before with
  | nil => exact .nil
  | cons s rest ih =>
    rw [zipIdx_cons, flatMap_cons, map_cons]
    refine .cons ?_ ?_
    · cases s with
      | data => rfl
      | images is =>
        have first : before.filter (·.1 == n) = [] := by
          rw [filter_eq_nil_iff]
          intro r inside
          simpa using Nat.ne_of_lt (apart r inside)
        have last : ((rest.zipIdx (n + 1)).flatMap fun x => x.1.records x.2).filter (·.1 == n) =
            [] := by
          rw [filter_eq_nil_iff]
          intro r inside
          have := (mem_records inside).1
          simp only [beq_iff_eq]
          omega
        refine ⟨Nat.ne_of_gt positive, ?_⟩
        rw [filter_append, filter_append, first, last, Sprite.records, filter_eq_self.2 (by simp)]
        simp [Image.seen_bytes]
    · rw [← append_assoc]
      refine ih (Nat.succ_pos n) _ ?_
      refine forall_mem_append.2 ⟨fun r inside => Nat.lt_succ_of_lt (apart r inside), ?_⟩
      cases s with
      | data => nofun
      | images is => simp [Sprite.records]

theorem number?_sublist (sprites : List Sprite) (n : Nat) :
    ((sprites.zipIdx n).map fun x => x.1.item x.2).filterMap Item.number? <+
      range' n sprites.length := by
  induction sprites generalizing n with
  | nil => exact .slnil
  | cons s rest ih =>
    cases s with
    | data => exact .cons _ (ih (n + 1))
    | images => exact .cons_cons _ (ih (n + 1))

/-- The sections of a file, each with its zero. -/
theorem read_sections {data images : List UInt8} {items : List Item}
    (small : data.length + 1 < 2 ^ 32) (first : ∀ rest, Input.upToZero item
      (data ++ rest).length (data ++ rest) = some (items, rest))
    (second : ∀ most ≥ images.length, Input.upToZero record most images = some (records, [])) :
    read (magic ++ (Number.bytes (data.length + 1 : Nat) 4
      ++ (Number.bytes 0 1 ++ (data ++ images)))) = some (items, records) := by
  have head (rest : List UInt8) : Input.block 10 (magic ++ rest) = some (magic, rest) :=
    Input.block_append magic rest
  have behind : (Number.bytes 0 1 ++ (data ++ images)).drop (data.length + 1) = images :=
    drop_left
  have offset := Input.take_natCast (n := data.length + 1) (show _ < 2 ^ (8 * 4) from small)
  have packed (rest : List UInt8) : Input.take 1 (Number.bytes 0 1 ++ rest) = some (0, rest) :=
    take_bytes ..
  have long : (Number.bytes 0 1 ++ (data ++ images)).length ≥ images.length := by
    simp only [length_append]
    omega
  simp only [read, head, offset, packed, behind, first, second _ long,
    Option.bind_eq_bind, Option.bind_some, and_self, if_true]

theorem toList_file (g : Grf) : g.file.data.toList = magic ++ (Number.bytes
    ((g.data.data.toList ++ Number.bytes 0 4).length + 1 : Nat) 4 ++ (Number.bytes 0 1
      ++ ((g.data.data.toList ++ Number.bytes 0 4)
        ++ (g.images.data.toList ++ (Number.bytes 0 4 ++ []))))) := by
  have size : (ByteArray.pushLow g.data 0 4).size =
      (g.data.data.toList ++ Number.bytes 0 4).length := by
    rw [← toList_pushLow]
    rfl
  have head : (ByteArray.pushAll .empty [0, 0, 71, 82, 70, 130, 13, 10, 26, 10]).data.toList =
      magic := toList_foldl_push ..
  unfold file front
  simp only [toList_pushLow, ByteArray.data_append, Array.toList_append, size, append_assoc, head,
    append_nil, Int.natCast_succ]

/-- Whatever sprites are written, as long as there are not too many and the file is not too large,
the file is read back as them: data as they were, and images by numbers that no other sprite has. -/
theorem read_file (fit : ∀ s ∈ sprites, s.Fits) (few : sprites.length < 2 ^ 32) :
    ∃ g, sprites.forM Sprite.write {} = .ok () g ∧ (g.file.size < 2 ^ 32 →
      ∃ items records, read g.file.data.toList = some (items, records) ∧
        Forall₂ (Shows records) sprites items ∧ (items.filterMap Item.number?).Nodup) := by
  obtain ⟨g, run, data, images, -⟩ := forM_write_adds fit {}
  change g.data.data.toList = (sprites.zipIdx 1).flatMap fun x => x.1.head x.2 at data
  change g.images.data.toList =
    ((sprites.zipIdx 1).flatMap fun x => x.1.records x.2).flatMap recordBytes at images
  refine ⟨g, run, fun small => ?_⟩
  have whole := toList_file g
  have length : g.file.data.toList.length < 2 ^ 32 := small
  rw [whole] at length
  simp only [length_append, Number.length_bytes, data, images] at length
  refine ⟨(sprites.zipIdx 1).map fun x => x.1.item x.2,
    (sprites.zipIdx 1).flatMap fun x => x.1.records x.2, ?_, ?_, ?_⟩
  · rw [whole, data, images]
    refine read_sections ?_ (fun rest => ?_) fun most long => records_of_bytes ?_ ?_ ?_ []
    · rw [length_append, Number.length_bytes]
      omega
    · rw [append_assoc]
      refine items_of_heads fit few (by omega) rest ?_
      simp only [length_append, Number.length_bytes]
      omega
    · intro r mem
      have := mem_records mem
      omega
    · omega
    · rw [length_append] at long
      exact Nat.lt_of_lt_of_le (Nat.lt_add_of_pos_right (Nat.succ_pos 3)) long
  · exact shows_zipIdx Nat.one_pos [] nofun
  · exact (number?_sublist sprites 1).nodup nodup_range'

/-- Two bytes, and an image of one pixel. -/
def pair : List Sprite :=
  [.data 2 [.byte 7, .byte (-1)], .images [⟨1, 1, -1, 0, 1, 0, ⟨#[5]⟩⟩]]

theorem read_file_pair : ∃ g, pair.forM Sprite.write {} = .ok () g ∧ g.file.size < 2 ^ 32 ∧
    ∃ items records, read g.file.data.toList = some (items, records) ∧
      Forall₂ (Shows records) pair items ∧ (items.filterMap Item.number?).Nodup := by
  have fit : ∀ s ∈ pair, s.Fits :=
    forall_mem_cons.2 ⟨⟨by decide, by decide, by decide⟩, forall_mem_singleton.2 (cons_ne_nil _ _)⟩
  obtain ⟨g, run, found⟩ := read_file fit (by decide)
  have small : g.file.size < 2 ^ 32 := by
    injection run with _ state
    rw [← state]
    decide
  exact ⟨g, run, small, found small⟩

end Reading

end Grf

end NewGrf
