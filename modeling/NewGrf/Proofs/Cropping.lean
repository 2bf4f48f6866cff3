import NewGrf.Sprite.Pixels

namespace NewGrf.Pixels

open Lz77 (byteAt)

/-- A byte of a pixel. -/
def pixel (data : ByteArray) (width bpp x y b : Nat) : UInt8 :=
  byteAt data ((y * width + x) * bpp + b)

def isVisible (data : ByteArray) (width info x y : Nat) : Bool :=
  pixel data width (bytesPerPixel info) x y (opacityByte info) != 0

section Bytes

variable {data a b : ByteArray} {start stop step i : Nat}

theorem byteAt_extract (inside : start + i < stop) (fits : stop ≤ data.size) :
    byteAt (data.extract start stop) i = byteAt data (start + i) := by
  have within : i < (data.extract start stop).size := by
    rw [ByteArray.size_extract]
    omega
  rw [byteAt, byteAt, dif_pos within, dif_pos (by omega), ByteArray.getElem_extract]

theorem byteAt_append_left (inside : i < a.size) : byteAt (a ++ b) i = byteAt a i := by
  have within : i < (a ++ b).size := by
    rw [ByteArray.size_append]
    omega
  rw [byteAt, byteAt, dif_pos within, dif_pos inside, ByteArray.getElem_append_left inside]

theorem byteAt_append_right (inside : i < b.size) : byteAt (a ++ b) (a.size + i) = byteAt b i := by
  have within : a.size + i < (a ++ b).size := by
    rw [ByteArray.size_append]
    omega
  rw [byteAt, byteAt, dif_pos within, dif_pos inside,
    ByteArray.getElem_append_right (Nat.le_add_right _ _)]
  simp only [Nat.add_sub_cancel_left]

/-- Parts of one length that stand one behind the other. -/
theorem joined_parts (part : Nat → ByteArray) (length n : Nat)
    (sizes : ∀ y < n, (part y).size = length) :
    ((List.range n).foldl (fun out y => out ++ part y) ByteArray.empty).size = n * length ∧
      ∀ y < n, ∀ i < length,
        byteAt ((List.range n).foldl (fun out y => out ++ part y) ByteArray.empty)
          (y * length + i) =
          byteAt (part y) i := by
  induction n with
  | zero => exact ⟨(Nat.zero_mul _).symm, fun y below => absurd below (Nat.not_lt_zero y)⟩
  | succ n ih =>
    obtain ⟨size, bytes⟩ := ih fun y below => sizes y (Nat.lt_succ_of_lt below)
    have last := sizes n (Nat.lt_succ_self n)
    rw [List.range_succ, List.foldl_append, List.foldl_cons, List.foldl_nil]
    refine ⟨by rw [ByteArray.size_append, size, last, Nat.succ_mul], fun y below i inside => ?_⟩
    obtain before | rfl := Nat.lt_succ_iff_lt_or_eq.1 below
    · have bound : (y + 1) * length ≤ n * length := Nat.mul_le_mul_right length before
      rw [byteAt_append_left (by rw [size]; rw [Nat.succ_mul] at bound; omega),
        bytes y before i inside]
    · rw [← size, byteAt_append_right (by rw [last]; exact inside)]

theorem lt_size_of_byteAt (shown : byteAt data i ≠ 0) : i < data.size := by
  rw [byteAt] at shown
  split at shown
  · assumption
  · exact absurd rfl shown

theorem anyOpaque_iff (fuel : Nat) : anyOpaque data stop step fuel i = true ↔
    ∃ k < fuel, i + k * step < stop ∧ byteAt data (i + k * step) ≠ 0 := by
  induction fuel generalizing i with
  | zero => simp [anyOpaque]
  | succ fuel ih =>
    rw [anyOpaque]
    split
    · rename_i inside
      rw [Bool.or_eq_true, bne_iff_ne, ih]
      constructor
      · rintro (own | ⟨k, below, bound, shown⟩)
        · exact ⟨0, Nat.succ_pos fuel, by simpa using inside, by simpa using own⟩
        · have next : i + (k + 1) * step = i + step + k * step := by rw [Nat.succ_mul]; omega
          exact ⟨k + 1, Nat.succ_lt_succ below, next ▸ bound, next ▸ shown⟩
      · rintro ⟨k, below, bound, shown⟩
        cases k with
        | zero => exact .inl (by simpa using shown)
        | succ k =>
          have next : i + (k + 1) * step = i + step + k * step := by rw [Nat.succ_mul]; omega
          exact .inr ⟨k, Nat.lt_of_succ_lt_succ below, next ▸ bound, next ▸ shown⟩
    · simp only [Bool.false_eq_true, false_iff, not_exists, not_and]
      intro k _ bound
      omega

theorem opaqueIn_iff (positive : 0 < step) : opaqueIn data start stop step = true ↔
    ∃ k, start + k * step < stop ∧ byteAt data (start + k * step) ≠ 0 := by
  rw [opaqueIn, anyOpaque_iff]
  constructor
  · rintro ⟨k, -, bound, shown⟩
    exact ⟨k, by omega, shown⟩
  · rintro ⟨k, bound, shown⟩
    have inside := lt_size_of_byteAt shown
    have steps : k ≤ k * step := Nat.le_mul_of_pos_right k positive
    exact ⟨k, by omega, by omega, shown⟩

end Bytes

/-- A number of lines that hold nothing visible, and no more can be taken away. -/
structure Border (visible : Nat → Bool) (most n : Nat) : Prop where
  le : n ≤ most
  empty : ∀ i < n, visible i = false
  stops : n = most ∨ visible n = true

/-- A border, if a line is visible that has a visible pixel. -/
theorem Border.pixels {visible : Nat → Bool} {most n length : Nat} {seen : Nat → Nat → Bool}
    (border : Border visible most n)
    (means : ∀ i ≤ most, visible i = true ↔ ∃ k < length, seen i k = true) :
    (∀ i < n, ∀ k < length, seen i k = false) ∧ (n = most ∨ ∃ k < length, seen n k = true) := by
  refine ⟨fun i below k inside => ?_, border.stops.imp_right (means n border.le).1⟩
  have hidden := border.empty i below
  have := border.le
  by_cases shown : seen i k = true
  · rw [(means i (by omega)).2 ⟨k, inside, shown⟩] at hidden
    cases hidden
  · exact Bool.eq_false_iff.2 shown

theorem border_emptyLines (visible : Nat → Bool) (most : Nat) :
    Border visible most (emptyLines visible most 0) := by
  -- All lines before the current one have been found empty.
  have steps (left count : Nat) (before : ∀ i < count, visible i = false) :
      Border visible (count + left) (emptyLines visible left count) := by
    induction left generalizing count with
    | zero => exact ⟨Nat.le_refl _, before, .inl rfl⟩
    | succ left ih =>
      rw [emptyLines]
      split
      · rename_i shown
        exact ⟨by omega, before, .inr shown⟩
      · rename_i hidden
        have next := ih (count + 1) fun i below => by
          obtain earlier | rfl := Nat.lt_succ_iff_lt_or_eq.1 below
          · exact before i earlier
          · exact Bool.eq_false_iff.2 hidden
        rwa [Nat.succ_add_eq_add_succ] at next
  have all := steps most 0 fun i below => absurd below (Nat.not_lt_zero i)
  rwa [Nat.zero_add] at all

section Lines

variable {data : ByteArray} {width height info x y n : Nat}

theorem opacityByte_lt (transparent : canBeTransparent info = true) :
    opacityByte info < bytesPerPixel info := by
  have split : info &&& (hasAlpha ||| hasIndex) ≠ 0 := by simpa [canBeTransparent] using transparent
  rw [Nat.and_or_distrib_left] at split
  rw [opacityByte, bytesPerPixel]
  by_cases alpha : info &&& hasAlpha = 0
  · by_cases index : info &&& hasIndex = 0
    · exact absurd (by rw [alpha, index]; rfl) split
    · simp only [alpha, index, bne_iff_ne, ne_eq, not_false_iff, not_true_eq_false, if_true,
        if_false]
      split <;> omega
  · simp only [alpha, bne_iff_ne, ne_eq, not_false_iff, if_true]
    split <;> split <;> omega

/-- The place of a byte of a pixel, by its row. -/
theorem pixel_eq (data : ByteArray) (width bpp x y b : Nat) :
    pixel data width bpp x y b = byteAt data (y * (width * bpp) + x * bpp + b) := by
  rw [pixel, Nat.add_mul, Nat.mul_assoc]

theorem isVisible_iff : isVisible data width info x y = true ↔
    byteAt data (y * (width * bytesPerPixel info) + x * bytesPerPixel info + opacityByte info) ≠
      0 := by
  rw [isVisible, pixel_eq, bne_iff_ne]

/-- A pixel of a row lies inside of it. -/
theorem pixel_lt_line {bpp b : Nat} (column : x < width) (own : b < bpp) :
    x * bpp + b < width * bpp := by
  have bound : (x + 1) * bpp ≤ width * bpp := Nat.mul_le_mul_right bpp column
  rw [Nat.succ_mul] at bound
  omega

variable (transparent : canBeTransparent info = true)

include transparent

theorem row_opaque_iff : opaqueIn data (width * bytesPerPixel info * n + opacityByte info)
      (width * bytesPerPixel info * (n + 1)) (bytesPerPixel info) = true ↔
    ∃ x < width, isVisible data width info x n = true := by
  have own := opacityByte_lt transparent
  rw [opaqueIn_iff (by omega)]
  have place (x : Nat) :
      width * bytesPerPixel info * n + opacityByte info + x * bytesPerPixel info =
      n * (width * bytesPerPixel info) + x * bytesPerPixel info + opacityByte info := by
    rw [Nat.mul_comm n]
    omega
  constructor
  · rintro ⟨x, bound, shown⟩
    rw [place] at shown
    rw [Nat.mul_succ] at bound
    exact ⟨x, Nat.lt_of_mul_lt_mul_right (a := bytesPerPixel info) (by omega),
      isVisible_iff.2 shown⟩
  · rintro ⟨x, column, shown⟩
    have inside := pixel_lt_line column own
    refine ⟨x, ?_, by rw [place]; exact isVisible_iff.1 shown⟩
    rw [Nat.mul_succ]
    omega

theorem column_opaque_iff (size : data.size = height * (width * bytesPerPixel info))
    (column : n < width) :
    opaqueIn data (n * bytesPerPixel info + opacityByte info) data.size
      (width * bytesPerPixel info) = true ↔
    ∃ y < height, isVisible data width info n y = true := by
  have own := opacityByte_lt transparent
  have inside := pixel_lt_line column own
  rw [opaqueIn_iff (by omega), size]
  have place (y : Nat) :
      n * bytesPerPixel info + opacityByte info + y * (width * bytesPerPixel info) =
      y * (width * bytesPerPixel info) + n * bytesPerPixel info + opacityByte info := by
    omega
  constructor
  · rintro ⟨y, bound, shown⟩
    rw [place] at shown
    exact ⟨y, Nat.lt_of_mul_lt_mul_right (a := width * bytesPerPixel info) (by omega),
      isVisible_iff.2 shown⟩
  · rintro ⟨y, row, shown⟩
    have bound : (y + 1) * (width * bytesPerPixel info) ≤ height * (width * bytesPerPixel info) :=
      Nat.mul_le_mul_right _ row
    rw [Nat.succ_mul] at bound
    exact ⟨y, by omega, by rw [place]; exact isVisible_iff.1 shown⟩

/-- Rows counted from below. -/
theorem last_row_opaque_iff (size : data.size = height * (width * bytesPerPixel info))
    (row : n < height) :
    opaqueIn data (data.size - width * bytesPerPixel info * (n + 1) + opacityByte info)
      (data.size - width * bytesPerPixel info * n) (bytesPerPixel info) = true ↔
    ∃ x < width, isVisible data width info x (height - 1 - n) = true := by
  have start : data.size - width * bytesPerPixel info * (n + 1) =
      width * bytesPerPixel info * (height - 1 - n) := by
    rw [size, Nat.mul_comm height, ← Nat.mul_sub]
    congr 1
    omega
  have stop : data.size - width * bytesPerPixel info * n =
      width * bytesPerPixel info * (height - 1 - n + 1) := by
    rw [size, Nat.mul_comm height, ← Nat.mul_sub]
    congr 1
    omega
  rw [start, stop, row_opaque_iff transparent]

/-- Columns counted from the right. -/
theorem last_column_opaque_iff (size : data.size = height * (width * bytesPerPixel info))
    (column : n < width) :
    opaqueIn data (width * bytesPerPixel info - (n + 1) * bytesPerPixel info + opacityByte info)
      data.size (width * bytesPerPixel info) = true ↔
    ∃ y < height, isVisible data width info (width - 1 - n) y = true := by
  have start : width * bytesPerPixel info - (n + 1) * bytesPerPixel info =
      (width - 1 - n) * bytesPerPixel info := by
    rw [← Nat.sub_mul]
    congr 1
    omega
  rw [start, column_opaque_iff transparent size (by omega)]

end Lines

section Cuts

variable {data : ByteArray} {width height bpp left right top bottom : Nat}

/-- A picture without some rows above and below. -/
theorem rows_cut (size : data.size = height * (width * bpp)) (rows : top + bottom < height) :
    (data.extract (width * bpp * top) (data.size - width * bpp * bottom)).size =
        (height - top - bottom) * (width * bpp) ∧
      ∀ x < width, ∀ y < height - top - bottom, ∀ b < bpp,
        pixel (data.extract (width * bpp * top) (data.size - width * bpp * bottom)) width bpp
          x y b =
          pixel data width bpp x (top + y) b := by
  have stop : data.size - width * bpp * bottom = width * bpp * (height - bottom) := by
    rw [size, Nat.mul_comm height, ← Nat.mul_sub]
  have fits : width * bpp * (height - bottom) ≤ data.size := by omega
  refine ⟨?_, fun x column y row b own => ?_⟩
  · rw [ByteArray.size_extract, stop, Nat.min_eq_left fits, ← Nat.mul_sub, Nat.mul_comm]
    congr 1
    omega
  · have inside := pixel_lt_line column own
    have last : width * bpp * (top + y + 1) ≤ width * bpp * (height - bottom) :=
      Nat.mul_le_mul_left _ (by omega)
    rw [Nat.mul_succ, Nat.mul_add] at last
    rw [pixel_eq, pixel_eq, stop, byteAt_extract (by rw [Nat.mul_comm y]; omega) fits, Nat.add_mul,
      Nat.mul_comm top]
    congr 1
    omega

/-- A picture without some columns on the left and on the right. -/
theorem columns_cut (size : data.size = height * (width * bpp)) (columns : left + right < width) :
    let rows := (List.range height).foldl (fun out y => out ++
      data.extract (y * (width * bpp) + left * bpp) ((y + 1) * (width * bpp) - right * bpp)) .empty
    rows.size = height * ((width - left - right) * bpp) ∧
      ∀ x < width - left - right, ∀ y < height, ∀ b < bpp,
        pixel rows (width - left - right) bpp x y b = pixel data width bpp (left + x) y b := by
  have whole : width * bpp = left * bpp + (width - left - right) * bpp + right * bpp := by
    rw [← Nat.add_mul, ← Nat.add_mul]
    congr 1
    omega
  have row (y : Nat) (below : y < height) : (y + 1) * (width * bpp) ≤ data.size := by
    rw [size]
    exact Nat.mul_le_mul_right _ below
  obtain ⟨total, bytes⟩ := joined_parts
    (fun y => data.extract (y * (width * bpp) + left * bpp) ((y + 1) * (width * bpp) - right * bpp))
    ((width - left - right) * bpp) height fun y below => by
      have := row y below
      rw [ByteArray.size_extract]
      rw [Nat.succ_mul] at this ⊢
      omega
  refine ⟨total, fun x column y below b own => ?_⟩
  have inside := pixel_lt_line column own
  have := row y below
  rw [pixel_eq, Nat.add_assoc, bytes y below _ inside, byteAt_extract ?_ (by omega), pixel_eq,
    Nat.add_mul]
  · congr 1
    omega
  · rw [Nat.succ_mul]
    omega

end Cuts

/-- What is left of a picture without its transparent borders. -/
structure Cropped (data d : ByteArray) (width height info left right top bottom : Nat) : Prop where
  columns : left + right < width
  rows : top + bottom < height
  size : d.size = (width - left - right) * (height - top - bottom) * bytesPerPixel info
  part : ∀ x < width - left - right, ∀ y < height - top - bottom, ∀ b < bytesPerPixel info,
    pixel d (width - left - right) (bytesPerPixel info) x y b =
      pixel data width (bytesPerPixel info) (left + x) (top + y) b
  hidden : ∀ x < width, ∀ y < height,
    x < left ∨ width - right ≤ x ∨ y < top ∨ height - bottom ≤ y →
      isVisible data width info x y = false
  leftEdge : width - left - right = 1 ∨
    ∃ y < height - top - bottom, isVisible d (width - left - right) info 0 y = true
  rightEdge : width - left - right = 1 ∨ ∃ y < height - top - bottom,
    isVisible d (width - left - right) info (width - left - right - 1) y = true
  topEdge : height - top - bottom = 1 ∨
    ∃ x < width - left - right, isVisible d (width - left - right) info x 0 = true
  bottomEdge : height - top - bottom = 1 ∨ ∃ x < width - left - right,
    isVisible d (width - left - right) info x (height - top - bottom - 1) = true

variable {data : ByteArray} {width height info : Nat}

/-- Visibility is that of the pixels. -/
theorem isVisible_congr {d : ByteArray} {width' x y x' y' : Nat}
    (transparent : canBeTransparent info = true)
    (same : ∀ b < bytesPerPixel info, pixel d width' (bytesPerPixel info) x' y' b =
      pixel data width (bytesPerPixel info) x y b) :
    isVisible d width' info x' y' = isVisible data width info x y := by
  rw [isVisible, isVisible, same _ (opacityByte_lt transparent)]

/-- Where all that is taken away is hidden, a visible pixel is kept. -/
theorem place_of_visible {left right top bottom x y : Nat}
    (hidden : ∀ x < width, ∀ y < height,
      x < left ∨ width - right ≤ x ∨ y < top ∨ height - bottom ≤ y →
        isVisible data width info x y = false)
    (column : x < width) (row : y < height) (shown : isVisible data width info x y = true) :
    left ≤ x ∧ x < width - right ∧ top ≤ y ∧ y < height - bottom := by
  by_cases outside : x < left ∨ width - right ≤ x ∨ y < top ∨ height - bottom ≤ y
  · rw [hidden x column y row outside] at shown
    cases shown
  · omega

/-- Borders of rows in the picture, and of columns in what they leave, make a cropped picture. -/
theorem cropped_of_borders {rest d : ByteArray} {left right top bottom : Nat}
    (transparent : canBeTransparent info = true)
    (rows : top + bottom < height) (columns : left + right < width)
    (size : d.size = (height - top - bottom) * ((width - left - right) * bytesPerPixel info))
    (lines : ∀ x < width, ∀ y < height - top - bottom, ∀ b < bytesPerPixel info,
      pixel rest width (bytesPerPixel info) x y b =
        pixel data width (bytesPerPixel info) x (top + y) b)
    (cut : ∀ x < width - left - right, ∀ y < height - top - bottom, ∀ b < bytesPerPixel info,
      pixel d (width - left - right) (bytesPerPixel info) x y b =
        pixel rest width (bytesPerPixel info) (left + x) y b)
    (above : (∀ y < top, ∀ x < width, isVisible data width info x y = false) ∧
      (top = height - 1 ∨ ∃ x < width, isVisible data width info x top = true))
    (below : (∀ y < bottom, ∀ x < width, isVisible data width info x (height - 1 - y) = false) ∧
      (bottom = height - top - 1 ∨
        ∃ x < width, isVisible data width info x (height - 1 - bottom) = true))
    (before : (∀ x < left, ∀ y < height - top - bottom, isVisible rest width info x y = false) ∧
      (left = width - 1 ∨ ∃ y < height - top - bottom, isVisible rest width info left y = true))
    (behind : (∀ x < right, ∀ y < height - top - bottom,
        isVisible rest width info (width - 1 - x) y = false) ∧
      (right = width - left - 1 ∨
        ∃ y < height - top - bottom, isVisible rest width info (width - 1 - right) y = true)) :
    Cropped data d width height info left right top bottom := by
  have inRest {x y : Nat} (column : x < width) (row : y < height - top - bottom) :
      isVisible rest width info x y = isVisible data width info x (top + y) :=
    isVisible_congr transparent (lines x column y row)
  have inside {x y : Nat} (column : x < width - left - right) (row : y < height - top - bottom) :
      isVisible d (width - left - right) info x y = isVisible rest width info (left + x) y :=
    isVisible_congr transparent (cut x column y row)
  have hidden (x : Nat) (column : x < width) (y : Nat) (row : y < height)
      (outside : x < left ∨ width - right ≤ x ∨ y < top ∨ height - bottom ≤ y) :
      isVisible data width info x y = false := by
    by_cases high : y < top
    · exact above.1 y high x column
    by_cases low : height - bottom ≤ y
    · have last := below.1 (height - 1 - y) (by omega) x column
      rwa [show height - 1 - (height - 1 - y) = y by omega] at last
    -- The row is one of the rest, where columns have been taken away.
    have row : y - top < height - top - bottom := by omega
    have same := inRest column row
    rw [show top + (y - top) = y by omega] at same
    rw [← same]
    by_cases early : x < left
    · exact before.1 x early _ row
    · have last := behind.1 (width - 1 - x) (by omega) _ row
      rwa [show width - 1 - (width - 1 - x) = x by omega] at last
  have stays {x y : Nat} (column : x < width) (row : y < height)
      (shown : isVisible data width info x y = true) : x - left < width - left - right ∧
      isVisible d (width - left - right) info (x - left) (y - top) = true := by
    have place := place_of_visible hidden column row shown
    refine ⟨by omega, ?_⟩
    rw [inside (by omega) (by omega), inRest (by omega) (by omega),
      show left + (x - left) = x by omega, show top + (y - top) = y by omega]
    exact shown
  refine ⟨columns, rows, ?_, fun x column y row b own => ?_, hidden, ?_, ?_, ?_, ?_⟩
  · rw [size, Nat.mul_left_comm, Nat.mul_assoc]
  · rw [cut x column y row b own, lines _ (by omega) y row b own]
  · refine before.2.imp (fun all => by omega) fun ⟨y, row, shown⟩ => ⟨y, row, ?_⟩
    rw [inside (by omega) row]
    exact shown
  · refine behind.2.imp (fun all => by omega) fun ⟨y, row, shown⟩ => ⟨y, row, ?_⟩
    rw [inside (by omega) row, show left + (width - left - right - 1) = width - 1 - right by omega]
    exact shown
  · refine above.2.imp (fun all => by omega) fun ⟨x, column, shown⟩ => ⟨x - left, ?_⟩
    have shows := stays column (by omega) shown
    rwa [Nat.sub_self] at shows
  · refine below.2.imp (fun all => by omega) fun ⟨x, column, shown⟩ => ⟨x - left, ?_⟩
    have shows := stays column (by omega) shown
    rwa [show height - 1 - bottom - top = height - top - bottom - 1 by omega] at shows

/-- Cropping a picture that can be transparent. -/
theorem crop_cropped (wide : 1 ≤ width) (high : 1 ≤ height)
    (transparent : canBeTransparent info = true)
    (size : data.size = height * (width * bytesPerPixel info)) :
    ∃ (d : ByteArray) (left right top bottom : Nat),
      crop data width height info = (d, { left, right, top, bottom }) ∧
      Cropped data d width height info left right top bottom := by
  unfold crop
  rw [transparent]
  simp only [Bool.not_true, Bool.false_eq_true, if_false]
  have above := border_emptyLines (fun n => opaqueIn data
    (width * bytesPerPixel info * n + opacityByte info)
    (width * bytesPerPixel info * (n + 1)) (bytesPerPixel info)) (height - 1)
  generalize emptyLines _ (height - 1) 0 = top at above ⊢
  have below := border_emptyLines (fun n => opaqueIn data
    (data.size - width * bytesPerPixel info * (n + 1) + opacityByte info)
    (data.size - width * bytesPerPixel info * n) (bytesPerPixel info)) (height - top - 1)
  generalize emptyLines _ (height - top - 1) 0 = bottom at below ⊢
  have rows : top + bottom < height := by
    have := above.le
    have := below.le
    omega
  obtain ⟨sizeRest, lines⟩ := rows_cut size rows
  generalize data.extract (width * bytesPerPixel info * top)
    (data.size - width * bytesPerPixel info * bottom) = rest at sizeRest lines ⊢
  have before := border_emptyLines (fun n => opaqueIn rest
    (n * bytesPerPixel info + opacityByte info) rest.size (width * bytesPerPixel info)) (width - 1)
  generalize emptyLines _ (width - 1) 0 = left at before ⊢
  have behind := border_emptyLines (fun n => opaqueIn rest
    (width * bytesPerPixel info - (n + 1) * bytesPerPixel info + opacityByte info) rest.size
    (width * bytesPerPixel info)) (width - left - 1)
  generalize emptyLines _ (width - left - 1) 0 = right at behind ⊢
  have columns : left + right < width := by
    have := before.le
    have := behind.le
    omega
  have cropped {d : ByteArray} (total cut) :
      Cropped data d width height info left right top bottom :=
    cropped_of_borders transparent rows columns total lines cut
      (above.pixels fun i _ => row_opaque_iff transparent)
      (below.pixels fun i _ => last_row_opaque_iff transparent size (by omega))
      (before.pixels fun i _ => column_opaque_iff transparent sizeRest (by omega))
      (behind.pixels fun i _ => last_column_opaque_iff transparent sizeRest (by omega))
  by_cases none : left + right = 0
  · obtain ⟨rfl, rfl⟩ : left = 0 ∧ right = 0 := by omega
    refine ⟨rest, 0, 0, top, bottom, rfl, cropped sizeRest fun x _ y _ b _ => ?_⟩
    rw [Nat.zero_add]
    rfl
  · obtain ⟨total, bytes⟩ := columns_cut sizeRest columns
    rw [if_neg (by simpa using none)]
    exact ⟨_, left, right, top, bottom, rfl, cropped total bytes⟩

/-- Cropping takes the transparent border away and nothing else. With the offsets that go with it,
every visible pixel stays at its place. -/
theorem crop_removes_invisible_border (wide : 1 ≤ width) (high : 1 ≤ height)
    (transparent : canBeTransparent info = true)
    (size : data.size = width * height * bytesPerPixel info) (xrel yrel : Int) :
    ∃ (d : ByteArray) (left right top bottom : Nat),
      crop data width height info = (d, { left, right, top, bottom }) ∧
      Cropped data d width height info left right top bottom ∧
      ∃ xrel' yrel', Margins.apply { left, right, top, bottom } width height xrel yrel =
          (((width - left - right : Nat) : Int), ((height - top - bottom : Nat) : Int), xrel',
            yrel') ∧
        ∀ x < width, ∀ y < height, isVisible data width info x y = true →
          ∃ x' < width - left - right, ∃ y' < height - top - bottom,
            (∀ b < bytesPerPixel info, pixel d (width - left - right) (bytesPerPixel info) x' y' b =
              pixel data width (bytesPerPixel info) x y b) ∧
            x' + xrel' = x + xrel ∧ y' + yrel' = y + yrel := by
  obtain ⟨d, left, right, top, bottom, made, cropped⟩ := crop_cropped wide high transparent
    (by rw [size, Nat.mul_comm width, Nat.mul_assoc])
  have columns := cropped.columns
  have rows := cropped.rows
  refine ⟨d, left, right, top, bottom, made, cropped, xrel + left, yrel + top, ?_, ?_⟩
  · simp only [Margins.apply, Prod.mk.injEq, and_true]
    omega
  · intro x column y row shown
    have place := place_of_visible cropped.hidden column row shown
    refine ⟨x - left, by omega, y - top, by omega, fun b own => ?_, by omega, by omega⟩
    rw [cropped.part _ (by omega) _ (by omega) b own, Nat.add_sub_cancel' place.1,
      Nat.add_sub_cancel' place.2.2.1]

/-- Of three by three pixels with colours and opacity, one is visible. -/
theorem single_pixel_cropped :
    let hidden : List UInt8 := [9, 9, 9, 0]
    let data := ByteArray.mk
      (((List.replicate 5 hidden).flatten ++ [1, 2, 3, 4] ++
        (List.replicate 3 hidden).flatten).toArray)
    crop data 3 3 (hasRgb ||| hasAlpha) =
      (⟨#[1, 2, 3, 4]⟩, { left := 2, right := 0, top := 1, bottom := 1 }) ∧
    Cropped data ⟨#[1, 2, 3, 4]⟩ 3 3 (hasRgb ||| hasAlpha) 2 0 1 1 := by
  intro hidden data
  have known : crop data 3 3 (hasRgb ||| hasAlpha) =
      (⟨#[1, 2, 3, 4]⟩, { left := 2, right := 0, top := 1, bottom := 1 }) := by decide +kernel
  obtain ⟨d, left, right, top, bottom, made, cropped, -⟩ :=
    @crop_removes_invisible_border data 3 3 (hasRgb ||| hasAlpha) (by decide) (by decide)
      (by decide) (by decide) 0 0
  simp only [known, Prod.mk.injEq, Margins.mk.injEq] at made
  obtain ⟨rfl, rfl, rfl, rfl, rfl⟩ : ⟨#[1, 2, 3, 4]⟩ = d ∧ 2 = left ∧ 0 = right ∧ 1 = top ∧
      1 = bottom := ⟨made.1, by omega, by omega, by omega, by omega⟩
  exact ⟨known, cropped⟩

end NewGrf.Pixels
