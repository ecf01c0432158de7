import SubnetDesk.Construction.Video.Screenshots
import SubnetDesk.Foundation.Rows

namespace SubnetDesk.PixelBuffers

def swapFirstAndThird : List UInt8 → List UInt8
  | [first, second, third, fourth] => [third, second, first, fourth]
  | bytes => bytes

/-- Every pixel of the destination is the pixel of the source with its first and third byte
swapped. -/
structure SwapsPixels (abgrToArgb : AbgrToArgb) : Prop where
  length : ∀ source stride width height destination,
    (abgrToArgb source stride width height destination).length = destination.length
  pixel : ∀ source stride width height destination,
    4 * width ≤ stride → stride * height ≤ source.length → destination.length = source.length →
    ∀ y < height, ∀ x < width,
      ((abgrToArgb source stride width height destination).drop (stride * y + 4 * x)).take 4 =
        swapFirstAndThird ((source.drop (stride * y + 4 * x)).take 4)

namespace PixelBuffer

def pixelAt (pixbuf : PixelBuffer) (x y : Nat) : List UInt8 :=
  (pixbuf.data.drop (pixbuf.stride0 * y + pixbuf.pixfmt.bytesPerPixel * x)).take
    pixbuf.pixfmt.bytesPerPixel

/-- The part of a row that holds pixels. -/
def row (pixbuf : PixelBuffer) (y : Nat) : List UInt8 :=
  (pixbuf.data.drop (pixbuf.stride0 * y)).take (pixbuf.pixfmt.bytesPerPixel * pixbuf.width)

/-- The same rows, each followed by its padding. -/
def padded (pixbuf : PixelBuffer) (padding : Nat → List UInt8) : PixelBuffer where
  data := (List.range pixbuf.height).flatMap fun y => pixbuf.row y ++ padding y
  pixfmt := pixbuf.pixfmt
  width := pixbuf.width
  height := pixbuf.height

end PixelBuffer

/-- Capturers produce these three formats, and their rows hold every pixel. -/
structure Captured (pixbuf : PixelBuffer) : Prop where
  format : pixbuf.pixfmt = .bgra ∨ pixbuf.pixfmt = .rgba ∨ pixbuf.pixfmt = .rgb565le
  width : 0 < pixbuf.width
  height : 0 < pixbuf.height
  stride : pixbuf.width * pixbuf.pixfmt.bytesPerPixel ≤ pixbuf.stride0

/-- The expansion of a packed pixel is any function. -/
def rgbaValue (expand : List UInt8 → List UInt8) : Pixfmt → List UInt8 → List UInt8
  | .bgra, bytes => swapFirstAndThird bytes
  | .rgb565le, bytes => expand bytes
  | _, bytes => bytes

structure FaithfulCapture (abgrToArgb : AbgrToArgb) (expand : List UInt8 → List UInt8)
    (pixbuf : PixelBuffer) : Prop where
  inBounds : getRgbaFromPixelbuf abgrToArgb pixbuf ≠ .error .outOfBounds
  pixels : ∀ rgba, getRgbaFromPixelbuf abgrToArgb pixbuf = .ok rgba →
    rgba.length = pixbuf.width * pixbuf.height * 4 ∧
      ∀ y < pixbuf.height, ∀ x < pixbuf.width,
        (rgba.drop (4 * (pixbuf.width * y + x))).take 4 =
          rgbaValue expand pixbuf.pixfmt (pixbuf.pixelAt x y)
  padding : ∀ (size : Nat) (padding : Nat → List UInt8), (∀ y, (padding y).length = size) →
    getRgbaFromPixelbuf abgrToArgb (pixbuf.padded padding) =
      getRgbaFromPixelbuf abgrToArgb pixbuf

section Buffers

variable {abgrToArgb : AbgrToArgb} {expand : List UInt8 → List UInt8} {pixbuf : PixelBuffer}

/-- The rows lie inside the data. -/
theorem rows_inside (pixbuf : PixelBuffer) :
    pixbuf.stride0 * pixbuf.height ≤ pixbuf.data.length :=
  Nat.div_mul_le_self pixbuf.data.length pixbuf.height

/-- Each row lies inside the data. -/
theorem row_inside {y : Nat} (below : y < pixbuf.height) :
    pixbuf.stride0 * y + pixbuf.stride0 ≤ pixbuf.data.length := by
  rw [← Nat.mul_succ]
  exact le_trans (Nat.mul_le_mul_left pixbuf.stride0 below) (rows_inside pixbuf)

theorem length_row (captured : Captured pixbuf) {y : Nat} (below : y < pixbuf.height) :
    (pixbuf.row y).length = pixbuf.pixfmt.bytesPerPixel * pixbuf.width := by
  have inside := row_inside below
  have room := captured.stride
  rw [Nat.mul_comm] at room
  rw [PixelBuffer.row, List.length_take, List.length_drop]
  omega

theorem cell_inside {size width x : Nat} (below : x < width) :
    size * x + size ≤ size * width := by
  rw [← Nat.mul_succ]
  exact Nat.mul_le_mul_left size below

/-- A pixel is a part of its row. -/
theorem row_pixel (pixbuf : PixelBuffer) {x : Nat} (y : Nat) (below : x < pixbuf.width) :
    ((pixbuf.row y).drop (pixbuf.pixfmt.bytesPerPixel * x)).take pixbuf.pixfmt.bytesPerPixel =
      pixbuf.pixelAt x y := by
  rw [PixelBuffer.row, Rows.take_drop_take (cell_inside below), List.drop_drop,
    PixelBuffer.pixelAt]

/-- A pixel has the bytes of its format. -/
theorem length_pixelAt (captured : Captured pixbuf) {x y : Nat} (column : x < pixbuf.width)
    (below : y < pixbuf.height) :
    (pixbuf.pixelAt x y).length = pixbuf.pixfmt.bytesPerPixel := by
  rw [← row_pixel pixbuf y column, List.length_take, List.length_drop, length_row captured below]
  have inside := @cell_inside pixbuf.pixfmt.bytesPerPixel _ _ column
  omega

section Padding

variable {padding : Nat → List UInt8} {size : Nat}

theorem length_paddedRow (captured : Captured pixbuf) (sizes : ∀ y, (padding y).length = size)
    {y : Nat} (below : y < pixbuf.height) :
    (pixbuf.row y ++ padding y).length =
      pixbuf.pixfmt.bytesPerPixel * pixbuf.width + size := by
  rw [List.length_append, length_row captured below, sizes]

/-- Padding adds to every row. -/
theorem length_padded (captured : Captured pixbuf) (sizes : ∀ y, (padding y).length = size) :
    (pixbuf.padded padding).data.length =
      (pixbuf.pixfmt.bytesPerPixel * pixbuf.width + size) * pixbuf.height :=
  Rows.length_blocks fun _ below => length_paddedRow captured sizes below

/-- Padding adds to the stride. -/
theorem stride0_padded (captured : Captured pixbuf) (sizes : ∀ y, (padding y).length = size) :
    (pixbuf.padded padding).stride0 = pixbuf.pixfmt.bytesPerPixel * pixbuf.width + size := by
  rw [PixelBuffer.stride0, length_padded captured sizes]
  exact Nat.mul_div_cancel _ captured.height

/-- A padded picture is a captured one. -/
theorem captured_padded (captured : Captured pixbuf) (sizes : ∀ y, (padding y).length = size) :
    Captured (pixbuf.padded padding) where
  format := captured.format
  width := captured.width
  height := captured.height
  stride := by
    rw [stride0_padded captured sizes, Nat.mul_comm]
    exact Nat.le_add_right _ size

/-- Padding changes no row. -/
theorem row_padded (captured : Captured pixbuf) (sizes : ∀ y, (padding y).length = size)
    {y : Nat} (below : y < pixbuf.height) : (pixbuf.padded padding).row y = pixbuf.row y := by
  have block := Rows.take_drop_blocks
    (fun _ below => length_paddedRow captured sizes below) below
  rw [PixelBuffer.row, stride0_padded captured sizes]
  have shorter := congrArg (List.take (pixbuf.row y).length) block
  rw [List.take_take, Nat.min_eq_left (by rw [length_row captured below]; omega),
    List.take_left, length_row captured below] at shorter
  exact shorter

/-- Padding changes no pixel. -/
theorem pixelAt_padded (captured : Captured pixbuf) (sizes : ∀ y, (padding y).length = size)
    {x y : Nat} (column : x < pixbuf.width) (below : y < pixbuf.height) :
    (pixbuf.padded padding).pixelAt x y = pixbuf.pixelAt x y := by
  rw [← row_pixel pixbuf y column, ← row_pixel (pixbuf.padded padding) y column,
    row_padded captured sizes below]
  rfl

end Padding

/-- The pixels in the order of the rows, each with its first and third byte swapped. -/
def swappedPixels (pixbuf : PixelBuffer) : List UInt8 :=
  (List.range pixbuf.height).flatMap fun y =>
    (List.range pixbuf.width).flatMap fun x => swapFirstAndThird (pixbuf.pixelAt x y)

theorem length_swap (bytes : List UInt8) : (swapFirstAndThird bytes).length = bytes.length := by
  unfold swapFirstAndThird
  split <;> rfl

/-- A swapped pixel has four bytes. -/
theorem length_swapped (captured : Captured pixbuf)
    (four : pixbuf.pixfmt.bytesPerPixel = 4) {x y : Nat} (column : x < pixbuf.width)
    (below : y < pixbuf.height) : (swapFirstAndThird (pixbuf.pixelAt x y)).length = 4 := by
  rw [length_swap, length_pixelAt captured column below, four]

theorem length_swappedRow (captured : Captured pixbuf)
    (four : pixbuf.pixfmt.bytesPerPixel = 4) {y : Nat} (below : y < pixbuf.height) :
    ((List.range pixbuf.width).flatMap fun x => swapFirstAndThird (pixbuf.pixelAt x y)).length =
      4 * pixbuf.width :=
  Rows.length_blocks fun _ column => length_swapped captured four column below

theorem length_swappedPixels (captured : Captured pixbuf)
    (four : pixbuf.pixfmt.bytesPerPixel = 4) :
    (swappedPixels pixbuf).length = 4 * (pixbuf.width * pixbuf.height) := by
  rw [swappedPixels, Rows.length_blocks fun _ below => length_swappedRow captured four below,
    Nat.mul_assoc]

theorem pixel_swappedPixels (captured : Captured pixbuf)
    (four : pixbuf.pixfmt.bytesPerPixel = 4) {x y : Nat} (column : x < pixbuf.width)
    (below : y < pixbuf.height) :
    ((swappedPixels pixbuf).drop (4 * (pixbuf.width * y + x))).take 4 =
      swapFirstAndThird (pixbuf.pixelAt x y) := by
  have line := Rows.take_drop_blocks (fun _ below => length_swappedRow captured four below) below
  have pixel := Rows.take_drop_blocks
    (fun _ column => length_swapped captured four column below) column
  rw [← line, Rows.take_drop_take (cell_inside column), List.drop_drop, Nat.mul_assoc,
    ← Nat.mul_add] at pixel
  exact pixel

/-- An image is determined by its pixels. -/
theorem eq_of_pixels {first second : List UInt8} {width height : Nat}
    (firstLength : first.length = 4 * (width * height))
    (secondLength : second.length = 4 * (width * height))
    (same : ∀ y < height, ∀ x < width, (first.drop (4 * (width * y + x))).take 4 =
      (second.drop (4 * (width * y + x))).take 4) : first = second := by
  refine Rows.eq_of_blocks (Nat.zero_lt_succ 3) firstLength secondLength ?_
  intro index below
  have positive : 0 < width := Nat.pos_of_mul_pos_right (Nat.zero_lt_of_lt below)
  have pixel := same (index / width) (Nat.div_lt_of_lt_mul below) (index % width)
    (Nat.mod_lt index positive)
  rwa [Nat.div_add_mod] at pixel

theorem swappedPixels_padded {padding : Nat → List UInt8} {size : Nat}
    (captured : Captured pixbuf) (four : pixbuf.pixfmt.bytesPerPixel = 4)
    (sizes : ∀ y, (padding y).length = size) :
    swappedPixels (pixbuf.padded padding) = swappedPixels pixbuf := by
  have widened := captured_padded captured sizes
  refine eq_of_pixels (length_swappedPixels widened four) (length_swappedPixels captured four) ?_
  intro y below x column
  refine (pixel_swappedPixels widened four column below).trans ?_
  rw [pixelAt_padded captured sizes column below]
  exact (pixel_swappedPixels captured four column below).symm

section Loop

theorem byteAt_inside {data : List UInt8} {index : Nat} (inside : index < data.length) :
    byteAt data index = .ok data[index] := by
  rw [byteAt, List.getElem?_eq_getElem inside]

/-- A byte outside the data is an error. -/
theorem byteAt_outside {data : List UInt8} {index : Nat} (outside : data.length ≤ index) :
    byteAt data index = .error .outOfBounds := by
  rw [byteAt, List.getElem?_eq_none outside]

theorem take_four {data : List UInt8} {index : Nat} (inside : index + 3 < data.length) :
    (data.drop index).take 4 =
      [data[index], data[index + 1], data[index + 2], data[index + 3]] := by
  rw [List.drop_eq_getElem_cons (by omega), List.drop_eq_getElem_cons (by omega),
    List.drop_eq_getElem_cons (by omega), List.drop_eq_getElem_cons (by omega)]
  rfl

/-- A flipped pixel swaps two bytes. -/
theorem flippedPixel_inside {data : List UInt8} {index : Nat} (inside : index + 3 < data.length) :
    flippedPixel data index = .ok (swapFirstAndThird ((data.drop index).take 4)) := by
  rw [take_four inside, flippedPixel, byteAt_inside (by omega), byteAt_inside (by omega),
    byteAt_inside (by omega), byteAt_inside inside]
  rfl

/-- A pixel outside the data is an error. -/
theorem flippedPixel_outside {data : List UInt8} {index : Nat}
    (outside : data.length ≤ index + 3) : flippedPixel data index = .error .outOfBounds := by
  unfold flippedPixel
  by_cases third : index + 2 < data.length
  · rw [byteAt_inside third, byteAt_inside (by omega), byteAt_inside (by omega),
      byteAt_outside outside]
    rfl
  · rw [byteAt_outside (by omega)]
    rfl

/-- Without padding the data is one row. -/
theorem getRgba_unpadded (unpadded : pixbuf.stride0 = pixbuf.width * 4) :
    getRgbaFromPixelbuf abgrToArgb pixbuf = convert abgrToArgb pixbuf .rgba [] := by
  rw [getRgbaFromPixelbuf]
  exact if_pos unpadded

/-- The loop of the padded branch swaps the bytes whatever the format. -/
theorem getRgba_padded (captured : Captured pixbuf)
    (four : pixbuf.pixfmt.bytesPerPixel = 4) (wider : pixbuf.stride0 ≠ pixbuf.width * 4) :
    getRgbaFromPixelbuf abgrToArgb pixbuf = .ok (swappedPixels pixbuf) := by
  rw [getRgbaFromPixelbuf]
  refine (if_neg wider).trans (Rows.foldlM_ok (List.range pixbuf.height) [] ?_)
  intro built y line
  have below := List.mem_range.1 line
  refine Rows.foldlM_ok (List.range pixbuf.width) built ?_
  intro built x cell
  have column := List.mem_range.1 cell
  have inside := row_inside below
  have room := captured.stride
  have last := @cell_inside 4 _ _ column
  rw [four] at room
  rw [flippedPixel_inside (by omega), PixelBuffer.pixelAt, four]
  rfl

/-- The last pixel of rows of two bytes a pixel is read past the end. -/
theorem getRgba_packed (captured : Captured pixbuf) (exactRows : pixbuf.stride0 = 2 * pixbuf.width)
    (wholeRows : pixbuf.data.length = pixbuf.stride0 * pixbuf.height) :
    getRgbaFromPixelbuf abgrToArgb pixbuf = .error .outOfBounds := by
  have wide := captured.width
  have high := captured.height
  rw [getRgbaFromPixelbuf]
  refine (if_neg (show pixbuf.stride0 ≠ _ by omega)).trans ?_
  have rounds (built : List UInt8) (y x : Nat) :
      (do return built ++ (← flippedPixel pixbuf.data (pixbuf.stride0 * y + 4 * x))) =
          Except.ok (built ++ swapFirstAndThird
            ((pixbuf.data.drop (pixbuf.stride0 * y + 4 * x)).take 4)) ∨
        (do return built ++ (← flippedPixel pixbuf.data (pixbuf.stride0 * y + 4 * x))) =
          Except.error Failure.outOfBounds := by
    by_cases inside : pixbuf.stride0 * y + 4 * x + 3 < pixbuf.data.length
    · exact Or.inl (by rw [flippedPixel_inside inside]; rfl)
    · exact Or.inr (by rw [flippedPixel_outside (by omega)]; rfl)
  refine Rows.foldlM_error (List.range pixbuf.height) [] (fun built y _ =>
    Rows.foldlM_ok_or_error (List.range pixbuf.width) built fun built x _ => rounds built y x)
    ⟨pixbuf.height - 1, List.mem_range.2 (by omega), fun built => ?_⟩
  refine Rows.foldlM_error (List.range pixbuf.width) built (fun built x _ => rounds built _ x)
    ⟨pixbuf.width - 1, List.mem_range.2 (by omega), fun built => ?_⟩
  have whole : pixbuf.stride0 * (pixbuf.height - 1) + pixbuf.stride0 =
      pixbuf.stride0 * pixbuf.height := by
    rw [← Nat.mul_succ]
    congr 1
    omega
  rw [flippedPixel_outside (by omega)]
  rfl

end Loop

section Conversion

/-- Such data without padding is returned as it is. -/
theorem getRgba_rgba (format : pixbuf.pixfmt = .rgba)
    (unpadded : pixbuf.stride0 = pixbuf.width * 4) :
    getRgbaFromPixelbuf abgrToArgb pixbuf = .ok pixbuf.data := by
  rw [getRgba_unpadded unpadded]
  simp [convert, format]

/-- Such data without padding is swapped. -/
theorem getRgba_bgra (format : pixbuf.pixfmt = .bgra)
    (unpadded : pixbuf.stride0 = pixbuf.width * 4) :
    getRgbaFromPixelbuf abgrToArgb pixbuf =
      .ok (abgrToArgb pixbuf.data pixbuf.stride0 pixbuf.width pixbuf.height
        (List.replicate pixbuf.data.length 0)) := by
  rw [getRgba_unpadded unpadded]
  simp [convert, format, List.rightpad]

/-- A buffer without padding in its rows has none after them either. -/
def Sized (pixbuf : PixelBuffer) : Prop :=
  pixbuf.stride0 ≠ pixbuf.width * 4 ∨ pixbuf.data.length = pixbuf.width * pixbuf.height * 4

/-- The result has every pixel swapped. -/
theorem bgra_swapped (law : SwapsPixels abgrToArgb) (captured : Captured pixbuf)
    (format : pixbuf.pixfmt = .bgra) (sized : Sized pixbuf) :
    getRgbaFromPixelbuf abgrToArgb pixbuf = .ok (swappedPixels pixbuf) := by
  have four : pixbuf.pixfmt.bytesPerPixel = 4 := by rw [format]; rfl
  cases sized with
  | inl wider => exact getRgba_padded captured four wider
  | inr whole =>
      by_cases unpadded : pixbuf.stride0 = pixbuf.width * 4
      · have zeros := List.length_replicate (n := pixbuf.data.length) (a := (0 : UInt8))
        rw [getRgba_bgra format unpadded]
        congr 1
        refine eq_of_pixels (by rw [law.length, zeros]; omega)
          (length_swappedPixels captured four) ?_
        intro y below x column
        have pixel := law.pixel pixbuf.data pixbuf.stride0 pixbuf.width pixbuf.height
          (List.replicate pixbuf.data.length 0) (by omega) (rows_inside pixbuf) zeros y below x
          column
        have place : pixbuf.stride0 * y + 4 * x = 4 * (pixbuf.width * y + x) := by
          rw [unpadded]
          ring
        rw [pixel_swappedPixels captured four column below, PixelBuffer.pixelAt, four, place]
        rw [place] at pixel
        exact pixel
      · exact getRgba_padded captured four unpadded

/-- An unpadded buffer consists of its pixels. -/
theorem pixel_data (four : pixbuf.pixfmt.bytesPerPixel = 4)
    (unpadded : pixbuf.stride0 = pixbuf.width * 4) (x y : Nat) :
    (pixbuf.data.drop (4 * (pixbuf.width * y + x))).take 4 = pixbuf.pixelAt x y := by
  have place : pixbuf.stride0 * y + 4 * x = 4 * (pixbuf.width * y + x) := by
    rw [unpadded]
    ring
  rw [PixelBuffer.pixelAt, four, place]

/-- A swap changes no gray pixel alone. -/
theorem swap_fixed_iff {bytes : List UInt8} (four : bytes.length = 4) :
    swapFirstAndThird bytes = bytes ↔ bytes[0]? = bytes[2]? := by
  match bytes, four with
  | [first, second, third, fourth], _ =>
      constructor
      · intro same
        simp only [swapFirstAndThird, List.cons.injEq] at same
        rw [← same.1]
        rfl
      · intro same
        have equal : first = third := Option.some.inj same
        rw [equal]
        rfl

/-- Swapping the first and third byte restores every pixel. -/
def Gray (pixbuf : PixelBuffer) : Prop :=
  ∀ y < pixbuf.height, ∀ x < pixbuf.width,
    (pixbuf.pixelAt x y)[0]? = (pixbuf.pixelAt x y)[2]?

/-- Gray pixels count as swapped ones. -/
theorem rgba_swapped (captured : Captured pixbuf) (format : pixbuf.pixfmt = .rgba)
    (gray : Gray pixbuf) (sized : Sized pixbuf) :
    getRgbaFromPixelbuf abgrToArgb pixbuf = .ok (swappedPixels pixbuf) := by
  have four : pixbuf.pixfmt.bytesPerPixel = 4 := by rw [format]; rfl
  by_cases unpadded : pixbuf.stride0 = pixbuf.width * 4
  · have whole := sized.resolve_left (not_not.2 unpadded)
    rw [getRgba_rgba format unpadded]
    congr 1
    refine eq_of_pixels (by omega) (length_swappedPixels captured four) ?_
    intro y below x column
    have bytes := (length_pixelAt captured column below).trans four
    rw [pixel_data four unpadded, pixel_swappedPixels captured four column below]
    exact ((swap_fixed_iff bytes).2 (gray y below x column)).symm
  · exact getRgba_padded captured four unpadded

end Conversion

section Faithful

def ByteOrder (pixbuf : PixelBuffer) : Prop :=
  pixbuf.pixfmt = .bgra ∨ pixbuf.pixfmt = .rgba ∧ Gray pixbuf

theorem ByteOrder.four (order : ByteOrder pixbuf) : pixbuf.pixfmt.bytesPerPixel = 4 := by
  cases order with
  | inl bgra => rw [bgra]; rfl
  | inr rgba => rw [rgba.1]; rfl

/-- With a known order the result is swapped. -/
theorem ByteOrder.swapped (law : SwapsPixels abgrToArgb) (captured : Captured pixbuf)
    (order : ByteOrder pixbuf) (sized : Sized pixbuf) :
    getRgbaFromPixelbuf abgrToArgb pixbuf = .ok (swappedPixels pixbuf) := by
  cases order with
  | inl bgra => exact bgra_swapped law captured bgra sized
  | inr rgba => exact rgba_swapped captured rgba.1 rgba.2 sized

/-- A swapped pixel has the value of the pixel. -/
theorem ByteOrder.value (captured : Captured pixbuf) (order : ByteOrder pixbuf) {x y : Nat}
    (column : x < pixbuf.width) (below : y < pixbuf.height) :
    swapFirstAndThird (pixbuf.pixelAt x y) =
      rgbaValue expand pixbuf.pixfmt (pixbuf.pixelAt x y) := by
  have bytes := (length_pixelAt captured column below).trans order.four
  cases order with
  | inl bgra => rw [bgra]; rfl
  | inr rgba =>
      rw [rgba.1, (swap_fixed_iff bytes).2 (rgba.2 y below x column)]
      rfl

/-- Padding keeps the order of the bytes. -/
theorem ByteOrder.padded {padding : Nat → List UInt8} {size : Nat} (captured : Captured pixbuf)
    (sizes : ∀ y, (padding y).length = size) (order : ByteOrder pixbuf) :
    ByteOrder (pixbuf.padded padding) := by
  cases order with
  | inl bgra => exact Or.inl bgra
  | inr rgba =>
      refine Or.inr ⟨rgba.1, fun y below x column => ?_⟩
      rw [pixelAt_padded captured sizes column below]
      exact rgba.2 y below x column

theorem sized_padded {padding : Nat → List UInt8} {size : Nat} (captured : Captured pixbuf)
    (sizes : ∀ y, (padding y).length = size) : Sized (pixbuf.padded padding) := by
  by_cases unpadded : (pixbuf.padded padding).stride0 = (pixbuf.padded padding).width * 4
  · refine Or.inr ?_
    rw [length_padded captured sizes, ← stride0_padded captured sizes, unpadded]
    exact Nat.mul_right_comm _ 4 _
  · exact Or.inl unpadded

/-- A result of swapped pixels is faithful. -/
theorem faithful_of_swapped (law : SwapsPixels abgrToArgb) (captured : Captured pixbuf)
    (order : ByteOrder pixbuf) (sized : Sized pixbuf) :
    FaithfulCapture abgrToArgb expand pixbuf := by
  have four := order.four
  have result := order.swapped law captured sized
  refine ⟨by rw [result]; nofun, ?_, ?_⟩
  · intro rgba returned
    rw [result] at returned
    cases returned
    refine ⟨by rw [length_swappedPixels captured four]; omega, ?_⟩
    intro y below x column
    rw [pixel_swappedPixels captured four column below, order.value captured column below]
  · intro size padding sizes
    rw [result, (order.padded captured sizes).swapped law (captured_padded captured sizes)
      (sized_padded captured sizes), swappedPixels_padded captured four sizes]

def zeroPadding (size : Nat) : Nat → List UInt8 := fun _ => List.replicate size 0

theorem length_zeroPadding (size y : Nat) : (zeroPadding size y).length = size :=
  List.length_replicate

/-- A packed format is never faithful. -/
theorem not_faithful_packed (captured : Captured pixbuf) (format : pixbuf.pixfmt = .rgb565le) :
    ¬ FaithfulCapture abgrToArgb expand pixbuf := by
  intro faithful
  have two : pixbuf.pixfmt.bytesPerPixel = 2 := by rw [format]; rfl
  have sizes := length_zeroPadding 0
  have stride := stride0_padded captured sizes
  rw [two] at stride
  have whole := length_padded captured sizes
  rw [two, ← stride] at whole
  have panics : getRgbaFromPixelbuf abgrToArgb (pixbuf.padded (zeroPadding 0)) = _ :=
    getRgba_packed (captured_padded captured sizes) stride whole
  rw [faithful.padding 0 _ sizes] at panics
  exact faithful.inBounds panics

/-- A faithful result has gray pixels. -/
theorem gray_of_values (captured : Captured pixbuf) (format : pixbuf.pixfmt = .rgba)
    (result : getRgbaFromPixelbuf abgrToArgb pixbuf = .ok (swappedPixels pixbuf))
    (faithful : FaithfulCapture abgrToArgb expand pixbuf) : Gray pixbuf := by
  intro y below x column
  have four : pixbuf.pixfmt.bytesPerPixel = 4 := by rw [format]; rfl
  have value := (faithful.pixels _ result).2 y below x column
  rw [pixel_swappedPixels captured four column below, format] at value
  exact (swap_fixed_iff ((length_pixelAt captured column below).trans four)).1 value

/-- Padding of one byte leads into the other branch. -/
theorem gray_of_padding (captured : Captured pixbuf) (format : pixbuf.pixfmt = .rgba)
    (unpadded : pixbuf.stride0 = pixbuf.width * 4)
    (faithful : FaithfulCapture abgrToArgb expand pixbuf) : Gray pixbuf := by
  intro y below x column
  have four : pixbuf.pixfmt.bytesPerPixel = 4 := by rw [format]; rfl
  have sizes := length_zeroPadding 1
  have stride := stride0_padded captured sizes
  have same := faithful.padding 1 _ sizes
  rw [getRgba_padded (captured_padded captured sizes) four
    (show _ ≠ pixbuf.width * 4 by rw [stride, four]; omega), getRgba_rgba format unpadded,
    swappedPixels_padded captured four sizes] at same
  have pixel := pixel_swappedPixels captured four column below
  rw [Except.ok.inj same, pixel_data four unpadded] at pixel
  exact (swap_fixed_iff ((length_pixelAt captured column below).trans four)).1 pixel.symm

/-- A faithful result has its size. -/
theorem sized_of_faithful (law : SwapsPixels abgrToArgb)
    (faithful : FaithfulCapture abgrToArgb expand pixbuf)
    (order : pixbuf.pixfmt = .bgra ∨ pixbuf.pixfmt = .rgba) : Sized pixbuf := by
  by_cases unpadded : pixbuf.stride0 = pixbuf.width * 4
  · refine Or.inr ?_
    cases order with
    | inl bgra =>
        have length := (faithful.pixels _ (getRgba_bgra bgra unpadded)).1
        rwa [law.length, List.length_replicate] at length
    | inr rgba => exact (faithful.pixels _ (getRgba_rgba rgba unpadded)).1
  · exact Or.inl unpadded

/-- A captured buffer is converted faithfully when its pixels survive the swap of the padded branch
and no bytes follow its rows. -/
theorem faithful_capture_iff (law : SwapsPixels abgrToArgb) (captured : Captured pixbuf) :
    FaithfulCapture abgrToArgb expand pixbuf ↔
      (pixbuf.pixfmt = .bgra ∨ pixbuf.pixfmt = .rgba ∧ ∀ y < pixbuf.height,
        ∀ x < pixbuf.width, (pixbuf.pixelAt x y)[0]? = (pixbuf.pixelAt x y)[2]?) ∧
      (pixbuf.stride0 ≠ pixbuf.width * 4 ∨
        pixbuf.data.length = pixbuf.width * pixbuf.height * 4) := by
  constructor
  · intro faithful
    obtain bgra | rgba | packed := captured.format
    · exact ⟨Or.inl bgra, sized_of_faithful law faithful (Or.inl bgra)⟩
    · refine ⟨Or.inr ⟨rgba, ?_⟩, sized_of_faithful law faithful (Or.inr rgba)⟩
      by_cases unpadded : pixbuf.stride0 = pixbuf.width * 4
      · exact gray_of_padding captured rgba unpadded faithful
      · have four : pixbuf.pixfmt.bytesPerPixel = 4 := by rw [rgba]; rfl
        exact gray_of_values captured rgba (getRgba_padded captured four unpadded) faithful
    · exact absurd faithful (not_faithful_packed captured packed)
  · rintro ⟨order, sized⟩
    exact faithful_of_swapped law captured order sized

end Faithful

end Buffers

section Routine

def swappedChannel : Nat → Nat
  | 0 => 2
  | 2 => 0
  | channel => channel

/-- Bytes outside the image keep those of the destination. -/
def swapRows : AbgrToArgb := fun source stride width height destination =>
  destination.mapIdx fun index byte =>
    let column := index % stride
    if index / stride < height ∧ column < 4 * width then
      source.getD (index - column % 4 + swappedChannel (column % 4)) byte
    else byte

/-- A swap of the rows moves two bytes. -/
theorem swapRows_byte {source destination : List UInt8} {stride width height x y channel : Nat}
    (wide : 4 * width ≤ stride) (below : y < height) (column : x < width) (small : channel < 4)
    (inside : stride * y + 4 * x + swappedChannel channel < source.length)
    (held : stride * y + 4 * x + channel < destination.length) :
    (swapRows source stride width height destination)[stride * y + 4 * x + channel]? =
      source[stride * y + 4 * x + swappedChannel channel]? := by
  have cell := @cell_inside 4 _ _ column
  have line : (stride * y + 4 * x + channel) / stride = y := by
    rw [Nat.add_assoc, Nat.mul_add_div (by omega), Nat.div_eq_of_lt (by omega), Nat.add_zero]
  have offset : (stride * y + 4 * x + channel) % stride = 4 * x + channel := by
    rw [Nat.add_assoc, Nat.mul_add_mod, Nat.mod_eq_of_lt (by omega)]
  have position : (4 * x + channel) % 4 = channel := by omega
  simp only [swapRows, List.getElem?_mapIdx, line, offset, position]
  rw [List.getElem?_eq_getElem held, Option.map_some, if_pos ⟨below, by omega⟩,
    Nat.add_sub_cancel, List.getD_eq_getElem?_getD, List.getElem?_eq_getElem inside,
    Option.getD_some]

/-- A swap of the rows swaps the pixels. -/
theorem swapsPixels_swapRows : SwapsPixels swapRows where
  length := by
    intro source stride width height destination
    exact List.length_mapIdx
  pixel := by
    intro source stride width height destination wide room same y below x column
    have cell := @cell_inside 4 _ _ column
    have line : stride * y + stride ≤ stride * height := by
      rw [← Nat.mul_succ]
      exact Nat.mul_le_mul_left stride below
    have length : (swapRows source stride width height destination).length = source.length :=
      List.length_mapIdx.trans same
    have byte (channel : Nat) (small : channel < 4) (swapped : swappedChannel channel < 4) :
        (swapRows source stride width height destination)[stride * y + 4 * x + channel]? =
          source[stride * y + 4 * x + swappedChannel channel]? :=
      swapRows_byte wide below column small (by omega) (by omega)
    have first := byte 0 (by decide) (by decide)
    have second := byte 1 (by decide) (by decide)
    have third := byte 2 (by decide) (by decide)
    have fourth := byte 3 (by decide) (by decide)
    simp only [swappedChannel, Nat.add_zero] at first second third fourth
    rw [List.getElem?_eq_getElem (by omega), List.getElem?_eq_getElem (by omega),
      Option.some.injEq] at first second third fourth
    rw [take_four (by omega), take_four (by omega), swapFirstAndThird, first, second, third, fourth]

theorem padded_bgra_faithful :
    FaithfulCapture swapRows id ⟨[3, 2, 1, 255, 0, 0, 0, 0], .bgra, 1, 1⟩ :=
  (faithful_capture_iff swapsPixels_swapRows
    ⟨Or.inl rfl, by decide, by decide, by decide⟩).2 ⟨Or.inl rfl, Or.inl (by decide)⟩

/-- A padded buffer in the order of the result is swapped, and a packed pixel is read past the
end. -/
theorem padded_rgba_swapped :
    SwapsPixels swapRows ∧
      (Captured ⟨[1, 2, 3, 255, 0, 0, 0, 0], .rgba, 1, 1⟩ ∧
        getRgbaFromPixelbuf swapRows ⟨[1, 2, 3, 255, 0, 0, 0, 0], .rgba, 1, 1⟩ =
          .ok [3, 2, 1, 255] ∧
        ¬ FaithfulCapture swapRows id ⟨[1, 2, 3, 255, 0, 0, 0, 0], .rgba, 1, 1⟩) ∧
      Captured ⟨[0, 0], .rgb565le, 1, 1⟩ ∧
        getRgbaFromPixelbuf swapRows ⟨[0, 0], .rgb565le, 1, 1⟩ = .error .outOfBounds ∧
        ¬ FaithfulCapture swapRows id ⟨[0, 0], .rgb565le, 1, 1⟩ := by
  have swapped : getRgbaFromPixelbuf swapRows ⟨[1, 2, 3, 255, 0, 0, 0, 0], .rgba, 1, 1⟩ =
      .ok [3, 2, 1, 255] := by decide
  have panics : getRgbaFromPixelbuf swapRows ⟨[0, 0], .rgb565le, 1, 1⟩ = .error .outOfBounds := by
    decide
  refine ⟨swapsPixels_swapRows,
    ⟨⟨Or.inr (Or.inl rfl), by decide, by decide, by decide⟩, swapped, fun faithful => ?_⟩,
    ⟨Or.inr (Or.inr rfl), by decide, by decide, by decide⟩, panics,
    fun faithful => faithful.inBounds panics⟩
  have pixel := (faithful.pixels _ swapped).2 0 (by decide) 0 (by decide)
  exact absurd pixel (by decide)

end Routine

end SubnetDesk.PixelBuffers
