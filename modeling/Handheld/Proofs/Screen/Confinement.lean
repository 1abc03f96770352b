import Handheld.Device
import Handheld.Proofs.Screen.BitmapRows
import Handheld.Proofs.Screen.Clipping

namespace Handheld

/-!
# Drawing stays inside its bitmap

Pixels are written without a check, and a window of memory does not guard its
end, so it is up to every drawing call to keep what it draws on the screen. Lines,
ovals and points cut each span to it, rectangles paint their rows as they come,
since their corners are cut before, and images are cut by their plan. This module
shows that all of them are right to do so: outside the bitmap that is drawn on,
memory stays as it was. Showing the buffer changes the graphics bitmap only, and
makes it equal to the buffer.
-/

namespace Ram

/-- An address names the same byte as its place in the address space. -/
theorem byte_mod
    (ram : Ram)
    (address : Nat) :
    ram.byte (address % capacity) = ram.byte address := by
  simp only [byte, Nat.mod_mod]

end Ram

/-- Both bitmaps lie in memory. -/
theorem Target.base_le (target : Target) : target.base + Screen.bitmapBytes ≤ Ram.capacity := by
  cases target <;> decide

/-- The byte of a pixel on the screen lies in the bitmap. -/
theorem Screen.pixelAddress_bounds
    (base : Nat)
    {x y : Nat}
    (insideX : x < Screen.width)
    (insideY : y < Screen.height) :
    base ≤ pixelAddress base x y ∧ pixelAddress base x y < base + bitmapBytes := by
  unfold pixelAddress width height rowBytes bitmapBytes at *
  omega

namespace Ram

section Shapes

variable {base : Nat} (fits : base + Screen.bitmapBytes ≤ capacity) (mode : ShapeMode)

include fits

/-- A pixel of the screen lies in its bitmap. -/
theorem sameOutside_paintPixel
    (ram : Ram)
    {x y : Nat}
    (insideX : x < Screen.width)
    (insideY : y < Screen.height) :
    SameOutside base Screen.bitmapBytes ram (ram.paintPixel base mode x y) := by
  obtain ⟨above, below⟩ := Screen.pixelAddress_bounds base insideX insideY
  rw [paintPixel_natCast]
  exact sameOutside_setByte ram _ fits above below

/-- A run of pixels on the screen lies in its bitmap. -/
theorem sameOutside_paintRun
    (ram : Ram)
    {x y count : Nat}
    (insideX : x + count ≤ Screen.width)
    (insideY : y < Screen.height) :
    SameOutside base Screen.bitmapBytes ram (ram.paintRun base mode x y count) := by
  induction count generalizing ram x with
  | zero => exact .refl _ _ ram
  | succ rest inductionHypothesis =>
      have first := sameOutside_paintPixel fits mode ram (x := x) (by omega) insideY
      exact first.trans (@inductionHypothesis _ (x + 1) (by omega))

/-- Painting a span without a check is harmless only if the span is on the screen. -/
theorem sameOutside_paintUncut
    (ram : Ram)
    {span : Span}
    (onScreen : span.OnScreen) :
    SameOutside base Screen.bitmapBytes ram (ram.paintUncut base mode span) := by
  obtain ⟨x, y, count, insideX, insideY, run, -⟩ := onScreen.exists_run
  rw [run]
  exact sameOutside_paintRun fits mode ram insideX insideY

/-- Spans that lie on the screen need not be cut to stay in the bitmap. -/
theorem sameOutside_paintAllUncut
    (ram : Ram)
    {spans : Array Span}
    (onScreen : ∀ span ∈ spans.toList, span.OnScreen) :
    SameOutside base Screen.bitmapBytes ram (ram.paintAllUncut base mode spans) := by
  unfold paintAllUncut
  rw [← Array.foldl_toList]
  generalize spans.toList = list at onScreen
  induction list generalizing ram with
  | nil => exact .refl _ _ ram
  | cons span rest inductionHypothesis =>
      have first := sameOutside_paintUncut fits mode ram (onScreen span List.mem_cons_self)
      exact first.trans (inductionHypothesis _ fun later member =>
        onScreen later (List.mem_cons_of_mem span member))

/-- What is left of a span after cutting is on the screen. -/
theorem sameOutside_paintSpan
    (ram : Ram)
    (span : Span) :
    SameOutside base Screen.bitmapBytes ram (ram.paintSpan base mode span) := by
  unfold paintSpan
  split
  · rename_i cut made
    exact sameOutside_paintUncut fits mode ram (Span.onScreen_of_cut? made)
  · exact .refl _ _ ram

/-- Spans that are cut stay in the bitmap, wherever they lie. -/
theorem sameOutside_paint
    (ram : Ram)
    (spans : Array Span) :
    SameOutside base Screen.bitmapBytes ram (ram.paint base mode spans) := by
  unfold paint
  rw [← Array.foldl_toList]
  induction spans.toList generalizing ram with
  | nil => exact .refl _ _ ram
  | cons span rest inductionHypothesis =>
      exact (sameOutside_paintSpan fits mode ram span).trans (inductionHypothesis _)

end Shapes

section Blocks

variable {base : Nat} (fits : base + Screen.bitmapBytes ≤ capacity) (mode : BlitMode)

include fits

/-- A row of bytes is combined into the bytes that are kept apart for it. -/
theorem sameOutside_blitBytes
    (ram : Ram)
    {address : Nat}
    {sources keeps : List UInt8}
    (above : base ≤ address)
    (below : address + keeps.length ≤ base + Screen.bitmapBytes) :
    SameOutside base Screen.bitmapBytes ram (ram.blitBytes mode address sources keeps) := by
  induction keeps generalizing ram address sources with
  | nil =>
      cases sources with
      | nil => exact .refl _ _ ram
      | cons source sources => exact .refl _ _ ram
  | cons kept keeps inductionHypothesis =>
      cases sources with
      | nil => exact .refl _ _ ram
      | cons source sources =>
          rw [List.length_cons] at below
          have first := sameOutside_setByte ram
            ((ram.byte address &&& kept) |||
              (mode.combine source (ram.byte address) &&& ~~~kept))
            fits above (by omega)
          exact first.trans (inductionHypothesis _ (by omega) (by omega))

/-- Rows of bytes that lie on the screen change its bitmap only. -/
theorem sameOutside_blitRows
    (ram : Ram)
    (source : ImageSource)
    (plan : BlitPlan)
    {imageAddress top column rows : Nat}
    (insideY : top + rows ≤ Screen.height)
    (insideX : column + plan.kept.length ≤ Screen.rowBytes) :
    SameOutside base Screen.bitmapBytes ram
      (ram.blitRows source mode plan imageAddress
        (base + (top * Screen.rowBytes + column)) rows) := by
  induction rows generalizing ram imageAddress top with
  | zero => exact .refl _ _ ram
  | succ rest inductionHypothesis =>
      have next :
          base + (top * Screen.rowBytes + column) + Screen.rowBytes =
            base + ((top + 1) * Screen.rowBytes + column) := by
        rw [Nat.add_mul]
        omega
      have lastByte : top * Screen.rowBytes + Screen.rowBytes ≤ Screen.bitmapBytes := by
        unfold Screen.rowBytes Screen.bitmapBytes Screen.height at *
        omega
      rw [blitRows, next]
      refine SameOutside.trans ?_ (inductionHypothesis _ (by omega))
      exact sameOutside_blitBytes fits mode ram (by omega) (by omega)

/-- An image is cut to the screen. -/
theorem sameOutside_blit
    (ram : Ram)
    (x y width height : Int)
    (source : ImageSource)
    (address : Nat) :
    SameOutside base Screen.bitmapBytes ram
      (ram.blit base x y width height source address mode) := by
  unfold blit
  split
  · exact .refl _ _ ram
  · rename_i plan made
    obtain ⟨left, top, cutLeft, cutTop, shown, cuts⟩ := BlitPlan.exists_cuts made
    rw [cuts.offset]
    exact sameOutside_blitRows fits mode ram source plan cuts.bottom_le cuts.column_le

/-- Text changes the bitmap only, wherever it is put. -/
theorem sameOutside_drawText
    (ram : Ram)
    (x y : Int)
    (table : FontTable)
    (address length : Nat)
    (size : FontSize) :
    SameOutside base Screen.bitmapBytes ram
      (ram.drawText base x y table address size mode length) := by
  fun_induction drawText ram base x y table address size mode length with
  | case1 => exact .refl _ _ _
  | case2 ram x address => exact sameOutside_blit fits mode ram _ _ _ _ _ _
  | case3 ram x address length lead single inductionHypothesis =>
      exact (sameOutside_blit fits mode ram _ _ _ _ _ _).trans inductionHypothesis
  | case4 ram x address length lead double code inductionHypothesis =>
      exact (sameOutside_blit fits mode ram _ _ _ _ _ _).trans inductionHypothesis

end Blocks

end Ram

namespace Ram

/-- Putting back all rows writes the bitmap only. -/
theorem sameOutside_setBitmapRows
    {base : Nat}
    (fits : base + Screen.bitmapBytes ≤ capacity)
    (ram : Ram)
    {rows : List (List UInt8)}
    (tall : rows.length = Screen.height)
    (wide : ∀ row ∈ rows, row.length = Screen.rowBytes) :
    SameOutside base Screen.bitmapBytes ram (ram.setBitmapRows base rows) :=
  sameOutside_write ram fits (Nat.le_of_eq (length_flatten_rows tall wide))

/-- Scrolling moves bits inside the bitmap. -/
theorem sameOutside_scrollBitmap
    {base : Nat}
    (fits : base + Screen.bitmapBytes ≤ capacity)
    (ram : Ram)
    (direction : ScrollDirection) :
    SameOutside base Screen.bitmapBytes ram (ram.scrollBitmap base direction) := by
  have moved :
      ∀ count, ∀ row ∈ (ram.bitmapRows base).map (Bits.shift count),
        row.length = Screen.rowBytes := by
    intro count row member
    obtain ⟨before, there, rfl⟩ := List.mem_map.mp member
    rw [Bits.length_shift, length_of_mem_bitmapRows there]
  rw [scrollBitmap_eq ram fits]
  exact sameOutside_setBitmapRows fits ram (by rw [List.length_map, length_bitmapRows]) (moved _)

/-- Mirroring moves bits inside the bitmap. -/
theorem sameOutside_mirrorBitmap
    {base : Nat}
    (fits : base + Screen.bitmapBytes ≤ capacity)
    (ram : Ram)
    (direction : MirrorDirection) :
    SameOutside base Screen.bitmapBytes ram (ram.mirrorBitmap base direction) := by
  rw [mirrorBitmap_eq ram fits]
  cases direction with
  | horizontal =>
      apply sameOutside_setBitmapRows fits ram
      · rw [List.length_map, length_bitmapRows]
      · intro row member
        obtain ⟨before, there, rfl⟩ := List.mem_map.mp member
        rw [List.length_map, List.length_reverse, length_of_mem_bitmapRows there]
  | vertical =>
      apply sameOutside_setBitmapRows fits ram
      · rw [List.length_reverse, length_bitmapRows]
      · intro row member
        exact length_of_mem_bitmapRows (List.mem_reverse.mp member)

/-- Clearing fills the bitmap only. -/
theorem sameOutside_clearBitmap
    {base : Nat}
    (fits : base + Screen.bitmapBytes ≤ capacity)
    (ram : Ram) :
    SameOutside base Screen.bitmapBytes ram (ram.clearBitmap base) := by
  unfold clearBitmap
  rw [fill_eq_write]
  exact sameOutside_write ram fits (Nat.le_of_eq List.length_replicate)

/-- The graphics bitmap lies below the buffer, so each byte is read before it could change. -/
theorem byte_refreshGraphics
    (ram : Ram)
    {read : Nat}
    (inside : read < capacity) :
    ram.refreshGraphics.byte read =
      if Target.graphics.base ≤ read ∧ read < Target.graphics.base + Screen.bitmapBytes then
        ram.byte (Target.buffer.base + (read - Target.graphics.base))
      else
        ram.byte read :=
  ram.byte_copyForward (by decide) Target.buffer.base_le inside

/-- Showing the buffer writes the graphics bitmap only. -/
theorem sameOutside_refreshGraphics (ram : Ram) :
    SameOutside Target.graphics.base Screen.bitmapBytes ram ram.refreshGraphics := by
  intro read inside outside
  rw [ram.byte_refreshGraphics inside, if_neg (by omega)]

/-- After a refresh the graphics bitmap shows what the buffer holds. -/
theorem bytes_refreshGraphics (ram : Ram) :
    ram.refreshGraphics.bytes Target.graphics.base Screen.bitmapBytes =
      ram.bytes Target.buffer.base Screen.bitmapBytes := by
  have fits := Target.graphics.base_le
  apply List.ext_getElem?
  intro index
  by_cases near : index < Screen.bitmapBytes
  · rw [getElem?_bytes near, getElem?_bytes near, ram.byte_refreshGraphics (by omega),
      if_pos (by omega), Nat.add_sub_cancel_left]
  · rw [List.getElem?_eq_none (by rw [length_bytes]; omega),
      List.getElem?_eq_none (by rw [length_bytes]; omega)]

end Ram

/-- The calls that draw on the target, as all do but saving a block and showing the buffer. -/
def Drawing.drawsOnTarget : Drawing → Bool
  | .save .. | .refresh => false
  | _ => true

/-- What is drawn stays inside the bitmap that it is drawn on. -/
theorem Drawing.sameOutside_paint
    {drawing : Drawing}
    (draws : drawing.drawsOnTarget = true)
    (target : Target)
    (table : FontTable)
    (ram : Ram) :
    Ram.SameOutside target.base Screen.bitmapBytes ram (drawing.paint target table ram) := by
  have fits := target.base_le
  cases drawing with
  | clear => exact Ram.sameOutside_clearBitmap fits ram
  | block => exact Ram.sameOutside_blit fits _ ram _ _ _ _ _ _
  | text => exact Ram.sameOutside_drawText fits _ ram _ _ _ _ _ _
  | rectangle =>
      exact Ram.sameOutside_paintAllUncut fits _ ram fun span member =>
        Rectangle.onScreen_of_mem_spans member
  | line => exact Ram.sameOutside_paint fits _ ram _
  | oval => exact Ram.sameOutside_paint fits _ ram _
  | point => exact Ram.sameOutside_paintSpan fits _ ram _
  | scroll direction => exact Ram.sameOutside_scrollBitmap fits ram direction
  | mirror direction => exact Ram.sameOutside_mirrorBitmap fits ram direction
  | save => cases draws
  | refresh => cases draws

namespace Device

/-- Choose a bitmap and draw on it. -/
def drawOn
    (device : Device)
    (call : Target × Drawing) :
    Device :=
  (device.setTarget call.1).draw call.2

/-- Drawing does not exchange the screen. -/
theorem screen_drawOn
    (device : Device)
    (call : Target × Drawing) :
    (device.drawOn call).screen = device.screen := by
  unfold drawOn draw
  split
  · rfl
  · rfl

/-- What a painted screen draws is what the drawing paints. -/
theorem ram_drawOn
    {device : Device}
    {table : FontTable}
    (painted : device.screen = .painted table)
    (call : Target × Drawing) :
    (device.drawOn call).ram = call.2.paint call.1 table device.ram := by
  have painting : (device.setTarget call.1).screen = .painted table := painted
  unfold drawOn draw
  rw [painting]
  rfl

/-- Calls that draw on the buffer leave all memory outside of it alone. -/
theorem sameOutside_drawOn_buffer
    {device : Device}
    {table : FontTable}
    (painted : device.screen = .painted table)
    {calls : List (Target × Drawing)}
    (onBuffer : ∀ call ∈ calls, call.1 = .buffer ∧ call.2.drawsOnTarget = true) :
    Ram.SameOutside Target.buffer.base Screen.bitmapBytes
      device.ram (calls.foldl drawOn device).ram := by
  induction calls generalizing device with
  | nil => exact .refl _ _ _
  | cons call rest inductionHypothesis =>
      obtain ⟨target, draws⟩ := onBuffer call List.mem_cons_self
      have first := call.2.sameOutside_paint draws call.1 table device.ram
      rw [← ram_drawOn painted call, target] at first
      have others := inductionHypothesis ((device.screen_drawOn call).trans painted)
        fun later member => onBuffer later (List.mem_cons_of_mem call member)
      exact first.trans others

/--
On a painted screen every drawing call changes the bitmap it draws on and
nothing else in memory. Showing the buffer changes the graphics bitmap alone,
which then equals the buffer. So the graphics bitmap stays as it is while all
calls draw on the buffer.
-/
theorem drawing_stays_inside
    (device : Device)
    (table : FontTable)
    (painted : device.screen = .painted table) :
    (∀ target drawing,
      drawing.drawsOnTarget = true →
      Ram.SameOutside target.base Screen.bitmapBytes
        device.ram (device.drawOn (target, drawing)).ram) ∧
    (∀ target,
      Ram.SameOutside Target.graphics.base Screen.bitmapBytes
          device.ram (device.drawOn (target, .refresh)).ram ∧
        (device.drawOn (target, .refresh)).ram.bytes Target.graphics.base Screen.bitmapBytes =
          (device.drawOn (target, .refresh)).ram.bytes Target.buffer.base Screen.bitmapBytes) ∧
    (∀ calls : List (Target × Drawing),
      (∀ call ∈ calls, call.1 = .buffer ∧ call.2.drawsOnTarget = true) →
      (calls.foldl drawOn device).ram.bytes Target.graphics.base Screen.bitmapBytes =
        device.ram.bytes Target.graphics.base Screen.bitmapBytes) := by
  refine ⟨?_, ?_, ?_⟩
  · intro target drawing draws
    rw [ram_drawOn painted]
    exact drawing.sameOutside_paint draws target table device.ram
  · intro target
    have frame := device.ram.sameOutside_refreshGraphics
    rw [ram_drawOn painted]
    refine ⟨frame, ?_⟩
    calc
      device.ram.refreshGraphics.bytes Target.graphics.base Screen.bitmapBytes
        = device.ram.bytes Target.buffer.base Screen.bitmapBytes :=
          device.ram.bytes_refreshGraphics
      _ = device.ram.refreshGraphics.bytes Target.buffer.base Screen.bitmapBytes :=
          (frame.bytes_eq Target.buffer.base_le (.inr (by decide))).symm
  · intro calls onBuffer
    exact (sameOutside_drawOn_buffer painted onBuffer).bytes_eq
      Target.graphics.base_le (.inl (by decide))

/-- Shapes that reach over all edges of the buffer do not show before a refresh. -/
theorem overreaching_shapes_hidden :
    let device : Device := {}
    let calls := [
      (Target.buffer, Drawing.rectangle 200 90 (-5) (-7) true .invert),
      (Target.buffer, Drawing.oval 80 40 (-300) 200 true .set),
      (Target.buffer, Drawing.block 155 75 16 16 0 { combination := .complement })
    ]
    device.screen = .painted FontTable.blank ∧
      (∀ call ∈ calls, call.1 = .buffer ∧ call.2.drawsOnTarget = true) ∧
      (calls.foldl drawOn device).ram.bytes Target.graphics.base Screen.bitmapBytes =
        device.ram.bytes Target.graphics.base Screen.bitmapBytes :=
  ⟨rfl, by decide, (drawing_stays_inside {} FontTable.blank rfl).2.2 _ (by decide)⟩

end Device

end Handheld
