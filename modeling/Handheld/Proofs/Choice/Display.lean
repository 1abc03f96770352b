import Handheld.Machine.Chooser
import Handheld.Proofs.Screen.Rectangles
import Handheld.Proofs.Text.CursorBounds
import Handheld.Proofs.Text.ShortLines

namespace Handheld

/-!
# What a choice shows

A page of entries is written into the rows of the text, one entry a row, and a
band of the screen is inverted. While the highlight stands inside the entries,
the band is the row in which the highlighted entry was written. As long as no
entry on the page holds a line feed, every row shows its entry and the band shows
the highlighted one inverted.
-/

/-- Whether text calls change the grid in memory. -/
def TextPanel.isGrid : TextPanel → Bool
  | .grid _ => true
  | .recorded _ => false

/-- A panel that is a grid has one. -/
theorem TextPanel.exists_grid
    {text : TextPanel}
    (isGrid : text.isGrid = true) :
    ∃ grid, text = .grid grid := by
  cases text with
  | grid grid => exact ⟨grid, rfl⟩
  | recorded size => cases isGrid

namespace Device

/-- The parts of a device that showing something leaves alone. -/
structure Kept (before after : Device) : Prop where
  screen : after.screen = before.screen
  keyboard : after.keyboard = before.keyboard
  text : after.text.isGrid = before.text.isGrid

namespace Kept

/-- A device keeps what it has. -/
theorem refl (device : Device) : Kept device device :=
  ⟨rfl, rfl, rfl⟩

/-- What is kept twice is kept. -/
theorem trans
    {before middle after : Device}
    (earlier : Kept before middle)
    (later : Kept middle after) :
    Kept before after :=
  ⟨later.screen.trans earlier.screen, later.keyboard.trans earlier.keyboard,
    later.text.trans earlier.text⟩

variable (device : Device)

/-- Noting a line in the log keeps the device. -/
theorem record (line : String) : Kept device (device.record line) :=
  ⟨rfl, rfl, rfl⟩

/-- A grid may be replaced by another one, and memory may change with it. -/
theorem onGrid
    {device : Device}
    {grid : TextGrid}
    (gridded : device.text = .grid grid)
    (changed : TextGrid)
    (ram : Ram) :
    Kept device { device with text := .grid changed, ram := ram } :=
  ⟨rfl, rfl, by rw [gridded]; rfl⟩

/-- The font size is not among what is kept, and nothing else changes with it. -/
theorem setFontSize (size : FontSize) : Kept device (device.setFontSize size) := by
  unfold Device.setFontSize
  split
  case h_1 grid gridded => exact onGrid gridded _ device.ram
  case h_2 shown recorded => exact ⟨rfl, rfl, by rw [recorded]; rfl⟩

/-- Clearing the text keeps the device. -/
theorem resetText : Kept device device.resetText := by
  unfold Device.resetText
  split
  case h_1 grid gridded => exact onGrid gridded _ _
  case h_2 => exact refl device

/-- Writing text keeps the device. -/
theorem addBytes (bytes : List UInt8) : Kept device (device.addBytes bytes) := by
  unfold Device.addBytes
  split
  case h_1 grid gridded => exact onGrid gridded _ _
  case h_2 => exact record device _

/-- Moving the cursor keeps the device. -/
theorem locate (row column : Word) : Kept device (device.locate row column) := by
  unfold Device.locate
  split
  case h_1 grid gridded => exact onGrid gridded _ device.ram
  case h_2 => exact record device _

/-- Drawing changes memory alone. -/
theorem draw (drawing : Drawing) : Kept device (device.draw drawing) := by
  unfold Device.draw
  split
  · exact ⟨rfl, rfl, rfl⟩
  · exact record device _

theorem setTarget (target : Target) : Kept device (device.setTarget target) :=
  ⟨rfl, rfl, rfl⟩

/-- Any number of drawings change memory alone. -/
theorem foldl_draw (drawings : List Drawing) : Kept device (drawings.foldl Device.draw device) := by
  induction drawings generalizing device with
  | nil => exact refl device
  | cons first rest inductionHypothesis =>
      exact (draw device first).trans (inductionHypothesis (device.draw first))

/-- Showing the text keeps the device. -/
theorem renderText (mask : Word) : Kept device (device.renderText mask) := by
  unfold Device.renderText
  split
  · exact (setTarget device .graphics).trans (foldl_draw _ _)
  · exact record device _

end Kept

/-- Drawing changes no memory outside the bitmap that it draws on. -/
theorem sameOutside_draw
    (device : Device)
    {drawing : Drawing}
    (draws : drawing.drawsOnTarget = true) :
    Ram.SameOutside device.target.base Screen.bitmapBytes device.ram (device.draw drawing).ram := by
  unfold Device.draw
  split
  · exact drawing.sameOutside_paint draws device.target _ device.ram
  · exact .refl _ _ _

/-- Drawings on the target leave memory outside its bitmap alone. -/
theorem sameOutside_foldl_draw
    (device : Device)
    {drawings : List Drawing}
    (draws : ∀ drawing ∈ drawings, drawing.drawsOnTarget = true) :
    Ram.SameOutside device.target.base Screen.bitmapBytes
      device.ram (drawings.foldl Device.draw device).ram := by
  induction drawings generalizing device with
  | nil => exact .refl _ _ _
  | cons first rest inductionHypothesis =>
      have target : (device.draw first).target = device.target := by
        unfold Device.draw
        split <;> rfl
      have later := inductionHypothesis (device.draw first)
        fun drawing member => draws drawing (List.mem_cons_of_mem first member)
      rw [target] at later
      exact (device.sameOutside_draw (draws first List.mem_cons_self)).trans later

/-- Showing text changes no memory outside the graphics bitmap. -/
theorem sameOutside_renderText
    (device : Device)
    (mask : Word) :
    Ram.SameOutside Target.graphics.base Screen.bitmapBytes
      device.ram (device.renderText mask).ram := by
  unfold Device.renderText
  split
  · rename_i grid _
    apply sameOutside_foldl_draw (device.setTarget .graphics)
    intro drawing member
    rw [TextGrid.render_eq, List.mem_append] at member
    rcases member with clears | shows
    · revert drawing
      cases grid.size <;> decide
    · obtain ⟨row, _, rfl⟩ := List.mem_map.mp shows
      rfl
  · exact .refl _ _ _

/-- Drawing leaves the text panel alone. -/
theorem text_draw
    (device : Device)
    (drawing : Drawing) :
    (device.draw drawing).text = device.text := by
  unfold Device.draw
  split <;> rfl

/-- Any number of drawings leave the text panel alone. -/
theorem text_foldl_draw
    (device : Device)
    (drawings : List Drawing) :
    (drawings.foldl Device.draw device).text = device.text := by
  induction drawings generalizing device with
  | nil => rfl
  | cons first rest inductionHypothesis =>
      exact (inductionHypothesis (device.draw first)).trans (device.text_draw first)

/-- Showing the text does not change it. -/
theorem text_renderText
    (device : Device)
    (mask : Word) :
    (device.renderText mask).text = device.text := by
  unfold Device.renderText
  split
  · exact text_foldl_draw (device.setTarget .graphics) _
  · rfl

end Device

/-- Large text is located at every row that it has. -/
theorem TextGrid.locate_row
    {grid : TextGrid}
    (large : grid.size = .large)
    {row : Nat}
    (inside : row < FontSize.large.rows) :
    grid.locate (Word.ofBits row) 0 = rowStart .large row := by
  have everyRow : ∀ row < 5, clamp (Word.ofBits row) 5 = row := by decide
  rw [locate, large]
  exact congrArg (rowStart .large) (everyRow row inside)

namespace Device

/-- The text is large and its cursor stands inside it. -/
def LargeText (device : Device) : Prop :=
  match device.text with
  | .grid grid => grid.size = .large ∧ grid.CursorInside
  | .recorded _ => True

/--
The cursor stands at the start of a row of large text. Where text is recorded, it
was sent there last.
-/
def AtRow
    (device : Device)
    (row : Nat) :
    Prop :=
  match device.text with
  | .grid grid => grid = TextGrid.rowStart .large row
  | .recorded _ =>
      device.log.back? =
        some ("[locate to (x: " ++ (0 : Word).decimal ++ ", y: " ++
          (Word.ofBits row).decimal ++ ")]")

/-- Writing keeps the font large. -/
theorem largeText_addBytes
    {device : Device}
    (large : device.LargeText)
    (bytes : List UInt8) :
    (device.addBytes bytes).LargeText := by
  unfold Device.addBytes
  split
  case h_1 grid gridded =>
    rw [LargeText, gridded] at large
    obtain ⟨size, inside⟩ := large
    have inside : (grid, device.ram).1.CursorInside := inside
    exact ⟨(TextGrid.size_perform inside (.addBytes bytes)).trans size,
      (TextGrid.perform_confined inside (.addBytes bytes)).1⟩
  case h_2 size recorded =>
    rw [LargeText, record, recorded]
    trivial

/-- Moving the cursor keeps the font large. -/
theorem largeText_locate
    {device : Device}
    (large : device.LargeText)
    (row column : Word) :
    (device.locate row column).LargeText := by
  unfold Device.locate
  split
  case h_1 grid gridded =>
    rw [LargeText, gridded] at large
    obtain ⟨size, inside⟩ := large
    have inside : (grid, device.ram).1.CursorInside := inside
    exact ⟨size, (TextGrid.perform_confined inside (.locate row column)).1⟩
  case h_2 size recorded =>
    rw [LargeText, record, recorded]
    trivial

/-- Moved to the start of a row, the cursor is there. -/
theorem atRow_locate
    {device : Device}
    (large : device.LargeText)
    {row : Nat}
    (inside : row < FontSize.large.rows) :
    (device.locate (Word.ofBits row) 0).AtRow row := by
  unfold Device.locate
  split
  case h_1 grid gridded =>
    rw [LargeText, gridded] at large
    exact TextGrid.locate_row large.1 inside
  case h_2 size recorded =>
    simp [AtRow, record, recorded]

end Device

namespace Chooser

open Device (Kept)

/-- The highlight stands on the page, and on an entry. -/
structure Inside
    (chooser : Chooser)
    (last : Nat) :
    Prop where
  entry : chooser.offset + chooser.index ≤ last
  page : chooser.index < pageSize

/-- The entries on the page. -/
def page
    (chooser : Chooser)
    (names : List (List UInt8)) :
    List (List UInt8) :=
  (names.drop chooser.offset).take pageSize

/-- Every row of the page is the entry that many after the first. -/
theorem getElem?_page
    (chooser : Chooser)
    (names : List (List UInt8))
    {row : Nat}
    (inside : row < pageSize) :
    (chooser.page names)[row]? = names[chooser.offset + row]? := by
  rw [page, List.getElem?_take_of_lt inside, List.getElem?_drop]

/-- A page never holds more names than there are rows for them. -/
theorem length_page_le
    (chooser : Chooser)
    (names : List (List UInt8)) :
    (chooser.page names).length ≤ pageSize :=
  List.length_take_le _ _

/-- A device with large text and nothing in it. -/
def cleared (device : Device) : Device :=
  (device.setFontSize .large).resetText

/-- The part of the screen that is inverted. -/
def band (chooser : Chooser) : Drawing :=
  let top : Int := (chooser.index * FontSize.large.rowHeight : Nat)
  .rectangle 0 top 159 (top + 15) true .invert

/-- Show the text and invert the band. -/
def highlight
    (chooser : Chooser)
    (device : Device) :
    Device :=
  ((device.renderText 0).setTarget .graphics).draw chooser.band

/-- Drawing a page writes its names on a cleared panel and lays the band over one. -/
theorem draw_eq_highlight
    (chooser : Chooser)
    (names : List (List UInt8))
    (device : Device) :
    chooser.draw names device =
      chooser.highlight (writeNames 0 (chooser.page names) (cleared device)) :=
  rfl

/-- A page starts on a panel of large text. -/
theorem largeText_cleared (device : Device) : (cleared device).LargeText := by
  unfold cleared Device.setFontSize
  cases kind : device.text with
  | grid grid => exact ⟨rfl, TextGrid.cursorInside_first .large⟩
  | recorded size => exact trivial

/-- Writing names keeps the device, name by name. -/
theorem kept_writeNames
    (row : Nat)
    (names : List (List UInt8))
    (device : Device) :
    Kept device (writeNames row names device) := by
  induction names generalizing row device with
  | nil => exact .refl device
  | cons name rest inductionHypothesis =>
      exact (Kept.locate device _ _).trans ((Kept.addBytes _ name).trans (inductionHypothesis _ _))

/-- Laying the band over a name keeps the device. -/
theorem kept_highlight
    (chooser : Chooser)
    (device : Device) :
    Kept device (chooser.highlight device) :=
  (Kept.renderText device 0).trans ((Kept.setTarget _ .graphics).trans (Kept.draw _ chooser.band))

/-- Drawing a page keeps the device. -/
theorem kept_draw
    (chooser : Chooser)
    (names : List (List UInt8))
    (device : Device) :
    Kept device (chooser.draw names device) :=
  (Kept.setFontSize device .large).trans <|
    (Kept.resetText _).trans <|
      (kept_writeNames 0 (chooser.page names) (cleared device)).trans <|
        kept_highlight chooser _

/-- Write a name at the start of a row. -/
def writeName
    (row : Nat)
    (name : List UInt8)
    (device : Device) :
    Device :=
  (device.locate (Word.ofBits row) 0).addBytes name

/-- After a name, the next one is written in large text, too. -/
theorem largeText_writeName
    {device : Device}
    (large : device.LargeText)
    (row : Nat)
    (name : List UInt8) :
    (writeName row name device).LargeText :=
  Device.largeText_addBytes (Device.largeText_locate large _ 0) name

/-- After the names of a page the text is still large. -/
theorem largeText_writeNames
    {device : Device}
    (large : device.LargeText)
    (row : Nat)
    (names : List (List UInt8)) :
    (writeNames row names device).LargeText := by
  induction names generalizing device row with
  | nil => exact large
  | cons name rest inductionHypothesis =>
      exact inductionHypothesis (largeText_writeName large row name) (row + 1)

/-- Every name is written from the start of its row on, before the names below it. -/
theorem exists_written
    {device : Device}
    (large : device.LargeText)
    {names : List (List UInt8)}
    {name : List UInt8}
    (row index : Nat)
    (there : names[index]? = some name)
    (inside : row + index < FontSize.large.rows) :
    ∃ before : Device,
      before.AtRow (row + index) ∧
        writeNames row names device =
          writeNames (row + index + 1) (names.drop (index + 1)) (before.addBytes name) := by
  induction names generalizing device row index with
  | nil => cases there
  | cons first rest inductionHypothesis =>
      cases index with
      | zero =>
          cases there
          exact ⟨_, Device.atRow_locate large inside, rfl⟩
      | succ index =>
          have shifted : row + 1 + index = row + (index + 1) := by omega
          have found := inductionHypothesis (largeText_writeName large row first) (row + 1) index
            there (by omega)
          rwa [shifted] at found

/-- Highlighting changes no memory outside the graphics bitmap. -/
theorem sameOutside_highlight
    (chooser : Chooser)
    (device : Device) :
    Ram.SameOutside Target.graphics.base Screen.bitmapBytes
      device.ram (chooser.highlight device).ram :=
  (device.sameOutside_renderText 0).trans
    (((device.renderText 0).setTarget .graphics).sameOutside_draw rfl)

/-- The band is drawn over the text without changing it. -/
theorem text_highlight
    (chooser : Chooser)
    (device : Device) :
    (chooser.highlight device).text = device.text :=
  (Device.text_draw _ _).trans (device.text_renderText 0)

/-- The band is one row of the text. -/
theorem visible_band
    {chooser : Chooser}
    (page : chooser.index < pageSize)
    {px py : Nat}
    (insidePx : px < Screen.width)
    (insidePy : py < Screen.height) :
    let top : Int := (chooser.index * FontSize.large.rowHeight : Nat)
    Rectangle.visible 0 top 159 (top + 15) px py = decide (py / 16 = chooser.index) := by
  intro top
  have rows : chooser.index < 5 := page
  rw [Bool.eq_iff_iff, Rectangle.visible_iff, decide_eq_true_iff]
  simp only [top, FontSize.rowHeight, Screen.width, Screen.height] at *
  omega

/-- What is shown is the text of the grid with the band painted over it. -/
theorem ram_highlight
    (chooser : Chooser)
    {device : Device}
    {table : FontTable}
    (painted : device.screen = .painted table)
    {grid : TextGrid}
    (gridded : device.text = .grid grid) :
    (chooser.highlight device).ram =
      chooser.band.paint .graphics table
        (TextGrid.paintAll table device.ram (grid.render 0)) := by
  have stillPainted := (Kept.renderText device 0).screen.trans painted
  rw [← Device.ram_renderText painted gridded]
  exact Device.ram_drawOn stillPainted (.graphics, chooser.band)

/-- Every pixel is that of the text, inverted in the band. -/
theorem pixel_highlight
    {chooser : Chooser}
    (page : chooser.index < pageSize)
    {device : Device}
    {table : FontTable}
    (painted : device.screen = .painted table)
    {grid : TextGrid}
    (gridded : device.text = .grid grid)
    (large : grid.size = .large)
    {px py : Nat}
    (insidePx : px < Screen.width)
    (insidePy : py < Screen.height) :
    (chooser.highlight device).ram.pixel Target.graphics.base px py =
      (table.textPixel .large (py % 16) (TextGrid.cells .large device.ram (py / 16)) px ^^
        decide (py / 16 = chooser.index)) := by
  obtain ⟨row, insideRow, inRow⟩ := TextGrid.exists_inRow_large insidePx insidePy
  have bounds := inRow.2.2
  simp only [TextGrid.topMargin, FontSize.rowHeight, FontSize.glyphHeight] at bounds
  have sameRow : row = py / 16 := by omega
  have line : py - (0 + row * 16) = py % 16 := by omega
  rw [← large] at insideRow inRow
  have rendered :=
    TextGrid.pixel_render_of_shown table grid 0 device.ram insideRow (Nat.zero_testBit _) inRow
  rw [large] at rendered
  have inverted :=
    (Ram.draws_rectangle .graphics (TextGrid.paintAll table device.ram (grid.render 0)) 0
      (chooser.index * FontSize.large.rowHeight : Nat) 159
      ((chooser.index * FontSize.large.rowHeight : Nat) + 15) true).invert px insidePx py insidePy
  rw [ram_highlight chooser painted gridded, band, Drawing.paint_rectangle]
  refine inverted.trans ?_
  rw [Rectangle.shape, if_pos rfl, visible_band page insidePx insidePy, rendered]
  change (table.textPixel .large (py - (0 + row * 16)) _ (px - 0) ^^ _) = _
  rw [line, sameRow, Nat.sub_zero]

/-- Before the names are written, every row is blank. -/
theorem cells_cleared
    {device : Device}
    {grid : TextGrid}
    (gridded : device.text = .grid grid)
    {row : Nat}
    (inside : row < FontSize.large.rows) :
    TextGrid.cells .large (cleared device).ram row = TextGrid.rowCells .large [] := by
  have reset : (cleared device).ram = ((TextGrid.setSize .large).reset device.ram).2 := by
    simp only [cleared, Device.setFontSize, gridded, Device.resetText]
  rw [reset]
  exact TextGrid.cells_reset _ device.ram inside

section Names

variable
  {device : Device}
  {grid : TextGrid}
  (gridded : device.text = .grid grid)
  (large : grid.size = .large)

include gridded large

/-- A name that fits its row is put there as a line. -/
theorem writeName_of_short
    {row : Nat}
    {name : List UInt8}
    (short : (TextGrid.rowStart .large row).Short name) :
    writeName row name device =
      let written := (TextGrid.rowStart .large row).putLine device.ram name
      { device with text := .grid written.1, ram := written.2 } := by
  have insideRow : row < FontSize.large.rows := short.row
  have located :
      device.locate (Word.ofBits row) 0 =
        { device with text := .grid (TextGrid.rowStart .large row) } := by
    simp only [Device.locate, gridded, TextGrid.locate_row large insideRow]
  rw [writeName, located]
  simp only [Device.addBytes, short.addBytes]

/-- A blank row shows the name that is written in it, and the other rows stay as they are. -/
theorem cells_writeName
    {row : Nat}
    {name : List UInt8}
    (short : (TextGrid.rowStart .large row).Short name)
    (blank : TextGrid.cells .large device.ram row = TextGrid.rowCells .large []) :
    ∀ other < FontSize.large.rows,
      TextGrid.cells .large (writeName row name device).ram other =
        if other = row then
          TextGrid.rowCells .large name
        else
          TextGrid.cells .large device.ram other := by
  intro other inside
  rw [writeName_of_short gridded large short]
  split
  case isTrue here =>
    rw [here]
    exact TextGrid.cells_putLine device.ram short rfl blank
  case isFalse elsewhere =>
    exact TextGrid.cells_putLine_of_ne device.ram short rfl inside elsewhere

/-- Every row shows the name that was written in it. -/
theorem cells_writeNames
    {names : List (List UInt8)}
    (plain : ∀ name ∈ names, 0x0a ∉ name ∧ name.length < FontSize.large.columns)
    {row : Nat}
    (fits : row + names.length ≤ FontSize.large.rows)
    (blank :
      ∀ other < FontSize.large.rows,
        row ≤ other →
        TextGrid.cells .large device.ram other = TextGrid.rowCells .large []) :
    ∀ other < FontSize.large.rows,
      TextGrid.cells .large (writeNames row names device).ram other =
        if other < row then
          TextGrid.cells .large device.ram other
        else
          TextGrid.rowCells .large (names.getD (other - row) []) := by
  -- A name changes its own row only, so the rows of the names that follow are still blank.
  induction names generalizing device grid row with
  | nil =>
      intro other inside
      split
      case isTrue above => rfl
      case isFalse below => exact blank other inside (Nat.le_of_not_lt below)
  | cons name rest inductionHypothesis =>
      obtain ⟨noFeed, length⟩ := plain name List.mem_cons_self
      rw [List.length_cons] at fits
      have short : (TextGrid.rowStart .large row).Short name := {
        row := by
          change row < FontSize.large.rows
          omega
        column := by simpa [TextGrid.rowStart] using length
        noFeed := noFeed
      }
      have here := cells_writeName gridded large short (blank row short.row Nat.le.refl)
      have next := congrArg Device.text (writeName_of_short gridded large short)
      have fitsRest : row + 1 + rest.length ≤ FontSize.large.rows := by omega
      have later := inductionHypothesis next rfl
        (fun name member => plain name (List.mem_cons_of_mem _ member)) fitsRest
        (fun other inside below => by
          rw [here other inside, if_neg (by omega)]
          exact blank other inside (by omega))
      intro other inside
      rw [writeNames, ← writeName, later other inside, here other inside]
      rcases Nat.lt_trichotomy other row with above | same | below
      · rw [if_pos (by omega), if_neg (by omega), if_pos above]
      · rw [if_pos (by omega), if_pos same, if_neg (by omega), same, Nat.sub_self]
        rfl
      · have place : other - row = other - (row + 1) + 1 := by omega
        rw [if_neg (by omega), if_neg (by omega), place, List.getD_cons_succ]

end Names

end Chooser

/-- A device as it was left, but for what has been read from its keyboard and recorded since. -/
structure Device.Standing (left device : Device) : Prop where
  ram : device.ram = left.ram
  screen : device.screen = left.screen
  target : device.target = left.target
  text : device.text = left.text
  log : left.log.toList <+: device.log.toList

namespace Chooser

/-- A device shows the page, and the highlight where it should be. -/
structure Highlights
    (chooser : Chooser)
    (names : List (List UInt8))
    (device : Device) :
    Prop where
  /-- The band is the row of text in which the highlighted entry was written. -/
  placed :
    ∃ (entry : List UInt8) (before : Device),
      names[chooser.offset + chooser.index]? = some entry ∧
        before.AtRow chooser.index ∧
        (chooser.highlight
          (writeNames (chooser.index + 1) ((chooser.page names).drop (chooser.index + 1))
            (before.addBytes entry))).Standing device
  /-- The screen shows the text, with that row inverted. -/
  pixels :
    ∀ table grid,
      device.screen = .painted table →
      device.text = .grid grid →
      ∀ px < Screen.width,
      ∀ py < Screen.height,
        device.ram.pixel Target.graphics.base px py =
          (table.textPixel .large (py % 16) (TextGrid.cells .large device.ram (py / 16)) px ^^
            decide (py / 16 = chooser.index))
  /-- Without a line feed on the page, every row holds the entry that many after the first. -/
  rows :
    ∀ grid,
      device.text = .grid grid →
      (∀ name ∈ chooser.page names, 0x0a ∉ name ∧ name.length < FontSize.large.columns) →
      ∀ row < FontSize.large.rows,
        TextGrid.cells .large device.ram row =
          TextGrid.rowCells .large (names.getD (chooser.offset + row) [])

/-- There is an entry where the highlight stands. -/
theorem Inside.exists_entry
    {chooser : Chooser}
    {names : List (List UInt8)}
    (inside : chooser.Inside (names.length - 1))
    (nonempty : names ≠ []) :
    ∃ entry, names[chooser.offset + chooser.index]? = some entry := by
  have positive := List.length_pos_of_ne_nil nonempty
  have last := inside.entry
  exact ⟨_, List.getElem?_eq_getElem (by omega)⟩

/-- The same, seen on the device as it is afterwards. -/
theorem pixel_shown
    {chooser : Chooser}
    (page : chooser.index < pageSize)
    {device : Device}
    (large : device.LargeText)
    {table : FontTable}
    (painted : (chooser.highlight device).screen = .painted table)
    {grid : TextGrid}
    (gridded : (chooser.highlight device).text = .grid grid)
    {px py : Nat}
    (insidePx : px < Screen.width)
    (insidePy : py < Screen.height) :
    (chooser.highlight device).ram.pixel Target.graphics.base px py =
      (table.textPixel .large (py % 16)
          (TextGrid.cells .large (chooser.highlight device).ram (py / 16)) px ^^
        decide (py / 16 = chooser.index)) := by
  have insideRow : py / 16 < FontSize.large.rows := by
    simp only [Screen.height, FontSize.rows] at *
    omega
  rw [(kept_highlight chooser device).screen] at painted
  rw [text_highlight] at gridded
  rw [Device.LargeText, gridded] at large
  rw [TextGrid.cells_eq (sameOutside_highlight chooser device) insideRow]
  exact pixel_highlight page painted gridded large.1 insidePx insidePy

/-- Each row of the grid holds the name of the page that belongs there, or none. -/
theorem rows_draw
    (chooser : Chooser)
    {names : List (List UInt8)}
    {device : Device}
    {grid : TextGrid}
    (gridded : (chooser.draw names device).text = .grid grid)
    (plain :
      ∀ name ∈ chooser.page names, 0x0a ∉ name ∧ name.length < FontSize.large.columns)
    {row : Nat}
    (inside : row < FontSize.large.rows) :
    TextGrid.cells .large (chooser.draw names device).ram row =
      TextGrid.rowCells .large (names.getD (chooser.offset + row) []) := by
  have isGrid : device.text.isGrid = true := by
    rw [← (kept_draw chooser names device).text, gridded]
    rfl
  obtain ⟨first, gridded⟩ := TextPanel.exists_grid isGrid
  have start : (cleared device).text = .grid (TextGrid.rowStart .large 0) := by
    simp only [cleared, Device.setFontSize, gridded, Device.resetText, TextGrid.setSize,
      TextGrid.reset, TextGrid.rowStart]
  have fits : 0 + (chooser.page names).length ≤ FontSize.large.rows := by
    rw [Nat.zero_add]
    exact chooser.length_page_le names
  have written :=
    cells_writeNames start rfl plain fits (fun _ inside _ => cells_cleared gridded inside) row inside
  rw [draw_eq_highlight, TextGrid.cells_eq (sameOutside_highlight chooser _) inside, written,
    if_neg (Nat.not_lt_zero row), Nat.sub_zero, List.getD_eq_getElem?_getD,
    getElem?_page chooser names inside, ← List.getD_eq_getElem?_getD]

/-- Wherever the highlight stands inside the entries, a page that is drawn shows it there. -/
theorem highlights_draw
    {chooser : Chooser}
    {names : List (List UInt8)}
    (nonempty : names ≠ [])
    (inside : chooser.Inside (names.length - 1))
    (device : Device) :
    chooser.Highlights names (chooser.draw names device) := by
  have large := largeText_cleared device
  obtain ⟨entry, there⟩ := inside.exists_entry nonempty
  have onPage : (chooser.page names)[chooser.index]? = some entry := by
    rw [getElem?_page chooser names inside.page, there]
  have bound : 0 + chooser.index < FontSize.large.rows := by
    rw [Nat.zero_add]
    exact inside.page
  obtain ⟨before, atRow, written⟩ := exists_written large 0 chooser.index onPage bound
  rw [Nat.zero_add] at atRow written
  exact {
    placed := ⟨entry, before, there, atRow, by
      rw [draw_eq_highlight, written]
      exact ⟨rfl, rfl, rfl, rfl, List.prefix_refl _⟩⟩
    pixels := fun _ _ painted gridded _ insidePx _ insidePy =>
      pixel_shown inside.page (largeText_writeNames large 0 _) painted gridded insidePx insidePy
    rows := fun _ gridded plain _ insideRow => rows_draw chooser gridded plain insideRow
  }

/-- Reading a key does not change what is shown. -/
theorem Highlights.heard
    {chooser : Chooser}
    {names : List (List UInt8)}
    {device : Device}
    (highlights : chooser.Highlights names device)
    (reply : Keyboard.Reply Word) :
    chooser.Highlights names (device.heard reply).2 := by
  obtain ⟨entry, before, there, atRow, standing⟩ := highlights.placed
  have log : device.log.toList <+: (device.heard reply).2.log.toList := by
    simp [Device.heard]
  exact {
    placed := ⟨entry, before, there, atRow, {
      ram := standing.ram
      screen := standing.screen
      target := standing.target
      text := standing.text
      log := standing.log.trans log
    }⟩
    pixels := highlights.pixels
    rows := highlights.rows
  }

end Chooser

end Handheld
