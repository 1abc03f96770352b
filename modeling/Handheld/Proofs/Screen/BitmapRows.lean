import Handheld.Proofs.Memory.Ranges
import Handheld.Proofs.Screen.BitRow
import Handheld.Screen.Bitmap

namespace Handheld

/-!
# Bitmaps row by row

Scrolling carries one bit from byte to byte along each row, and mirroring
exchanges bytes from both ends, all in place. Each loop has its invariant, which
says for every address what is done so far. At the end the rows of the bitmap are
the old ones shifted, or reversed, or in the opposite order.
-/

namespace Bits

/-- The last bit that a row hands over to the left is the first one of its first byte. -/
theorem handedLeft_one (row : List UInt8) : handedLeft 1 row = row.getD 0 0 >>> 7 := by
  cases row with
  | nil => rfl
  | cons byte rest =>
      apply UInt8.toBitVec_inj.mp
      apply BitVec.eq_of_getMsbD_eq
      intro place inside
      have seven : 7 < 8 := by decide
      have masked := bitAt_shiftRight (byte &&& leftmost 1) seven inside
      have whole := bitAt_shiftRight byte seven inside
      refine masked.trans (Eq.trans ?_ whole.symm)
      by_cases before : place < 7
      · rw [if_pos before, if_pos before]
      · have first : place - 7 = 0 := by omega
        rw [if_neg before, if_neg before, first, bitAt_and, bitAt_leftmost (by decide) (by decide)]
        exact Bool.and_true _

/-- Shifted to the left by one, a byte takes in the first bit of the next one. -/
theorem getElem?_shiftLeft_one
    (row : List UInt8)
    (index : Nat) :
    (shiftLeft 1 row)[index]? =
      row[index]?.map fun (byte : UInt8) => (byte <<< 1) ||| (row.getD (index + 1) 0 >>> 7) := by
  induction row generalizing index with
  | nil => rfl
  | cons byte rest inductionHypothesis =>
      rw [shiftLeft]
      cases index with
      | zero =>
          rw [List.getElem?_cons_zero, List.getElem?_cons_zero, handedLeft_one,
            List.getD_cons_succ]
          rfl
      | succ index =>
          rw [List.getElem?_cons_succ, List.getElem?_cons_succ, inductionHypothesis,
            List.getD_cons_succ]

end Bits

namespace Ram

/-- The rows of a bitmap, top first. -/
def bitmapRows
    (ram : Ram)
    (base : Nat) :
    List (List UInt8) :=
  (List.range Screen.height).map fun row =>
    ram.bytes (base + row * Screen.rowBytes) Screen.rowBytes

/-- Memory with the rows of a bitmap replaced. -/
def setBitmapRows
    (ram : Ram)
    (base : Nat)
    (rows : List (List UInt8)) :
    Ram :=
  ram.write base rows.flatten

/-- A bitmap has eighty rows of twenty bytes. -/
theorem length_of_mem_bitmapRows
    {ram : Ram}
    {base : Nat}
    {row : List UInt8}
    (member : row ∈ ram.bitmapRows base) :
    row.length = Screen.rowBytes := by
  obtain ⟨index, -, rfl⟩ := List.mem_map.mp member
  exact length_bytes _ _ _

/-- A bitmap has as many rows as the screen. -/
theorem length_bitmapRows
    (ram : Ram)
    (base : Nat) :
    (ram.bitmapRows base).length = Screen.height := by
  rw [bitmapRows, List.length_map, List.length_range]

/-- Rows of one width, put together, are as long as their number times the width. -/
theorem length_flatten_of_wide
    {rows : List (List UInt8)}
    {width : Nat}
    (wide : ∀ row ∈ rows, row.length = width) :
    rows.flatten.length = rows.length * width := by
  rw [List.length_flatten, List.map_congr_left wide, List.map_const', List.sum_replicate_nat]

/-- The rows of a bitmap, put together, fill it. -/
theorem length_flatten_rows
    {rows : List (List UInt8)}
    (tall : rows.length = Screen.height)
    (wide : ∀ row ∈ rows, row.length = Screen.rowBytes) :
    rows.flatten.length = Screen.bitmapBytes := by
  rw [length_flatten_of_wide wide, tall]
  rfl

/-- A row of a bitmap. -/
def bitmapRow
    (ram : Ram)
    (base py : Nat) :
    List UInt8 :=
  ram.bytes (base + py * Screen.rowBytes) Screen.rowBytes

/-- From below, the rows are counted from the last. -/
theorem getD_reverse_bitmapRows
    (ram : Ram)
    (base : Nat)
    {py : Nat}
    (inside : py < Screen.height) :
    (ram.bitmapRows base).reverse.getD py [] = ram.bitmapRow base (Screen.height - 1 - py) := by
  have there : Screen.height - 1 - py < Screen.height := by omega
  rw [List.getD_eq_getElem?_getD,
    List.getElem?_reverse (by rw [length_bitmapRows]; exact inside), length_bitmapRows]
  simp [bitmapRows, bitmapRow, there]

/-- In rows of equal length written one after the other, a byte is found by row and column. -/
theorem getElem?_flatten_rows
    {rows : List (List UInt8)}
    {width : Nat}
    (wide : ∀ row ∈ rows, row.length = width)
    {row column : Nat}
    (inside : column < width) :
    rows.flatten[row * width + column]? = (rows.getD row [])[column]? := by
  induction rows generalizing row with
  | nil => simp
  | cons first rest inductionHypothesis =>
      have long : first.length = width := wide first List.mem_cons_self
      rw [List.flatten_cons]
      cases row with
      | zero =>
          rw [Nat.zero_mul, Nat.zero_add, List.getElem?_append_left (by omega),
            List.getD_cons_zero]
      | succ row =>
          have later : (row + 1) * width + column = first.length + (row * width + column) := by
            rw [Nat.add_mul]
            omega
          rw [later, List.getElem?_append_right (by omega), Nat.add_sub_cancel_left,
            List.getD_cons_succ,
            inductionHypothesis fun row member => wide row (List.mem_cons_of_mem first member)]

section Rows

variable (ram : Ram)

/-- Scrolled from its end on, a row has moved as far as the loop has come. -/
theorem byte_scrollRowLeft
    {address count read : Nat}
    (carry : UInt8)
    (fits : address + count ≤ capacity)
    (inside : read < capacity) :
    (ram.scrollRowLeft address count carry).byte read =
      if address ≤ read ∧ read < address + count then
        (ram.byte read <<< 1) |||
          (if read + 1 < address + count then ram.byte (read + 1) >>> 7 else carry)
      else
        ram.byte read := by
  induction count generalizing ram carry with
  | zero => rw [scrollRowLeft, if_neg (by omega)]
  | succ rest inductionHypothesis =>
      have moved (place : Nat) (placed : place < capacity) :=
        ram.byte_setByte_of_lt ((ram.byte (address + rest) <<< 1) ||| carry)
          (show address + rest < capacity by omega) placed
      rw [scrollRowLeft, inductionHypothesis _ _ (by omega), moved read inside]
      by_cases before : address ≤ read ∧ read < address + rest
      · have among : address ≤ read ∧ read < address + (rest + 1) := by omega
        have followed : read + 1 < address + (rest + 1) := by omega
        rw [if_pos before, if_neg (by omega), if_pos among, if_pos followed]
        by_cases next : read + 1 < address + rest
        · rw [if_pos next, moved (read + 1) (by omega), if_neg (by omega)]
        · have last : read + 1 = address + rest := by omega
          rw [if_neg next, last]
      · rw [if_neg before]
        by_cases here : address + rest = read
        · subst here
          rw [if_pos rfl, if_pos (by omega), if_neg (by omega)]
        · rw [if_neg here, if_neg (by omega)]

/-- Scrolling a row to the left is shifting its bits. -/
theorem scrollRowLeft_eq_write
    {address count : Nat}
    (fits : address + count ≤ capacity) :
    ram.scrollRowLeft address count 0 =
      ram.write address (Bits.shift 1 (ram.bytes address count)) := by
  have length : (Bits.shift 1 (ram.bytes address count)).length = count := by
    rw [Bits.length_shift, length_bytes]
  apply eq_write length fits
  · intro index near
    have carried :
        (ram.bytes address count).getD (index + 1) 0 >>> 7 =
          if address + index + 1 < address + count then
            ram.byte (address + index + 1) >>> 7
          else
            0 := by
      rw [List.getD_eq_getElem?_getD]
      by_cases next : index + 1 < count
      · rw [getElem?_bytes next, if_pos (by omega)]
        rfl
      · rw [List.getElem?_eq_none (by rw [length_bytes]; omega), if_neg (by omega)]
        rfl
    change (Bits.shiftLeft 1 _)[index]? = _
    rw [byte_scrollRowLeft ram 0 fits (by omega), if_pos (by omega),
      Bits.getElem?_shiftLeft_one, getElem?_bytes near, carried]
    rfl
  · intro read inside outside
    rw [byte_scrollRowLeft ram 0 fits inside, if_neg (by omega)]

/-- Scrolling a row to the right is shifting its bits and taking in what is carried. -/
theorem scrollRowRight_eq_write
    {address count : Nat}
    (carry : UInt8)
    (fits : address + count ≤ capacity) :
    ram.scrollRowRight address count carry =
      ram.write address (Bits.shiftRight 1 carry (ram.bytes address count)) := by
  induction count generalizing ram address carry with
  | zero => rfl
  | succ rest inductionHypothesis =>
      have first :
          SameOutside address 1 ram
            (ram.setByte address ((ram.byte address >>> 1) ||| carry)) :=
        sameOutside_setByte ram _ (by omega) Nat.le.refl (Nat.lt_succ_self address)
      rw [scrollRowRight, inductionHypothesis _ _ (by omega),
        first.bytes_eq (by omega) (.inr Nat.le.refl)]
      rfl

/-- Rows that are rewritten one after the other make the rewritten bitmap. -/
theorem changeRows_eq_write
    {change : Ram → Nat → Ram}
    {rewrite : List UInt8 → List UInt8}
    (keeps : ∀ row, (rewrite row).length = row.length)
    (acts :
      ∀ (before : Ram) address,
        address + Screen.rowBytes ≤ capacity →
        change before address =
          before.write address (rewrite (before.bytes address Screen.rowBytes)))
    {base count : Nat}
    (fits : base + count * Screen.rowBytes ≤ capacity) :
    ram.changeRows base count change =
      ram.write base
        ((List.range count).map fun row =>
          rewrite (ram.bytes (base + row * Screen.rowBytes) Screen.rowBytes)).flatten := by
  induction count with
  | zero => rfl
  | succ count inductionHypothesis =>
      rw [Nat.add_mul, Nat.one_mul] at fits
      generalize done :
        ((List.range count).map fun row =>
          rewrite (ram.bytes (base + row * Screen.rowBytes) Screen.rowBytes)).flatten = written
        at inductionHypothesis
      have length : written.length = count * Screen.rowBytes := by
        rw [← done, @length_flatten_of_wide _ Screen.rowBytes]
        · rw [List.length_map, List.length_range]
        · intro row member
          obtain ⟨index, -, rfl⟩ := List.mem_map.mp member
          rw [keeps, length_bytes]
      have before : SameOutside base written.length ram (ram.write base written) :=
        ram.sameOutside_write (by omega) Nat.le.refl
      have unread :
          (ram.write base written).bytes (base + count * Screen.rowBytes) Screen.rowBytes =
            ram.bytes (base + count * Screen.rowBytes) Screen.rowBytes :=
        before.bytes_eq (by omega) (.inr (by omega))
      have last :
          ram.changeRows base (count + 1) change =
            change (ram.changeRows base count change) (base + count * Screen.rowBytes) := by
        rw [changeRows, List.range_succ, List.foldl_append]
        rfl
      rw [last, inductionHypothesis (by omega), acts _ _ (by omega), unread, List.range_succ,
        List.map_append, List.flatten_append, done, write_append, length]
      simp

/-- After a swap each of the two places holds what came from the other. -/
theorem byte_swap
    (change : UInt8 → UInt8)
    {first second read : Nat}
    (insideFirst : first < capacity)
    (insideSecond : second < capacity)
    (inside : read < capacity) :
    (ram.swap change first second).byte read =
      if second = read then change (ram.byte first)
      else if first = read then change (ram.byte second)
      else ram.byte read := by
  rw [swap, byte_setByte_of_lt _ _ insideSecond inside, byte_setByte_of_lt _ _ insideFirst inside]

/-- So far turned around, a row has its first and its last bytes exchanged. -/
theorem byte_turnRow
    {address count read : Nat}
    (fits : address + Screen.rowBytes ≤ capacity)
    (half : count ≤ Screen.rowBytes / 2)
    (inside : read < capacity) :
    (ram.turnRow address count).byte read =
      if (address ≤ read ∧ read < address + Screen.rowBytes) ∧
          (read < address + count ∨ address + Screen.rowBytes ≤ read + count) then
        Bits.reverseByte (ram.byte (address + (address + Screen.rowBytes - 1 - read)))
      else
        ram.byte read := by
  unfold Screen.rowBytes at *
  induction count generalizing read with
  | zero => rw [if_neg (by omega)]; rfl
  | succ count inductionHypothesis =>
      have last :
          ram.turnRow address (count + 1) =
            (ram.turnRow address count).swap Bits.reverseByte (address + count)
              (address + (20 - 1 - count)) := by
        rw [turnRow, List.range_succ, List.foldl_append]
        rfl
      -- The two bytes that are exchanged now are still as they were.
      have first := @inductionHypothesis (address + count) (by omega) (by omega)
      have second := @inductionHypothesis (address + (20 - 1 - count)) (by omega) (by omega)
      rw [if_neg (by omega)] at first second
      rw [last, byte_swap _ _ (by omega) (by omega) inside, first, second,
        inductionHypothesis (by omega) inside]
      by_cases atEnd : address + (20 - 1 - count) = read
      · have opposite : address + (address + 20 - 1 - read) = address + count := by omega
        rw [if_pos atEnd, if_pos (by omega), opposite]
      · rw [if_neg atEnd]
        by_cases atStart : address + count = read
        · have opposite :
              address + (address + 20 - 1 - read) = address + (20 - 1 - count) := by omega
          rw [if_pos atStart, if_pos (by omega), opposite]
        · rw [if_neg atStart]
          by_cases done : (address ≤ read ∧ read < address + 20) ∧
              (read < address + count ∨ address + 20 ≤ read + count)
          · rw [if_pos done, if_pos (by omega)]
          · rw [if_neg done, if_neg (by omega)]

/-- Turning a row around to its middle reverses it. -/
theorem turnRow_eq_write
    {address : Nat}
    (fits : address + Screen.rowBytes ≤ capacity) :
    ram.turnRow address (Screen.rowBytes / 2) =
      ram.write address
        ((ram.bytes address Screen.rowBytes).reverse.map Bits.reverseByte) := by
  have length :
      ((ram.bytes address Screen.rowBytes).reverse.map Bits.reverseByte).length =
        Screen.rowBytes := by
    rw [List.length_map, List.length_reverse, length_bytes]
  have half : Screen.rowBytes / 2 ≤ Screen.rowBytes / 2 := Nat.le.refl
  apply eq_write length fits
  · intro index near
    have opposite :
        address + (address + Screen.rowBytes - 1 - (address + index)) =
          address + (Screen.rowBytes - 1 - index) := by omega
    rw [ram.byte_turnRow fits half (by omega),
      if_pos (by unfold Screen.rowBytes at *; omega), opposite, List.getElem?_map,
      List.getElem?_reverse (by rwa [length_bytes]), length_bytes, getElem?_bytes (by omega)]
    rfl
  · intro read inside outside
    rw [ram.byte_turnRow fits half inside, if_neg (by omega)]

/-- So far exchanged, two rows that lie apart have their first bytes exchanged. -/
theorem byte_swapRows
    {top bottom count read : Nat}
    (apart : top + Screen.rowBytes ≤ bottom)
    (fits : bottom + Screen.rowBytes ≤ capacity)
    (some : count ≤ Screen.rowBytes)
    (inside : read < capacity) :
    (ram.swapRows top bottom count).byte read =
      if top ≤ read ∧ read < top + count then ram.byte (bottom + (read - top))
      else if bottom ≤ read ∧ read < bottom + count then ram.byte (top + (read - bottom))
      else ram.byte read := by
  induction count generalizing read with
  | zero =>
      rw [if_neg (by omega), if_neg (by omega)]
      rfl
  | succ count inductionHypothesis =>
      have last :
          ram.swapRows top bottom (count + 1) =
            (ram.swapRows top bottom count).swap id (top + count) (bottom + count) := by
        rw [swapRows, List.range_succ, List.foldl_append]
        rfl
      have first := @inductionHypothesis (top + count) (by omega) (by omega)
      have second := @inductionHypothesis (bottom + count) (by omega) (by omega)
      rw [if_neg (by omega), if_neg (by omega)] at first second
      rw [last, byte_swap _ _ (by omega) (by omega) inside, first, second,
        inductionHypothesis (by omega) inside]
      by_cases inBottom : bottom + count = read
      · have across : top + (read - bottom) = top + count := by omega
        rw [if_pos inBottom, if_neg (by omega), if_pos (by omega), across]
        rfl
      · rw [if_neg inBottom]
        by_cases inTop : top + count = read
        · have across : bottom + (read - top) = bottom + count := by omega
          rw [if_pos inTop, if_pos (by omega), across]
          rfl
        · rw [if_neg inTop]
          by_cases doneTop : top ≤ read ∧ read < top + count
          · rw [if_pos doneTop, if_pos (by omega)]
          · by_cases doneBottom : bottom ≤ read ∧ read < bottom + count
            · rw [if_neg doneTop, if_pos doneBottom, if_neg (by omega), if_pos (by omega)]
            · rw [if_neg doneTop, if_neg doneBottom, if_neg (by omega), if_neg (by omega)]

/-- Nothing is turned before the first pair of rows. -/
theorem turnRows_zero (base : Nat) : ram.turnRows base 0 = ram :=
  rfl

/-- One more turn swaps the next pair of rows from outside in. -/
theorem turnRows_succ (base count : Nat) :
    ram.turnRows base (count + 1) =
      (ram.turnRows base count).swapRows (base + count * Screen.rowBytes)
        (base + (Screen.height - 1 - count) * Screen.rowBytes) Screen.rowBytes := by
  simp only [turnRows, List.range_succ, List.foldl_append, List.foldl_cons, List.foldl_nil]

/-- Rows as far from the top as from the bottom lie apart and inside the bitmap. -/
theorem opposite_rows_apart
    (base : Nat)
    {count : Nat}
    (half : count < Screen.height / 2) :
    base + count * Screen.rowBytes + Screen.rowBytes ≤
        base + (Screen.height - 1 - count) * Screen.rowBytes ∧
      base + (Screen.height - 1 - count) * Screen.rowBytes + Screen.rowBytes ≤
        base + Screen.bitmapBytes := by
  unfold Screen.height Screen.rowBytes Screen.bitmapBytes at *
  omega

section Opposite

variable
  {base count : Nat}
  (fits : base + Screen.bitmapBytes ≤ capacity)

include fits

/-- Exchanging a row and the opposite one leaves all the others. -/
theorem byte_swapRows_opposite
    (half : count < Screen.height / 2)
    {row column : Nat}
    (insideRow : row < Screen.height)
    (insideColumn : column < Screen.rowBytes) :
    (ram.swapRows (base + count * Screen.rowBytes)
        (base + (Screen.height - 1 - count) * Screen.rowBytes) Screen.rowBytes).byte
          (base + row * Screen.rowBytes + column) =
      if row = count ∨ row = Screen.height - 1 - count then
        ram.byte (base + (Screen.height - 1 - row) * Screen.rowBytes + column)
      else
        ram.byte (base + row * Screen.rowBytes + column) := by
  obtain ⟨apart, below⟩ := opposite_rows_apart base half
  have inside : base + row * Screen.rowBytes + column < capacity := by
    unfold Screen.height Screen.rowBytes Screen.bitmapBytes at *
    omega
  rw [byte_swapRows ram apart (by omega) Nat.le.refl inside]
  unfold Screen.height Screen.rowBytes Screen.bitmapBytes at *
  by_cases atTop : row = count
  · have across :
        base + (80 - 1 - count) * 20 + (base + row * 20 + column - (base + count * 20)) =
          base + (80 - 1 - row) * 20 + column := by omega
    rw [if_pos (by omega), if_pos (.inl atTop), across]
  · by_cases atBottom : row = 80 - 1 - count
    · have across :
          base + count * 20 + (base + row * 20 + column - (base + (80 - 1 - count) * 20)) =
            base + (80 - 1 - row) * 20 + column := by omega
      rw [if_neg (by omega), if_pos (by omega), if_pos (.inr atBottom), across]
    · rw [if_neg (by omega), if_neg (by omega), if_neg (by omega)]

/-- So far exchanged, a bitmap has its first and its last rows in the opposite order. -/
theorem byte_turnRows
    (half : count ≤ Screen.height / 2)
    {row column : Nat}
    (insideRow : row < Screen.height)
    (insideColumn : column < Screen.rowBytes) :
    (ram.turnRows base count).byte (base + row * Screen.rowBytes + column) =
      if row < count ∨ Screen.height ≤ row + count then
        ram.byte (base + (Screen.height - 1 - row) * Screen.rowBytes + column)
      else
        ram.byte (base + row * Screen.rowBytes + column) := by
  induction count generalizing row with
  | zero => rw [turnRows_zero, if_neg (by omega)]
  | succ count inductionHypothesis =>
      rw [turnRows_succ, byte_swapRows_opposite _ fits (by omega) insideRow insideColumn]
      by_cases now : row = count ∨ row = Screen.height - 1 - count
      · -- The opposite row is still as it was.
        rw [if_pos now, inductionHypothesis (by omega) (by omega), if_neg (by omega),
          if_pos (by omega)]
      · rw [if_neg now, inductionHypothesis (by omega) insideRow]
        by_cases done : row < count ∨ Screen.height ≤ row + count
        · rw [if_pos done, if_pos (by omega)]
        · rw [if_neg done, if_neg (by omega)]

/-- Nothing around a bitmap changes while its rows are exchanged. -/
theorem sameOutside_turnRows (half : count ≤ Screen.height / 2) :
    SameOutside base Screen.bitmapBytes ram (ram.turnRows base count) := by
  induction count with
  | zero =>
      rw [turnRows_zero]
      exact .refl _ _ ram
  | succ count inductionHypothesis =>
      obtain ⟨apart, below⟩ := opposite_rows_apart base half
      refine (inductionHypothesis (by omega)).trans ?_
      intro read inside outside
      rw [turnRows_succ, byte_swapRows _ apart (by omega) Nat.le.refl inside, if_neg (by omega),
        if_neg (by omega)]

/-- Exchanging the rows of a bitmap up to the middle reverses their order. -/
theorem turnRows_eq_write :
    ram.turnRows base (Screen.height / 2) =
      ram.setBitmapRows base (ram.bitmapRows base).reverse := by
  have half : Screen.height / 2 ≤ Screen.height / 2 := Nat.le.refl
  have wide : ∀ row ∈ (ram.bitmapRows base).reverse, row.length = Screen.rowBytes :=
    fun row member => length_of_mem_bitmapRows (List.mem_reverse.mp member)
  have length : (ram.bitmapRows base).reverse.flatten.length = Screen.bitmapBytes :=
    length_flatten_rows (by rw [List.length_reverse, length_bitmapRows]) wide
  refine eq_write length fits ?_ (sameOutside_turnRows ram fits half)
  intro index near
  have row : index / Screen.rowBytes < Screen.height := by
    unfold Screen.rowBytes Screen.height Screen.bitmapBytes at *
    omega
  have column : index % Screen.rowBytes < Screen.rowBytes := Nat.mod_lt _ (by decide)
  have split : index / Screen.rowBytes * Screen.rowBytes + index % Screen.rowBytes = index :=
    Nat.div_add_mod' index Screen.rowBytes
  have moved := byte_turnRows ram fits half row column
  rw [if_pos (by unfold Screen.height at *; omega), Nat.add_assoc, split] at moved
  rw [moved, ← split, getElem?_flatten_rows wide column,
    getD_reverse_bitmapRows ram base row, bitmapRow, getElem?_bytes column, split]

end Opposite

/-- Scrolling a bitmap shifts each of its rows. -/
theorem scrollBitmap_eq
    {base : Nat}
    (fits : base + Screen.bitmapBytes ≤ capacity)
    (direction : ScrollDirection) :
    ram.scrollBitmap base direction =
      ram.setBitmapRows base
        ((ram.bitmapRows base).map
          (Bits.shift (match direction with | .left => 1 | .right => -1))) := by
  have rowFits : base + Screen.height * Screen.rowBytes ≤ capacity := fits
  cases direction with
  | left =>
      refine (ram.changeRows_eq_write (Bits.length_shift 1) ?_ rowFits).trans ?_
      · exact fun before address inside => before.scrollRowLeft_eq_write inside
      · rw [setBitmapRows, bitmapRows, List.map_map]
        rfl
  | right =>
      refine (ram.changeRows_eq_write (Bits.length_shift (-1)) ?_ rowFits).trans ?_
      · exact fun before address inside => before.scrollRowRight_eq_write 0 inside
      · rw [setBitmapRows, bitmapRows, List.map_map]
        rfl

/-- Mirroring a bitmap reverses each of its rows, or their order. -/
theorem mirrorBitmap_eq
    {base : Nat}
    (fits : base + Screen.bitmapBytes ≤ capacity)
    (direction : MirrorDirection) :
    ram.mirrorBitmap base direction =
      ram.setBitmapRows base
        (match direction with
        | .horizontal => (ram.bitmapRows base).map fun row => row.reverse.map Bits.reverseByte
        | .vertical => (ram.bitmapRows base).reverse) := by
  have rowFits : base + Screen.height * Screen.rowBytes ≤ capacity := fits
  cases direction with
  | horizontal =>
      have keeps (row : List UInt8) : (row.reverse.map Bits.reverseByte).length = row.length := by
        rw [List.length_map, List.length_reverse]
      have turned :=
        ram.changeRows_eq_write keeps (fun before _ inside => before.turnRow_eq_write inside)
          rowFits
      rw [setBitmapRows, bitmapRows, List.map_map]
      exact turned
  | vertical => exact ram.turnRows_eq_write fits

end Rows

end Ram

end Handheld
