import Handheld.Proofs.Text.Page
import Handheld.Proofs.Text.Rendering

namespace Handheld

/-!
# Characters of two bytes stay whole

Text is written by bytes and shown by characters: the two sides take it apart on
their own, the writer as the bytes come and the screen from the left of each
row. They agree when only whole characters are written from a reset on. Every
pair then stands in one row, every byte from `0x80` on belongs to a pair, and
pairs do not overlap, so a row read from its first cell gives back the pairs
that were written into it and no other.
-/

/--
Bytes that are whole characters: single bytes below `0x80`, and pairs of a byte
from `0x80` on and one from `0x40` on.
-/
inductive WholeText : List UInt8 → Prop where
  | nil : WholeText []
  | single
      {byte : UInt8}
      {rest : List UInt8}
      (below : byte < 0x80)
      (whole : WholeText rest) :
      WholeText (byte :: rest)
  | pair
      {lead trail : UInt8}
      {rest : List UInt8}
      (leads : 0x80 ≤ lead)
      (trails : 0x40 ≤ trail)
      (whole : WholeText rest) :
      WholeText (lead :: trail :: rest)

/-- Whole text starts with a byte of its own or with a pair. -/
theorem WholeText.cons_cons
    {byte next : UInt8}
    {rest : List UInt8} :
    WholeText (byte :: next :: rest) ↔
      byte < 0x80 ∧ WholeText (next :: rest) ∨ 0x80 ≤ byte ∧ 0x40 ≤ next ∧ WholeText rest := by
  constructor
  · intro whole
    cases whole with
    | single below later => exact .inl ⟨below, later⟩
    | pair leads trails later => exact .inr ⟨leads, trails, later⟩
  · rintro (⟨below, later⟩ | ⟨leads, trails, later⟩)
    · exact .single below later
    · exact .pair leads trails later

instance WholeText.decidable : (bytes : List UInt8) → Decidable (WholeText bytes)
  | [] => isTrue .nil
  | [byte] =>
      decidable_of_decidable_of_iff (p := byte < 0x80)
        ⟨fun below => .single below .nil, fun | .single below _ => below⟩
  | _ :: next :: rest =>
      have := WholeText.decidable (next :: rest)
      have := WholeText.decidable rest
      decidable_of_decidable_of_iff WholeText.cons_cons.symm

/-- The pairs among bytes. -/
def bytePairs : List UInt8 → List (UInt8 × UInt8)
  | [] => []
  | [_] => []
  | byte :: next :: rest =>
      if byte < 0x80 then bytePairs (next :: rest) else (byte, next) :: bytePairs rest

/-- A byte of its own is added by itself. -/
theorem spread_of_lt
    (add : σ → UInt8 → σ)
    (atLastColumn : σ → Bool)
    (text : σ)
    {byte : UInt8}
    (below : byte < 0x80)
    (rest : List UInt8) :
    spread add atLastColumn text (byte :: rest) = spread add atLastColumn (add text byte) rest := by
  cases rest with
  | nil => exact if_pos below
  | cons next rest => rw [spread, if_pos below]

namespace TextCall

/-- Whether a call writes whole characters, where the cursor stands. -/
def Whole : TextCall → Prop
  | .addByte byte => byte < 0x80
  | .addBytes bytes => WholeText bytes
  | .locate _ _ => False

instance : (call : TextCall) → Decidable call.Whole
  | .addByte byte => inferInstanceAs (Decidable (byte < 0x80))
  | .addBytes bytes => inferInstanceAs (Decidable (WholeText bytes))
  | .locate _ _ => inferInstanceAs (Decidable False)

/-- The pairs that a call writes. -/
def pairs : TextCall → List (UInt8 × UInt8)
  | .addByte _ => []
  | .addBytes bytes => bytePairs bytes
  | .locate _ _ => []

end TextCall

/-- A pair and the cell of its first byte; rows count from the first that there was. -/
@[ext] structure PlacedPair where
  row : Nat
  column : Nat
  lead : UInt8
  trail : UInt8
  deriving DecidableEq, Repr

namespace PlacedPair

/-- The bytes of a pair. -/
def bytes (pair : PlacedPair) : UInt8 × UInt8 :=
  (pair.lead, pair.trail)

/-- The character that a pair is shown as. -/
def character (pair : PlacedPair) : CellCharacter where
  column := pair.column
  code := pair.lead.toUInt16 ||| (pair.trail.toUInt16 <<< 8)
  width := 2

/-- No pair of a row has its second byte in a column. -/
def NoTrail
    (pairs : List PlacedPair)
    (row column : Nat) :
    Prop :=
  ∀ pair ∈ pairs, pair.row = row → pair.column + 1 ≠ column

end PlacedPair

namespace Scroller

/-- The pairs among bytes, each where the cursor stands when it is written. -/
def placed
    (scroller : Scroller) :
    List UInt8 → List PlacedPair
  | [] => []
  | [_] => []
  | byte :: next :: rest =>
      if byte < 0x80 then
        (scroller.addByte byte).placed (next :: rest)
      else
        let aligned := align addByte atLastColumn scroller
        {
          row := aligned.scrolls + aligned.grid.row
          column := aligned.grid.column
          lead := byte
          trail := next
        } :: ((aligned.addByte byte).addByte next).placed rest

/-- The pairs that a call writes. -/
def placedBy
    (scroller : Scroller) :
    TextCall → List PlacedPair
  | .addByte _ => []
  | .addBytes bytes => scroller.placed bytes
  | .locate _ _ => []

/-- The pairs that calls write, one after the other. -/
def placedAll
    (scroller : Scroller) :
    List TextCall → List PlacedPair
  | [] => []
  | call :: rest => scroller.placedBy call ++ (scroller.perform call).placedAll rest

/-- A byte of its own places no pair. -/
theorem placed_of_lt
    (scroller : Scroller)
    {byte : UInt8}
    (below : byte < 0x80)
    (rest : List UInt8) :
    scroller.placed (byte :: rest) = (scroller.addByte byte).placed rest := by
  cases rest with
  | nil => rfl
  | cons next rest => rw [placed, if_pos below]

/-- The pairs placed are those of the text. -/
theorem bytes_placed
    (scroller : Scroller)
    (bytes : List UInt8) :
    (scroller.placed bytes).map PlacedPair.bytes = bytePairs bytes := by
  fun_induction Scroller.placed scroller bytes with
  | case1 => rfl
  | case2 => rfl
  | case3 scroller byte next rest plain inductionHypothesis =>
      rw [bytePairs, if_pos plain]
      exact inductionHypothesis
  | case4 scroller byte next rest leads aligned inductionHypothesis =>
      rw [bytePairs, if_neg leads, List.map_cons, inductionHypothesis]
      rfl

/-- Every pair of the calls is written, once and in order. -/
theorem bytes_placedAll
    (scroller : Scroller)
    (calls : List TextCall) :
    (scroller.placedAll calls).map PlacedPair.bytes = calls.flatMap TextCall.pairs := by
  induction calls generalizing scroller with
  | nil => rfl
  | cons call rest inductionHypothesis =>
      have first : (scroller.placedBy call).map PlacedPair.bytes = call.pairs := by
        cases call with
        | addByte byte => rfl
        | locate row column => rfl
        | addBytes bytes => exact bytes_placed scroller bytes
      rw [placedAll, List.map_append, first, inductionHypothesis, List.flatMap_cons]

end Scroller

/--
Cells that pairs lie in: each pair in one row, no two of them over each other,
and no byte from `0x80` on but in a pair.
-/
structure Tiled
    (size : FontSize)
    (cells : Nat → Nat → UInt8)
    (pairs : List PlacedPair) :
    Prop where
  inRow : ∀ pair ∈ pairs, pair.column + 1 < size.columns
  leads : ∀ pair ∈ pairs, 0x80 ≤ pair.lead
  lead : ∀ pair ∈ pairs, cells pair.row pair.column = pair.lead
  trail : ∀ pair ∈ pairs, cells pair.row (pair.column + 1) = pair.trail
  apart : ∀ pair ∈ pairs, PlacedPair.NoTrail pairs pair.row pair.column
  covered :
    ∀ row column,
      0x80 ≤ cells row column →
      ∃ pair ∈ pairs, pair.row = row ∧ (pair.column = column ∨ pair.column + 1 = column)

/-- Bytes that stand in the cells of a row, the first of them in a column. -/
def StandAt
    (cells : Nat → UInt8)
    (column : Nat) :
    List UInt8 → Prop
  | [] => True
  | byte :: rest => byte = cells column ∧ StandAt cells (column + 1) rest

/-- Memory that agrees with the cells of a row holds their bytes. -/
theorem standAt_bytes
    {cells : Nat → UInt8}
    {ram : Ram}
    {column address count : Nat}
    (same : ∀ offset, offset < count → ram.byte (address + offset) = cells (column + offset)) :
    StandAt cells column (ram.bytes address count) := by
  induction count generalizing column address with
  | zero => trivial
  | succ rest inductionHypothesis =>
      rw [Ram.bytes_succ]
      refine ⟨same 0 (Nat.zero_lt_succ rest), inductionHypothesis ?_⟩
      intro offset inside
      rw [Nat.add_assoc, Nat.add_assoc, Nat.add_comm 1 offset]
      exact same (offset + 1) (Nat.succ_lt_succ inside)

namespace Tiled

open PlacedPair

variable
  {size : FontSize}
  {cells : Nat → Nat → UInt8}
  {pairs : List PlacedPair}
  (tiled : Tiled size cells pairs)

include tiled

/-- Read from the left, a byte from `0x80` on is the first of a pair. -/
theorem exists_pair
    {row column : Nat}
    (start : NoTrail pairs row column)
    (high : 0x80 ≤ cells row column) :
    ∃ pair ∈ pairs, pair.row = row ∧ pair.column = column := by
  obtain ⟨pair, member, sameRow, here | before⟩ := tiled.covered row column high
  · exact ⟨pair, member, sameRow, here⟩
  · exact absurd before (start pair member sameRow)

/-- A byte below `0x80` is not the first of a pair, so it has no second byte behind it. -/
theorem noTrail_of_low
    {row column : Nat}
    (low : cells row column < 0x80) :
    NoTrail pairs row (column + 1) := by
  rintro pair member rfl before
  obtain rfl : pair.column = column := Nat.succ.inj before
  rw [tiled.lead pair member] at low
  exact UInt8.not_le.mpr low (tiled.leads pair member)

/-- Behind a pair there is no second byte of another. -/
theorem noTrail_of_pair
    {pair : PlacedPair}
    (member : pair ∈ pairs) :
    NoTrail pairs pair.row (pair.column + 2) := by
  intro other otherMember sameRow before
  have overlap := tiled.apart other otherMember pair member sameRow.symm
  omega

/-- Two pairs in one cell are the same. -/
theorem eq_of_cell
    {pair other : PlacedPair}
    (member : pair ∈ pairs)
    (otherMember : other ∈ pairs)
    (sameRow : other.row = pair.row)
    (sameColumn : other.column = pair.column) :
    other = pair := by
  have sameLead : other.lead = pair.lead := by
    rw [← tiled.lead other otherMember, sameRow, sameColumn, tiled.lead pair member]
  have sameTrail : other.trail = pair.trail := by
    rw [← tiled.trail other otherMember, sameRow, sameColumn, tiled.trail pair member]
  exact PlacedPair.ext sameRow sameColumn sameLead sameTrail

/--
Read from a cell where no second byte stands to the end of the row, characters
start at no second byte, those of two cells are pairs, and all pairs from there
on are among them.
-/
theorem characters_of_standAt
    {row start : Nat}
    {bytes : List UInt8}
    (stand : StandAt (cells row) start bytes)
    (ends : start + bytes.length = size.columns)
    (fresh : NoTrail pairs row start) :
    (∀ character ∈ cellCharacters start bytes,
        NoTrail pairs row character.column ∧
          (character.width = 2 → ∃ pair ∈ pairs, pair.row = row ∧ character = pair.character)) ∧
      ∀ pair ∈ pairs,
        pair.row = row →
        start ≤ pair.column →
        pair.character ∈ cellCharacters start bytes := by
  fun_induction cellCharacters start bytes with
  | case1 start =>
      refine ⟨fun _ member => absurd member List.not_mem_nil, ?_⟩
      intro pair member sameRow behind
      have inside := tiled.inRow pair member
      simp only [List.length_nil] at ends
      omega
  | case2 start byte =>
      constructor
      · intro character member
        cases List.mem_singleton.mp member
        exact ⟨fresh, fun double => by cases double⟩
      · intro pair member sameRow behind
        have inside := tiled.inRow pair member
        simp only [List.length_cons, List.length_nil] at ends
        omega
  | case3 start lead next rest single inductionHypothesis =>
      obtain ⟨here, behind⟩ := stand
      rw [here] at single
      have freshNext := tiled.noTrail_of_low single
      obtain ⟨found, complete⟩ :=
        inductionHypothesis behind (by simp only [List.length_cons] at ends ⊢; omega) freshNext
      constructor
      · intro character member
        rcases List.mem_cons.mp member with first | later
        · cases first
          exact ⟨fresh, fun double => by cases double⟩
        · exact found character later
      · intro pair member sameRow onward
        have notHere := freshNext pair member sameRow
        exact List.mem_cons_of_mem _ (complete pair member sameRow (by omega))
  | case4 start lead next rest double inductionHypothesis =>
      -- No second byte stands here, so this one is the first of a pair, and the next is its second.
      obtain ⟨here, nextHere, behind⟩ := stand
      rw [here] at double
      obtain ⟨pair, member, rfl, rfl⟩ := tiled.exists_pair fresh (UInt8.not_lt.mp double)
      have shown :
          { column := pair.column, code := lead.toUInt16 ||| (next.toUInt16 <<< 8), width := 2 } =
            pair.character := by
        rw [here, nextHere, tiled.lead pair member, tiled.trail pair member]
        rfl
      have freshNext := tiled.noTrail_of_pair member
      obtain ⟨found, complete⟩ :=
        inductionHypothesis behind (by simp only [List.length_cons] at ends; omega) freshNext
      rw [shown]
      constructor
      · intro character characterMember
        rcases List.mem_cons.mp characterMember with first | later
        · cases first
          exact ⟨fresh, fun _ => ⟨pair, member, rfl, rfl⟩⟩
        · exact found character later
      · intro other otherMember sameRow onward
        by_cases same : other.column = pair.column
        · rw [tiled.eq_of_cell member otherMember sameRow same]
          exact List.mem_cons_self
        · have notTrail := tiled.apart other otherMember pair member sameRow.symm
          refine List.mem_cons_of_mem _ (complete other otherMember sameRow ?_)
          omega

end Tiled

namespace Stroke

/-- A byte below `0x80` writes a byte below `0x80`, if it writes one. -/
theorem cell_lt
    {byte written : UInt8}
    (low : byte < 0x80)
    (writes : ofByte byte = .cell written) :
    written < 0x80 := by
  unfold ofByte at writes
  split at writes
  · cases writes
  · cases writes
  · cases writes
    decide
  · cases writes
    exact low

/-- A byte of a pair is written as it is. -/
theorem ofByte_of_le
    {byte : UInt8}
    (above : 0x40 ≤ byte) :
    ofByte byte = .cell byte := by
  unfold ofByte
  split
  · exact absurd above (by decide)
  · exact absurd above (by decide)
  · exact absurd above (by decide)
  · rfl

end Stroke

namespace Page

variable {size : FontSize}

/-- Whether the cursor has gone past a cell. -/
def Passed
    (page : Page size)
    (row column : Nat) :
    Prop :=
  row < page.row ∨ row = page.row ∧ column < page.column

/-- The next row passes all cells up to it. -/
theorem passed_nextRow
    {page : Page size}
    {row column : Nat}
    (reached : row ≤ page.row) :
    page.nextRow.Passed row column :=
  .inl (Nat.lt_succ_of_le reached)

/-- Moving on, the cursor goes past its cell, and past all that it had passed. -/
theorem passed_advance
    {page : Page size}
    {row column : Nat}
    (reached : page.Passed row column ∨ row = page.row ∧ column = page.column) :
    page.advance.Passed row column := by
  unfold advance
  unfold Passed at reached
  split
  · unfold Passed
    dsimp only
    omega
  · exact passed_nextRow (by omega)

theorem cells_advance (page : Page size) : page.advance.cells = page.cells := by
  unfold advance
  split
  · rfl
  · rfl

/-- Moving on stays among the columns. -/
theorem column_advance_lt (page : Page size) : page.advance.column < size.columns := by
  unfold advance
  split
  · assumption
  · exact size.columns_pos

/-- A byte for a cell is written there once the row is in view. -/
theorem addByte_of_cell
    (page : Page size)
    {byte written : UInt8}
    (writes : Stroke.ofByte byte = .cell written) :
    page.addByte byte = (page.reveal.write written).advance := by
  rw [addByte, writes]

/-- A page whose cells are tiled with pairs, all of them behind the cursor. -/
structure Whole
    (page : Page size)
    (pairs : List PlacedPair) :
    Prop where
  tiled : Tiled size page.cells pairs
  column_lt : page.column < size.columns
  behind : ∀ pair ∈ pairs, page.Passed pair.row (pair.column + 1)

/-- On a page on which nothing was written there are no pairs. -/
theorem whole_blank (size : FontSize) : (blank size).Whole [] where
  tiled := {
    inRow := nofun
    leads := nofun
    lead := nofun
    trail := nofun
    apart := nofun
    covered := by
      intro row column high
      unfold blank at high
      dsimp only at high
      split at high
      · exact absurd high (by decide)
      · exact absurd high (by decide)
  }
  column_lt := size.columns_pos
  behind := nofun

namespace Whole

variable
  {page : Page size}
  {pairs : List PlacedPair}
  (whole : page.Whole pairs)

include whole

/-- Moving the window down keeps pairs whole. -/
theorem reveal : page.reveal.Whole pairs :=
  ⟨whole.tiled, whole.column_lt, whole.behind⟩

/-- Going to the next row keeps pairs whole. -/
theorem nextRow : page.nextRow.Whole pairs := by
  refine ⟨whole.tiled, size.columns_pos, ?_⟩
  intro pair member
  apply passed_nextRow
  rcases whole.behind pair member with above | ⟨same, _⟩
  · exact Nat.le_of_lt above
  · exact Nat.le_of_eq same

/-- Where only cells that the cursor has not passed are different, pairs are as they were. -/
theorem pair_kept
    {cells : Nat → Nat → UInt8}
    (same : ∀ row column, page.Passed row column → cells row column = page.cells row column)
    {pair : PlacedPair}
    (member : pair ∈ pairs) :
    cells pair.row pair.column = pair.lead ∧ cells pair.row (pair.column + 1) = pair.trail := by
  have second := whole.behind pair member
  have first : page.Passed pair.row pair.column := by
    unfold Passed at second ⊢
    omega
  rw [same _ _ first, same _ _ second]
  exact ⟨whole.tiled.lead pair member, whole.tiled.trail pair member⟩

/-- A byte below `0x80` leaves the pairs as they are. -/
theorem write
    {byte : UInt8}
    (low : byte < 0x80) :
    (page.write byte).Whole pairs := by
  have same :
      ∀ row column,
        page.Passed row column →
        (page.write byte).cells row column = page.cells row column := by
    intro row column passed
    unfold Passed at passed
    exact if_neg (by omega)
  refine ⟨⟨whole.tiled.inRow, whole.tiled.leads, ?_, ?_, whole.tiled.apart, ?_⟩,
    whole.column_lt, whole.behind⟩
  · exact fun pair member => (whole.pair_kept same member).1
  · exact fun pair member => (whole.pair_kept same member).2
  · intro row column high
    change 0x80 ≤ (if row = page.row ∧ column = page.column then byte else _) at high
    split at high
    · exact absurd low (UInt8.not_lt.mpr high)
    · exact whole.tiled.covered row column high

/-- Moving on keeps pairs whole. -/
theorem advance : page.advance.Whole pairs := by
  refine ⟨?_, page.column_advance_lt, ?_⟩
  · rw [cells_advance]
    exact whole.tiled
  · exact fun pair member => passed_advance (.inl (whole.behind pair member))

/-- Adding a byte below `0x80` leaves the pairs as they are. -/
theorem addByte
    {byte : UInt8}
    (low : byte < 0x80) :
    (page.addByte byte).Whole pairs := by
  unfold Page.addByte
  cases writes : Stroke.ofByte byte with
  | nothing => exact whole.reveal
  | newRow => exact whole.reveal.nextRow.reveal
  | cell written => exact (whole.reveal.write (Stroke.cell_lt low writes)).advance

/-- Before a pair the cursor is moved to where both bytes have room in its row. -/
theorem align :
    (Handheld.align Page.addByte Page.atLastColumn page).Whole pairs ∧
      (Handheld.align Page.addByte Page.atLastColumn page).column + 1 < size.columns := by
  have two : 1 < size.columns := by cases size <;> decide
  have inside := whole.column_lt
  unfold Handheld.align Page.atLastColumn
  by_cases last : page.column = size.columns - 1
  · rw [if_pos (decide_eq_true last)]
    refine ⟨whole.addByte (by decide), ?_⟩
    have full : ¬ (page.reveal.write 0x20).column + 1 < size.columns := by
      change ¬ page.column + 1 < size.columns
      omega
    rw [page.addByte_of_cell rfl, Page.advance, if_neg full]
    exact two
  · rw [if_neg (by simpa using last)]
    exact ⟨whole, by omega⟩

/-- A pair written at the cursor lies behind the others, and not over them. -/
theorem tiled_pair
    (room : page.column + 1 < size.columns)
    {cells : Nat → Nat → UInt8}
    {lead trail : UInt8}
    (leads : 0x80 ≤ lead)
    (written :
      ∀ row column,
        cells row column =
          if row = page.row ∧ column = page.column + 1 then
            trail
          else if row = page.row ∧ column = page.column then
            lead
          else
            page.cells row column) :
    Tiled size cells
      (pairs ++ [{ row := page.row, column := page.column, lead := lead, trail := trail }]) := by
  have same :
      ∀ row column, page.Passed row column → cells row column = page.cells row column := by
    intro row column passed
    unfold Passed at passed
    rw [written, if_neg (by omega), if_neg (by omega)]
  have newLead : cells page.row page.column = lead := by
    rw [written, if_neg (by omega), if_pos ⟨rfl, rfl⟩]
  have newTrail : cells page.row (page.column + 1) = trail := by
    rw [written, if_pos ⟨rfl, rfl⟩]
  refine ⟨?_, ?_, ?_, ?_, ?_, ?_⟩
  · exact List.forall_mem_append.mpr ⟨whole.tiled.inRow, List.forall_mem_singleton.mpr room⟩
  · exact List.forall_mem_append.mpr ⟨whole.tiled.leads, List.forall_mem_singleton.mpr leads⟩
  · refine List.forall_mem_append.mpr ⟨?_, List.forall_mem_singleton.mpr newLead⟩
    exact fun pair member => (whole.pair_kept same member).1
  · refine List.forall_mem_append.mpr ⟨?_, List.forall_mem_singleton.mpr newTrail⟩
    exact fun pair member => (whole.pair_kept same member).2
  · -- Of two pairs in one row the older ends before the cursor, at which the newer starts.
    refine List.forall_mem_append.mpr ⟨?_, List.forall_mem_singleton.mpr ?_⟩
    · intro pair member
      have behind := whole.behind pair member
      unfold Passed at behind
      refine List.forall_mem_append.mpr ⟨whole.tiled.apart pair member, ?_⟩
      refine List.forall_mem_singleton.mpr ?_
      dsimp only
      omega
    · refine List.forall_mem_append.mpr ⟨?_, List.forall_mem_singleton.mpr ?_⟩
      · intro other member
        have behind := whole.behind other member
        unfold Passed at behind
        dsimp only
        omega
      · exact fun _ => Nat.succ_ne_self _
  · intro row column high
    rw [written] at high
    split at high
    · rename_i second
      exact ⟨_, List.mem_append_right _ List.mem_cons_self, second.1.symm, .inr second.2.symm⟩
    · split at high
      · rename_i first
        exact ⟨_, List.mem_append_right _ List.mem_cons_self, first.1.symm, .inl first.2.symm⟩
      · obtain ⟨pair, member, place⟩ := whole.tiled.covered row column high
        exact ⟨pair, List.mem_append_left _ member, place⟩

/-- With room for both bytes, a pair is written at the cursor. -/
theorem addPair
    (room : page.column + 1 < size.columns)
    {lead trail : UInt8}
    (leads : 0x80 ≤ lead)
    (trails : 0x40 ≤ trail) :
    ((page.addByte lead).addByte trail).Whole
      (pairs ++ [{ row := page.row, column := page.column, lead := lead, trail := trail }]) := by
  let half : Page size := { page.reveal.write lead with column := page.column + 1 }
  have first : page.addByte lead = half := by
    rw [page.addByte_of_cell (Stroke.ofByte_of_le (UInt8.le_trans (by decide) leads))]
    exact if_pos room
  rw [first, half.addByte_of_cell (Stroke.ofByte_of_le trails)]
  refine ⟨?_, column_advance_lt _, ?_⟩
  · rw [cells_advance]
    exact whole.tiled_pair room leads fun _ _ => rfl
  · refine List.forall_mem_append.mpr ⟨?_, List.forall_mem_singleton.mpr ?_⟩
    · intro pair member
      rcases whole.behind pair member with above | ⟨sameRow, before⟩
      · exact passed_advance (.inl (.inl above))
      · exact passed_advance (.inl (.inr ⟨sameRow, Nat.lt_succ_of_lt before⟩))
    · exact passed_advance (.inr ⟨rfl, rfl⟩)

end Whole

namespace Shown

variable
  {page : Page size}
  {scroller : Scroller}
  (shown : page.Shown scroller)

include shown

/-- A page is aligned as its grid is. -/
theorem align :
    (Handheld.align Page.addByte Page.atLastColumn page).Shown
      (Handheld.align Scroller.addByte Scroller.atLastColumn scroller) := by
  unfold Handheld.align
  rw [shown.atLastColumn]
  split
  · exact shown.addByte 0x20
  · exact shown

/-- Whole characters are written as whole characters. -/
theorem whole_spread
    {pairs : List PlacedPair}
    (whole : page.Whole pairs)
    {bytes : List UInt8}
    (wholeText : WholeText bytes) :
    (spread Page.addByte Page.atLastColumn page bytes).Whole (pairs ++ scroller.placed bytes) := by
  induction wholeText generalizing page scroller pairs with
  | nil =>
      rw [Scroller.placed, List.append_nil]
      exact whole
  | single below _ inductionHypothesis =>
      rw [spread_of_lt _ _ _ below, scroller.placed_of_lt below]
      exact inductionHypothesis (shown.addByte _) (whole.addByte below)
  | pair leads trails _ inductionHypothesis =>
      obtain ⟨ready, room⟩ := whole.align
      have aligned := shown.align
      have next := inductionHypothesis ((aligned.addByte _).addByte _)
        (ready.addPair room leads trails)
      rw [spread, if_neg (UInt8.not_lt.mpr leads), Scroller.placed,
        if_neg (UInt8.not_lt.mpr leads)]
      dsimp only
      rw [List.append_cons, ← aligned.row, ← aligned.column]
      exact next

/-- A call that writes whole characters keeps the page whole. -/
theorem whole_perform
    {pairs : List PlacedPair}
    (whole : page.Whole pairs)
    {call : TextCall}
    (wholeCall : call.Whole) :
    (page.perform call).Whole (pairs ++ scroller.placedBy call) := by
  cases call with
  | addByte byte =>
      rw [Scroller.placedBy, List.append_nil]
      exact whole.addByte wholeCall
  | addBytes bytes => exact shown.whole_spread whole wholeCall
  | locate row column => exact wholeCall.elim

/-- Calls with whole characters keep pairs whole and add their own. -/
theorem whole_performAll
    {pairs : List PlacedPair}
    (whole : page.Whole pairs)
    {calls : List TextCall}
    (wholeCalls : ∀ call ∈ calls, call.Whole) :
    (calls.foldl Page.perform page).Whole (pairs ++ scroller.placedAll calls) := by
  induction calls generalizing page scroller pairs with
  | nil =>
      rw [Scroller.placedAll, List.append_nil]
      exact whole
  | cons call rest inductionHypothesis =>
      rw [Scroller.placedAll, ← List.append_assoc]
      apply inductionHypothesis (shown.perform call)
      · exact shown.whole_perform whole (wholeCalls call List.mem_cons_self)
      · exact fun later member => wholeCalls later (List.mem_cons_of_mem call member)

end Shown

end Page

namespace TextGrid

/--
Characters of two bytes are never split or paired anew.

After calls that write whole characters from a reset on, `placed` lists the pairs
that were written, in order, with the cell of their first byte. The characters of
two cells that are read from a row of the grid are exactly the pairs that were
written there; none of them reaches past the end of its row, and no character is
read from the second byte of a pair on.
-/
theorem pairs_stay_whole
    (grid : TextGrid)
    (ram : Ram)
    (calls : List TextCall)
    (whole : ∀ call ∈ calls, call.Whole) :
    let text := calls.foldl perform (grid.reset ram)
    let counted := calls.foldl Scroller.perform (Scroller.start grid ram)
    let placed := (Scroller.start grid ram).placedAll calls
    counted.text = text ∧
      placed.map PlacedPair.bytes = calls.flatMap TextCall.pairs ∧
      ∀ row,
        row < grid.size.rows →
        let found := cellCharacters 0 (cells grid.size text.2 row)
        (∀ character,
          character ∈ found ∧ character.width = 2 ↔
            ∃ pair ∈ placed, pair.row = counted.scrolls + row ∧ character = pair.character) ∧
          ∀ pair ∈ placed,
            pair.row = counted.scrolls + row →
            pair.column + 1 < grid.size.columns ∧
              ∀ character ∈ found, character.column ≠ pair.column + 1 := by
  intro text counted placed
  have sameText : counted.text = text := Scroller.text_performAll (Scroller.start grid ram) calls
  refine ⟨sameText, Scroller.bytes_placedAll (Scroller.start grid ram) calls, ?_⟩
  have blank := Page.shown_blank grid ram
  have shown := blank.performAll calls
  have tiled : Tiled grid.size _ placed :=
    (blank.whole_performAll (Page.whole_blank grid.size) whole).tiled
  rw [← sameText]
  intro row inside found
  have stand :
      StandAt ((calls.foldl Page.perform (Page.blank grid.size)).cells (counted.scrolls + row)) 0
        (cells grid.size counted.text.2 row) := by
    apply standAt_bytes
    intro column insideColumn
    rw [Nat.zero_add]
    exact (congrArg _ (Nat.add_assoc _ _ _)).trans (shown.cells row column inside insideColumn)
  have ends : 0 + (cells grid.size counted.text.2 row).length = grid.size.columns := by
    rw [Nat.zero_add]
    exact Ram.length_bytes _ _ _
  obtain ⟨sound, complete⟩ :=
    tiled.characters_of_standAt stand ends fun _ _ _ => Nat.succ_ne_zero _
  refine ⟨?_, ?_⟩
  · intro character
    constructor
    · rintro ⟨member, double⟩
      exact (sound character member).2 double
    · rintro ⟨pair, member, sameRow, rfl⟩
      exact ⟨complete pair member sameRow (Nat.zero_le _), rfl⟩
  · intro pair member sameRow
    refine ⟨tiled.inRow pair member, ?_⟩
    intro character characterMember same
    exact (sound character characterMember).1 pair member sameRow same.symm

/-- Nineteen letters, a pair for which the first row has no room, and a line feed. -/
def pairAtEdge : List TextCall :=
  [.addBytes (List.replicate 19 0x78 ++ [0xb0, 0xa1]), .addByte 0x0a]

theorem pairAtEdge_in_second_row :
    let text := pairAtEdge.foldl perform (({} : TextGrid).reset Ram.blank)
    { column := 0, code := 0xa1b0, width := 2 } ∈ cellCharacters 0 (cells .large text.2 1) ∧
      (∀ character ∈ cellCharacters 0 (cells .large text.2 1), character.column ≠ 1) ∧
      ∀ character ∈ cellCharacters 0 (cells .large text.2 0), character.width ≠ 2 := by
  have placed :
      (Scroller.start {} Ram.blank).placedAll pairAtEdge =
        [{ row := 1, column := 0, lead := 0xb0, trail := 0xa1 }] := by
    decide +kernel
  have unmoved :
      (pairAtEdge.foldl Scroller.perform (Scroller.start {} Ram.blank)).scrolls = 0 := by
    decide +kernel
  obtain ⟨_, _, rows⟩ := pairs_stay_whole {} Ram.blank pairAtEdge (by decide)
  rw [placed, unmoved] at rows
  obtain ⟨second, apart⟩ := rows 1 (by decide)
  obtain ⟨first, _⟩ := rows 0 (by decide)
  refine ⟨?_, ?_, ?_⟩
  · exact ((second _).mpr ⟨_, List.mem_cons_self, rfl, rfl⟩).1
  · exact (apart _ List.mem_cons_self rfl).2
  · intro character member double
    obtain ⟨pair, pairMember, row, _⟩ := (first character).mp ⟨member, double⟩
    cases List.mem_singleton.mp pairMember
    cases row

end TextGrid

end Handheld
