import Mathlib.Algebra.GroupWithZero.Nat
import Mathlib.Data.List.Forall2
import Mathlib.Order.Bounds.Defs
import RobotMaze.Console.Output
import RobotMaze.Proofs.Text.Split

/-! # Tables of the command line — every cell in its column

    All lines of a table put their columns at the same places, however many cells
    a row has and however long they are:

    * `span_intercalate` — pieces with a gap between them are found again at the
      places that their lengths give;
    * `isGreatest_columnWidth` — a column is as wide as its widest cell, up to 40
      characters;
    * `stands_fill` — what a cell looks like in its column;
    * `inColumns_of_pieces` — so pieces that stand for cells make a line in columns;
    * `render_shows` — the lines of a table, one by one. -/

namespace RobotMaze.Console.Table

/-! ## Places -/

/-- Where a column begins: behind the columns before it, with a gap after each. -/
def offset (widths : List Nat) (i : Nat) : Nat := ((widths.take i).map (· + 2)).sum

/-- So many characters of a line from a place on. -/
def span (line : List Char) (start width : Nat) : List Char := (line.drop start).take width

/-- The width of all columns with the gaps between them. -/
def fullWidth (widths : List Nat) : Nat := widths.sum + 2 * (widths.length - 1)

theorem offset_succ (w : Nat) (widths : List Nat) (i : Nat) :
    offset (w :: widths) (i + 1) = w + 2 + offset widths i := by
  simp only [offset, List.take_succ_cons, List.map_cons, List.sum_cons]

theorem fullWidth_cons_cons (w v : Nat) (widths : List Nat) :
    fullWidth (w :: v :: widths) = w + 2 + fullWidth (v :: widths) := by
  simp only [fullWidth, List.sum_cons, List.length_cons]
  omega

/-- Passing over a text that is as long as the start of the span leaves the span as it is. -/
theorem span_append (front line : List Char) (start width : Nat) :
    span (front ++ line) (front.length + start) width = span line start width := by
  rw [span, List.drop_append, List.drop_eq_nil_of_le (by omega), List.nil_append,
    Nat.add_sub_cancel_left]
  rfl

section Pieces

variable {pieces : List (List Char)}

theorem length_intercalate_gap :
    (gap.toList.intercalate pieces).length = fullWidth (pieces.map List.length) := by
  induction pieces with
  | nil => rfl
  | cons piece rest ih =>
      cases rest with
      | nil =>
          rw [List.intercalate_singleton]
          simp [fullWidth]
      | cons next more =>
          rw [List.intercalate_cons_cons, List.length_append, List.length_append, ih]
          simp only [List.map_cons, fullWidth_cons_cons]
          rfl

/-- Behind the first piece and its gap there are the others. -/
theorem span_intercalate_cons (piece next : List Char) (more : List (List Char))
    (start width : Nat) :
    span (gap.toList.intercalate (piece :: next :: more)) (piece.length + 2 + start) width
      = span (gap.toList.intercalate (next :: more)) start width := by
  rw [List.intercalate_cons_cons]
  show span (piece ++ gap.toList ++ _) (piece.length + gap.toList.length + start) width = _
  rw [← List.length_append, span_append]

/-- Pieces with a gap between them are found at the places that their lengths give. -/
theorem span_intercalate {i : Nat} (hi : i < pieces.length) :
    span (gap.toList.intercalate pieces) (offset (pieces.map List.length) i) pieces[i].length
      = pieces[i] := by
  induction pieces generalizing i with
  | nil => exact absurd hi (Nat.not_lt_zero i)
  | cons piece rest ih =>
      cases i with
      | zero =>
          show (gap.toList.intercalate (piece :: rest)).take piece.length = piece
          cases rest with
          | nil =>
              rw [List.intercalate_singleton]
              exact List.take_length
          | cons next more =>
              rw [List.intercalate_cons_cons, List.append_assoc]
              exact List.take_left
      | succ i =>
          have hi : i < rest.length := Nat.lt_of_succ_lt_succ hi
          obtain ⟨next, more, rfl⟩ :=
            List.exists_cons_of_ne_nil (List.ne_nil_of_length_pos (Nat.zero_lt_of_lt hi))
          rw [List.map_cons, offset_succ, span_intercalate_cons]
          exact ih hi

/-- Behind every piece but the last one there is the gap. -/
theorem span_gap {i : Nat} (hi : i + 1 < pieces.length) :
    span (gap.toList.intercalate pieces)
      (offset (pieces.map List.length) i + pieces[i].length) 2 = gap.toList := by
  induction pieces generalizing i with
  | nil => exact absurd hi (Nat.not_lt_zero _)
  | cons piece rest ih =>
      have hi : i < rest.length := Nat.lt_of_succ_lt_succ hi
      obtain ⟨next, more, rfl⟩ :=
        List.exists_cons_of_ne_nil (List.ne_nil_of_length_pos (Nat.zero_lt_of_lt hi))
      cases i with
      | zero =>
          rw [List.intercalate_cons_cons]
          show span _ (0 + piece.length) 2 = _
          rw [Nat.zero_add, List.append_assoc]
          exact (span_append _ _ 0 2).trans (@List.take_left Char gap.toList _)
      | succ i =>
          rw [List.map_cons, offset_succ, Nat.add_assoc, span_intercalate_cons]
          exact ih hi

end Pieces

/-! ## Widths -/

section Widths

variable {headers : List String} {rows : List (List String)}

/-- The lengths of a header and of the cells below it; a row may be too short to have one. -/
def lengthsBelow (header : String) (rows : List (List String)) (i : Nat) : Set Nat :=
  { n | n = header.length ∨ ∃ row ∈ rows, ∃ cell ∈ row[i]?, n = cell.length }

theorem length_widths : (widths headers rows).length = headers.length :=
  List.length_mapIdx

/-- A column is as wide as the longest of its texts, up to a limit. -/
theorem isGreatest_columnWidth {i : Nat} (hi : i < headers.length) :
    ∃ most, IsGreatest (lengthsBelow headers[i] rows i) most
      ∧ (widths headers rows)[i]? = some (min maxWidth most) := by
  let lengths := (rows.filterMap fun row => row[i]?).map String.length
  have hmem : ∀ n, n ∈ headers[i].length :: lengths ↔ n ∈ lengthsBelow headers[i] rows i := by
    intro n
    simp only [lengths, List.mem_cons, List.mem_map, List.mem_filterMap]
    constructor
    · rintro (hn | ⟨cell, ⟨row, hrow, hcell⟩, hn⟩)
      · exact .inl hn
      · exact .inr ⟨row, hrow, cell, hcell, hn.symm⟩
    · rintro (hn | ⟨row, hrow, cell, hcell, hn⟩)
      · exact .inl hn
      · exact .inr ⟨cell, ⟨row, hrow, hcell⟩, hn.symm⟩
  obtain ⟨hmost, hle⟩ := List.max?_eq_some_iff.mp
    (List.max?_cons' : (headers[i].length :: lengths).max? = _)
  refine ⟨_, ⟨(hmem _).mp hmost, fun n hn => hle n ((hmem n).mpr hn)⟩, ?_⟩
  rw [widths, List.getElem?_mapIdx, List.getElem?_eq_getElem hi]
  rfl

/-- No column is empty, since no header is. -/
theorem widths_pos (hheaders : ∀ header ∈ headers, header ≠ "") :
    ∀ width ∈ widths headers rows, 0 < width := by
  intro width hwidth
  obtain ⟨i, hi, hget⟩ := List.mem_iff_getElem.mp hwidth
  have hheader : i < headers.length := length_widths ▸ hi
  obtain ⟨most, ⟨-, hmost⟩, hsome⟩ := @isGreatest_columnWidth _ rows i hheader
  have hle : headers[i].length ≤ most := hmost (.inl rfl)
  have hpos : 0 < headers[i].length := Nat.pos_of_ne_zero fun hzero =>
    hheaders _ (List.getElem_mem hheader) (String.length_eq_zero_iff.mp hzero)
  rw [List.getElem?_eq_getElem hi, hget] at hsome
  rw [Option.some.inj hsome]
  exact Nat.lt_min.mpr ⟨by decide, Nat.lt_of_lt_of_le hpos hle⟩

end Widths

/-! ## Cells -/

/-- The characters of a column stand for a text: for all of it, or if it is too long for its
    beginning with a mark at the end; blanks fill the column up on one side. -/
structure Stands (width : Nat) (text : String) (column : List Char) : Prop where
  length_eq : column.length = width
  filled : ∃ left shown right,
    column = List.replicate left ' ' ++ shown ++ List.replicate right ' '
      ∧ (left = 0 ∨ right = 0)
      ∧ (text.length ≤ width → shown = text.toList)
      ∧ (width < text.length → shown = text.toList.take (width - 1) ++ ['…'])

theorem length_cut_le {width : Nat} (hwidth : 0 < width) (text : String) :
    (cut width text).length ≤ width := by
  rw [cut]
  split
  · assumption
  · rw [String.length_ofList, List.length_append, List.length_take]
    show min (width - 1) _ + 1 ≤ width
    omega

/-- A text is filled up with blanks on one side. -/
theorem exists_toList_fill (width : Nat) (atRight : Bool) (text : String) : ∃ left right,
    (fill width atRight text).toList
        = List.replicate left ' ' ++ text.toList ++ List.replicate right ' '
      ∧ left + right = width - text.length ∧ (left = 0 ∨ right = 0) := by
  cases atRight with
  | false =>
      refine ⟨0, width - text.length, ?_, Nat.zero_add _, .inl rfl⟩
      show (text ++ String.ofList _).toList = _
      rw [String.toList_append, String.toList_ofList]
      rfl
  | true =>
      refine ⟨width - text.length, 0, ?_, Nat.add_zero _, .inr rfl⟩
      show (String.ofList _ ++ text).toList = _
      rw [String.toList_append, String.toList_ofList, List.replicate_zero, List.append_nil]

/-- A text that was cut to a width and filled up to it stands in a column of that width. -/
theorem stands_fill {width : Nat} (hwidth : 0 < width) (atRight : Bool) (text : String) :
    Stands width text (fill width atRight (cut width text)).toList := by
  obtain ⟨left, right, htoList, hsum, hside⟩ :=
    exists_toList_fill width atRight (cut width text)
  have hle := length_cut_le hwidth text
  constructor
  · rw [htoList, List.length_append, List.length_append, List.length_replicate,
      List.length_replicate, String.length_toList]
    omega
  · refine ⟨left, (cut width text).toList, right, htoList, hside, ?_, ?_⟩
    · intro hfits
      rw [cut, if_pos hfits]
    · intro hlong
      rw [cut, if_neg (Nat.not_le.mpr hlong), String.toList_ofList]

/-- A column has no characters but blanks, the mark and those of its text. -/
theorem Stands.mem {width : Nat} {text : String} {column : List Char} (h : Stands width text column)
    {c : Char} (hc : c ∈ column) : c = ' ' ∨ c = '…' ∨ c ∈ text.toList := by
  obtain ⟨left, shown, right, rfl, -, hwhole, hmarked⟩ := h.filled
  rcases List.mem_append.mp hc with hc | hc
  · rcases List.mem_append.mp hc with hc | hc
    · exact .inl (List.eq_of_mem_replicate hc)
    · by_cases hfits : text.length ≤ width
      · exact .inr (.inr (hwhole hfits ▸ hc))
      · rw [hmarked (Nat.not_le.mp hfits)] at hc
        rcases List.mem_append.mp hc with hc | hc
        · exact .inr (.inr (List.mem_of_mem_take hc))
        · exact .inr (.inl (List.mem_singleton.mp hc))
  · exact .inl (List.eq_of_mem_replicate hc)

/-! ## Lines -/

/-- The text in a column of a row; a missing cell counts as a hyphen. -/
def cellOf (row : List String) (i : Nat) : String := (row[i]?).getD "-"

/-- In a full line every column stands at its place, with two blanks behind it if another one
    follows. -/
structure InColumns (widths : List Nat) (row : List String) (full : String) : Prop where
  length_eq : full.length = fullWidth widths
  column : ∀ i width, widths[i]? = some width →
    Stands width (cellOf row i) (span full.toList (offset widths i) width)
  gap : ∀ i width, widths[i]? = some width → i + 1 < widths.length →
    span full.toList (offset widths i + width) 2 = [' ', ' ']

/-- A line shows a row: it is a full line without the white space at its end. -/
def ShowsRow (widths : List Nat) (row : List String) (line : String) : Prop :=
  ∃ full, InColumns widths row full ∧ line = Text.trimEnd full

section Lines

variable {widths : List Nat} {row pieces : List String}

/-- Pieces that stand for the cells of a row make a full line. -/
theorem inColumns_of_pieces (hlength : pieces.length = widths.length)
    (hstands : ∀ i piece width, pieces[i]? = some piece → widths[i]? = some width →
      Stands width (cellOf row i) piece.toList) :
    InColumns widths row (gap.intercalate pieces) := by
  let columns := pieces.map String.toList
  have hcolumn : ∀ i width, widths[i]? = some width →
      ∃ hi : i < columns.length, Stands width (cellOf row i) columns[i] := by
    intro i width hwidth
    have hi : i < pieces.length := hlength ▸ (List.getElem?_eq_some_iff.mp hwidth).1
    refine ⟨by simpa [columns] using hi, ?_⟩
    rw [List.getElem_map]
    exact hstands i _ width (List.getElem?_eq_getElem hi) hwidth
  have hwidths : columns.map List.length = widths := by
    refine List.ext_getElem (by simp [columns, hlength]) ?_
    intro i _ hi
    obtain ⟨_, hstand⟩ := hcolumn i _ (List.getElem?_eq_getElem hi)
    rw [List.getElem_map]
    exact hstand.length_eq
  have hfull : (gap.intercalate pieces).toList = gap.toList.intercalate columns :=
    String.toList_intercalate
  refine ⟨?_, ?_, ?_⟩
  · rw [← String.length_toList, hfull, length_intercalate_gap, hwidths]
  · intro i width hwidth
    obtain ⟨hi, hstand⟩ := hcolumn i width hwidth
    have hspan := span_intercalate hi
    rw [hwidths, hstand.length_eq] at hspan
    rw [hfull, hspan]
    exact hstand
  · intro i width hwidth hnext
    obtain ⟨_, hstand⟩ := hcolumn i width hwidth
    have hnext : i + 1 < columns.length := by simpa [columns, hlength] using hnext
    have hspan := span_gap hnext
    rw [hwidths, hstand.length_eq] at hspan
    rw [hfull, hspan]
    rfl

variable (hwidths : ∀ width ∈ widths, 0 < width)
include hwidths

theorem inColumns_showRow (row : List String) : InColumns widths row (showRow widths row) := by
  refine inColumns_of_pieces List.length_mapIdx ?_
  intro i piece width hpiece hwidth
  rw [List.getElem?_mapIdx, hwidth] at hpiece
  obtain rfl := Option.some.inj hpiece
  show Stands width (cellOf row i) (showCell width (cellOf row i)).toList
  rw [showCell]
  exact stands_fill (hwidths width (List.mem_of_getElem? hwidth)) _ _

theorem inColumns_showHeaders {headers : List String} (hlength : headers.length = widths.length) :
    InColumns widths headers (showHeaders widths headers) := by
  refine inColumns_of_pieces (by simp [hlength]) ?_
  intro i piece width hpiece hwidth
  have hi : i < headers.length := hlength ▸ (List.getElem?_eq_some_iff.mp hwidth).1
  rw [List.getElem?_zipWith, hwidth, List.getElem?_eq_getElem hi] at hpiece
  obtain rfl := Option.some.inj hpiece
  rw [cellOf, List.getElem?_eq_getElem hi]
  exact stands_fill (hwidths width (List.mem_of_getElem? hwidth)) _ _

end Lines

/-! ## Line breaks -/

/-- A line has no line break if none of its pieces has one. -/
theorem newline_not_mem_line {pieces : List String} (h : ∀ piece ∈ pieces, '\n' ∉ piece.toList) :
    '\n' ∉ (Text.trimEnd (gap.intercalate pieces)).toList := by
  have hall : (gap.intercalate pieces).toList.all (· ≠ '\n') = true := by
    rw [String.toList_intercalate, Text.all_intercalate (by decide), List.all_map]
    refine List.all_eq_true.mpr fun piece hpiece => List.all_eq_true.mpr fun c hc => ?_
    exact decide_eq_true fun hnewline => h piece hpiece (hnewline ▸ hc)
  intro hmem
  obtain ⟨blanks, hsplit, -⟩ := Text.dropBlankEnd_append_blank (gap.intercalate pieces).toList
  rw [Text.trimEnd, String.toList_ofList] at hmem
  have hfull : '\n' ∈ (gap.intercalate pieces).toList := hsplit ▸ List.mem_append_left _ hmem
  exact of_decide_eq_true (List.all_eq_true.mp hall _ hfull) rfl

theorem newline_not_mem_fill {width : Nat} (hwidth : 0 < width) (atRight : Bool) {text : String}
    (htext : '\n' ∉ text.toList) : '\n' ∉ (fill width atRight (cut width text)).toList := by
  intro hmem
  rcases (stands_fill hwidth atRight text).mem hmem with h | h | h
  · exact absurd h (by decide)
  · exact absurd h (by decide)
  · exact htext h

section LineBreaks

variable {widths : List Nat} (hwidths : ∀ width ∈ widths, 0 < width)
include hwidths

theorem newline_not_mem_showRow {row : List String} (hrow : ∀ cell ∈ row, '\n' ∉ cell.toList) :
    '\n' ∉ (Text.trimEnd (showRow widths row)).toList := by
  refine newline_not_mem_line fun piece hpiece => ?_
  obtain ⟨i, hi, rfl⟩ := List.mem_mapIdx.mp hpiece
  rw [showCell]
  refine newline_not_mem_fill (hwidths _ (List.getElem_mem hi)) _ ?_
  cases hcell : row[i]? with
  | none => exact (by decide : '\n' ∉ "-".toList)
  | some cell => exact hrow cell (List.mem_of_getElem? hcell)

theorem newline_not_mem_showHeaders {headers : List String}
    (hheaders : ∀ header ∈ headers, '\n' ∉ header.toList) :
    '\n' ∉ (Text.trimEnd (showHeaders widths headers)).toList := by
  refine newline_not_mem_line fun piece hpiece => ?_
  rw [← List.map_uncurry_zip_eq_zipWith] at hpiece
  obtain ⟨⟨header, width⟩, hpair, rfl⟩ := List.mem_map.mp hpiece
  obtain ⟨hheader, hwidth⟩ := List.of_mem_zip hpair
  exact newline_not_mem_fill (hwidths width hwidth) false (hheaders header hheader)

end LineBreaks

/-! ## Tables -/

/-- A table has a line for the headers, a divider and a line for each row, and no more.  Every
    column is as wide as its longest text, up to 40 characters; every line shows its texts in these
    columns, and the divider is as wide as the line of the headers is before the white space at
    its end is cut off. -/
theorem render_shows {headers : List String} {rows : List (List String)}
    (hheaders : ∀ header ∈ headers, header ≠ "" ∧ '\n' ∉ header.toList)
    (hrows : ∀ row ∈ rows, ∀ cell ∈ row, '\n' ∉ cell.toList) :
    let columns := widths headers rows
    let lines := Text.split '\n' (render headers rows)
    lines.length = 2 + rows.length
    ∧ columns.length = headers.length
    ∧ (∀ i (hi : i < headers.length), ∃ most,
        IsGreatest (lengthsBelow headers[i] rows i) most ∧ columns[i]? = some (min 40 most))
    ∧ ∃ top rest, InColumns columns headers top
      ∧ lines = Text.trimEnd top :: String.ofList (List.replicate top.length '-') :: rest
      ∧ List.Forall₂ (ShowsRow columns) rows rest := by
  intro columns lines
  have hwidths : ∀ width ∈ columns, 0 < width :=
    widths_pos fun header hheader => (hheaders header hheader).1
  have hlength : columns.length = headers.length := length_widths
  let top := showHeaders columns headers
  let rest := rows.map fun row => Text.trimEnd (showRow columns row)
  have hlines : lines
      = Text.trimEnd top :: String.ofList (List.replicate top.length '-') :: rest := by
    refine Text.split_intercalate rfl (List.cons_ne_nil _ _) ?_
    refine List.forall_mem_cons.mpr ⟨?_, List.forall_mem_cons.mpr ⟨?_, ?_⟩⟩
    · exact newline_not_mem_showHeaders hwidths fun header hheader => (hheaders header hheader).2
    · rw [String.toList_ofList]
      exact fun hmem => absurd (List.eq_of_mem_replicate hmem) (by decide)
    · intro line hline
      obtain ⟨row, hrow, rfl⟩ := List.mem_map.mp hline
      exact newline_not_mem_showRow hwidths (hrows row hrow)
  refine ⟨?_, hlength, fun i hi => isGreatest_columnWidth hi, top, rest,
    inColumns_showHeaders hwidths hlength.symm, hlines, ?_⟩
  · rw [hlines]
    simp only [rest, List.length_cons, List.length_map]
    omega
  · refine List.forall₂_map_right_iff.mpr (List.forall₂_same.mpr ?_)
    intro row _
    exact ⟨_, inColumns_showRow hwidths row, rfl⟩

/-- A row that is too short, and one that is too long with a cell that is too wide. -/
theorem render_shows_ragged :
    let headers := ["id", "größe"]
    let rows := [["7"], ["120", String.ofList (List.replicate 41 'x'), "more"]]
    (∀ header ∈ headers, header ≠ "" ∧ '\n' ∉ header.toList)
    ∧ (∀ row ∈ rows, ∀ cell ∈ row, '\n' ∉ cell.toList)
    ∧ widths headers rows = [3, 40]
    ∧ ∃ top rest, InColumns [3, 40] headers top
      ∧ Text.split '\n' (render headers rows)
        = Text.trimEnd top :: String.ofList (List.replicate top.length '-') :: rest
      ∧ List.Forall₂ (ShowsRow [3, 40]) rows rest := by
  intro headers rows
  have hheaders : ∀ header ∈ headers, header ≠ "" ∧ '\n' ∉ header.toList := by decide
  have hrows : ∀ row ∈ rows, ∀ cell ∈ row, '\n' ∉ cell.toList := by decide +kernel
  have hwidths : widths headers rows = [3, 40] := by decide +kernel
  obtain ⟨-, -, -, htable⟩ := render_shows hheaders hrows
  exact ⟨hheaders, hrows, hwidths, hwidths ▸ htable⟩

end RobotMaze.Console.Table
