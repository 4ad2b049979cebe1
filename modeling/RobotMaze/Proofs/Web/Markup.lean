import RobotMaze.Proofs.Text.Split
import RobotMaze.Web.Html

/-! # Tables and lists that are read back

    The text of a page is cut at its tags, and the references in what stands between
    them are replaced by the characters they stand for.

    * `unescape_escape` — a text is read back from its escaped form, whatever it looks
      like;
    * `marks`, `marks_join` — tags and the texts after them are read back where no tag
      has a tag's brackets in it;
    * `table_eq`, `summary_eq` — a table and a list of labelled values are tags and
      texts in a row;
    * `contents_read_back` — so their contents can be read back from them, and the tags in them
      are known from the number of their cells. -/

namespace RobotMaze.Web.Html

/-! ## Escaped texts -/

/-- A text with each of the five references replaced by the character that it stands for. -/
def unescapeChars : List Char → List Char
  | '&' :: 'a' :: 'm' :: 'p' :: ';' :: rest => '&' :: unescapeChars rest
  | '&' :: 'l' :: 't' :: ';' :: rest => '<' :: unescapeChars rest
  | '&' :: 'g' :: 't' :: ';' :: rest => '>' :: unescapeChars rest
  | '&' :: 'q' :: 'u' :: 'o' :: 't' :: ';' :: rest => '"' :: unescapeChars rest
  | '&' :: '#' :: '3' :: '9' :: ';' :: rest => '\'' :: unescapeChars rest
  | c :: rest => c :: unescapeChars rest
  | [] => []

/-- A text with each of the five references replaced by the character that it stands for. -/
def unescape (text : String) : String := String.ofList (unescapeChars text.toList)

/-- A character that begins no escape stands for itself. -/
theorem unescapeChars_cons {c : Char} (hc : c ≠ '&') (rest : List Char) :
    unescapeChars (c :: rest) = c :: unescapeChars rest := by
  rw [unescapeChars] <;> rintro _ rfl <;> exact absurd rfl hc

/-- The written form of a character is read back as that character. -/
theorem unescapeChars_escapeChar (c : Char) (rest : List Char) :
    unescapeChars (escapeChar c ++ rest) = c :: unescapeChars rest := by
  simp only [escapeChar]
  by_cases hamp : c = '&'
  · rw [if_pos hamp, hamp]
    rfl
  rw [if_neg hamp]
  by_cases hless : c = '<'
  · rw [if_pos hless, hless]
    rfl
  rw [if_neg hless]
  by_cases hgreater : c = '>'
  · rw [if_pos hgreater, hgreater]
    rfl
  rw [if_neg hgreater]
  by_cases hquote : c = '"'
  · rw [if_pos hquote, hquote]
    rfl
  rw [if_neg hquote]
  by_cases happos : c = '\''
  · rw [if_pos happos, happos]
    rfl
  · rw [if_neg happos]
    exact unescapeChars_cons hamp rest

/-- An escaped text is read back. -/
theorem unescape_escape (text : String) : unescape (escape text) = text := by
  have hchars : ∀ cs : List Char, unescapeChars (cs.flatMap escapeChar) = cs := by
    intro cs
    induction cs with
    | nil => rfl
    | cons c cs ih => rw [List.flatMap_cons, unescapeChars_escapeChar, ih]
  rw [unescape, escape, String.toList_ofList, hchars, String.ofList_toList]

/-- An escaped text has neither bracket of a tag nor a quotation mark. -/
theorem not_mem_escape (text : String) :
    '<' ∉ (escape text).toList ∧ '>' ∉ (escape text).toList ∧ '"' ∉ (escape text).toList := by
  have hchar : ∀ c : Char, '<' ∉ escapeChar c ∧ '>' ∉ escapeChar c ∧ '"' ∉ escapeChar c := by
    intro c
    simp only [escapeChar]
    split
    · decide
    split
    · decide
    split
    · decide
    split
    · decide
    split
    · decide
    · rename_i hless hgreater hquote _
      simp only [List.mem_singleton]
      exact ⟨Ne.symm hless, Ne.symm hgreater, Ne.symm hquote⟩
  simp only [escape, String.toList_ofList, List.mem_flatMap, not_exists, not_and]
  exact ⟨fun c _ => (hchar c).1, fun c _ => (hchar c).2.1, fun c _ => (hchar c).2.2⟩

/-! ## Tags and the texts after them -/

/-- A tag and the text after it. -/
structure Mark where
  /-- What stands between the brackets. -/
  tag : String
  text : String
  deriving DecidableEq, Repr

namespace Mark

/-- The written form of a tag and a text. -/
def render (m : Mark) : String := "<" ++ m.tag ++ ">" ++ escape m.text

/-- What is read of the characters after an opening bracket. -/
def ofPiece (piece : String) : Mark :=
  match Text.splitOnce? '>' piece with
  | some (tag, text) => ⟨tag, unescape text⟩
  | none => ⟨piece, ""⟩

/-- A tag that does not end before it is over. -/
def IsClean (m : Mark) : Prop := '<' ∉ m.tag.toList ∧ '>' ∉ m.tag.toList

instance : DecidablePred IsClean := fun _ => inferInstanceAs (Decidable (_ ∧ _))

end Mark

/-- The tags of a page and the text after each. -/
def marks (html : String) : List Mark := (Text.split '<' html).tail.map Mark.ofPiece

/-- The tags of a page. -/
def tags (html : String) : List String := (marks html).map Mark.tag

/-- Tags and texts are read back. -/
theorem marks_join {ms : List Mark} (h : ∀ m ∈ ms, m.IsClean) :
    marks (String.join (ms.map Mark.render)) = ms := by
  have hsplit : ∀ lead : List Char, '<' ∉ lead →
      Text.splitChars '<' (lead ++ (String.join (ms.map Mark.render)).toList)
        = lead :: ms.map fun m => m.tag.toList ++ '>' :: (escape m.text).toList := by
    induction ms with
    | nil =>
        intro lead hlead
        simpa using Text.splitChars_of_not_mem hlead
    | cons m ms ih =>
        intro lead hlead
        obtain ⟨hm, hms⟩ := List.forall_mem_cons.mp h
        have hnext : '<' ∉ m.tag.toList ++ '>' :: (escape m.text).toList := by
          simp only [List.mem_append, List.mem_cons, not_or]
          exact ⟨hm.1, by decide, (not_mem_escape m.text).1⟩
        have hmore := ih hms _ hnext
        have hfirst := Text.splitChars_append hlead (m.tag.toList ++ '>' :: (escape m.text).toList
          ++ (String.join (ms.map Mark.render)).toList)
        rw [hmore] at hfirst
        rw [List.map_cons, List.map_cons, ← hfirst]
        simp [Mark.render]
  have hpiece : ∀ m ∈ ms, Mark.ofPiece
      (String.ofList (m.tag.toList ++ '>' :: (escape m.text).toList)) = m := by
    intro m hm
    have honce := Text.splitOnceChars?_eq_some.mpr
      ⟨(rfl : m.tag.toList ++ '>' :: (escape m.text).toList = _), (h m hm).2⟩
    simp only [Mark.ofPiece, Text.splitOnce?, String.toList_ofList, honce, Option.map_some,
      String.ofList_toList, unescape_escape]
  have hall := hsplit [] List.not_mem_nil
  rw [List.nil_append] at hall
  rw [marks, Text.split, hall, List.map_cons, List.tail_cons, List.map_map, List.map_map]
  refine Eq.trans (List.map_congr_left fun m hm => ?_) (List.map_id ms)
  rw [Function.comp_apply, Function.comp_apply]
  exact hpiece m hm

/-! ## Tables -/

/-- The marks of cells. -/
def cellMarks (tag : String) (texts : List String) : List Mark :=
  texts.flatMap fun text => [⟨tag, text⟩, ⟨"/" ++ tag, ""⟩]

/-- The marks of a row. -/
def rowMarks (row : List String) : List Mark := ⟨"tr", ""⟩ :: (cellMarks "td" row ++ [⟨"/tr", "\n"⟩])

/-- The marks of a table. -/
def tableMarks (headers : List String) (rows : List (List String)) : List Mark :=
  [⟨"table", "\n"⟩, ⟨"thead", ""⟩, ⟨"tr", ""⟩] ++ cellMarks "th" headers
    ++ [⟨"/tr", ""⟩, ⟨"/thead", "\n"⟩, ⟨"tbody", "\n"⟩] ++ rows.flatMap rowMarks
    ++ [⟨"/tbody", "\n"⟩, ⟨"/table", ""⟩]

/-- The marks of labels and values. -/
def summaryMarks (items : List (String × String)) : List Mark :=
  ⟨"dl", "\n"⟩ :: (items.flatMap (fun item =>
    [⟨"dt", item.1⟩, ⟨"/dt", ""⟩, ⟨"dd", item.2⟩, ⟨"/dd", "\n"⟩]) ++ [⟨"/dl", ""⟩])

/-- The cells of a row are written mark by mark. -/
theorem cells_eq (tag : String) (texts : List String) :
    cells tag texts = String.join ((cellMarks tag texts).map Mark.render) := by
  refine String.toList_injective ?_
  simp [cells, cellMarks, element, Mark.render, escape, List.flatMap_map, List.map_flatMap,
    List.flatMap_assoc]

/-- A row is written mark by mark. -/
theorem row_eq (row : List String) :
    element "tr" (cells "td" row) ++ "\n" = String.join ((rowMarks row).map Mark.render) := by
  have hopen : Mark.render ⟨"tr", ""⟩ = "<tr>" := by decide +kernel
  have hclose : Mark.render ⟨"/tr", "\n"⟩ = "</tr>\n" := by decide +kernel
  rw [rowMarks, List.map_cons, List.map_append, String.join_cons, String.join_append, ← cells_eq,
    List.map_singleton, hopen, hclose]
  refine String.toList_injective ?_
  simp [element]

/-- A table is written mark by mark. -/
theorem table_eq (headers : List String) (rows : List (List String)) :
    table headers rows = String.join ((tableMarks headers rows).map Mark.render) := by
  have hhead : String.join ([⟨"table", "\n"⟩, ⟨"thead", ""⟩, ⟨"tr", ""⟩].map Mark.render)
      = "<table>\n<thead><tr>" := by decide +kernel
  have hbody : String.join ([⟨"/tr", ""⟩, ⟨"/thead", "\n"⟩, ⟨"tbody", "\n"⟩].map Mark.render)
      = "</tr></thead>\n<tbody>\n" := by decide +kernel
  have hend : String.join ([⟨"/tbody", "\n"⟩, ⟨"/table", ""⟩].map Mark.render)
      = "</tbody>\n</table>" := by decide +kernel
  have hrows : String.join (rows.map fun row => element "tr" (cells "td" row) ++ "\n")
      = String.join ((rows.flatMap rowMarks).map Mark.render) := by
    refine String.toList_injective ?_
    simp only [row_eq, String.toList_join, List.flatMap_map, List.map_flatMap, List.flatMap_assoc]
  simp only [tableMarks, List.map_append, String.join_append]
  rw [hhead, ← cells_eq, hbody, ← hrows, hend]
  unfold table
  rfl

/-- A summary is written mark by mark. -/
theorem summary_eq (items : List (String × String)) :
    summary items = String.join ((summaryMarks items).map Mark.render) := by
  refine String.toList_injective ?_
  simp [summary, summaryMarks, entry, element, Mark.render, escape, escapeChar, List.flatMap_map,
    List.map_flatMap, List.flatMap_assoc]

/-! ## What is read back -/

/-- The texts after the tags of one name. -/
def textsAfter (tag : String) (ms : List Mark) : List String :=
  (ms.filter fun m => m.tag = tag).map Mark.text

/-- The cells of one name in each row, a row being what stands between its two tags. -/
def rowsOf (cell : String) : List Mark → List (List String)
  | [] => []
  | m :: rest =>
      if m.tag = "tr" then
        textsAfter cell (rest.takeWhile fun n => n.tag ≠ "/tr") :: rowsOf cell rest
      else rowsOf cell rest

/-- The headers of a table, which are those of its first row, and the cells of the other rows. -/
def readTable (html : String) : List String × List (List String) :=
  ((rowsOf "th" (marks html)).headD [], (rowsOf "td" (marks html)).tail)

/-- The labels of a list and their values. -/
def readSummary (html : String) : List (String × String) :=
  (textsAfter "dt" (marks html)).zip (textsAfter "dd" (marks html))

/-- The tags of so many cells. -/
def cellTags (tag : String) (count : Nat) : List String :=
  (List.replicate count [tag, "/" ++ tag]).flatten

/-- The tags of a table with so many headers and so many cells in each row. -/
def tableTags (headers : Nat) (rows : List Nat) : List String :=
  ["table", "thead", "tr"] ++ cellTags "th" headers ++ ["/tr", "/thead", "tbody"]
    ++ rows.flatMap (fun cells => "tr" :: (cellTags "td" cells ++ ["/tr"])) ++ ["/tbody", "/table"]

/-- The tags of so many labelled values. -/
def summaryTags (items : Nat) : List String :=
  "dl" :: ((List.replicate items ["dt", "/dt", "dd", "/dd"]).flatten ++ ["/dl"])

/-- A name of cells. -/
def IsCell (tag : String) : Prop := tag = "th" ∨ tag = "td"

/-- The marks of cells open and close one kind of cell. -/
theorem tag_of_mem_cellMarks {tag : String} {texts : List String} {m : Mark}
    (h : m ∈ cellMarks tag texts) : m.tag = tag ∨ m.tag = "/" ++ tag := by
  obtain ⟨text, -, hm⟩ := List.mem_flatMap.mp h
  simp only [List.mem_cons, List.not_mem_nil, or_false] at hm
  rcases hm with rfl | rfl
  · exact Or.inl rfl
  · exact Or.inr rfl

theorem map_tag_cellMarks (tag : String) (texts : List String) :
    (cellMarks tag texts).map Mark.tag = cellTags tag texts.length := by
  induction texts with
  | nil => rfl
  | cons text texts ih =>
      rw [List.length_cons, cellTags, List.replicate_succ, List.flatten_cons, ← cellTags, ← ih]
      rfl

/-- Cells are read by their own name only. -/
theorem textsAfter_cellMarks {cell tag : String} (hcell : IsCell cell) (htag : IsCell tag)
    (texts : List String) :
    textsAfter cell (cellMarks tag texts) = if tag = cell then texts else [] := by
  have hclose : "/" ++ tag ≠ cell := by
    rcases hcell with rfl | rfl <;> rcases htag with rfl | rfl <;> decide
  induction texts with
  | nil => exact (ite_self _).symm
  | cons text texts ih =>
      simp only [textsAfter, cellMarks] at ih
      simp only [textsAfter, cellMarks, List.flatMap_cons, List.cons_append, List.nil_append,
        List.filter_cons, hclose, decide_false, Bool.false_eq_true, if_false]
      by_cases hsame : tag = cell
      · rw [if_pos (decide_eq_true hsame), List.map_cons, ih, if_pos hsame, if_pos hsame]
      · rw [if_neg (by simpa using hsame), ih, if_neg hsame, if_neg hsame]

/-- Outside of rows nothing is read. -/
theorem rowsOf_append (cell : String) {ms : List Mark} (h : ∀ m ∈ ms, m.tag ≠ "tr")
    (rest : List Mark) : rowsOf cell (ms ++ rest) = rowsOf cell rest := by
  induction ms with
  | nil => rfl
  | cons m ms ih =>
      obtain ⟨hm, hms⟩ := List.forall_mem_cons.mp h
      rw [List.cons_append, rowsOf, if_neg hm, ih hms]

/-- A row is read up to its closing tag. -/
theorem rowsOf_row {cell tag : String} (hcell : IsCell cell) (htag : IsCell tag)
    (texts : List String) (text after : String) (rest : List Mark) :
    rowsOf cell (⟨"tr", text⟩ :: (cellMarks tag texts ++ ⟨"/tr", after⟩ :: rest))
      = (if tag = cell then texts else []) :: rowsOf cell rest := by
  have hcells : ∀ m ∈ cellMarks tag texts, m.tag ≠ "tr" ∧ m.tag ≠ "/tr" := by
    intro m hm
    rcases tag_of_mem_cellMarks hm with heq | heq <;> rw [heq] <;>
      rcases htag with rfl | rfl <;> decide
  have hrow : (cellMarks tag texts ++ ⟨"/tr", after⟩ :: rest).takeWhile
      (fun n => decide (n.tag ≠ "/tr")) = cellMarks tag texts := by
    rw [List.takeWhile_append_of_pos fun m hm => decide_eq_true (hcells m hm).2,
      List.takeWhile_cons_of_neg (by simp), List.append_nil]
  have hclose : (⟨"/tr", after⟩ : Mark).tag ≠ "tr" := (by decide : "/tr" ≠ "tr")
  rw [rowsOf, if_pos rfl, hrow, textsAfter_cellMarks hcell htag,
    rowsOf_append cell fun m hm => (hcells m hm).1]
  rw [rowsOf, if_neg hclose]

/-- Rows are read back cell by cell. -/
theorem rowsOf_rows (rows : List (List String)) (rest : List Mark) :
    rowsOf "td" (rows.flatMap rowMarks ++ rest) = rows ++ rowsOf "td" rest := by
  induction rows with
  | nil => rfl
  | cons row rows ih =>
      have hrow := rowsOf_row (Or.inr rfl) (Or.inr rfl) row "" "\n" (rows.flatMap rowMarks ++ rest)
      rw [if_pos rfl] at hrow
      rw [List.flatMap_cons, rowMarks, List.append_assoc, List.cons_append, List.append_assoc]
      exact hrow.trans (congrArg (row :: ·) ih)

/-- The names of the tags in a table. -/
def tableTagNames : List String :=
  ["table", "thead", "tr", "th", "/th", "/tr", "/thead", "tbody", "td", "/td", "/tbody", "/table"]

/-- A table has the tags of tables only, whatever its cells say. -/
theorem tag_of_mem_tableMarks {headers : List String} {rows : List (List String)} {m : Mark}
    (h : m ∈ tableMarks headers rows) : m.tag ∈ tableTagNames := by
  have hcell : ∀ {tag texts} {m : Mark}, IsCell tag → m ∈ cellMarks tag texts →
      m.tag ∈ tableTagNames := by
    intro tag texts m htag hm
    rcases tag_of_mem_cellMarks hm with heq | heq <;> rw [heq] <;>
      rcases htag with rfl | rfl <;> decide
  simp only [tableMarks, List.mem_append, List.mem_flatMap] at h
  rcases h with (((h | h) | h) | ⟨row, -, h⟩) | h
  · revert m
    decide
  · exact hcell (Or.inl rfl) h
  · revert m
    decide
  · rcases List.mem_cons.mp h with rfl | h
    · decide
    rcases List.mem_append.mp h with h | h
    · exact hcell (Or.inr rfl) h
    · rw [List.mem_singleton.mp h]
      decide
  · revert m
    decide

/-- No tag of a table ends before it is over. -/
theorem isClean_tableMarks (headers : List String) (rows : List (List String)) :
    ∀ m ∈ tableMarks headers rows, m.IsClean := by
  have hnames : ∀ tag ∈ tableTagNames, '<' ∉ tag.toList ∧ '>' ∉ tag.toList := by decide
  exact fun m hm => hnames m.tag (tag_of_mem_tableMarks hm)

/-- No tag of a summary ends before it is over. -/
theorem isClean_summaryMarks (items : List (String × String)) :
    ∀ m ∈ summaryMarks items, m.IsClean := by
  intro m hm
  simp only [summaryMarks, List.mem_cons, List.mem_append, List.mem_flatMap, List.not_mem_nil,
    or_false] at hm
  simp only [Mark.IsClean]
  rcases hm with rfl | ⟨item, -, rfl | rfl | rfl | rfl⟩ | rfl <;> simp only [] <;> decide

/-! ## Tables and lists -/

/-- The marks of a table are read off what is written. -/
theorem marks_table (headers : List String) (rows : List (List String)) :
    marks (table headers rows) = tableMarks headers rows := by
  rw [table_eq, marks_join (isClean_tableMarks headers rows)]

/-- The marks of a summary are read off what is written. -/
theorem marks_summary (items : List (String × String)) :
    marks (summary items) = summaryMarks items := by
  rw [summary_eq, marks_join (isClean_summaryMarks items)]

/-- A table is read back with its headers and rows. -/
theorem readTable_table (headers : List String) (rows : List (List String)) :
    readTable (table headers rows) = (headers, rows) := by
  -- the first row is that of the headers, and what comes after the last is in none
  have hread : ∀ {cell : String}, IsCell cell → rowsOf cell (tableMarks headers rows)
      = (if "th" = cell then headers else []) :: rowsOf cell (rows.flatMap rowMarks
        ++ [⟨"/tbody", "\n"⟩, ⟨"/table", ""⟩]) := by
    intro cell hcell
    have hrow := rowsOf_row hcell (Or.inl rfl) headers "" "" ([⟨"/thead", "\n"⟩, ⟨"tbody", "\n"⟩]
      ++ (rows.flatMap rowMarks ++ [⟨"/tbody", "\n"⟩, ⟨"/table", ""⟩]))
    rw [rowsOf_append cell (by decide)] at hrow
    have hlead := rowsOf_append cell
      (by decide : ∀ m ∈ [⟨"table", "\n"⟩, (⟨"thead", ""⟩ : Mark)], m.tag ≠ "tr")
    rw [← hrow]
    refine Eq.trans ?_ (hlead _)
    simp only [tableMarks, List.append_assoc, List.cons_append, List.nil_append]
  have hrows : rowsOf "td" (rows.flatMap rowMarks ++ [⟨"/tbody", "\n"⟩, ⟨"/table", ""⟩]) = rows := by
    rw [rowsOf_rows]
    exact List.append_nil rows
  rw [readTable, marks_table, hread (Or.inl rfl), hread (Or.inr rfl), hrows]
  rfl

/-- The tags of a table depend on the numbers of its cells only. -/
theorem tags_table (headers : List String) (rows : List (List String)) :
    tags (table headers rows) = tableTags headers.length (rows.map List.length) := by
  have hrows : (rows.flatMap rowMarks).map Mark.tag = (rows.map List.length).flatMap fun cells =>
      "tr" :: (cellTags "td" cells ++ ["/tr"]) := by
    rw [List.map_flatMap, List.flatMap_map]
    refine congrArg (rows.flatMap ·) (funext fun row => ?_)
    rw [rowMarks, List.map_cons, List.map_append, map_tag_cellMarks]
    rfl
  rw [tags, marks_table, tableMarks, tableTags, ← hrows, ← map_tag_cellMarks]
  simp only [List.map_append]
  rfl

/-- A summary is read back item by item. -/
theorem readSummary_summary (items : List (String × String)) :
    readSummary (summary items) = items := by
  have hlabels : textsAfter "dt" (summaryMarks items) = items.map Prod.fst := by
    simp [textsAfter, summaryMarks, List.filter_flatMap, List.map_eq_flatMap, List.flatMap_assoc]
  have hvalues : textsAfter "dd" (summaryMarks items) = items.map Prod.snd := by
    simp [textsAfter, summaryMarks, List.filter_flatMap, List.map_eq_flatMap, List.flatMap_assoc]
  rw [readSummary, marks_summary, hlabels, hvalues, List.zip_map']
  exact List.map_id items

/-- The tags of a summary depend on the number of its items only. -/
theorem tags_summary (items : List (String × String)) :
    tags (summary items) = summaryTags items.length := by
  have hitems : (items.flatMap fun item => [⟨"dt", item.1⟩, ⟨"/dt", ""⟩, ⟨"dd", item.2⟩,
      (⟨"/dd", "\n"⟩ : Mark)]).map Mark.tag
      = (List.replicate items.length ["dt", "/dt", "dd", "/dd"]).flatten := by
    rw [List.map_flatMap, List.flatMap_def, ← List.map_const']
    rfl
  rw [tags, marks_summary, summaryMarks, summaryTags, ← hitems, List.map_cons, List.map_append]
  rfl

/-- The headers and cells of a table, and the labels and values of a list, are read back whatever
    texts they are; and the tags are those of so many cells in so many rows, so no text adds, closes
    or changes one. -/
theorem contents_read_back :
    (∀ (headers : List String) (rows : List (List String)),
        readTable (table headers rows) = (headers, rows)
          ∧ tags (table headers rows) = tableTags headers.length (rows.map List.length))
      ∧ ∀ items : List (String × String),
          readSummary (summary items) = items ∧ tags (summary items) = summaryTags items.length :=
  ⟨fun headers rows => ⟨readTable_table headers rows, tags_table headers rows⟩,
    fun items => ⟨readSummary_summary items, tags_summary items⟩⟩

end RobotMaze.Web.Html
