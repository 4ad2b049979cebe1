import RobotMaze.Text.Blank
import RobotMaze.Text.Split

/-! # Splitting and trimming

    * `splitChars_append`, `intercalate_splitChars` — what is split off, and how it is
      put together again;
    * `trimChars_eq_self` — what is trimmed stays as it is. -/

/-! ## Splitting — what is split off, and how it is put together again

    * `splitChars_append` — the first piece is what comes before the first
      occurrence;
    * `not_mem_of_mem_splitChars`, `splitOnceChars?_eq_some` — what comes before an
      occurrence has none;
    * `intercalate_splitChars` — the pieces with the character between them are the
      text;
    * `toList_eq_of_split` — so a text is made of the pieces into which it is split;
    * `split_intercalate` — and texts without the character are split off again where
      it stands between them;
    * `nil_mem_splitChars_iff` — which texts have an empty piece. -/

namespace RobotMaze.Text

/-- A piece is split off at the first occurrence of the character. -/
theorem splitChars_append {c : Char} {piece : List Char} (hpiece : c ∉ piece)
    (rest : List Char) : splitChars c (piece ++ c :: rest) = piece :: splitChars c rest := by
  obtain ⟨next, more, hrest⟩ := List.exists_cons_of_ne_nil (splitChars_ne_nil c rest)
  induction piece with
  | nil =>
      rw [List.nil_append, splitChars, hrest]
      exact if_pos rfl
  | cons d piece ih =>
      rw [List.mem_cons, not_or] at hpiece
      rw [List.cons_append, splitChars, ih hpiece.2]
      exact if_neg (Ne.symm hpiece.1)

/-- A text without the character is its only piece. -/
theorem splitChars_of_not_mem {c : Char} {cs : List Char} (h : c ∉ cs) : splitChars c cs = [cs] := by
  induction cs with
  | nil => rfl
  | cons d rest ih =>
      rw [List.mem_cons, not_or] at h
      rw [splitChars, ih h.2]
      exact if_neg (Ne.symm h.1)

/-- No piece has the character, and all that it has comes from the text. -/
theorem not_mem_of_mem_splitChars {c : Char} {cs piece : List Char} (h : piece ∈ splitChars c cs) :
    c ∉ piece ∧ piece ⊆ cs := by
  induction cs generalizing piece with
  | nil =>
      rw [List.mem_singleton.mp h]
      exact ⟨List.not_mem_nil, List.Subset.refl _⟩
  | cons d rest ih =>
      obtain ⟨first, pieces, hrest⟩ := List.exists_cons_of_ne_nil (splitChars_ne_nil c rest)
      rw [hrest] at ih
      have hlater : ∀ {p}, p ∈ first :: pieces → c ∉ p ∧ p ⊆ d :: rest := fun hp =>
        ⟨(ih hp).1, fun x hx => List.mem_cons_of_mem _ ((ih hp).2 hx)⟩
      simp only [splitChars, hrest] at h
      by_cases hd : d = c
      · rw [if_pos hd] at h
        rcases List.mem_cons.mp h with rfl | h
        · exact ⟨List.not_mem_nil, List.nil_subset _⟩
        · exact hlater h
      · rw [if_neg hd] at h
        rcases List.mem_cons.mp h with rfl | h
        · obtain ⟨hfirst, hsubset⟩ := ih List.mem_cons_self
          refine ⟨?_, List.cons_subset_cons _ hsubset⟩
          rw [List.mem_cons, not_or]
          exact ⟨Ne.symm hd, hfirst⟩
        · exact hlater (List.mem_cons_of_mem _ h)

/-- Once split, a text has the character after a part that has none. -/
theorem splitOnceChars?_eq_some {c : Char} {cs before after : List Char} :
    splitOnceChars? c cs = some (before, after) ↔ cs = before ++ c :: after ∧ c ∉ before := by
  induction cs generalizing before with
  | nil => simp [splitOnceChars?]
  | cons d rest ih =>
      rw [splitOnceChars?]
      by_cases hd : d = c
      · rw [if_pos hd]
        cases before with
        | nil => simp [hd, eq_comm]
        | cons b before =>
            refine iff_of_false (by simp) ?_
            rintro ⟨hsplit, hnone⟩
            exact hnone (hd ▸ (List.cons.inj hsplit).1 ▸ List.mem_cons_self)
      · rw [if_neg hd]
        cases before with
        | nil => simp [hd]
        | cons b before =>
            simp only [Option.map_eq_some_iff, Prod.exists, Prod.mk.injEq, List.cons.injEq,
              List.cons_append, List.mem_cons, not_or]
            constructor
            · rintro ⟨x, y, hrest, ⟨rfl, rfl⟩, rfl⟩
              obtain ⟨hsplit, hnone⟩ := ih.mp hrest
              exact ⟨⟨rfl, hsplit⟩, Ne.symm hd, hnone⟩
            · rintro ⟨⟨rfl, hsplit⟩, -, hnone⟩
              exact ⟨before, after, ih.mpr ⟨hsplit, hnone⟩, ⟨rfl, rfl⟩, rfl⟩

/-- The pieces with the character between them are the text. -/
theorem intercalate_splitChars (c : Char) (cs : List Char) :
    [c].intercalate (splitChars c cs) = cs := by
  induction cs with
  | nil => rfl
  | cons d rest ih =>
      obtain ⟨piece, pieces, hrest⟩ := List.exists_cons_of_ne_nil (splitChars_ne_nil c rest)
      rw [hrest] at ih
      simp only [splitChars, hrest]
      by_cases hd : d = c
      · rw [if_pos hd, List.intercalate_cons_cons, ih, hd]
        rfl
      · rw [if_neg hd, List.intercalate_cons_cons_left, ih]

/-- What holds of a separator holds of texts with it between them, if it holds of each of them. -/
theorem all_intercalate {P : Char → Bool} {separator : List Char} (h : separator.all P = true)
    (pieces : List (List Char)) :
    (separator.intercalate pieces).all P = pieces.all fun piece => piece.all P := by
  induction pieces with
  | nil => rfl
  | cons piece pieces ih =>
      cases pieces with
      | nil => simp
      | cons next more =>
          rw [List.intercalate_cons_cons, List.all_append, List.all_append, ih, h]
          simp

/-- A text is made of its pieces. -/
theorem toList_eq_of_split {c : Char} {s : String} {parts : List String}
    (h : split c s = parts) : s.toList = [c].intercalate (parts.map String.toList) := by
  rw [← h, split, List.map_map]
  have hid : String.toList ∘ String.ofList = id := funext fun _ => String.toList_ofList
  rw [hid, List.map_id, intercalate_splitChars]

/-- Texts without the character are split off again where it stands between them. -/
theorem splitChars_intercalate_self {c : Char} {pieces : List (List Char)} (hne : pieces ≠ [])
    (h : ∀ piece ∈ pieces, c ∉ piece) : splitChars c ([c].intercalate pieces) = pieces := by
  induction pieces with
  | nil => exact absurd rfl hne
  | cons piece rest ih =>
      obtain ⟨hpiece, hrest⟩ := List.forall_mem_cons.mp h
      cases rest with
      | nil =>
          rw [List.intercalate_singleton]
          exact splitChars_of_not_mem hpiece
      | cons next more =>
          rw [List.intercalate_cons_cons, List.append_assoc, List.singleton_append,
            splitChars_append hpiece, ih (List.cons_ne_nil _ _) hrest]

theorem split_intercalate {c : Char} {separator : String} (hc : separator.toList = [c])
    {parts : List String} (hne : parts ≠ []) (h : ∀ part ∈ parts, c ∉ part.toList) :
    split c (separator.intercalate parts) = parts := by
  have hpieces : ∀ piece ∈ parts.map String.toList, c ∉ piece := by
    intro piece hpiece
    obtain ⟨part, hpart, rfl⟩ := List.mem_map.mp hpiece
    exact h part hpart
  rw [split, String.toList_intercalate, hc,
    splitChars_intercalate_self (fun hnil => hne (List.map_eq_nil_iff.mp hnil)) hpieces,
    List.map_map]
  exact (List.map_congr_left fun part _ => String.ofList_toList).trans (List.map_id parts)

/-- The first piece is empty where the text begins with the character. -/
theorem head?_splitChars_eq_nil_iff {c : Char} {cs : List Char} :
    (splitChars c cs).head? = some [] ↔ cs = [] ∨ cs.head? = some c := by
  cases cs with
  | nil => exact iff_of_true rfl (.inl rfl)
  | cons d rest =>
      obtain ⟨piece, pieces, hrest⟩ := List.exists_cons_of_ne_nil (splitChars_ne_nil c rest)
      simp only [splitChars, hrest]
      by_cases hd : d = c
      · rw [if_pos hd]
        exact iff_of_true rfl (.inr (congrArg some hd))
      · rw [if_neg hd]
        refine iff_of_false ?_ ?_
        · intro h
          cases h
        · rintro (h | h)
          · cases h
          · exact hd (Option.some.inj h)

/-- Whether a piece is empty is told by the first one and the others. -/
theorem nil_mem_splitChars_iff_tail {c : Char} {cs : List Char} :
    [] ∈ splitChars c cs
      ↔ (cs = [] ∨ cs.head? = some c) ∨ [] ∈ (splitChars c cs).tail := by
  rw [← head?_splitChars_eq_nil_iff]
  obtain ⟨piece, pieces, hcs⟩ := List.exists_cons_of_ne_nil (splitChars_ne_nil c cs)
  rw [hcs, List.mem_cons, List.head?_cons, Option.some.injEq, List.tail_cons, eq_comm]

/-- A later piece is empty where the text ends with the character or has it twice in a row. -/
theorem nil_mem_tail_splitChars_iff {c : Char} {cs : List Char} :
    [] ∈ (splitChars c cs).tail ↔ cs.getLast? = some c ∨ [c, c] <:+: cs := by
  induction cs with
  | nil => simp [splitChars]
  | cons d rest ih =>
      obtain ⟨piece, pieces, hrest⟩ := List.exists_cons_of_ne_nil (splitChars_ne_nil c rest)
      rw [List.infix_cons_iff, List.cons_prefix_cons]
      by_cases hd : d = c
      · -- the pieces of the rest are the later ones
        have htail : (splitChars c (d :: rest)).tail = splitChars c rest := by
          simp only [splitChars, hrest, if_pos hd, List.tail_cons]
        rw [htail, nil_mem_splitChars_iff_tail, ih, hd]
        cases rest with
        | nil => simp
        | cons e more =>
            rw [List.getLast?_cons_cons, List.head?_cons, Option.some.injEq, List.cons_prefix_cons]
            simp only [List.nil_prefix, and_true, true_and, reduceCtorEq, false_or, eq_comm]
            exact or_left_comm
      · have htail : (splitChars c (d :: rest)).tail = (splitChars c rest).tail := by
          simp only [splitChars, hrest, if_neg hd, List.tail_cons]
        rw [htail, ih]
        simp only [Ne.symm hd, false_and, false_or]
        cases rest with
        | nil => simp [hd]
        | cons e more => rw [List.getLast?_cons_cons]

/-- A piece is empty where the text begins or ends with the character or has it twice in a row. -/
theorem nil_mem_splitChars_iff {c : Char} {cs : List Char} (hne : cs ≠ []) :
    [] ∈ splitChars c cs ↔ cs.head? = some c ∨ cs.getLast? = some c ∨ [c, c] <:+: cs := by
  rw [nil_mem_splitChars_iff_tail, nil_mem_tail_splitChars_iff]
  simp only [hne, false_or]

/-- Every other character is in some piece. -/
theorem exists_mem_splitChars {c d : Char} {cs : List Char} (hd : d ∈ cs) (hne : d ≠ c) :
    ∃ piece ∈ splitChars c cs, d ∈ piece := by
  induction cs with
  | nil => cases hd
  | cons e rest ih =>
      obtain ⟨first, pieces, hrest⟩ := List.exists_cons_of_ne_nil (splitChars_ne_nil c rest)
      simp only [splitChars, hrest]
      rw [hrest] at ih
      by_cases he : e = c
      · rw [if_pos he]
        have hmem : d ∈ rest := (List.mem_cons.mp hd).resolve_left fun h => hne (h.trans he)
        obtain ⟨piece, hpiece, hdp⟩ := ih hmem
        exact ⟨piece, List.mem_cons_of_mem _ hpiece, hdp⟩
      · rw [if_neg he]
        rcases List.mem_cons.mp hd with rfl | hmem
        · exact ⟨_, List.mem_cons_self, List.mem_cons_self⟩
        · obtain ⟨piece, hpiece, hdp⟩ := ih hmem
          rcases List.mem_cons.mp hpiece with rfl | hpiece
          · exact ⟨_, List.mem_cons_self, List.mem_cons_of_mem _ hdp⟩
          · exact ⟨piece, List.mem_cons_of_mem _ hpiece, hdp⟩

/-! ## Trimming — what is cut off and what stays

    White space is cut off up to the first character that is none, from either
    end.

    * `not_isBlank_of_head?`, `not_isBlank_of_getLast?` — what is left neither begins
      nor ends with a blank;
    * `dropBlankStart_eq_self`, `dropBlankEnd_append` — nothing is cut off beyond
      such a character;
    * `trimChars_eq_self` — so a text with one at either end is its own trim. -/

variable {c d : Char} {cs : List Char}

theorem trimChars_subset (cs : List Char) : trimChars cs ⊆ cs := by
  intro c hc
  obtain ⟨blanks, hsplit, -⟩ := dropBlankEnd_append_blank (dropBlankStart cs)
  have hmem : c ∈ dropBlankStart cs := by
    rw [hsplit]
    exact List.mem_append_left _ hc
  exact (List.dropWhile_sublist isBlank).subset hmem

/-- What is left begins with no blank. -/
theorem not_isBlank_of_head? (h : c ∈ (trimChars cs).head?) : isBlank c = false := by
  obtain ⟨blanks, hsplit, -⟩ := dropBlankEnd_append_blank (dropBlankStart cs)
  have hstart : (dropBlankStart cs).head? = some c := by
    rw [hsplit]
    show (trimChars cs ++ blanks).head? = some c
    rw [List.head?_append, h, Option.some_or]
  have hnot := List.head?_dropWhile_not isBlank cs
  rw [show (cs.dropWhile isBlank).head? = some c from hstart] at hnot
  exact hnot

/-- What is left ends with no blank. -/
theorem not_isBlank_of_getLast? {c : Char} {cs : List Char} (h : c ∈ (trimChars cs).getLast?) :
    isBlank c = false := by
  simp only [trimChars] at h
  generalize dropBlankStart cs = ds at h
  induction ds with
  | nil => cases h
  | cons d rest ih =>
      rw [dropBlankEnd.eq_def] at h
      simp only [] at h
      split at h
      · split at h
        · cases h
        · rename_i hd
          obtain rfl := Option.some.inj h
          exact Bool.eq_false_iff.mpr hd
      · rename_i hkept
        rw [List.getLast?_cons_of_ne_nil hkept] at h
        exact ih h

/-- Nothing is cut off in front of a character that is no blank. -/
theorem dropBlankStart_eq_self (h : ∀ c ∈ cs.head?, isBlank c = false) :
    dropBlankStart cs = cs := by
  cases cs with
  | nil => rfl
  | cons c rest => exact List.dropWhile_cons_of_neg (Bool.eq_false_iff.mp (h c rfl))

/-- Nothing is cut off up to a character that is no blank. -/
theorem dropBlankEnd_append (hd : isBlank d = false) (cs rest : List Char) :
    dropBlankEnd (cs ++ d :: rest) = cs ++ d :: dropBlankEnd rest := by
  induction cs with
  | nil =>
      cases hrest : dropBlankEnd rest with
      | nil => simp [dropBlankEnd, hrest, hd]
      | cons c kept => simp [dropBlankEnd, hrest]
  | cons c cs ih =>
      rw [List.cons_append, dropBlankEnd, ih]
      cases cs <;> rfl

theorem dropBlankEnd_eq_self (h : ∀ c ∈ cs, isBlank c = false) : dropBlankEnd cs = cs := by
  induction cs with
  | nil => rfl
  | cons c rest ih =>
      obtain ⟨hc, hrest⟩ := List.forall_mem_cons.mp h
      rw [dropBlankEnd, ih hrest]
      cases rest with
      | nil => exact if_neg (Bool.eq_false_iff.mp hc)
      | cons d more => rfl

/-- Nothing is cut off a text that neither begins nor ends with a blank. -/
theorem trimChars_eq_self (hstart : ∀ c ∈ (cs ++ [d]).head?, isBlank c = false)
    (hend : isBlank d = false) : trimChars (cs ++ [d]) = cs ++ [d] := by
  simp only [trimChars]
  rw [dropBlankStart_eq_self hstart, dropBlankEnd_append hend]
  rfl

/-- The characters of a trimmed text are trimmed. -/
theorem trimChars_of_trim {text : String} (h : trim text = text) :
    trimChars text.toList = text.toList := by
  have hchars := congrArg String.toList h
  rwa [trim, String.toList_ofList] at hchars

end RobotMaze.Text
