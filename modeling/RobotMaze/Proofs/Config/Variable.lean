import Mathlib.Data.List.TakeWhile
import RobotMaze.Config.EnvFile
import RobotMaze.Proofs.Config.Overlay
import RobotMaze.Proofs.Text.Split

/-! # Variables — the layer of an environment

    Each variable that is a setting is a layer of its own, and the variables lie
    one over another in the order in which they were set.

    * `distinct_settingValue` — no table in a variable has two entries of one key;
    * `environmentLayer_eq_stack` — the layers of the variables make up that of
      the environment;
    * `exists_append_of_loadFile` — a file adds variables behind those that are set, of
      names that are not;
    * `Spells` — a text is written as a truth value, a number, a list, a table or
      another text in quotes: that it stands for (`settingValue_of_spells`), or for
      itself (`settingValue_eq_or_spells`). -/

namespace RobotMaze.Config

open Json (HasDistinctNames HasTablesAlong leaf?)

/-! ## Values -/

theorem bareValue_ne_object (cs : List Char) (members : List (String × Json)) :
    bareValue cs ≠ .object members := by
  simp only [bareValue]
  split
  · exact Json.noConfusion
  · split <;> exact Json.noConfusion

theorem ne_object_of_single? {cs rest : List Char} {j : Json} (h : single? cs = some (j, rest))
    (members : List (String × Json)) : j ≠ .object members := by
  simp only [single?] at h
  split at h
  · cases h
    exact Json.noConfusion
  · cases h
    exact Json.noConfusion
  · obtain ⟨found, -, hfound⟩ := Option.map_eq_some_iff.mp h
    cases hfound
    exact Json.noConfusion
  · cases h
    exact Json.noConfusion
  · cases h
  · cases h
    exact bareValue_ne_object _ members

/-- No table that is read has two entries of one key: a later entry takes the place of the earlier
    one. -/
theorem distinct_value? (fuel : Nat) (cs : List Char) :
    (∀ j rest, value? fuel cs = some (j, rest) → j.HasDistinctNames)
    ∧ ∀ done members rest, HasDistinctNames (.object done) →
      entries? fuel done cs = some (members, rest) → HasDistinctNames (.object members) := by
  -- values hold entries and entries hold values, so both are read on the fuel that is left
  induction fuel generalizing cs with
  | zero => exact ⟨fun _ _ h => (nomatch h), fun _ _ _ _ h => (nomatch h)⟩
  | succ fuel ih =>
      refine ⟨fun j rest h => ?_, fun done members rest hdone h => ?_⟩
      · -- a list is no table; a table is read from none; anything else is single
        rw [value?] at h
        obtain ⟨⟨k, more⟩, hfound, hjson⟩ := Option.map_eq_some_iff.mp h
        cases hjson
        split at hfound
        · obtain ⟨items, -, hitems⟩ := Option.map_eq_some_iff.mp hfound
          cases hitems
          exact .leaf fun _ => Json.noConfusion
        · split at hfound
          · obtain ⟨⟨members, more⟩, hentries, hobject⟩ := Option.map_eq_some_iff.mp hfound
            cases hobject
            exact (ih _).2 _ _ _ distinct_nil hentries
          · exact .leaf (ne_object_of_single? hfound)
        · exact .leaf (ne_object_of_single? hfound)
      · -- the end of the table; an entry after which more follow; the last entry
        rw [entries?.eq_def] at h
        simp only [] at h
        split at h
        · cases h
        split at h
        · cases h
          exact hdone
        split at h
        · split at h
          · rename_i hvalue
            have hnext : ∀ key, HasDistinctNames (.object (put key _ done)) := fun _ =>
              distinct_put hdone ((ih _).1 _ _ hvalue)
            split at h
            · exact (ih _).2 _ _ _ (hnext _) h
            split at h
            · cases h
              exact hnext _
            · cases h
          · cases h
        · cases h

/-- Whatever a variable says, no name comes twice in it. -/
theorem distinct_settingValue (text : String) : (settingValue text).HasDistinctNames := by
  simp only [settingValue]
  split
  · rename_i hvalue
    exact (distinct_value? _ _).1 _ _ hvalue
  · exact .leaf fun _ => Json.noConfusion

/-- Nesting a value along a path brings in no name twice. -/
theorem distinct_nested (path : List String) {j : Json} (h : j.HasDistinctNames) :
    (nested path j).HasDistinctNames := by
  induction path with
  | nil => exact h
  | cons name rest ih =>
      exact .object (List.nodup_singleton name) (List.forall_mem_singleton.mpr ih)

/-! ## The layer -/

/-- The layer of a variable, if it is a setting. -/
def settingLayer? (v : String × String) : Option Json :=
  (settingPath? v.1).map fun path => nested path (settingValue v.2)

/-- The layers of the variables that are settings, in the order in which they were set. -/
def settingLayers (env : Environment) : List Json := env.filterMap settingLayer?

/-- The layer of the variables is one layer for each of them, the later ones on top. -/
theorem environmentLayer_eq_stack (env : Environment) :
    environmentLayer env = stack (.object []) (settingLayers env) := by
  simp only [environmentLayer, stack, settingLayers]
  generalize Json.object [] = low
  induction env generalizing low with
  | nil => rfl
  | cons v rest ih =>
      rw [List.foldl_cons, ih, List.filterMap_cons, settingLayer?]
      cases settingPath? v.1 <;> rfl

theorem distinct_settingLayer {env : Environment} {layer : Json} (h : layer ∈ settingLayers env) :
    layer.HasDistinctNames := by
  obtain ⟨v, -, hv⟩ := List.mem_filterMap.mp h
  obtain ⟨path, -, rfl⟩ := Option.map_eq_some_iff.mp hv
  exact distinct_nested path (distinct_settingValue v.2)

/-! ## Files of variables -/

/-- Variables of statements are put behind those that are set. -/
theorem exists_append_of_loadStatements (env : Environment) (statements : List (List Char)) :
    ∃ added, loadStatements env statements = env ++ added
      ∧ ∀ v ∈ added, env.lookup v.1 = none := by
  induction statements generalizing env with
  | nil => exact ⟨[], (List.append_nil env).symm, List.forall_mem_nil _⟩
  | cons cs rest ih =>
      rw [loadStatements]
      split
      · exact ⟨[], (List.append_nil env).symm, List.forall_mem_nil _⟩
      · exact ih env
      · rename_i name text _
        simp only [Environment.add]
        split
        · exact ih env
        · rename_i hfree
          obtain ⟨added, heq, hadded⟩ := ih (env ++ [(name, text)])
          refine ⟨(name, text) :: added, ?_, List.forall_mem_cons.mpr ⟨?_, fun v hv => ?_⟩⟩
          · rw [heq, List.append_assoc]
            rfl
          · exact Option.not_isSome_iff_eq_none.mp hfree
          · have hnone := hadded v hv
            rw [List.lookup_append] at hnone
            exact (Option.or_eq_none_iff.mp hnone).1

/-- A file of variables adds those that are not set, and changes none. -/
theorem exists_append_of_loadFile (text : String) (env : Environment) :
    ∃ added, loadFile text env = env ++ added ∧ ∀ v ∈ added, env.lookup v.1 = none :=
  exists_append_of_loadStatements env _

/-! ## What a text stands for -/

/-- A text is written as a value of another kind, or as another text in quotes.  Lists and tables
    are read with fuel for all their characters. -/
inductive Spells (cs : List Char) : Json → Prop where
  | yes (written : cs = "true".toList) : Spells cs (.bool true)
  | no (written : cs = "false".toList) : Spells cs (.bool false)
  /-- A whole number, if it fits 64 bits with or without a sign. -/
  | whole {n : Int} (written : Text.whole? true (String.ofList cs) = some n)
      (least : -0x8000000000000000 ≤ n) (most : n < 0x10000000000000000) : Spells cs (.whole n)
  | pointed {n : Number} (written : pointed? cs = some n) : Spells cs (.number n)
  | quoted {text : String} {rest more : List Char} (opened : cs = '"' :: rest)
      (closed : quoted? rest = some (text, more)) (ended : skipSpace more = []) :
      Spells cs (.string text)
  | character {c : Char} (written : cs = ['\'', c, '\'']) : Spells cs (.string (String.singleton c))
  | list {items : List Json} {rest more : List Char} (opened : cs = '[' :: rest)
      (closed : items? (2 * cs.length) rest = some (items, more)) (ended : skipSpace more = []) :
      Spells cs (.array items)
  | table {members : List (String × Json)} {rest more : List Char} (opened : cs = openBrace :: rest)
      (closed : entries? (2 * cs.length) [] rest = some (members, more))
      (ended : skipSpace more = []) : Spells cs (.object members)

/-- The characters of numbers. -/
def isNumeral (c : Char) : Bool := c.isDigit || "+-.eE".toList.contains c

variable {c : Char} {cs rest : List Char} {j : Json} {fuel : Nat}

/-! ### Numbers -/

/-- A text is its sign and what stands behind it. -/
theorem mem_of_sign (hc : c ∈ cs) : isNumeral c = true ∨ c ∈ (Text.sign true cs).2 := by
  rw [Text.sign.eq_def]
  split
  · rcases List.mem_cons.mp hc with rfl | hc
    · exact .inl rfl
    · exact .inr hc
  · rcases List.mem_cons.mp hc with rfl | hc
    · exact .inl rfl
    · exact .inr hc
  · exact .inr hc

theorem isNumeral_of_isDigit (h : c.isDigit = true) : isNumeral c = true := by
  rw [isNumeral, h, Bool.true_or]

theorem isNumeral_of_sign (h : (Text.sign true cs).2.all Char.isDigit = true) :
    ∀ c ∈ cs, isNumeral c = true := by
  intro c hc
  rcases mem_of_sign hc with hc | hc
  · exact hc
  · exact isNumeral_of_isDigit (List.all_eq_true.mp h c hc)

theorem digits_of_whole? {n : Int} (h : Text.whole? true (String.ofList cs) = some n) :
    (Text.sign true cs).2.all Char.isDigit = true := by
  simp only [Text.whole?, String.toList_ofList] at h
  split at h
  · cases h
  · rename_i hdigits
    simp only [Bool.or_eq_true, Bool.not_eq_true', not_or, Bool.not_eq_false] at hdigits
    exact hdigits.2

theorem numeral_of_whole? {n : Int} (h : Text.whole? true (String.ofList cs) = some n) :
    ∀ c ∈ cs, isNumeral c = true :=
  isNumeral_of_sign (digits_of_whole? h)

/-- An exponent starts with one of two letters, in front of which the mantissa ends. -/
theorem numeral_of_exponent {ds : List Char}
    (h : ∀ first rest, ds.dropWhile (fun c => c != 'e' && c != 'E') = first :: rest →
      (Text.sign true rest).2.all Char.isDigit = true) :
    ∀ c ∈ ds.dropWhile (fun c => c != 'e' && c != 'E'), isNumeral c = true := by
  have hstop := List.head?_dropWhile_not (fun c => c != 'e' && c != 'E') ds
  cases hexponent : ds.dropWhile (fun c => c != 'e' && c != 'E') with
  | nil => exact List.forall_mem_nil _
  | cons first rest =>
      rw [hexponent] at hstop
      have hletter : first = 'e' ∨ first = 'E' := by
        simpa [Bool.and_eq_false_iff, or_iff_not_imp_left] using hstop
      have hfirst : isNumeral first = true := by
        rcases hletter with rfl | rfl <;> decide
      exact List.forall_mem_cons.mpr ⟨hfirst, isNumeral_of_sign (h first rest hexponent)⟩

/-- A number with a point is one, and the point is in it. -/
theorem numeral_of_pointed? {n : Number} (h : pointed? cs = some n) :
    '.' ∈ (Text.sign true cs).2 ∧ ∀ c ∈ cs, isNumeral c = true := by
  simp only [pointed?] at h
  generalize hds : (Text.sign true cs).2 = ds at h
  generalize hmantissa : ds.takeWhile (fun c => c != 'e' && c != 'E') = mantissa at h
  obtain ⟨⟨whole, fraction⟩, hsplit, h⟩ := Option.bind_eq_some_iff.mp h
  obtain ⟨hpoint, -⟩ := Text.splitOnceChars?_eq_some.mp hsplit
  -- behind the sign come digits, the point, digits and the exponent
  have hdigits : (whole ++ fraction).all Char.isDigit = true := by
    by_contra hbad
    simp only [Bool.eq_false_iff.mpr hbad, Bool.or_true, Bool.not_false, if_true] at h
    split at h
    · cases h
    · split at h <;> cases h
  have hjoin : whole ++ '.' :: fraction ++ ds.dropWhile (fun c => c != 'e' && c != 'E') = ds := by
    rw [← hpoint, ← hmantissa]
    exact List.takeWhile_append_dropWhile
  have hdrop : ds.drop mantissa.length = ds.dropWhile (fun c => c != 'e' && c != 'E') := by
    conv_lhs => rw [← hjoin, ← hpoint]
    exact List.drop_left
  have hexponent : ∀ c ∈ ds.dropWhile (fun c => c != 'e' && c != 'E'), isNumeral c = true := by
    refine numeral_of_exponent fun first rest hexponent => ?_
    rw [hdrop, hexponent] at h
    by_contra hbad
    simp only [Bool.eq_false_iff.mpr hbad, Bool.or_true, Bool.not_false, if_true] at h
    cases h
  refine ⟨by rw [← hjoin]; simp, fun c hc => ?_⟩
  rcases mem_of_sign hc with hc | hc
  · exact hc
  rw [hds, ← hjoin] at hc
  simp only [List.append_assoc, List.cons_append, List.mem_append, List.mem_cons] at hc
  rcases hc with hc | rfl | hc | hc
  · exact isNumeral_of_isDigit (List.all_eq_true.mp hdigits c (List.mem_append_left _ hc))
  · decide
  · exact isNumeral_of_isDigit (List.all_eq_true.mp hdigits c (List.mem_append_right _ hc))
  · exact hexponent c hc

/-! ### Words -/

theorem afterWord?_eq_some {word : String} :
    afterWord? word cs = some rest ↔ cs = word.toList ++ rest := by
  rw [afterWord?]
  constructor
  · intro h
    split at h
    · rename_i hprefix
      obtain ⟨more, rfl⟩ := List.isPrefixOf_iff_prefix.mp hprefix
      rw [← Option.some.inj h, ← String.length_toList, List.drop_left]
    · cases h
  · rintro rfl
    rw [if_pos (List.isPrefixOf_iff_prefix.mpr (List.prefix_append _ _)), ← String.length_toList,
      List.drop_left]

/-- A text that begins with another letter does not begin with a word. -/
theorem afterWord?_eq_none {word : String} {letters : List Char} (hword : word.toList = c :: letters)
    (h : ∀ d ∈ cs.head?, d ≠ c) : afterWord? word cs = none := by
  refine Option.eq_none_iff_forall_ne_some.mpr fun rest hrest => h c ?_ rfl
  rw [afterWord?_eq_some.mp hrest, hword]
  rfl

/-! ### White space -/

theorem isBlank_of_isSpace (h : isSpace c = true) : Text.isBlank c = true := by
  rcases Bool.or_eq_true_iff.mp h with h | h
  · exact Text.isBlank_of_isWhitespace h
  · simp only [Text.isBlank, beq_iff_eq.mp h]
    decide

/-- A trimmed text has no white space in front of its value. -/
theorem skipSpace_eq_self (h : Text.trimChars cs = cs) : skipSpace cs = cs := by
  cases cs with
  | nil => rfl
  | cons c rest =>
      have hhead : c ∈ (Text.trimChars (c :: rest)).head? := by
        rw [h]
        rfl
      have hstart := Text.not_isBlank_of_head? hhead
      refine List.dropWhile_cons_of_neg fun hspace => ?_
      rw [isBlank_of_isSpace hspace] at hstart
      cases hstart

/-- No part at the end of a trimmed text is white space only. -/
theorem eq_nil_of_skipSpace {before : List Char} (h : Text.trimChars cs = cs)
    (hcs : cs = before ++ rest) (hrest : skipSpace rest = []) : rest = [] := by
  by_contra hne
  have hspace := List.dropWhile_eq_nil_iff.mp hrest _ (List.getLast_mem hne)
  have hlast : rest.getLast hne ∈ (Text.trimChars cs).getLast? := by
    rw [h, hcs, List.getLast?_append_of_ne_nil _ hne, List.getLast?_eq_some_getLast hne]
    rfl
  have hend := Text.not_isBlank_of_getLast? hlast
  rw [isBlank_of_isSpace hspace] at hend
  cases hend

/-! ### Values -/

/-- A text that begins with neither a word nor a quote is read up to its first separator. -/
theorem single?_of_bare (hyes : afterWord? "true" cs = none) (hno : afterWord? "false" cs = none)
    (hquote : ∀ c ∈ cs.head?, c ≠ '"' ∧ c ≠ '\'') :
    single? cs = some (bareValue (Text.trimChars (cs.takeWhile fun c => !isSeparator c)),
      cs.drop (cs.takeWhile fun c => !isSeparator c).length) := by
  simp only [single?]
  rw [hyes, hno]
  split
  · rename_i heq
    cases heq
  · rename_i heq _
    cases heq
  · exact absurd rfl (hquote _ rfl).1
  · exact absurd rfl (hquote _ rfl).2
  · exact absurd rfl (hquote _ rfl).2
  · rfl

/-- A text of nothing but the characters of numbers is read as it stands. -/
theorem single?_of_numeral (htrim : Text.trimChars cs = cs)
    (h : ∀ c ∈ cs, isNumeral c = true) : single? cs = some (bareValue cs, []) := by
  have hhead : ∀ c ∈ cs.head?, ∀ d, isNumeral d = false → c ≠ d := by
    rintro c hc d hd rfl
    rw [h c (List.mem_of_mem_head? hc)] at hd
    cases hd
  have hyes : afterWord? "true" cs = none :=
    afterWord?_eq_none rfl fun c hc => hhead c hc _ (by decide)
  have hno : afterWord? "false" cs = none :=
    afterWord?_eq_none rfl fun c hc => hhead c hc _ (by decide)
  have hletters : cs.takeWhile (fun c => !isSeparator c) = cs := by
    refine List.takeWhile_eq_self_iff.mpr fun c hc => ?_
    by_contra hsep
    have hnot : isNumeral c = false := by
      simp only [isSeparator, Bool.not_eq_true', Bool.not_eq_false, Bool.or_eq_true,
        beq_iff_eq] at hsep
      rcases hsep with (((rfl | rfl) | rfl) | rfl) | rfl <;> decide
    rw [h c hc] at hnot
    cases hnot
  have hquote : ∀ c ∈ cs.head?, c ≠ '"' ∧ c ≠ '\'' :=
    fun c hc => ⟨hhead c hc _ (by decide), hhead c hc _ (by decide)⟩
  rw [single?_of_bare hyes hno hquote, hletters, htrim, List.drop_length]

/-- A text without quotes is a number that it spells, or itself. -/
theorem spells_bareValue (cs : List Char) :
    bareValue cs = .string (String.ofList cs) ∨ Spells cs (bareValue cs) := by
  simp only [bareValue]
  split
  · rename_i hpointed
    exact .inr (.pointed hpointed)
  · split
    · rename_i hwhole
      obtain ⟨hwhole, hfits⟩ := Option.filter_eq_some_iff.mp hwhole
      simp only [Bool.and_eq_true, decide_eq_true_eq] at hfits
      exact .inr (.whole hwhole hfits.1 hfits.2)
    · exact .inl rfl

/-- A text without quotes is read to its end if no separator is in it. -/
theorem spells_of_bare (htrim : Text.trimChars cs = cs)
    (hended : skipSpace (cs.drop (cs.takeWhile fun c => !isSeparator c).length) = []) :
    let j := bareValue (Text.trimChars (cs.takeWhile fun c => !isSeparator c))
    j = .string (String.ofList cs) ∨ Spells cs j := by
  obtain ⟨tail, htail⟩ : cs.takeWhile (fun c => !isSeparator c) <+: cs := List.takeWhile_prefix _
  generalize cs.takeWhile (fun c => !isSeparator c) = letters at *
  rw [← htail, List.drop_left] at hended
  rw [eq_nil_of_skipSpace htrim htail.symm hended, List.append_nil] at htail
  rw [htail, htrim]
  exact spells_bareValue cs

/-- A trimmed text that is read to its end is read as itself or as what it spells. -/
theorem spells_of_single? {more : List Char} (htrim : Text.trimChars cs = cs)
    (h : single? cs = some (j, more)) (hended : skipSpace more = []) :
    j = .string (String.ofList cs) ∨ Spells cs j := by
  simp only [single?] at h
  split at h
  · rename_i hword
    have hcs := afterWord?_eq_some.mp hword
    cases h
    rw [eq_nil_of_skipSpace htrim hcs hended, List.append_nil] at hcs
    exact .inr (hcs ▸ .yes rfl)
  · rename_i hword _
    have hcs := afterWord?_eq_some.mp hword
    cases h
    rw [eq_nil_of_skipSpace htrim hcs hended, List.append_nil] at hcs
    exact .inr (hcs ▸ .no rfl)
  · obtain ⟨⟨text, rest⟩, hquoted, hj⟩ := Option.map_eq_some_iff.mp h
    cases hj
    exact .inr (.quoted rfl hquoted hended)
  · rename_i c _ _ _
    cases h
    have hmore : more = [] := @eq_nil_of_skipSpace _ _ ['\'', c, '\''] htrim rfl hended
    rw [hmore]
    exact .inr (.character rfl)
  · cases h
  · cases h
    exact spells_of_bare htrim hended

/-- So it is if it may be a list or a table. -/
theorem spells_of_value? (htrim : Text.trimChars cs = cs)
    (h : value? (2 * cs.length + 1) cs = some (j, [])) :
    j = .string (String.ofList cs) ∨ Spells cs j := by
  rw [value?, skipSpace_eq_self htrim] at h
  obtain ⟨⟨k, more⟩, hfound, hj⟩ := Option.map_eq_some_iff.mp h
  obtain ⟨rfl, hended⟩ := Prod.mk.inj hj
  clear h hj
  split at hfound
  · obtain ⟨⟨items, rest⟩, hitems, hk⟩ := Option.map_eq_some_iff.mp hfound
    cases hk
    exact .inr (.list rfl hitems hended)
  · split at hfound
    · rename_i hbrace
      obtain ⟨⟨members, rest⟩, hentries, hk⟩ := Option.map_eq_some_iff.mp hfound
      cases hk
      exact .inr (.table (hbrace ▸ rfl) hentries hended)
    · exact spells_of_single? htrim hfound hended
  · exact spells_of_single? htrim hfound hended

/-- A trimmed text stands for itself or for what it spells. -/
theorem settingValue_eq_or_spells {text : String} (htrim : Text.trim text = text) :
    settingValue text = .string text ∨ Spells text.toList (settingValue text) := by
  simp only [settingValue]
  split
  · rename_i hvalue
    have hspells := spells_of_value? (Text.trimChars_of_trim htrim) hvalue
    rwa [String.ofList_toList] at hspells
  · exact .inl rfl

/-! ### What is spelled is read -/

/-- What begins with neither a bracket nor a brace is no list and no table. -/
theorem value?_of_single? {more : List Char} (htrim : Text.trimChars cs = cs)
    (hopened : ∀ c ∈ cs.head?, c ≠ '[' ∧ c ≠ openBrace) (h : single? cs = some (j, more))
    (hended : skipSpace more = []) : value? (fuel + 1) cs = some (j, []) := by
  rw [value?, skipSpace_eq_self htrim]
  split
  · exact absurd rfl (hopened _ rfl).1
  · simp only [if_neg (hopened _ rfl).2, h, Option.map_some, hended]
  · simp only [h, Option.map_some, hended]

/-- A numeral is neither list nor table. -/
theorem value?_of_numeral (htrim : Text.trimChars cs = cs)
    (h : ∀ c ∈ cs, isNumeral c = true) : value? (fuel + 1) cs = some (bareValue cs, []) := by
  refine value?_of_single? htrim (fun c hc => ?_) (single?_of_numeral htrim h) rfl
  have hnumeral := h c (List.mem_of_mem_head? hc)
  constructor
  · rintro rfl
    exact absurd hnumeral (by decide)
  · rintro rfl
    exact absurd hnumeral (by decide)

/-- A whole number has no point, so that it is not read as a number with one. -/
theorem bareValue_of_whole {n : Int} (h : Text.whole? true (String.ofList cs) = some n)
    (hleast : -0x8000000000000000 ≤ n) (hmost : n < 0x10000000000000000) :
    bareValue cs = .whole n := by
  have hpointed : pointed? cs = none := by
    refine Option.eq_none_iff_forall_ne_some.mpr fun m hm => ?_
    have hdigits := digits_of_whole? h
    exact absurd (List.all_eq_true.mp hdigits _ (numeral_of_pointed? hm).1) (by decide)
  simp only [bareValue, hpointed, h, Option.filter_some, decide_eq_true hleast,
    decide_eq_true hmost, Bool.and_self, if_true]

/-- A trimmed text is read as what it spells. -/
theorem value?_of_spells (htrim : Text.trimChars cs = cs) (h : Spells cs j) :
    value? (2 * cs.length + 1) cs = some (j, []) := by
  cases h with
  | yes written =>
      subst written
      refine value?_of_single? htrim (fun c hc => ?_) rfl rfl
      obtain rfl := Option.some.inj hc
      decide
  | no written =>
      subst written
      refine value?_of_single? htrim (fun c hc => ?_) rfl rfl
      obtain rfl := Option.some.inj hc
      decide
  | whole written least most =>
      rw [value?_of_numeral htrim (numeral_of_whole? written),
        bareValue_of_whole written least most]
  | pointed written =>
      rw [value?_of_numeral htrim (numeral_of_pointed? written).2]
      simp only [bareValue, written]
  | @quoted text rest more opened closed ended =>
      subst opened
      have hsingle : single? ('"' :: rest) = some (.string text, more) := by
        show (quoted? rest).map _ = _
        rw [closed]
        rfl
      refine value?_of_single? htrim (fun c hc => ?_) hsingle ended
      obtain rfl := Option.some.inj hc
      decide
  | character written =>
      subst written
      refine value?_of_single? htrim (fun c hc => ?_) rfl rfl
      obtain rfl := Option.some.inj hc
      decide
  | list opened closed ended =>
      rw [value?, skipSpace_eq_self htrim]
      subst opened
      simp only [closed, Option.map_some, ended]
  | table opened closed ended =>
      rw [value?, skipSpace_eq_self htrim]
      subst opened
      split
      · rename_i heq
        exact absurd (List.cons.inj heq).1 (by decide)
      · rename_i heq
        obtain ⟨rfl, rfl⟩ := List.cons.inj heq
        simp only [closed, Option.map_some, ended, if_true]
      · rename_i heq
        cases heq

/-- A variable that spells a value sets it. -/
theorem settingValue_of_spells {text : String} (htrim : Text.trim text = text)
    (h : Spells text.toList j) : settingValue text = j := by
  simp only [settingValue]
  rw [value?_of_spells (Text.trimChars_of_trim htrim) h]

end RobotMaze.Config
