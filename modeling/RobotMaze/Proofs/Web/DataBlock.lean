import RobotMaze.Proofs.Json.Layout
import RobotMaze.Proofs.Web.Markup

/-! # Data blocks — values inside a page

    A data block holds the text of a value with `<\/` written for every `</`.

    * `not_infix_guardTags` — the block is closed nowhere in that text;
    * `quoted_guardTags` — inside a string the other spelling is an escape of the same
      character, so the string is read back;
    * `guardTags_chars` — outside of strings there is nothing to replace, so the guarded
      text of a value is a layout of it, `guarded`;
    * `dataBlock_keeps_value` — so the value is read from the block as it is from its
      own text. -/

namespace RobotMaze.Web.Html

open Json (chars itemChars memberChars quote laidOut laidItems laidMembers
  laidOut_compact readingOf)
open Json.Reading

/-! ## Guarded texts -/

/-- A character that begins no end tag stays. -/
theorem guardTags_cons {c : Char} {cs : List Char} (h : c = '<' → cs.head? ≠ some '/') :
    guardTags (c :: cs) = c :: guardTags cs := by
  rw [guardTags]
  rintro rest rfl rfl
  exact h rfl rfl

theorem guardTags_cons_of_ne {c : Char} (hc : c ≠ '<') (cs : List Char) :
    guardTags (c :: cs) = c :: guardTags cs :=
  guardTags_cons fun heq => absurd heq hc

/-- A text begins with a pair that is guarded, or with a character that stays alone. -/
@[elab_as_elim]
theorem guardTags_induction {P : List Char → Prop} (cs : List Char) (nil : P [])
    (pair : ∀ rest, P rest → P ('<' :: '/' :: rest))
    (alone : ∀ c rest, (c = '<' → rest.head? ≠ some '/') → P rest → P (c :: rest)) : P cs := by
  induction cs using guardTags.induct with
  | case1 rest ih => exact pair rest ih
  | case2 c rest hpair ih =>
      refine alone c rest (fun hc hhead => ?_) ih
      obtain ⟨more, hmore⟩ := List.head?_eq_some_iff.mp hhead
      exact hpair more hc hmore
  | case3 => exact nil

/-- Texts are guarded one by one, if no pair is torn apart. -/
theorem guardTags_append {cs ds : List Char} (hds : ds.head? ≠ some '/') :
    guardTags (cs ++ ds) = guardTags cs ++ guardTags ds := by
  induction cs using guardTags_induction with
  | nil => rfl
  | pair rest ih => simp only [List.cons_append, guardTags, ih]
  | alone c rest halone ih =>
      have hboth : c = '<' → (rest ++ ds).head? ≠ some '/' := by
        intro hc
        cases rest with
        | nil => exact hds
        | cons d rest => exact halone hc
      rw [List.cons_append, guardTags_cons hboth, guardTags_cons halone, ih]
      rfl

/-- Where no tag begins, there is nothing to guard. -/
theorem guardTags_append_of_not_mem {cs : List Char} (hcs : '<' ∉ cs) (ds : List Char) :
    guardTags (cs ++ ds) = cs ++ guardTags ds := by
  induction cs with
  | nil => rfl
  | cons c cs ih =>
      obtain ⟨hc, hrest⟩ := not_or.mp (mt List.mem_cons.mpr hcs)
      rw [List.cons_append, guardTags_cons_of_ne (Ne.symm hc), ih hrest]
      rfl

/-- A text without tags stays. -/
theorem guardTags_of_not_mem {cs : List Char} (hcs : '<' ∉ cs) : guardTags cs = cs := by
  have h := guardTags_append_of_not_mem hcs []
  rwa [List.append_nil, guardTags, List.append_nil] at h

theorem head?_guardTags (cs : List Char) : (guardTags cs).head? = cs.head? := by
  induction cs using guardTags_induction with
  | nil => rfl
  | pair rest => rfl
  | alone c rest halone => rw [guardTags_cons halone]; rfl

/-- No tag is closed in a guarded text. -/
theorem not_infix_guardTags (cs : List Char) : ¬ ['<', '/'] <:+: guardTags cs := by
  induction cs using guardTags_induction with
  | nil => simp [guardTags]
  | pair rest ih =>
      rw [guardTags]
      simp [List.infix_cons_iff, ih]
  | alone c rest halone ih =>
      rw [guardTags_cons halone, List.infix_cons_iff]
      rintro (hfirst | hlater)
      · -- the slash would come first in the rest, guarded or not
        obtain ⟨hc, hslash⟩ := List.cons_prefix_cons.mp hfirst
        obtain ⟨more, hmore⟩ := hslash
        refine halone hc.symm ?_
        rw [← head?_guardTags, ← hmore]
        rfl
      · exact ih hlater

example : guardTags ['<', '<', '/', '/'] = ['<', '<', '\\', '/', '/'] := rfl

/-! ## Strings -/

/-- What is written for a character is left as it is. -/
theorem guardTags_escapeChar {c : Char} {tail : List Char}
    (h : c = '<' → tail.head? ≠ some '/') :
    guardTags (Json.escapeChar c ++ tail) = Json.escapeChar c ++ guardTags tail := by
  by_cases hc : c = '<'
  · subst hc
    exact guardTags_cons h
  · refine guardTags_append_of_not_mem (fun hmem => ?_) tail
    rcases Json.mem_escapeChar hmem with heq | hsign
    · exact hc heq.symm
    · exact absurd hsign (by decide)

theorem escapeChar_ne_nil (c : Char) : Json.escapeChar c ≠ [] := by
  simp only [Json.escapeChar]
  repeat' split
  all_goals exact List.cons_ne_nil _ _

/-- A slash is written first only for a slash. -/
theorem head?_escaped {cs : List Char} (hcs : cs.head? ≠ some '/') :
    (cs.flatMap Json.escapeChar ++ ['"']).head? ≠ some '/' := by
  cases cs with
  | nil => decide
  | cons c cs =>
      obtain ⟨d, more, hcons⟩ := List.exists_cons_of_ne_nil (escapeChar_ne_nil c)
      rw [List.flatMap_cons, hcons]
      intro hd
      obtain rfl : d = '/' := Option.some.inj hd
      rcases Json.mem_escapeChar (hcons ▸ List.mem_cons_self) with heq | hsign
      · exact hcs (congrArg some heq.symm)
      · exact absurd hsign (by decide)

/-- A guarded string is read back up to the quote that closes it. -/
theorem quoted_guardTags (cs rest : List Char) :
    quoted (guardTags (cs.flatMap Json.escapeChar ++ ['"']) ++ rest) = .closed (some cs) rest := by
  induction cs using guardTags_induction with
  | nil => rfl
  | pair more ih =>
      -- the slash has been given a backslash, which escapes it
      show quoted ('<' :: '\\' :: '/' :: (guardTags (more.flatMap Json.escapeChar ++ ['"']) ++ rest))
        = _
      rw [quoted_plain (by decide) (by decide) (by decide), quoted_simple (by decide) rfl, ih]
      rfl
  | alone c more halone ih =>
      rw [List.flatMap_cons, List.append_assoc,
        guardTags_escapeChar fun hc => head?_escaped (halone hc), List.append_assoc,
        quoted_escapeChar, ih]
      rfl

/-- A text between quotes is read back from its guarded form. -/
theorem quoted_guardedQuote (s : String) (rest : List Char) :
    ∃ body, guardTags (quote s) ++ rest = '"' :: body
      ∧ quoted body = .closed (some s.toList) rest := by
  refine ⟨guardTags (s.toList.flatMap Json.escapeChar ++ ['"']) ++ rest, ?_,
    quoted_guardTags s.toList rest⟩
  rw [quote, guardTags_cons_of_ne (by decide)]
  rfl

/-! ## Values -/

/-- The text of a value without blanks in which no tag is closed. -/
def guarded : Json.Layout :=
  { Json.Layout.compact with
    text := fun s => guardTags (quote s)
    quoted_text := quoted_guardedQuote }

/-- What follows an item is no slash. -/
theorem head?_itemChars (items : List Json) : (itemChars items).head? ≠ some '/' := by
  cases items <;> simp [itemChars]

/-- What follows a member is no slash. -/
theorem head?_memberChars (members : List (String × Json)) :
    (memberChars members).head? ≠ some '/' := by
  cases members <;> simp [memberChars, Json.closeBrace]

mutual

/-- Guarding the text of a value guards its strings. -/
theorem guardTags_chars (depth : Nat) : ∀ j : Json, guardTags (chars j) = laidOut guarded depth j
  | .array [] => rfl
  | .array (item :: rest) => by
      rw [chars, guardTags_cons_of_ne (by decide),
        guardTags_append (head?_itemChars rest), guardTags_chars (depth + 1) item,
        guardTags_itemChars depth rest]
      rfl
  | .object [] => rfl
  | .object ((k, v) :: rest) => by
      rw [chars, guardTags_cons_of_ne (by decide), guardTags_append (by simp),
        guardTags_cons_of_ne (by decide), guardTags_append (head?_memberChars rest),
        guardTags_chars (depth + 1) v, guardTags_memberChars depth rest]
      rfl
  | .null => rfl
  | .bool true => rfl
  | .bool false => rfl
  | .number n => guardTags_of_not_mem (Json.not_mem_numberChars rfl (by decide) n)
  | .string _ => rfl

theorem guardTags_itemChars (depth : Nat) :
    ∀ items, guardTags (itemChars items) = laidItems guarded depth items
  | [] => rfl
  | item :: rest => by
      rw [itemChars, guardTags_cons_of_ne (by decide),
        guardTags_append (head?_itemChars rest), guardTags_chars (depth + 1) item,
        guardTags_itemChars depth rest]
      rfl

theorem guardTags_memberChars (depth : Nat) :
    ∀ members, guardTags (memberChars members) = laidMembers guarded depth members
  | [] => rfl
  | (k, v) :: rest => by
      rw [memberChars, guardTags_cons_of_ne (by decide), guardTags_append (by simp),
        guardTags_cons_of_ne (by decide), guardTags_append (head?_memberChars rest),
        guardTags_chars (depth + 1) v, guardTags_memberChars depth rest]
      rfl

end

/-- A value is read from its guarded text as from its own. -/
theorem ofChars_guardTags (value : Json) :
    ofChars (guardTags value.chars) = (readingOf value, []) := by
  have hread := ofChars_readingOf guarded value (List.forall_mem_nil _)
  rwa [List.append_nil, ← guardTags_chars] at hread

/-! ## Blocks -/

/-- The tag that opens a data block, up to its last character. -/
def blockOpening (id : String) : List Char :=
  "<script type=\"application/json\" id=\"".toList ++ ((escape id).toList ++ ['"'])

theorem greater_not_mem_blockOpening (id : String) : '>' ∉ blockOpening id := by
  have htag : '>' ∉ "<script type=\"application/json\" id=\"".toList := by decide
  have hid : '>' ∉ (escape id).toList := (not_mem_escape id).2.1
  intro h
  rcases List.mem_append.mp h with h | h
  · exact htag h
  rcases List.mem_append.mp h with h | h
  · exact hid h
  · exact absurd h (by decide)

/-- A data block is its opening tag, the guarded text and its end tag. -/
theorem toList_dataBlock (id : String) (value : Json) :
    (dataBlock id value).toList
      = blockOpening id ++ '>' :: (guardTags value.chars ++ "</script>".toList) := by
  have hpieces : ∀ (tag text closing : String) (body : List Char),
      (tag ++ text ++ "\">" ++ String.ofList body ++ closing).toList
        = (tag.toList ++ (text.toList ++ ['"'])) ++ '>' :: (body ++ closing.toList) := by
    intro tag text closing body
    simp only [String.toList_append, String.toList_ofList, List.append_assoc]
    rfl
  exact hpieces "<script type=\"application/json\" id=\"" (escape id) "</script>"
    (guardTags value.chars)

/-- For every value, whatever texts are in it: what a data block holds closes no tag, and the value
    is read from it to the end as it is read from its own text. -/
theorem dataBlock_keeps_value (id : String) (value : Json) :
    ∃ body : List Char,
      (dataBlock id value).toList = blockOpening id ++ '>' :: (body ++ "</script>".toList)
      ∧ '>' ∉ blockOpening id
      ∧ ¬ ['<', '/'] <:+: body
      ∧ ofChars body = (readingOf value, [])
      ∧ ofChars value.render.toList = (readingOf value, [])
      ∧ (readingOf value).isWhole = true
      ∧ Json.parse? (String.ofList body) = Json.parse? value.render := by
  have hguarded := ofChars_guardTags value
  have hown : ofChars value.render.toList = (readingOf value, []) := by
    have hread := ofChars_readingOf .compact value (List.forall_mem_nil _)
    rwa [List.append_nil, laidOut_compact, ← String.toList_ofList (l := value.chars)] at hread
  have hparse : Json.parse? (String.ofList (guardTags value.chars)) = Json.parse? value.render := by
    simp only [Json.parse?]
    rw [String.toList_ofList, hguarded, hown]
  exact ⟨guardTags value.chars, toList_dataBlock id value, greater_not_mem_blockOpening id,
    not_infix_guardTags _, hguarded, hown, Json.isWhole_readingOf value, hparse⟩

end RobotMaze.Web.Html
