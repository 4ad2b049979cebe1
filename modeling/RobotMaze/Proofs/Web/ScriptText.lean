import Mathlib.Data.List.Induction
import Mathlib.Tactic.SplitIfs
import RobotMaze.Proofs.Web.DataBlock

/-! # Where a script ends

    The text of a script element is not read as markup.  Its reader, the tokenizer of the
    HTML standard, looks for the end tag of the element, but `<!--` opens a comment in the
    text, and a `<script` in that comment hides end tags until `-->` closes it.

    * `ScriptState`, `ScriptState.step` — what the reader knows after each character;
    * `untilEnd` — the text up to the end tag that ends the element, and what follows;
    * `HidesEndTag` — a text of which a comment is left open with a `<script` in it;
    * `depth_read_eq_script_iff` — where no tag is closed in the text, only such a text
      leads the reader past an end tag;
    * `untilEnd_append_scriptEnd` — so the end tag behind any other text ends the element. -/

namespace RobotMaze.Web.Html

/-! ## The reader -/

/-- What the reader of a script knows of the characters before; a name is kept in lower case. -/
inductive ScriptState where
  | data
  | lessThan
  | endTagName (name : List Char)
  | escapeStart
  | escapeStartDash
  | escaped
  | escapedDash
  | escapedDashDash
  | escapedLessThan
  | escapedEndTagName (name : List Char)
  | doubleEscapeStart (name : List Char)
  | doubleEscaped
  | doubleEscapedDash
  | doubleEscapedDashDash
  | doubleEscapedLessThan
  | doubleEscapeEnd (name : List Char)
  /-- The name of the end tag has been read: what follows is no text of the element. -/
  | ended
  deriving DecidableEq, Repr

namespace ScriptState

/-- The name of a script element. -/
def scriptName : List Char := "script".toList

/-- A character after which the name of a tag is over. -/
def endsName (c : Char) : Bool :=
  c == '\t' || c == '\n' || c == '\x0c' || c == ' ' || c == '/' || c == '>'

/-- The state after a character of the text itself. -/
def dataStep (c : Char) : ScriptState := if c = '<' then .lessThan else .data

/-- The state after a character of a comment. -/
def escapedStep (c : Char) : ScriptState :=
  if c = '-' then .escapedDash else if c = '<' then .escapedLessThan else .escaped

/-- The state after a character of a script in a comment. -/
def doubleEscapedStep (c : Char) : ScriptState :=
  if c = '-' then .doubleEscapedDash else if c = '<' then .doubleEscapedLessThan
  else .doubleEscaped

/-- The state after a character where the letters of a name have been read: what comes of the name
    of a script, and of a character that is no part of such a name. -/
def nameStep (more : List Char → ScriptState) (found : ScriptState) (other : Char → ScriptState)
    (name : List Char) (c : Char) : ScriptState :=
  if c.isAlpha then more (name ++ [c.toLower])
  else if endsName c && name == scriptName then found
  else other c

/-- The state after a character. -/
def step : ScriptState → Char → ScriptState
  | .data, c => dataStep c
  | .lessThan, c =>
      if c = '/' then .endTagName [] else if c = '!' then .escapeStart else dataStep c
  | .endTagName name, c => nameStep .endTagName .ended dataStep name c
  | .escapeStart, c => if c = '-' then .escapeStartDash else dataStep c
  | .escapeStartDash, c => if c = '-' then .escapedDashDash else dataStep c
  | .escaped, c => escapedStep c
  | .escapedDash, c => if c = '-' then .escapedDashDash else escapedStep c
  | .escapedDashDash, c =>
      if c = '-' then .escapedDashDash else if c = '>' then .data else escapedStep c
  | .escapedLessThan, c =>
      if c = '/' then .escapedEndTagName []
      else if c.isAlpha then .doubleEscapeStart [c.toLower]
      else escapedStep c
  | .escapedEndTagName name, c => nameStep .escapedEndTagName .ended escapedStep name c
  | .doubleEscapeStart name, c => nameStep .doubleEscapeStart .doubleEscaped escapedStep name c
  | .doubleEscaped, c => doubleEscapedStep c
  | .doubleEscapedDash, c => if c = '-' then .doubleEscapedDashDash else doubleEscapedStep c
  | .doubleEscapedDashDash, c =>
      if c = '-' then .doubleEscapedDashDash else if c = '>' then .data else doubleEscapedStep c
  | .doubleEscapedLessThan, c => if c = '/' then .doubleEscapeEnd [] else doubleEscapedStep c
  | .doubleEscapeEnd name, c => nameStep .doubleEscapeEnd .escaped doubleEscapedStep name c
  | .ended, _ => .ended

/-- The state after a text. -/
def read (s : ScriptState) (text : List Char) : ScriptState := text.foldl step s

end ScriptState

open ScriptState

/-- The text of a script up to the name of the end tag that ends it, this name included, and what
    follows.  Nothing, if no end tag ends it. -/
def untilEnd (s : ScriptState) : List Char → Option (List Char × List Char)
  | [] => none
  | c :: rest =>
      if s.step c = .ended then some ([], c :: rest)
      else (untilEnd (s.step c) rest).map fun (text, rest) => (c :: text, rest)

/-! ## What a state knows -/

namespace ScriptState

/-- How deep in a text the reader is: in the text itself, in a comment, or in a script in a
    comment. -/
inductive Depth where
  | text
  | comment
  | script
  deriving DecidableEq, Repr

/-- The depth of a state. -/
def depth : ScriptState → Depth
  | .escaped | .escapedDash | .escapedDashDash | .escapedLessThan | .escapedEndTagName _
  | .doubleEscapeStart _ => .comment
  | .doubleEscaped | .doubleEscapedDash | .doubleEscapedDashDash | .doubleEscapedLessThan
  | .doubleEscapeEnd _ => .script
  | _ => .text

/-- No end tag has been begun. -/
def IsInside : ScriptState → Prop
  | .endTagName _ | .escapedEndTagName _ | .doubleEscapeEnd _ | .ended => False
  | _ => True

/-- What a state says of the last characters. -/
def Recalls : ScriptState → List Char → Prop
  | .lessThan, text | .escapedLessThan, text | .doubleEscapedLessThan, text => ['<'] <:+ text
  | .escapeStart, text => ['<', '!'] <:+ text
  | .escapeStartDash, text => ['<', '!', '-'] <:+ text
  | .escapedDash, text | .doubleEscapedDash, text => ['-'] <:+ text
  | .escapedDashDash, text | .doubleEscapedDashDash, text => ['-', '-'] <:+ text
  | .doubleEscapeStart name, text => ∃ raw, raw.map Char.toLower = name ∧ '<' :: raw <:+ text
  | _, _ => True

variable {s : ScriptState} {text : List Char}

/-- Two texts are read one after the other. -/
theorem read_append (s : ScriptState) (text more : List Char) :
    s.read (text ++ more) = (s.read text).read more := List.foldl_append ..

theorem read_concat (s : ScriptState) (text : List Char) (c : Char) :
    s.read (text ++ [c]) = (s.read text).step c := read_append s text [c]

/-- The last characters go on with the next one. -/
theorem suffix_concat {last text : List Char} (h : last <:+ text) (c : Char) :
    last ++ [c] <:+ text ++ [c] := by
  obtain ⟨front, rfl⟩ := h
  exact ⟨front, by simp⟩

/-- After a character of the text its state recalls what it ended with. -/
theorem recalls_dataStep (text : List Char) (c : Char) : (dataStep c).Recalls (text ++ [c]) := by
  simp only [dataStep]
  split
  case isTrue h => exact h ▸ List.suffix_append text ['<']
  case isFalse => trivial

/-- So it is in a comment. -/
theorem recalls_escapedStep (text : List Char) (c : Char) :
    (escapedStep c).Recalls (text ++ [c]) := by
  simp only [escapedStep]
  split_ifs with hdash hless
  · exact hdash ▸ List.suffix_append text ['-']
  · exact hless ▸ List.suffix_append text ['<']
  · trivial

/-- So it is in a script in a comment. -/
theorem recalls_doubleEscapedStep (text : List Char) (c : Char) :
    (doubleEscapedStep c).Recalls (text ++ [c]) := by
  simp only [doubleEscapedStep]
  split_ifs with hdash hless
  · exact hdash ▸ List.suffix_append text ['-']
  · exact hless ▸ List.suffix_append text ['<']
  · trivial

/-- The state after a character recalls what the text ends with. -/
theorem Recalls.step (h : s.Recalls text) (c : Char) : (s.step c).Recalls (text ++ [c]) := by
  have hdata := recalls_dataStep text c
  have hescaped := recalls_escapedStep text c
  have hdouble := recalls_doubleEscapedStep text c
  cases s with
  | data => exact hdata
  | lessThan =>
      simp only [ScriptState.step]
      split_ifs with hslash hmark
      · trivial
      · exact hmark ▸ suffix_concat h '!'
      · exact hdata
  | endTagName name =>
      simp only [ScriptState.step, nameStep]
      split_ifs
      · trivial
      · trivial
      · exact hdata
  | escapeStart =>
      simp only [ScriptState.step]
      split_ifs with hdash
      · exact hdash ▸ suffix_concat h '-'
      · exact hdata
  | escapeStartDash =>
      simp only [ScriptState.step]
      split_ifs with hdash
      · exact hdash ▸ (List.suffix_append ['<', '!'] ['-', '-']).trans (suffix_concat h '-')
      · exact hdata
  | escaped => exact hescaped
  | escapedDash =>
      simp only [ScriptState.step]
      split_ifs with hdash
      · exact hdash ▸ suffix_concat h '-'
      · exact hescaped
  | escapedDashDash =>
      simp only [ScriptState.step]
      split_ifs with hdash
      · exact hdash ▸ (List.suffix_cons '-' ['-', '-']).trans (suffix_concat h '-')
      · trivial
      · exact hescaped
  | escapedLessThan =>
      simp only [ScriptState.step]
      split_ifs
      · trivial
      · exact ⟨[c], rfl, suffix_concat h c⟩
      · exact hescaped
  | escapedEndTagName name =>
      simp only [ScriptState.step, nameStep]
      split_ifs
      · trivial
      · trivial
      · exact hescaped
  | doubleEscapeStart name =>
      simp only [ScriptState.step, nameStep]
      split_ifs
      · obtain ⟨raw, hname, hlast⟩ := h
        exact ⟨raw ++ [c], by simp [hname], suffix_concat hlast c⟩
      · trivial
      · exact hescaped
  | doubleEscaped => exact hdouble
  | doubleEscapedDash =>
      simp only [ScriptState.step]
      split_ifs with hdash
      · exact hdash ▸ suffix_concat h '-'
      · exact hdouble
  | doubleEscapedDashDash =>
      simp only [ScriptState.step]
      split_ifs with hdash
      · exact hdash ▸ (List.suffix_cons '-' ['-', '-']).trans (suffix_concat h '-')
      · trivial
      · exact hdouble
  | doubleEscapedLessThan =>
      simp only [ScriptState.step]
      split_ifs
      · trivial
      · exact hdouble
  | doubleEscapeEnd name =>
      simp only [ScriptState.step, nameStep]
      split_ifs
      · trivial
      · trivial
      · exact hdouble
  | ended => trivial

/-! ## Depths -/

/-- A character of the text leads no deeper. -/
theorem depth_dataStep (c : Char) : (dataStep c).depth = .text := by
  simp only [dataStep]
  split <;> rfl

/-- A character of a comment stays in it. -/
theorem depth_escapedStep (c : Char) : (escapedStep c).depth = .comment := by
  simp only [escapedStep]
  split_ifs <;> rfl

/-- A character of a script in a comment stays in it. -/
theorem depth_doubleEscapedStep (c : Char) : (doubleEscapedStep c).depth = .script := by
  simp only [doubleEscapedStep]
  split_ifs <;> rfl

/-- Inside of a text the depth changes at three places only: where a comment is opened, where a
    script begins in it, and where both are closed. -/
theorem depth_step {c : Char} (hs : s.IsInside) (hstep : (s.step c).IsInside) :
    (s.step c).depth = s.depth
      ∨ s = .escapeStartDash ∧ c = '-' ∧ s.step c = .escapedDashDash
      ∨ s = .doubleEscapeStart scriptName ∧ endsName c = true ∧ s.step c = .doubleEscaped
      ∨ (s = .escapedDashDash ∨ s = .doubleEscapedDashDash) ∧ c = '>' ∧ s.step c = .data := by
  have hdata := depth_dataStep c
  have hescaped := depth_escapedStep c
  have hdouble := depth_doubleEscapedStep c
  cases s <;> grind [ScriptState.step, nameStep, depth, IsInside]

/-- A reader inside of a text that has read some characters, in which no tag is closed. -/
structure Follows (s : ScriptState) (text : List Char) : Prop where
  inside : s.IsInside
  recalls : s.Recalls text
  unclosed : ¬ ['<', '/'] <:+: text

/-- An end tag is begun by a slash behind `<` only. -/
theorem Follows.step {c : Char} (h : s.Follows text) (htext : ¬ ['<', '/'] <:+: text ++ [c]) :
    (s.step c).Follows (text ++ [c]) := by
  obtain ⟨hs, hrecalls, -⟩ := h
  refine ⟨?_, hrecalls.step c, htext⟩
  have hslash : ['<'] <:+ text → c ≠ '/' := by
    rintro hless rfl
    exact htext (suffix_concat hless '/').isInfix
  cases s <;> grind [ScriptState.step, nameStep, dataStep, escapedStep, doubleEscapedStep,
    IsInside, Recalls]

theorem infix_concat (text : List Char) (c : Char) : text <:+: text ++ [c] :=
  (List.prefix_append text [c]).isInfix

/-- Reading on, the state follows as long as no end tag begins. -/
theorem Follows.read {front : List Char} (h : s.Follows front)
    (htext : ¬ ['<', '/'] <:+: front ++ text) : (s.read text).Follows (front ++ text) := by
  induction text using List.reverseRecOn with
  | nil => exact (List.append_nil front).symm ▸ h
  | append_singleton text c ih =>
      rw [← List.append_assoc] at htext ⊢
      rw [read_concat]
      exact (ih fun hclosed => htext (hclosed.trans (infix_concat _ c))).step htext

/-- A `<` is known to the reader at every depth. -/
theorem step_lessThan (hs : s.IsInside) : s.step '<' = match s.depth with
    | .text => .lessThan
    | .comment => .escapedLessThan
    | .script => .doubleEscapedLessThan := by
  cases s <;> first | rfl | cases hs

/-- Wherever a comment is opened, it is read like any other from its first dashes on. -/
theorem read_opening (hs : s.IsInside) : ∃ start : ScriptState,
    (start = .escaped ∨ start = .doubleEscaped)
      ∧ s.read ['<', '!', '-', '-'] = start.read ['-', '-'] := by
  show ∃ start : ScriptState, _ ∧ (s.step '<').read ['!', '-', '-'] = start.read ['-', '-']
  rw [step_lessThan hs]
  cases s.depth with
  | text => exact ⟨.escaped, Or.inl rfl, rfl⟩
  | comment => exact ⟨.escaped, Or.inl rfl, rfl⟩
  | script => exact ⟨.doubleEscaped, Or.inr rfl, rfl⟩

/-- Two dashes are known to the reader of a comment. -/
theorem step_dash_dash (hs : s.IsInside) (hdepth : ((s.step '-').step '-').depth ≠ .text) :
    (s.step '-').step '-' = .escapedDashDash ∨ (s.step '-').step '-' = .doubleEscapedDashDash := by
  cases s
  all_goals first | exact Or.inl rfl | exact Or.inr rfl | exact absurd rfl hdepth

end ScriptState

/-! ## Comments -/

/-- In a text a script begins, as far as its name. -/
def NamesScript (text : List Char) : Prop :=
  ∃ front name c back, text = front ++ '<' :: (name ++ c :: back)
    ∧ name.map Char.toLower = scriptName ∧ endsName c = true

/-- In a text a comment is opened that is closed nowhere, and in that comment a script begins. -/
def HidesEndTag (text : List Char) : Prop :=
  ∃ front comment, text = front ++ '<' :: '!' :: comment ∧ ['-', '-'] <+: comment
    ∧ ¬ ['-', '-', '>'] <:+: comment ∧ NamesScript comment

/-- A text that names a script does so with one more character. -/
theorem NamesScript.concat {text : List Char} (h : NamesScript text) (c : Char) :
    NamesScript (text ++ [c]) := by
  obtain ⟨front, name, d, back, rfl, hname, hd⟩ := h
  exact ⟨front, name, d, back ++ [c], by simp, hname, hd⟩

namespace ScriptState

variable {s : ScriptState} {front text : List Char}

/-- A comment that is closed nowhere is not left, and neither is a script in it. -/
theorem Follows.depth_read (h : s.Follows front) (htext : ¬ ['<', '/'] <:+: front ++ text)
    (hopen : ¬ ['-', '-', '>'] <:+: front ++ text) (hdepth : s.depth ≠ .text) :
    (s.read text).depth = .script ∨ (s.read text).depth = .comment ∧ s.depth = .comment := by
  induction text using List.reverseRecOn with
  | nil =>
      show s.depth = _ ∨ s.depth = _ ∧ _
      cases hs : s.depth with
      | text => exact absurd hs hdepth
      | comment => exact Or.inr ⟨rfl, rfl⟩
      | script => exact Or.inl rfl
  | append_singleton text c ih =>
      rw [← List.append_assoc] at htext hopen
      have hunclosed : ¬ ['<', '/'] <:+: front ++ text :=
        fun hclosed => htext (hclosed.trans (infix_concat _ c))
      have hknown := h.read hunclosed
      rw [read_concat]
      rcases depth_step hknown.inside (hknown.step htext).inside with
        hsame | ⟨hstart, -, -⟩ | ⟨-, -, hscript⟩ | ⟨hdashes, rfl, -⟩
      · rw [hsame]
        exact ih hunclosed fun hclosed => hopen (hclosed.trans (infix_concat _ c))
      · -- a comment cannot be opened where one is open
        have := ih hunclosed fun hclosed => hopen (hclosed.trans (infix_concat _ c))
        rw [hstart] at this
        simp [depth] at this
      · rw [hscript]
        exact Or.inl rfl
      · have hlast : ['-', '-'] <:+ front ++ text := by
          have hrecalls := hknown.recalls
          rcases hdashes with hdashes | hdashes
          · rwa [hdashes] at hrecalls
          · rwa [hdashes] at hrecalls
        exact absurd (suffix_concat hlast '>').isInfix hopen

/-- A script in a comment that is closed nowhere is not left. -/
theorem Follows.depth_read_of_script (h : s.Follows front)
    (htext : ¬ ['<', '/'] <:+: front ++ text) (hopen : ¬ ['-', '-', '>'] <:+: front ++ text)
    (hdepth : s.depth = .script) : (s.read text).depth = .script := by
  rcases h.depth_read htext hopen (by simp [hdepth]) with hscript | ⟨-, hcomment⟩
  · exact hscript
  · rw [hdepth] at hcomment
    cases hcomment

theorem isAlpha_of_toLower {c : Char} (hc : c.toLower.isAlpha = true) : c.isAlpha = true := by
  by_cases hupper : c.isUpper = true
  · exact Bool.or_eq_true_iff.mpr (.inl hupper)
  · have hsame : c.toLower = c := dif_neg fun hrange => hupper (decide_eq_true hrange)
    rwa [hsame] at hc

/-- The letters of a name are collected in lower case. -/
theorem read_letters {letters : List Char} (hletters : ∀ c ∈ letters, c.isAlpha = true)
    (name : List Char) :
    (doubleEscapeStart name).read letters
      = .doubleEscapeStart (name ++ letters.map Char.toLower) := by
  induction letters generalizing name with
  | nil => simp [ScriptState.read]
  | cons c letters ih =>
      obtain ⟨hc, hrest⟩ := List.forall_mem_cons.mp hletters
      show ((doubleEscapeStart name).step c).read letters = _
      rw [show (doubleEscapeStart name).step c = .doubleEscapeStart (name ++ [c.toLower]) from
        if_pos hc, ih hrest]
      simp

/-- The name of a script leads from a comment into a script. -/
theorem read_scriptName {name : List Char} (hname : name.map Char.toLower = scriptName)
    {c : Char} (hc : endsName c = true) :
    escapedLessThan.read (name ++ [c]) = .doubleEscaped := by
  have hletters : ∀ d ∈ name, d.isAlpha = true := fun d hd =>
    isAlpha_of_toLower (List.all_eq_true.mp (by decide : scriptName.all Char.isAlpha = true)
      d.toLower (hname ▸ List.mem_map_of_mem hd))
  obtain ⟨first, letters, rfl⟩ : ∃ first letters, name = first :: letters :=
    List.exists_cons_of_ne_nil (by rintro rfl; cases hname)
  obtain ⟨hfirst, hrest⟩ := List.forall_mem_cons.mp hletters
  have hslash : first ≠ '/' := by
    rintro rfl
    exact absurd hfirst (by decide)
  have hother : ¬ c.isAlpha = true := by
    simp only [endsName, Bool.or_eq_true, beq_iff_eq] at hc
    rcases hc with ((((rfl | rfl) | rfl) | rfl) | rfl) | rfl <;> decide
  have hstep : escapedLessThan.step first = .doubleEscapeStart [first.toLower] := by
    simp [ScriptState.step, hslash, hfirst]
  rw [read_concat]
  show ((escapedLessThan.step first).read letters).step c = _
  rw [hstep, read_letters hrest]
  show (doubleEscapeStart ((first :: letters).map Char.toLower)).step c = _
  simp [ScriptState.step, nameStep, hother, hc, hname]

/-- In a comment that is closed nowhere the name of a script leads into a script. -/
theorem Follows.depth_read_of_namesScript (h : s.Follows []) (htext : ¬ ['<', '/'] <:+: text)
    (hopen : ¬ ['-', '-', '>'] <:+: text) (hdepth : s.depth ≠ .text) (hnames : NamesScript text) :
    (s.read text).depth = .script := by
  obtain ⟨front, name, c, back, rfl, hname, hc⟩ := hnames
  have hfront : front <:+: front ++ '<' :: (name ++ c :: back) := (List.prefix_append ..).isInfix
  have hback : back <:+: front ++ '<' :: (name ++ c :: back) :=
    ⟨front ++ '<' :: (name ++ [c]), [], by simp⟩
  have hknown := h.read fun hclosed => htext (hclosed.trans hfront)
  rw [read_append]
  rcases h.depth_read (fun hclosed => htext (hclosed.trans hfront))
    (fun hclosed => hopen (hclosed.trans hfront)) hdepth with hscript | ⟨hcomment, -⟩
  · exact hknown.depth_read_of_script htext hopen hscript
  · show (((s.read front).step '<').read (name ++ c :: back)).depth = _
    rw [step_lessThan hknown.inside, hcomment, List.append_cons, read_append,
      read_scriptName hname hc]
    have hinside : ScriptState.doubleEscaped.Follows [] := ⟨trivial, trivial, by simp⟩
    exact hinside.depth_read_of_script (fun hclosed => htext (hclosed.trans hback))
      (fun hclosed => hopen (hclosed.trans hback)) rfl

/-- A script in a comment has a name. -/
theorem Follows.namesScript (h : s.Follows []) (htext : ¬ ['<', '/'] <:+: text)
    (hdepth : s.depth ≠ .script) (hscript : (s.read text).depth = .script) : NamesScript text := by
  induction text using List.reverseRecOn with
  | nil => exact absurd hscript hdepth
  | append_singleton text c ih =>
      have hunclosed : ¬ ['<', '/'] <:+: text :=
        fun hclosed => htext (hclosed.trans (infix_concat _ c))
      have hknown := h.read hunclosed
      rw [read_concat] at hscript
      rcases depth_step hknown.inside (hknown.step htext).inside with
        hsame | ⟨-, -, hcomment⟩ | ⟨hname, hc, -⟩ | ⟨-, -, hdata⟩
      · exact (ih hunclosed (hsame ▸ hscript)).concat c
      · rw [hcomment] at hscript
        cases hscript
      · have hrecalls := hknown.recalls
        rw [hname] at hrecalls
        obtain ⟨raw, hraw, front, hfront⟩ := hrecalls
        rw [List.nil_append] at hfront
        exact ⟨front, raw, c, [], by simp [← hfront], hraw, hc⟩
      · rw [hdata] at hscript
        cases hscript

/-- A `>` behind two dashes closes every comment. -/
theorem step_arrow {comment : List Char} (hunclosed : ¬ ['<', '/'] <:+: comment)
    (hlast : ['-', '-'] <:+ comment) (hdepth : (read .escaped comment).depth ≠ .text) :
    (read .escaped comment).step '>' = .data := by
  obtain ⟨before, rfl⟩ := hlast
  have hstart : ScriptState.escaped.Follows [] := ⟨trivial, trivial, by simp⟩
  have hknown := hstart.read fun hclosed =>
    hunclosed (hclosed.trans (List.prefix_append before ['-', '-']).isInfix)
  rw [read_append] at hdepth ⊢
  rcases step_dash_dash hknown.inside hdepth with hdashes | hdashes
  · exact congrArg (ScriptState.step · '>') hdashes
  · exact congrArg (ScriptState.step · '>') hdashes

/-- A reader that is not in the text itself is in a comment that was opened and is not closed. -/
theorem exists_comment (htext : ¬ ['<', '/'] <:+: text)
    (hdepth : (read .data text).depth ≠ .text) :
    ∃ front comment, text = front ++ '<' :: '!' :: comment ∧ ['-', '-'] <+: comment
      ∧ ¬ ['-', '-', '>'] <:+: comment ∧ read .data text = read .escaped comment := by
  have hstart : ScriptState.data.Follows [] := ⟨trivial, trivial, by simp⟩
  induction text using List.reverseRecOn with
  | nil => exact absurd rfl hdepth
  | append_singleton text c ih =>
      have hunclosed : ¬ ['<', '/'] <:+: text :=
        fun hclosed => htext (hclosed.trans (infix_concat _ c))
      have hknown := hstart.read hunclosed
      rw [read_concat] at hdepth ⊢
      by_cases hbefore : (read .data text).depth = .text
      · -- the comment is opened here
        rcases depth_step hknown.inside (hknown.step htext).inside with
          hsame | ⟨hstart', rfl, hcomment⟩ | ⟨hname, -⟩ | ⟨-, -, hdata⟩
        · exact absurd (hsame.trans hbefore) hdepth
        · have hlast := hknown.recalls
          rw [hstart'] at hlast
          obtain ⟨front, hfront⟩ := hlast
          rw [List.nil_append] at hfront
          exact ⟨front, ['-', '-'], by simp [← hfront], List.prefix_rfl, by decide, hcomment⟩
        · rw [hname] at hbefore
          cases hbefore
        · exact absurd (congrArg depth hdata) hdepth
      · obtain ⟨front, comment, htext', hdashes, hopen, hread⟩ := ih hunclosed hbefore
        refine ⟨front, comment ++ [c], by simp [htext'], hdashes.trans (List.prefix_append _ _),
          fun hclosed => ?_, by rw [hread, read_concat]⟩
        rcases List.infix_concat_iff.mp hclosed with ⟨before, hlast⟩ | hbefore'
        · have hlast' : (before ++ ['-', '-']) ++ ['>'] = comment ++ [c] := by simpa using hlast
          obtain ⟨hdashes', hc⟩ := List.append_inj' hlast' rfl
          have hinside : comment <:+: text := htext' ▸ ⟨front ++ ['<', '!'], [], by simp⟩
          refine hdepth ?_
          rw [hread, ← List.singleton_inj.mp hc,
            step_arrow (fun h => hunclosed (h.trans hinside)) ⟨before, hdashes'⟩
              (hread ▸ hbefore)]
          rfl
        · exact hopen hbefore'

end ScriptState

/-- Where no tag is closed, the reader ends up in a script in a comment behind such texts only. -/
theorem depth_read_eq_script_iff {text : List Char} (htext : ¬ ['<', '/'] <:+: text) :
    (read .data text).depth = .script ↔ HidesEndTag text := by
  constructor
  · intro hscript
    obtain ⟨front, comment, rfl, hdashes, hopen, hread⟩ :=
      exists_comment htext (by simp [hscript])
    have hstart : ScriptState.escaped.Follows [] := ⟨trivial, trivial, by simp⟩
    have hinside : comment <:+: front ++ '<' :: '!' :: comment :=
      ⟨front ++ ['<', '!'], [], by simp⟩
    exact ⟨front, comment, rfl, hdashes, hopen,
      hstart.namesScript (fun h => htext (h.trans hinside)) (by decide) (hread ▸ hscript)⟩
  · rintro ⟨front, comment, rfl, ⟨more, rfl⟩, hopen, hnames⟩
    have hstart : ScriptState.data.Follows [] := ⟨trivial, trivial, by simp⟩
    have hfront := hstart.read fun h => htext (h.trans (List.prefix_append front _).isInfix)
    obtain ⟨start, hcases, hread⟩ := read_opening hfront.inside
    have hdepth : start.depth ≠ .text ∧ start.Follows [] := by
      rcases hcases with rfl | rfl
      · exact ⟨by decide, trivial, trivial, by simp⟩
      · exact ⟨by decide, trivial, trivial, by simp⟩
    have hinside : ['-', '-'] ++ more <:+: front ++ '<' :: '!' :: (['-', '-'] ++ more) :=
      ⟨front ++ ['<', '!'], [], by simp⟩
    have hcomment : read .data (front ++ '<' :: '!' :: (['-', '-'] ++ more))
        = start.read (['-', '-'] ++ more) := by
      have hsplit : front ++ '<' :: '!' :: (['-', '-'] ++ more)
          = front ++ (['<', '!', '-', '-'] ++ more) := rfl
      rw [hsplit, read_append, read_append, hread, ← read_append]
    rw [hcomment]
    exact hdepth.2.depth_read_of_namesScript (fun h => htext (h.trans hinside)) hopen hdepth.1
      hnames

/-! ## The end of the element -/

/-- The end tag of a script. -/
def scriptEnd : List Char := "</script>".toList

/-- Nothing more is read once the element has ended. -/
theorem read_ended (text : List Char) : ScriptState.ended.read text = .ended := by
  induction text with
  | nil => rfl
  | cons c text ih => exact ih

/-- A text that does not end the element is part of its text. -/
theorem untilEnd_append {s : ScriptState} {text : List Char} (htext : s.read text ≠ .ended)
    (rest : List Char) : untilEnd s (text ++ rest)
      = (untilEnd (s.read text) rest).map fun (more, rest) => (text ++ more, rest) := by
  induction text generalizing s with
  | nil => simp [ScriptState.read]
  | cons c text ih =>
      have hc : s.step c ≠ .ended := by
        intro hended
        refine htext ?_
        show (s.step c).read text = .ended
        rw [hended, read_ended]
      rw [List.cons_append, untilEnd, if_neg hc, ih htext, Option.map_map]
      rfl

/-- An end tag is hidden by a script in a comment, and by nothing else. -/
theorem untilEnd_scriptEnd {s : ScriptState} (hs : s.IsInside) (rest : List Char) :
    untilEnd s (scriptEnd ++ rest) =
      if s.depth = .script then
        (untilEnd .escaped rest).map fun (more, rest) => (scriptEnd ++ more, rest)
      else some ("</script".toList, '>' :: rest) := by
  split
  case isTrue hscript =>
    have hread : s.read scriptEnd = .escaped := by
      show (s.step '<').read "/script>".toList = .escaped
      rw [step_lessThan hs, hscript]
      decide
    rw [untilEnd_append (by rw [hread]; decide), hread]
  case isFalse hother =>
    show untilEnd s ('<' :: ("/script>".toList ++ rest)) = _
    rw [untilEnd, step_lessThan hs]
    cases hdepth : s.depth with
    | text => rfl
    | comment => rfl
    | script => exact absurd hdepth hother

/-- The end tag behind a text in which no tag is closed ends the element, unless the text hides
    it. -/
theorem untilEnd_append_scriptEnd {text : List Char} (htext : ¬ ['<', '/'] <:+: text)
    (rest : List Char) :
    (¬ HidesEndTag text → untilEnd .data (text ++ (scriptEnd ++ rest))
        = some (text ++ "</script".toList, '>' :: rest))
      ∧ (HidesEndTag text → untilEnd .data (text ++ (scriptEnd ++ rest))
        = (untilEnd .escaped rest).map
          fun (more, rest) => (text ++ (scriptEnd ++ more), rest)) := by
  have hstart : ScriptState.data.Follows [] := ⟨trivial, trivial, by simp⟩
  have hread : (read .data text).Follows text := hstart.read htext
  have hinside := hread.inside
  have hended : read .data text ≠ .ended := by
    intro hended
    rw [hended] at hinside
    exact hinside
  rw [untilEnd_append hended, untilEnd_scriptEnd hinside, ← depth_read_eq_script_iff htext]
  constructor
  · intro hdepth
    rw [if_neg hdepth]
    rfl
  · intro hdepth
    rw [if_pos hdepth, Option.map_map]
    rfl

end RobotMaze.Web.Html
