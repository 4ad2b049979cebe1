import RobotMaze.Console.Fault
import RobotMaze.Proofs.Json.Layout
import RobotMaze.Proofs.RoundTrip
import RobotMaze.Proofs.Text.Pattern

/-! # Words of the command line — what they name

    A word is put between quotation marks as it is and read as JSON.  Quotation
    marks and backslashes in it would change what is read, but then there is no
    name in it:

    * `quoted_of_plain` — plain characters stand for themselves;
    * `eq_of_quoted` — and plain characters come from themselves only, where no small
      letter is there to make an escape with;
    * `decode_quotedWord_iff` — so a word is read as a name exactly if it is that name;
    * `NamesExactly` — what it is that words name the values of a type exactly;
    * `words_name_exactly` — they do so for all types that the command line names. -/

namespace RobotMaze

open Json Json.Reading

/-! ## Strings without escapes -/

namespace Json.Reading

/-- A character that a string has as it is, and that no escape with a sign stands for. -/
def IsPlain (c : Char) : Prop := c ≠ '"' ∧ c ≠ '\\' ∧ c ≠ '/' ∧ ¬ c.toNat < 32

instance (c : Char) : Decidable (IsPlain c) :=
  inferInstanceAs (Decidable (c ≠ '"' ∧ c ≠ '\\' ∧ c ≠ '/' ∧ ¬ c.toNat < 32))

theorem forall_isPlain {cs : List Char} (h : (cs.all fun c => decide (IsPlain c)) = true) :
    ∀ c ∈ cs, IsPlain c := by
  intro c hc
  exact of_decide_eq_true (List.all_eq_true.mp h c hc)

/-- Plain characters between quotes are read as they are. -/
theorem quoted_of_plain {cs : List Char} (hcs : ∀ c ∈ cs, IsPlain c) (rest : List Char) :
    quoted (cs ++ '"' :: rest) = .closed (some cs) rest := by
  induction cs with
  | nil => rw [List.nil_append, quoted]
  | cons c cs ih =>
      obtain ⟨⟨hquote, hslash, -, hcontrol⟩, hrest⟩ := List.forall_mem_cons.mp hcs
      rw [List.cons_append, quoted_plain hquote hslash hcontrol, ih hrest]
      rfl

/-- No other letter after a backslash makes an escape. -/
theorem quoted_noEscape {c : Char} (hc : c ≠ 'u') (h : simpleEscape? c = none)
    (tail : List Char) : quoted ('\\' :: c :: tail) = .broken := by
  rw [quoted, h]
  · exact fun _ _ _ _ _ _ _ _ _ h => absurd h hc
  · exact fun _ _ _ _ _ h => absurd h hc

/-- Control characters have to be escaped. -/
theorem quoted_controlChar {c : Char} (hquote : c ≠ '"') (hslash : c ≠ '\\')
    (hcontrol : c.toNat < 32) (tail : List Char) : quoted (c :: tail) = .broken := by
  rw [quoted]
  · rw [if_pos (.inl hcontrol)]
  · exact fun h => absurd h hquote
  · exact fun _ _ _ _ _ _ _ _ _ h => absurd h hslash
  · exact fun _ _ _ _ _ h => absurd h hslash
  · exact fun _ _ h => absurd h hslash

/-- What was read with a character in front was read without it. -/
theorem Quoted.of_push {c : Char} {q : Quoted} {t rest : List Char}
    (h : q.push (some c) = .closed (some t) rest) :
    ∃ more, t = c :: more ∧ q = .closed (some more) rest := by
  cases q with
  | broken => cases h
  | closed value after =>
      cases value with
      | none => cases h
      | some more =>
          injection h with ht hrest
          exact ⟨more, (Option.some.inj ht).symm, by rw [hrest]⟩

/-- Without small letters there are escapes for a quotation mark, a backslash and a slash only. -/
theorem simpleEscape?_of_notSmall {c d : Char} (hc : ¬ ('a' ≤ c ∧ c ≤ 'z'))
    (h : simpleEscape? c = some d) : d = '"' ∨ d = '\\' ∨ d = '/' := by
  have hsmall : ∀ e : Char, 'a' ≤ e ∧ e ≤ 'z' → c ≠ e := by
    intro e he hce
    exact hc (hce ▸ he)
  simp only [simpleEscape?, hsmall 'b' (by decide), hsmall 'f' (by decide),
    hsmall 'n' (by decide), hsmall 'r' (by decide), hsmall 't' (by decide), if_false] at h
  split at h
  · exact .inl (Option.some.inj h).symm
  split at h
  · exact .inr (.inl (Option.some.inj h).symm)
  split at h
  · exact .inr (.inr (Option.some.inj h).symm)
  · cases h

/-- So an escape leaves a character in the string that is not plain. -/
theorem not_isPlain_of_escape {d : Char} {after t rest : List Char} (hd : ¬ ('a' ≤ d ∧ d ≤ 'z'))
    (h : quoted ('\\' :: d :: after) = .closed (some t) rest) : ∃ c ∈ t, ¬ IsPlain c := by
  have hu : d ≠ 'u' := by
    rintro rfl
    exact hd (by decide)
  cases hescape : simpleEscape? d with
  | none =>
      rw [quoted_noEscape hu hescape] at h
      cases h
  | some e =>
      rw [quoted_simple hu hescape] at h
      obtain ⟨more, rfl, -⟩ := Quoted.of_push h
      refine ⟨e, List.mem_cons_self, ?_⟩
      rcases simpleEscape?_of_notSmall hd hescape with rfl | rfl | rfl <;> decide

/-- If a text without small letters is read, between quotation marks and up to its end, as plain
    characters, then it is these characters. -/
theorem eq_of_quoted {cs t rest : List Char} (hcs : ∀ c ∈ cs, ¬ ('a' ≤ c ∧ c ≤ 'z'))
    (h : quoted (cs ++ ['"']) = .closed (some t) rest) (hrest : rest.all isSpace = true)
    (ht : ∀ c ∈ t, IsPlain c) : t = cs := by
  induction cs generalizing t with
  | nil =>
      rw [List.nil_append, quoted] at h
      injection h with h
      exact (Option.some.inj h).symm
  | cons c cs ih =>
      obtain ⟨-, hmore⟩ := List.forall_mem_cons.mp hcs
      rw [List.cons_append] at h
      by_cases hquote : c = '"'
      · -- the string ends here, and the quotation mark at the end is left over
        rw [hquote, quoted] at h
        injection h with _ h
        rw [← h, List.all_append, Bool.and_eq_true] at hrest
        exact absurd hrest.2 (by decide)
      by_cases hslash : c = '\\'
      · obtain ⟨d, after, hafter⟩ : ∃ d after, cs ++ ['"'] = d :: after := by
          cases cs with
          | nil => exact ⟨_, _, rfl⟩
          | cons d cs => exact ⟨_, _, rfl⟩
        have hd : ¬ ('a' ≤ d ∧ d ≤ 'z') := by
          have hmem : d ∈ cs ++ ['"'] := hafter ▸ List.mem_cons_self
          rcases List.mem_append.mp hmem with hmem | hmem
          · exact hmore d hmem
          · rw [List.mem_singleton.mp hmem]
            decide
        rw [hslash, hafter] at h
        obtain ⟨e, he, hplain⟩ := not_isPlain_of_escape hd h
        exact absurd (ht e he) hplain
      by_cases hcontrol : c.toNat < 32
      · rw [quoted_controlChar hquote hslash hcontrol] at h
        cases h
      · rw [quoted_plain hquote hslash hcontrol] at h
        obtain ⟨more, rfl, hread⟩ := Quoted.of_push h
        rw [ih hmore hread fun d hd => ht d (List.mem_cons_of_mem _ hd)]

end Json.Reading

/-! ## Words and names -/

namespace Named

/-- The names of a type tell its values apart and consist of plain characters. -/
structure HasPlainNames (α : Type) [Named α] : Prop where
  ofName?_name : ∀ a : α, ofName? (name a) = some a
  isPlain : ∀ a : α, ∀ c ∈ (name a).toList, IsPlain c

end Named

theorem Heading.hasPlainNames : Named.HasPlainNames Heading where
  ofName?_name := TrackDocument.ofName?_heading
  isPlain heading := forall_isPlain (by cases heading <;> decide)

theorem Role.hasPlainNames : Named.HasPlainNames Role where
  ofName?_name := Role.ofName?_name
  isPlain role := forall_isPlain (by cases role <;> decide)

theorem SessionStatus.hasPlainNames : Named.HasPlainNames SessionStatus where
  ofName?_name := SessionStatus.ofName?_name
  isPlain status := forall_isPlain (by cases status <;> decide)

theorem DeviceClass.hasPlainNames : Named.HasPlainNames DeviceClass where
  ofName?_name := DeviceClass.ofName?_name
  isPlain device := forall_isPlain (by cases device <;> decide)

theorem AuditAction.hasPlainNames : Named.HasPlainNames AuditAction where
  ofName?_name := AuditEntry.ofName?_kind
  isPlain kind := forall_isPlain (by cases kind <;> decide)

theorem AuditStatus.hasPlainNames : Named.HasPlainNames AuditStatus where
  ofName?_name := AuditEntry.ofName?_status
  isPlain status := forall_isPlain (by cases status <;> decide)

namespace Console

/-- A capital or a sign is no small letter, and what it comes from does not matter. -/
theorem not_small_asciiUpperChar (c : Char) :
    ¬ ('a' ≤ Text.asciiUpperChar c ∧ Text.asciiUpperChar c ≤ 'z') := by
  by_cases hsmall : 'a' ≤ c ∧ c ≤ 'z'
  · have hlow : 97 ≤ c.toNat := hsmall.1
    have hhigh : c.toNat ≤ 122 := hsmall.2
    have hcapital : Text.asciiUpperChar c = Char.ofNat (c.toNat - 32) := if_pos hsmall
    rintro ⟨hle, -⟩
    have hle : 97 ≤ (Text.asciiUpperChar c).toNat := hle
    rw [hcapital, Text.toNat_ofNat_of_isValidChar (Or.inl (by omega))] at hle
    omega
  · rwa [Text.asciiUpperChar, if_neg hsmall]

/-- The name for a word has no small letters. -/
theorem not_small_of_mem_nameOfWord {word : String} :
    ∀ c ∈ (nameOfWord word).toList, ¬ ('a' ≤ c ∧ c ≤ 'z') := by
  intro c hc
  rw [nameOfWord, Text.asciiUpper, String.toList_ofList] at hc
  obtain ⟨d, -, rfl⟩ := List.mem_map.mp hc
  exact not_small_asciiUpperChar d

/-- Words name the values of a type exactly: trimmed, with underscores for hyphens and in capitals,
    a word is the name of the value that it names, and every other word is refused. -/
def NamesExactly (α : Type) [Named α] : Prop :=
  ∀ field word : String,
    (∀ a : α, choice field word = .ok a ↔ nameOfWord word = Named.name a)
    ∧ ((∀ a : α, nameOfWord word ≠ Named.name a) →
        (choice field word : Except BadChoice α) = .error ⟨field, word⟩)

section Words

variable {α : Type} [Named α]

/-- A word is read as a value if its quoted text is a string to its end, and that string a name. -/
theorem decode_quotedWord {word : String} {a : α} :
    decode Named.decoder (quotedWord word) = .ok a
      ↔ ∃ t rest, quoted ((nameOfWord word).toList ++ ['"']) = .closed (some t) rest
        ∧ rest.all isSpace = true ∧ Named.ofName? (String.ofList t) = some a := by
  have hchars : (quotedWord word).toList = '"' :: ((nameOfWord word).toList ++ ['"']) := by
    rw [quotedWord, String.toList_append, String.toList_append]
    rfl
  simp only [decode, hchars, ofChars, valueAt_quotationMark]
  constructor
  · intro h
    cases hquoted : quoted ((nameOfWord word).toList ++ ['"']) with
    | broken => simp only [hquoted] at h; cases h
    | closed value rest =>
        cases value with
        | none => simp only [hquoted] at h; cases h
        | some t =>
            simp only [hquoted, Named.decoder, Decoder.name] at h
            cases hname : (Named.ofName? (String.ofList t) : Option α) with
            | none => simp only [hname] at h; cases h
            | some b =>
                cases hrest : rest.all isSpace with
                | false => simp only [hname, hrest] at h; cases h
                | true =>
                    simp only [hname, hrest] at h
                    exact ⟨t, rest, rfl, hrest, hname.trans (congrArg some (Except.ok.inj h))⟩
  · rintro ⟨t, rest, hquoted, hrest, hname⟩
    simp only [hquoted, Named.decoder, Decoder.name, hname, hrest]
    rfl

variable (hnames : Named.HasPlainNames α)
include hnames

/-- A word is read as a value exactly if it is written like the name of that value. -/
theorem decode_quotedWord_iff {word : String} {a : α} :
    decode Named.decoder (quotedWord word) = .ok a ↔ nameOfWord word = Named.name a := by
  rw [decode_quotedWord]
  constructor
  · rintro ⟨t, rest, hquoted, hrest, hname⟩
    have ht : t = (Named.name a).toList := by
      rw [Named.name_of_ofName? hname, String.toList_ofList]
    have hplain : ∀ c ∈ t, IsPlain c := by
      rw [ht]
      exact hnames.isPlain a
    rw [← String.toList_inj, ← ht]
    exact (eq_of_quoted not_small_of_mem_nameOfWord hquoted hrest hplain).symm
  · intro hword
    rw [hword]
    refine ⟨(Named.name a).toList, [], quoted_of_plain (hnames.isPlain a) [], rfl, ?_⟩
    rw [String.ofList_toList]
    exact hnames.ofName?_name a

/-- Names without small letters, quotation marks and backslashes are named exactly by words. -/
theorem namesExactly : NamesExactly α := by
  intro field word
  have hread : ∀ a : α, decode Named.decoder (quotedWord word) = .ok a
      ↔ nameOfWord word = Named.name a := fun a => decode_quotedWord_iff hnames
  rw [choice]
  cases hdecode : decode (Named.decoder : Decoder α) (quotedWord word) with
  | ok b =>
      rw [hdecode] at hread
      refine ⟨fun a => ⟨?_, ?_⟩, fun hno => absurd ((hread b).mp rfl) (hno b)⟩
      · intro h
        exact (hread a).mp (congrArg Except.ok (Except.ok.inj h))
      · intro hword
        exact congrArg Except.ok (Except.ok.inj ((hread a).mpr hword))
  | error fault =>
      rw [hdecode] at hread
      refine ⟨fun a => ⟨?_, ?_⟩, fun _ => rfl⟩
      · intro h
        cases h
      · intro hword
        cases (hread a).mpr hword

end Words

/-- An escape that stands for a letter of a name names nothing. -/
example : (choice "role" "\\u0041DMIN" : Except BadChoice Role)
    = .error ⟨"role", "\\u0041DMIN"⟩ := by decide +kernel

end Console

end RobotMaze
