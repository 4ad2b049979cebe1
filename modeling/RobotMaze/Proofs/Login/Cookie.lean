import Mathlib.Data.List.Basic
import RobotMaze.Login.Cookie
import RobotMaze.Proofs.Text.Base64Url
import RobotMaze.Proofs.Text.Split

/-! # Tokens and cookies that are found again

    A login is known by a token, which a cookie carries.  A cookie is written with
    whatever name it is given, but only some names can be read back out of a header.

    * `isTokenShaped_iff_exists` — a text is looked up just if it is a token of random
      bytes;
    * `isTokenShaped_loginToken` — so a token that was given out is looked up;
    * `tokens_denote` — a text that is looked up has 43 characters and is the token of
      bytes that no other text is the token of;
    * `IsReadable` — a name that can be read back, and `Pair.Sendable` a cookie that
      has one;
    * `find?_header` — of cookies that can be sent the first one of a name is
      found that has a value;
    * `isReadable_of_find?` — a cookie with any other name is never found. -/

namespace RobotMaze

/-! ## Tokens that are given out -/

/-- A text is looked up just if it is the token of as many bytes as a token has. -/
theorem isTokenShaped_iff_exists {text : String} :
    isTokenShaped text = true
      ↔ ∃ bytes : List UInt8, bytes.length = tokenBytes ∧ loginToken bytes = text := by
  have htoken : ∀ bytes, loginToken bytes = text
      ↔ Text.Base64Url.decode? text.toList = some bytes := by
    intro bytes
    rw [Text.Base64Url.decode?_eq_some_iff, loginToken]
    exact ⟨fun h => h ▸ String.toList_ofList, fun h => h ▸ String.ofList_toList⟩
  simp only [isTokenShaped, htoken]
  cases Text.Base64Url.decode? text.toList with
  | none => simp
  | some bytes => simp

/-- The token of as many random bytes as a token has is one that is looked up. -/
theorem isTokenShaped_loginToken {bytes : List UInt8} (h : bytes.length = tokenBytes) :
    isTokenShaped (loginToken bytes) = true :=
  isTokenShaped_iff_exists.mpr ⟨bytes, h, rfl⟩

/-- Different bytes have different tokens. -/
theorem loginToken_injective : Function.Injective loginToken := by
  intro bytes others h
  have hwritten := String.ofList_injective h
  have hread := Text.Base64Url.decode?_encode bytes
  rw [hwritten, Text.Base64Url.decode?_encode] at hread
  exact (Option.some.inj hread).symm

/-- The texts that are looked up are the tokens of 32 bytes, which are their form in base 64 without
    padding: each is that of one list of bytes, has 43 characters, and is the only text to be read
    as those bytes. -/
theorem tokens_denote :
    (∀ text, isTokenShaped text = true
        ↔ text.length = 43
          ∧ ∃! bytes : List UInt8, bytes.length = 32 ∧ loginToken bytes = text)
      ∧ (∀ text bytes, loginToken bytes = text ↔ Text.Base64Url.IsFormOf text.toList bytes)
      ∧ (∀ bytes : List UInt8, bytes.length = 32 → isTokenShaped (loginToken bytes) = true)
      ∧ ∀ text other, isTokenShaped text = true → isTokenShaped other = true →
          Text.Base64Url.decode? text.toList = Text.Base64Url.decode? other.toList →
          text = other := by
  refine ⟨fun text => ?_, fun text bytes => ?_, fun bytes h => isTokenShaped_loginToken h, ?_⟩
  · rw [isTokenShaped_iff_exists]
    constructor
    · rintro ⟨bytes, hcount, rfl⟩
      refine ⟨?_, bytes, ⟨hcount, rfl⟩, fun others h => loginToken_injective h.2⟩
      rw [loginToken, String.length_ofList, Text.Base64Url.length_encode, hcount]
      rfl
    · rintro ⟨-, bytes, h, -⟩
      exact ⟨bytes, h⟩
  · rw [Text.Base64Url.isFormOf_iff, loginToken]
    exact ⟨fun h => h ▸ String.toList_ofList, fun h => h ▸ String.ofList_toList⟩
  · intro text other htext hother h
    obtain ⟨bytes, -, rfl⟩ := isTokenShaped_iff_exists.mp htext
    obtain ⟨others, -, rfl⟩ := isTokenShaped_iff_exists.mp hother
    simp only [loginToken, String.toList_ofList, Text.Base64Url.decode?_encode] at h
    rw [Option.some.inj h]

/-! ## Cookies -/

namespace Cookie

open Text (split splitChars splitOnceChars? trimChars dropBlankStart dropBlankEnd isBlank)

/-- A name that can be read back: it begins with no blank, and holds neither of the characters at
    which a header is split. -/
structure IsReadable (name : String) : Prop where
  start : ∀ c ∈ name.toList.head?, isBlank c = false
  no_equals : '=' ∉ name.toList
  no_semicolon : ';' ∉ name.toList

/-- A cookie of a request. -/
structure Pair where
  name : String
  value : String

namespace Pair

/-- The written cookie. -/
def text (p : Pair) : String := p.name ++ "=" ++ p.value

/-- A cookie with a name that can be read back and a value that is not split. -/
structure Sendable (p : Pair) : Prop where
  readable : IsReadable p.name
  value : ';' ∉ p.value.toList

end Pair

/-- The header of a request with some cookies. -/
def header (pairs : List Pair) : String := Text.join "; " (pairs.map Pair.text)

variable {p : Pair} {pairs : List Pair} {name value : String}

theorem Pair.toList_text (p : Pair) : p.text.toList = p.name.toList ++ '=' :: p.value.toList := by
  simp [text, String.toList_append]

/-! ## Reading a cookie -/

/-- The name and the value of a written cookie, without the blanks at its end. -/
theorem splitOnce?_trim_text (h : IsReadable p.name) :
    Text.splitOnce? '=' (Text.trim p.text) = some (p.name, Text.trimEnd p.value) := by
  have hstart : ∀ c ∈ p.text.toList.head?, isBlank c = false := by
    intro c hc
    rw [p.toList_text] at hc
    cases hname : p.name.toList with
    | nil =>
        rw [hname] at hc
        obtain rfl : '=' = c := Option.some.inj hc
        decide
    | cons d rest =>
        have hfirst := h.start
        rw [hname] at hc hfirst
        exact hfirst c hc
  have htrim : trimChars p.text.toList = p.name.toList ++ '=' :: dropBlankEnd p.value.toList := by
    rw [trimChars, Text.dropBlankStart_eq_self hstart, p.toList_text,
      Text.dropBlankEnd_append (by decide)]
  have hsplit := Text.splitOnceChars?_eq_some.mpr ⟨htrim, h.no_equals⟩
  simp only [Text.splitOnce?, Text.trim, String.toList_ofList]
  rw [hsplit, Option.map_some, String.ofList_toList]
  rfl

/-- A cookie is taken for its name, if it has a value. -/
theorem valueOf?_text (h : IsReadable p.name) (name : String) : valueOf? name p.text
    = if p.name = name ∧ Text.trimEnd p.value ≠ "" then some (Text.trimEnd p.value) else none := by
  simp only [valueOf?]
  rw [splitOnce?_trim_text h]

/-- A blank before a cookie does not matter. -/
theorem valueOf?_blank (name : String) (cs : List Char) :
    valueOf? name (String.ofList (' ' :: cs)) = valueOf? name (String.ofList cs) := by
  have htrim : Text.trim (String.ofList (' ' :: cs)) = Text.trim (String.ofList cs) := by
    simp only [Text.trim, String.toList_ofList]
    rfl
  simp only [valueOf?]
  rw [htrim]

/-- Cookies with a semicolon and a blank between them are split at the semicolons. -/
theorem splitChars_intercalate {piece : List Char} {pieces : List (List Char)}
    (hpiece : ';' ∉ piece) (hpieces : ∀ q ∈ pieces, ';' ∉ q) :
    splitChars ';' ([';', ' '].intercalate (piece :: pieces)) = piece :: pieces.map (' ' :: ·) := by
  induction pieces generalizing piece with
  | nil =>
      rw [List.intercalate_singleton]
      exact Text.splitChars_of_not_mem hpiece
  | cons next more ih =>
      obtain ⟨hnext, hmore⟩ := List.forall_mem_cons.mp hpieces
      have hblank : ';' ∉ ' ' :: next := by
        rw [List.mem_cons, not_or]
        exact ⟨by decide, hnext⟩
      have hsplit : [';', ' '].intercalate (piece :: next :: more)
          = piece ++ ';' :: [';', ' '].intercalate ((' ' :: next) :: more) := by
        rw [List.intercalate_cons_cons, List.intercalate_cons_cons_left]
        simp
      rw [hsplit, Text.splitChars_append hpiece, ih hblank hmore]
      rfl

theorem toList_header (pairs : List Pair) : (header pairs).toList
    = [';', ' '].intercalate (pairs.map fun p => p.text.toList) := by
  rw [header, Text.join, String.toList_intercalate, List.map_map]
  rfl

/-- The pieces of a header are its cookies, all but the first one after a blank. -/
theorem split_header (h : ∀ q ∈ p :: pairs, q.Sendable) : split ';' (header (p :: pairs))
    = p.text :: pairs.map fun q => String.ofList (' ' :: q.text.toList) := by
  have hno : ∀ q ∈ p :: pairs, ';' ∉ q.text.toList := by
    intro q hq
    obtain ⟨hname, hvalue⟩ := h q hq
    rw [q.toList_text, List.mem_append, List.mem_cons, not_or, not_or]
    exact ⟨hname.no_semicolon, by decide, hvalue⟩
  have hmore : ∀ piece ∈ pairs.map fun q => q.text.toList, ';' ∉ piece := by
    intro piece hpiece
    obtain ⟨q, hq, rfl⟩ := List.mem_map.mp hpiece
    exact hno q (List.mem_cons_of_mem _ hq)
  rw [split, toList_header, List.map_cons,
    splitChars_intercalate (hno p List.mem_cons_self) hmore, List.map_cons, List.map_map,
    List.map_map, String.ofList_toList]
  rfl

/-- Of the cookies of a request the first one of a name is found that has a value. -/
theorem find?_header (h : ∀ p ∈ pairs, p.Sendable) (name : String) : find? (header pairs) name
    = pairs.findSome? fun p =>
        if p.name = name ∧ Text.trimEnd p.value ≠ "" then some (Text.trimEnd p.value) else none := by
  have hread : ∀ p ∈ pairs, valueOf? name p.text
      = if p.name = name ∧ Text.trimEnd p.value ≠ "" then some (Text.trimEnd p.value) else none :=
    fun p hp => valueOf?_text (h p hp).readable name
  cases pairs with
  | nil => rfl
  | cons p pairs =>
      have hlater : valueOf? name ∘ (fun q : Pair => String.ofList (' ' :: q.text.toList))
          = fun q => valueOf? name q.text :=
        funext fun q => by rw [Function.comp_apply, valueOf?_blank, String.ofList_toList]
      have hpieces : (p.text :: pairs.map fun q => String.ofList (' ' :: q.text.toList)).findSome?
          (valueOf? name) = (p :: pairs).findSome? fun q => valueOf? name q.text := by
        rw [List.findSome?_cons, List.findSome?_map, hlater, List.findSome?_cons]
      rw [find?, split_header h, hpieces, ← List.head?_filterMap, List.filterMap_congr hread,
        List.head?_filterMap]

/-- A cookie among cookies of other names is found. -/
theorem find?_header_append {before after : List Pair} (hp : p.Sendable) (hvalue : p.value ≠ "")
    (htrimmed : Text.trimEnd p.value = p.value)
    (hothers : ∀ q ∈ before ++ after, q.Sendable ∧ q.name ≠ p.name) :
    find? (header (before ++ p :: after)) p.name = some p.value := by
  have hall : ∀ q ∈ before ++ p :: after, q.Sendable := by
    intro q hq
    rcases List.mem_append.mp hq with hq | hq
    · exact (hothers q (List.mem_append_left _ hq)).1
    · rcases List.mem_cons.mp hq with rfl | hq
      · exact hp
      · exact (hothers q (List.mem_append_right _ hq)).1
  have hbefore : before.findSome? (fun q =>
      if q.name = p.name ∧ Text.trimEnd q.value ≠ "" then some (Text.trimEnd q.value) else none)
      = none :=
    List.findSome?_eq_none_iff.mpr fun q hq =>
      if_neg fun hsame => (hothers q (List.mem_append_left _ hq)).2 hsame.1
  rw [find?_header hall, List.findSome?_append, hbefore, List.findSome?_cons, htrimmed,
    if_pos ⟨rfl, hvalue⟩]
  rfl

/-! ## Names that are never found -/

/-- Whatever is found has a name that can be read back, and that name stands in the header. -/
theorem isReadable_of_find? {text : String} (h : find? text name = some value) :
    IsReadable name ∧ name.toList ⊆ text.toList := by
  obtain ⟨piece, hpiece, hvalue⟩ := List.exists_of_findSome?_eq_some h
  obtain ⟨chars, hchars, rfl⟩ := List.mem_map.mp hpiece
  obtain ⟨hno, hsubset⟩ := Text.not_mem_of_mem_splitChars hchars
  cases hsplit : Text.splitOnce? '=' (Text.trim (String.ofList chars)) with
  | none =>
      simp only [valueOf?, hsplit] at hvalue
      cases hvalue
  | some parts =>
      obtain ⟨key, rest⟩ := parts
      simp only [valueOf?, hsplit] at hvalue
      have hkey : key = name := by
        by_contra hne
        rw [if_neg fun hsame => hne hsame.1] at hvalue
        cases hvalue
      obtain ⟨⟨before, after⟩, hparts, hpair⟩ := Option.map_eq_some_iff.mp hsplit
      have hbefore : name.toList = before := by
        rw [← hkey, ← (Prod.mk.inj hpair).1, String.toList_ofList]
      rw [Text.trim, String.toList_ofList, String.toList_ofList] at hparts
      obtain ⟨htrim, hequals⟩ := Text.splitOnceChars?_eq_some.mp hparts
      have hin : before ⊆ chars := fun c hc =>
        Text.trimChars_subset chars (htrim ▸ List.mem_append_left _ hc)
      rw [hbefore]
      refine ⟨⟨?_, hbefore ▸ hequals, hbefore ▸ fun hmem => hno (hin hmem)⟩, fun c hc => ?_⟩
      · intro c hc
        rw [hbefore] at hc
        have hfirst : c ∈ (trimChars chars).head? := by
          rw [htrim, List.head?_append, hc]
          rfl
        exact Text.not_isBlank_of_head? hfirst
      · exact hsubset (hin hc)

end Cookie

end RobotMaze
