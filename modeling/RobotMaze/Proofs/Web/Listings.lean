import RobotMaze.Proofs.Service.Pages
import RobotMaze.Proofs.Service.Recorded
import RobotMaze.Proofs.Store.Listing
import RobotMaze.Proofs.Text.Digits
import RobotMaze.Proofs.Web.Cookie
import RobotMaze.Proofs.Web.Markup
import RobotMaze.Web.Office.Audit
import RobotMaze.Web.Office.Pages
import RobotMaze.Web.Office.Tracks
import RobotMaze.Web.Office.Users

/-! # Listings of the back office

    A listing is asked for by the number and the size of a page, both of 32 bits.  Below
    the listing stands the number of the page that is shown, with references to the pages
    around it:

    * `plainText`, `Leads` — what is read of a page: its text without tags, and its
      references;
    * `marks_pager`, `marks_table_pager` — the tags and texts of a pager, alone and below
      a table;
    * `pagerOf_pager` — what the pager of a page of a listing says and where it leads;
    * `PageRequest.Within` — what is asked for stays within the limits of the site;
    * `Lists` — which pages of a listing are answered, and `Shows` — what is shown of them;
    * `lists_of_cutFrom`, `shows_of_cutFrom` — one rule for whatever is listed;
    * `listings_shown` — all listings of the back office. -/

namespace RobotMaze.Web

namespace Html

/-- The text of a page without its tags. -/
def plainText (html : String) : String := String.join ((marks html).map Mark.text)

/-- The tag of a reference and its label. -/
def reference (label target : String) : Mark := ⟨"a href=\"" ++ target ++ "\"", label⟩

/-- Somewhere on a page a label leads to an address. -/
def Leads (html label target : String) : Prop := reference label target ∈ marks html

/-- A reference tells its label and its target. -/
theorem reference_injective {label label' target target' : String}
    (h : reference label target = reference label' target') :
    label = label' ∧ target = target' := by
  obtain ⟨htag, hlabel⟩ := Mark.mk.inj h
  refine ⟨hlabel, ?_⟩
  have hchars := congrArg String.toList htag
  simp only [String.toList_append] at hchars
  exact String.toList_injective (List.append_cancel_left (List.append_cancel_right hchars))

/-- A text is escaped character by character. -/
theorem escape_append (s t : String) : escape (s ++ t) = escape s ++ escape t := by
  simp only [escape, String.toList_append, List.flatMap_append, String.ofList_append]

theorem isDigit_of_mem_toString {n : Nat} {c : Char} (hc : c ∈ (toString n).toList) :
    c.isDigit = true := by
  rw [Decimal.toList_toString] at hc
  exact Nat.isDigit_of_mem_toDigits (by decide) (by decide) hc

/-- A number is written without special characters. -/
theorem escape_toString (n : Nat) : escape (toString n) = toString n := by
  have hdigit : ∀ c : Char, c.isDigit = true → escapeChar c = [c] := by
    intro c hc
    have hne : ∀ d : Char, d.isDigit = false → c ≠ d := fun d hd h => by simp [h, hd] at hc
    simp only [escapeChar]
    rw [if_neg (hne '&' rfl), if_neg (hne '<' rfl), if_neg (hne '>' rfl), if_neg (hne '"' rfl),
      if_neg (hne '\'' rfl)]
  have hchars : ∀ cs : List Char, (∀ c ∈ cs, c.isDigit = true) → cs.flatMap escapeChar = cs := by
    intro cs hcs
    induction cs with
    | nil => rfl
    | cons c cs ih =>
        obtain ⟨hc, hrest⟩ := List.forall_mem_cons.mp hcs
        rw [List.flatMap_cons, hdigit c hc, ih hrest]
        rfl
  rw [escape, hchars _ fun _ => isDigit_of_mem_toString, String.ofList_toList]

/-! ## Pagers -/

/-- The number of a page and of all pages, as people count them. -/
def pagerLabel (shown totalPages : Nat) : String :=
  "Page " ++ toString shown ++ " of " ++ toString (max totalPages 1)

/-- The tags and texts of a label between two references, either of which may be missing. -/
def stripMarks (label : String) (before after : Option String) : List Mark :=
  let label := if after.isSome then label ++ " " else label
  (match before with
    | some target => [⟨"p class=\"pager\"", ""⟩, reference "Previous" target, ⟨"/a", " " ++ label⟩]
    | none => [⟨"p class=\"pager\"", label⟩])
  ++ (match after with
    | some target => [reference "Next" target, ⟨"/a", ""⟩]
    | none => [])
  ++ [⟨"/p", ""⟩]

/-- The address of a page of a listing. -/
def pageAddress (path : String) (number : Nat) : String := path ++ "?page=" ++ toString number

/-- The tags and texts of a pager. -/
def pagerMarks (number : UInt32) (totalPages : Nat) (path : String) : List Mark :=
  stripMarks (pagerLabel (number + 1).toNat totalPages)
    (if 0 < number then some (pageAddress path (number - 1).toNat) else none)
    (if number.toNat + 1 < totalPages then some (pageAddress path (number + 1).toNat) else none)

/-- A label of the pager has nothing to escape. -/
theorem escape_pagerLabel (shown totalPages : Nat) :
    escape (pagerLabel shown totalPages) = pagerLabel shown totalPages := by
  have hpage : escape "Page " = "Page " := by decide +kernel
  have hof : escape " of " = " of " := by decide +kernel
  simp only [pagerLabel, escape_append, escape_toString, hpage, hof]

/-- The pager is written mark by mark. -/
theorem strip_eq {label : String} (hlabel : escape label = label) (before after : Option String) :
    String.join ((stripMarks label before after).map Mark.render)
      = "<p class=\"pager\">" ++ (before.map fun target => link target "Previous" ++ " ").getD ""
        ++ label ++ (after.map fun target => " " ++ link target "Next").getD "" ++ "</p>" := by
  have hblank : escape " " = " " := by decide +kernel
  have hprevious : escape "Previous" = "Previous" := by decide +kernel
  have hnext : escape "Next" = "Next" := by decide +kernel
  have hempty : escape "" = "" := by decide +kernel
  refine String.toList_injective ?_
  cases before <;> cases after <;>
    simp [stripMarks, reference, Mark.render, link, escape_append, hlabel, hblank, hprevious, hnext,
      hempty]

/-- The pager of a page is its marks, one after another. -/
theorem pager_eq (number : UInt32) (totalPages : Nat) (path : String) :
    Office.pager number totalPages path
      = String.join ((pagerMarks number totalPages path).map Mark.render) := by
  have hshown : ∀ n : UInt32, toString n = toString n.toNat := fun _ => rfl
  have hbefore : (if 0 < number then link (pageAddress path (number - 1).toNat) "Previous" ++ " "
      else "") = ((if 0 < number then some (pageAddress path (number - 1).toNat) else none).map
        fun target => link target "Previous" ++ " ").getD "" := by
    split <;> rfl
  have hafter : (if number.toNat + 1 < totalPages then
      " " ++ link (pageAddress path (number + 1).toNat) "Next" else "")
      = ((if number.toNat + 1 < totalPages then some (pageAddress path (number + 1).toNat)
        else none).map fun target => " " ++ link target "Next").getD "" := by
    split <;> rfl
  rw [pagerMarks, strip_eq (escape_pagerLabel _ _), ← hbefore, ← hafter]
  unfold Office.pager pagerLabel pageAddress
  dsimp only
  simp only [← hshown, String.append_assoc]

/-- A page is found under an address without brackets, if the listing is. -/
theorem isClean_reference {path : String} (hless : '<' ∉ path.toList) (hgreater : '>' ∉ path.toList)
    (label : String) (number : Nat) : (reference label (pageAddress path number)).IsClean := by
  have hdigits : ∀ c : Char, c.isDigit = false → c ∉ (toString number).toList := by
    intro c hc hmem
    simp [isDigit_of_mem_toString hmem] at hc
  have hchars : (reference label (pageAddress path number)).tag.toList
      = "a href=\"".toList ++ (path.toList ++ ("?page=".toList
        ++ ((toString number).toList ++ ['"']))) := by
    simp [reference, pageAddress]
  rw [Mark.IsClean, hchars]
  simp only [List.mem_append, not_or]
  exact ⟨⟨by decide, hless, by decide, hdigits '<' rfl, by decide⟩,
    by decide, hgreater, by decide, hdigits '>' rfl, by decide⟩

section Marks

variable {path : String} (hless : '<' ∉ path.toList) (hgreater : '>' ∉ path.toList)
include hless hgreater

/-- No tag of a pager ends before it is over. -/
theorem isClean_pagerMarks (number : UInt32) (totalPages : Nat) :
    ∀ m ∈ pagerMarks number totalPages path, m.IsClean := by
  have hreference := isClean_reference hless hgreater
  have hfixed : ∀ tag ∈ ["p class=\"pager\"", "/a", "/p"], ∀ text, Mark.IsClean ⟨tag, text⟩ := by
    intro tag htag text
    show '<' ∉ tag.toList ∧ '>' ∉ tag.toList
    revert tag
    decide
  simp only [pagerMarks, stripMarks]
  split <;> split <;> grind

/-- The marks of a pager are read off what is written. -/
theorem marks_pager (number : UInt32) (totalPages : Nat) :
    marks (Office.pager number totalPages path) = pagerMarks number totalPages path := by
  rw [pager_eq, marks_join (isClean_pagerMarks hless hgreater number totalPages)]

/-- A table with a pager below is read back as both of them. -/
theorem marks_table_pager (headers : List String) (rows : List (List String)) (number : UInt32)
    (totalPages : Nat) :
    marks (table headers rows ++ Office.pager number totalPages path)
      = tableMarks headers rows ++ pagerMarks number totalPages path := by
  rw [table_eq, pager_eq, ← String.join_append, ← List.map_append, marks_join]
  intro m hm
  rcases List.mem_append.mp hm with hm | hm
  · exact isClean_tableMarks headers rows m hm
  · exact isClean_pagerMarks hless hgreater number totalPages m hm

end Marks

/-- A reference is a mark of an anchor. -/
theorem reference_ne {m : Mark} (hm : m.tag.toList.head? ≠ some 'a') (label target : String) :
    reference label target ≠ m := by
  rintro rfl
  exact hm (by simp [reference])

/-- There are no references in a table. -/
theorem reference_not_mem_tableMarks (label target : String) (headers : List String)
    (rows : List (List String)) : reference label target ∉ tableMarks headers rows := by
  intro h
  have hnames : ∀ tag ∈ tableTagNames, tag.toList.head? ≠ some 'a' := by decide
  exact reference_ne (hnames _ (tag_of_mem_tableMarks h)) label target rfl

/-- A strip refers to the page before and to the page after exactly if they are given. -/
theorem reference_mem_stripMarks {label : String} {before after : Option String} (target : String) :
    (reference "Previous" target ∈ stripMarks label before after ↔ before = some target)
      ∧ (reference "Next" target ∈ stripMarks label before after ↔ after = some target) := by
  have hfixed : ∀ tag ∈ ["p class=\"pager\"", "/a", "/p"], ∀ name text,
      reference name target ≠ ⟨tag, text⟩ := fun tag htag name text =>
    reference_ne ((by decide : ∀ tag ∈ ["p class=\"pager\"", "/a", "/p"],
      tag.toList.head? ≠ some 'a') tag htag) name target
  have hreference : ∀ {name name' target'}, reference name target = reference name' target'
      ↔ name = name' ∧ target = target' :=
    ⟨reference_injective, fun h => h.1 ▸ h.2 ▸ rfl⟩
  cases before <;> cases after <;> simp [stripMarks, hfixed, hreference, eq_comm]

/-- The text of a pager is its label between the words for the pages beside it. -/
theorem plainText_of_marks {html label : String} {before after : Option String}
    (h : marks html = stripMarks label before after) :
    plainText html = (if before.isSome then "Previous " else "") ++ label
      ++ (if after.isSome then " Next" else "") := by
  rw [plainText, h]
  refine String.toList_injective ?_
  cases before <;> cases after <;> simp [stripMarks, reference]

end Html

/-! ## Pages with pagers -/

open Html (Leads plainText pagerLabel pageAddress)

/-- What stands below the rows of a page, and where the page leads. -/
structure PagerOf {ρ : Type} (path : String) (rows : List ρ) (p : PageRequest)
    (table pager : String) : Prop where
  /-- The page is counted from one, in 32 bits: the greatest number becomes 0. -/
  words : plainText pager = (if p.page = 0 then "" else "Previous ")
    ++ pagerLabel ((p.page.toNat + 1) % 2 ^ 32) (pageCount p.size.toNat rows.length)
    ++ (if p.page.toNat + 1 < pageCount p.size.toNat rows.length then " Next" else "")
  /-- There is a page before every page but the first one. -/
  previous : ∀ target, Leads (table ++ pager) "Previous" target
    ↔ p.page ≠ 0 ∧ target = pageAddress path (p.page.toNat - 1)
  /-- There is a next page if some page after this one has rows. -/
  next : ∀ target, Leads (table ++ pager) "Next" target
    ↔ (∃ i, p.page.toNat < i ∧ slice p.size.toNat rows i ≠ [])
      ∧ target = pageAddress path ((p.page.toNat + 1) % 2 ^ 32)

/-- The pager of a page refers to the pages beside it, and to no other. -/
theorem pagerOf_pager {ρ : Type} {path : String} (hless : '<' ∉ path.toList)
    (hgreater : '>' ∉ path.toList) (rows : List ρ) {p : PageRequest} (hsize : 0 < p.size)
    (headers : List String) (cells : List (List String)) :
    PagerOf path rows p (Html.table headers cells)
      (Office.pager p.page (pageCount p.size.toNat rows.length) path) := by
  have hfirst : 0 < p.page ↔ p.page ≠ 0 := by
    rw [UInt32.lt_iff_toNat_lt, ne_eq, ← UInt32.toNat_inj]
    exact Nat.pos_iff_ne_zero
  have hbefore : p.page ≠ 0 → (p.page - 1).toNat = p.page.toNat - 1 := by
    intro hpage
    have hone : (1 : UInt32).toNat ≤ p.page.toNat := UInt32.lt_iff_toNat_lt.mp (hfirst.mpr hpage)
    exact UInt32.toNat_sub_of_le _ _ (UInt32.le_iff_toNat_le.mpr hone)
  have hafter : (p.page + 1).toNat = (p.page.toNat + 1) % 2 ^ 32 := UInt32.toNat_add _ _
  have hmarks := Html.marks_table_pager hless hgreater headers cells p.page
    (pageCount p.size.toNat rows.length)
  have hleads : ∀ label target, Leads (Html.table headers cells
      ++ Office.pager p.page (pageCount p.size.toNat rows.length) path) label target
      ↔ Html.reference label target
        ∈ Html.pagerMarks p.page (pageCount p.size.toNat rows.length) path := by
    intro label target
    rw [Leads, hmarks, List.mem_append,
      or_iff_right (Html.reference_not_mem_tableMarks label target headers cells)]
  refine ⟨?_, fun target => ?_, fun target => ?_⟩
  · rw [Html.plainText_of_marks (Html.marks_pager hless hgreater _ _), hafter]
    by_cases hpage : p.page = 0 <;>
      by_cases hmore : p.page.toNat + 1 < pageCount p.size.toNat rows.length <;>
      simp [hfirst, hpage, hmore]
  · rw [hleads, Html.pagerMarks, (Html.reference_mem_stripMarks target).1]
    by_cases hpage : p.page = 0
    · simp [hpage]
    · rw [if_pos (hfirst.mpr hpage), hbefore hpage, Option.some_inj]
      exact ⟨fun h => ⟨hpage, h.symm⟩, fun h => h.2.symm⟩
  · rw [hleads, Html.pagerMarks, (Html.reference_mem_stripMarks target).2,
      exists_later_slice (UInt32.lt_iff_toNat_lt.mp hsize), hafter]
    split
    case isTrue hmore =>
      rw [Option.some_inj]
      exact ⟨fun h => ⟨hmore, h.symm⟩, fun h => h.2.symm⟩
    case isFalse hlast => simp [hlast]

end RobotMaze.Web

namespace RobotMaze

/-! ## Requests -/

/-- A page request within its limits. -/
structure PageRequest.Within (p : PageRequest) (most : UInt32) : Prop where
  size_pos : 0 < p.size
  size_le : p.size ≤ max most 1
  /-- The number of rows before the page fits 64 bits. -/
  offset_lt : p.offset < 2 ^ 64
  /-- It fits 63 bits where a page cannot have more than 2³¹ rows. -/
  offset_lt_of_most : most ≤ 0x80000000 → p.offset < 0x8000000000000000

/-- A capped request asks for a page within the bound. -/
theorem PageRequest.within_capped (p : PageRequest) (most : UInt32) :
    (p.capped most).Within most := by
  have hsize : (p.capped most).size.toNat = max 1 (min p.size.toNat (max most.toNat 1)) := by
    simp only [capped, UInt32.toNat_max, UInt32.toNat_min]
    rfl
  have hsmall : (p.capped most).size.toNat < 2 ^ 32 := UInt32.toNat_lt _
  have hpage : p.page.toNat < 2 ^ 32 := UInt32.toNat_lt _
  refine ⟨?_, ?_, ?_, fun hmost => ?_⟩
  · rw [UInt32.lt_iff_toNat_lt, hsize]
    exact Nat.lt_of_lt_of_le Nat.one_pos (Nat.le_max_left _ _)
  · rw [UInt32.le_iff_toNat_le, hsize, UInt32.toNat_max]
    show _ ≤ max most.toNat 1
    omega
  · exact Nat.lt_of_lt_of_le (Nat.mul_lt_mul'' hpage hsmall) (by decide)
  · have hle : (p.capped most).size.toNat ≤ 0x80000000 := by
      have hmost' : most.toNat ≤ 0x80000000 := UInt32.le_iff_toNat_le.mp hmost
      omega
    calc p.page.toNat * (p.capped most).size.toNat
      _ ≤ (2 ^ 32 - 1) * 0x80000000 := Nat.mul_le_mul (Nat.le_pred_of_lt hpage) hle
      _ < 0x8000000000000000 := by decide

namespace Web

open Html (Leads plainText)

/-- The page that a query asks for. -/
theorem ListingQuery.page_pageRequest (q : ListingQuery) (standard most : UInt32) :
    (q.pageRequest standard most).page = q.page.getD 0 := by
  simp only [pageRequest]
  split <;> rfl

/-- Whatever a listing is asked for, its page is within the bound. -/
theorem ListingQuery.within_pageRequest (q : ListingQuery) (standard most : UInt32) :
    (q.pageRequest standard most).Within most := by
  have hcapped := PageRequest.within_capped
    (PageRequest.new (q.page.getD 0) (q.size.getD standard)) most
  simp only [pageRequest]
  split
  · exact ⟨hcapped.1, hcapped.2, hcapped.3, hcapped.4⟩
  · exact hcapped

/-! ## Listings -/

section Listings

variable {ρ α β : Type} {read : ρ → Read α} {rows : List ρ} {p : PageRequest} {s : Store}

/-- How a request for a page of a listing of rows ends. -/
structure Lists (read : ρ → Read α) (rows : List ρ) (p : PageRequest)
    (outcome : Except Refusal β) : Prop where
  /-- The store refuses a number of rows before the page that does not fit 63 bits. -/
  refused : 0x8000000000000000 ≤ p.offset → outcome = .error .internal
  /-- Every other page is answered, if its rows can be read. -/
  answered : p.offset < 0x8000000000000000 → ((∃ b, outcome = .ok b)
    ↔ ∀ r ∈ slice p.size.toNat rows p.page.toNat, ∃ a, read r = .ok a)

/-- How a request for a page of the back office with a listing ends. -/
structure Shows (path : String) (read : ρ → Read α) (rows : List ρ) (p : PageRequest)
    (outcome : Except Refusal Response) : Prop extends Lists read rows p outcome where
  /-- What is answered is a page with a table and a pager. -/
  shown : ∀ response, outcome = .ok response → ∃ title who headers cells pager,
    response = .page (Html.page title who (Html.table headers cells ++ pager))
      ∧ PagerOf path rows p (Html.table headers cells) pager

/-- The answer to the request for a page is cut from the listing and read. -/
def CutFrom (read : ρ → Read α) (rows : List ρ) (p : PageRequest)
    (answer : Except Failure (Page α)) : Prop :=
  answer = do
    let found ← pageOf p rows
    let content ← found.mapM read
    return Page.new content p rows.length

/-- A page that is cut out is the slice of the rows, with the number of all of them. -/
theorem CutFrom.eq_of_ok {page : Page α} (h : CutFrom read rows p (.ok page)) :
    p.offset < 0x8000000000000000
      ∧ (slice p.size.toNat rows p.page.toNat).mapM read = .ok page.content
      ∧ page = Page.new page.content p rows.length := by
  obtain ⟨found, hfound, h⟩ := ok_of_bind h.symm
  obtain ⟨content, hcontent, h⟩ := ok_of_bind h
  obtain rfl := Except.ok.inj h
  simp only [pageOf] at hfound
  split at hfound
  case isTrue hoffset =>
    rw [← Except.ok.inj hfound] at hcontent
    exact ⟨hoffset, hcontent, rfl⟩
  case isFalse => cases hfound

/-- A handler that puts a page into its answer lists the slice, or passes the failure on. -/
theorem lists_of_cutFrom {op : Op (Page α)} (hop : CutFrom read rows p (op.answer s))
    {f : Page α → Handling β} (hf : ∀ page t, ∃ b, ((f page).run t).1 = .ok b) :
    Lists read rows p ((perform op >>= f).run s).1 := by
  rw [run_bind, run_perform]
  refine ⟨fun hoffset => ?_, fun hoffset => ?_⟩
  · have hrefused : pageOf p rows = .error .refused := if_neg (Nat.not_lt.mpr hoffset)
    have hanswer : op.answer s = .error .refused := by
      rw [hop, hrefused]
      rfl
    rw [hanswer]
    rfl
  · have hfound : pageOf p rows = .ok (slice p.size.toNat rows p.page.toNat) := if_pos hoffset
    rw [← exists_mapM_iff]
    constructor
    · rintro ⟨b, hb⟩
      cases hanswer : op.answer s with
      | ok page =>
          rw [hanswer] at hop
          exact ⟨page.content, hop.eq_of_ok.2.1⟩
      | error e =>
          rw [hanswer] at hb
          cases hb
    · rintro ⟨content, hcontent⟩
      have hanswer : op.answer s = .ok (Page.new content p rows.length) := by
        rw [hop, hfound]
        show ((slice p.size.toNat rows p.page.toNat).mapM read >>= _) = _
        rw [hcontent]
        rfl
      rw [hanswer]
      exact hf _ _

namespace Office

variable {c : Context} {r : Request} {who : Principal}

/-- A page that is shown is shown, whatever becomes of the entry about it. -/
theorem run_showPage (title name body : String) :
    ((showPage c r who title name body).run s).1
      = .ok (.page (Html.page title (some who) body)) := by
  have hnote := (AuditLog.note_ends
    (((actor r who).event ("Viewed " ++ name) .read "PAGE").onResourceId name) c.now s).1
  simp only [showPage]
  rw [run_bind, run_perform, hnote]
  rfl

/-- A handler that writes a page as a table with a pager shows the slice. -/
theorem shows_of_cutFrom {op : Op (Page α)} (hop : CutFrom read rows p (op.answer s))
    (hsize : 0 < p.size) {path : String} (hless : '<' ∉ path.toList) (hgreater : '>' ∉ path.toList)
    (title name : String) (headers : List String) (cells : α → List String) :
    Shows path read rows p ((do
      let page ← perform op
      let body := Html.table headers (page.content.map cells)
        ++ pager page.number page.totalPages path
      showPage c r who title name body : Handling Response).run s).1 where
  toLists := lists_of_cutFrom hop fun page t => ⟨_, run_showPage title name _⟩
  shown := by
    intro response hresponse
    rw [run_bind, run_perform] at hresponse
    cases hanswer : op.answer s with
    | error e =>
        rw [hanswer] at hresponse
        cases hresponse
    | ok page =>
        rw [hanswer] at hresponse hop
        obtain ⟨-, -, hpage⟩ := hop.eq_of_ok
        have hnumber : page.number = p.page := by rw [hpage]; rfl
        have htotal : page.totalPages = pageCount p.size.toNat rows.length := by
          have hmax : max p.size.toNat 1 = p.size.toNat :=
            Nat.max_eq_left (UInt32.lt_iff_toNat_lt.mp hsize)
          rw [hpage]
          simp only [Page.new, pageCount, hmax]
        refine ⟨title, some who, headers, page.content.map cells, _,
          Except.ok.inj (hresponse.symm.trans (run_showPage title name _)), ?_⟩
        rw [hnumber, htotal]
        exact pagerOf_pager hless hgreater rows hsize headers _

end Office

end Listings

namespace Office

variable {c : Context} {r : Request} {who : Principal} {s : Store} {q : ListingQuery}

/-- The page of tracks, accounts or games that a query asks for. -/
def pageAsked (c : Context) (q : ListingQuery) : PageRequest :=
  q.pageRequest c.settings.general.pageSize c.settings.general.maxPageSize

/-- The page of the audit log that a query asks for. -/
def auditPageAsked (c : Context) (q : ListingQuery) : PageRequest :=
  q.pageRequest c.settings.general.auditPageSize c.settings.general.maxPageSize

/-- A listing that is asked for properly goes on with its page. -/
theorem run_listing_bind {β : Type} (hq : r.listing = .ok q) (f : PageRequest → Handling β) :
    (listing c r >>= f).run s = (f (pageAsked c q)).run s := by
  have hrun : (listing c r).run s = (.ok (pageAsked c q), s) := by
    simp only [listing]
    rw [run_require_bind hq]
    rfl
  rw [run_bind, hrun]

/-- A listing of the audit log that is asked for properly goes on with its page. -/
theorem run_auditListing_bind {β : Type} (hq : r.listing = .ok q) (f : PageRequest → Handling β) :
    (auditListing c r >>= f).run s = (f (auditPageAsked c q)).run s := by
  have hrun : (auditListing c r).run s = (.ok (auditPageAsked c q), s) := by
    simp only [auditListing]
    rw [run_require_bind hq]
    rfl
  rw [run_bind, hrun]

/-- The tracks in the order in which a page of them is asked for. -/
def tracksInOrder (s : Store) (p : PageRequest) : List TrackRow :=
  sortedBy (Database.trackSortKey p.sortBy) p.order s.database.tracks.rows

/-- The accounts that a filter lets through, in the order in which a page of them is asked for. -/
def usersInOrder (s : Store) (f : Database.UserFilter) (p : PageRequest) : List UserRow :=
  sortedBy (Database.userSortKey p.sortBy) p.order (s.database.usersAccepted f)

/-- The audit entries that a filter lets through, newest first. -/
def auditNewestFirst (s : Store) (f : Database.AuditFilter) : List AuditRow :=
  newestFirst AuditRow.timestamp (s.database.auditAccepted f)

/-- A page of tracks is cut from the tracks in their order. -/
theorem cutFrom_tracks (p : PageRequest) :
    CutFrom TrackRow.read (tracksInOrder s p) p ((Tracks.page p).answer s) := by
  have hlength : (tracksInOrder s p).length = s.database.tracks.rows.length :=
    (perm_sortedBy _ _ _).length_eq
  rw [CutFrom, hlength]
  exact answer_page (fun _ => rfl) _ _ _

/-- A page of users is cut from those that the filter accepts. -/
theorem cutFrom_users (f : Database.UserFilter) (p : PageRequest) :
    CutFrom UserRow.read (usersInOrder s f p) p ((Users.page f p).answer s) := by
  have hlength : (usersInOrder s f p).length = (s.database.usersAccepted f).length :=
    (perm_sortedBy _ _ _).length_eq
  rw [CutFrom, hlength]
  exact answer_page (fun _ => rfl) _ _ _

/-- A page of the audit log is cut from its entries, the newest first. -/
theorem cutFrom_audit (f : Database.AuditFilter) (p : PageRequest) :
    CutFrom AuditRow.read (auditNewestFirst s f) p ((AuditLog.page f p).answer s) := by
  have hlength : (auditNewestFirst s f).length = (s.database.auditAccepted f).length :=
    (perm_newestFirst _ _).length_eq
  rw [CutFrom, hlength]
  exact answer_page (fun _ => rfl) _ _ _

/-! ### Web pages -/

/-- The page of tracks shows a slice of the tracks. -/
theorem shows_tracksPage (hq : r.listing = .ok q) :
    Shows "/admin/tracks" TrackRow.read (tracksInOrder s (pageAsked c q)) (pageAsked c q)
      ((tracksPage c r who).run s).1 := by
  simp only [tracksPage]
  rw [run_listing_bind hq]
  have hsize : 0 < (pageAsked c q).size := (q.within_pageRequest _ _).size_pos
  refine shows_of_cutFrom (cutFrom_tracks _) hsize ?_ ?_ _ _ _ _ <;> decide

/-- The page of accounts is sorted by username, whatever the query asks for. -/
theorem shows_usersPage (hq : r.listing = .ok q) :
    let p := (pageAsked c q).sorted "username" .ascending
    Shows "/admin/users" UserRow.read (usersInOrder s {} p) p ((usersPage c r who).run s).1 := by
  intro p
  have hsize : 0 < p.size := (q.within_pageRequest _ _).size_pos
  simp only [usersPage]
  rw [run_listing_bind hq]
  refine shows_of_cutFrom (cutFrom_users {} p) hsize ?_ ?_ _ _ _ _ <;> decide

/-- The page of the audit log shows a slice of its entries. -/
theorem shows_auditPage (hq : r.listing = .ok q) :
    Shows "/admin/audit" AuditRow.read (auditNewestFirst s {}) (auditPageAsked c q)
      ((auditPage c r who).run s).1 := by
  simp only [auditPage]
  rw [run_auditListing_bind hq]
  have hsize : 0 < (auditPageAsked c q).size := (q.within_pageRequest _ _).size_pos
  refine shows_of_cutFrom (cutFrom_audit _ _) hsize ?_ ?_ _ _ _ _ <;> decide

/-! ### Values -/

/-- An answer made of a page lists it. -/
theorem lists_answer {ρ α : Type} {read : ρ → Read α} {rows : List ρ} {p : PageRequest}
    {op : Op (Page α)} (hop : CutFrom read rows p (op.answer s)) (encode : Page α → Json) :
    Lists read rows p ((answer encode op).run s).1 :=
  lists_of_cutFrom hop fun _ _ => ⟨_, rfl⟩

/-- The listing of tracks holds a slice of them. -/
theorem lists_listTracks (hq : r.listing = .ok q) :
    Lists TrackRow.read (tracksInOrder s (pageAsked c q)) (pageAsked c q)
      ((listTracks c r who).run s).1 := by
  simp only [listTracks]
  rw [run_listing_bind hq]
  exact lists_answer (cutFrom_tracks _) _

/-- The listing of users holds a slice of those that the search accepts. -/
theorem lists_listUsers (hq : r.listing = .ok q) {search : Option String} {role : Option Role}
    (hsearch : r.queried some "search" = .ok search)
    (hrole : r.queried Named.ofName? "role" = .ok role) :
    Lists UserRow.read (usersInOrder s ⟨search, role⟩ (pageAsked c q)) (pageAsked c q)
      ((listUsers c r who).run s).1 := by
  simp only [listUsers]
  rw [run_listing_bind hq, run_require_bind hsearch, run_require_bind hrole]
  exact lists_answer (cutFrom_users _ _) _

/-- The listing of the audit log holds a slice of it. -/
theorem lists_listAudit (hq : r.listing = .ok q) :
    Lists AuditRow.read (auditNewestFirst s {}) (auditPageAsked c q)
      ((listAudit c r who).run s).1 := by
  simp only [listAudit]
  rw [run_auditListing_bind hq]
  exact lists_answer (cutFrom_audit _ _) _

/-- A search in the audit log holds a slice of what its filter accepts. -/
theorem lists_searchAudit (hq : r.listing = .ok q) {search : AuditSearch}
    {f : Database.AuditFilter} (hsearch : auditSearch r = .ok search)
    (hfilter : search.filter = .ok f) :
    Lists AuditRow.read (auditNewestFirst s f) (auditPageAsked c q)
      ((searchAudit c r who).run s).1 := by
  simp only [searchAudit]
  rw [run_auditListing_bind hq, run_require_bind hsearch, run_require_bind hfilter]
  exact lists_answer (cutFrom_audit _ _) _

/-- For whatever page and size, whatever the settings are and whatever the store holds: the number
    of rows before the page fits 64 bits, and where it does not fit 63 the store refuses it; every
    other page is answered if its rows can be read, and what is shown of it has a pager with a
    reference to the page before for every page but the first, one to the page after if a later page
    has rows, and the number of the page from one on, but for the greatest number of 32 bits, which
    becomes 0. -/
theorem listings_shown (hq : r.listing = .ok q) :
    let most := c.settings.general.maxPageSize
    let p := pageAsked c q
    let byName := p.sorted "username" .ascending
    let audit := auditPageAsked c q
    ((p.page = q.page.getD 0 ∧ p.Within most) ∧ audit.page = q.page.getD 0 ∧ audit.Within most)
    ∧ Shows "/admin/tracks" TrackRow.read (tracksInOrder s p) p ((tracksPage c r who).run s).1
    ∧ Shows "/admin/users" UserRow.read (usersInOrder s {} byName) byName
        ((usersPage c r who).run s).1
    ∧ Shows "/admin/audit" AuditRow.read (auditNewestFirst s {}) audit ((auditPage c r who).run s).1
    ∧ Lists TrackRow.read (tracksInOrder s p) p ((listTracks c r who).run s).1
    ∧ (∀ search role, r.queried some "search" = .ok search →
        r.queried Named.ofName? "role" = .ok role →
        Lists UserRow.read (usersInOrder s ⟨search, role⟩ p) p ((listUsers c r who).run s).1)
    ∧ Lists AuditRow.read (auditNewestFirst s {}) audit ((listAudit c r who).run s).1
    ∧ ∀ search f, auditSearch r = .ok search → search.filter = .ok f →
        Lists AuditRow.read (auditNewestFirst s f) audit ((searchAudit c r who).run s).1 :=
  ⟨⟨⟨q.page_pageRequest _ _, q.within_pageRequest _ _⟩, q.page_pageRequest _ _,
      q.within_pageRequest _ _⟩,
    shows_tracksPage hq, shows_usersPage hq, shows_auditPage hq, lists_listTracks hq,
    fun _ _ hsearch hrole => lists_listUsers hq hsearch hrole, lists_listAudit hq,
    fun _ _ hsearch hfilter => lists_searchAudit hq hsearch hfilter⟩

/-- Someone who keeps the game. -/
def keeper : Principal := ⟨1, "ada", "Ada", .admin, ⟨1772398800, 0⟩⟩

/-- A request for a page of a listing. -/
def asking (query : String) : Request := { method := .get, path := "", query }

/-- The second of three accounts that have been created, on a page of its own. -/
theorem listings_shown_second :
    let c := siteWith "GFD_SESSION"
    let r := asking "page=1&size=1"
    r.listing = .ok ⟨some 1, some 1, none, none⟩
      ∧ ∃ title someone table pager,
        ((usersPage c r keeper).run ((Store.empty .disabled).after threeReaders)).1
          = .ok (.page (Html.page title someone (table ++ pager)))
        ∧ plainText pager = "Previous Page 2 of 3 Next"
        ∧ Leads (table ++ pager) "Previous" "/admin/users?page=0"
        ∧ Leads (table ++ pager) "Next" "/admin/users?page=2" := by
  intro c r
  have hq : r.listing = .ok ⟨some 1, some 1, none, none⟩ := by decide +kernel
  obtain ⟨-, -, hshows, -⟩ :=
    @listings_shown c r keeper ((Store.empty .disabled).after threeReaders) _ hq
  have hasked : (pageAsked c ⟨some 1, some 1, none, none⟩).sorted "username" .ascending
      = ⟨1, 1, "username", .ascending⟩ := by decide
  rw [hasked] at hshows
  have hperm : (usersInOrder ((Store.empty .disabled).after threeReaders) {}
      ⟨1, 1, "username", .ascending⟩).Perm
        (((Store.empty .disabled).after threeReaders).database.usersAccepted {}) :=
    perm_sortedBy _ _ _
  have hlength := hperm.length_eq.trans (by decide +kernel : _ = 3)
  have hreadable : ∀ r ∈ slice 1 (usersInOrder ((Store.empty .disabled).after threeReaders) {}
      ⟨1, 1, "username", .ascending⟩) 1, ∃ u, r.read = .ok u := by
    have hall : ∀ r ∈ ((Store.empty .disabled).after threeReaders).database.users.rows,
        r.read.toBool = true := by
      decide +kernel
    intro r hr
    have hmem := hperm.mem_iff.mp (List.mem_of_mem_drop (List.mem_of_mem_take hr))
    cases hread : r.read with
    | ok u => exact ⟨u, rfl⟩
    | error e =>
        have := hall r (List.mem_of_mem_filter hmem)
        rw [hread] at this
        cases this
  obtain ⟨response, hresponse⟩ := (hshows.answered (by decide)).mpr hreadable
  obtain ⟨title, someone, headers, cells, pager, rfl, hpager⟩ := hshows.shown response hresponse
  refine ⟨hq, title, someone, _, pager, hresponse, ?_, ?_, ?_⟩
  · rw [hpager.words, hlength]
    decide +kernel
  · exact (hpager.previous _).mpr ⟨by decide, by decide +kernel⟩
  · refine (hpager.next _).mpr ⟨(exists_later_slice (by decide)).mpr ?_, by decide +kernel⟩
    rw [hlength]
    decide

/-- On the page of the greatest number the pager says that it is page 0.  And the settings allow
    pages of so many rows that the last one of them is not answered at all. -/
theorem listing_limits :
    let s := Store.empty .disabled
    let c := siteWith "GFD_SESSION"
    let wide : Settings := { general := { maxPageSize := 4294967295 } }
    let query : ListingQuery := ⟨some 4294967295, some 4294967295, none, none⟩
    (∃ title someone table pager, ((tracksPage c (asking "page=4294967295") keeper).run s).1
        = .ok (.page (Html.page title someone (table ++ pager)))
      ∧ plainText pager = "Previous Page 0 of 1")
    ∧ wide.check = .ok wide
    ∧ (asking "page=4294967295&size=4294967295").listing = .ok query
    ∧ (pageAsked { c with settings := wide } query).offset = 18446744065119617025
    ∧ ((tracksPage { c with settings := wide } (asking "page=4294967295&size=4294967295")
        keeper).run s).1 = .error .internal := by
  intro s c wide query
  have hfar : (asking "page=4294967295&size=4294967295").listing = .ok query := by decide +kernel
  have hoffset : (pageAsked { c with settings := wide } query).offset = 18446744065119617025 := by
    decide +kernel
  refine ⟨?_, by decide +kernel, hfar, hoffset, ?_⟩
  · have hlast : (asking "page=4294967295").listing = .ok ⟨some 4294967295, none, none, none⟩ := by
      decide +kernel
    have hshows := @shows_tracksPage c _ keeper s _ hlast
    have hasked : pageAsked c ⟨some 4294967295, none, none, none⟩
        = ⟨4294967295, 10, "id", .ascending⟩ := by decide +kernel
    have hnone : tracksInOrder s ⟨4294967295, 10, "id", .ascending⟩ = [] :=
      List.perm_nil.mp (perm_sortedBy _ _ [])
    rw [hasked, hnone] at hshows
    obtain ⟨response, hresponse⟩ := (hshows.answered (by decide +kernel)).mpr (by simp [slice])
    obtain ⟨title, someone, headers, cells, pager, rfl, hpager⟩ := hshows.shown response hresponse
    refine ⟨title, someone, _, pager, hresponse, ?_⟩
    rw [hpager.words]
    decide +kernel
  · exact (shows_tracksPage hfar).refused (by rw [hoffset]; decide)

end Office

end Web

end RobotMaze
