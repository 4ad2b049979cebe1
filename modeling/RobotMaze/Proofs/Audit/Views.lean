import RobotMaze.Proofs.Audit.Mirror
import RobotMaze.Proofs.Service.Bounds
import RobotMaze.Proofs.Service.Daily
import RobotMaze.Web.Office.Audit

/-! # Views of the log

    The entries of a span of time are listed, counted, and grouped by day, by user
    and by resource.  All views ask for the same entries, and no grouping loses one:

    * `auditBetween_eq` — the entries of a span are those whose times are read as
      instants of the span;
    * `AuditLog.Logged.exists_read` — each of them can be read;
    * `pairwise_mergeSort_stable` — sorting leaves what is equal in its order;
    * `AuditLog.UsersTell` — what the figures of the users say of the entries;
    * `AuditLog.views_agree` — after every schedule the views say the same.

    A search may be bounded by one bare date on both sides.  Then it is a search for
    the entries of that day, in whatever spelling the date is given:

    * `dateBoundOpt_of_namesDay` — the two bounds are the ends of the day;
    * `auditBetween_ends` — between which are the entries of the day;
    * `count_storedDay` — of a longer span, the day has the same ones;
    * `AuditLog.search_of_day` — so the pages of the search show them all, and their
      number is the one that the figures by day have. -/

namespace RobotMaze

open Time (Instant Date)
open Database (AuditFilter)

/-! ## Sorting and telling apart -/

/-- What a sorted list does not put into an order stays in the one that it had. -/
theorem pairwise_mergeSort_stable {α : Type} {le : α → α → Bool} {R : α → α → Prop}
    (htrans : ∀ a b c, le a b = true → le b c = true → le a c = true)
    (htotal : ∀ a b, (le a b || le b a) = true) {items : List α} (h : items.Pairwise R) :
    (items.mergeSort le).Pairwise fun a b => le a b = true ∧ (le b a = true → R a b) := by
  let places := items.zipIdx.mergeSort (List.zipIdxLE le)
  have hsorted : places.Pairwise fun p q => List.zipIdxLE le p q = true :=
    List.pairwise_mergeSort (List.zipIdxLE_trans htrans) (List.zipIdxLE_total htotal) items.zipIdx
  have hperm : places.Perm items.zipIdx := List.mergeSort_perm _ _
  have hapart : places.Pairwise fun p q => p.2 ≠ q.2 := by
    refine List.pairwise_map.mp ((hperm.map Prod.snd).nodup_iff.mpr ?_)
    rw [List.zipIdx_map_snd]
    exact List.nodup_range'
  rw [← List.mergeSort_zipIdx, List.pairwise_map]
  refine (hsorted.and hapart).imp_of_mem fun {p q} hp hq hpq => ?_
  obtain ⟨hle, hne⟩ := hpq
  simp only [List.zipIdxLE] at hle
  split at hle
  · rename_i hpq
    refine ⟨hpq, fun hqp => ?_⟩
    -- neither goes before the other, so their places decide
    rw [if_pos hqp, decide_eq_true_eq] at hle
    obtain ⟨hi, hp⟩ := List.getElem?_eq_some_iff.mp
      (List.mem_zipIdx_iff_getElem?.mp (hperm.mem_iff.mp hp))
    obtain ⟨hj, hq⟩ := List.getElem?_eq_some_iff.mp
      (List.mem_zipIdx_iff_getElem?.mp (hperm.mem_iff.mp hq))
    have hR := List.pairwise_iff_getElem.mp h p.2 q.2 hi hj (Nat.lt_of_le_of_ne hle hne)
    rwa [hp, hq] at hR
  · cases hle

theorem nodup_eraseDups {α : Type} [BEq α] [LawfulBEq α] (items : List α) :
    items.eraseDups.Nodup := by
  induction hlength : items.length using Nat.strongRecOn generalizing items with
  | ind n ih =>
      cases items with
      | nil => exact List.nodup_nil
      | cons a rest =>
          have hshorter : (rest.filter fun b => !b == a).length < n := by
            rw [← hlength]
            exact Nat.lt_succ_of_le (List.length_filter_le _ _)
          rw [List.eraseDups_cons, List.nodup_cons]
          refine ⟨fun ha => ?_, ih _ hshorter _ rfl⟩
          have hother := (List.mem_filter.mp (List.mem_eraseDups.mp ha)).2
          rw [beq_self_eq_true] at hother
          cases hother

/-! ## The entries of a span -/

section Span

variable {s : Store} {since upTo : Instant}

/-- The entries between two times are those that a filter with these bounds accepts. -/
theorem auditBetween_eq_accepted (db : Database) (since upTo : Instant) :
    db.auditBetween since upTo
      = db.auditAccepted { since := some since, upTo := some upTo } := by
  refine List.filter_congr fun r _ => ?_
  simp only [AuditFilter.accepts, allows, Bool.true_and]

/-- The entries of a span are those whose times are read as instants of the span. -/
theorem auditBetween_eq (h : AuditLog.Dated Instant.HasFourDigitYear s)
    (hsince : since.date.year ≤ 9999) (hupTo : upTo.date.year ≤ 9999) :
    s.database.auditBetween since upTo
      = s.auditWhen (Time.within (some since.stamped) (some upTo.stamped)) := by
  refine List.filter_congr fun r hr => ?_
  have hbounds : ∀ {t : Instant}, t.date.year ≤ 9999 → ∀ u ∈ some t, u.date.year ≤ 9999 :=
    fun ht u hu => Option.some.inj hu ▸ ht
  have htext := (h r hr).allows_stamped (hbounds hsince) (hbounds hupTo)
  simp only [allows, Option.map_some] at htext
  exact htext

/-- Every entry of an event is read. -/
theorem AuditLog.Logged.exists_read (h : Logged Instant.HasFourDigitYear s) {r : AuditRow}
    (hr : r ∈ s.database.audit.rows) : ∃ entry, r.read = .ok entry := by
  obtain ⟨id, t, e, ht, rfl⟩ := h r hr
  exact ⟨_, AuditRow.read_ofEvent ht id e⟩

/-- What a filter accepts can be listed. -/
theorem AuditLog.Logged.exists_list (h : Logged Instant.HasFourDigitYear s) (f : AuditFilter) :
    ∃ entries, (list f).answer s = .ok entries
      ∧ List.Forall₂ (fun r entry => r.read = .ok entry)
        (newestFirst AuditRow.timestamp (s.database.auditAccepted f)) entries := by
  have hread : ∀ r ∈ newestFirst AuditRow.timestamp (s.database.auditAccepted f),
      ∃ entry, r.read = .ok entry := fun r hr =>
    h.exists_read (List.mem_of_mem_filter ((perm_newestFirst _ _).mem_iff.mp hr))
  obtain ⟨entries, hentries⟩ := exists_mapM_iff.mpr hread
  exact ⟨entries, (list_answer f s).trans hentries, mapM_ok_iff.mp hentries⟩

end Span

/-! ## Users -/

theorem UserActions.total_new (username : String) (counts : List (String × Nat)) :
    (new username counts).total = (counts.map Prod.snd).sum := by
  rw [new, List.sum_eq_foldl, List.foldl_map]

namespace AuditLog

/-- The figures of the user of a group of entries. -/
def userFigures (g : String × List AuditRow) : UserActions :=
  .new g.1 (Database.tally (g.2.map AuditRow.kind))

/-- The total of a user is the number of that user's entries. -/
theorem total_userFigures (g : String × List AuditRow) : (userFigures g).total = g.2.length := by
  rw [userFigures, UserActions.total_new, Reports.sum_tally, List.length_map]

/-- The entries of each user, those of the busiest one first. -/
theorem auditByUser_eq (since upTo : Instant) (db : Database) : db.auditByUser since upTo
    = ((Reports.groups AuditRow.username (db.auditBetween since upTo)).map userFigures).mergeSort
        fun a b => b.total ≤ a.total := by
  simp only [Database.auditByUser, Reports.groups, List.map_map]
  rfl

/-- What the figures of the users say of some entries.  They add up to the number of entries, and
    those of one user to the number of entries of that user, of each kind and altogether.  Each user
    with entries is there once, the busiest first, and of the equally busy ones the first by name. -/
structure UsersTell (users : List UserActions) (rows : List AuditRow) : Prop where
  sum : (users.map UserActions.total).sum = rows.length
  counts : ∀ u ∈ users, u.total = (u.counts.map Prod.snd).sum
  total : ∀ u ∈ users, u.total = rows.countP fun r => r.username == u.username
  kinds : ∀ u ∈ users, ∀ kind, (u.counts.lookup kind).getD 0
    = rows.countP fun r => r.username == u.username && r.kind == kind
  complete : ∀ r ∈ rows, r.username ∈ users.map UserActions.username
  nodup : (users.map UserActions.username).Nodup
  sorted : users.Pairwise fun a b =>
    b.total < a.total ∨ (a.total = b.total ∧ a.username < b.username)

/-- The figures by user tell the entries between the two times. -/
theorem usersTell (since upTo : Instant) (db : Database) :
    UsersTell (db.auditByUser since upTo) (db.auditBetween since upTo) := by
  rw [auditByUser_eq]
  generalize db.auditBetween since upTo = rows
  have hlines := List.mergeSort_perm
    ((Reports.groups AuditRow.username rows).map userFigures) fun a b => b.total ≤ a.total
  -- the figures of a user are those of the group of all entries of that user
  have hgroup : ∀ u ∈ ((Reports.groups AuditRow.username rows).map userFigures).mergeSort
      (fun a b => b.total ≤ a.total),
      u = userFigures (u.username, rows.filter fun r => r.username == u.username) := by
    intro u hu
    obtain ⟨g, hg, rfl⟩ := List.mem_map.mp (hlines.mem_iff.mp hu)
    exact congrArg userFigures (Prod.ext rfl (Reports.mem_groups.mp hg).2)
  exact {
    sum := Reports.sum_totals hlines (Reports.perm_groups _ _) total_userFigures
    counts := Reports.forall_lines hlines fun g => UserActions.total_new _ _
    total := by
      intro u hu
      rw [List.countP_eq_length_filter]
      exact (congrArg UserActions.total (hgroup u hu)).trans (total_userFigures _)
    kinds := by
      intro u hu kind
      have hcounts := congrArg UserActions.counts (hgroup u hu)
      rw [hcounts]
      show ((Database.tally _).lookup kind).getD 0 = _
      rw [Reports.lookup_tally, List.count, List.countP_map, List.countP_filter]
      exact List.countP_congr fun r _ => by
        rw [Bool.and_comm]
        rfl
    complete := by
      intro r hr
      obtain ⟨g, hg, hkey⟩ := Reports.exists_group AuditRow.username hr
      rw [← hkey]
      exact List.mem_map.mpr ⟨_, hlines.mem_iff.mpr (List.mem_map_of_mem hg), rfl⟩
    nodup := Reports.nodup_lines hlines id (fun _ => rfl) (Reports.nodup_groups _ _)
    sorted := by
      have hkeys : ((Reports.groups AuditRow.username rows).map Prod.fst).Pairwise (· < ·) := by
        rw [Reports.keys_groups]
        exact Keyed.pairwise_ofList
      have hnames : ((Reports.groups AuditRow.username rows).map userFigures).Pairwise
          fun a b => a.username < b.username :=
        List.pairwise_map.mpr (List.pairwise_map.mp hkeys)
      refine (pairwise_mergeSort_stable ?_ ?_ hnames).imp fun {a b} hab => ?_
      · intro a b c hab hbc
        rw [decide_eq_true_eq] at hab hbc ⊢
        exact Nat.le_trans hbc hab
      · intro a b
        rw [Bool.or_eq_true, decide_eq_true_eq, decide_eq_true_eq]
        exact Nat.le_total _ _
      · obtain ⟨hle, hname⟩ := hab
        rw [decide_eq_true_eq] at hle hname
        rcases Nat.lt_or_eq_of_le hle with hlt | heq
        · exact Or.inl hlt
        · exact Or.inr ⟨heq.symm, hname (Nat.le_of_eq heq.symm)⟩ }

/-! ## Resources -/

/-- The entries of modifications. -/
def modified (rows : List AuditRow) : List AuditRow :=
  rows.filter fun r => ["CREATE", "UPDATE", "DELETE"].contains r.kind

/-- The resources of entries, each once. -/
def resources (rows : List AuditRow) : List (String × Option String) :=
  (rows.map fun r => (r.resourceType, r.resourceName)).eraseDups

/-- The number of entries of a resource. -/
def countOf (rows : List AuditRow) (resource : String × Option String) : Nat :=
  rows.countP fun r => r.resourceType == resource.1 && r.resourceName == resource.2

/-- The numbers for all resources add up to that of all entries. -/
theorem sum_countOf (rows : List AuditRow) :
    ((resources rows).map (countOf rows)).sum = rows.length := by
  have hmem : ∀ r ∈ rows, (r.resourceType, r.resourceName) ∈ resources rows := fun r hr =>
    List.mem_eraseDups.mpr (List.mem_map_of_mem hr)
  have hperm := Reports.perm_flatMap_filter (fun r : AuditRow => (r.resourceType, r.resourceName))
    (nodup_eraseDups _) hmem
  rw [← hperm.length_eq, List.length_flatMap]
  congr 1
  refine List.map_congr_left fun resource _ => ?_
  rw [countOf, List.countP_eq_length_filter]
  refine congrArg List.length (List.filter_congr fun r _ => Bool.eq_iff_iff.mpr ?_)
  rw [Bool.and_eq_true, beq_iff_eq, beq_iff_eq, @beq_iff_eq _ instBEqOfDecidableEq, Prod.ext_iff]

/-- As long as no resource is left out, every modification is counted. -/
theorem sum_auditByResource {since upTo : Instant} {limit : UInt32} {db : Database}
    (hlimit : (resources (modified (db.auditBetween since upTo))).length ≤ limit.toNat) :
    ((db.auditByResource since upTo limit).map ResourceCount.modifications).sum
      = (modified (db.auditBetween since upTo)).length := by
  let rows := modified (db.auditBetween since upTo)
  obtain ⟨lines, hlines, htake⟩ : ∃ lines : List ResourceCount,
      lines.Perm ((resources rows).map fun resource =>
        ⟨resource.1, readText resource.2, countOf rows resource⟩)
      ∧ db.auditByResource since upTo limit = lines.take limit.toNat :=
    ⟨_, (List.mergeSort_perm _ _).trans ((List.mergeSort_perm _ _).map _), rfl⟩
  have hlength : lines.length ≤ limit.toNat := by
    rw [hlines.length_eq, List.length_map]
    exact hlimit
  rw [htake, List.take_of_length_le hlength, (hlines.map _).sum_eq, List.map_map]
  exact sum_countOf rows

/-! ## Agreement -/

/-- What the views of a span of time say of its entries: so many are counted, on its days and
    altogether, and so many are listed; the figures of the users tell of them; and of the
    modifications among them none is left out, if no resource is. -/
structure ViewsAgree (s : Store) (since upTo : Instant) (rows : List AuditRow) : Prop where
  count : (countBetween since upTo).answer s = .ok rows.length
  days : ∃ days, (byDay since upTo).answer s = .ok days ∧ (days.map Prod.snd).sum = rows.length
  list : ∃ entries, (list { since := some since, upTo := some upTo }).answer s = .ok entries
    ∧ entries.length = rows.length
    ∧ List.Forall₂ (fun r entry => r.read = .ok entry) (newestFirst AuditRow.timestamp rows) entries
  users : ∃ users, (byUser since upTo).answer s = .ok users ∧ UsersTell users rows
  resources : ∀ limit : UInt32, (resources (modified rows)).length ≤ limit.toNat →
    ∃ lines, (byResource since upTo limit).answer s = .ok lines
      ∧ (lines.map ResourceCount.modifications).sum = (modified rows).length

/-- All views of one log agree on the entries between two times. -/
theorem Logged.viewsAgree {s : Store} (h : Logged Instant.HasFourDigitYear s) {since upTo : Instant}
    (hsince : since.date.year ≤ 9999) (hupTo : upTo.date.year ≤ 9999) :
    ViewsAgree s since upTo
      (s.auditWhen (Time.within (some since.stamped) (some upTo.stamped))) := by
  rw [← auditBetween_eq h.dated hsince hupTo]
  obtain ⟨entries, hentries, hread⟩ := h.exists_list { since := some since, upTo := some upTo }
  rw [← auditBetween_eq_accepted] at hread
  exact {
    count := rfl
    days := ⟨_, rfl, (Reports.sum_tally _).trans (List.length_map _)⟩
    list := ⟨entries, hentries,
      hread.length_eq.symm.trans (perm_newestFirst _ _).length_eq, hread⟩
    users := ⟨_, rfl, usersTell since upTo s.database⟩
    resources := fun _ hlimit => ⟨_, rfl, sum_auditByResource hlimit⟩ }

/-- After every schedule, whatever the span of time: all views of the log are of the same entries,
    and these are the ones whose times lie in the span. -/
theorem views_agree (trail : Trail) (run : List Event) (schedule : List Turn)
    (hrun : ∀ e ∈ run, e.now.HasFourDigitYear)
    (hschedule : ∀ e, .arrive e ∈ schedule → e.now.HasFourDigitYear) {since upTo : Instant}
    (hsince : since.HasFourDigitYear) (hupTo : upTo.HasFourDigitYear) :
    let s := ((Store.empty trail).after run).shared schedule
    ViewsAgree s since upTo
      (s.auditWhen (Time.within (some since.stamped) (some upTo.stamped))) :=
  (logged_shared trail run schedule hrun hschedule).viewsAgree hsince.2 hupTo.2

/-- Five notes of three users, the last one on the next day. -/
def notes : List Event :=
  [⟨⟨1772366400, 0⟩, .audit (.note ((Actor.user "eva").event "Track created" .create "TRACK"))⟩,
   ⟨⟨1772366401, 0⟩, .audit (.note ((Actor.user "bea").event "Track created" .create "TRACK"))⟩,
   ⟨⟨1772366402, 0⟩, .audit (.note ((Actor.user "bea").event "Signed in" .login "USER"))⟩,
   ⟨⟨1772366403, 0⟩, .audit (.note ((Actor.user "ada").event "Track changed" .update "TRACK"))⟩,
   ⟨⟨1772452800, 0⟩, .audit (.note ((Actor.user "eva").event "Signed out" .logout "USER"))⟩]

/-- What the views say of the day of the first four. -/
theorem views_agree_notes :
    let s := (Store.empty .disabled).after notes
    let since := Instant.ofDayNumber 20513
    let upTo := Instant.endOfDay 20513
    (∀ e ∈ notes, e.now.HasFourDigitYear) ∧ since.HasFourDigitYear ∧ upTo.HasFourDigitYear
      ∧ (countBetween since upTo).answer s = .ok 4
      ∧ (∃ users, (byUser since upTo).answer s = .ok users
        ∧ (users.map UserActions.total).sum = 4 ∧ ∀ u ∈ users, u.username = "bea" → u.total = 2)
      ∧ ∃ lines, (byResource since upTo 1).answer s = .ok lines
        ∧ (lines.map ResourceCount.modifications).sum = 3 := by
  have hrun : ∀ e ∈ notes, e.now.HasFourDigitYear := by decide
  have hsince : (Instant.ofDayNumber 20513).HasFourDigitYear := by decide
  have hupTo : (Instant.endOfDay 20513).HasFourDigitYear := by decide
  have hviews := views_agree .disabled notes [] hrun (fun _ h => nomatch h) hsince hupTo
  refine ⟨hrun, hsince, hupTo, hviews.count, ?_, ?_⟩
  · obtain ⟨users, husers, htell⟩ := hviews.users
    refine ⟨users, husers, htell.sum, fun u hu hname => ?_⟩
    rw [htell.total u hu, hname]
    decide +kernel
  · obtain ⟨lines, hlines, hsum⟩ := hviews.resources 1 (by decide +kernel)
    exact ⟨lines, hlines, hsum.trans (by decide +kernel)⟩

end AuditLog

/-! ## The search for a day -/

open Web (dateBoundOpt)

namespace Web

theorem dateBoundOpt_of_namesDay {text : String} {n : Int} (h : Time.NamesDay (Text.trim text) n)
    (side : Instant.BoundSide) :
    dateBoundOpt side (some text) = .ok (some (side.ofDate (.ofDayNumber n))) := by
  have hblank : Text.isBlankText text = false := by
    rw [Bool.eq_false_iff]
    intro hblank
    -- nothing is no date
    rw [String.isEmpty_iff.mp hblank] at h
    cases h
  have hbound : dateBound side text = .ok (side.ofDate (.ofDayNumber n)) := by
    simp only [dateBound, h.ofBound?_eq]
  simp only [dateBoundOpt, Option.filter_some, hblank, Bool.not_false, if_true]
  rw [Option.mapM_some, hbound]
  rfl

end Web

/-! ### The entries of a day -/

section Day

variable {s : Store} (h : AuditLog.Dated Instant.IsReading s) {n : Int}
include h

/-- Conditions that agree on whole milliseconds of readings are satisfied by the same entries. -/
theorem Store.auditWhen_congr {p q : Instant → Bool}
    (hpq : ∀ t, t.IsReading → t.truncate = t → p t = q t) : s.auditWhen p = s.auditWhen q := by
  refine List.filter_congr fun r hr => ?_
  obtain ⟨t, told⟩ := (h r hr).toldAs
  rw [told.timeSatisfies_eq, told.timeSatisfies_eq]
  exact hpq t told.reading told.whole

theorem AuditLog.Dated.hasFourDigitYear : AuditLog.Dated Instant.HasFourDigitYear s :=
  fun r hr => (h r hr).imp fun _ ht => ht.1

variable (hyear : (Instant.ofDayNumber n).date.year ≤ 9999)
include hyear

/-- Between the ends of a day there are its entries. -/
theorem auditBetween_ends :
    s.database.auditBetween (.ofDayNumber n) (.endOfDay n)
      = s.auditWhen fun t => t.dayNumber = n := by
  have hupTo : (Instant.endOfDay n).date.year ≤ 9999 := by
    rw [Instant.date, Instant.dayNumber_endOfDay, ← Instant.dayNumber_midnight n]
    exact hyear
  rw [auditBetween_eq h.hasFourDigitYear hyear hupTo, Instant.stamped_ofDayNumber,
    Instant.stamped_endOfDay]
  refine Store.auditWhen_congr h fun t ht hwhole => Bool.eq_iff_iff.mpr ?_
  simp only [Time.within, allows, Bool.and_eq_true, decide_eq_true_eq]
  rw [Instant.midnight_le_iff, Instant.le_endOfDay_iff hwhole ht.2]
  omega

/-- In a span that has the whole day, so many entries are stored under its date. -/
theorem count_storedDay {since upTo : Instant} (hsince : since ≤ .ofDayNumber n)
    (hupTo : .endOfDay n ≤ upTo) (hlate : upTo.date.year ≤ 9999) :
    ((s.database.auditBetween since upTo).map fun r => Database.storedDay r.timestamp).count
        (Date.ofDayNumber n).render
      = (s.auditWhen fun t => t.dayNumber = n).length := by
  have hearly : since.date.year ≤ 9999 :=
    Int.le_trans (Date.year_le_of_le (Instant.dayNumber_le hsince)) hyear
  rw [auditBetween_eq h.hasFourDigitYear hearly hlate, List.count, List.countP_map,
    Store.auditWhen, List.countP_filter, Store.auditWhen, ← List.countP_eq_length_filter]
  refine List.countP_congr fun r hr => ?_
  obtain ⟨t, told⟩ := (h r hr).toldAs
  rw [Bool.and_eq_true, told.timeSatisfies_eq, told.timeSatisfies_eq]
  simp only [Function.comp_apply, beq_iff_eq, told.storedDay_iff, Time.within, allows,
    Bool.and_eq_true, decide_eq_true_eq]
  constructor
  · rintro ⟨hday, -⟩
    exact hday
  · intro hday
    have hlow := Instant.midnight_le_iff.mpr (Int.le_of_eq hday.symm)
    have hhigh := (Instant.le_endOfDay_iff told.whole told.reading.2).mpr (Int.le_of_eq hday)
    exact ⟨hday, Instant.le_trans (Instant.stamped_le_midnight hsince) hlow,
      Instant.le_trans hhigh (Instant.endOfDay_le_stamped hupTo)⟩

end Day

/-! ### The search -/

namespace AuditLog

/-- A search for a day and nothing else. -/
def searchOfDay (text : String) : Web.Office.AuditSearch where
  action := none
  entity := none
  username := none
  status := none
  since := some text
  upTo := some text

/-- A search for a day is one between its first and its last millisecond. -/
theorem filter_searchOfDay {text : String} {n : Int} (h : Time.NamesDay (Text.trim text) n) :
    (searchOfDay text).filter
      = .ok { since := some (.ofDayNumber n), upTo := some (.endOfDay n) } := by
  simp only [Web.Office.AuditSearch.filter, searchOfDay]
  rw [Web.dateBoundOpt_of_namesDay h, Web.dateBoundOpt_of_namesDay h]
  rfl

/-- After every schedule, whatever day of a year with four digits is searched for in whatever
    spelling: the pages of the search show the entries of the day, and there are as many as
    the figures by day have for it, in every span that has the whole day. -/
theorem search_of_day (trail : Trail) (run : List Event) (schedule : List Turn)
    (hrun : ∀ e ∈ run, e.now.IsReading) (hschedule : ∀ e, .arrive e ∈ schedule → e.now.IsReading)
    {text : String} {n : Int} (hday : Time.NamesDay (Text.trim text) n)
    (hyear : (Instant.ofDayNumber n).HasFourDigitYear) :
    let s := ((Store.empty trail).after run).shared schedule
    let found := s.auditWhen fun t => t.dayNumber = n
    (∃ f, (searchOfDay text).filter = .ok f
      ∧ ∀ (size : UInt32) (sortBy : String) (order : SortOrder), 0 < size →
        let answer := fun j => (page f ⟨j, size, sortBy, order⟩).answer s
        Paged AuditRow.read (NewestFirst AuditRow.timestamp) found
            (newestFirst AuditRow.timestamp found) size answer
          ∧ ∀ j : UInt32, j.toNat * size.toNat < 0x8000000000000000 →
            ∃ p, answer j = .ok p ∧ p.totalElements = found.length)
    ∧ ∀ since upTo : Instant, since ≤ .ofDayNumber n → .endOfDay n ≤ upTo →
      upTo.date.year ≤ 9999 → ∃ days, (byDay since upTo).answer s = .ok days
        ∧ (days.lookup (Date.ofDayNumber n).render).getD 0 = found.length := by
  intro s found
  have hlogged := logged_shared trail run schedule hrun hschedule
  have hdated : Dated Instant.IsReading s := hlogged.dated
  refine ⟨⟨_, filter_searchOfDay hday, fun size sortBy order hsize => ?_⟩,
    fun since upTo hsince hupTo hlate => ⟨_, rfl, ?_⟩⟩
  · have hpages := (pages_partition s hsize sortBy order).2.2.2
      { since := some (.ofDayNumber n), upTo := some (.endOfDay n) }
    rw [← auditBetween_eq_accepted, auditBetween_ends hdated hyear.2] at hpages
    refine ⟨hpages, fun j hj => ?_⟩
    have hread : ∀ r ∈ found, ∃ entry, r.read = .ok entry := by
      intro r hr
      obtain ⟨id, t, e, ht, rfl⟩ := hlogged r (List.mem_of_mem_filter hr)
      exact ⟨_, AuditRow.read_ofEvent ht.1 id e⟩
    obtain ⟨p, hp⟩ := hpages.exists_page hread j hj
    exact ⟨p, hp, (hpages.totals j p hp).1⟩
  · exact (Reports.lookup_tally _ _).trans (count_storedDay hdated hyear.2 hsince hupTo hlate)

/-- The first of March, with a blank before it and without zeros, has four of the notes, which are
    also counted in a span of two days. -/
theorem search_of_day_march :
    let s := (Store.empty .disabled).after notes
    (∀ e ∈ notes, e.now.IsReading) ∧ Time.NamesDay (Text.trim " 2026-3-1") 20513
      ∧ (Instant.ofDayNumber 20513).HasFourDigitYear
      ∧ (∃ f, (searchOfDay " 2026-3-1").filter = .ok f
        ∧ ∃ p, (page f ⟨0, 20, "", .ascending⟩).answer s = .ok p ∧ p.totalElements = 4)
      ∧ ∃ days, (byDay (.ofDayNumber 20513) (.endOfDay 20514)).answer s = .ok days
        ∧ (days.lookup "2026-03-01").getD 0 = 4 := by
  have hrun : ∀ e ∈ notes, e.now.IsReading := by decide
  have hday : Time.NamesDay (Text.trim " 2026-3-1") 20513 := by decide +kernel
  have hyear : (Instant.ofDayNumber 20513).HasFourDigitYear := by decide
  have hfound : (((Store.empty .disabled).after notes).auditWhen fun t =>
      t.dayNumber = 20513).length = 4 := by
    decide +kernel
  have hdate : (Date.ofDayNumber 20513).render = "2026-03-01" := by decide +kernel
  obtain ⟨⟨f, hf, hpages⟩, hdays⟩ :=
    search_of_day .disabled notes [] hrun (fun _ h => nomatch h) hday hyear
  obtain ⟨p, hp, htotal⟩ := (hpages 20 "" .ascending (by decide)).2 0 (by decide)
  obtain ⟨days, hanswer, hlookup⟩ :=
    hdays (.ofDayNumber 20513) (.endOfDay 20514) (by decide) (by decide) (by decide)
  rw [hdate] at hlookup
  exact ⟨hrun, hday, hyear, ⟨f, hf, p, hp, htotal.trans hfound⟩, days, hanswer,
    hlookup.trans hfound⟩

end AuditLog

end RobotMaze
