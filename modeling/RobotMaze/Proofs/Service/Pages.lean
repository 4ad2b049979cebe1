import RobotMaze.Proofs.Service.Frames
import RobotMaze.Proofs.Store.Listing

/-! # Pages of the service

    Tracks, accounts, game sessions and audit entries are all listed in the same
    way: their number and the rows of a page are asked for one after the other.
    So what is proved of one such listing holds of all four:

    * `Paged` — the pages of a size are cut from one sorted listing;
    * `Paged.exists_shown` — each row is shown by the page that it is on;
    * `paged_of_listing` — the pages are cut like that if a listing answers for them;
    * `pages_partition` — the four listings. -/

namespace RobotMaze

open Time (Instant)

/-- The answers to the requests for the pages of a size, as they should be for a listing of the
    rows that a filter lets through. -/
structure Paged {ρ α : Type} [Row ρ] (read : ρ → Read α) (le : ρ → ρ → Prop)
    (matching rows : List ρ) (n : UInt32) (answer : UInt32 → Except Failure (Page α)) : Prop where
  /-- The listing has each of these rows once. -/
  perm : rows.Perm matching
  /-- The listing is sorted. -/
  sorted : rows.Pairwise le
  /-- There is no other way to sort the rows, since they differ in their ids. -/
  strict : (matching.map Row.id).Nodup → rows.Pairwise fun r s => ¬ le s r
  /-- The pages together are the listing. -/
  covered : ((List.range (pageCount n.toNat rows.length)).map (slice n.toNat rows)).flatten = rows
  /-- A page is answered if its rows can be read and the number of rows before it is small enough. -/
  answered : ∀ j : UInt32, j.toNat * n.toNat < 0x8000000000000000 →
    ((∃ p, answer j = .ok p) ↔ ∀ r ∈ slice n.toNat rows j.toNat, ∃ a, read r = .ok a)
  /-- An answer shows the rows of its page. -/
  content : ∀ j p, answer j = .ok p → (slice n.toNat rows j.toNat).mapM read = .ok p.content
  /-- An answer tells the totals of the whole listing. -/
  totals : ∀ j p, answer j = .ok p →
    p.totalElements = matching.length ∧ p.totalPages = pageCount n.toNat rows.length
  /-- All pages but the last one are full. -/
  full : ∀ j p, answer j = .ok p → j.toNat + 1 < p.totalPages → p.content.length = n.toNat
  /-- The pages after the last one are empty, and only they are. -/
  beyond : ∀ j p, answer j = .ok p → (p.content = [] ↔ p.totalPages ≤ j.toNat)
  first : ∀ j p, answer j = .ok p → (p.first = true ↔ j = 0)
  last : ∀ j p, answer j = .ok p →
    (p.last = false ↔ ∃ i, j.toNat < i ∧ slice n.toNat rows i ≠ [])
  /-- The answers for all pages together show every row once, in the order of the listing. -/
  whole : ∀ pages : List (Page α), pages.length = pageCount n.toNat rows.length →
    (∀ i p, pages[i]? = some p → ∃ j : UInt32, j.toNat = i ∧ answer j = .ok p) →
    rows.mapM read = .ok (pages.map Page.content).flatten

/-- If all rows of a listing can be read, every page is answered. -/
theorem Paged.exists_page {ρ α : Type} [Row ρ] {read : ρ → Read α} {le : ρ → ρ → Prop}
    {matching rows : List ρ} {n : UInt32} {answer : UInt32 → Except Failure (Page α)}
    (h : Paged read le matching rows n answer) (hread : ∀ r ∈ matching, ∃ a, read r = .ok a)
    (j : UInt32) (hj : j.toNat * n.toNat < 0x8000000000000000) : ∃ p, answer j = .ok p := by
  refine (h.answered j hj).mpr fun r hr => hread r (h.perm.mem_iff.mp ?_)
  exact List.mem_of_mem_drop (List.mem_of_mem_take hr)

/-- If all rows of a listing can be read, each of them is shown by the page that it is on. -/
theorem Paged.exists_shown {ρ α : Type} [Row ρ] {read : ρ → Read α} {le : ρ → ρ → Prop}
    {matching rows : List ρ} {n : UInt32} {answer : UInt32 → Except Failure (Page α)}
    (h : Paged read le matching rows n answer) (hread : ∀ r ∈ matching, ∃ a, read r = .ok a)
    {r : ρ} (hr : r ∈ matching) :
    ∃ i < pageCount n.toNat matching.length, ∀ j : UInt32, j.toNat = i →
      j.toNat * n.toNat < 0x8000000000000000 →
        ∃ p, answer j = .ok p ∧ ∃ a ∈ p.content, read r = .ok a := by
  have hflat : r ∈ ((List.range (pageCount n.toNat rows.length)).map
      (slice n.toNat rows)).flatten :=
    h.covered.symm ▸ h.perm.mem_iff.mpr hr
  -- the row is on some page, and a page shows what is read of each of its rows
  obtain ⟨_, hslice, hr⟩ := List.mem_flatten.mp hflat
  obtain ⟨i, hi, rfl⟩ := List.mem_map.mp hslice
  refine ⟨i, h.perm.length_eq ▸ List.mem_range.mp hi, ?_⟩
  rintro j rfl hj
  obtain ⟨p, hp⟩ := h.exists_page hread j hj
  exact ⟨p, hp, exists_of_mem_forall₂ (mapM_ok_iff.mp (h.content j p hp)) hr⟩

/-- Rows that are asked for all at once are answered if each of them can be read. -/
theorem answer_rows {ρ α : Type} {s : Store} {read : ρ → Read α} {readAll : List ρ → Op (List α)}
    (hread : ∀ rows, readAll rows = Op.ofRead (rows.mapM read)) (find : Database → List ρ) :
    (do readAll (← Op.query find) : Op (List α)).answer s = (find s.database).mapM read := by
  rw [Op.Reads.answer_bind (Op.keeps_query _), Op.answer_query]
  simp only [hread]
  exact Op.answer_ofRead _

/-- A page is answered with its rows, and with totals that were counted before. -/
theorem answer_page {ρ α : Type} {s : Store} {read : ρ → Read α} {readAll : List ρ → Op (List α)}
    (hread : ∀ rows, readAll rows = Op.ofRead (rows.mapM read)) (count : Database → Nat)
    (find : Database → Read (List ρ)) (p : PageRequest) :
    (do
      let total ← Op.query count
      let rows ← Op.queryRead find
      return Page.new (← readAll rows) p total : Op (Page α)).answer s = do
        let rows ← find s.database
        let content ← rows.mapM read
        return Page.new content p (count s.database) := by
  rw [Op.Reads.answer_bind (Op.keeps_query _), Op.answer_query]
  simp only []
  rw [Op.Reads.answer_bind (Op.keeps_queryRead _), Op.answer_queryRead]
  cases find s.database with
  | error e => rfl
  | ok rows =>
      simp only [hread]
      rw [Op.Reads.answer_bind (Op.keeps_ofRead _), Op.answer_ofRead]
      show _ = (rows.mapM read) >>= fun content => .ok (Page.new content p (count s.database))
      cases rows.mapM read <;> rfl

section Listing

variable {ρ α : Type} [Row ρ] {read : ρ → Read α} {le : ρ → ρ → Prop} {matching rows : List ρ}
  {n : UInt32} {sortBy : String} {order : SortOrder} {answer : UInt32 → Except Failure (Page α)}

/-- Pages that are cut from a sorted listing and read, with the totals of the listing. -/
theorem paged_of_listing (hn : 0 < n) (hle : Separates le) (hperm : rows.Perm matching)
    (hsorted : rows.Pairwise le)
    (hanswer : ∀ j, answer j = do
      let found ← pageOf ⟨j, n, sortBy, order⟩ rows
      let content ← found.mapM read
      return Page.new content ⟨j, n, sortBy, order⟩ matching.length) :
    Paged read le matching rows n answer := by
  have hpos : 0 < n.toNat := UInt32.lt_iff_toNat_lt.mp hn
  -- a page that is answered is the slice of its number, read, and the totals
  have hok : ∀ j p, answer j = .ok p → (slice n.toNat rows j.toNat).mapM read = .ok p.content
      ∧ p = Page.new p.content ⟨j, n, sortBy, order⟩ matching.length := by
    intro j p h
    rw [hanswer] at h
    obtain ⟨found, hfound, h⟩ := ok_of_bind h
    obtain ⟨content, hcontent, h⟩ := ok_of_bind h
    obtain rfl := Except.ok.inj h
    simp only [pageOf] at hfound
    split at hfound
    · rw [← Except.ok.inj hfound] at hcontent
      exact ⟨hcontent, rfl⟩
    · cases hfound
  have hmax : max n.toNat 1 = n.toNat := Nat.max_eq_left hpos
  have hlength : ∀ j p, answer j = .ok p →
      p.content.length = (slice n.toNat rows j.toNat).length :=
    fun j p hp => (mapM_ok_iff.mp (hok j p hp).1).length_eq.symm
  have hpages : ∀ j p, answer j = .ok p → p.totalPages = pageCount n.toNat rows.length := by
    intro j p hp
    rw [(hok j p hp).2]
    simp only [Page.new, pageCount, hmax, hperm.length_eq]
  exact {
    perm := hperm
    sorted := hsorted
    strict := by
      intro hnodup
      have hids : rows.Pairwise fun r s => Row.id r ≠ Row.id s :=
        List.pairwise_map.mp ((hperm.map Row.id).nodup_iff.mpr hnodup)
      exact hids.imp₂ (fun r s hid hrs hsr => hid (hle r s hrs hsr)) hsorted
    covered := flatten_slice_pageCount hpos rows
    answered := by
      intro j hj
      rw [← exists_mapM_iff]
      constructor
      · rintro ⟨p, hp⟩
        exact ⟨_, (hok j p hp).1⟩
      · rintro ⟨content, hcontent⟩
        have hfound : pageOf ⟨j, n, sortBy, order⟩ rows = .ok (slice n.toNat rows j.toNat) :=
          if_pos hj
        refine ⟨Page.new content ⟨j, n, sortBy, order⟩ matching.length, ?_⟩
        rw [hanswer, hfound]
        show ((slice n.toNat rows j.toNat).mapM read >>= _) = _
        rw [hcontent]
        rfl
    content := fun j p hp => (hok j p hp).1
    totals := by
      intro j p hp
      refine ⟨?_, hpages j p hp⟩
      rw [(hok j p hp).2]
      rfl
    full := by
      intro j p hp hmore
      rw [hpages j p hp] at hmore
      rw [hlength j p hp, length_slice hpos hmore]
    beyond := by
      intro j p hp
      rw [hpages j p hp, ← slice_eq_nil hpos, ← List.length_eq_zero_iff, hlength j p hp,
        List.length_eq_zero_iff]
    first := by
      intro j p hp
      rw [(hok j p hp).2]
      exact beq_iff_eq
    last := by
      intro j p hp
      rw [(hok j p hp).2, exists_later_slice hpos]
      simp only [Page.new, hmax, decide_eq_false_iff_not, Nat.not_le, pageCount, hperm.length_eq]
    whole := by
      intro pages hlength hpages
      rw [mapM_ok_iff]
      have hslices : List.Forall₂ (List.Forall₂ fun r a => read r = .ok a)
          ((List.range (pageCount n.toNat rows.length)).map (slice n.toNat rows))
          (pages.map Page.content) := by
        refine List.forall₂_iff_get.mpr ⟨by simp [hlength], fun i hi hi' => ?_⟩
        obtain ⟨j, hj, hp⟩ := hpages i _ (List.getElem?_eq_getElem (by simpa using hi'))
        have hcontent := mapM_ok_iff.mp (hok j _ hp).1
        rw [hj] at hcontent
        simpa using hcontent
      have hflat := List.rel_flatten hslices
      rwa [flatten_slice_pageCount hpos] at hflat }

end Listing

/-- Whatever a store holds, whatever is asked for and in whatever order: the pages of a size cut the
    listing into parts. -/
theorem pages_partition (s : Store) {n : UInt32} (hn : 0 < n) (sortBy : String)
    (order : SortOrder) :
    Paged TrackRow.read (InOrder (Database.trackSortKey sortBy) order) s.database.tracks.rows
      (sortedBy (Database.trackSortKey sortBy) order s.database.tracks.rows) n
      (fun j => (Tracks.page ⟨j, n, sortBy, order⟩).answer s)
    ∧ (∀ f : Database.UserFilter,
      Paged UserRow.read (InOrder (Database.userSortKey sortBy) order) (s.database.usersAccepted f)
        (sortedBy (Database.userSortKey sortBy) order (s.database.usersAccepted f)) n
        (fun j => (Users.page f ⟨j, n, sortBy, order⟩).answer s))
    ∧ (∀ f : Database.SessionFilter,
      Paged SessionRow.read (NewestFirst SessionRow.startTime) (s.database.sessionsAccepted f)
        (newestFirst SessionRow.startTime (s.database.sessionsAccepted f)) n
        (fun j => (Games.page f ⟨j, n, sortBy, order⟩).answer s))
    ∧ ∀ f : Database.AuditFilter,
      Paged AuditRow.read (NewestFirst AuditRow.timestamp) (s.database.auditAccepted f)
        (newestFirst AuditRow.timestamp (s.database.auditAccepted f)) n
        (fun j => (AuditLog.page f ⟨j, n, sortBy, order⟩).answer s) := by
  refine ⟨?_, fun f => ?_, fun f => ?_, fun f => ?_⟩
  · exact paged_of_listing hn (separates_inOrder _ _) (perm_sortedBy _ _ _)
      (pairwise_sortedBy _ _ _) fun _ => answer_page (fun _ => rfl) _ _ _
  · exact paged_of_listing hn (separates_inOrder _ _) (perm_sortedBy _ _ _)
      (pairwise_sortedBy _ _ _) fun _ => answer_page (fun _ => rfl) _ _ _
  · exact paged_of_listing hn (separates_newestFirst _) (perm_newestFirst _ _)
      (pairwise_newestFirst _ _) fun _ => answer_page (fun _ => rfl) _ _ _
  · exact paged_of_listing hn (separates_newestFirst _) (perm_newestFirst _ _)
      (pairwise_newestFirst _ _) fun _ => answer_page (fun _ => rfl) _ _ _

/-- An account is created of which nothing but the name matters. -/
def reader (username : String) : Event :=
  ⟨⟨1772366400, 0⟩, .users (.create
    ⟨username, username ++ "@maze.example", "countess", none, .admin, true⟩ ⟨4, [17]⟩ .system)⟩

/-- Three accounts are created. -/
def threeReaders : List Event := [reader "emmy", reader "ada", reader "grace"]

/-- Two to a page, by falling names: the second page is the last one. -/
theorem pages_partition_readers :
    let s := (Store.empty .disabled).after threeReaders
    (0 : UInt32) < 2
      ∧ Paged UserRow.read (InOrder (Database.userSortKey "username") .descending)
        (s.database.usersAccepted {})
        (sortedBy (Database.userSortKey "username") .descending (s.database.usersAccepted {})) 2
        (fun j => (Users.page {} ⟨j, 2, "username", .descending⟩).answer s)
      ∧ (∃ p, (Users.page {} ⟨1, 2, "username", .descending⟩).answer s = .ok p
        ∧ p.totalElements = 3 ∧ p.totalPages = 2 ∧ p.last = true) := by
  have hpaged := (pages_partition ((Store.empty .disabled).after threeReaders)
    (by decide : (0 : UInt32) < 2) "username" .descending).2.1 {}
  have hcount : (((Store.empty .disabled).after threeReaders).database.usersAccepted {}).length
      = 3 := by
    decide +kernel
  have hreads : ∀ r ∈ ((Store.empty .disabled).after threeReaders).database.users.rows,
      r.read.isOk = true := by
    decide +kernel
  have hread : ∀ r ∈ ((Store.empty .disabled).after threeReaders).database.usersAccepted {},
      ∃ u, r.read = .ok u := fun r hr => exists_ok (hreads r (List.mem_of_mem_filter hr))
  obtain ⟨p, hp⟩ := hpaged.exists_page hread 1 (by decide)
  obtain ⟨helements, hpages⟩ := hpaged.totals 1 p hp
  rw [hcount] at helements
  rw [hpaged.perm.length_eq, hcount] at hpages
  refine ⟨by decide, hpaged, p, hp, helements, hpages, ?_⟩
  by_contra hlast
  obtain ⟨i, hi, hrows⟩ := (hpaged.last 1 p hp).mp (Bool.not_eq_true _ ▸ hlast)
  refine hrows ((slice_eq_nil (by decide)).mpr ?_)
  rw [hpaged.perm.length_eq, hcount]
  exact hi

end RobotMaze
