import RobotMaze.Proofs.Grid.Cells
import RobotMaze.Robot.Run

/-! # Loops — what the markers of a program amount to

    A loop's body runs once, so the markers around it should change nothing.
    The route:

    * `closing?` finds a closing marker, and with it cuts the list into the
      body, the marker and the rest (`closing?_split`);
    * `Robot.run` is therefore a fold over the moves that stays where it was
      once a step is blocked (`run_eq_foldl`), however the markers nest;
    * a marker has no effect in that fold, so it may be left out
      (`foldl_next_unmarked`).

    Which markers belong together, and why a run ends:

    * `Scans` is the search for a partner, place by place, with the loops that
      are open there; its count is right wherever it comes to (`Scans.counted`);
    * so it ends at the first place up to which as many loops are closed as
      opened, and never closes one too many (`partner_found`);
    * what lies between two partners is shorter than the program, so the calls
      of a run nest no deeper than the program is long (`runWithin_eq`). -/

namespace RobotMaze

namespace Move

/-- A program without its loop markers. -/
def unmarked (moves : List Move) : List Move := moves.filter fun m => !m.isMarker

/-- Leaving the markers out makes no program longer. -/
theorem length_unmarked_le (moves : List Move) : (unmarked moves).length ≤ moves.length :=
  List.length_filter_le _ moves

/-- What is left has no marker. -/
theorem isMarker_of_mem_unmarked {m : Move} {moves : List Move} (h : m ∈ unmarked moves) :
    m.isMarker = false := by
  have hm := (List.mem_filter.mp h).2
  simpa using hm

/-- Leaving the markers out once is enough. -/
theorem unmarked_unmarked (moves : List Move) : unmarked (unmarked moves) = unmarked moves := by
  simp only [unmarked]
  rw [List.filter_filter]
  simp

/-- A move in front of a closing marker shifts the place of the marker by one. -/
theorem split_closing_cons {n : Nat} {m : Move} {rest : List Move}
    (h : rest = rest.take n ++ .loopEnd :: rest.drop (n + 1)) :
    m :: rest = (m :: rest).take (n + 1) ++ .loopEnd :: (m :: rest).drop (n + 1 + 1) := by
  rw [List.take_succ_cons, List.drop_succ_cons, List.cons_append, ← h]

/-- The place that closes some open loops holds a closing marker. -/
theorem closing?_split {depth n : Nat} {moves : List Move} (h : closing? depth moves = some n) :
    moves = moves.take n ++ .loopEnd :: moves.drop (n + 1) := by
  induction moves generalizing depth n with
  | nil => cases h
  | cons m rest ih =>
      -- every move but the marker that is looked for only counts one place further
      have hlater : ∀ {d : Nat}, (closing? d rest).map (· + 1) = some n →
          m :: rest = (m :: rest).take n ++ .loopEnd :: (m :: rest).drop (n + 1) := by
        intro d hd
        obtain ⟨k, hk, rfl⟩ := Option.map_eq_some_iff.mp hd
        exact split_closing_cons (ih hk)
      cases m with
      | loopStart => exact hlater h
      | loopEnd =>
          rw [closing?] at h
          by_cases hdepth : depth ≤ 1
          · rw [if_pos hdepth] at h
            obtain rfl : 0 = n := Option.some.inj h
            rfl
          · rw [if_neg hdepth] at h
            exact hlater h
      | forward => exact hlater h
      | left => exact hlater h
      | right => exact hlater h

end Move

/-- A robot under way makes the next move; one that was stopped stays where it is. -/
def Progress.next (g : Grid) : Progress → Move → Progress
  | .moving r, m => r.step g m
  | .blocked r target, _ => .blocked r target

/-- A robot that was stopped makes no move of a program. -/
theorem Progress.foldl_next_blocked (g : Grid) (r : Robot) (target : Position)
    (moves : List Move) :
    moves.foldl (Progress.next g) (.blocked r target) = .blocked r target := by
  induction moves with
  | nil => rfl
  | cons m rest ih => exact ih

/-- A marker is passed over. -/
theorem Progress.next_of_isMarker (g : Grid) (p : Progress) {m : Move} (h : m.isMarker = true) :
    p.next g m = p := by
  cases p with
  | blocked r target => rfl
  | moving r => cases m <;> first | rfl | cases h

/-- The fold over a program is the fold over its moves without the markers. -/
theorem Progress.foldl_next_unmarked (g : Grid) (p : Progress) (moves : List Move) :
    (Move.unmarked moves).foldl (Progress.next g) p = moves.foldl (Progress.next g) p := by
  induction moves generalizing p with
  | nil => rfl
  | cons m rest ih =>
      by_cases hm : m.isMarker = true
      · have hskip : Move.unmarked (m :: rest) = Move.unmarked rest := by
          simp [Move.unmarked, hm]
        rw [hskip, List.foldl_cons, Progress.next_of_isMarker g p hm, ih]
      · have hkeep : Move.unmarked (m :: rest) = m :: Move.unmarked rest := by
          simp [Move.unmarked, hm]
        rw [hkeep, List.foldl_cons, List.foldl_cons, ih]

/-- A loop's moves are its body, its closing marker and the rest. -/
theorem Progress.foldl_next_closing (g : Grid) (p : Progress) {rest : List Move} {n : Nat}
    (h : Move.closing? 1 rest = some n) :
    rest.foldl (Progress.next g) p
      = (rest.drop (n + 1)).foldl (Progress.next g) ((rest.take n).foldl (Progress.next g) p) := by
  have hsplit := Move.closing?_split h
  calc rest.foldl (Progress.next g) p
      = (rest.take n ++ .loopEnd :: rest.drop (n + 1)).foldl (Progress.next g) p := by
        rw [← hsplit]
    _ = (rest.drop (n + 1)).foldl (Progress.next g)
          (Progress.next g ((rest.take n).foldl (Progress.next g) p) .loopEnd) := by
        rw [List.foldl_append, List.foldl_cons]
    _ = (rest.drop (n + 1)).foldl (Progress.next g)
          ((rest.take n).foldl (Progress.next g) p) := by
        rw [Progress.next_of_isMarker g _ rfl]

/-- A robot runs a loop's body and, unless it was stopped there, what follows the loop. -/
theorem Robot.run_loopStart (g : Grid) (r : Robot) {rest : List Move} {n : Nat}
    (h : Move.closing? 1 rest = some n) :
    r.run g (.loopStart :: rest) =
      match r.run g (rest.take n) with
      | .moving r => r.run g (rest.drop (n + 1))
      | .blocked r target => .blocked r target := by
  rewrite [Robot.run, h]
  rfl

/-- However the markers nest, a run is a fold over the moves. -/
theorem Robot.run_eq_foldl (g : Grid) (r : Robot) (moves : List Move) :
    r.run g moves = moves.foldl (Progress.next g) (.moving r) := by
  -- the induction is that of `run`: on the body of a loop and on what follows it
  induction r, moves using Robot.run.induct g with
  | case1 r =>
      rw [Robot.run]
      rfl
  | case2 r rest n hn r' hbody ihbody ihrest =>
      rw [Robot.run_loopStart g r hn, List.foldl_cons]
      show _ = rest.foldl (Progress.next g) (.moving r)
      rw [Progress.foldl_next_closing g (.moving r) hn, ← ihbody, hbody]
      exact ihrest
  | case3 r rest n hn r' target hbody ihbody =>
      -- stopped in the body: neither its other moves nor what follows the loop is made
      rw [Robot.run_loopStart g r hn, List.foldl_cons]
      show _ = rest.foldl (Progress.next g) (.moving r)
      rw [Progress.foldl_next_closing g (.moving r) hn, ← ihbody, hbody,
        Progress.foldl_next_blocked]
  | case4 r rest hn ih =>
      -- the loop is never closed, so its marker alone is passed over
      rw [Robot.run, hn]
      exact ih
  | case5 r m rest hm r' hstep ih =>
      rw [Robot.run, hstep, List.foldl_cons]
      · show r'.run g rest = rest.foldl (Progress.next g) (r.step g m)
        rw [hstep]
        exact ih
      · exact hm
  | case6 r m rest hm r' target hstep =>
      rw [Robot.run, hstep, List.foldl_cons]
      · show Progress.blocked r' target = rest.foldl (Progress.next g) (r.step g m)
        rw [hstep, Progress.foldl_next_blocked]
      · exact hm

/-- A run of a program is the fold over its moves without the markers. -/
theorem Robot.run_eq_foldl_unmarked (g : Grid) (r : Robot) (moves : List Move) :
    r.run g moves = (Move.unmarked moves).foldl (Progress.next g) (.moving r) := by
  rw [Robot.run_eq_foldl, Progress.foldl_next_unmarked]

/-- A program that is not too long is run from a start cell on the path. -/
theorem simulate_of_length_le {g : Grid} {moves : List Move}
    (hlength : moves.length ≤ maxProgramMoves) (position : Position) (heading : Heading) :
    simulate g position heading moves =
      if g.isPath position.x position.y then
        .ok (((Robot.start position heading).run g moves).outcome g)
      else .error .startOffPath := by
  simp only [simulate]
  rw [if_neg (by omega)]

/-- Loop markers change nothing: a program has the outcome, or the error, of the program without
    them, and that is the outcome of making the moves one by one up to the first that is blocked. -/
theorem simulate_eq_simulate_unmarked (g : Grid) (position : Position) (heading : Heading)
    (moves : List Move) (hlength : moves.length ≤ 200) :
    simulate g position heading moves = simulate g position heading (Move.unmarked moves)
      ∧ simulate g position heading moves =
          if g.isPath position.x position.y then
            .ok (((Move.unmarked moves).foldl (Progress.next g)
              (.moving (Robot.start position heading))).outcome g)
          else .error .startOffPath := by
  have hplain : (Move.unmarked moves).length ≤ maxProgramMoves :=
    Nat.le_trans (Move.length_unmarked_le moves) hlength
  have hrun := Robot.run_eq_foldl_unmarked g (Robot.start position heading)
  constructor
  · rw [simulate_of_length_le hlength, simulate_of_length_le hplain, hrun, hrun,
      Move.unmarked_unmarked]
  · rw [simulate_of_length_le hlength, hrun]

/-- A program with a closing marker too many, an open one too many and one loop in another, whose
    step in the inner loop is blocked. -/
def nestedLoops : List Move :=
  [.loopEnd, .loopStart, .loopStart, .forward, .loopStart, .left, .forward, .loopEnd, .right,
    .loopEnd, .forward]

/-- A program with loops in each other runs to a wall. -/
theorem simulate_nestedLoops :
    nestedLoops.length ≤ 200
      ∧ simulate Grid.corridor ⟨0, 0⟩ .east nestedLoops
        = .ok ⟨.failed, ⟨1, 0⟩, .north, 2, 5, 3, some ⟨1, -1⟩, some blockedMessage⟩ := by
  refine ⟨by decide, ?_⟩
  rw [(simulate_eq_simulate_unmarked Grid.corridor ⟨0, 0⟩ .east nestedLoops (by decide)).2]
  rfl

/-! ## Partners — the markers that belong together -/

namespace Move

/-- As many loops are closed as are opened. -/
def IsBalanced (moves : List Move) : Prop := moves.count .loopEnd = moves.count .loopStart

/-- Balanced, and at no place with more loops closed than opened. -/
structure IsNested (moves : List Move) : Prop where
  balanced : IsBalanced moves
  enclosed : ∀ n, (moves.take n).count .loopEnd ≤ (moves.take n).count .loopStart

/-- The first place behind a marker up to which the moves from the marker on are balanced. -/
structure IsPartner (moves : List Move) (start e : Nat) : Prop where
  above : start < e
  inside : e < moves.length
  balanced : IsBalanced (moves.extract start (e + 1))
  least : ∀ k, start < k → k < e → ¬ IsBalanced (moves.extract start (k + 1))

/-- The search for the partner of a marker: the places that it comes to, each with the number of
    loops that are open there.  It goes past a closing marker that leaves some loop open. -/
inductive Scans (moves : List Move) (start : Nat) : Nat → Nat → Prop
  | here : Scans moves start start 0
  | opening {i depth : Nat} (reached : Scans moves start i depth)
      (marker : moves[i]? = some .loopStart) : Scans moves start (i + 1) (depth + 1)
  | closing {i depth : Nat} (reached : Scans moves start i depth)
      (marker : moves[i]? = some .loopEnd) (more : depth - 1 ≠ 0) :
      Scans moves start (i + 1) (depth - 1)
  | other {i depth : Nat} {m : Move} (reached : Scans moves start i depth)
      (passed : moves[i]? = some m) (plain : m.isMarker = false) : Scans moves start (i + 1) depth

/-- How the search from a place on ends: at a closing marker that leaves no loop open, so many
    places further, or with the list. -/
def ScanEnds (moves : List Move) (start i : Nat) : Option Nat → Prop
  | some n => ∃ depth, Scans moves start (i + n) depth ∧ moves[i + n]? = some .loopEnd
      ∧ depth - 1 = 0
  | none => ∃ depth, Scans moves start moves.length depth

/-- The number of open loops is right for a place behind the marker: one at least is open there,
    and none of the places before it closes the last one. -/
structure OpenLoops (moves : List Move) (start i depth : Nat) : Prop where
  above : start < i
  inside : i ≤ moves.length
  pos : 1 ≤ depth
  counted : (moves.extract start i).count .loopStart
    = (moves.extract start i).count .loopEnd + depth
  enclosed : ∀ k, start < k → k ≤ i →
    (moves.extract start k).count .loopEnd < (moves.extract start k).count .loopStart

section Slices

variable {moves : List Move} {start i : Nat} {m : Move}

theorem drop_eq_cons (hm : moves[i]? = some m) : moves.drop i = m :: moves.drop (i + 1) := by
  rw [List.drop_eq_getElem?_toList_append, hm]
  rfl

/-- A slice grows by the move behind it. -/
theorem extract_succ (hle : start ≤ i) (hm : moves[i]? = some m) :
    moves.extract start (i + 1) = moves.extract start i ++ [m] := by
  have hlength : i + 1 - start = i - start + 1 := by omega
  have hplace : start + (i - start) = i := by omega
  rw [List.extract_eq_take_drop, List.extract_eq_take_drop, hlength, List.take_add_one,
    List.getElem?_drop, hplace, hm]
  rfl

/-- A slice begins with the move at its start. -/
theorem extract_eq_cons (hlt : start < i) (hm : moves[start]? = some m) :
    moves.extract start i = m :: moves.extract (start + 1) i := by
  have hlength : i - start = i - (start + 1) + 1 := by omega
  rw [List.extract_eq_take_drop, List.extract_eq_take_drop, hlength, drop_eq_cons hm,
    List.take_succ_cons]

theorem length_extract_le (moves : List Move) (start i : Nat) :
    (moves.extract start i).length ≤ i - start := by
  rw [List.extract_eq_take_drop, List.length_take]
  exact Nat.min_le_left _ _

/-- A move further the number is right again, if it changes as the move says. -/
theorem OpenLoops.next {depth depth' : Nat} (h : OpenLoops moves start i depth)
    (hm : moves[i]? = some m) (hpos : 1 ≤ depth')
    (hcount : [m].count .loopStart + depth = [m].count .loopEnd + depth') :
    OpenLoops moves start (i + 1) depth' := by
  have hcounted := h.counted
  have hnext : (moves.extract start (i + 1)).count .loopStart
      = (moves.extract start (i + 1)).count .loopEnd + depth' := by
    rw [extract_succ (Nat.le_of_lt h.above) hm, List.count_append, List.count_append]
    omega
  refine ⟨Nat.lt_succ_of_lt h.above, (List.getElem?_eq_some_iff.mp hm).1, hpos, hnext, ?_⟩
  intro k hlow hhigh
  rcases Nat.lt_or_eq_of_le hhigh with hlt | rfl
  · exact h.enclosed k hlow (Nat.le_of_lt_succ hlt)
  · omega

/-- While some loop is open, the moves from the marker on are not balanced. -/
theorem OpenLoops.not_isBalanced {depth k : Nat} (h : OpenLoops moves start i depth)
    (hlow : start < k) (hhigh : k < i) : ¬ IsBalanced (moves.extract start (k + 1)) := by
  have hless := h.enclosed (k + 1) (by omega) (by omega)
  rw [IsBalanced]
  omega

/-- Where a scan ends, seen from one place further on. -/
theorem ScanEnds.later {place : Option Nat} (h : ScanEnds moves start (i + 1) place) :
    ScanEnds moves start i (place.map (· + 1)) := by
  cases place with
  | none => exact h
  | some n =>
      have hplace : i + 1 + n = i + (n + 1) := by omega
      simp only [ScanEnds, hplace] at h
      exact h

/-- A loop has one end only. -/
theorem IsPartner.unique {e e' : Nat} (h : IsPartner moves start e)
    (h' : IsPartner moves start e') : e = e' := by
  rcases Nat.lt_trichotomy e e' with hlt | heq | hgt
  · exact absurd h.balanced (h'.least e h.above hlt)
  · exact heq
  · exact absurd h'.balanced (h.least e' h'.above hgt)

end Slices

section Partner

variable {moves : List Move} {start : Nat} (hstart : moves[start]? = some .loopStart)
include hstart

/-- At its first step a scan has one loop open. -/
theorem openLoops_succ : OpenLoops moves start (start + 1) 1 := by
  have hslice : moves.extract start (start + 1) = [.loopStart] := by
    rw [extract_succ (Nat.le_refl start) hstart, List.extract_eq_take_drop, Nat.sub_self]
    rfl
  refine ⟨Nat.lt_succ_self start, (List.getElem?_eq_some_iff.mp hstart).1, Nat.le_refl 1, ?_, ?_⟩
  · rw [hslice]
    rfl
  · intro k hlow hhigh
    obtain rfl : k = start + 1 := by omega
    rw [hslice]
    decide

/-- The search has yet to begin, or its count is right. -/
theorem Scans.counted {i depth : Nat} (h : Scans moves start i depth) :
    (i = start ∧ depth = 0) ∨ OpenLoops moves start i depth := by
  -- at the start the marker opens the first loop, and from there on each move keeps the count
  induction h with
  | here => exact Or.inl ⟨rfl, rfl⟩
  | opening _ hm ih =>
      rcases ih with ⟨rfl, rfl⟩ | hopen
      · exact Or.inr (openLoops_succ hstart)
      · refine Or.inr (hopen.next hm (Nat.le_add_left 1 _) ?_)
        show 1 + _ = 0 + _
        omega
  | closing _ hm hmore ih =>
      rcases ih with ⟨rfl, rfl⟩ | hopen
      · exact absurd rfl hmore
      · refine Or.inr (hopen.next hm (Nat.pos_of_ne_zero hmore) ?_)
        have hpos := hopen.pos
        show 0 + _ = 1 + _
        omega
  | @other i depth m _ hm hplain ih =>
      rcases ih with ⟨rfl, rfl⟩ | hopen
      · rw [hstart] at hm
        obtain rfl := Option.some.inj hm
        cases hplain
      · refine Or.inr (hopen.next hm hopen.pos ?_)
        cases m with
        | loopStart => cases hplain
        | loopEnd => cases hplain
        | forward => rfl
        | left => rfl
        | right => rfl

/-- Where the search comes to a closing marker some loop is open. -/
theorem Scans.openLoops {i depth : Nat} (h : Scans moves start i depth)
    (hm : moves[i]? = some .loopEnd) : OpenLoops moves start i depth := by
  rcases h.counted hstart with ⟨rfl, rfl⟩ | hopen
  · rw [hstart] at hm
    cases hm
  · exact hopen

section Last

variable {e depth : Nat} (h : Scans moves start e depth) (hm : moves[e]? = some .loopEnd)
  (hlast : depth - 1 = 0)
include h hm hlast

/-- Where the search ends the marker has its partner. -/
theorem Scans.isPartner : IsPartner moves start e := by
  have hopen := h.openLoops hstart hm
  refine ⟨hopen.above, (List.getElem?_eq_some_iff.mp hm).1, ?_,
    fun k hlow hhigh => hopen.not_isBalanced hlow hhigh⟩
  have hcounted := hopen.counted
  have hpos := hopen.pos
  rw [IsBalanced, extract_succ (Nat.le_of_lt hopen.above) hm, List.count_append,
    List.count_append]
  show _ + 1 = _ + 0
  omega

/-- Between a marker and its partner the loops are nested. -/
theorem Scans.isNested : IsNested (moves.extract (start + 1) e) := by
  have hopen := h.openLoops hstart hm
  have hcounted := hopen.counted
  have hpos := hopen.pos
  rw [extract_eq_cons hopen.above hstart, List.count_cons_self,
    List.count_cons_of_ne (by decide)] at hcounted
  refine ⟨?_, fun n => ?_⟩
  · rw [IsBalanced]
    omega
  · by_cases hshort : start + 1 + n ≤ e
    · have hslice : (moves.extract (start + 1) e).take n
          = moves.extract (start + 1) (start + 1 + n) := by
        rw [List.extract_eq_take_drop, List.extract_eq_take_drop, List.take_take]
        congr 1
        omega
      have hless := hopen.enclosed (start + 1 + n) (by omega) hshort
      rw [extract_eq_cons (by omega) hstart, List.count_cons_self,
        List.count_cons_of_ne (by decide)] at hless
      rw [hslice]
      omega
    · -- all of the slice is taken
      have hlength := length_extract_le moves (start + 1) e
      rw [List.take_of_length_le (by omega)]
      omega

end Last

/-- A scan does not leave the program. -/
theorem Scans.le_length {i depth : Nat} (h : Scans moves start i depth) : i ≤ moves.length := by
  rcases h.counted hstart with ⟨rfl, -⟩ | hopen
  · exact Nat.le_of_lt (List.getElem?_eq_some_iff.mp hstart).1
  · exact hopen.inside

/-- What `closing?` finds is where the search ends. -/
theorem Scans.ends {i depth : Nat} (h : Scans moves start i depth) :
    ScanEnds moves start i (closing? depth (moves.drop i)) := by
  generalize hrest : moves.drop i = rest
  induction rest generalizing i depth with
  | nil =>
      have hlength : moves.length ≤ i := List.drop_eq_nil_iff.mp hrest
      obtain rfl := Nat.le_antisymm (h.le_length hstart) hlength
      exact ⟨depth, h⟩
  | cons m rest ih =>
      have hm : moves[i]? = some m := by
        rw [← List.head?_drop, hrest]
        rfl
      have hnext : moves.drop (i + 1) = rest := by
        rw [← List.tail_drop, hrest]
        rfl
      cases m with
      | loopStart => exact (ih (h.opening hm) hnext).later
      | loopEnd =>
          rw [closing?]
          by_cases hdepth : depth ≤ 1
          · rw [if_pos hdepth]
            exact ⟨depth, h, hm, by omega⟩
          · rw [if_neg hdepth]
            exact (ih (h.closing hm (by omega)) hnext).later
      | forward => exact (ih (h.other hm rfl) hnext).later
      | left => exact (ih (h.other hm rfl) hnext).later
      | right => exact (ih (h.other hm rfl) hnext).later

/-- The partner is looked for behind the marker, with one loop open. -/
theorem loopEnd?_eq :
    loopEnd? moves start = (closing? 1 (moves.drop (start + 1))).map (start + 1 + ·) := by
  rw [loopEnd?, drop_eq_cons hstart]

theorem scanEnds_succ :
    ScanEnds moves start (start + 1) (closing? 1 (moves.drop (start + 1))) :=
  (Scans.here.opening hstart).ends hstart

theorem scans_of_loopEnd? {e : Nat} (h : loopEnd? moves start = some e) :
    ∃ depth, Scans moves start e depth ∧ moves[e]? = some .loopEnd ∧ depth - 1 = 0 := by
  have hends := scanEnds_succ hstart
  rw [loopEnd?_eq hstart] at h
  obtain ⟨n, hn, rfl⟩ := Option.map_eq_some_iff.mp h
  rw [hn] at hends
  exact hends

/-- A search that comes to the end of the list has found no place where the moves are balanced. -/
theorem not_isBalanced_of_none (h : loopEnd? moves start = none) {e : Nat} (hlow : start < e)
    (hhigh : e < moves.length) : ¬ IsBalanced (moves.extract start (e + 1)) := by
  have hends := scanEnds_succ hstart
  rw [loopEnd?_eq hstart] at h
  rw [Option.map_eq_none_iff.mp h] at hends
  obtain ⟨depth, hscans⟩ := hends
  rcases hscans.counted hstart with ⟨hsame, -⟩ | hopen
  · omega
  · exact hopen.not_isBalanced hlow hhigh

/-- The end that is found is the partner, and the partner is found. -/
theorem loopEnd?_eq_some_iff {e : Nat} :
    loopEnd? moves start = some e ↔ IsPartner moves start e := by
  constructor
  · intro h
    obtain ⟨depth, hscans, hm, hlast⟩ := scans_of_loopEnd? hstart h
    exact hscans.isPartner hstart hm hlast
  · intro h
    cases hfound : loopEnd? moves start with
    | none => exact absurd h.balanced (not_isBalanced_of_none hstart hfound h.above h.inside)
    | some e' =>
        obtain ⟨depth, hscans, hm, hlast⟩ := scans_of_loopEnd? hstart hfound
        rw [(hscans.isPartner hstart hm hlast).unique h]

/-- No end is found where no stretch of the program is balanced. -/
theorem loopEnd?_eq_none_iff : loopEnd? moves start = none
    ↔ ∀ e, start < e → e < moves.length → ¬ IsBalanced (moves.extract start (e + 1)) := by
  constructor
  · intro h e hlow hhigh
    exact not_isBalanced_of_none hstart h hlow hhigh
  · intro h
    rw [Option.eq_none_iff_forall_ne_some]
    intro e he
    have hpartner := (loopEnd?_eq_some_iff hstart).mp he
    exact h e hpartner.above hpartner.inside hpartner.balanced

end Partner

end Move

/-! ## Calls — how deep a run nests -/

namespace Robot

/-- Executes a list of moves from an index on.  The body of a loop, and what follows a move, are
    executed by calls of their own, which may be nested as deep as a bound. -/
def runWithin (g : Grid) : Nat → Robot → List Move → Nat → Option Progress
  | 0, _, _, _ => none
  | bound + 1, r, moves, i =>
      match moves[i]? with
      | none => some (.moving r)
      | some .loopStart =>
          match Move.loopEnd? moves i with
          | some e =>
              match runWithin g bound r (moves.extract (i + 1) e) 0 with
              | some (.moving r) => runWithin g bound r moves (e + 1)
              | stopped => stopped
          | none => runWithin g bound r moves (i + 1)
      | some m =>
          match r.step g m with
          | .moving r => runWithin g bound r moves (i + 1)
          | .blocked r target => some (.blocked r target)

section Places

variable {g : Grid} {r : Robot} {moves : List Move} {i : Nat}

/-- From a marker with a partner on, a robot runs what lies between them, then what follows. -/
theorem run_drop_of_some {e : Nat} (hm : moves[i]? = some .loopStart)
    (he : Move.loopEnd? moves i = some e) :
    r.run g (moves.drop i) =
      match r.run g (moves.extract (i + 1) e) with
      | .moving r => r.run g (moves.drop (e + 1))
      | .blocked r target => .blocked r target := by
  rw [Move.loopEnd?_eq hm] at he
  obtain ⟨n, hn, rfl⟩ := Option.map_eq_some_iff.mp he
  have hbody : moves.extract (i + 1) (i + 1 + n) = (moves.drop (i + 1)).take n := by
    rw [List.extract_eq_take_drop, Nat.add_sub_cancel_left]
  have hrest : moves.drop (i + 1 + n + 1) = (moves.drop (i + 1)).drop (n + 1) := by
    rw [List.drop_drop, Nat.add_assoc (i + 1)]
  rewrite [Move.drop_eq_cons hm, run_loopStart g r hn, hbody, hrest]
  rfl

/-- A marker without a partner is passed over. -/
theorem run_drop_of_none (hm : moves[i]? = some .loopStart) (he : Move.loopEnd? moves i = none) :
    r.run g (moves.drop i) = r.run g (moves.drop (i + 1)) := by
  rw [Move.loopEnd?_eq hm] at he
  rewrite [Move.drop_eq_cons hm, run, Option.map_eq_none_iff.mp he]
  rfl

/-- Any other move is made, and unless it is blocked the moves behind it. -/
theorem run_drop_of_ne {m : Move} (hm : moves[i]? = some m) (hne : m ≠ .loopStart) :
    r.run g (moves.drop i) =
      match r.step g m with
      | .moving r => r.run g (moves.drop (i + 1))
      | .blocked r target => .blocked r target := by
  rewrite [Move.drop_eq_cons hm, run]
  · rfl
  · exact hne

/-- A move that begins no loop is one step. -/
theorem runWithin_succ_of_ne {bound : Nat} {m : Move} (hm : moves[i]? = some m)
    (hne : m ≠ .loopStart) :
    r.runWithin g (bound + 1) moves i =
      match r.step g m with
      | .moving r => r.runWithin g bound moves (i + 1)
      | .blocked r target => some (.blocked r target) := by
  cases m with
  | loopStart => exact absurd rfl hne
  | loopEnd => simp only [runWithin, hm]
  | forward => simp only [runWithin, hm]
  | left => simp only [runWithin, hm]
  | right => simp only [runWithin, hm]

end Places

/-- Calls that may nest deeper than there are moves left come to the end of the run. -/
theorem runWithin_eq (g : Grid) {bound : Nat} (r : Robot) {moves : List Move} {i : Nat}
    (hbound : moves.length - i < bound) :
    r.runWithin g bound moves i = some (r.run g (moves.drop i)) := by
  -- every call within is made for fewer moves: those of a body, or those further on
  induction bound generalizing r moves i with
  | zero => omega
  | succ bound ih =>
      cases hm : moves[i]? with
      | none =>
          simp only [runWithin, hm]
          rw [List.drop_eq_nil_of_le (List.getElem?_eq_none_iff.mp hm), run]
      | some m =>
          have hlt : i < moves.length := (List.getElem?_eq_some_iff.mp hm).1
          have hnext : moves.length - (i + 1) < bound := by omega
          by_cases hstart : m = .loopStart
          · subst hstart
            cases he : Move.loopEnd? moves i with
            | none =>
                simp only [runWithin, hm, he]
                rw [run_drop_of_none hm he]
                exact ih r hnext
            | some e =>
                have hpartner := (Move.loopEnd?_eq_some_iff hm).mp he
                have habove := hpartner.above
                have hinside := hpartner.inside
                have hlength := Move.length_extract_le moves (i + 1) e
                have hbody : (moves.extract (i + 1) e).length - 0 < bound := by omega
                simp only [runWithin, hm, he, ih r hbody, List.drop_zero]
                rw [run_drop_of_some hm he]
                cases r.run g (moves.extract (i + 1) e) with
                | moving r => exact ih r (by omega)
                | blocked r target => rfl
          · rw [run_drop_of_ne hm hstart, runWithin_succ_of_ne hm hstart]
            cases r.step g m with
            | moving r => exact ih r hnext
            | blocked r target => rfl

end Robot

namespace Move

/-- The partner of an opening marker is the first place up to which as many loops are closed as
    opened, if there is one.  The search for it ends there; it comes to no closing marker while no
    loop is open.  What lies between the two is nested and shorter than the program, and the calls
    of any run nest no deeper than the program is long. -/
theorem partner_found (moves : List Move) :
    (∀ start, moves[start]? = some .loopStart →
      (∀ e, loopEnd? moves start = some e ↔ IsPartner moves start e)
        ∧ (loopEnd? moves start = none
          ↔ ∀ e, start < e → e < moves.length → ¬ IsBalanced (moves.extract start (e + 1)))
        ∧ (∀ e, loopEnd? moves start = some e
          ↔ ∃ depth, Scans moves start e depth ∧ moves[e]? = some .loopEnd ∧ depth - 1 = 0)
        ∧ (∀ i depth, Scans moves start i depth → moves[i]? = some .loopEnd → 1 ≤ depth)
        ∧ ∀ e, loopEnd? moves start = some e →
          IsNested (moves.extract (start + 1) e)
            ∧ (moves.extract (start + 1) e).length < moves.length)
      ∧ ∀ (g : Grid) (r : Robot),
        r.runWithin g (moves.length + 1) moves 0 = some (r.run g moves) := by
  constructor
  · intro start hstart
    refine ⟨fun e => loopEnd?_eq_some_iff hstart, loopEnd?_eq_none_iff hstart, fun e => ?_,
      fun i depth hscans hm => (hscans.openLoops hstart hm).pos, fun e he => ?_⟩
    · refine ⟨scans_of_loopEnd? hstart, ?_⟩
      rintro ⟨depth, hscans, hm, hlast⟩
      exact (loopEnd?_eq_some_iff hstart).mpr (hscans.isPartner hstart hm hlast)
    · obtain ⟨depth, hscans, hm, hlast⟩ := scans_of_loopEnd? hstart he
      have hinside := (hscans.isPartner hstart hm hlast).inside
      have hlength := length_extract_le moves (start + 1) e
      exact ⟨hscans.isNested hstart hm hlast, by omega⟩
  · intro g r
    exact Robot.runWithin_eq g r (Nat.lt_succ_self _)

/-- An inner loop with its partner, and an outer one that has none. -/
theorem partner_found_nestedLoops :
    nestedLoops[2]? = some .loopStart ∧ loopEnd? nestedLoops 2 = some 9
      ∧ IsPartner nestedLoops 2 9 ∧ IsNested (nestedLoops.extract 3 9)
      ∧ (∀ i depth, Scans nestedLoops 2 i depth → nestedLoops[i]? = some .loopEnd → 1 ≤ depth)
      ∧ nestedLoops[1]? = some .loopStart ∧ loopEnd? nestedLoops 1 = none
      ∧ ∀ e, 1 < e → e < nestedLoops.length → ¬ IsBalanced (nestedLoops.extract 1 (e + 1)) := by
  have hinner : nestedLoops[2]? = some .loopStart := rfl
  have houter : nestedLoops[1]? = some .loopStart := rfl
  have hfound : loopEnd? nestedLoops 2 = some 9 := rfl
  have hnone : loopEnd? nestedLoops 1 = none := rfl
  obtain ⟨hpartner, -, -, hopen, hbody⟩ := (partner_found nestedLoops).1 2 hinner
  obtain ⟨-, hlone, -⟩ := (partner_found nestedLoops).1 1 houter
  exact ⟨hinner, hfound, (hpartner 9).mp hfound, (hbody 9 hfound).1, hopen, houter, hnone,
    hlone.mp hnone⟩

end Move

end RobotMaze
