import Mathlib.Data.Finset.Card
import Mathlib.Data.List.TakeWhile
import RobotMaze.Proofs.Grid.Cells
import RobotMaze.Proofs.Robot.Loops

/-! # Walks — a run judged by where the robot stood

    A `Pose` is a cell and a heading.  Moves take a pose to another whether or
    not the cell ahead is path, so the walk of a program is known without
    running it; the robot's route is the part of it up to the first cell off
    the path.  The route of the proof:

    * `Robot.Follows` ties a robot under way to the moves it has made; one
      move keeps it or is a blocked step ahead (`step_follows`);
    * a whole program keeps it up to its end or to a blocked step
      (`foldl_next_ends`);
    * cells are visited without repetition and lie on the path, so counting
      them says whether any is left. -/

namespace RobotMaze

/-- How a robot stands: its cell and its heading. -/
structure Pose where
  position : Position
  heading : Heading
  deriving DecidableEq, Repr

namespace Pose

/-- The pose after a move if nothing is in the way. -/
def after (p : Pose) : Move → Pose
  | .forward => ⟨p.position.step p.heading, p.heading⟩
  | .left => ⟨p.position, p.heading.turnLeft⟩
  | .right => ⟨p.position, p.heading.turnRight⟩
  | .loopStart => p
  | .loopEnd => p

/-- The pose after a list of moves if nothing is in the way. -/
def finish (p : Pose) (moves : List Move) : Pose := moves.foldl after p

/-- The poses of a list of moves if nothing is in the way, the first one included. -/
def walk (p : Pose) : List Move → List Pose
  | [] => [p]
  | m :: rest => p :: (p.after m).walk rest

/-- Whether a pose is on the path. -/
def onPath (g : Grid) (p : Pose) : Bool := g.isPath p.position.x p.position.y

/-- The poses that a program takes a robot through before anything is in its way. -/
def route (g : Grid) (p : Pose) (moves : List Move) : List Pose :=
  (p.walk (Move.unmarked moves)).takeWhile (onPath g)

/-- After some moves that can all be made the step ahead cannot. -/
def BlockedAfter (g : Grid) (p : Pose) (before : List Move) : Prop :=
  (∀ q ∈ p.walk before, q.onPath g = true) ∧ ((p.finish before).after .forward).onPath g = false

/-- A program has a step ahead that is blocked, and these are its moves before that. -/
def StopsAfter (g : Grid) (p : Pose) (moves before : List Move) : Prop :=
  ∃ rest, Move.unmarked moves = before ++ .forward :: rest ∧ p.BlockedAfter g before

theorem walk_append_cons (p : Pose) (before : List Move) (m : Move) (rest : List Move) :
    p.walk (before ++ m :: rest) = p.walk before ++ ((p.finish before).after m).walk rest := by
  induction before generalizing p with
  | nil => rfl
  | cons k before ih =>
      show p :: (p.after k).walk (before ++ m :: rest)
        = p :: ((p.after k).walk before ++ (((p.after k).finish before).after m).walk rest)
      rw [ih]

theorem finish_append (p : Pose) (before rest : List Move) :
    p.finish (before ++ rest) = (p.finish before).finish rest :=
  List.foldl_append

/-- One more move adds one more pose. -/
theorem walk_snoc (p : Pose) (before : List Move) (m : Move) :
    p.walk (before ++ [m]) = p.walk before ++ [p.finish (before ++ [m])] := by
  rw [walk_append_cons, finish_append]
  rfl

/-- A walk ends with the pose after all moves. -/
theorem getLast?_walk (p : Pose) (moves : List Move) :
    (p.walk moves).getLast? = some (p.finish moves) := by
  induction moves using List.reverseRecOn with
  | nil => rfl
  | append_singleton before m _ => rw [walk_snoc, List.getLast?_concat]

theorem finish_mem_walk (p : Pose) (moves : List Move) : p.finish moves ∈ p.walk moves :=
  List.mem_of_getLast? (getLast?_walk p moves)

theorem length_walk (p : Pose) (moves : List Move) : (p.walk moves).length = moves.length + 1 := by
  induction moves generalizing p with
  | nil => rfl
  | cons m rest ih => exact congrArg Nat.succ (ih (p.after m))

/-- A robot that is never blocked goes the whole walk. -/
theorem route_of_onPath {g : Grid} {p : Pose} {moves : List Move}
    (h : ∀ q ∈ p.walk (Move.unmarked moves), q.onPath g = true) :
    p.route g moves = p.walk (Move.unmarked moves) :=
  List.takeWhile_eq_self_iff.mpr h

/-- The route of a robot that is stopped ends before the blocked step. -/
theorem route_of_stopsAfter {g : Grid} {p : Pose} {moves before : List Move}
    (h : p.StopsAfter g moves before) : p.route g moves = p.walk before := by
  obtain ⟨rest, hmoves, hpath, hahead⟩ := h
  simp only [route]
  rw [hmoves, walk_append_cons, List.takeWhile_append_of_pos hpath]
  -- the first pose after the blocked step is off the path
  have hstop : ((((p.finish before).after .forward).walk rest).takeWhile (onPath g)) = [] := by
    cases rest <;> simp [walk, hahead]
  rw [hstop, List.append_nil]

/-- A program is stopped in one place only. -/
theorem not_stopsAfter_of_onPath {g : Grid} {p : Pose} {moves : List Move}
    (h : ∀ q ∈ p.walk (Move.unmarked moves), q.onPath g = true) (before : List Move) :
    ¬ p.StopsAfter g moves before := by
  rintro ⟨rest, hmoves, -, hahead⟩
  rw [hmoves, walk_append_cons] at h
  have hmem : (p.finish before).after .forward ∈ ((p.finish before).after .forward).walk rest := by
    cases rest <;> simp [walk]
  have hon := h _ (List.mem_append_right _ hmem)
  rw [hahead] at hon
  cases hon

end Pose

/-! ## A robot on its walk -/

/-- A robot under way has made these moves: it stands where they lead, counted them, and knows
    the cells on the way, each once. -/
structure Robot.Follows (g : Grid) (start : Pose) (done : List Move) (r : Robot) : Prop where
  pose_eq : (⟨r.position, r.heading⟩ : Pose) = start.finish done
  onPath : ∀ q ∈ start.walk done, q.onPath g = true
  executed_eq : r.executed = done.length
  nodup_visited : r.visited.Nodup
  mem_visited : ∀ p, p ∈ r.visited ↔ p ∈ (start.walk done).map Pose.position

/-- How a program ends: with all moves made, or at a step ahead that is blocked. -/
inductive Robot.Ends (g : Grid) (start : Pose) (moves : List Move) : Progress → Prop where
  | whole {r : Robot} (follows : r.Follows g start moves) : Ends g start moves (.moving r)
  | short {before rest : List Move} {r : Robot} (split : moves = before ++ .forward :: rest)
      (follows : r.Follows g start before)
      (ahead : ((start.finish before).after .forward).onPath g = false) :
      Ends g start moves
        (.blocked { r with executed := r.executed + 1 } (r.position.step r.heading))

namespace Robot

theorem mem_visit {visited : List Position} {p q : Position} :
    p ∈ visit visited q ↔ p ∈ visited ∨ p = q := by
  simp only [visit]
  split
  · rename_i hq
    have hmem : q ∈ visited := List.contains_iff_mem.mp hq
    constructor
    · exact Or.inl
    · rintro (hp | rfl)
      · exact hp
      · exact hmem
  · rw [List.mem_append, List.mem_singleton]

theorem nodup_visit {visited : List Position} {q : Position} (h : visited.Nodup) :
    (visit visited q).Nodup := by
  simp only [visit]
  split
  · exact h
  · rename_i hq
    have hmem : q ∉ visited := fun hin => hq (List.contains_iff_mem.mpr hin)
    exact List.nodup_append.mpr ⟨h, List.nodup_singleton q, by
      intro a ha b hb hab
      rw [List.mem_singleton.mp hb] at hab
      exact hmem (hab ▸ ha)⟩

variable {g : Grid} {start : Pose} {done : List Move} {r : Robot}

/-- Before its first move a robot follows the empty list. -/
theorem start_follows (h : start.onPath g = true) :
    (Robot.start start.position start.heading).Follows g start [] where
  pose_eq := rfl
  onPath := by
    intro q hq
    rw [List.mem_singleton.mp hq]
    exact h
  executed_eq := rfl
  nodup_visited := List.nodup_singleton _
  mem_visited := fun _ => Iff.rfl

/-- A turn keeps a robot on its walk. -/
theorem Follows.turn (hf : r.Follows g start done) {m : Move} {heading : Heading}
    (hpose : (⟨r.position, heading⟩ : Pose) = (start.finish done).after m) :
    ({ r with executed := r.executed + 1, heading := heading } : Robot).Follows g start
      (done ++ [m]) := by
  have hfinish : start.finish (done ++ [m]) = ⟨r.position, heading⟩ := by
    rw [Pose.finish_append, hpose]
    rfl
  -- a turn adds a pose but no cell, for the robot already stands on this one
  have hhere : r.position ∈ (start.walk done).map Pose.position := by
    refine List.mem_map.mpr ⟨_, Pose.finish_mem_walk start done, ?_⟩
    rw [← hf.pose_eq]
  refine ⟨hfinish.symm, ?_, ?_, hf.nodup_visited, ?_⟩
  · intro q hq
    rw [Pose.walk_snoc, hfinish] at hq
    rcases List.mem_append.mp hq with hq | hq
    · exact hf.onPath q hq
    · rw [List.mem_singleton.mp hq]
      have hstand := hf.onPath _ (Pose.finish_mem_walk start done)
      rw [← hf.pose_eq] at hstand
      exact hstand
  · rw [List.length_append, ← hf.executed_eq]
    rfl
  · intro p
    rw [Pose.walk_snoc, hfinish, List.map_append, List.mem_append, hf.mem_visited]
    constructor
    · exact Or.inl
    · rintro (hp | hp)
      · exact hp
      · rw [List.mem_singleton.mp hp]
        exact hhere

/-- A step ahead onto the path keeps a robot on its walk. -/
theorem Follows.forward (hf : r.Follows g start done)
    (hahead : ((start.finish done).after .forward).onPath g = true) :
    ({ r with
        executed := r.executed + 1
        position := r.position.step r.heading
        visited := visit r.visited (r.position.step r.heading) } : Robot).Follows g start
      (done ++ [.forward]) := by
  have hfinish : start.finish (done ++ [.forward]) = ⟨r.position.step r.heading, r.heading⟩ := by
    rw [Pose.finish_append, ← hf.pose_eq]
    rfl
  refine ⟨hfinish.symm, ?_, ?_, nodup_visit hf.nodup_visited, ?_⟩
  · intro q hq
    rw [Pose.walk_snoc, Pose.finish_append] at hq
    rcases List.mem_append.mp hq with hq | hq
    · exact hf.onPath q hq
    · rw [List.mem_singleton.mp hq]
      exact hahead
  · rw [List.length_append, ← hf.executed_eq]
    rfl
  · intro p
    rw [mem_visit, hf.mem_visited, Pose.walk_snoc, hfinish, List.map_append, List.mem_append]
    exact or_congr Iff.rfl List.mem_singleton.symm

/-- One move keeps a robot on its walk, unless it is a step ahead that is blocked. -/
theorem step_follows (hf : r.Follows g start done) {m : Move} (hm : m.isMarker = false) :
    (∃ r', r.step g m = .moving r' ∧ r'.Follows g start (done ++ [m]))
      ∨ (m = .forward ∧ ((start.finish done).after .forward).onPath g = false
        ∧ r.step g m = .blocked { r with executed := r.executed + 1 }
            (r.position.step r.heading)) := by
  have hpose := hf.pose_eq
  cases m with
  | forward =>
      have htarget : ((start.finish done).after .forward).onPath g
          = g.isPath (r.position.step r.heading).x (r.position.step r.heading).y := by
        rw [← hpose]
        rfl
      cases hahead : ((start.finish done).after .forward).onPath g with
      | true =>
          refine Or.inl ⟨_, ?_, hf.forward hahead⟩
          rw [htarget] at hahead
          exact if_pos hahead
      | false =>
          refine Or.inr ⟨rfl, rfl, ?_⟩
          rw [htarget] at hahead
          exact if_neg (by rw [hahead]; exact Bool.false_ne_true)
  | left => exact Or.inl ⟨_, rfl, hf.turn (by rw [← hpose]; rfl)⟩
  | right => exact Or.inl ⟨_, rfl, hf.turn (by rw [← hpose]; rfl)⟩
  | loopStart => cases hm
  | loopEnd => cases hm

/-- A robot makes the moves of a program up to its end or to a step that is blocked. -/
theorem foldl_next_ends (hf : r.Follows g start done) {moves : List Move}
    (hmoves : ∀ m ∈ moves, m.isMarker = false) :
    Ends g start (done ++ moves) (moves.foldl (Progress.next g) (.moving r)) := by
  -- by induction on the moves to come; the moves made grow by one at each step
  induction moves generalizing r done with
  | nil =>
      rw [List.append_nil]
      exact .whole hf
  | cons m rest ih =>
      have hrest : ∀ k ∈ rest, k.isMarker = false :=
        fun k hk => hmoves k (List.mem_cons_of_mem m hk)
      rw [List.foldl_cons]
      show Ends g start (done ++ m :: rest) (rest.foldl (Progress.next g) (r.step g m))
      rcases step_follows hf (hmoves m List.mem_cons_self) with
        ⟨r', hstep, hf'⟩ | ⟨rfl, hahead, hstep⟩
      · rw [hstep, List.append_cons]
        exact ih hf' hrest
      · rw [hstep, Progress.foldl_next_blocked]
        exact .short rfl hf hahead

/-- A program is run to its end or to a step that is blocked. -/
theorem run_ends (h : start.onPath g = true) (moves : List Move) :
    Ends g start (Move.unmarked moves)
      ((Robot.start start.position start.heading).run g moves) := by
  rw [run_eq_foldl_unmarked]
  have hmoves : ∀ m ∈ Move.unmarked moves, m.isMarker = false :=
    fun _ hm => Move.isMarker_of_mem_unmarked hm
  exact foldl_next_ends (start_follows h) hmoves

/-- The cells a robot knows are those of the poses on its way. -/
theorem Follows.toFinset_visited (hf : r.Follows g start done) :
    ((start.walk done).map Pose.position).toFinset = r.visited.toFinset := by
  ext p
  rw [List.mem_toFinset, List.mem_toFinset, hf.mem_visited]

/-- A robot knows path cells only. -/
theorem Follows.isPath_of_mem (hf : r.Follows g start done) :
    ∀ p ∈ r.visited, g.isPath p.x p.y = true := by
  intro p hp
  obtain ⟨q, hq, rfl⟩ := List.mem_map.mp ((hf.mem_visited p).mp hp)
  exact hf.onPath q hq

/-- A robot knows as many different cells as lie on its way. -/
theorem Follows.length_visited (hf : r.Follows g start done) :
    r.visited.length = ((start.walk done).map Pose.position).toFinset.card := by
  rw [hf.toFinset_visited, List.toFinset_card_of_nodup hf.nodup_visited]

/-- A robot stands on the path. -/
theorem Follows.isPath_position (hf : r.Follows g start done) :
    g.isPath r.position.x r.position.y = true := by
  have hstand := hf.onPath _ (Pose.finish_mem_walk start done)
  rw [← hf.pose_eq] at hstand
  exact hstand

/-- A robot has visited as many cells as the grid has if and only if it has visited them all. -/
theorem Follows.pathCount_le_iff (hf : r.Follows g start done) :
    g.pathCount ≤ r.visited.length
      ↔ ∀ p : Position, g.isPath p.x p.y = true → p ∈ (start.walk done).map Pose.position := by
  rw [Grid.pathCount_le_length_iff hf.nodup_visited hf.isPath_of_mem]
  exact forall₂_congr fun p _ => hf.mem_visited p

end Robot

/-! ## Truthful reports -/

/-- A report says of a program what the poses on its route say. -/
structure Outcome.Truthful (g : Grid) (start : Pose) (moves : List Move) (o : Outcome) :
    Prop where
  /-- The final pose is the last one on the route. -/
  route_getLast : (start.route g moves).getLast? = some ⟨o.position, o.heading⟩
  isPath_position : g.isPath o.position.x o.position.y = true
  cellsVisited_eq : o.cellsVisited = ((start.route g moves).map Pose.position).toFinset.card
  cellsVisited_le : o.cellsVisited ≤ o.totalCells
  totalCells_eq : o.totalCells = g.pathCells.toFinset.card
  success_iff : o.status = .success ↔ (∀ before, ¬ start.StopsAfter g moves before)
    ∧ ∀ p : Position, g.isPath p.x p.y = true → p ∈ (start.route g moves).map Pose.position
  incomplete_iff : o.status = .incomplete ↔ (∀ before, ¬ start.StopsAfter g moves before)
    ∧ ∃ p : Position, g.isPath p.x p.y = true ∧ p ∉ (start.route g moves).map Pose.position
  failed_iff : o.status = .failed ↔ ∃ before, start.StopsAfter g moves before
  errorPosition_iff : o.errorPosition.isSome = true ↔ o.status = .failed
  errorMessage_iff : o.errorMessage.isSome = true ↔ o.status = .failed
  errorPosition_ahead : ∀ p, o.errorPosition = some p →
    p = o.position.step o.heading ∧ g.isPath p.x p.y = false
  /-- A program that is not stopped counts all its moves but the markers. -/
  movesExecuted_eq : o.status ≠ .failed → o.movesExecuted = (Move.unmarked moves).length
  /-- One that is stopped counts up to the blocked step, which it includes. -/
  movesExecuted_of_stopsAfter : ∀ before, start.StopsAfter g moves before →
    o.movesExecuted = before.length + 1

/-- A robot that made all its moves has not failed. -/
theorem Progress.status_outcome_moving (g : Grid) (r : Robot) :
    ((Progress.moving r).outcome g).status ≠ .failed := by
  show (if g.pathCount ≤ r.visited.length then RunStatus.success else .incomplete) ≠ .failed
  split <;> simp

/-- The report on a robot that made all its moves is truthful. -/
theorem Robot.Follows.truthful {g : Grid} {start : Pose} {moves : List Move} {r : Robot}
    (hf : r.Follows g start (Move.unmarked moves)) :
    ((Progress.moving r).outcome g).Truthful g start moves := by
  have hroute := Pose.route_of_onPath hf.onPath
  have hfree := Pose.not_stopsAfter_of_onPath hf.onPath
  -- the count of the cells that decides the state says whether any is left
  have hall := hf.pathCount_le_iff
  have hnot := Progress.status_outcome_moving g r
  refine ⟨?_, hf.isPath_position, ?_, ?_, ?_, ?_, ?_, ?_, ?_, ?_, ?_, fun _ => hf.executed_eq, ?_⟩
  · rw [hroute, Pose.getLast?_walk, ← hf.pose_eq]
    rfl
  · rw [hroute]
    exact hf.length_visited
  · exact Grid.length_le_pathCount hf.nodup_visited hf.isPath_of_mem
  · rw [List.toFinset_card_of_nodup (Grid.nodup_pathCells g), Grid.length_pathCells]
    rfl
  · rw [hroute, ← hall]
    simp [Progress.outcome, hfree]
  · rw [hroute]
    have hleft : (∃ p : Position, g.isPath p.x p.y = true
        ∧ p ∉ (start.walk (Move.unmarked moves)).map Pose.position)
          ↔ ¬ g.pathCount ≤ r.visited.length := by
      rw [hall]
      push Not
      rfl
    rw [hleft]
    simp [Progress.outcome, hfree]
  · constructor
    · intro hfailed
      exact absurd hfailed hnot
    · rintro ⟨before, hstop⟩
      exact absurd hstop (hfree before)
  · constructor
    · intro hsome
      cases hsome
    · exact fun h => absurd h hnot
  · constructor
    · intro hsome
      cases hsome
    · exact fun h => absurd h hnot
  · intro p hp
    cases hp
  · intro before hstop
    exact absurd hstop (hfree before)

/-- The report on a robot that was stopped is truthful. -/
theorem Robot.Follows.truthful_blocked {g : Grid} {start : Pose} {moves before : List Move}
    {r : Robot} (hf : r.Follows g start before) (hstop : start.StopsAfter g moves before) :
    ((Progress.blocked { r with executed := r.executed + 1 }
      (r.position.step r.heading)).outcome g).Truthful g start moves := by
  have hroute := Pose.route_of_stopsAfter hstop
  refine ⟨?_, hf.isPath_position, ?_, ?_, ?_, ?_, ?_, ?_, ?_, ?_, ?_, ?_, ?_⟩
  · rw [hroute, Pose.getLast?_walk, ← hf.pose_eq]
    rfl
  · rw [hroute]
    exact hf.length_visited
  · exact Grid.length_le_pathCount hf.nodup_visited hf.isPath_of_mem
  · rw [List.toFinset_card_of_nodup (Grid.nodup_pathCells g), Grid.length_pathCells]
    rfl
  · constructor
    · intro hstatus
      cases hstatus
    · exact fun h => absurd hstop (h.1 before)
  · constructor
    · intro hstatus
      cases hstatus
    · exact fun h => absurd hstop (h.1 before)
  · exact ⟨fun _ => ⟨before, hstop⟩, fun _ => rfl⟩
  · exact ⟨fun _ => rfl, fun _ => rfl⟩
  · exact ⟨fun _ => rfl, fun _ => rfl⟩
  · intro p hp
    obtain rfl : r.position.step r.heading = p := Option.some.inj hp
    obtain ⟨-, -, -, hahead⟩ := hstop
    rw [← hf.pose_eq] at hahead
    exact ⟨rfl, hahead⟩
  · exact fun h => absurd rfl h
  · intro before' hstop'
    -- both lists of moves have the length of the route, less the first pose
    have hlength : (start.walk before').length = (start.walk before).length := by
      rw [← hroute, Pose.route_of_stopsAfter hstop']
    rw [Pose.length_walk, Pose.length_walk] at hlength
    show r.executed + 1 = before'.length + 1
    rw [hf.executed_eq]
    omega

/-- A program that is not too long and starts on the path is scored truthfully. -/
theorem simulate_truthful (g : Grid) (start : Pose) (moves : List Move)
    (hlength : moves.length ≤ 200)
    (hstart : g.isPath start.position.x start.position.y = true) :
    ∃ o, simulate g start.position start.heading moves = .ok o ∧ o.Truthful g start moves := by
  refine ⟨((Robot.start start.position start.heading).run g moves).outcome g, ?_, ?_⟩
  · rw [simulate_of_length_le hlength, if_pos hstart]
  · have hends := Robot.run_ends hstart moves
    generalize (Robot.start start.position start.heading).run g moves = p at hends
    cases hends with
    | whole hf => exact hf.truthful
    | short hsplit hf hahead => exact hf.truthful_blocked ⟨_, hsplit, hf.onPath, hahead⟩

/-- In the corridor the second step from the fourth cell leaves the path. -/
theorem simulate_truthful_corridor :
    [Move.forward, .loopStart, .forward, .left].length ≤ 200
      ∧ Grid.corridor.isPath 3 0 = true
      ∧ ∃ o, simulate Grid.corridor ⟨3, 0⟩ .east [.forward, .loopStart, .forward, .left] = .ok o
        ∧ o.Truthful Grid.corridor ⟨⟨3, 0⟩, .east⟩ [.forward, .loopStart, .forward, .left] :=
  ⟨by decide, by decide, simulate_truthful Grid.corridor ⟨⟨3, 0⟩, .east⟩
    [.forward, .loopStart, .forward, .left] (by decide) (by decide)⟩

end RobotMaze
