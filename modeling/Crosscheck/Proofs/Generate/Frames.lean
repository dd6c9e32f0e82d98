/-
**The frames of a suspended walk hold all that is still to come.**

A frame holds what is visited from its program on, without the program once it was visited and
without the choices that were tried. Whatever the walk does leaves what its frames hold together as
it is: a longer program takes its part over from the frame below, a frame is taken off when it holds
nothing any more. Only a visit takes a program off, and it is the first one. So the walk visits the
programs that it has to, in order.

* `Frame.untried`: the extensions that are left to try, and `Frame.untried_extend?`, the next one;
* `Frame.holds`, `Walk.ahead`: what is still to be visited from a frame and by a walk;
* `Walk.ahead_arrive`, `Walk.ahead_visit`: going on loses nothing, and a visit takes off the first;
* `Walk.Arrives`: a walk at a program on its way, and `Walk.mem_visited_iff_arrives`, which programs
  these are;
* `Walk.pending`, `Walk.next_pending`: what the walk is still to stop at, and that it stops at the
  first of it;
* `Walk.pending_start`: from its start the walk comes to all programs.
-/
import Crosscheck.Generate.Walk
import Crosscheck.Proofs.Generate.Preorder

namespace Crosscheck

namespace Space

variable {space : Space} {choice : Nat}

theorem length_tokens (space : Space) : space.tokens.length = space.choices := by
  simp [tokens, choices]

/-- The choices are the steps there are, in order. -/
theorem drop_tokens (below : choice < space.choices) :
    space.tokens.drop choice = space.tokenOf choice :: space.tokens.drop (choice + 1) := by
  have within : choice < space.tokens.length := by rwa [length_tokens]
  rw [List.drop_eq_getElem_cons within]
  congr 1
  simp only [tokens, List.getElem_append, List.length_map, List.length_range, List.getElem_map,
    List.getElem_range, tokenOf]
  split <;> rfl

theorem drop_tokens_choices (space : Space) : space.tokens.drop space.choices = [] := by
  rw [← length_tokens, List.drop_length]

theorem tokenOf_mem (below : choice < space.choices) : space.tokenOf choice ∈ space.tokens :=
  List.mem_of_mem_drop (drop_tokens below ▸ List.mem_cons_self)

end Space

/-! ### One frame -/

namespace Frame

variable {space : Space} {steps : List Token} {frame child later : Frame} {token : Token}

/-- The program of a frame, when these are its steps, last step first. -/
def node (frame : Frame) (steps : List Token) : Node :=
  ⟨steps, frame.depth, frame.operators, frame.atoms⟩

/-- A frame of a longer program is that of the program with one more step. -/
theorem map_child? (member : token ∈ space.tokens) (frame : Frame) (steps : List Token) :
    (frame.child? space token).map (·.node (token :: steps)) =
      (frame.node steps).step? space token := by
  cases token with
  | atom index =>
    have below : index < space.atoms.length := by simpa [Space.tokens] using member
    by_cases room : frame.atoms < space.maxAtoms <;>
      simp [child?, Node.step?, node, fresh, Node.withAtom, room, below]
  | operator index =>
    have below : index < space.arities.length := by
      simpa [Space.tokens, Space.arities] using member
    by_cases room : frame.operators < space.maxOperators
    · by_cases enough : space.arities[index] ≤ frame.depth <;>
        simp [child?, Node.step?, node, fresh, Node.withOperator, room, below, enough]
    · simp [child?, Node.step?, node, room]

/-- The extensions of the program by the choices that were not tried. -/
def untried (space : Space) (frame : Frame) (steps : List Token) : List Node :=
  (space.tokens.drop frame.nextChoice).filterMap ((frame.node steps).step? space)

/-- **The next choice that is possible** gives the first extension that was not tried, and the
frame that is left has the others to try. -/
theorem untried_extend? (space : Space) (frame : Frame) (steps : List Token) :
    match frame.extend? space with
    | some (token, child, later) => later.visited = frame.visited ∧
        frame.untried space steps = child.node (token :: steps) :: later.untried space steps
    | none => frame.untried space steps = [] := by
  fun_induction extend? space frame with
  | case1 frame below token later child longer =>
    have step := map_child? (Space.tokenOf_mem below) frame steps
    rw [show frame.child? space (space.tokenOf frame.nextChoice) = some child from longer,
      Option.map_some] at step
    refine ⟨rfl, ?_⟩
    rw [untried, Space.drop_tokens below, List.filterMap_cons_some step.symm]
    rfl
  | case2 frame below token later impossible hypothesis =>
    have step := map_child? (Space.tokenOf_mem below) frame steps
    rw [show frame.child? space (space.tokenOf frame.nextChoice) = none from impossible,
      Option.map_none] at step
    have same : frame.untried space steps = later.untried space steps := by
      rw [untried, Space.drop_tokens below, List.filterMap_cons_none step.symm]
      rfl
    rw [same]
    exact hypothesis
  | case3 frame tried =>
    rw [untried, List.drop_eq_nil_of_le]
    · rfl
    · rw [Space.length_tokens]
      exact Nat.le_of_not_lt tried

/-- What is still to be visited from a frame on: the program unless it was visited, and what is
visited from an extension on that was not tried, if there is to be any. -/
def holds (space : Space) (frame : Frame) (steps : List Token) : List Node :=
  (if frame.visited then [] else [frame.node steps]) ++
    if !frame.visited ∧ frame.isHopeless space then []
    else (frame.untried space steps).flatMap (Walk.visited space)

/-- A program that was not visited is to be visited with all that follows. -/
theorem holds_fresh (space : Space) (unvisited : frame.visited = false)
    (first : frame.nextChoice = 0) (steps : List Token) :
    frame.holds space steps = Walk.visited space (frame.node steps) := by
  rw [Walk.visited_eq, holds, unvisited, Node.children, untried, first, List.drop_zero]
  simp only [Bool.not_false, true_and, Bool.false_eq_true, if_false, List.cons_append,
    List.nil_append]
  congr 1
  show (if frame.isHopeless space = true then _ else _) =
    (if frame.isHopeless space = true then _ else _ : List Node).flatMap _
  split <;> rfl

/-- **A visit** takes the program off what its frame holds, and nothing else. -/
theorem holds_visit (space : Space) (unvisited : frame.visited = false) (steps : List Token) :
    frame.holds space steps = frame.node steps :: (frame.visit space).holds space steps := by
  unfold holds
  rw [unvisited]
  simp only [Bool.not_false, true_and, Bool.false_eq_true, if_false, List.cons_append,
    List.nil_append]
  congr 1
  show _ = ((space.tokens.drop
    (if frame.isHopeless space then space.choices else frame.nextChoice)).filterMap
      ((frame.node steps).step? space)).flatMap (Walk.visited space)
  split
  · rw [Space.drop_tokens_choices]
    rfl
  · rfl

/-- **A choice that is possible** moves a part of what a frame holds to the frame of the longer
program. -/
theorem holds_of_extend? (visited : frame.visited = true)
    (extended : frame.extend? space = some (token, child, later)) (steps : List Token) :
    frame.holds space steps =
      child.holds space (token :: steps) ++ later.holds space steps := by
  have next := untried_extend? space frame steps
  rw [extended] at next
  obtain ⟨same, untried⟩ := next
  obtain ⟨fresh, first, -⟩ := of_extend? extended
  rw [holds_fresh space fresh first]
  unfold holds
  rw [untried, same, visited]
  simp [List.flatMap_cons]

/-- A frame whose choices were all tried holds nothing. -/
theorem holds_of_extend?_none (visited : frame.visited = true)
    (tried : frame.extend? space = none) (steps : List Token) :
    frame.holds space steps = [] := by
  have none := untried_extend? space frame steps
  rw [tried] at none
  simp [holds, visited, none]

end Frame

/-! ### All frames -/

namespace Walk

variable {space : Space} {walk : Walk} {steps : List Token} {frame : Frame} {frames : List Frame}
  {node : Node}

/-- What the frames of a program hold, each below the longer ones. -/
def aheadFrom (space : Space) : List Token → List Frame → List Node
  | _, [] => []
  | steps, frame :: frames => frame.holds space steps ++ aheadFrom space steps.tail frames

/-- The programs that are still to be visited, in order. -/
def ahead (space : Space) (walk : Walk) : List Node := aheadFrom space walk.steps walk.frames

/-- **Going on to the next program loses nothing.** -/
theorem ahead_arrive (space : Space) (walk : Walk) :
    ahead space (walk.arrive space) = ahead space walk := by
  show ahead space (arriveFrom space walk.steps walk.frames) = _
  unfold ahead
  fun_induction arriveFrom space walk.steps walk.frames with
  | case1 => rfl
  | case2 steps frame frames visited token child later extended =>
    simp only [aheadFrom, List.tail_cons, ← List.append_assoc]
    rw [Frame.holds_of_extend? visited extended]
  | case3 steps frame frames visited tried hypothesis =>
    rw [hypothesis, aheadFrom, Frame.holds_of_extend?_none visited tried, List.nil_append]
  | case4 => rfl

/-- **A visit takes off the first program.** -/
theorem ahead_visit (space : Space) (unvisited : frame.visited = false) :
    ahead space ⟨steps, frame :: frames⟩ =
      frame.node steps :: ahead space ⟨steps, frame.visit space :: frames⟩ := by
  simp only [ahead, aheadFrom, Frame.holds_visit space unvisited, List.cons_append]

/-- **From its start the walk has all programs ahead.** -/
theorem ahead_start (space : Space) : ahead space start = visited space .empty := by
  simp only [ahead, aheadFrom, start, List.append_nil]
  exact Frame.holds_fresh space rfl rfl []

/-! ### What is visited -/

/-- **A walk on its way**, at a program that it is about to visit, or at its end. -/
inductive Arrives (space : Space) : Walk → Prop
  | first : Arrives space start
  | onwards {steps : List Token} {frame : Frame} {frames : List Frame}
      (arrives : Arrives space ⟨steps, frame :: frames⟩) :
      Arrives space (Walk.arrive space ⟨steps, frame.visit space :: frames⟩)

theorem Arrives.unvisited (arrives : Arrives space walk) :
    ∀ frame ∈ walk.frames.head?, frame.visited = false := by
  cases arrives with
  | first => simp [start, Frame.fresh]
  | onwards => exact (of_arriveFrom space _ _).1

/-- What a walk on its way has ahead is the end of what it visits. -/
theorem Arrives.ahead_suffix (arrives : Arrives space walk) :
    ahead space walk <:+ visited space .empty := by
  induction arrives with
  | first => exact ahead_start space ▸ List.suffix_rfl
  | onwards arrives hypothesis =>
    rw [ahead_visit space (arrives.unvisited _ rfl)] at hypothesis
    rw [ahead_arrive]
    exact (List.suffix_cons _ _).trans hypothesis

/-- A walk on its way arrives at all that it has ahead. -/
theorem Arrives.of_mem_ahead (arrives : Arrives space walk) (member : node ∈ ahead space walk) :
    ∃ frame frames, Arrives space ⟨node.steps, frame :: frames⟩ ∧
      frame.node node.steps = node := by
  induction weight : walk.weight space using Nat.strongRecOn generalizing walk with
  | _ weight hypothesis =>
    obtain ⟨steps, _ | ⟨frame, frames⟩⟩ := walk
    · cases member
    · have unvisited := arrives.unvisited frame rfl
      rw [ahead_visit space unvisited] at member
      rcases List.mem_cons.mp member with rfl | member
      · exact ⟨frame, frames, arrives, rfl⟩
      · rw [← ahead_arrive] at member
        have less := Nat.lt_of_le_of_lt (weight_arrive_le space _)
          (weight_visit_lt unvisited steps frames)
        exact hypothesis _ (weight ▸ less) arrives.onwards member rfl

/-- **What the walk visits** are the programs that it arrives at. -/
theorem mem_visited_iff_arrives : node ∈ visited space .empty ↔
    ∃ frame frames, Arrives space ⟨node.steps, frame :: frames⟩ ∧
      frame.node node.steps = node := by
  constructor
  · intro member
    rw [← ahead_start] at member
    exact Arrives.first.of_mem_ahead member
  · rintro ⟨frame, frames, arrives, same⟩
    refine arrives.ahead_suffix.subset ?_
    rw [ahead_visit space (arrives.unvisited _ rfl), same]
    exact List.mem_cons_self

/-! ### Where the walk stops -/

/-- The programs that the walk is still to stop at, in order. -/
def pending (space : Space) (walk : Walk) : List Program := found (ahead space walk)

/-- **The walk comes to the first program that is pending**, and leaves the others; without one it
has no frame left. -/
theorem next_pending (space : Space) (walk : Walk) :
    match next space walk with
    | (some program, after) => pending space walk = program :: pending space after
    | (none, after) => pending space walk = [] ∧ after.frames = [] := by
  fun_induction next space walk with
  | case1 walk steps here =>
    refine ⟨?_, rfl⟩
    rw [pending, ← ahead_arrive, here]
    rfl
  | case2 walk steps frame frames here after single =>
    rw [pending, ← ahead_arrive, here, ahead_visit space (visited_of_arrive here), found_cons,
      if_pos (show (frame.node steps).depth = 1 from single)]
    rfl
  | case3 walk steps frame frames here after other hypothesis =>
    have same : pending space walk = pending space after := by
      rw [pending, ← ahead_arrive, here, ahead_visit space (visited_of_arrive here), found_cons,
        if_neg (show (frame.node steps).depth ≠ 1 from other)]
      rfl
    rw [same]
    exact hypothesis

/-- Without a frame the walk is at its end. -/
theorem next_last {walk : Walk} (last : walk.frames = []) (space : Space) :
    next space walk = (none, walk) := by
  obtain ⟨steps, frames⟩ := walk
  obtain rfl : frames = [] := last
  rw [next]
  rfl

theorem pending_last {walk : Walk} (last : walk.frames = []) (space : Space) :
    pending space walk = [] := by
  rw [pending, ahead, last]
  rfl

/-- **From its start the walk comes to all programs.** -/
theorem pending_start (space : Space) : pending space start = space.programs := by
  rw [pending, ahead_start]
  rfl

end Walk

end Crosscheck
