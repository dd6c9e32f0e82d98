/-
**Patterns that can match the empty string.**

Whether a pattern can match the empty string may depend on where, since it may look around. Where
the least length of a match is known and not 0, it cannot. Where it is not known, it may well.

* `Pattern.CanBeEmpty`: patterns that can match the empty string at a position;
* `Pattern.CanBeEmpty.minLength_eq`: the least length of their matches, if it is known;
* `Reading.Onward`: readings that go on, or are empty where they may be;
* `Pattern.matches_self_iff`: a pattern can be empty exactly where it has an empty match;
* `Pattern.onward_shape`: a path through the fragment of a pattern goes on, or is empty where the
  pattern can be.
-/
import Crosscheck.Proofs.Automaton.Paths

namespace Crosscheck

namespace Pattern

variable {haystack : Array UInt8} {position : Nat}

mutual

/-- A pattern can match the empty string at a position of a haystack. -/
def CanBeEmpty (haystack : Array UInt8) (position : Nat) : Pattern → Prop
  | empty => True
  | literal bytes => bytes = []
  | byteClass _ | charClass _ | wideLook _ => False
  | look assertion => assertion.holds haystack position = true
  | repetition min _ _ body => min = 0 ∨ CanBeEmpty haystack position body
  | group _ body => CanBeEmpty haystack position body
  | concat parts => AllCanBeEmpty haystack position parts
  | alternation branches => AnyCanBeEmpty haystack position branches

/-- All parts can match the empty string at a position. -/
def AllCanBeEmpty (haystack : Array UInt8) (position : Nat) : List Pattern → Prop
  | [] => True
  | part :: rest => CanBeEmpty haystack position part ∧ AllCanBeEmpty haystack position rest

/-- Some branch can match the empty string at a position. -/
def AnyCanBeEmpty (haystack : Array UInt8) (position : Nat) : List Pattern → Prop
  | [] => False
  | branch :: rest => CanBeEmpty haystack position branch ∨ AnyCanBeEmpty haystack position rest

end

mutual

/-- **The least length of a match of a pattern that can be empty is 0**, if it is known. -/
theorem CanBeEmpty.minLength_eq : (pattern : Pattern) → pattern.CanBeEmpty haystack position →
    ∀ length ∈ pattern.minLength, length = 0
  | .empty, _, _, known => (Option.some.inj known).symm
  | .literal _, nothing, _, known => by
    rw [CanBeEmpty] at nothing
    rw [nothing] at known
    exact (Option.some.inj known).symm
  | .look _, _, _, known => (Option.some.inj known).symm
  | .repetition min max greedy body, either, _, known => by
    obtain ⟨length, inner, rfl⟩ := Option.map_eq_some_iff.mp known
    rcases either with none | inside
    · rw [none, Nat.mul_zero]
    · rw [CanBeEmpty.minLength_eq body inside length inner, Nat.zero_mul]
  | .group _ body, inside, _, known => CanBeEmpty.minLength_eq body inside _ known
  | .concat parts, all, _, known => AllCanBeEmpty.minLength_eq parts all _ known
  | .alternation branches, any, _, known => AnyCanBeEmpty.minLength_eq branches any _ known

theorem AllCanBeEmpty.minLength_eq : (parts : List Pattern) →
    AllCanBeEmpty haystack position parts → ∀ length ∈ minLengthSum parts, length = 0
  | [], _, _, known => (Option.some.inj known).symm
  | part :: rest, ⟨first, others⟩, _, known => by
    simp only [minLengthSum, bind, pure, Option.mem_def, Option.bind_eq_some_iff] at known
    obtain ⟨length, knownFirst, length', knownOthers, same⟩ := known
    rw [← Option.some.inj same, CanBeEmpty.minLength_eq part first length knownFirst,
      AllCanBeEmpty.minLength_eq rest others length' knownOthers]

theorem AnyCanBeEmpty.minLength_eq : (branches : List Pattern) →
    AnyCanBeEmpty haystack position branches → ∀ length ∈ minLengthLeast branches, length = 0
  | [branch], any, _, known => by
    rw [minLengthLeast] at known
    exact CanBeEmpty.minLength_eq branch (any.resolve_right id) _ known
  | one :: other :: rest, any, _, known => by
    rw [minLengthLeast] at known
    swap
    · exact List.cons_ne_nil other rest
    simp only [bind, pure, Option.mem_def, Option.bind_eq_some_iff] at known
    obtain ⟨length, knownFirst, length', knownOthers, same⟩ := known
    rw [← Option.some.inj same]
    rcases any with first | others
    · rw [CanBeEmpty.minLength_eq one first length knownFirst, Nat.zero_min]
    · rw [AnyCanBeEmpty.minLength_eq (other :: rest) others length' knownOthers, Nat.min_zero]

end

end Pattern

/-! ### Readings that go on -/

namespace Reading

/-- A reading goes on, or is empty where it may be. -/
def Onward (reading : Reading) (empty : Nat → Prop) : Prop :=
  ∀ start stop, reading start stop → start ≤ stop ∧ (start = stop → empty start)

variable {reading reading' : Reading} {empty empty' : Nat → Prop}

theorem Onward.mono (onward : reading.Onward empty) (more : ∀ position, empty position →
    empty' position) : reading.Onward empty' :=
  fun start stop read => (onward start stop read).imp_right fun allowed same =>
    more start (allowed same)

theorem onward_stay : stay.Onward fun _ => True :=
  fun _ _ same => ⟨Nat.le_of_eq same, fun _ => trivial⟩

theorem onward_never : Reading.Onward (fun _ _ => False) empty := fun _ _ never => never.elim

/-- One reading behind the other is empty where both are. -/
theorem Onward.followedBy (first : reading.Onward empty) (second : reading'.Onward empty') :
    (reading.followedBy reading').Onward fun position => empty position ∧ empty' position := by
  rintro start stop ⟨middle, early, late⟩
  obtain ⟨before, allowed⟩ := first start middle early
  obtain ⟨after, allowed'⟩ := second middle stop late
  refine ⟨Nat.le_trans before after, fun same => ?_⟩
  obtain rfl : start = middle := by omega
  exact ⟨allowed rfl, allowed' same⟩

theorem Onward.times (onward : reading.Onward empty) (count : Nat) :
    (reading.times count).Onward fun position => count = 0 ∨ empty position := by
  induction count with
  | zero => exact onward_stay.mono fun _ _ => .inl rfl
  | succ count hypothesis => exact (onward.followedBy hypothesis).mono fun _ both => .inr both.1

/-- Repeated readings are empty when there may be none, or where each of them is. -/
theorem Onward.between (onward : reading.Onward empty) (min : Nat) (max : Option Nat) :
    (reading.between min max).Onward fun position => min = 0 ∨ empty position := by
  rintro start stop ⟨count, enough, -, read⟩
  refine (onward.times count start stop read).imp_right fun allowed same => ?_
  refine (allowed same).imp_left fun none => ?_
  omega

/-- An empty reading can be repeated. -/
theorem times_self {position : Nat} (count : Nat) (read : reading position position) :
    reading.times count position position := by
  induction count with
  | zero => rfl
  | succ count hypothesis => exact ⟨position, read, hypothesis⟩

theorem onward_spells {haystack : Array UInt8} (bytes : Bytes) :
    Reading.Onward (Pattern.Spells haystack bytes) fun _ => bytes = [] := by
  rintro start stop ⟨rfl, -⟩
  refine ⟨Nat.le_add_right _ _, fun same => List.eq_nil_of_length_eq_zero ?_⟩
  omega

theorem onward_isAmong {haystack : Array UInt8} (set : RangeSet) :
    Reading.Onward (Pattern.IsAmong haystack set) empty := by
  rintro start stop ⟨rfl, -⟩
  exact ⟨Nat.le_succ _, fun same => absurd same (Nat.succ_ne_self start).symm⟩

end Reading

/-! ### Empty matches -/

namespace Pattern

section Matches

variable {haystack : Array UInt8} {position : Nat}

mutual

/-- A match goes on, or is empty where the pattern can be. -/
theorem onward_matches : (pattern : Pattern) →
    (pattern.Matches haystack).Onward fun position => pattern.CanBeEmpty haystack position
  | .empty => Reading.onward_stay
  | .literal bytes => Reading.onward_spells bytes
  | .byteClass set | .charClass set => Reading.onward_isAmong set
  | .look _ => fun _ _ ⟨here, holds⟩ => ⟨Nat.le_of_eq here, fun _ => holds⟩
  | .wideLook _ => Reading.onward_never
  | .repetition min max _ body => (onward_matches body).between min max
  | .group _ body => onward_matches body
  | .concat parts => onward_matchesAll parts
  | .alternation branches => onward_matchesAny branches

theorem onward_matchesAll : (parts : List Pattern) →
    (MatchesAll haystack parts).Onward fun position => AllCanBeEmpty haystack position parts
  | [] => Reading.onward_stay
  | part :: rest => (onward_matches part).followedBy (onward_matchesAll rest)

theorem onward_matchesAny : (branches : List Pattern) →
    (MatchesAny haystack branches).Onward fun position => AnyCanBeEmpty haystack position branches
  | [] => Reading.onward_never
  | branch :: rest => by
    rintro start stop (one | other)
    · exact (onward_matches branch start stop one).imp_right fun allowed same =>
        .inl (allowed same)
    · exact (onward_matchesAny rest start stop other).imp_right fun allowed same =>
        .inr (allowed same)

end

mutual

/-- A pattern that can be empty has an empty match. -/
theorem CanBeEmpty.matches : (pattern : Pattern) → pattern.Ordered →
    pattern.CanBeEmpty haystack position → pattern.Matches haystack position position
  | .empty, _, _ => rfl
  | .literal bytes, _, nothing => by
    rw [CanBeEmpty] at nothing
    rw [Matches, nothing, spells_nil]
    rfl
  | .look _, _, holds => ⟨rfl, holds⟩
  | .repetition min max _ body, ordered, either => by
    obtain ⟨bounds, inner⟩ := ordered.repetition
    refine ⟨min, Nat.le_refl _, bounds, ?_⟩
    rcases either with rfl | inside
    · rfl
    · exact Reading.times_self min (CanBeEmpty.matches body inner inside)
  | .group _ body, ordered, inside => CanBeEmpty.matches body ordered.group.2 inside
  | .concat parts, ordered, all => AllCanBeEmpty.matches parts ordered.concat all
  | .alternation branches, ordered, any => AnyCanBeEmpty.matches branches ordered.alternation any

theorem AllCanBeEmpty.matches : (parts : List Pattern) → (∀ part ∈ parts, part.Ordered) →
    AllCanBeEmpty haystack position parts → MatchesAll haystack parts position position
  | [], _, _ => rfl
  | part :: rest, ordered, ⟨first, others⟩ => by
    obtain ⟨inner, ordered⟩ := List.forall_mem_cons.mp ordered
    exact ⟨position, CanBeEmpty.matches part inner first,
      AllCanBeEmpty.matches rest ordered others⟩

theorem AnyCanBeEmpty.matches : (branches : List Pattern) →
    (∀ branch ∈ branches, branch.Ordered) → AnyCanBeEmpty haystack position branches →
    MatchesAny haystack branches position position
  | branch :: rest, ordered, any => by
    obtain ⟨inner, ordered⟩ := List.forall_mem_cons.mp ordered
    exact any.imp (CanBeEmpty.matches branch inner) (AnyCanBeEmpty.matches rest ordered)

end

/-- **A pattern can be empty exactly where it has an empty match.** -/
theorem matches_self_iff {pattern : Pattern} (ordered : pattern.Ordered) :
    pattern.Matches haystack position position ↔ pattern.CanBeEmpty haystack position :=
  ⟨fun matched => (onward_matches pattern position position matched).2 rfl,
    CanBeEmpty.matches pattern ordered⟩

end Matches

end Pattern

/-! ### Paths that go on -/

/-- Paths through fragments of a shape go on, or are empty where they may be. -/
def Shape.Onward (automaton : Automaton) (haystack : Array UInt8) (shape : Shape)
    (empty : Nat → Prop) : Prop :=
  ∃ reading, shape.Reads automaton haystack reading ∧ reading.Onward empty

namespace Pattern

variable {automaton : Automaton} {haystack : Array UInt8}

/-- Repetitions go on when their bodies do. -/
theorem onward_repetition {shape : Shape} {empty : Nat → Prop}
    (onward : shape.Onward automaton haystack empty) (rule : LoopRule) (minLength : Option Nat)
    (greedy : Bool) (min : Nat) (max : Option Nat) :
    (shape.repetition greedy rule minLength min max).Onward automaton haystack
      fun position => min = 0 ∨ empty position := by
  obtain ⟨reading, reads, onward⟩ := onward
  cases max with
  | none => exact ⟨_, Shape.reads_atLeast greedy reads rule minLength min, onward.between min none⟩
  | some max =>
    rw [Shape.repetition]
    split
    · next bounds =>
      rw [bounds.1]
      exact ⟨_, Shape.reads_optional greedy reads, onward.between 0 (some 1)⟩
    · split
      · exact ⟨_, Shape.reads_exactly reads min, onward.times min⟩
      · refine ⟨_, Shape.reads_boundedCopies greedy reads min max, ?_⟩
        exact ((onward.times min).followedBy (onward.between 0 _)).mono fun _ both => both.1

mutual

/-- **A path through the fragment of a pattern goes on**, or it is empty where the pattern can be,
even if the bounds of repetitions are out of order. -/
theorem onward_shape (rule : LoopRule) : (pattern : Pattern) →
    (pattern.shape rule).Onward automaton haystack fun position =>
      pattern.CanBeEmpty haystack position
  | .empty => ⟨_, Shape.reads_goto, Reading.onward_stay⟩
  | .literal bytes => ⟨_, Shape.reads_literal bytes, Reading.onward_spells bytes⟩
  | .byteClass set | .charClass set => ⟨_, Shape.reads_class set, Reading.onward_isAmong set⟩
  | .look assertion =>
    ⟨_, Shape.reads_single (fun _ => rfl) fun _ => rfl, fun _ _ ⟨here, holds⟩ =>
      ⟨Nat.le_of_eq here, fun _ => holds⟩⟩
  | .wideLook _ => ⟨_, Shape.reads_fail, Reading.onward_never⟩
  | .repetition min max greedy body => by
    rw [Pattern.shape]
    exact onward_repetition (onward_shape rule body) rule body.minLength greedy min max
  | .group index body => by
    obtain ⟨reading, reads, onward⟩ := onward_shape rule body
    exact ⟨_, Shape.reads_group reads index, onward⟩
  | .concat [] => ⟨_, Shape.reads_goto, Reading.onward_stay⟩
  | .concat (part :: rest) => onward_partsShape rule rest (onward_shape rule part)
  | .alternation [] => ⟨_, Shape.reads_fail, Reading.onward_never⟩
  | .alternation [branch] => by
    obtain ⟨reading, reads, onward⟩ := onward_shape rule branch
    exact ⟨reading, reads, onward.mono fun _ => .inl⟩
  | .alternation (one :: other :: rest) => by
    obtain ⟨readings, reads, onward⟩ := onward_branchShapes rule (one :: other :: rest)
    have reads := (Shape.reads_branching reads).followedBy Shape.reads_goto
    rw [Reading.followedBy_stay] at reads
    refine ⟨_, reads, fun start stop ⟨reading, member, read⟩ => ?_⟩
    exact onward reading member start stop read

theorem onward_partsShape (rule : LoopRule) : (parts : List Pattern) → {whole : Shape} →
    {empty : Nat → Prop} → whole.Onward automaton haystack empty →
    (partsShape rule whole parts).Onward automaton haystack fun position =>
      empty position ∧ AllCanBeEmpty haystack position parts
  | [], _, _, ⟨reading, reads, onward⟩ => ⟨reading, reads, onward.mono fun _ => (⟨·, trivial⟩)⟩
  | part :: rest, _, _, ⟨reading, reads, onward⟩ => by
    obtain ⟨reading', reads', onward'⟩ := onward_shape rule part
    obtain ⟨reading'', reads'', onward''⟩ :=
      onward_partsShape rule rest ⟨_, reads.followedBy reads', onward.followedBy onward'⟩
    exact ⟨reading'', reads'', onward''.mono fun _ ⟨⟨first, next⟩, others⟩ =>
      ⟨first, next, others⟩⟩

theorem onward_branchShapes (rule : LoopRule) : (branches : List Pattern) →
    ∃ readings, List.Forall₂ (Shape.Reads automaton haystack) (branchShapes rule branches)
        readings ∧
      ∀ reading ∈ readings, Reading.Onward reading fun position =>
        AnyCanBeEmpty haystack position branches
  | [] => ⟨[], .nil, fun _ member => (List.not_mem_nil member).elim⟩
  | branch :: rest => by
    obtain ⟨reading, reads, onward⟩ := onward_shape rule branch
    obtain ⟨readings, others, onwards⟩ := onward_branchShapes rule rest
    refine ⟨reading :: readings, .cons reads others, List.forall_mem_cons.mpr ⟨?_, ?_⟩⟩
    · exact onward.mono fun _ => .inl
    · exact fun other member => (onwards other member).mono fun _ => .inr

end

end Pattern

end Crosscheck
