/-
**What patterns match.**

A pattern matches a haystack from one position to another. This says nothing of which match is
preferred, nor of what is captured.

* `Pattern.Matches`: from where to where a pattern matches;
* `Pattern.groups`: the indices of the groups of a pattern;
* `Pattern.Everywhere`, `Pattern.Ordered`: patterns whose repetitions have their bounds in order;
* `Pattern.Matches.inside`: a match stays inside the haystack.
-/
import Crosscheck.Pattern
import Mathlib.Logic.Relation

namespace Crosscheck

/-- A relation between the start and the end of a match. -/
abbrev Reading := Nat → Nat → Prop

namespace Reading

/-- The positions are the same. -/
def stay : Reading := fun start stop => start = stop

/-- One reading behind the other. -/
def followedBy (one other : Reading) : Reading := Relation.Comp one other

/-- A reading, a given number of times. -/
def times (reading : Reading) : Nat → Reading
  | 0 => stay
  | count + 1 => reading.followedBy (reading.times count)

/-- A reading, at least and at most some number of times. -/
def between (reading : Reading) (min : Nat) (max : Option Nat) : Reading := fun start stop =>
  ∃ count, min ≤ count ∧ (∀ most ∈ max, count ≤ most) ∧ reading.times count start stop

variable {reading one other : Reading} {start stop : Nat}

theorem stay_followedBy : stay.followedBy reading = reading := by
  funext start stop
  exact propext ⟨fun ⟨_, same, rest⟩ => same ▸ rest, fun read => ⟨start, rfl, read⟩⟩

theorem followedBy_stay : reading.followedBy stay = reading := by
  funext start stop
  exact propext ⟨fun ⟨_, read, same⟩ => same ▸ read, fun read => ⟨stop, read, rfl⟩⟩

theorem followedBy_assoc (first second third : Reading) :
    (first.followedBy second).followedBy third = first.followedBy (second.followedBy third) :=
  Relation.comp_assoc

theorem times_one : reading.times 1 = reading := followedBy_stay

theorem times_add (reading : Reading) (first second : Nat) :
    reading.times (first + second) = (reading.times first).followedBy (reading.times second) := by
  induction first with
  | zero => rw [Nat.zero_add, times, stay_followedBy]
  | succ first hypothesis =>
    rw [Nat.add_right_comm, times, hypothesis, times, followedBy_assoc]

theorem times_succ_right (reading : Reading) (count : Nat) :
    reading.times (count + 1) = (reading.times count).followedBy reading := by
  rw [times_add, times_one]

theorem between_zero_zero : reading.between 0 (some 0) = stay := by
  funext start stop
  refine propext ⟨?_, fun same => ⟨0, Nat.le_refl _, by simp, same⟩⟩
  rintro ⟨count, -, most, read⟩
  obtain rfl : count = 0 := Nat.le_zero.mp (most 0 rfl)
  exact read

/-- Up to one more reading is none, or one before the others. -/
theorem between_zero_succ {most : Nat} : reading.between 0 (some (most + 1)) start stop ↔
    start = stop ∨ reading.followedBy (reading.between 0 (some most)) start stop := by
  constructor
  · rintro ⟨count, -, bound, read⟩
    cases count with
    | zero => exact .inl read
    | succ count =>
      obtain ⟨middle, once, more⟩ := read
      refine .inr ⟨middle, once, count, Nat.zero_le _, fun most' same => ?_, more⟩
      have := bound (most + 1) rfl
      have := Option.some.inj same
      omega
  · rintro (rfl | ⟨middle, once, count, -, bound, more⟩)
    · exact ⟨0, Nat.le_refl _, fun _ _ => Nat.zero_le _, rfl⟩
    · refine ⟨count + 1, Nat.zero_le _, fun most' same => ?_, middle, once, more⟩
      have := bound most rfl
      have := Option.some.inj same
      omega

/-- As many readings as there must be, and then as many as there may be. -/
theorem times_followedBy_between (reading : Reading) {least : Nat} {max : Option Nat} (more : Nat)
    (within : ∀ most ∈ max, least ≤ most) :
    (reading.times least).followedBy (reading.between more (max.map (· - least))) =
      reading.between (least + more) max := by
  funext start stop
  refine propext ⟨?_, ?_⟩
  · rintro ⟨middle, first, count, enough, bound, second⟩
    refine ⟨least + count, by omega, fun most same => ?_, ?_⟩
    · have := within most same
      have := bound (most - least) (Option.map_eq_some_iff.mpr ⟨most, same, rfl⟩)
      omega
    · rw [times_add]
      exact ⟨middle, first, second⟩
  · rintro ⟨count, enough, bound, read⟩
    obtain ⟨rest, rfl⟩ := Nat.exists_eq_add_of_le (Nat.le_of_add_right_le enough)
    rw [times_add] at read
    obtain ⟨middle, first, second⟩ := read
    refine ⟨middle, first, rest, by omega, fun most same => ?_, second⟩
    obtain ⟨most, present, rfl⟩ := Option.map_eq_some_iff.mp same
    have := bound most present
    omega

theorem between_zero_refl {max : Option Nat} : reading.between 0 max start start :=
  ⟨0, Nat.le_refl _, fun _ _ => Nat.zero_le _, rfl⟩

/-- One more reading before the others. -/
theorem between_cons {least middle : Nat} (once : reading start middle)
    (more : reading.between least none middle stop) :
    reading.between (least + 1) none start stop := by
  obtain ⟨count, enough, -, read⟩ := more
  exact ⟨count + 1, Nat.succ_le_succ enough, by simp, middle, once, read⟩

/-- More readings than are asked for. -/
theorem between.weaken {least least' : Nat} {max : Option Nat}
    (read : reading.between least max start stop) (less : least' ≤ least) :
    reading.between least' max start stop := by
  obtain ⟨count, enough, bound, read⟩ := read
  exact ⟨count, Nat.le_trans less enough, bound, read⟩

theorem between_self {least : Nat} :
    reading.between least (some least) = reading.times least := by
  funext start stop
  refine propext ⟨?_, fun read => ⟨least, Nat.le_refl _, by simp, read⟩⟩
  rintro ⟨count, enough, bound, read⟩
  obtain rfl : count = least := Nat.le_antisymm (bound least rfl) enough
  exact read

/-- Any number of readings is none, or at least one. -/
theorem between_zero_one :
    (reading.between 1 none).between 0 (some 1) = reading.between 0 none := by
  funext start stop
  rw [between_zero_succ, between_zero_zero, followedBy_stay]
  refine propext ⟨?_, ?_⟩
  · rintro (rfl | read)
    · exact between_zero_refl
    · exact read.weaken (Nat.zero_le _)
  · rintro ⟨count, -, -, read⟩
    cases count with
    | zero => exact .inl read
    | succ count => exact .inr ⟨count + 1, Nat.le_add_left _ _, by simp, read⟩

/-- What every reading keeps, any number of them keeps. -/
theorem times_induction (property : Nat → Prop) {count : Nat}
    (step : ∀ start stop, property start → reading start stop → property stop)
    (read : reading.times count start stop) (first : property start) : property stop := by
  induction count generalizing start with
  | zero => exact read ▸ first
  | succ count hypothesis =>
    obtain ⟨middle, once, more⟩ := read
    exact hypothesis more (step start middle first once)

end Reading

namespace Pattern

/-- The bytes of a literal stand between two positions. -/
def Spells (haystack : Array UInt8) (bytes : Bytes) : Reading := fun start stop =>
  stop = start + bytes.length ∧
    ∀ index < bytes.length, haystack[start + index]? = bytes[index]?

/-- A byte of a set stands between two positions. -/
def IsAmong (haystack : Array UInt8) (set : RangeSet) : Reading := fun start stop =>
  stop = start + 1 ∧ ∃ byte, haystack[start]? = some byte ∧ RangeSet.contains set byte.toNat = true

theorem spells_nil {haystack : Array UInt8} : Spells haystack [] = Reading.stay := by
  funext start stop
  simp [Spells, Reading.stay, eq_comm]

/-- A literal is its first byte and the literal of the others. -/
theorem spells_cons {haystack : Array UInt8} (byte : UInt8) (rest : Bytes) :
    Spells haystack (byte :: rest) = Reading.followedBy
      (fun start stop => stop = start + 1 ∧ haystack[start]? = some byte)
      (Spells haystack rest) := by
  funext start stop
  refine propext ⟨?_, ?_⟩
  · rintro ⟨rfl, same⟩
    refine ⟨start + 1, ⟨rfl, same 0 (Nat.succ_pos _)⟩, by simp; omega, fun index below => ?_⟩
    rw [Nat.add_assoc, Nat.add_comm 1]
    exact same (index + 1) (Nat.succ_lt_succ below)
  · rintro ⟨middle, ⟨rfl, first⟩, rfl, same⟩
    refine ⟨by simp; omega, fun index below => ?_⟩
    cases index with
    | zero => exact first
    | succ index =>
      rw [← Nat.add_assoc, Nat.add_right_comm]
      exact same index (Nat.lt_of_succ_lt_succ below)

mutual

/-- From where to where a pattern matches a haystack. A class of characters stands for ASCII
characters, and so for their bytes; of the others, and of assertions that know the words of all
scripts, there are no automata. -/
def Matches (haystack : Array UInt8) : Pattern → Reading
  | empty => Reading.stay
  | literal bytes => Spells haystack bytes
  | byteClass set | charClass set => IsAmong haystack set
  | look assertion => fun start stop => start = stop ∧ assertion.holds haystack start = true
  | wideLook _ => fun _ _ => False
  | repetition min max _ body => (Matches haystack body).between min max
  | group _ body => Matches haystack body
  | concat parts => MatchesAll haystack parts
  | alternation branches => MatchesAny haystack branches

/-- From where to where the parts match one after the other. -/
def MatchesAll (haystack : Array UInt8) : List Pattern → Reading
  | [] => Reading.stay
  | part :: rest => (Matches haystack part).followedBy (MatchesAll haystack rest)

/-- From where to where some branch matches. -/
def MatchesAny (haystack : Array UInt8) : List Pattern → Reading
  | [] => fun _ _ => False
  | branch :: rest => fun start stop =>
    Matches haystack branch start stop ∨ MatchesAny haystack rest start stop

end

/-! ### Conditions on patterns -/

mutual

/-- A pattern and all patterns in it. -/
def subtrees : Pattern → List Pattern
  | repetition min max greedy body => repetition min max greedy body :: subtrees body
  | group index body => group index body :: subtrees body
  | concat parts => concat parts :: subtreesIn parts
  | alternation branches => alternation branches :: subtreesIn branches
  | leaf => [leaf]

/-- The patterns of a list and all patterns in them. -/
def subtreesIn : List Pattern → List Pattern
  | [] => []
  | part :: rest => subtrees part ++ subtreesIn rest

end

theorem mem_subtreesIn {tree : Pattern} {parts : List Pattern} :
    tree ∈ subtreesIn parts ↔ ∃ part ∈ parts, tree ∈ part.subtrees := by
  induction parts with
  | nil => simp [subtreesIn]
  | cons part rest hypothesis => simp [subtreesIn, hypothesis]

/-- Something holds of a pattern and of all patterns in it. -/
def Everywhere (property : Pattern → Prop) (pattern : Pattern) : Prop :=
  ∀ tree ∈ pattern.subtrees, property tree

namespace Everywhere

variable {property : Pattern → Prop} {min index : Nat} {max : Option Nat} {greedy : Bool}
  {body : Pattern} {parts : List Pattern}

theorem repetition (everywhere : Everywhere property (.repetition min max greedy body)) :
    property (.repetition min max greedy body) ∧ Everywhere property body :=
  List.forall_mem_cons.mp everywhere

theorem group (everywhere : Everywhere property (.group index body)) :
    property (.group index body) ∧ Everywhere property body :=
  List.forall_mem_cons.mp everywhere

theorem concat (everywhere : Everywhere property (.concat parts)) :
    ∀ part ∈ parts, Everywhere property part := fun part member tree inside =>
  everywhere tree (List.mem_cons_of_mem _ (mem_subtreesIn.mpr ⟨part, member, inside⟩))

theorem alternation (everywhere : Everywhere property (.alternation parts)) :
    ∀ part ∈ parts, Everywhere property part := fun part member tree inside =>
  everywhere tree (List.mem_cons_of_mem _ (mem_subtreesIn.mpr ⟨part, member, inside⟩))

end Everywhere

mutual

/-- The indices of the groups of a pattern. -/
def groups : Pattern → List Nat
  | repetition _ _ _ body => groups body
  | group index body => index :: groups body
  | concat parts => groupsIn parts
  | alternation branches => groupsIn branches
  | _ => []

/-- The indices of the groups of the patterns of a list. -/
def groupsIn : List Pattern → List Nat
  | [] => []
  | part :: rest => groups part ++ groupsIn rest

end

mutual

/-- No index of a group is greater than the greatest. -/
theorem le_maxGroup : (pattern : Pattern) → ∀ index ∈ pattern.groups, index ≤ pattern.maxGroup
  | .empty, _, member | .literal _, _, member | .byteClass _, _, member | .charClass _, _, member
  | .look _, _, member | .wideLook _, _, member => (List.not_mem_nil member).elim
  | .repetition _ _ _ body, index, member => le_maxGroup body index member
  | .group index body, other, member => by
    rcases List.mem_cons.mp member with rfl | member
    · exact Nat.le_max_left _ _
    · exact Nat.le_trans (le_maxGroup body other member) (Nat.le_max_right _ _)
  | .concat parts, index, member | .alternation parts, index, member =>
    le_maxGroups parts index member

theorem le_maxGroups : (parts : List Pattern) → ∀ index ∈ groupsIn parts, index ≤ maxGroups parts
  | [], _, member => (List.not_mem_nil member).elim
  | part :: rest, index, member => by
    rcases List.mem_append.mp member with first | later
    · exact Nat.le_trans (le_maxGroup part index first) (Nat.le_max_left _ _)
    · exact Nat.le_trans (le_maxGroups rest index later) (Nat.le_max_right _ _)

end

/-- A repetition does not ask for more than it allows. -/
def BoundsInOrder : Pattern → Prop
  | repetition min max _ _ => ∀ most ∈ max, min ≤ most
  | _ => True

/-- No repetition asks for more than it allows. -/
def Ordered : Pattern → Prop := Everywhere BoundsInOrder

/-! ### Matches stay inside the haystack -/

variable {haystack : Array UInt8} {start stop : Nat}

/-- Positions from one on, inside a haystack. -/
def Inside (haystack : Array UInt8) (start stop : Nat) : Prop :=
  start ≤ stop ∧ stop ≤ haystack.size

theorem Spells.inside {bytes : Bytes} (spells : Spells haystack bytes start stop)
    (before : start ≤ haystack.size) : Inside haystack start stop := by
  obtain ⟨rfl, same⟩ := spells
  refine ⟨Nat.le_add_right _ _, ?_⟩
  cases size : bytes.length with
  | zero => exact before
  | succ last =>
    have present := same last (by omega)
    rw [List.getElem?_eq_getElem (by omega)] at present
    have := (Array.getElem?_eq_some_iff.mp present).1
    omega

theorem IsAmong.inside {set : RangeSet} (among : IsAmong haystack set start stop) :
    Inside haystack start stop := by
  obtain ⟨rfl, byte, present, -⟩ := among
  have below := (Array.getElem?_eq_some_iff.mp present).1
  exact ⟨Nat.le_succ _, below⟩

mutual

/-- **A match that starts inside the haystack ends inside it**, and not before its start. -/
theorem Matches.inside : (pattern : Pattern) → {start stop : Nat} →
    pattern.Matches haystack start stop → start ≤ haystack.size → Inside haystack start stop
  | .empty, _, _, here, before => ⟨Nat.le_of_eq here, here ▸ before⟩
  | .literal _, _, _, spells, before => Spells.inside spells before
  | .byteClass _, _, _, among, _ | .charClass _, _, _, among, _ => IsAmong.inside among
  | .look _, _, _, ⟨here, _⟩, before => ⟨Nat.le_of_eq here, here ▸ before⟩
  | .wideLook _, _, _, never, _ => never.elim
  | .repetition _ _ _ body, start, _, ⟨_, _, _, times⟩, before => by
    refine Reading.times_induction (Inside haystack start) (fun middle next so once => ?_) times
      ⟨Nat.le_refl _, before⟩
    have further := Matches.inside body once so.2
    exact ⟨Nat.le_trans so.1 further.1, further.2⟩
  | .group _ body, _, _, within, before => Matches.inside body within before
  | .concat parts, _, _, all, before => MatchesAll.inside parts all before
  | .alternation branches, _, _, any, before => MatchesAny.inside branches any before

theorem MatchesAll.inside : (parts : List Pattern) → {start stop : Nat} →
    MatchesAll haystack parts start stop → start ≤ haystack.size → Inside haystack start stop
  | [], _, _, here, before => ⟨Nat.le_of_eq here, here ▸ before⟩
  | part :: rest, _, _, ⟨_, first, others⟩, before => by
    have early := Matches.inside part first before
    have late := MatchesAll.inside rest others early.2
    exact ⟨Nat.le_trans early.1 late.1, late.2⟩

theorem MatchesAny.inside : (branches : List Pattern) → {start stop : Nat} →
    MatchesAny haystack branches start stop → start ≤ haystack.size → Inside haystack start stop
  | [], _, _, never, _ => never.elim
  | branch :: _, _, _, .inl one, before => Matches.inside branch one before
  | _ :: rest, _, _, .inr other, before => MatchesAny.inside rest other before

end

end Pattern

end Crosscheck
