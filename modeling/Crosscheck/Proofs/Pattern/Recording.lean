/-
**Slots record spans.**

A search stores where a group is entered in one slot, and where it is left in another. The outcomes
of a pattern with slots and those with spans are the same, one by one: as long as a group is not
open, its slots hold its latest span. A group that is open has its start stored already, which is
why no group may hold another of the same index.

* `Slots.span`, `Slots.Shows`: the spans that slots hold;
* `Outcomes.Related`: outcomes that are the same but for what is recorded;
* `Pattern.related_outcomes`: slots and spans are recorded alike.
-/
import Crosscheck.Proofs.Pattern.Outcomes
import Crosscheck.Proofs.Search.Thread
import Mathlib.Data.List.Forall2
import Mathlib.Data.Set.Basic

namespace Crosscheck

/-! ### Outcomes that differ in what is recorded -/

namespace Outcomes

variable {σ τ : Type} {change : σ × τ → σ × τ → Prop} {body one two : Outcomes σ}
  {body' one' two' : Outcomes τ}

/-- Outcomes that end at the same positions, while what is recorded changes together. -/
def Related (change : σ × τ → σ × τ → Prop) (one : Outcomes σ) (one' : Outcomes τ) : Prop :=
  ∀ start record record', List.Forall₂ (fun outcome outcome' => outcome.1 = outcome'.1 ∧
    change (record, record') (outcome.2, outcome'.2)) (one start record) (one' start record')

theorem related_never : Related change (never : Outcomes σ) (never : Outcomes τ) :=
  fun _ _ _ => .nil

theorem related_stay (refl : ∀ records, change records records) :
    Related change (stay : Outcomes σ) (stay : Outcomes τ) := fun _ _ _ =>
  .cons ⟨rfl, refl _⟩ .nil

theorem related_read (refl : ∀ records, change records records) (length : Nat)
    (passes : Nat → Bool) :
    Related change (read length passes : Outcomes σ) (read length passes : Outcomes τ) := by
  intro start record record'
  rw [read, read]
  split
  · exact .cons ⟨rfl, refl _⟩ .nil
  · exact .nil

theorem Related.orElse (first : Related change one one') (second : Related change two two') :
    Related change (one.orElse two) (one'.orElse two') := fun start record record' =>
  List.rel_append (first start record record') (second start record record')

theorem Related.followedBy
    (trans : ∀ first second third, change first second → change second third → change first third)
    (first : Related change one one') (second : Related change two two') :
    Related change (one.followedBy two) (one'.followedBy two') := by
  intro start record record'
  refine List.rel_flatMap (first start record record') fun outcome outcome' same => ?_
  obtain ⟨position, changed⟩ := same
  rw [position]
  refine (second _ outcome.2 outcome'.2).imp fun later later' more => ?_
  exact ⟨more.1, trans _ _ _ changed more.2⟩

section Copies

variable (refl : ∀ records, change records records)
  (trans : ∀ first second third, change first second → change second third → change first third)
  (related : Related change body body') (greedy : Bool)

include refl trans related

theorem Related.times (count : Nat) : Related change (body.times count) (body'.times count) := by
  induction count with
  | zero => exact related_stay refl
  | succ count hypothesis => exact related.followedBy trans hypothesis

theorem Related.upTo (count : Nat) :
    Related change (body.upTo greedy count) (body'.upTo greedy count) := by
  induction count with
  | zero => exact related_stay refl
  | succ count hypothesis =>
    have more := related.followedBy trans hypothesis
    cases greedy with
    | true => exact more.orElse (related_stay refl)
    | false => exact (related_stay refl).orElse more

theorem Related.repetition (size min : Nat) (max : Option Nat) :
    Related change (body.repetition greedy size min max)
      (body'.repetition greedy size min max) := by
  refine (related.times refl trans min).followedBy trans ?_
  cases max with
  | none => exact fun start => related.upTo refl trans greedy (size - start) start
  | some max => exact related.upTo refl trans greedy (max - min)

end Copies

end Outcomes

/-! ### Slots that hold spans -/

namespace Slots

/-- The span that slots hold of a group. -/
def span (slots : Slots) (index : Nat) : Option Span :=
  match slots.getD (index * 2) none, slots.getD (index * 2 + 1) none with
  | some start, some stop => some ⟨start, stop⟩
  | _, _ => none

/-- Slots hold the spans of groups. -/
structure Shows (slots : Slots) (closed : Set Nat) (spans : Spans) : Prop where
  /-- There are slots for the groups. -/
  inside : ∀ index ∈ closed, index * 2 + 1 < slots.size
  /-- The slots of a group hold its span. -/
  span_eq : ∀ index ∈ closed, slots.span index = spans index

theorem getD_write (slots : Slots) (slot other : Nat) (position : Option Nat) :
    (slots.setIfInBounds slot position).getD other none =
      if slot = other ∧ slot < slots.size then position else slots.getD other none := by
  simp only [Array.getD_eq_getD_getElem?, Array.getElem?_setIfInBounds]
  grind

/-- Writing a slot of one group leaves the spans of the others alone. -/
theorem span_write {slots : Slots} {slot index : Nat} (other : slot / 2 ≠ index)
    (position : Option Nat) :
    span (slots.setIfInBounds slot position) index = slots.span index := by
  rw [span, getD_write, getD_write, if_neg (by omega), if_neg (by omega)]
  rfl

variable {slots : Slots} {closed : Set Nat} {spans : Spans} {index : Nat}

/-- Slots that were not used yet hold no spans. -/
theorem shows_blank (count : Nat) :
    Shows (Array.replicate (count * 2) none) {index | index < count} fun _ => none := by
  refine ⟨fun index inside => ?_, fun index _ => ?_⟩
  · rw [Array.size_replicate]
    have : index < count := inside
    omega
  · rw [span, getD_blank]

/-- Entering a group opens it, and leaves the spans of the others alone. -/
theorem Shows.enter (held : slots.Shows closed spans) (position : Option Nat) :
    Shows (slots.setIfInBounds (index * 2) position) (closed \ {index}) spans := by
  refine ⟨fun group inside => ?_, fun group inside => ?_⟩
  · rw [Array.size_setIfInBounds]
    exact held.inside group inside.1
  · have apart : group ≠ index := inside.2
    rw [span_write (by omega), held.span_eq group inside.1]

/-- Leaving a group closes it with its span. -/
theorem Shows.leave {start : Nat} (held : slots.Shows (closed \ {index}) spans)
    (room : index * 2 + 1 < slots.size) (entered : slots.getD (index * 2) none = some start)
    (stop : Nat) : Shows (slots.setIfInBounds (index * 2 + 1) (some stop)) closed
      (Function.update spans index (some ⟨start, stop⟩)) := by
  refine ⟨fun group inside => ?_, fun group inside => ?_⟩
  · rw [Array.size_setIfInBounds]
    by_cases same : group = index
    · rwa [same]
    · exact held.inside group ⟨inside, same⟩
  · by_cases same : group = index
    · rw [same, Function.update_self, span, getD_write, if_neg (by omega), entered, getD_write,
        if_pos ⟨rfl, room⟩]
    · rw [Function.update_of_ne same, span_write (by omega)]
      exact held.span_eq group ⟨inside, same⟩

end Slots

/-- What recording may change when the groups in `closed` are recorded. -/
structure Recording (closed : Set Nat) (before after : Slots × Spans) : Prop where
  /-- There are as many slots. -/
  size_eq : after.1.size = before.1.size
  /-- The slots of other groups are kept. -/
  kept : ∀ slot, slot / 2 ∉ closed → after.1.getD slot none = before.1.getD slot none
  /-- The slots of these groups hold their spans if they did so before. -/
  shows : before.1.Shows closed before.2 → after.1.Shows closed after.2

namespace Recording

variable {closed : Set Nat}

theorem refl (records : Slots × Spans) : Recording closed records records :=
  ⟨rfl, fun _ _ => rfl, id⟩

theorem trans (first second third : Slots × Spans) (early : Recording closed first second)
    (late : Recording closed second third) : Recording closed first third :=
  ⟨late.size_eq.trans early.size_eq,
    fun slot other => (late.kept slot other).trans (early.kept slot other),
    late.shows ∘ early.shows⟩

/-- **Recording a group.** While it is open, only the other groups are recorded, so its start is
still there when it is left. -/
theorem group {index start stop : Nat} {slots inner : Slots} {spans spans' : Spans}
    (member : index ∈ closed)
    (recording : Recording (closed \ {index}) (Recorder.slots.enter index start slots, spans)
      (inner, spans')) :
    Recording closed (slots, spans) (Recorder.slots.leave index start stop inner,
      Recorder.spans.leave index start stop spans') := by
  obtain ⟨size, kept, shows⟩ := recording
  dsimp only [Recorder.slots, Recorder.spans] at size kept shows ⊢
  rw [Array.size_setIfInBounds] at size
  refine ⟨?_, fun slot other => ?_, fun held => ?_⟩
  · rw [← size]
    exact Array.size_setIfInBounds
  · have apart : slot / 2 ≠ index := fun same => other (same ▸ member)
    dsimp only at other ⊢
    rw [Slots.getD_write, if_neg (by omega), kept slot (fun inside => other inside.1),
      Slots.getD_write, if_neg (by omega)]
  · have room : index * 2 + 1 < slots.size := held.inside index member
    have same : index * 2 / 2 = index := by omega
    refine (shows (held.enter _)).leave (by omega) ?_ stop
    rw [kept _ (fun inside => inside.2 same), Slots.getD_write, if_pos ⟨rfl, by omega⟩]

end Recording

namespace Pattern

variable {haystack : Array UInt8}

/-- A group does not hold another one of its index. -/
def GroupApart : Pattern → Prop
  | group index body => index ∉ body.groups
  | _ => True

/-- No group holds another one of its index. -/
def GroupsApart : Pattern → Prop := Everywhere GroupApart

mutual

/-- **Slots and spans are recorded alike**, when no group holds another one of its index. -/
theorem related_outcomes : (pattern : Pattern) → {closed : Set Nat} → pattern.GroupsApart →
    (∀ index ∈ pattern.groups, index ∈ closed) →
    Outcomes.Related (Recording closed) (pattern.outcomes haystack Recorder.slots)
      (pattern.outcomes haystack Recorder.spans)
  | .empty, _, _, _ => Outcomes.related_stay Recording.refl
  | .literal _, _, _, _ | .byteClass _, _, _, _ | .charClass _, _, _, _ | .look _, _, _, _ =>
    Outcomes.related_read Recording.refl _ _
  | .wideLook _, _, _, _ => Outcomes.related_never
  | .repetition min max greedy body, _, apart, inside =>
    (related_outcomes body apart.repetition.2 inside).repetition Recording.refl Recording.trans
      greedy haystack.size min max
  | .group index body, closed, apart, inside => by
    obtain ⟨other, apart⟩ := apart.group
    obtain ⟨member, inside⟩ := List.forall_mem_cons.mp inside
    have within : ∀ group ∈ body.groups, group ∈ closed \ {index} := fun group groupIn =>
      ⟨inside group groupIn, fun same => other (same ▸ groupIn)⟩
    intro start slots spans
    refine List.rel_map ?_ (related_outcomes body apart within start _ spans)
    rintro ⟨stop, inner⟩ ⟨stop', spans'⟩ ⟨rfl, recording⟩
    exact ⟨rfl, recording.group member⟩
  | .concat parts, _, apart, inside => related_outcomesAll parts apart.concat inside
  | .alternation branches, _, apart, inside => related_outcomesAny branches apart.alternation inside

theorem related_outcomesAll : (parts : List Pattern) → {closed : Set Nat} →
    (∀ part ∈ parts, part.GroupsApart) → (∀ index ∈ groupsIn parts, index ∈ closed) →
    Outcomes.Related (Recording closed) (outcomesAll haystack Recorder.slots parts)
      (outcomesAll haystack Recorder.spans parts)
  | [], _, _, _ => Outcomes.related_stay Recording.refl
  | part :: rest, _, apart, inside => by
    obtain ⟨first, others⟩ := List.forall_mem_cons.mp apart
    obtain ⟨here, there⟩ := List.forall_mem_append.mp inside
    exact (related_outcomes part first here).followedBy Recording.trans
      (related_outcomesAll rest others there)

theorem related_outcomesAny : (branches : List Pattern) → {closed : Set Nat} →
    (∀ branch ∈ branches, branch.GroupsApart) → (∀ index ∈ groupsIn branches, index ∈ closed) →
    Outcomes.Related (Recording closed) (outcomesAny haystack Recorder.slots branches)
      (outcomesAny haystack Recorder.spans branches)
  | [], _, _, _ => Outcomes.related_never
  | branch :: rest, _, apart, inside => by
    obtain ⟨first, others⟩ := List.forall_mem_cons.mp apart
    obtain ⟨here, there⟩ := List.forall_mem_append.mp inside
    exact (related_outcomes branch first here).orElse (related_outcomesAny rest others there)

end

end Pattern

end Crosscheck
