/-
**What a source of candidates yields.**

* `Candidates.Feeds`: a source yields texts one after the other and then runs dry;
* `Candidates.Yields`: what a source answers, however often it is asked;
* `Space.exists_regexps`: every program that the walk comes to can be rendered;
* `Candidates.feeds_all`: a source of all candidates feeds the regexps of all programs;
* `Candidates.yields_all`: it yields each program of its space once, in order, and nothing else.
-/
import Crosscheck.Generate.Checked
import Crosscheck.Proofs.Generate.Frames

namespace Crosscheck

/-! ### Lists of results -/

section Results

variable {ε α β : Type} {act : α → Except ε β} {item : α} {items : List α} {results : List β}

theorem exists_mapM (each : ∀ item ∈ items, ∃ result, act item = .ok result) :
    ∃ results, items.mapM act = .ok results := by
  induction items with
  | nil => exact ⟨[], rfl⟩
  | cons item rest hypothesis =>
    obtain ⟨result, first⟩ := each item List.mem_cons_self
    obtain ⟨results, others⟩ :=
      hypothesis fun other member => each other (List.mem_cons_of_mem _ member)
    refine ⟨result :: results, ?_⟩
    rw [List.mapM_cons, first, others]
    rfl

theorem mapM_cons_eq_ok (all : (item :: items).mapM act = .ok results) :
    ∃ result others, act item = .ok result ∧ items.mapM act = .ok others ∧
      results = result :: others := by
  rw [List.mapM_cons] at all
  cases first : act item with
  | error fault =>
    rw [first] at all
    cases all
  | ok result =>
    cases rest : items.mapM act with
    | error fault =>
      rw [first, rest] at all
      cases all
    | ok others =>
      rw [first, rest] at all
      exact ⟨result, others, rfl, rfl, (Except.ok.inj all).symm⟩

theorem exists_mem_of_mapM (all : items.mapM act = .ok results) (member : item ∈ items) :
    ∃ result ∈ results, act item = .ok result := by
  induction items generalizing results with
  | nil => cases member
  | cons first rest hypothesis =>
    obtain ⟨result, others, one, more, rfl⟩ := mapM_cons_eq_ok all
    rcases List.mem_cons.mp member with rfl | member
    · exact ⟨result, List.mem_cons_self, one⟩
    · obtain ⟨other, inside, same⟩ := hypothesis more member
      exact ⟨other, List.mem_cons_of_mem _ inside, same⟩

theorem exists_item_of_mapM {result : β} (all : items.mapM act = .ok results)
    (member : result ∈ results) : ∃ item ∈ items, act item = .ok result := by
  induction items generalizing results with
  | nil =>
    cases all
    cases member
  | cons first rest hypothesis =>
    obtain ⟨result', others, one, more, rfl⟩ := mapM_cons_eq_ok all
    rcases List.mem_cons.mp member with rfl | member
    · exact ⟨first, List.mem_cons_self, one⟩
    · obtain ⟨item, inside, same⟩ := hypothesis more member
      exact ⟨item, List.mem_cons_of_mem _ inside, same⟩

theorem nodup_of_mapM (all : items.mapM act = .ok results) (distinct : items.Nodup)
    (injective : ∀ one ∈ items, ∀ other ∈ items, ∀ result,
      act one = .ok result → act other = .ok result → one = other) : results.Nodup := by
  induction items generalizing results with
  | nil =>
    cases all
    exact .nil
  | cons first rest hypothesis =>
    obtain ⟨result, others, one, more, rfl⟩ := mapM_cons_eq_ok all
    obtain ⟨fresh, distinct⟩ := List.nodup_cons.mp distinct
    have apart := hypothesis more distinct fun one inside other within =>
      injective one (List.mem_cons_of_mem _ inside) other (List.mem_cons_of_mem _ within)
    refine List.nodup_cons.mpr ⟨fun member => fresh ?_, apart⟩
    obtain ⟨other, inside, same⟩ := exists_item_of_mapM more member
    rwa [injective first List.mem_cons_self other (List.mem_cons_of_mem _ inside) result one same]

end Results

/-! ### Rendering all programs -/

namespace Space

/-- The regexps of all programs that the walk comes to, in order. -/
def regexps (space : Space) : Except Violation (List String) := space.programs.mapM space.render

/-- **Every program that the walk comes to can be rendered.** -/
theorem exists_regexps (space : Space) : ∃ texts, space.regexps = .ok texts :=
  exists_mapM fun _ member => exists_render (builds_of_mem_programs member).depth_eq

example : regexps ⟨1, 1, ["a"], egrepOperators⟩ =
    .ok ["a", "(?:a*)", "(?:a+)", "(?:a?)", "(?:a(?s:.)*)"] := by cbv

end Space

namespace Candidates

variable {source after : Candidates} {texts : List String}

/-! ### What a source yields -/

/-- A source yields texts one after the other, and then there are no more. -/
inductive Feeds : Candidates → List String → Candidates → Prop
  | done {source after : Candidates} (dry : source.next = .ok (none, after)) :
      Feeds source [] after
  | more {source rest after : Candidates} {text : String} {texts : List String}
      (step : source.next = .ok (some text, rest)) (others : Feeds rest texts after) :
      Feeds source (text :: texts) after

/-- The answers to a number of requests for the next regexp, and the source after them. -/
def ask (source : Candidates) : Nat → Except Violation (List (Option String) × Candidates)
  | 0 => .ok ([], source)
  | count + 1 => do
    let (text, source) ← source.next
    let (texts, source) ← source.ask count
    return (text :: texts, source)

/-- A source answers with the texts, in order, and then that there are no more, however often it is
asked. -/
def Yields (source : Candidates) (texts : List String) : Prop :=
  ∀ count, ∃ after, source.ask count =
    .ok ((texts.map some ++ List.replicate count none).take count, after)

theorem ask_succ {rest : Candidates} {text : Option String} {answers : List (Option String)}
    {count : Nat} (step : source.next = .ok (text, rest))
    (others : rest.ask count = .ok (answers, after)) :
    source.ask (count + 1) = .ok (text :: answers, after) := by
  rw [ask, step]
  show (do let (texts, source) ← rest.ask count; return (text :: texts, source)) = _
  rw [others]
  rfl

theorem ask_dry (dry : after.next = .ok (none, after)) (count : Nat) :
    after.ask count = .ok (List.replicate count none, after) := by
  induction count with
  | zero => rfl
  | succ count hypothesis => exact ask_succ dry hypothesis

/-- A source that stays dry once it ran dry yields what it feeds. -/
theorem Feeds.yields (feeds : source.Feeds texts after) (dry : after.next = .ok (none, after)) :
    source.Yields texts := by
  intro count
  induction feeds generalizing count with
  | @done source after last =>
    cases count with
    | zero => exact ⟨source, rfl⟩
    | succ count =>
      refine ⟨after, ?_⟩
      rw [ask_succ last (ask_dry dry count), List.map_nil, List.nil_append,
        List.take_replicate, Nat.min_self, List.replicate_succ]
  | @more source rest after text texts step others hypothesis =>
    cases count with
    | zero => exact ⟨source, rfl⟩
    | succ count =>
      obtain ⟨last, answers⟩ := hypothesis dry count
      have enough : min (count - texts.length) count = min (count - texts.length) (count + 1) := by
        omega
      refine ⟨last, ?_⟩
      rw [ask_succ step answers, List.map_cons, List.cons_append, List.take_succ_cons,
        List.take_append, List.take_append, List.length_map, List.take_replicate,
        List.take_replicate, enough]

/-! ### All candidates -/

/-- The source of all candidates at some point of the walk. -/
def atWalk (space : Space) (walk : Walk) : Candidates := ⟨space, .exhaustive walk, none⟩

theorem next_atWalk_none {space : Space} {walk after : Walk}
    (found : walk.next space = (none, after)) :
    (atWalk space walk).next = .ok (none, atWalk space after) := by
  simp only [next, advance, atWalk, Mode.next, found]

theorem next_atWalk_some {space : Space} {walk after : Walk} {program : Program} {text : String}
    (found : walk.next space = (some program, after)) (rendered : space.render program = .ok text) :
    (atWalk space walk).next = .ok (some text, atWalk space after) := by
  simp only [next, advance, atWalk, Mode.next, found, rendered]

/-- **A source feeds the regexps of the programs that its walk is still to come to.** -/
theorem feeds_atWalk {texts : List String} (space : Space) (walk : Walk)
    (rendered : (walk.pending space).mapM space.render = .ok texts) :
    ∃ last, (atWalk space walk).Feeds texts (atWalk space last) ∧ last.frames = [] := by
  have turn := walk.next_pending space
  cases found : walk.next space with
  | mk program after =>
    rw [found] at turn
    cases program with
    | none =>
      rw [turn.1] at rendered
      cases rendered
      exact ⟨after, .done (next_atWalk_none found), turn.2⟩
    | some program =>
      simp only at turn
      rw [turn] at rendered
      obtain ⟨text, texts, first, others, rfl⟩ := mapM_cons_eq_ok rendered
      obtain ⟨last, feeds, ended⟩ := feeds_atWalk space after others
      exact ⟨last, .more (next_atWalk_some found first) feeds, ended⟩
termination_by walk.weight space
decreasing_by exact Walk.next_weight found

/-- **A source of all candidates feeds the regexps of all programs**, in order, and then has nothing
more to yield. -/
theorem feeds_all {space : Space} (rendered : space.regexps = .ok texts) :
    ∃ after, (atWalk space .start).Feeds texts after ∧ after.next = .ok (none, after) := by
  obtain ⟨last, feeds, ended⟩ := feeds_atWalk space .start
    (by rw [Walk.pending_start]; exact rendered)
  exact ⟨_, feeds, next_atWalk_none (Walk.next_last ended space)⟩

theorem yields_all_texts {space : Space} (rendered : space.regexps = .ok texts) :
    (atWalk space .start).Yields texts := by
  obtain ⟨after, feeds, dry⟩ := feeds_all rendered
  exact feeds.yields dry

theorem ofSpace_eq {space : Space}
    (takes : ∀ operator ∈ space.operators, Template.placeholders operator ≠ 0) :
    ofSpace space = .ok (atWalk space .start) := by
  have none : space.operators.find? (Template.placeholders · = 0) = none :=
    List.find?_eq_none.mpr fun operator member => by simp [takes operator member]
  rw [ofSpace, none]
  rfl

theorem eq_of_ofSpace {space : Space} (made : ofSpace space = .ok source) :
    source = atWalk space .start := by
  unfold ofSpace at made
  split at made
  · cases made
  · exact (Except.ok.inj made).symm

/-- A source that was made yields the regexps of all programs. -/
theorem yields_of_ofSpace {space : Space} (made : ofSpace space = .ok source)
    (rendered : space.regexps = .ok texts) : source.Yields texts := by
  rw [eq_of_ofSpace made]
  exact yields_all_texts rendered

end Candidates

end Crosscheck
