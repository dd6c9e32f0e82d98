/-
**Looking ahead changes nothing.**

A conversation with a source is a list of requests, and its record are the answers to the requests
for the next text. A source of candidates remembers what it computed when it was asked whether there
is more, so it is followed together with its shadow, the source that was never asked that.

* `Conversation.record`: the answers of a conversation, and the source after it;
* `Conversation.record_filter`: requests that a shadow need not hear do not change the record;
* `Candidates.Shadows`: a source together with its shadow, and `Candidates.Shadows.reply`, what one
  request leaves of that;
* `Candidates.record_dry`: a source that has no more regexps has none from then on;
* `looking_ahead`: both kinds of sources, whatever they are asked.
-/
import Crosscheck.Proofs.Generate.Odometer
import Crosscheck.Proofs.Generate.Sources

namespace Crosscheck

/-! ### Conversations -/

namespace Conversation

variable {σ ρ : Type} {reply : σ → ρ → Except Violation (List (Option String) × σ)}

/-- The answers to all requests, one after the other, and the source after them. -/
def record (reply : σ → ρ → Except Violation (List (Option String) × σ)) (source : σ) :
    List ρ → Except Violation (List (Option String) × σ)
  | [] => .ok ([], source)
  | request :: rest => do
    let (answers, source) ← reply source request
    let (more, source) ← record reply source rest
    return (answers ++ more, source)

theorem record_cons {source middle after : σ} {request : ρ} {rest : List ρ}
    {answers more : List (Option String)} (first : reply source request = .ok (answers, middle))
    (others : record reply middle rest = .ok (more, after)) :
    record reply source (request :: rest) = .ok (answers ++ more, after) := by
  rw [record, first]
  change (do let (more, source) ← record reply middle rest; return (answers ++ more, source)) = _
  rw [others]
  rfl

/-- **Requests that the shadow of a source need not hear do not change the record.** -/
theorem record_filter {Shadows : σ → σ → Prop} {heard : ρ → Bool}
    (step : ∀ {source shadow}, Shadows source shadow → ∀ request,
      ∃ answers after, reply source request = .ok (answers, after) ∧
        if heard request then
          ∃ later, reply shadow request = .ok (answers, later) ∧ Shadows after later
        else answers = [] ∧ Shadows after shadow)
    {source shadow : σ} (shadows : Shadows source shadow) (requests : List ρ) :
    ∃ answers after later, record reply source requests = .ok (answers, after) ∧
      record reply shadow (requests.filter heard) = .ok (answers, later) ∧ Shadows after later := by
  induction requests generalizing source shadow with
  | nil => exact ⟨[], source, shadow, rfl, rfl, shadows⟩
  | cons request rest hypothesis =>
    obtain ⟨answers, middle, first, hearing⟩ := step shadows request
    split at hearing
    · next loud =>
      obtain ⟨behind, same, follows⟩ := hearing
      obtain ⟨more, after, later, others, others', ends⟩ := hypothesis follows
      refine ⟨answers ++ more, after, later, record_cons first others, ?_, ends⟩
      rw [List.filter_cons_of_pos loud]
      exact record_cons same others'
    · next silent =>
      obtain ⟨rfl, follows⟩ := hearing
      obtain ⟨more, after, later, others, others', ends⟩ := hypothesis follows
      refine ⟨more, after, later, record_cons first others, ?_, ends⟩
      rw [List.filter_cons_of_neg silent]
      exact others'

/-- **A source that answers all requests of a kind with no text, and stays like that, has no text
for a whole conversation of them.** -/
theorem record_dry {Dry : σ → Prop} {kind : ρ → Prop}
    (step : ∀ {source}, Dry source → ∀ request, kind request →
      ∃ count after, reply source request = .ok (List.replicate count none, after) ∧ Dry after)
    {source : σ} (dry : Dry source) {requests : List ρ}
    (only : ∀ request ∈ requests, kind request) :
    ∃ count after, record reply source requests = .ok (List.replicate count none, after) := by
  induction requests generalizing source with
  | nil => exact ⟨0, source, rfl⟩
  | cons request rest hypothesis =>
    rw [List.forall_mem_cons] at only
    obtain ⟨count, middle, first, still⟩ := step dry request only.1
    obtain ⟨more, after, others⟩ := hypothesis still only.2
    refine ⟨count + more, after, ?_⟩
    rw [← List.replicate_append_replicate]
    exact record_cons first others

end Conversation

/-! ### Candidates -/

namespace Candidates

variable {space : Space} {mode : Mode} {source shadow : Candidates}

/-- Whether something asked is the next regexp or whether there is one. -/
def Request.isForMore : Request → Bool
  | .next | .hasNext => true
  | .reset | .random _ => false

/-- Whether something asked is anything but whether there is another regexp. -/
def Request.isHeard : Request → Bool
  | .hasNext => false
  | .next | .reset | .random _ => true

/-- What a source answers, and the source after it. -/
def reply (source : Candidates) : Request → Except Violation (List (Option String) × Candidates)
  | .next => do
    let (regexp, source) ← source.next
    return ([regexp], source)
  | .hasNext => do
    let (_, source) ← source.hasNext
    return ([], source)
  | .reset => return ([], source.reset)
  | .random draws => return ([], source.useRandom draws.seed draws.count)

/-- The answers of a source, and the source after them. -/
def record (source : Candidates) (requests : List Request) :
    Except Violation (List (Option String) × Candidates) :=
  Conversation.record reply source requests

/-- The start of the sequence after a request, from the start before it. -/
def Request.restart (start : Candidates) : Request → Candidates
  | .random draws => start.useRandom draws.seed draws.count
  | .next | .hasNext | .reset => start

/-! #### The start of the sequence -/

/-- The mode that the sequence starts in. -/
def Mode.origin : Mode → Mode
  | .exhaustive _ => .exhaustively
  | .random seed count _ _ => .ofSeed seed count

theorem reset_eq (source : Candidates) :
    source.reset = ⟨source.space, source.mode.origin, none⟩ := by
  unfold reset
  cases source.mode <;> rfl

theorem Mode.origin_next (space : Space) (mode : Mode) :
    (mode.next space).2.origin = mode.origin := by
  cases mode with
  | exhaustive walk => rfl
  | random seed count stream left =>
    rw [Mode.next]
    split <;> rfl

theorem Mode.origin_origin (mode : Mode) : mode.origin.origin = mode.origin := by
  cases mode <;> rfl

/-- Computing a regexp keeps the start of the sequence and remembers nothing. -/
theorem of_advance {regexp : Option String} {after : Candidates}
    (step : source.advance = .ok (regexp, after)) :
    after = { source with mode := (source.mode.next source.space).2, peeked := none } ∧
      (regexp = none → (source.mode.next source.space).1 = none) := by
  unfold advance at step
  split at step
  · next mode found =>
    cases step
    rw [found]
    exact ⟨rfl, fun _ => rfl⟩
  · next program mode found =>
    rw [found]
    split at step
    · cases step
    · cases step
      exact ⟨rfl, nofun⟩

theorem reset_of_advance {regexp : Option String} {after : Candidates}
    (step : source.advance = .ok (regexp, after)) : after.reset = source.reset := by
  rw [(of_advance step).1, reset_eq, reset_eq, Mode.origin_next]

/-! #### The shadow of a source -/

/-- **A source with its shadow**, the source that was never asked whether there is more: either they
are the same, or the source remembers the next regexp of its shadow. -/
structure Shadows (space : Space) (source shadow : Candidates) : Prop where
  sound : shadow.Sound space
  unaware : shadow.peeked = none
  source_eq : source = shadow ∨ ∃ more, shadow.hasNext = .ok (more, source)

theorem Shadows.refl (sound : source.Sound space) (unaware : source.peeked = none) :
    Shadows space source source :=
  ⟨sound, unaware, .inl rfl⟩

/-- What a source that remembers nothing says about the next regexp. -/
theorem exists_next_hasNext (sound : source.Sound space) (unaware : source.peeked = none) :
    ∃ regexp after, source.advance = .ok (regexp, after) ∧ source.next = .ok (regexp, after) ∧
      source.hasNext = .ok (regexp.isSome, { after with peeked := some regexp }) ∧
      after.Sound space ∧ after.peeked = none := by
  obtain ⟨regexp, after, step, later⟩ := sound.advance
  refine ⟨regexp, after, step, ?_, ?_, later, by rw [(of_advance step).1]⟩
  · rw [next, unaware, step]
  · rw [hasNext, unaware, step]
    rfl

/-- **A source and its shadow have the same next regexp**, the source says beforehand whether there
is one, and remembers it then. -/
theorem Shadows.next (shadows : Shadows space source shadow) :
    ∃ regexp after peeked, shadow.advance = .ok (regexp, after) ∧
      source.next = .ok (regexp, after) ∧ shadow.next = .ok (regexp, after) ∧
      source.hasNext = .ok (regexp.isSome, peeked) ∧
      Shadows space after after ∧ Shadows space peeked shadow := by
  obtain ⟨sound, unaware, rfl | ⟨more, looked⟩⟩ := shadows
  · obtain ⟨regexp, after, step, stepped, asked, later, forgot⟩ := exists_next_hasNext sound unaware
    exact ⟨regexp, after, _, step, stepped, stepped, asked, .refl later forgot, sound, unaware,
      .inr ⟨_, asked⟩⟩
  · obtain ⟨regexp, after, step, stepped, asked, later, forgot⟩ := exists_next_hasNext sound unaware
    obtain ⟨rfl, rfl⟩ := Prod.ext_iff.mp (Except.ok.inj (looked.symm.trans asked))
    refine ⟨regexp, after, _, step, ?_, stepped, rfl, .refl later forgot, sound, unaware,
      .inr ⟨_, asked⟩⟩
    rw [Candidates.next]
    simp only [← forgot]

theorem Shadows.reset_eq (shadows : Shadows space source shadow) : source.reset = shadow.reset := by
  obtain ⟨sound, unaware, rfl | ⟨more, looked⟩⟩ := shadows
  · rfl
  · obtain ⟨regexp, after, step, -, asked, -, -⟩ := exists_next_hasNext sound unaware
    obtain ⟨-, rfl⟩ := Prod.ext_iff.mp (Except.ok.inj (looked.symm.trans asked))
    rw [← reset_of_advance step, Candidates.reset_eq, Candidates.reset_eq]

theorem useRandom_congr {other : Candidates} (same : source.space = other.space) (seed : UInt64)
    (count : Nat) : source.useRandom seed count = other.useRandom seed count := by
  rw [useRandom, useRandom, same]

theorem Shadows.space_eq (shadows : Shadows space source shadow) :
    source.space = shadow.space := by
  have same := congrArg Candidates.space shadows.reset_eq
  rwa [Candidates.reset_eq, Candidates.reset_eq] at same

/-- **What one request leaves**: the same answers of a source and its shadow, unless the source was
asked whether there is more, which it does not answer with a regexp and its shadow need not hear. -/
theorem Shadows.reply (shadows : Shadows space source shadow) (request : Request) :
    ∃ answers after, source.reply request = .ok (answers, after) ∧
      if request.isHeard then
        ∃ later, shadow.reply request = .ok (answers, later) ∧ Shadows space after later
      else answers = [] ∧ Shadows space after shadow := by
  obtain ⟨regexp, after, peeked, -, stepped, stepped', asked, follows, remembers⟩ := shadows.next
  cases request with
  | next =>
    refine ⟨[regexp], after, ?_, after, ?_, follows⟩
    · rw [Candidates.reply, stepped]
      rfl
    · rw [Candidates.reply, stepped']
      rfl
  | hasNext =>
    refine ⟨[], peeked, ?_, rfl, remembers⟩
    rw [Candidates.reply, asked]
    rfl
  | reset =>
    refine ⟨[], source.reset, rfl, shadow.reset, rfl, ?_⟩
    rw [shadows.reset_eq]
    exact .refl shadows.sound.reset rfl
  | random draws =>
    refine ⟨[], _, rfl, _, rfl, ?_⟩
    rw [useRandom_congr shadows.space_eq]
    exact .refl (shadows.sound.useRandom draws.seed draws.count) rfl

/-- After a request, the sequence starts where the request says. -/
theorem Shadows.reset_of_reply (shadows : Shadows space source shadow) {request : Request}
    {answers : List (Option String)} {after : Candidates}
    (step : source.reply request = .ok (answers, after)) :
    after.reset = request.restart source.reset := by
  obtain ⟨regexp, later, peeked, advanced, stepped, -, asked, -, remembers⟩ := shadows.next
  cases request with
  | next =>
    rw [Candidates.reply, stepped] at step
    cases step
    exact (reset_of_advance advanced).trans shadows.reset_eq.symm
  | hasNext =>
    rw [Candidates.reply, asked] at step
    cases step
    exact remembers.reset_eq.trans shadows.reset_eq.symm
  | reset =>
    cases step
    rw [Candidates.reset_eq, Candidates.reset_eq source]
    exact congrArg (Candidates.mk _ · _) source.mode.origin_origin
  | random draws =>
    cases step
    rfl

/-- **The start of the sequence after a conversation.** -/
theorem Shadows.reset_of_record (shadows : Shadows space source shadow) {requests : List Request}
    {answers : List (Option String)} {after : Candidates}
    (conversation : source.record requests = .ok (answers, after)) :
    after.reset = requests.foldl Request.restart source.reset := by
  induction requests generalizing source shadow answers with
  | nil =>
    cases conversation
    rfl
  | cons request rest hypothesis =>
    obtain ⟨first, middle, step, hearing⟩ := shadows.reply request
    have follows : ∃ later, Shadows space middle later := by
      split at hearing
      · exact ⟨_, hearing.choose_spec.2⟩
      · exact ⟨_, hearing.2⟩
    obtain ⟨later, follows⟩ := follows
    obtain ⟨more, last, -, others, -⟩ :=
      Conversation.record_filter Shadows.reply follows rest
    have whole := Conversation.record_cons step others
    rw [record, whole] at conversation
    cases conversation
    rw [hypothesis follows others, shadows.reset_of_reply step, List.foldl_cons]

/-! #### A source that has run dry -/

/-- Random programs that have come to no program leave none to come. -/
theorem drawProgram_of_none {stream : Stream} {left : Nat}
    (none : (drawProgram space stream left).1 = .none) :
    (drawProgram space stream left).2.2 = 0 := by
  induction left generalizing stream with
  | zero => rfl
  | succ left hypothesis =>
    rw [drawProgram] at none ⊢
    split
    · next drawn =>
      rw [drawn] at none
      cases none
    · next drawn =>
      rw [drawn] at none
      exact hypothesis none

/-- A choice that has come to no program comes to none again. -/
theorem Mode.next_of_none (none : (mode.next space).1 = .none) :
    ((mode.next space).2.next space).1 = .none := by
  cases mode with
  | exhaustive walk =>
    have turn := walk.next_pending space
    simp only [Mode.next] at none ⊢
    cases found : walk.next space with
    | mk program after =>
      rw [found] at none turn
      obtain rfl : program = .none := none
      simp only [Walk.next_last turn.2]
  | random seed count stream left =>
    rw [Mode.next] at none ⊢
    split
    · next bare => rw [Mode.next, if_pos bare]
    · next atoms =>
      rw [if_neg atoms] at none
      rw [Mode.next, if_neg atoms, drawProgram_of_none none]
      rfl

/-- **A source whose choice has come to its end**, as its shadow shows. -/
def Dry (space : Space) (source : Candidates) : Prop :=
  ∃ shadow, Shadows space source shadow ∧ (shadow.mode.next shadow.space).1 = none

theorem Shadows.dry_of_next (shadows : Shadows space source shadow) {after : Candidates}
    (last : source.next = .ok (none, after)) : Dry space source ∧ Dry space after := by
  obtain ⟨regexp, later, peeked, advanced, stepped, -, -, follows, -⟩ := shadows.next
  cases stepped.symm.trans last
  have ended := (of_advance advanced).2 rfl
  refine ⟨⟨shadow, shadows, ended⟩, after, follows, ?_⟩
  rw [(of_advance advanced).1]
  exact Mode.next_of_none ended

theorem Dry.reply (dry : Dry space source) (request : Request) (forMore : request.isForMore) :
    ∃ count after, source.reply request = .ok (List.replicate count none, after) ∧
      Dry space after := by
  obtain ⟨shadow, shadows, ended⟩ := dry
  obtain ⟨regexp, after, peeked, advanced, stepped, -, asked, follows, remembers⟩ := shadows.next
  have last : regexp = none := by
    unfold advance at advanced
    split at advanced
    · cases advanced
      rfl
    · next found => simp [found] at ended
  subst last
  cases request with
  | next =>
    refine ⟨1, after, ?_, (shadows.dry_of_next stepped).2⟩
    rw [Candidates.reply, stepped]
    rfl
  | hasNext =>
    refine ⟨0, peeked, ?_, shadow, remembers, ended⟩
    rw [Candidates.reply, asked]
    rfl
  | reset => cases forMore
  | random draws => cases forMore

/-- **A source that has no more regexps has none from then on**, until it is told otherwise. -/
theorem record_dry (dry : Dry space source) {requests : List Request}
    (forMore : ∀ request ∈ requests, request.isForMore) :
    ∃ count after, source.record requests = .ok (List.replicate count none, after) :=
  Conversation.record_dry Dry.reply dry forMore

end Candidates

/-! ### Haystacks -/

namespace Haystacks

/-- Something that a source is asked. -/
inductive Request where
  | next
  | hasNext
  | reset
  | forceEmpty
  | random (draws : Draws)

/-- Whether something asked is the next text or whether there is one. -/
def Request.isForMore : Request → Bool
  | .next | .hasNext => true
  | .reset | .forceEmpty | .random _ => false

/-- Whether something asked is anything but whether there is another text. -/
def Request.isHeard : Request → Bool
  | .hasNext => false
  | .next | .reset | .forceEmpty | .random _ => true

/-- What a source answers, and the source after it. -/
def reply (source : Haystacks) : Request → Except Violation (List (Option String) × Haystacks)
  | .next => .ok ([source.next.map Prod.fst], (source.next.map Prod.snd).getD source)
  | .hasNext => .ok ([], source)
  | .reset => .ok ([], source.reset)
  | .forceEmpty => .ok ([], source.forceEmpty)
  | .random draws => .ok ([], source.useRandom draws.seed draws.count)

/-- The answers of a source, and the source after them. -/
def record (source : Haystacks) (requests : List Request) :
    Except Violation (List (Option String) × Haystacks) :=
  Conversation.record reply source requests

variable {source : Haystacks}

/-- **A source says beforehand whether there is another text.** -/
theorem hasNext_eq (source : Haystacks) : source.hasNext = source.next.isSome := by
  unfold hasNext next
  by_cases forced : source.forcedEmpty
  · simp [forced]
  · rw [if_neg forced]
    match source.random with
    | some (stream, 0) => simp [forced]
    | some (stream, left + 1) => simp [forced]
    | none =>
      by_cases more : source.more
      · cases following source <;> simp [forced, more]
      · simp [forced, more]

/-- **Looking ahead changes no answer**: a source stays as it is. -/
theorem record_isHeard (source : Haystacks) (requests : List Request) :
    ∃ answers after, source.record requests = .ok (answers, after) ∧
      source.record (requests.filter Request.isHeard) = .ok (answers, after) := by
  have step : ∀ {source shadow : Haystacks}, source = shadow → ∀ request : Request,
      ∃ answers after, source.reply request = .ok (answers, after) ∧
        if request.isHeard then
          ∃ later, shadow.reply request = .ok (answers, later) ∧ after = later
        else answers = [] ∧ after = shadow := by
    rintro source shadow rfl request
    cases request with
    | next => exact ⟨_, _, rfl, _, rfl, rfl⟩
    | hasNext => exact ⟨[], source, rfl, rfl, rfl⟩
    | reset => exact ⟨_, _, rfl, _, rfl, rfl⟩
    | forceEmpty => exact ⟨_, _, rfl, _, rfl, rfl⟩
    | random draws => exact ⟨_, _, rfl, _, rfl, rfl⟩
  obtain ⟨answers, after, later, first, filtered, rfl⟩ :=
    Conversation.record_filter step (rfl : source = source) requests
  exact ⟨answers, after, first, filtered⟩

/-- A source that has no more texts has none from then on, until it is told otherwise. -/
theorem record_dry (last : source.next = none) {requests : List Request}
    (forMore : ∀ request ∈ requests, request.isForMore) :
    ∃ count after, source.record requests = .ok (List.replicate count none, after) := by
  have step : ∀ {source : Haystacks}, source.next = none → ∀ request : Request,
      request.isForMore = true →
        ∃ count after, source.reply request = .ok (List.replicate count none, after) ∧
          after.next = none := by
    intro source last request forMore
    cases request with
    | next => exact ⟨1, source, by rw [reply, last]; rfl, last⟩
    | hasNext => exact ⟨0, source, rfl, last⟩
    | reset => cases forMore
    | forceEmpty => cases forMore
    | random draws => cases forMore
  exact Conversation.record_dry step last forMore

/-- Every request keeps what the texts are over. -/
theorem reset_of_reply {request : Request} {answers : List (Option String)} {after : Haystacks}
    (step : source.reply request = .ok (answers, after)) : after.reset = source.reset := by
  cases request with
  | next =>
    cases step
    cases found : source.next with
    | none => rfl
    | some found =>
      obtain ⟨length, alphabet⟩ := next_frame found
      exact congrArg₂ ofAlphabet length alphabet
  | hasNext => cases step; rfl
  | reset => cases step; rfl
  | forceEmpty => cases step; rfl
  | random draws => cases step; rfl

theorem reset_of_record {requests : List Request} {answers : List (Option String)}
    {after : Haystacks} (conversation : source.record requests = .ok (answers, after)) :
    after.reset = source.reset := by
  induction requests generalizing source answers with
  | nil =>
    cases conversation
    rfl
  | cons request rest hypothesis =>
    obtain ⟨first, middle, step⟩ : ∃ first middle, source.reply request = .ok (first, middle) := by
      cases request <;> exact ⟨_, _, rfl⟩
    obtain ⟨more, last, others, -⟩ := record_isHeard middle rest
    have whole := Conversation.record_cons step others
    rw [record, whole] at conversation
    cases conversation
    rw [hypothesis others, reset_of_reply step]

end Haystacks

/-! ### Both kinds of sources -/

/-- **Looking ahead never changes what a source yields.** After every conversation with a source of
candidates or of haystacks: without its questions whether there is more, all answers are the same;
the source says that there is more exactly when the next request has a text for an answer; when it
has none, there is none until the source is told otherwise; and a reset starts the sequence again,
of the last random candidates from their seed if there were any, and of haystacks always the plain
enumeration. -/
theorem looking_ahead {space : Space} {source : Candidates}
    (made : Candidates.ofSpace space = .ok source) (maxLength : Nat) (alphabet : List String) :
    (∀ requests : List Candidates.Request, ∃ answers after,
      source.record requests = .ok (answers, after) ∧
      (∃ shadow, source.record (requests.filter Candidates.Request.isHeard) =
        .ok (answers, shadow)) ∧
      (∃ text later peeked, after.next = .ok (text, later) ∧
        after.hasNext = .ok (text.isSome, peeked)) ∧
      (∀ later rest, after.next = .ok (none, later) →
        (∀ request ∈ rest, Candidates.Request.isForMore request) →
        ∃ count last, later.record rest = .ok (List.replicate count none, last)) ∧
      after.reset = requests.foldl Candidates.Request.restart source) ∧
    (∀ requests : List Haystacks.Request, ∃ answers after,
      (Haystacks.ofAlphabet maxLength alphabet).record requests = .ok (answers, after) ∧
      (Haystacks.ofAlphabet maxLength alphabet).record
        (requests.filter Haystacks.Request.isHeard) = .ok (answers, after) ∧
      after.hasNext = after.next.isSome ∧
      (∀ rest, after.next = none → (∀ request ∈ rest, Haystacks.Request.isForMore request) →
        ∃ count last, after.record rest = .ok (List.replicate count none, last)) ∧
      after.reset = Haystacks.ofAlphabet maxLength alphabet) := by
  constructor
  · intro requests
    have start : Candidates.Shadows space source source := by
      rw [Candidates.eq_of_ofSpace made]
      exact .refl (Candidates.sound_atWalk space) rfl
    have fresh : source.reset = source := by
      rw [Candidates.eq_of_ofSpace made]
      rfl
    obtain ⟨answers, after, shadow, conversation, heard, shadows⟩ :=
      Conversation.record_filter Candidates.Shadows.reply start requests
    obtain ⟨text, later, peeked, -, stepped, -, asked, -, -⟩ := shadows.next
    refine ⟨answers, after, conversation, ⟨shadow, heard⟩, ⟨text, later, peeked, stepped, asked⟩,
      fun later rest last => Candidates.record_dry (shadows.dry_of_next last).2, ?_⟩
    rw [start.reset_of_record conversation, fresh]
  · intro requests
    obtain ⟨answers, after, conversation, heard⟩ :=
      (Haystacks.ofAlphabet maxLength alphabet).record_isHeard requests
    refine ⟨answers, after, conversation, heard, after.hasNext_eq,
      fun rest last => Haystacks.record_dry last, ?_⟩
    rw [Haystacks.reset_of_record conversation]
    rfl

/-- Asked in between whether there is more, and told to draw from a seed. -/
theorem looking_ahead_fromSeed :
    let space : Space := ⟨1, 1, ["a"], ["%s*"]⟩
    let source := Candidates.atWalk space .start
    Candidates.ofSpace space = .ok source ∧ ∃ answers after,
      source.record [.hasNext, .next, .hasNext, .random ⟨7, 2⟩, .hasNext, .next, .hasNext] =
        .ok (answers, after) ∧
      (∃ shadow, source.record [.next, .random ⟨7, 2⟩, .next] = .ok (answers, shadow)) ∧
      after.reset = source.useRandom 7 2 := by
  have takes : ∀ operator ∈ ["%s*"], Template.placeholders operator ≠ 0 := by decide
  have made : Candidates.ofSpace ⟨1, 1, ["a"], ["%s*"]⟩ = .ok _ := Candidates.ofSpace_eq takes
  obtain ⟨answers, after, conversation, heard, -, -, reset⟩ := (looking_ahead made 1 ["x"]).1
    [.hasNext, .next, .hasNext, .random ⟨7, 2⟩, .hasNext, .next, .hasNext]
  exact ⟨made, answers, after, conversation, heard, reset⟩

end Crosscheck
