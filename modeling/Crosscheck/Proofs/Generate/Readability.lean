/-
**Basic regexps can be read in one way only.**

A program with the operators of basic regexps builds an expression, and the regexp is the text of
the expression. The text of an operator is a group: the first operand, and what tells the operator
from then on. An operand is a letter or a group of its own, so it is known where it ends, and what
follows tells the operator, since no letter is a metacharacter and no group begins like the mark of
"anything after". So a text has one expression, and an expression has one program.

* `Expression.text`, `Expression.program`: the two ways to write an expression;
* `Expression.eq_of_text_append`: the text of an expression, whatever follows it, is its own only;
* `Space.exists_expressions`: a program writes the expressions that it leaves;
* `Space.eq_of_render`: programs that build the same regexp are the same;
* `Candidates.yields_nodup`: no regexp is yielded twice.
-/
import Crosscheck.Proofs.Generate.Enumeration
import Crosscheck.Proofs.Text.Filling
import Mathlib.Data.List.Induction

namespace Crosscheck

/-- The characters that the operators of basic regexps are written with. -/
def metacharacters : List Char := ['(', ')', '|', '*', '+', '?']

/-! ### Expressions -/

/-- What stands between two operands. -/
inductive Joint where
  | nothing
  | bar
  deriving DecidableEq

/-- What stands behind a single operand. -/
inductive Mark where
  | anyNumber
  | atLeastOnce
  | optional
  | anythingAfter
  deriving DecidableEq

/-- A basic regexp over single characters. -/
inductive Expression where
  | letter (char : Char)
  | joined (joint : Joint) (first second : Expression)
  | marked (mark : Mark) (operand : Expression)

namespace Joint

def text : Joint → List Char
  | nothing => []
  | bar => ['|']

/-- The place of the operator. -/
def index : Joint → Nat
  | nothing => 0
  | bar => 1

/-- The template of the operator. -/
def template (joint : Joint) : String := .ofList ('%' :: 's' :: (joint.text ++ ['%', 's']))

end Joint

namespace Mark

def text : Mark → List Char
  | anyNumber => ['*']
  | atLeastOnce => ['+']
  | optional => ['?']
  | anythingAfter => ['(', '?', 's', ':', '.', ')', '*']

/-- The place of the operator. -/
def index : Mark → Nat
  | anyNumber => 2
  | atLeastOnce => 3
  | optional => 4
  | anythingAfter => 5

/-- The template of the operator. -/
def template (mark : Mark) : String := .ofList ('%' :: 's' :: mark.text)

end Mark

namespace Expression

variable {chars more others : List Char}

/-- The regexp of an expression. -/
def text : Expression → List Char
  | letter char => [char]
  | joined joint first second =>
    '(' :: '?' :: ':' :: (first.text ++ (joint.text ++ (second.text ++ [')'])))
  | marked mark operand => '(' :: '?' :: ':' :: (operand.text ++ (mark.text ++ [')']))

/-- The program of an expression over the given characters. -/
def program (chars : List Char) : Expression → Program
  | letter char => [.atom (chars.idxOf char)]
  | joined joint first second =>
    first.program chars ++ second.program chars ++ [.operator joint.index]
  | marked mark operand => operand.program chars ++ [.operator mark.index]

/-- An expression all of whose letters are among the given characters. -/
def Over (chars : List Char) : Expression → Prop
  | letter char => char ∈ chars
  | joined _ first second => first.Over chars ∧ second.Over chars
  | marked _ operand => operand.Over chars

/-! ### Reading a text back -/

/-- The operator that is told by what follows its first operand. -/
def sign : List Char → Joint ⊕ Mark
  | '|' :: _ => .inl .bar
  | '*' :: _ => .inr .anyNumber
  | '+' :: _ => .inr .atLeastOnce
  | '?' :: _ => .inr .optional
  | '(' :: '?' :: 's' :: _ => .inr .anythingAfter
  | _ => .inl .nothing

theorem sign_mark (mark : Mark) (more : List Char) : sign (mark.text ++ more) = .inr mark := by
  cases mark <;> rfl

theorem text_joined_append (joint : Joint) (first second : Expression) (more : List Char) :
    (joined joint first second).text ++ more =
      '(' :: '?' :: ':' :: (first.text ++ (joint.text ++ (second.text ++ ')' :: more))) := by
  simp [text]

theorem text_marked_append (mark : Mark) (operand : Expression) (more : List Char) :
    (marked mark operand).text ++ more =
      '(' :: '?' :: ':' :: (operand.text ++ (mark.text ++ ')' :: more)) := by
  simp [text]

section Plain

variable (plain : ∀ char ∈ chars, char ∉ metacharacters)

include plain

theorem sign_text {expression : Expression} (letters : expression.Over chars) (more : List Char) :
    sign (expression.text ++ more) = .inl .nothing := by
  cases expression with
  | letter char =>
    have other := plain char letters
    simp only [metacharacters, List.mem_cons, List.not_mem_nil, or_false, not_or] at other
    simp [text, sign, other]
  | joined => rfl
  | marked => rfl

theorem sign_joint (joint : Joint) {second : Expression} (letters : second.Over chars)
    (more : List Char) : sign (joint.text ++ (second.text ++ more)) = .inl joint := by
  cases joint with
  | nothing => exact sign_text plain letters more
  | bar => rfl

theorem letter_ne_group {char : Char} (member : char ∈ chars) : char :: more ≠ '(' :: others := by
  intro same
  refine plain char member ?_
  rw [(List.cons.inj same).1]
  exact List.mem_cons_self

/-- **The text of an expression, whatever follows it, is its own only.** -/
theorem eq_of_text_append {one other : Expression} (letters : one.Over chars)
    (lettersOther : other.Over chars) (same : one.text ++ more = other.text ++ others) :
    one = other ∧ more = others := by
  induction one generalizing other more others with
  | letter char =>
    cases other with
    | letter char' =>
      obtain ⟨rfl, rest⟩ := List.cons.inj same
      exact ⟨rfl, rest⟩
    | joined => exact absurd same (letter_ne_group plain letters)
    | marked => exact absurd same (letter_ne_group plain letters)
  | joined joint first second hypothesisFirst hypothesisSecond =>
    obtain ⟨lettersFirst, lettersSecond⟩ := letters
    rw [text_joined_append] at same
    cases other with
    | letter => exact absurd same.symm (letter_ne_group plain lettersOther)
    | joined joint' first' second' =>
      rw [text_joined_append] at same
      obtain ⟨lettersFirst', lettersSecond'⟩ := lettersOther
      obtain ⟨rfl, rest⟩ := hypothesisFirst lettersFirst lettersFirst' (by simpa using same)
      have told := congrArg sign rest
      rw [sign_joint plain _ lettersSecond, sign_joint plain _ lettersSecond'] at told
      obtain rfl := Sum.inl.inj told
      obtain ⟨rfl, closed⟩ :=
        hypothesisSecond lettersSecond lettersSecond' (List.append_cancel_left rest)
      exact ⟨rfl, (List.cons.inj closed).2⟩
    | marked mark operand =>
      rw [text_marked_append] at same
      have lettersOperand : operand.Over chars := lettersOther
      obtain ⟨-, rest⟩ := hypothesisFirst lettersFirst lettersOperand (by simpa using same)
      have told := congrArg sign rest
      rw [sign_joint plain _ lettersSecond, sign_mark] at told
      cases told
  | marked mark operand hypothesis =>
    have lettersOperand : operand.Over chars := letters
    rw [text_marked_append] at same
    cases other with
    | letter => exact absurd same.symm (letter_ne_group plain lettersOther)
    | joined joint first second =>
      rw [text_joined_append] at same
      obtain ⟨lettersFirst, lettersSecond⟩ := lettersOther
      obtain ⟨-, rest⟩ := hypothesis lettersOperand lettersFirst (by simpa using same)
      have told := congrArg sign rest
      rw [sign_joint plain _ lettersSecond, sign_mark] at told
      cases told
    | marked mark' operand' =>
      rw [text_marked_append] at same
      have lettersOperand' : operand'.Over chars := lettersOther
      obtain ⟨rfl, rest⟩ := hypothesis lettersOperand lettersOperand' (by simpa using same)
      have told := congrArg sign rest
      rw [sign_mark, sign_mark] at told
      obtain rfl := Sum.inr.inj told
      exact ⟨rfl, (List.cons.inj (List.append_cancel_left rest)).2⟩

end Plain

end Expression

/-! ### Programs that build expressions -/

namespace Space

/-- The space of the operators of basic regexps and the given characters. -/
def basic (maxAtoms maxOperators : Nat) (chars : List Char) : Space :=
  ⟨maxAtoms, maxOperators, chars.map Char.toString, egrepOperators⟩

variable {maxAtoms maxOperators : Nat} {chars : List Char}

/-- The operators of basic regexps, by the operands they take. -/
theorem operator_cases {index arity : Nat}
    (there : (basic maxAtoms maxOperators chars).arities[index]? = some arity) :
    (∃ joint : Joint, index = joint.index ∧ arity = 2) ∨
      ∃ mark : Mark, index = mark.index ∧ arity = 1 := by
  have arities : (basic maxAtoms maxOperators chars).arities = [2, 2, 1, 1, 1, 1] :=
    show egrepOperators.map Template.placeholders = _ by decide
  rw [arities] at there
  match index with
  | 0 => exact .inl ⟨.nothing, rfl, (Option.some.inj there).symm⟩
  | 1 => exact .inl ⟨.bar, rfl, (Option.some.inj there).symm⟩
  | 2 => exact .inr ⟨.anyNumber, rfl, (Option.some.inj there).symm⟩
  | 3 => exact .inr ⟨.atLeastOnce, rfl, (Option.some.inj there).symm⟩
  | 4 => exact .inr ⟨.optional, rfl, (Option.some.inj there).symm⟩
  | 5 => exact .inr ⟨.anythingAfter, rfl, (Option.some.inj there).symm⟩

/-- The regexp of an expression, as a text. -/
def regexpOf (expression : Expression) : String := .ofList expression.text

/-- An operator that finds its operands puts its filled template into a group. -/
theorem push_operator (space : Space) (index : Nat) (operands stack : List String)
    {template : String} (there : space.operators[index]? = some template)
    (count : Template.placeholders template = operands.length) :
    space.push (operands.reverse ++ stack) (.operator index) =
      .ok (.ofList ('(' :: '?' :: ':' :: (Template.fill template.toList operands ++ [')'])) ::
        stack) := by
  have read : space.operators.getD index "" = template := by
    rw [List.getD_eq_getElem?_getD, there, Option.getD_some]
  have length : operands.length = operands.reverse.length := List.length_reverse.symm
  have enough : ¬(operands.reverse ++ stack).length < operands.length := by
    rw [List.length_append, List.length_reverse]
    omega
  have group : "(?:" ++ String.ofList (Template.fill template.toList operands) ++ ")" =
      .ofList ('(' :: '?' :: ':' :: (Template.fill template.toList operands ++ [')'])) := by
    apply String.toList_injective
    simp
  simp only [push, read, count, if_neg enough]
  rw [length, List.take_left, List.drop_left, List.reverse_reverse, Template.substitute,
    if_pos count]
  exact congrArg (fun text => Except.ok (text :: stack)) group

theorem push_joined (joint : Joint) (first second : Expression) (stack : List String) :
    (basic maxAtoms maxOperators chars).push (regexpOf second :: regexpOf first :: stack)
        (.operator joint.index) =
      .ok (regexpOf (.joined joint first second) :: stack) := by
  have there : (basic maxAtoms maxOperators chars).operators[joint.index]? =
      some joint.template := by cases joint <;> rfl
  have count : Template.placeholders joint.template = 2 := by cases joint <;> decide
  have filled : Template.fill joint.template.toList [regexpOf first, regexpOf second] =
      first.text ++ (joint.text ++ second.text) := by
    cases joint <;> simp [Joint.template, Joint.text, Template.fill, regexpOf]
  refine (push_operator _ _ [regexpOf first, regexpOf second] stack there count).trans ?_
  rw [filled, List.append_assoc, List.append_assoc]
  rfl

theorem push_marked (mark : Mark) (operand : Expression) (stack : List String) :
    (basic maxAtoms maxOperators chars).push (regexpOf operand :: stack)
        (.operator mark.index) =
      .ok (regexpOf (.marked mark operand) :: stack) := by
  have there : (basic maxAtoms maxOperators chars).operators[mark.index]? =
      some mark.template := by cases mark <;> rfl
  have count : Template.placeholders mark.template = 1 := by cases mark <;> decide
  have verbatim : '%' ∉ mark.text := by cases mark <;> decide
  have filled : Template.fill mark.template.toList [regexpOf operand] =
      operand.text ++ mark.text := by
    rw [Mark.template, String.toList_ofList, Template.fill, Template.fill_eq_self verbatim]
    exact congrArg (· ++ mark.text) String.toList_ofList
  refine (push_operator _ _ [regexpOf operand] stack there count).trans ?_
  rw [filled, List.append_assoc]
  rfl

theorem push_letter {index : Nat} (within : index < chars.length) (stack : List String) :
    (basic maxAtoms maxOperators chars).push stack (.atom index) =
      .ok (regexpOf (.letter chars[index]) :: stack) := by
  have read : (chars.map Char.toString).getD index "" = chars[index].toString := by
    rw [List.getD_eq_getElem?_getD, List.getElem?_map, List.getElem?_eq_getElem within]
    rfl
  simp only [push, basic, read]
  rfl

/-- A program writes expressions, last one first: their programs make up the program, and it leaves
their regexps. -/
structure Writes (space : Space) (chars : List Char) (program : Program)
    (expressions : List Expression) : Prop where
  letters : ∀ expression ∈ expressions, expression.Over chars
  program_eq : program = expressions.reverse.flatMap (Expression.program chars)
  run_eq : program.foldlM space.push [] = .ok (expressions.map regexpOf)

section Writes

variable {program : Program} {expressions : List Expression}

theorem foldlM_push_concat {space : Space} {stack after : List String} {token : Token}
    (run : program.foldlM space.push [] = .ok stack) (pushed : space.push stack token = .ok after) :
    (program ++ [token]).foldlM space.push [] = .ok after := by
  rw [List.foldlM_append, run]
  show (space.push stack token >>= pure) = _
  rw [pushed]
  rfl

theorem Writes.letter (distinct : chars.Nodup)
    (writes : (basic maxAtoms maxOperators chars).Writes chars program expressions) {index : Nat}
    (within : index < chars.length) :
    (basic maxAtoms maxOperators chars).Writes chars (program ++ [.atom index])
      (.letter chars[index] :: expressions) where
  letters := List.forall_mem_cons.mpr ⟨List.getElem_mem within, writes.letters⟩
  program_eq := by
    rw [writes.program_eq]
    simp [Expression.program, distinct.idxOf_getElem]
  run_eq := foldlM_push_concat writes.run_eq (push_letter within _)

theorem Writes.joined (joint : Joint) {first second : Expression}
    (writes : (basic maxAtoms maxOperators chars).Writes chars program
      (second :: first :: expressions)) :
    (basic maxAtoms maxOperators chars).Writes chars (program ++ [.operator joint.index])
      (.joined joint first second :: expressions) where
  letters := by
    obtain ⟨lettersSecond, others⟩ := List.forall_mem_cons.mp writes.letters
    obtain ⟨lettersFirst, others⟩ := List.forall_mem_cons.mp others
    exact List.forall_mem_cons.mpr ⟨⟨lettersFirst, lettersSecond⟩, others⟩
  program_eq := by
    rw [writes.program_eq]
    simp [Expression.program]
  run_eq := foldlM_push_concat writes.run_eq (push_joined joint first second _)

theorem Writes.marked (mark : Mark) {operand : Expression}
    (writes : (basic maxAtoms maxOperators chars).Writes chars program (operand :: expressions)) :
    (basic maxAtoms maxOperators chars).Writes chars (program ++ [.operator mark.index])
      (.marked mark operand :: expressions) where
  letters := by
    obtain ⟨letters, others⟩ := List.forall_mem_cons.mp writes.letters
    exact List.forall_mem_cons.mpr ⟨letters, others⟩
  program_eq := by
    rw [writes.program_eq]
    simp [Expression.program]
  run_eq := foldlM_push_concat writes.run_eq (push_marked mark operand _)

/-- **A program writes the expressions that it leaves.** -/
theorem exists_expressions (distinct : chars.Nodup) {depth : Nat}
    (leaves : (basic maxAtoms maxOperators chars).depth? program = some depth) :
    ∃ expressions, expressions.length = depth ∧
      (basic maxAtoms maxOperators chars).Writes chars program expressions := by
  induction program using List.reverseRecOn generalizing depth with
  | nil => exact ⟨[], Option.some.inj leaves, by simp, rfl, rfl⟩
  | append_singleton start token hypothesis =>
    rw [depth?, depthFrom?_append] at leaves
    obtain ⟨middle, before, step⟩ := Option.bind_eq_some_iff.mp leaves
    obtain ⟨_, after, last⟩ := Option.bind_eq_some_iff.mp step
    obtain rfl := Option.some.inj last
    obtain ⟨expressions, rfl, writes⟩ := hypothesis before
    cases token with
    | atom index =>
      simp only [depthAfter?, Option.ite_none_right_eq_some, Option.some.injEq] at after
      obtain ⟨below, rfl⟩ := after
      have within : index < chars.length := by simpa [basic] using below
      exact ⟨.letter chars[index] :: expressions, rfl, writes.letter distinct within⟩
    | operator index =>
      simp only [depthAfter?] at after
      split at after
      · next arity there =>
        simp only [Option.ite_none_right_eq_some, Option.some.injEq] at after
        obtain ⟨enough, rfl⟩ := after
        obtain ⟨joint, rfl, rfl⟩ | ⟨mark, rfl, rfl⟩ := operator_cases there
        · rcases expressions with _ | ⟨second, _ | ⟨first, rest⟩⟩
          · simp at enough
          · simp at enough
          · refine ⟨_, ?_, writes.joined joint⟩
            simp only [List.length_cons]
            omega
        · rcases expressions with _ | ⟨operand, rest⟩
          · simp at enough
          · refine ⟨_, ?_, writes.marked mark⟩
            simp only [List.length_cons]
            omega
      · cases after

end Writes

/-- **Programs that build the same regexp are the same**, when no letter is a metacharacter. -/
theorem eq_of_render (distinct : chars.Nodup) (plain : ∀ char ∈ chars, char ∉ metacharacters)
    {one other : Program} {regexp : String}
    (single : (basic maxAtoms maxOperators chars).depth? one = some 1)
    (singleOther : (basic maxAtoms maxOperators chars).depth? other = some 1)
    (rendered : (basic maxAtoms maxOperators chars).render one = .ok regexp)
    (renderedOther : (basic maxAtoms maxOperators chars).render other = .ok regexp) :
    one = other := by
  obtain ⟨expressions, length, writes⟩ := exists_expressions distinct single
  obtain ⟨others, lengthOther, writesOther⟩ := exists_expressions distinct singleOther
  obtain ⟨expression, rfl⟩ := List.length_eq_one_iff.mp length
  obtain ⟨expression', rfl⟩ := List.length_eq_one_iff.mp lengthOther
  have text : regexpOf expression = regexp := by
    rw [render, writes.run_eq] at rendered
    exact Except.ok.inj rendered
  have textOther : regexpOf expression' = regexp := by
    rw [render, writesOther.run_eq] at renderedOther
    exact Except.ok.inj renderedOther
  have same : expression.text ++ [] = expression'.text ++ [] := by
    rw [List.append_nil, List.append_nil]
    exact String.ofList_injective (text.trans textOther.symm)
  have letters := writes.letters expression List.mem_cons_self
  have lettersOther := writesOther.letters expression' List.mem_cons_self
  obtain ⟨rfl, -⟩ := Expression.eq_of_text_append plain letters lettersOther same
  rw [writes.program_eq, writesOther.program_eq]

end Space

namespace Candidates

/-- **No basic regexp is yielded twice.** For any bounds and any distinct characters that are no
metacharacters, a source of the regexps of these characters can be made, and the texts that it
yields are distinct. -/
theorem yields_nodup (maxAtoms maxOperators : Nat) (chars : List Char) (distinct : chars.Nodup)
    (plain : ∀ char ∈ chars, char ∉ metacharacters) :
    ∃ source texts, ofSpace (.basic maxAtoms maxOperators chars) = .ok source ∧
      source.Yields texts ∧ texts.Nodup := by
  have takes : ∀ operator ∈ egrepOperators, Template.placeholders operator ≠ 0 := by decide
  have made : ofSpace (.basic maxAtoms maxOperators chars) =
      .ok (atWalk (.basic maxAtoms maxOperators chars) .start) := ofSpace_eq takes
  obtain ⟨texts, rendered⟩ := (Space.basic maxAtoms maxOperators chars).exists_regexps
  refine ⟨_, texts, made, yields_of_ofSpace made rendered, ?_⟩
  refine nodup_of_mapM rendered (Space.programs_nodup _) fun one first other second regexp => ?_
  exact Space.eq_of_render distinct plain (Space.builds_of_mem_programs first).depth_eq
    (Space.builds_of_mem_programs second).depth_eq

/-- Letters that look like parts of the marks and of groups, but are no metacharacters. -/
theorem yields_nodup_marks :
    ['s', '.', ':'].Nodup ∧ (∀ char ∈ ['s', '.', ':'], char ∉ metacharacters) ∧
      ∃ source texts, ofSpace (.basic 3 2 ['s', '.', ':']) = .ok source ∧
        source.Yields texts ∧ texts.Nodup := by
  have plain : ∀ char ∈ ['s', '.', ':'], char ∉ metacharacters := by simp [metacharacters]
  exact ⟨by decide, plain, yields_nodup 3 2 ['s', '.', ':'] (by decide) plain⟩

end Candidates

end Crosscheck
