/-
**Templates are counted and filled alike.**

A template is read from left to right, and the rules say what each piece of it becomes. Counting the
placeholders takes whatever follows a percent sign with it; filling leaves it to be read again,
unless it is an `s` or another percent sign. Both find the same placeholders, and so does a count
over the bytes of a template, which may take half of a character with a percent sign.

* `Template.Fills`: what a template becomes with its arguments, piece by piece;
* `Template.fills_iff`: as many arguments as were counted fill a template, and in one way;
* `Template.substitute_cases`: filling a template succeeds exactly with that many arguments;
* `Template.fill_eq_self`: a template without percent signs is a text;
* `Template.placeholdersInBytes`, `Template.placeholdersInBytes_eq`: counting over bytes.
-/
import Crosscheck.Template
import Crosscheck.Proofs.Text.Splitting

namespace Crosscheck

namespace Template

variable {template filled : List Char} {arguments : List String}

/-! ### The rules -/

/-- **What a template becomes**, read from left to right: a placeholder becomes the next argument,
word for word; two percent signs become one, and a percent sign before anything else stays; any
other character stays. All arguments are used. -/
inductive Fills : List Char → List String → List Char → Prop
  | done : Fills [] [] []
  | argument {rest filled : List Char} {arguments : List String} (argument : String)
      (others : Fills rest arguments filled) :
      Fills ('%' :: 's' :: rest) (argument :: arguments) (argument.toList ++ filled)
  | doubled {rest filled : List Char} {arguments : List String}
      (others : Fills rest arguments filled) :
      Fills ('%' :: '%' :: rest) arguments ('%' :: filled)
  | percent {rest filled : List Char} {arguments : List String}
      (single : ∀ char after, rest = char :: after → char ≠ 's' ∧ char ≠ '%')
      (others : Fills rest arguments filled) : Fills ('%' :: rest) arguments ('%' :: filled)
  | verbatim {rest filled : List Char} {arguments : List String} {char : Char}
      (other : char ≠ '%') (others : Fills rest arguments filled) :
      Fills (char :: rest) arguments (char :: filled)

/-! ### Counting and filling -/

theorem placeholdersIn_verbatim {char : Char} (other : char ≠ '%') (rest : List Char) :
    placeholdersIn (char :: rest) = placeholdersIn rest := by
  rw [placeholdersIn]
  · exact fun _ same => absurd same other
  · exact fun _ _ same => absurd same other

/-- What is taken along with a single percent sign is no placeholder. -/
theorem placeholdersIn_percent {rest : List Char}
    (single : ∀ char after, rest = char :: after → char ≠ 's' ∧ char ≠ '%') :
    placeholdersIn ('%' :: rest) = placeholdersIn rest := by
  cases rest with
  | nil => rfl
  | cons char after =>
    obtain ⟨notArgument, notPercent⟩ := single char after rfl
    rw [placeholdersIn_verbatim notPercent, placeholdersIn]
    exact notArgument

theorem fill_verbatim {char : Char} (other : char ≠ '%') (rest : List Char)
    (arguments : List String) : fill (char :: rest) arguments = char :: fill rest arguments := by
  rw [fill]
  · exact fun _ same => absurd same other
  · exact fun _ same => absurd same other

theorem fill_percent {rest : List Char}
    (single : ∀ char after, rest = char :: after → char ≠ 's' ∧ char ≠ '%')
    (arguments : List String) : fill ('%' :: rest) arguments = '%' :: fill rest arguments := by
  rw [fill]
  · exact fun after _ same => (single 's' after same).1 rfl
  · exact fun after _ same => (single '%' after same).2 rfl

/-- Filling follows the rules when the number of arguments is right. -/
theorem fills_fill (count : arguments.length = placeholdersIn template) :
    Fills template arguments (fill template arguments) := by
  fun_induction fill template arguments with
  | case1 rest arguments hypothesis =>
    obtain ⟨argument, others, rfl⟩ := List.exists_cons_of_length_eq_add_one count
    exact .argument argument (hypothesis (Nat.succ.inj count))
  | case2 rest arguments hypothesis => exact .doubled (hypothesis count)
  | case3 char rest arguments notArgument notDoubled hypothesis =>
    by_cases percent : char = '%'
    · obtain rfl := percent
      have single : ∀ char after, rest = char :: after → char ≠ 's' ∧ char ≠ '%' := by
        rintro char after rfl
        exact ⟨fun same => notArgument after rfl (same ▸ rfl),
          fun same => notDoubled after rfl (same ▸ rfl)⟩
      rw [placeholdersIn_percent single] at count
      exact .percent single (hypothesis count)
    · rw [placeholdersIn_verbatim percent] at count
      exact .verbatim percent (hypothesis count)
  | case4 arguments =>
    obtain rfl := List.eq_nil_of_length_eq_zero count
    exact .done

/-- The rules use as many arguments as were counted, and leave no choice. -/
theorem Fills.eq (fills : Fills template arguments filled) :
    arguments.length = placeholdersIn template ∧ filled = fill template arguments := by
  induction fills with
  | done => exact ⟨rfl, rfl⟩
  | argument argument others hypothesis =>
    obtain ⟨count, rfl⟩ := hypothesis
    exact ⟨congrArg Nat.succ count, rfl⟩
  | doubled others hypothesis =>
    obtain ⟨count, rfl⟩ := hypothesis
    exact ⟨count, rfl⟩
  | percent single others hypothesis =>
    obtain ⟨count, rfl⟩ := hypothesis
    rw [placeholdersIn_percent single, fill_percent single]
    exact ⟨count, rfl⟩
  | verbatim other others hypothesis =>
    obtain ⟨count, rfl⟩ := hypothesis
    rw [placeholdersIn_verbatim other, fill_verbatim other]
    exact ⟨count, rfl⟩

/-- **A template is filled by as many arguments as it has placeholders**, and in one way. -/
theorem fills_iff : Fills template arguments filled ↔
    arguments.length = placeholdersIn template ∧ filled = fill template arguments := by
  refine ⟨Fills.eq, ?_⟩
  rintro ⟨count, rfl⟩
  exact fills_fill count

/-- **Filling a template fails exactly for the number of arguments**, and otherwise follows the
rules. -/
theorem substitute_cases (template : String) (arguments : List String) :
    match substitute template arguments with
    | .ok text => arguments.length = placeholders template ∧
        ∀ filled, Fills template.toList arguments filled ↔ filled = text.toList
    | .error violation => arguments.length ≠ placeholders template ∧
        violation = .argumentCount template (placeholders template) arguments.length := by
  unfold substitute
  by_cases count : placeholders template = arguments.length
  · rw [if_pos count]
    refine ⟨count.symm, fun filled => ?_⟩
    rw [fills_iff, String.toList_ofList]
    exact and_iff_right count.symm
  · rw [if_neg count]
    exact ⟨Ne.symm count, rfl⟩

/-- A template without percent signs is a text. -/
theorem fill_eq_self (verbatim : '%' ∉ template) (arguments : List String) :
    fill template arguments = template := by
  induction template with
  | nil => rw [fill]
  | cons char rest hypothesis =>
    rw [List.mem_cons, not_or] at verbatim
    rw [fill_verbatim (Ne.symm verbatim.1), hypothesis verbatim.2]

/-! ### Counting over bytes -/

/-- The number of placeholders in the bytes of a template. Whatever byte follows a percent sign is
read with it. -/
def placeholdersInBytes : Bytes → Nat
  | 0x25 :: 0x73 :: rest => placeholdersInBytes rest + 1
  | 0x25 :: _ :: rest => placeholdersInBytes rest
  | _ :: rest => placeholdersInBytes rest
  | [] => 0

/-- Bytes that are no percent signs are passed over. -/
theorem placeholdersInBytes_append {bytes : Bytes} (other : ∀ byte ∈ bytes, byte ≠ 0x25)
    (rest : Bytes) : placeholdersInBytes (bytes ++ rest) = placeholdersInBytes rest := by
  induction bytes with
  | nil => rfl
  | cons byte bytes hypothesis =>
    obtain ⟨first, others⟩ := List.forall_mem_cons.mp other
    rw [List.cons_append, placeholdersInBytes, hypothesis others]
    · exact fun _ same => absurd same first
    · exact fun _ _ same => absurd same first

end Template

/-! ### Characters in bytes -/

/-- The first byte of a character is the character or beyond ASCII, and the others are beyond
ASCII. -/
theorem Bytes.exists_utf8EncodeChar (char : Char) :
    ∃ first others, String.utf8EncodeChar char = first :: others ∧
      (first.toNat = char.toNat ∨ 0x80 ≤ first.toNat) ∧
      ∀ byte ∈ others, 0x80 ≤ byte.toNat := by
  by_cases ascii : char.toNat < 0x80
  · refine ⟨_, [], utf8EncodeChar_ascii ascii, .inl ?_, by simp⟩
    exact UInt8.toNat_ofNat_of_lt' (Nat.lt_trans ascii (by decide))
  · have beyond : ∀ number, 0x80 ≤ number → number < 0x100 → 0x80 ≤ (UInt8.ofNat number).toNat := by
      intro number least most
      rwa [UInt8.toNat_ofNat_of_lt' most]
    unfold String.utf8EncodeChar
    have more : ¬ char.val.toNat ≤ 127 := fun less => ascii (Nat.lt_succ_of_le less)
    simp only [if_neg more]
    split
    · refine ⟨_, _, rfl, .inr (beyond _ (by omega) (by omega)), ?_⟩
      simp only [List.forall_mem_cons]
      exact ⟨beyond _ (by omega) (by omega), by simp⟩
    · split
      · refine ⟨_, _, rfl, .inr (beyond _ (by omega) (by omega)), ?_⟩
        simp only [List.forall_mem_cons]
        exact ⟨beyond _ (by omega) (by omega), beyond _ (by omega) (by omega), by simp⟩
      · refine ⟨_, _, rfl, .inr (beyond _ (by omega) (by omega)), ?_⟩
        simp only [List.forall_mem_cons]
        exact ⟨beyond _ (by omega) (by omega), beyond _ (by omega) (by omega),
          beyond _ (by omega) (by omega), by simp⟩

/-- The first byte of a character is no other character of ASCII. -/
theorem Bytes.first_ne {char other : Char} {first : UInt8}
    (itself : first.toNat = char.toNat ∨ 0x80 ≤ first.toNat) (differs : char ≠ other)
    (ascii : other.toNat < 0x80) : first.toNat ≠ other.toNat := by
  intro same
  obtain equal | beyond := itself
  · exact differs (Char.toNat_inj.mp (equal.symm.trans same))
  · omega

namespace Template

/-- **The placeholders in the bytes of a template are those in its characters**, although half of a
character may be read with a percent sign. -/
theorem placeholdersInBytes_eq (template : String) :
    placeholdersInBytes (Bytes.ofText template) = placeholders template := by
  rw [Bytes.ofText_eq_flatMap, placeholders]
  have beyond : ∀ byte : UInt8, 0x80 ≤ byte.toNat → byte ≠ 0x25 := by
    rintro byte beyond rfl
    exact absurd beyond (by decide)
  fun_induction placeholdersIn template.toList with
  | case1 rest hypothesis => exact congrArg Nat.succ hypothesis
  | case2 char rest notArgument hypothesis =>
    obtain ⟨first, others, encoded, itself, high⟩ := Bytes.exists_utf8EncodeChar char
    have notFirst : first ≠ 0x73 := fun same =>
      Bytes.first_ne itself notArgument (by decide) (same ▸ rfl)
    show placeholdersInBytes
      (0x25 :: (String.utf8EncodeChar char ++ rest.flatMap String.utf8EncodeChar)) = _
    rw [encoded, List.cons_append, placeholdersInBytes,
      placeholdersInBytes_append fun byte member => beyond byte (high byte member), hypothesis]
    exact notFirst
  | case3 char rest notArgument notPercent hypothesis =>
    obtain ⟨first, others, encoded, itself, high⟩ := Bytes.exists_utf8EncodeChar char
    by_cases percent : char = '%'
    · -- A percent sign at the end has nothing to be read with.
      obtain rfl := percent
      cases rest with
      | nil => rfl
      | cons next rest => exact absurd rfl (notPercent next rest rfl)
    · have other : ∀ byte ∈ String.utf8EncodeChar char, byte ≠ 0x25 := by
        rw [encoded, List.forall_mem_cons]
        exact ⟨fun same => Bytes.first_ne itself percent (by decide) (same ▸ rfl),
          fun byte member => beyond byte (high byte member)⟩
      rw [List.flatMap_cons, placeholdersInBytes_append other, hypothesis]
  | case4 => rfl

end Template

end Crosscheck
