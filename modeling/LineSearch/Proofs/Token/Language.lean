import LineSearch.Proofs.Token.Nesting
import Mathlib.Computability.Language
import Mathlib.Order.CompletePartialOrder

/-!
# The language of tokens

The words that tokens spell, as a regular language and without any search: a kind that takes single
characters spells the words of one such character, a group the words of any of its branches, a
quantifier adds the empty word or takes one or more words in a row, and a sequence concatenates. An
anchor that is left among the tokens spells its own character.
-/

namespace LineSearch

open Computability

/-- The words of as many occurrences as the quantifier allows, given those of a single one. -/
def Quantifier.language (quantifier : Quantifier) (once : Language Char) : Language Char :=
  match quantifier with
  | .once => once
  | .optional => once + 1
  | .repeated => once * once∗

def charLanguage (accepts : Char → Bool) : Language Char :=
  {word | ∃ c, accepts c = true ∧ word = [c]}

mutual

def Token.Kind.language (kind : Token.Kind) : Language Char :=
  match kind with
  | .group branches => ⨆ (branch : Text) (_ : branch ∈ branches), language (tokenize branch)
  | kind => charLanguage kind.accepts
termination_by kind.weight
decreasing_by exact weight_tokenize_lt (by assumption)

def language (tokens : List Token) : Language Char :=
  match tokens with
  | [] => 1
  | token :: rest => token.quantifier.language token.kind.language * language rest
termination_by weight tokens
decreasing_by all_goals rw [weight_cons]; omega

end

theorem mem_language_nil (word : Text) : word ∈ language [] ↔ word = [] := by
  rw [language, Language.mem_one]

theorem mem_language_cons (token : Token) (rest : List Token) (word : Text) :
    word ∈ language (token :: rest) ↔
      ∃ front ∈ token.quantifier.language token.kind.language, ∃ back ∈ language rest,
        front ++ back = word := by
  rw [language, Language.mem_mul]

namespace Token.Kind

theorem mem_language_group (branches : List Text) (word : Text) :
    word ∈ (Kind.group branches).language ↔
      ∃ branch ∈ branches, word ∈ LineSearch.language (tokenize branch) := by
  rw [Kind.language, Language.mem_iSup]
  simp only [Language.mem_iSup, exists_prop]

theorem language_single {kind : Kind} (hsingle : kind.isSingle = true) :
    kind.language = charLanguage kind.accepts := by
  cases kind with
  | group branches => contradiction
  | _ => rw [Kind.language]; simp

end Token.Kind

namespace Quantifier

variable {once : Language Char} {word : Text}

theorem mem_language_optional : word ∈ optional.language once ↔ word ∈ once ∨ word = [] := by
  rw [language, Language.mem_add, Language.mem_one]

/-- One occurrence is enough for every quantifier. -/
theorem mem_language_of_once (quantifier : Quantifier) (h : word ∈ once) :
    word ∈ quantifier.language once := by
  cases quantifier with
  | once => exact h
  | optional => exact mem_language_optional.mpr (.inl h)
  | repeated =>
      exact Language.mem_mul.mpr ⟨word, h, [], Language.nil_mem_kstar once, List.append_nil word⟩

theorem append_mem_language_repeated {more : Text} (h : word ∈ once)
    (hmore : more ∈ repeated.language once) : word ++ more ∈ repeated.language once :=
  Language.append_mem_mul h ((mul_kstar_le_kstar : once * once∗ ≤ once∗) hmore)

end Quantifier

end LineSearch
