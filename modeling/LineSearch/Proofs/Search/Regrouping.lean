import LineSearch.Proofs.Search.Interchange
import LineSearch.Proofs.Token.GroupText

/-!
# Groups that make no difference

A branch that is nothing but a group in parentheses offers one end, the one that the group would
prefer. A group around it that repeats goes on from the preferred end only, so it makes no
difference whether the inner branches are chosen from first or stand among the outer ones. A group
that stands once goes back to the others, so there the inner parentheses are redundant only around a
single branch (`redundant_group_removed`).
-/

namespace LineSearch

namespace Token.Kind

variable (chars : Array Char)

theorem ends_group_singleton (branch : Text) (pos : Nat) :
    (Kind.group [branch]).ends chars pos =
      (matchEnds chars (tokenize branch) pos).head?.toList := by
  rw [ends_group, List.filterMap_cons, List.filterMap_nil]
  cases (matchEnds chars (tokenize branch) pos).head? <;> rfl

/-! ## A group in parentheses as a branch -/

section Inner

variable {inner : List Text} (hne : inner ≠ []) (hinner : ∀ branch ∈ inner, IsBranch branch)

include hne hinner

/-- Of the ends that a group offers, it offers only the preferred one as a branch. -/
theorem ends_group_inParens (pos : Nat) :
    (Kind.group [inParens (['|'].intercalate inner)]).ends chars pos =
      ((Kind.group inner).ends chars pos).head?.toList := by
  have hread := (tokenize_inParens_eq_iff _ inner).mpr (divides_intercalate hne hinner)
  rw [ends_group_singleton, hread, matchEnds_singleton]
  rfl

theorem head?_ends_group_inParens (before after : List Text) (pos : Nat) :
    ((Kind.group (before ++ [inParens (['|'].intercalate inner)] ++ after)).ends chars pos).head? =
      ((Kind.group (before ++ inner ++ after)).ends chars pos).head? := by
  rw [ends_group_append, ends_group_append, ends_group_append, ends_group_append,
    ends_group_inParens chars hne hinner]
  simp only [List.head?_append, Option.head?_toList]

theorem ends_group_inParens_of_length (hlength : inner.length = 1) (before after : List Text)
    (pos : Nat) :
    (Kind.group (before ++ [inParens (['|'].intercalate inner)] ++ after)).ends chars pos =
      (Kind.group (before ++ inner ++ after)).ends chars pos := by
  obtain ⟨branch, rfl⟩ := List.length_eq_one_iff.mp hlength
  have hsingle : ((Kind.group [branch]).ends chars pos).head?.toList =
      (Kind.group [branch]).ends chars pos := by
    rw [ends_group_singleton, Option.head?_toList]
  rw [ends_group_append, ends_group_append, ends_group_append, ends_group_append,
    ends_group_inParens chars hne hinner, hsingle]

end Inner

end Token.Kind

/-- The parentheses are redundant where the outer group repeats, and around a single branch. -/
theorem Token.ends_group_inParens {inner : List Text} (hne : inner ≠ [])
    (hinner : ∀ branch ∈ inner, IsBranch branch) {quantifier : Quantifier}
    (hredundant : quantifier = .repeated ∨ inner.length = 1) (before after : List Text)
    (chars : Array Char) (pos : Nat) :
    Token.ends chars ⟨.group (before ++ [inParens (['|'].intercalate inner)] ++ after), quantifier⟩
        pos =
      Token.ends chars ⟨.group (before ++ inner ++ after), quantifier⟩ pos := by
  rcases hredundant with rfl | hlength
  · have hfirst := Kind.head?_ends_group_inParens chars hne hinner before after
    exact Quantifier.ends_repeated_congr hfirst chars.size pos
  · have hkind := Kind.ends_group_inParens_of_length chars hne hinner hlength before after
    rw [Token.ends, Token.ends, funext hkind]

/-- A branch that is a group in parentheses can be replaced by the branches of that group if the
outer group repeats or the inner one has a single branch: every match has the same end, whatever the
token stands among. A group with a single branch is matched alone, with no end required, as its
branch is. -/
theorem redundant_group_removed :
    (∀ (inner : List Text), inner ≠ [] → (∀ branch ∈ inner, Token.IsBranch branch) →
      ∀ quantifier, quantifier = .repeated ∨ inner.length = 1 →
      ∀ (before after : List Text) (tokens : List Token) (place : Nat) (chars : Array Char)
        (pos index : Nat) (required : Option Nat),
        matchAt? chars pos
            (tokens.set place
              ⟨.group (before ++ [Token.inParens (['|'].intercalate inner)] ++ after), quantifier⟩)
            index required =
          matchAt? chars pos
            (tokens.set place ⟨.group (before ++ inner ++ after), quantifier⟩) index required) ∧
    ∀ (branch : Text) (chars : Array Char) (pos : Nat),
      matchAt? chars pos [⟨.group [branch], .once⟩] 0 none =
        matchAt? chars pos (tokenize branch) 0 none := by
  constructor
  · intro inner hne hinner quantifier hredundant before after tokens place chars pos index required
    apply matchAt?_set_of_sameChoices
    intro start
    rw [Token.ends_group_inParens hne hinner hredundant]
    exact .refl _
  · intro branch chars pos
    rw [matchAt?_none, matchAt?_none, List.drop_zero, List.drop_zero, matchEnds_singleton,
      Token.ends, Quantifier.ends, Token.Kind.ends_group_singleton, Option.head?_toList]

/-- In `(x|(ab|a)|b)+b` the outer group repeats and on `abb` gives its last `b` back, with the inner
parentheses and without; those of `((a+))?` are around a single branch. -/
theorem redundant_group_removed_of_repeated_group :
    (∀ branch ∈ [['a', 'b'], ['a']], Token.IsBranch branch) ∧
      matchAt? #['a', 'b', 'b'] 0
          [⟨.group [['x'], ['(', 'a', 'b', '|', 'a', ')'], ['b']], .repeated⟩,
            ⟨.literal 'b', .once⟩] 0 none = some 3 ∧
    (∀ branch ∈ [['a', '+']], Token.IsBranch branch) ∧
      matchAt? #['a', 'a'] 0 [⟨.group [['(', 'a', '+', ')']], .optional⟩] 0 none = some 2 := by
  have hinner : ∀ branch ∈ [['a', 'b'], ['a']], Token.IsBranch branch := by decide +kernel
  have hsingle : ∀ branch ∈ [['a', '+']], Token.IsBranch branch := by decide +kernel
  have hrepeated : matchAt? #['a', 'b', 'b'] 0
      [⟨.group [['x'], ['a', 'b'], ['a'], ['b']], .repeated⟩, ⟨.literal 'b', .once⟩] 0 none =
        some 3 := by decide +kernel
  have hoptional : matchAt? #['a', 'a'] 0 [⟨.group [['a', '+']], .optional⟩] 0 none = some 2 := by
    decide +kernel
  obtain ⟨hremoved, -⟩ := redundant_group_removed
  refine ⟨hinner, ?_, hsingle, ?_⟩
  · exact (hremoved _ (List.cons_ne_nil _ _) hinner .repeated (.inl rfl) [['x']] [['b']]
      [⟨.literal 'a', .once⟩, ⟨.literal 'b', .once⟩] 0 _ 0 0 none).trans hrepeated
  · exact (hremoved _ (List.cons_ne_nil _ _) hsingle .optional (.inr rfl) [] []
      [⟨.literal 'a', .once⟩] 0 _ 0 0 none).trans hoptional

/-- A group that stands once goes back to its later branches, which inner parentheses keep from it:
`((a|ab))c` does not match `abc`. -/
example : matchAt? #['a', 'b', 'c'] 0
    [⟨.group [['(', 'a', '|', 'a', 'b', ')']], .once⟩, ⟨.literal 'c', .once⟩] 0 none = none ∧
    matchAt? #['a', 'b', 'c'] 0
      [⟨.group [['a'], ['a', 'b']], .once⟩, ⟨.literal 'c', .once⟩] 0 none = some 3 := by
  decide +kernel

end LineSearch
