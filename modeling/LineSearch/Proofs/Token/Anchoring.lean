import LineSearch.Proofs.Token.Concatenation
import LineSearch.Proofs.Token.Quoting

/-!
# Anchors around the text of a pattern

A `^` in front of a text and a `$` behind it bind the pattern to both ends of the line, also if they
are marked with quantifiers, and what is left is read as the text alone would be, with the anchors
that stand inside it (`ofText_between_anchors`). Only an odd number of backslashes in front of the
`$` takes its meaning off.
-/

namespace LineSearch

/-! ## Marked anchors -/

def Quantifier.mark : Quantifier → Text
  | .once => []
  | .optional => ['?']
  | .repeated => ['+']

theorem Quantifier.mark_of_unmarked {quantifier : Quantifier} {rest : Text}
    (h : quantifier = .once → Unmarked rest) : quantifier.Mark quantifier.mark rest := by
  cases quantifier with
  | once => exact .once (h rfl).1 (h rfl).2
  | optional => exact .optional
  | repeated => exact .repeated

theorem tokenize_lineStart {quantifier : Quantifier} {rest : Text}
    (h : quantifier = .once → Unmarked rest) :
    tokenize ('^' :: (quantifier.mark ++ rest)) =
      ⟨.anchor .lineStart, quantifier⟩ :: tokenize rest :=
  tokenize_spelling_mark .lineStart (Quantifier.mark_of_unmarked h)

theorem exists_tokenize_lineStart (rest : Text) :
    ∃ quantifier tokens, tokenize ('^' :: rest) = ⟨.anchor .lineStart, quantifier⟩ :: tokens :=
  ⟨_, _, tokenize_cons '^' rest⟩

theorem tokenize_lineEnd (quantifier : Quantifier) :
    tokenize ('$' :: quantifier.mark) = [⟨.anchor .lineEnd, quantifier⟩] := by
  have hmark : quantifier.Mark quantifier.mark [] :=
    Quantifier.mark_of_unmarked fun _ => ⟨nofun, nofun⟩
  have hread := tokenize_spelling_mark .lineEnd hmark
  rwa [List.append_nil, tokenize_nil] at hread

theorem unmarked_lineEnd (quantifier : Quantifier) : Unmarked ('$' :: quantifier.mark) :=
  ⟨by simp, by simp⟩

/-! ## Texts between anchors -/

theorem tokenize_append_lineEnd {pattern : Text} (h : Even (trailingBackslashes pattern))
    (quantifier : Quantifier) :
    tokenize (pattern ++ '$' :: quantifier.mark) =
      tokenize pattern ++ [⟨.anchor .lineEnd, quantifier⟩] := by
  have hbrackets : ']' ∉ '$' :: quantifier.mark ∧ ')' ∉ '$' :: quantifier.mark := by
    cases quantifier <;> decide
  have hescape : ['\\'] ∉ readings pattern := by
    rwa [lone_backslash_mem_readings_iff, Nat.not_odd_iff_even]
  rw [← tokenize_lineEnd]
  exact (spells_tokenize pattern).tokenize_append hescape (.inl (unmarked_lineEnd quantifier))
    (.inl hbrackets)

/-- An odd number of backslashes ends in one that stands behind pairs. -/
theorem exists_append_backslash {pattern : Text} (h : Odd (trailingBackslashes pattern)) :
    ∃ front, pattern = front ++ ['\\'] ∧ escapePending false front = false := by
  rw [← escapePending_eq_true_iff] at h
  rcases List.eq_nil_or_concat pattern with rfl | ⟨front, c, rfl⟩
  · contradiction
  · rw [List.concat_eq_append] at h ⊢
    rw [escapePending_concat, Bool.and_eq_true, beq_iff_eq, Bool.not_eq_true'] at h
    exact ⟨front, by rw [h.1], h.2⟩

theorem tokenize_append_escaped {front : Text} (h : escapePending false front = false) :
    tokenize (front ++ ['\\', '$']) = tokenize front ++ [⟨.literal '$', .once⟩] := by
  have hread : tokenize ['\\', '$'] = [⟨.literal '$', .once⟩] := by decide +kernel
  have hescape : ['\\'] ∉ readings front := by
    rw [(spells_tokenize front).lone_backslash_mem_readings_iff_escapePending, h]
    decide
  rw [← hread]
  exact (spells_tokenize front).tokenize_append hescape (.inl ⟨by decide, by decide⟩)
    (.inl ⟨by decide, by decide⟩)

theorem escapePending_lineStart (quantifier : Quantifier) (rest : Text) :
    escapePending false ('^' :: (quantifier.mark ++ rest)) = escapePending false rest := by
  cases quantifier <;> rfl

/-- Where a text ends in an even number of backslashes, the anchors written around it, with or
without marks, are what binds the pattern to both ends of the line, and its tokens are those of the
text. Where it ends in an odd number, the `$` behind it is escaped: it is the last of the tokens, a
plain character, and the pattern is not bound to the end. -/
theorem ofText_between_anchors (pattern : Text) (first last : Quantifier) :
    (Even (trailingBackslashes pattern) → (first = .once → Unmarked pattern) →
      Pattern.ofText ('^' :: (first.mark ++ (pattern ++ '$' :: last.mark))) =
        ⟨tokenize pattern, true, true⟩) ∧
    (Odd (trailingBackslashes pattern) →
      ∃ tokens, Pattern.ofText ('^' :: (first.mark ++ (pattern ++ ['$']))) =
        ⟨tokens ++ [⟨.literal '$', .once⟩], true, false⟩) := by
  constructor
  · intro heven hpattern
    have hfirst : first = .once → Unmarked (pattern ++ '$' :: last.mark) := by
      intro honce
      cases pattern with
      | nil => exact unmarked_lineEnd last
      | cons c rest => exact hpattern honce
    rw [Pattern.ofText, tokenize_lineStart hfirst, tokenize_append_lineEnd heven]
    exact Pattern.ofTokens_cons_concat _ _ (tokenize pattern)
  · intro hodd
    obtain ⟨front, rfl, hfront⟩ := exists_append_backslash hodd
    have hescape := (escapePending_lineStart first front).trans hfront
    have hread := tokenize_append_escaped hescape
    obtain ⟨mark, tokens, htokens⟩ := exists_tokenize_lineStart (first.mark ++ front)
    refine ⟨tokens, ?_⟩
    rw [Pattern.ofText, List.append_assoc, List.singleton_append, ← List.append_assoc,
      ← List.cons_append, hread, htokens]
    exact Pattern.ofTokens_cons_concat _ _ tokens

/-- The text `^(\\` holds an anchor of its own, a group that nothing closes and a pair of
backslashes; behind `a\` the `$` is escaped. -/
theorem ofText_between_anchors_of_unclosed_group :
    (Even (trailingBackslashes ['^', '(', '\\', '\\']) ∧ Unmarked ['^', '(', '\\', '\\'] ∧
      Pattern.ofText ['^', '^', '(', '\\', '\\', '$', '?'] =
        ⟨tokenize ['^', '(', '\\', '\\'], true, true⟩) ∧
    Odd (trailingBackslashes ['a', '\\']) ∧
      ∃ tokens, Pattern.ofText ['^', 'a', '\\', '$'] =
        ⟨tokens ++ [⟨.literal '$', .once⟩], true, false⟩ := by
  have heven : Even (trailingBackslashes ['^', '(', '\\', '\\']) := by decide
  have hunmarked : Unmarked ['^', '(', '\\', '\\'] := ⟨by decide, by decide⟩
  have hodd : Odd (trailingBackslashes ['a', '\\']) := by decide
  refine ⟨⟨heven, hunmarked, ?_⟩, hodd, ?_⟩
  · exact (ofText_between_anchors _ .once .optional).1 heven fun _ => hunmarked
  · exact (ofText_between_anchors _ .once .once).2 hodd

end LineSearch
