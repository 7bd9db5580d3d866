import LineSearch.Pattern
import LineSearch.Proofs.Search.Placements
import LineSearch.Proofs.Token.Grammar

/-!
# Texts that are quoted in a pattern

Any text can be quoted: a character that means itself stands bare, and a backslash in front takes
the meaning off any other, or off any but the three that a backslash gives one to. What a quoted
text is read as does not depend on the spelling, also where the marks that bind a pattern to the
ends of the line stand around it (`ofText_anchored`).
-/

namespace LineSearch

/-! ## Quoting -/

/-- The second text is a spelling of the first in which every character stands for itself. -/
inductive Quotes : Text → Text → Prop
  | nil : Quotes [] []
  | bare {c : Char} {text spelling : Text} :
      c ∉ ['\\', '[', '(', '.', '^', '$', '+', '?'] → Quotes text spelling →
        Quotes (c :: text) (c :: spelling)
  | escaped {c : Char} {text spelling : Text} :
      c ∉ ['d', 'w', 's'] → Quotes text spelling → Quotes (c :: text) ('\\' :: c :: spelling)

def literals (text : Text) : List Token :=
  text.map fun c => ⟨.literal c, .once⟩

/-- Every text can be quoted: only letters that a backslash gives a meaning to must be bare. -/
theorem exists_quotes (text : Text) : ∃ spelling, Quotes text spelling := by
  induction text with
  | nil => exact ⟨[], .nil⟩
  | cons c text ih =>
      obtain ⟨spelling, h⟩ := ih
      by_cases hletter : c ∈ ['d', 'w', 's']
      · have hbare : c ∉ ['\\', '[', '(', '.', '^', '$', '+', '?'] := by
          simp only [List.mem_cons, List.not_mem_nil, or_false] at hletter
          rcases hletter with rfl | rfl | rfl <;> decide
        exact ⟨c :: spelling, .bare hbare h⟩
      · exact ⟨'\\' :: c :: spelling, .escaped hletter h⟩

namespace Quotes

variable {text spelling : Text}

theorem unmarked_append (h : Quotes text spelling) {rest : Text} (hrest : Unmarked rest) :
    Unmarked (spelling ++ rest) := by
  cases h with
  | nil => exact hrest
  | @bare c text spelling hbare h =>
      simp only [List.mem_cons, not_or] at hbare
      simp [Unmarked, hbare]
  | escaped hescaped h => simp [Unmarked]

/-- A quoted text is read as its characters, whatever stands behind it. -/
theorem tokenize_append (h : Quotes text spelling) {rest : Text} (hrest : Unmarked rest) :
    tokenize (spelling ++ rest) = literals text ++ tokenize rest := by
  induction h with
  | nil => rfl
  | @bare c text spelling hbare h ih =>
      have hspelling : (Token.Kind.literal c).Spelling [c] (spelling ++ rest) := by
        apply Token.Kind.Spelling.bare
        simp only [List.mem_cons, not_or] at hbare ⊢
        simp [hbare]
      have hread := tokenize_spelling_append hspelling (h.unmarked_append hrest)
      rwa [ih] at hread
  | @escaped c text spelling hescaped h ih =>
      have hspelling : (Token.Kind.literal c).Spelling ['\\', c] (spelling ++ rest) := by
        simp only [List.mem_cons, List.not_mem_nil, or_false, not_or] at hescaped
        exact .escaped hescaped.1 hescaped.2.1 hescaped.2.2
      have hread := tokenize_spelling_append hspelling (h.unmarked_append hrest)
      rwa [ih] at hread

theorem tokenize_eq (h : Quotes text spelling) : tokenize spelling = literals text := by
  have hend : Unmarked [] := ⟨nofun, nofun⟩
  have hread := h.tokenize_append hend
  rwa [tokenize_nil, List.append_nil, List.append_nil] at hread

end Quotes

/-! ## Patterns bound to the ends of the line -/

def Placement.anchored (placement : Placement) (pattern : Text) : Text :=
  match placement with
  | .exact => '^' :: (pattern ++ ['$'])
  | .fromStart => '^' :: pattern
  | .atEnd => pattern ++ ['$']
  | .anywhere => pattern

def Placement.anchoredTokens (placement : Placement) (tokens : List Token) : List Token :=
  match placement with
  | .exact => ⟨.anchor .lineStart, .once⟩ :: (tokens ++ [⟨.anchor .lineEnd, .once⟩])
  | .fromStart => ⟨.anchor .lineStart, .once⟩ :: tokens
  | .atEnd => tokens ++ [⟨.anchor .lineEnd, .once⟩]
  | .anywhere => tokens

section OfTokens

variable {tokens : List Token} {mark : Anchor}
  (hinner : ∀ token ∈ tokens, token.isAnchor mark = false)

include hinner

theorem any_isAnchor_head? : tokens.head?.any (·.isAnchor mark) = false := by
  rw [Option.any_eq_false]
  intro token hhead
  simp [hinner token (List.mem_of_mem_head? hhead)]

theorem any_isAnchor_getLast? : tokens.getLast?.any (·.isAnchor mark) = false := by
  rw [Option.any_eq_false]
  intro token hlast
  simp [hinner token (List.mem_of_getLast? hlast)]

end OfTokens

/-- The two ends of a sequence of two tokens or more bind the pattern independently. -/
theorem Pattern.ofTokens_cons_concat (first last : Token) (tokens : List Token) :
    ofTokens (first :: (tokens ++ [last])) =
      let inner := if last.isAnchor .lineEnd then tokens else tokens ++ [last]
      ⟨if first.isAnchor .lineStart then inner else first :: inner,
        first.isAnchor .lineStart, last.isAnchor .lineEnd⟩ := by
  unfold ofTokens
  rw [← List.cons_append, List.getLast?_concat, List.dropLast_concat]
  simp only [List.cons_append, List.head?_cons, Option.any_some]
  cases first.isAnchor .lineStart <;> cases last.isAnchor .lineEnd <;> rfl

/-- Anchors around tokens that are no anchors are taken off again and bind the pattern. -/
theorem Pattern.ofTokens_anchoredTokens {tokens : List Token}
    (hinner : ∀ token ∈ tokens, ∀ mark, token.isAnchor mark = false) (placement : Placement) :
    ofTokens (placement.anchoredTokens tokens) = placement.pattern tokens := by
  cases placement with
  | exact => exact ofTokens_cons_concat _ _ tokens
  | fromStart =>
      have hlast : (Placement.fromStart.anchoredTokens tokens).getLast?.any
          (·.isAnchor .lineEnd) = false := by
        apply any_isAnchor_getLast?
        intro token hmem
        rcases List.mem_cons.mp hmem with rfl | hmem
        · rfl
        · exact hinner token hmem .lineEnd
      unfold ofTokens
      rw [hlast]
      rfl
  | atEnd =>
      have hfirst : (Placement.atEnd.anchoredTokens tokens).head?.any
          (·.isAnchor .lineStart) = false := by
        apply any_isAnchor_head?
        intro token hmem
        rcases List.mem_append.mp hmem with hmem | hmem
        · exact hinner token hmem .lineStart
        · obtain rfl := List.mem_singleton.mp hmem
          rfl
      unfold ofTokens
      rw [hfirst, Placement.anchoredTokens, List.getLast?_concat, List.dropLast_concat]
      rfl
  | anywhere =>
      have hfirst := any_isAnchor_head? fun token hmem => hinner token hmem .lineStart
      have hlast := any_isAnchor_getLast? fun token hmem => hinner token hmem .lineEnd
      unfold ofTokens
      rw [Placement.anchoredTokens, hfirst, hlast]
      rfl

namespace Quotes

variable {text spelling : Text} (h : Quotes text spelling)

include h

theorem tokenize_anchored (placement : Placement) :
    tokenize (placement.anchored spelling) = placement.anchoredTokens (literals text) := by
  have hnil : Unmarked [] := ⟨nofun, nofun⟩
  have hmark : Unmarked ['$'] := ⟨by decide, by decide⟩
  have hend : tokenize ['$'] = [⟨.anchor .lineEnd, .once⟩] := by
    have hread := tokenize_spelling_append .lineEnd hnil
    rwa [tokenize_nil, List.append_nil] at hread
  have hstart : ∀ {rest}, Unmarked rest → tokenize ('^' :: rest) =
      ⟨.anchor .lineStart, .once⟩ :: tokenize rest := tokenize_spelling_append .lineStart
  cases placement with
  | exact =>
      rw [Placement.anchored, hstart (h.unmarked_append hmark), h.tokenize_append hmark, hend]
      rfl
  | fromStart =>
      have hunmarked := h.unmarked_append hnil
      rw [List.append_nil] at hunmarked
      rw [Placement.anchored, hstart hunmarked, h.tokenize_eq]
      rfl
  | atEnd =>
      rw [Placement.anchored, h.tokenize_append hmark, hend]
      rfl
  | anywhere => exact h.tokenize_eq

theorem ofText_anchored (placement : Placement) :
    Pattern.ofText (placement.anchored spelling) = placement.pattern (literals text) := by
  rw [Pattern.ofText, h.tokenize_anchored]
  apply Pattern.ofTokens_anchoredTokens
  intro token hmem mark
  obtain ⟨c, -, rfl⟩ := List.mem_map.mp hmem
  rfl

end Quotes

end LineSearch
