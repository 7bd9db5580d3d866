import LineSearch.Proofs.Token.Grammar

/-!
# The text of a group

Parentheses around a text make a group of it exactly if the text is balanced, and the branches of
that group are the texts that give the whole again when bars are put between them. The other way
round, any texts that can each stand as a branch are the branches of the group that is written with
them (`group_text_inverse_to_branches`). The scan that looks for the end of a group and the one that
splits its body do not know of each other; they agree because the body that the first accepts is
balanced, and on balanced texts the second finds the only branches there are.
-/

namespace LineSearch

namespace Token

def inParens (body : Text) : Text :=
  '(' :: (body ++ [')'])

/-- The text can stand between two bars of a group: it is balanced, and no bar outside of groups
divides it. -/
structure IsBranch (text : Text) : Prop where
  balanced : Balanced text
  undivided : Undivided 0 text

/-! ## Joined texts -/

theorem Scans.append {depth middle stop : Nat} {front back : Text}
    (hfront : Scans depth front middle) (hback : Scans middle back stop) :
    Scans depth (front ++ back) stop := by
  induction hfront with
  | nil => exact hback
  | pair _ ih => exact .pair (ih hback)
  | opening _ ih => exact .opening (ih hback)
  | closing _ ih => exact .closing (ih hback)
  | other hescape hopen hclose _ ih => exact .other hescape hopen hclose (ih hback)

theorem balanced_bar : Balanced ['|'] :=
  .other (by decide) (by decide) (by decide) .nil

theorem balanced_intercalate {branches : List Text}
    (h : ∀ branch ∈ branches, Balanced branch) : Balanced (['|'].intercalate branches) := by
  induction branches with
  | nil => exact .nil
  | cons first rest ih =>
      obtain ⟨hfirst, hrest⟩ := List.forall_mem_cons.mp h
      cases rest with
      | nil =>
          rw [List.intercalate_singleton]
          exact hfirst
      | cons second rest =>
          rw [List.intercalate_cons_cons]
          exact (Scans.append hfirst balanced_bar).append (ih hrest)

theorem Divides.balanced_body {branches : List Text} {body : Text} (h : Divides branches body) :
    Balanced body := by
  rw [← h.intercalate]
  exact balanced_intercalate h.balanced

theorem divides_intercalate {branches : List Text} (hne : branches ≠ [])
    (h : ∀ branch ∈ branches, IsBranch branch) : Divides branches (['|'].intercalate branches) where
  intercalate := rfl
  ne_nil := hne
  balanced := fun branch hmem => (h branch hmem).balanced
  undivided := fun branch hmem => (h branch hmem).undivided

/-! ## Reading parentheses -/

theorem spelling_inParens {branches : List Text} {body : Text} (h : Divides branches body)
    (rest : Text) : (Kind.group branches).Spelling (inParens body) rest :=
  .group h.balanced_body h

/-- Parentheses are read as one group exactly if its branches divide what stands between them. -/
theorem tokenize_inParens_eq_iff (body : Text) (branches : List Text) :
    tokenize (inParens body) = [⟨.group branches, .once⟩] ↔ Divides branches body := by
  constructor
  · intro hread
    have hspells := spells_tokenize (inParens body)
    rw [hread] at hspells
    generalize htext : inParens body = text at hspells
    cases hspells with
    | cons hspelling hmark hrest =>
        cases hrest
        cases hmark
        cases hspelling with
        | @group _ inner _ _ hdivides =>
            -- nothing is left behind the group, so the last parenthesis closes it
            obtain rfl : body = inner := by simpa [inParens] using htext
            exact hdivides
  · intro h
    have hread := tokenize_spelling_append (spelling_inParens h []) ⟨nofun, nofun⟩
    rwa [List.append_nil, tokenize_nil] at hread

theorem isBranch_iff (text : Text) : IsBranch text ↔ Divides [text] text := by
  constructor
  · intro h
    have hjoined := divides_intercalate (List.cons_ne_nil text []) (by simpa using h)
    rwa [List.intercalate_singleton] at hjoined
  · intro h
    exact ⟨h.balanced text List.mem_cons_self, h.undivided text List.mem_cons_self⟩

instance (text : Text) : Decidable (IsBranch text) :=
  decidable_of_iff _ ((tokenize_inParens_eq_iff text [text]).trans (isBranch_iff text).symm)

/-! ## Text and branches -/

/-- A text in parentheses is a single group, said to stand once, exactly if it is balanced, and the
branches of the group with bars between them are the text again. The other way round, texts that can
each be a branch are, with bars between them and in parentheses, the group of just these
branches. -/
theorem group_text_inverse_to_branches (body : Text) (branches : List Text) :
    ((∃ read, tokenize (inParens body) = [⟨.group read, .once⟩]) ↔ Balanced body) ∧
    (tokenize (inParens body) = [⟨.group branches, .once⟩] → ['|'].intercalate branches = body) ∧
    (branches ≠ [] → (∀ branch ∈ branches, IsBranch branch) →
      tokenize (inParens (['|'].intercalate branches)) = [⟨.group branches, .once⟩]) := by
  refine ⟨⟨?_, ?_⟩, ?_, ?_⟩
  · rintro ⟨read, hread⟩
    exact ((tokenize_inParens_eq_iff body read).mp hread).balanced_body
  · intro hbody
    obtain ⟨divided, hdivides⟩ := hbody.exists_divides
    exact ⟨divided, (tokenize_inParens_eq_iff body divided).mpr hdivides⟩
  · intro hread
    exact ((tokenize_inParens_eq_iff body branches).mp hread).intercalate
  · intro hne hbranches
    exact (tokenize_inParens_eq_iff _ branches).mpr (divides_intercalate hne hbranches)

/-- In `[|(|\))]|` the bar between the brackets divides, the one in the inner group does not, the
escaped parenthesis closes nothing, and the last branch is empty. -/
theorem group_text_inverse_to_branches_of_bar_in_brackets :
    [['['], ['(', '|', '\\', ')', ')', ']'], []] ≠ ([] : List Text) ∧
      (∀ branch ∈ [['['], ['(', '|', '\\', ')', ')', ']'], []], IsBranch branch) ∧
      tokenize (inParens ['[', '|', '(', '|', '\\', ')', ')', ']', '|']) =
        [⟨.group [['['], ['(', '|', '\\', ')', ')', ']'], []], .once⟩] ∧
      ['|'].intercalate [['['], ['(', '|', '\\', ')', ')', ']'], []] =
        ['[', '|', '(', '|', '\\', ')', ')', ']', '|'] := by
  have hne : [['['], ['(', '|', '\\', ')', ')', ']'], []] ≠ ([] : List Text) := by decide
  have hbranches : ∀ branch ∈ [['['], ['(', '|', '\\', ')', ')', ']'], []], IsBranch branch := by
    decide +kernel
  obtain ⟨-, hjoin, hread⟩ := group_text_inverse_to_branches
    ['[', '|', '(', '|', '\\', ')', ')', ']', '|'] [['['], ['(', '|', '\\', ')', ')', ']'], []]
  have htokens := hread hne hbranches
  exact ⟨hne, hbranches, htokens, hjoin htokens⟩

end Token

end LineSearch
