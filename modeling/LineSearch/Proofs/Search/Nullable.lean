import LineSearch.Proofs.Search.Found
import LineSearch.Proofs.Search.Soundness

/-!
# Tokens that may match nothing

Tokens are nullable if each of them may be left out or is a group with a branch whose own tokens are
nullable. These are the tokens with the empty word in their language
(`isNullable_iff_nil_mem_language`), and behind the line, where there is nothing else to match, they
are the only ones that match. On the line a nullable token may be made to take characters, as a
group gives only the end that a branch prefers; but something matches from wherever it ends, so
nullable tokens match at every position, and a pattern that matches the empty line matches every
line unless it must lie on the whole of it (`empty_line_decides`).
-/

namespace LineSearch

/-! ## Nullable tokens -/

mutual

def Token.Kind.isNullable (kind : Token.Kind) : Bool :=
  match kind with
  | .group branches => branches.attach.any fun ⟨branch, _⟩ => isNullable (tokenize branch)
  | _ => false
termination_by kind.weight
decreasing_by exact weight_tokenize_lt (by assumption)

/-- Whether each of the tokens may be left out or may match nothing. -/
def isNullable (tokens : List Token) : Bool :=
  match tokens with
  | [] => true
  | token :: rest => (token.quantifier == .optional || token.kind.isNullable) && isNullable rest
termination_by weight tokens
decreasing_by all_goals rw [weight_cons]; omega

end

theorem isNullable_nil : isNullable [] = true := by
  rw [isNullable]

theorem isNullable_cons_iff {token : Token} {rest : List Token} :
    isNullable (token :: rest) = true ↔
      (token.quantifier = .optional ∨ token.kind.isNullable = true) ∧ isNullable rest = true := by
  rw [isNullable, Bool.and_eq_true, Bool.or_eq_true, beq_iff_eq]

namespace Token.Kind

theorem isNullable_group_iff {branches : List Text} :
    (Kind.group branches).isNullable = true ↔
      ∃ branch ∈ branches, LineSearch.isNullable (tokenize branch) = true := by
  rw [Kind.isNullable]
  simp

theorem isNullable_single {kind : Kind} (hsingle : kind.isSingle = true) :
    kind.isNullable = false := by
  cases kind with
  | group branches => contradiction
  | _ => rw [Kind.isNullable]; simp

end Token.Kind

/-! ## The empty word -/

theorem Quantifier.nil_mem_language_iff {quantifier : Quantifier} {once : Language Char} :
    [] ∈ quantifier.language once ↔ quantifier = .optional ∨ [] ∈ once := by
  cases quantifier with
  | once => simp [language]
  | optional => simp [mem_language_optional]
  | repeated =>
      simp only [language, Language.mem_mul, List.append_eq_nil_iff, reduceCtorEq, false_or]
      constructor
      · intro h
        obtain ⟨front, hfront, _, _, rfl, _⟩ := h
        exact hfront
      · intro h
        exact ⟨[], h, [], Language.nil_mem_kstar once, rfl, rfl⟩

/-- Tokens are nullable if the empty word is one of their words. -/
theorem isNullable_iff_nil_mem_language (tokens : List Token) :
    isNullable tokens = true ↔ [] ∈ language tokens := by
  induction tokens using tokens_induction fun kind =>
    kind.isNullable = true ↔ [] ∈ kind.language with
  | single kind hsingle =>
      rw [Token.Kind.isNullable_single hsingle, Token.Kind.language_single hsingle]
      constructor
      · intro hfalse
        contradiction
      · intro hempty
        obtain ⟨c, _, hc⟩ := hempty
        contradiction
  | group branches ih =>
      rw [Token.Kind.isNullable_group_iff, Token.Kind.mem_language_group]
      exact exists_congr fun branch => and_congr_right (ih branch)
  | nil => simp [isNullable_nil, mem_language_nil]
  | cons token rest hkind ih =>
      rw [isNullable_cons_iff, hkind, ih, ← Quantifier.nil_mem_language_iff, mem_language_cons]
      simp [List.append_eq_nil_iff]

/-! ## Something matches everywhere -/

theorem exists_head?_of_mem {ends : List Nat} {stop : Nat} (h : stop ∈ ends) :
    ∃ first, ends.head? = some first :=
  Option.isSome_iff_exists.mp (List.isSome_head?.mpr (List.ne_nil_of_mem h))

/-- Where a single occurrence has an end, every number of occurrences has one. -/
theorem Quantifier.exists_mem_ends {limit : Nat} {once : Nat → List Nat} (h : Advances limit once)
    (quantifier : Quantifier) {pos : Nat} (honce : ∃ stop, stop ∈ once pos) :
    ∃ stop, stop ∈ quantifier.ends once limit pos := by
  obtain ⟨stop, hstop⟩ := honce
  cases quantifier with
  | once => exact ⟨stop, hstop⟩
  | optional => exact ⟨stop, mem_ends_optional.mpr (.inl hstop)⟩
  | repeated =>
      obtain ⟨first, hfirst⟩ := exists_head?_of_mem hstop
      exact ⟨first, (mem_chainEnds_iff h pos first).mpr (.single hfirst)⟩

/-- Nullable tokens offer an end from every position, though perhaps not the position itself. -/
theorem exists_mem_matchEnds (chars : Array Char) {tokens : List Token}
    (h : isNullable tokens = true) (pos : Nat) : ∃ stop, stop ∈ matchEnds chars tokens pos := by
  induction tokens using tokens_induction fun kind =>
    kind.isNullable = true → ∀ pos, ∃ stop, stop ∈ kind.ends chars pos
    generalizing pos with
  | single kind hsingle hkind =>
      rw [Token.Kind.isNullable_single hsingle] at hkind
      contradiction
  | group branches ih hgroup pos =>
      obtain ⟨branch, hbranch, hnullable⟩ := Token.Kind.isNullable_group_iff.mp hgroup
      obtain ⟨stop, hstop⟩ := ih branch hbranch hnullable pos
      obtain ⟨first, hfirst⟩ := exists_head?_of_mem hstop
      exact ⟨first, Token.Kind.mem_ends_group.mpr ⟨branch, hbranch, hfirst⟩⟩
  | nil => exact ⟨pos, mem_matchEnds_nil.mpr rfl⟩
  | cons token rest hkind ih =>
      obtain ⟨htoken, hrest⟩ := isNullable_cons_iff.mp h
      have hmiddle : ∃ middle, middle ∈ token.ends chars pos := by
        rcases htoken with hoptional | hnullable
        · refine ⟨pos, ?_⟩
          rw [Token.ends, hoptional]
          exact Quantifier.mem_ends_optional.mpr (.inr rfl)
        · exact token.quantifier.exists_mem_ends (token.kind.ends_advances chars)
            (hkind hnullable pos)
      obtain ⟨middle, hmiddle⟩ := hmiddle
      obtain ⟨stop, hstop⟩ := ih hrest middle
      exact ⟨stop, mem_matchEnds_cons.mpr ⟨middle, hmiddle, hstop⟩⟩

/-- Behind the line the only end is the position itself, and only nullable tokens offer it. -/
theorem mem_matchEnds_behind_iff {chars : Array Char} {tokens : List Token} {pos : Nat}
    (hbehind : chars.size ≤ pos) (stop : Nat) :
    stop ∈ matchEnds chars tokens pos ↔ isNullable tokens = true ∧ stop = pos := by
  have hbounds := matchEnds_advances chars tokens pos
  constructor
  · intro hmem
    have hstop := hbounds stop hmem
    refine ⟨?_, by omega⟩
    exact (isNullable_iff_nil_mem_language tokens).mpr (nil_mem_language_of_offered hbehind hmem)
  · intro h
    obtain ⟨other, hother⟩ := exists_mem_matchEnds chars h.1 pos
    have hstop := hbounds other hother
    obtain rfl : other = stop := by omega
    exact hother

/-! ## Matches -/

theorem matchAt?_behind {chars : Array Char} {pos : Nat} (hbehind : chars.size ≤ pos)
    (tokens : List Token) (index : Nat) :
    matchAt? chars pos tokens index none =
      if isNullable (tokens.drop index) = true then some pos else none := by
  rw [matchAt?_none]
  by_cases hnullable : isNullable (tokens.drop index) = true
  · have hpos : pos ∈ matchEnds chars (tokens.drop index) pos :=
      (mem_matchEnds_behind_iff hbehind pos).mpr ⟨hnullable, rfl⟩
    obtain ⟨first, hfirst⟩ := exists_head?_of_mem hpos
    obtain ⟨_, rfl⟩ := (mem_matchEnds_behind_iff hbehind first).mp (List.mem_of_mem_head? hfirst)
    rw [if_pos hnullable, hfirst]
  · have hempty : matchEnds chars (tokens.drop index) pos = [] := by
      apply List.eq_nil_iff_forall_not_mem.mpr
      intro stop hstop
      exact hnullable ((mem_matchEnds_behind_iff hbehind stop).mp hstop).1
    rw [if_neg hnullable, hempty, List.head?_nil]

theorem Pattern.placement_eq_exact_iff {pattern : Pattern} :
    pattern.placement = .exact ↔ pattern.startBound = true ∧ pattern.endBound = true := by
  unfold placement
  cases pattern.startBound <;> cases pattern.endBound <;> simp

/-- A search that nullable tokens are given succeeds, as they match at the end of the line and, if
they must begin at its start, there too. -/
theorem Pattern.isMatch_of_isNullable {pattern : Pattern}
    (hbound : ¬ (pattern.startBound = true ∧ pattern.endBound = true))
    (h : isNullable pattern.tokens = true) (line : Text) : pattern.isMatch line = true := by
  have hend : Offers pattern.tokens line.toArray ⟨line.toArray.size, line.toArray.size⟩ :=
    ⟨Nat.le_refl _, (mem_matchEnds_behind_iff (Nat.le_refl _) _).mpr ⟨h, rfl⟩⟩
  rw [isMatch_eq, search?_isSome_iff]
  cases hplacement : pattern.placement with
  | exact => exact absurd (placement_eq_exact_iff.mp hplacement) hbound
  | fromStart =>
      obtain ⟨stop, hstop⟩ := exists_mem_matchEnds line.toArray h 0
      exact ⟨⟨0, stop⟩, rfl, Nat.zero_le _, hstop⟩
  | atEnd => exact ⟨⟨line.toArray.size, line.toArray.size⟩, rfl, hend⟩
  | anywhere => exact ⟨⟨line.toArray.size, line.toArray.size⟩, trivial, hend⟩

/-- On the empty line only nullable tokens are found. -/
theorem Pattern.isNullable_of_isMatch_nil {pattern : Pattern} (h : pattern.isMatch [] = true) :
    isNullable pattern.tokens = true := by
  rw [isMatch_eq, search?_isSome_iff] at h
  obtain ⟨span, _, hinside, hstop⟩ := h
  exact ((mem_matchEnds_behind_iff (Nat.zero_le _) span.stop).mp hstop).1

/-- A pattern that is not bound to both ends and matches the empty line matches every line. From the
end of the line on, and behind it, nullable tokens match nothing and no others match; and nullable
tokens match at every position of every line. -/
theorem empty_line_decides :
    (∀ pattern : Pattern, ¬ (pattern.startBound = true ∧ pattern.endBound = true) →
      pattern.isMatch [] = true → ∀ line, pattern.isMatch line = true) ∧
    (∀ chars pos tokens index, chars.size ≤ pos →
      (matchAt? chars pos tokens index none = some pos ↔ isNullable (tokens.drop index) = true) ∧
      (matchAt? chars pos tokens index none = none ↔ ¬ isNullable (tokens.drop index) = true)) ∧
    ∀ chars pos tokens index, isNullable (tokens.drop index) = true →
      ∃ stop, matchAt? chars pos tokens index none = some stop := by
  refine ⟨?_, ?_, ?_⟩
  · intro pattern hbound hempty line
    exact Pattern.isMatch_of_isNullable hbound (Pattern.isNullable_of_isMatch_nil hempty) line
  · intro chars pos tokens index hbehind
    rw [matchAt?_behind hbehind]
    by_cases hnullable : isNullable (tokens.drop index) = true
    · simp [hnullable]
    · simp [hnullable]
  · intro chars pos tokens index hnullable
    obtain ⟨stop, hstop⟩ := exists_mem_matchEnds chars hnullable pos
    rw [matchAt?_none]
    exact exists_head?_of_mem hstop

/-- The tokens of `(a|(b)?)+` match the empty line, as the group inside a branch may be left out.
They are nullable, so they match the start of `ac` too, and something at the `a` of `cad`. -/
theorem empty_line_decides_of_nested_group :
    Pattern.isMatch ⟨[⟨.group [['a'], ['(', 'b', ')', '?']], .repeated⟩], true, false⟩ [] = true ∧
      Pattern.isMatch ⟨[⟨.group [['a'], ['(', 'b', ')', '?']], .repeated⟩], true, false⟩
        ['a', 'c'] = true ∧
      isNullable [⟨.group [['a'], ['(', 'b', ')', '?']], .repeated⟩] = true ∧
      ∃ stop, matchAt? #['c', 'a', 'd'] 1 [⟨.group [['a'], ['(', 'b', ')', '?']], .repeated⟩] 0
        none = some stop := by
  obtain ⟨hlines, hbehind, heverywhere⟩ := empty_line_decides
  have hempty : Pattern.isMatch ⟨[⟨.group [['a'], ['(', 'b', ')', '?']], .repeated⟩], true, false⟩
      [] = true := by decide +kernel
  have hnullable : isNullable [⟨.group [['a'], ['(', 'b', ')', '?']], .repeated⟩] = true :=
    (hbehind #['a'] 1 [⟨.group [['a'], ['(', 'b', ')', '?']], .repeated⟩] 0 (by decide)).1.mp
      (by decide +kernel)
  refine ⟨hempty, ?_, hnullable, ?_⟩
  · exact hlines _ (by decide) hempty ['a', 'c']
  · exact heverywhere _ _ _ _ hnullable

end LineSearch
