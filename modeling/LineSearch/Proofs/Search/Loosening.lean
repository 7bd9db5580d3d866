import LineSearch.Proofs.Search.Found

/-!
# Loosening a pattern loses no match

A token can be made less strict: it may be left out, it may stand more than once, it accepts more
characters, or a group gets a further branch. Each of these changes keeps every end that the token
offered and perhaps adds some, so what follows still has the ends it went on from, and a line that
was matched still is (`loosened_keeps_matches`). A further branch must be the last: repetitions of a
group go on from the end it offers first, and that one stays the first only where nothing is put in
front of it.
-/

namespace LineSearch

/-! ## The changes -/

/-- The second token is what one change makes of the first. Only a single character may be repeated
instead of standing once, as a repeated group does not go back to its later branches. -/
inductive Token.LoosensTo : Token → Token → Prop
  | optional {kind : Kind} : LoosensTo ⟨kind, .once⟩ ⟨kind, .optional⟩
  | repeated {kind : Kind} : kind.isSingle = true → LoosensTo ⟨kind, .once⟩ ⟨kind, .repeated⟩
  | accepting {kind other : Kind} {quantifier : Quantifier} :
      kind.isSingle = true → other.isSingle = true →
      (∀ c, kind.accepts c = true → other.accepts c = true) →
      LoosensTo ⟨kind, quantifier⟩ ⟨other, quantifier⟩
  | branch {branches : List Text} {further : Text} {quantifier : Quantifier} :
      LoosensTo ⟨.group branches, quantifier⟩ ⟨.group (branches ++ [further]), quantifier⟩

/-! ## One token -/

theorem acceptedAt_mono {accepts other : Char → Bool}
    (h : ∀ c, accepts c = true → other c = true) {chars : Array Char} {pos : Nat}
    (haccepted : acceptedAt accepts chars pos = true) : acceptedAt other chars pos = true := by
  obtain ⟨c, hc, haccepts⟩ := acceptedAt_iff.mp haccepted
  exact acceptedAt_iff.mpr ⟨c, hc, h c haccepts⟩

namespace Token.Kind

theorem ends_isPrefix_of_accepts {kind other : Kind} (hkind : kind.isSingle = true)
    (hother : other.isSingle = true) (h : ∀ c, kind.accepts c = true → other.accepts c = true)
    (chars : Array Char) (pos : Nat) : kind.ends chars pos <+: other.ends chars pos := by
  rw [ends_single chars hkind, ends_single chars hother]
  by_cases haccepted : acceptedAt kind.accepts chars pos = true
  · simp [haccepted, acceptedAt_mono h haccepted]
  · simp [haccepted]

theorem ends_isPrefix_of_branch (branches : List Text) (further : Text) (chars : Array Char)
    (pos : Nat) :
    (Kind.group branches).ends chars pos <+:
      (Kind.group (branches ++ [further])).ends chars pos := by
  rw [ends_group_append]
  exact List.prefix_append _ _

end Token.Kind

/-- Where the first end stays the first, repetitions reach what they reached before. -/
theorem Quantifier.ends_subset_of_isPrefix {limit : Nat} {once other : Nat → List Nat}
    (honce : Advances limit once) (hother : Advances limit other)
    (h : ∀ pos, once pos <+: other pos) (quantifier : Quantifier) (pos : Nat) :
    quantifier.ends once limit pos ⊆ quantifier.ends other limit pos := by
  cases quantifier with
  | once => exact (h pos).subset
  | optional =>
      intro stop hmem
      rcases mem_ends_optional.mp hmem with hstop | hstop
      · exact mem_ends_optional.mpr (.inl ((h pos).subset hstop))
      · exact mem_ends_optional.mpr (.inr hstop)
  | repeated =>
      have hfirst : ∀ start stop, (once start).head? = some stop →
          (other start).head? = some stop := by
        intro start stop hstop
        obtain ⟨more, hmore⟩ := h start
        rw [← hmore, List.head?_append, hstop, Option.some_or]
      intro stop hmem
      have hreach := (mem_chainEnds_iff honce pos stop).mp hmem
      exact (mem_chainEnds_iff hother pos stop).mpr (Relation.TransGen.mono hfirst _ _ hreach)

theorem Token.LoosensTo.ends_subset {token other : Token} (h : token.LoosensTo other)
    (chars : Array Char) (pos : Nat) : token.ends chars pos ⊆ other.ends chars pos := by
  cases h with
  | optional =>
      intro stop hmem
      exact Quantifier.mem_ends_optional.mpr (.inl hmem)
  | @repeated kind hsingle =>
      intro stop hmem
      have hfirst : (kind.ends chars pos).head? = some stop := by
        obtain ⟨haccepted, rfl⟩ := (Kind.mem_ends_single hsingle).mp hmem
        rw [Kind.ends_single chars hsingle, if_pos haccepted, List.head?_cons]
      exact (mem_chainEnds_iff (kind.ends_advances chars) pos stop).mpr (.single hfirst)
  | accepting hkind hother haccepts =>
      have hkept := Kind.ends_isPrefix_of_accepts hkind hother haccepts chars
      exact Quantifier.ends_subset_of_isPrefix (Kind.ends_advances chars _)
        (Kind.ends_advances chars _) hkept _ pos
  | @branch branches further =>
      have hkept := Kind.ends_isPrefix_of_branch branches further chars
      exact Quantifier.ends_subset_of_isPrefix (Kind.ends_advances chars _)
        (Kind.ends_advances chars _) hkept _ pos

/-! ## Sequences -/

section Sequences

variable {tokens : List Token} {place : Nat} {token other : Token} {chars : Array Char}
  (h : ∀ pos, token.ends chars pos ⊆ other.ends chars pos)

include h

theorem matchEnds_subset_set (hplace : tokens[place]? = some token) (pos : Nat) :
    matchEnds chars tokens pos ⊆ matchEnds chars (tokens.set place other) pos := by
  induction tokens generalizing place pos with
  | nil => exact List.Subset.refl _
  | cons head rest ih =>
      intro stop hmem
      obtain ⟨middle, hmiddle, hstop⟩ := mem_matchEnds_cons.mp hmem
      cases place with
      | zero =>
          obtain rfl : head = token := Option.some.inj hplace
          exact mem_matchEnds_cons.mpr ⟨middle, h pos hmiddle, hstop⟩
      | succ place =>
          exact mem_matchEnds_cons.mpr ⟨middle, hmiddle, ih hplace middle hstop⟩

theorem matchEnds_drop_subset_set (hplace : tokens[place]? = some token) (index pos : Nat) :
    matchEnds chars (tokens.drop index) pos ⊆
      matchEnds chars ((tokens.set place other).drop index) pos := by
  rw [List.drop_set]
  by_cases hpassed : place < index
  · rw [if_pos hpassed]
    exact List.Subset.refl _
  · rw [if_neg hpassed]
    apply matchEnds_subset_set h
    rw [List.getElem?_drop, Nat.add_sub_cancel' (Nat.le_of_not_lt hpassed), hplace]

end Sequences

/-! ## Matches -/

/-- A pattern that is bound alike and offers as much matches as many lines. -/
theorem Pattern.isMatch_of_subset {pattern other : Pattern} {line : Text}
    (hplacement : other.placement = pattern.placement)
    (h : ∀ pos, matchEnds line.toArray pattern.tokens pos ⊆ matchEnds line.toArray other.tokens pos)
    (hmatch : pattern.isMatch line = true) : other.isMatch line = true := by
  rw [isMatch_eq, search?_isSome_iff] at hmatch ⊢
  obtain ⟨span, hallows, hinside, hstop⟩ := hmatch
  exact ⟨span, hplacement ▸ hallows, hinside, h span.start hstop⟩

/-- After one change to one of its tokens a sequence still matches where it matched, from every
index on and with every required end, and a pattern still matches the lines that it matched, however
it is bound. -/
theorem loosened_keeps_matches {tokens : List Token} {place : Nat} {token other : Token}
    (hplace : tokens[place]? = some token) (hloosens : token.LoosensTo other) :
    (∀ chars pos index required, (matchAt? chars pos tokens index required).isSome = true →
      (matchAt? chars pos (tokens.set place other) index required).isSome = true) ∧
    ∀ startBound endBound line, Pattern.isMatch ⟨tokens, startBound, endBound⟩ line = true →
      Pattern.isMatch ⟨tokens.set place other, startBound, endBound⟩ line = true := by
  constructor
  · intro chars pos index required hmatch
    rw [matchAt?_isSome_iff] at hmatch ⊢
    obtain ⟨stop, hstop, hlast⟩ := hmatch
    have hkept := matchEnds_drop_subset_set (hloosens.ends_subset chars) hplace index pos
    exact ⟨stop, hkept hstop, hlast⟩
  · intro startBound endBound line hmatch
    refine Pattern.isMatch_of_subset ?_ ?_ hmatch
    · rfl
    · exact matchEnds_subset_set (hloosens.ends_subset line.toArray) hplace

/-- The repeated group of `(ab)+c` gets the further branch `a`, and `abc` is matched to its end as
before. -/
theorem loosened_keeps_matches_of_further_branch :
    [⟨.group [['a', 'b']], .repeated⟩, ⟨.literal 'c', .once⟩][0]? =
        some (⟨.group [['a', 'b']], .repeated⟩ : Token) ∧
      Token.LoosensTo ⟨.group [['a', 'b']], .repeated⟩
        ⟨.group [['a', 'b'], ['a']], .repeated⟩ ∧
      (matchAt? #['a', 'b', 'c'] 0 [⟨.group [['a', 'b'], ['a']], .repeated⟩,
        ⟨.literal 'c', .once⟩] 0 (some 3)).isSome = true ∧
      Pattern.isMatch ⟨[⟨.group [['a', 'b'], ['a']], .repeated⟩, ⟨.literal 'c', .once⟩], true, true⟩
        ['a', 'b', 'c'] = true := by
  have hplace : [⟨.group [['a', 'b']], .repeated⟩, ⟨.literal 'c', .once⟩][0]? =
      some (⟨.group [['a', 'b']], .repeated⟩ : Token) := rfl
  have hloosens : Token.LoosensTo ⟨.group [['a', 'b']], .repeated⟩
      ⟨.group [['a', 'b'], ['a']], .repeated⟩ := .branch
  obtain ⟨hmatches, hsearches⟩ := loosened_keeps_matches hplace hloosens
  refine ⟨hplace, hloosens, ?_, ?_⟩
  · exact hmatches #['a', 'b', 'c'] 0 0 (some 3) (by decide +kernel)
  · exact hsearches true true ['a', 'b', 'c'] (by decide +kernel)

/-- In front of the other, the same branch takes the `a` and the match is lost. -/
example : Pattern.isMatch ⟨[⟨.group [['a'], ['a', 'b']], .repeated⟩, ⟨.literal 'c', .once⟩], true,
    true⟩ ['a', 'b', 'c'] = false := by
  decide +kernel

end LineSearch
