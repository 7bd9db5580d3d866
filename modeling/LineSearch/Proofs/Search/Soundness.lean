import LineSearch.Proofs.Search.Attempts
import LineSearch.Proofs.Text.Segment
import LineSearch.Proofs.Token.Language

/-!
# What is found is a word of the language

Every end that tokens offer from a position bounds a word of their language, so a match, and a part
that a search finds, is a word of the language whatever was tried before it. A position behind the
line offers at most itself, and then the empty word belongs to the language.
-/

namespace LineSearch

theorem acceptedAt_iff_segment (accepts : Char → Bool) (chars : Array Char) (pos : Nat) :
    acceptedAt accepts chars pos = true ↔ segment chars pos (pos + 1) ∈ charLanguage accepts := by
  by_cases hinside : pos < chars.size
  · rw [segment_succ hinside]
    constructor
    · intro haccepted
      exact ⟨chars[pos], by simpa [acceptedAt, hinside] using haccepted, rfl⟩
    · rintro ⟨c, haccepts, hc⟩
      simpa [acceptedAt, hinside, List.singleton_inj.mp hc] using haccepts
  · rw [segment_of_size_le (pos + 1) (Nat.le_of_not_lt hinside)]
    constructor
    · intro haccepted
      exact absurd (lt_size_of_acceptedAt haccepted) hinside
    · rintro ⟨c, -, hc⟩
      contradiction

section Quantified

variable {chars : Array Char} {once : Nat → List Nat} {words : Language Char}
  (hadvances : Advances chars.size once)
  (hsound : ∀ pos, ∀ stop ∈ once pos, segment chars pos stop ∈ words)

include hadvances hsound

theorem Quantifier.segment_mem_language (quantifier : Quantifier) (pos stop : Nat)
    (hmem : stop ∈ quantifier.ends once chars.size pos) :
    segment chars pos stop ∈ quantifier.language words := by
  cases quantifier with
  | once => exact hsound pos stop hmem
  | optional =>
      rcases mem_ends_optional.mp hmem with honce | rfl
      · exact mem_language_of_once .optional (hsound pos stop honce)
      · rw [segment_self]
        exact mem_language_optional.mpr (.inr rfl)
  | repeated =>
      have hreach := (mem_chainEnds_iff hadvances pos stop).mp hmem
      clear hmem
      induction hreach using Relation.TransGen.head_induction_on with
      | single hstep =>
          exact mem_language_of_once .repeated (hsound _ _ (List.mem_of_mem_head? hstep))
      | @head pos middle hstep hrest ih =>
          have hfront := hadvances.of_head? hstep
          have hback := Quantifier.ends_advances hadvances .repeated middle stop
            ((mem_chainEnds_iff hadvances middle stop).mpr hrest)
          rw [← segment_append hfront.1 hback.1]
          exact append_mem_language_repeated (hsound _ _ (List.mem_of_mem_head? hstep)) ih

end Quantified

/-- The characters up to any end that tokens offer are a word of their language. -/
theorem segment_mem_language (chars : Array Char) (tokens : List Token) (pos stop : Nat)
    (hmem : stop ∈ matchEnds chars tokens pos) : segment chars pos stop ∈ language tokens := by
  induction tokens using tokens_induction fun kind =>
    ∀ pos stop, stop ∈ kind.ends chars pos → segment chars pos stop ∈ kind.language
    generalizing pos stop with
  | single kind hsingle pos stop hmem =>
      obtain ⟨haccepted, rfl⟩ := (Token.Kind.mem_ends_single hsingle).mp hmem
      rw [Token.Kind.language_single hsingle]
      exact (acceptedAt_iff_segment kind.accepts chars pos).mp haccepted
  | group branches ih pos stop hmem =>
      obtain ⟨branch, hbranch, hfirst⟩ := Token.Kind.mem_ends_group.mp hmem
      have hword := ih branch hbranch pos stop (List.mem_of_mem_head? hfirst)
      exact (Token.Kind.mem_language_group branches _).mpr ⟨branch, hbranch, hword⟩
  | nil =>
      obtain rfl := mem_matchEnds_nil.mp hmem
      rw [segment_self, mem_language_nil]
  | cons token rest hkind ih =>
      obtain ⟨middle, hmiddle, hstop⟩ := mem_matchEnds_cons.mp hmem
      have hfront := token.ends_advances chars pos middle hmiddle
      have hback := matchEnds_advances chars rest middle stop hstop
      rw [mem_language_cons]
      refine ⟨segment chars pos middle, ?_, segment chars middle stop, ih middle stop hstop, ?_⟩
      · exact token.quantifier.segment_mem_language (token.kind.ends_advances chars) hkind
          pos middle hmiddle
      · exact segment_append hfront.1 hback.1

theorem Token.Kind.segment_mem_language (chars : Array Char) (kind : Token.Kind) (pos stop : Nat)
    (hmem : stop ∈ kind.ends chars pos) : segment chars pos stop ∈ kind.language := by
  have hword := LineSearch.segment_mem_language chars [⟨kind, .once⟩] pos stop
    (by rwa [matchEnds_singleton])
  obtain ⟨front, hfront, back, hback, hsplit⟩ := (mem_language_cons _ _ _).mp hword
  rw [(mem_language_nil back).mp hback, List.append_nil] at hsplit
  exact hsplit ▸ hfront

theorem nil_mem_language_of_offered {chars : Array Char} {tokens : List Token} {pos stop : Nat}
    (hbehind : chars.size ≤ pos) (hmem : stop ∈ matchEnds chars tokens pos) :
    [] ∈ language tokens := by
  rw [← segment_of_size_le stop hbehind]
  exact segment_mem_language chars tokens pos stop hmem

theorem Offers.segment_mem_language {chars : Array Char} {tokens : List Token} {span : Span}
    (h : Offers tokens chars span) :
    span.start ≤ span.stop ∧ span.stop ≤ chars.size ∧
      segment chars span.start span.stop ∈ language tokens := by
  obtain ⟨hinside, hmem⟩ := h
  have hbounds := matchEnds_advances chars tokens span.start span.stop hmem
  refine ⟨hbounds.1, ?_, LineSearch.segment_mem_language chars tokens _ _ hmem⟩
  omega

/-- A match ends where it must, not before its start and not behind the line, and what it covers is
a word of the language of the tokens; from behind the line only the empty word can be matched. So
the part that a search finds lies on the line and is a word of the language of its pattern. -/
theorem match_covers_word (chars : Array Char) :
    (∀ pos tokens index required stop, matchAt? chars pos tokens index required = some stop →
      pos ≤ stop ∧ (∀ last, required = some last → stop = last) ∧
        (pos ≤ chars.size →
          stop ≤ chars.size ∧ segment chars pos stop ∈ language (tokens.drop index)) ∧
        (chars.size < pos → stop = pos ∧ [] ∈ language (tokens.drop index))) ∧
      ∀ (pattern : Pattern) (span : Span), pattern.search? chars = some span →
        span.start ≤ span.stop ∧ span.stop ≤ chars.size ∧
          segment chars span.start span.stop ∈ language pattern.tokens := by
  constructor
  · intro pos tokens index required stop hmatch
    obtain ⟨hmem, hlast⟩ := matchAt?_eq_some hmatch
    have hbounds := matchEnds_advances chars (tokens.drop index) pos stop hmem
    refine ⟨hbounds.1, hlast, ?_, ?_⟩
    · intro hinside
      exact ⟨by omega, segment_mem_language chars (tokens.drop index) pos stop hmem⟩
    · intro hbehind
      exact ⟨by omega, nil_mem_language_of_offered (Nat.le_of_lt hbehind) hmem⟩
  · intro pattern span hfound
    exact (Pattern.search?_spec hfound).2.segment_mem_language

/-- Two repetitions of a group on `xabb`, the second by a branch that holds a group itself; an
optional character behind the line; and the repeated group bound to the end of the line. -/
theorem match_covers_word_of_nested_group :
    (matchAt? #['x', 'a', 'b', 'b'] 1 [⟨.group [['a', 'b'], ['(', 'b', ')']], .repeated⟩] 0
        none = some 4 ∧
      segment #['x', 'a', 'b', 'b'] 1 4 ∈
        language [⟨.group [['a', 'b'], ['(', 'b', ')']], .repeated⟩]) ∧
    (matchAt? #['x', 'a', 'b', 'b'] 9 [⟨.literal 'a', .optional⟩] 0 (some 9) = some 9 ∧
      [] ∈ language [⟨.literal 'a', .optional⟩]) ∧
    Pattern.search? ⟨[⟨.group [['a', 'b'], ['(', 'b', ')']], .repeated⟩], false, true⟩
        #['x', 'a', 'b', 'b'] = some ⟨3, 4⟩ ∧
      segment #['x', 'a', 'b', 'b'] 3 4 ∈
        language [⟨.group [['a', 'b'], ['(', 'b', ')']], .repeated⟩] := by
  have hmatch : matchAt? #['x', 'a', 'b', 'b'] 1
      [⟨.group [['a', 'b'], ['(', 'b', ')']], .repeated⟩] 0 none = some 4 := by decide +kernel
  have hbehind : matchAt? #['x', 'a', 'b', 'b'] 9 [⟨.literal 'a', .optional⟩] 0 (some 9) = some 9 :=
    by decide +kernel
  have hfound : Pattern.search? ⟨[⟨.group [['a', 'b'], ['(', 'b', ')']], .repeated⟩], false, true⟩
      #['x', 'a', 'b', 'b'] = some ⟨3, 4⟩ := by decide +kernel
  obtain ⟨hmatches, hsearches⟩ := match_covers_word #['x', 'a', 'b', 'b']
  refine ⟨⟨hmatch, ?_⟩, ⟨hbehind, ?_⟩, hfound, ?_⟩
  · exact ((hmatches 1 _ 0 none 4 hmatch).2.2.1 (by decide)).2
  · exact ((hmatches 9 _ 0 (some 9) 9 hbehind).2.2.2 (by decide)).2
  · exact (hsearches _ ⟨3, 4⟩ hfound).2.2

end LineSearch
