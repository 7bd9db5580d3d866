import LineSearch.Proofs.Search.Soundness

/-!
# Simple groups miss no word

A branch is matched alone and gives only the end it prefers, and a repetition takes the first branch
that fits, so in general a search misses words. It misses none where the branches of every group are
plain sequences of single characters, all of one length if the group is repeated: then a branch has
at most one end, and all branches that fit have the same.
-/

namespace LineSearch

def Token.IsPlain (token : Token) : Prop :=
  token.kind.isSingle = true ∧ token.quantifier = .once

instance (token : Token) : Decidable token.IsPlain :=
  inferInstanceAs (Decidable (_ ∧ _))

/-- Every branch of a group is a sequence of plain characters, and those of a repeated group have
one length. -/
structure SimpleGroups (tokens : List Token) : Prop where
  plain : ∀ token ∈ tokens, ∀ branch ∈ token.branches, ∀ inner ∈ tokenize branch, inner.IsPlain
  uniform : ∀ token ∈ tokens, token.quantifier = .repeated →
    ∀ first ∈ token.branches, ∀ second ∈ token.branches,
      (tokenize first).length = (tokenize second).length

theorem SimpleGroups.drop {tokens : List Token} (h : SimpleGroups tokens) (index : Nat) :
    SimpleGroups (tokens.drop index) where
  plain token hmem := h.plain token (List.mem_of_mem_drop hmem)
  uniform token hmem := h.uniform token (List.mem_of_mem_drop hmem)

theorem SimpleGroups.tail {token : Token} {rest : List Token} (h : SimpleGroups (token :: rest)) :
    SimpleGroups rest :=
  h.drop 1

/-! ## Plain sequences -/

theorem length_of_plain {tokens : List Token} (hplain : ∀ token ∈ tokens, token.IsPlain)
    {word : Text} (hword : word ∈ language tokens) : word.length = tokens.length := by
  induction tokens generalizing word with
  | nil =>
      rw [mem_language_nil] at hword
      simp [hword]
  | cons token rest ih =>
      obtain ⟨⟨hsingle, honce⟩, hlater⟩ := List.forall_mem_cons.mp hplain
      obtain ⟨front, hfront, back, hback, rfl⟩ := (mem_language_cons token rest word).mp hword
      rw [honce, Token.Kind.language_single hsingle] at hfront
      obtain ⟨c, -, rfl⟩ := hfront
      have hlength := ih hlater hback
      simp [hlength]

/-- A plain sequence matches in at most one way. -/
theorem matchEnds_of_plain {chars : Array Char} {tokens : List Token}
    (hplain : ∀ token ∈ tokens, token.IsPlain) {pos stop : Nat} (hstart : pos ≤ stop)
    (hstop : stop ≤ chars.size) (hword : segment chars pos stop ∈ language tokens) :
    matchEnds chars tokens pos = [stop] := by
  induction tokens generalizing pos with
  | nil =>
      rw [mem_language_nil, ← List.length_eq_zero_iff, length_segment hstop] at hword
      obtain rfl : stop = pos := by omega
      exact matchEnds_nil chars stop
  | cons token rest ih =>
      obtain ⟨⟨hsingle, honce⟩, hlater⟩ := List.forall_mem_cons.mp hplain
      obtain ⟨front, hfront, back, hback, hsplit⟩ := (mem_language_cons token rest _).mp hword
      rw [honce, Token.Kind.language_single hsingle] at hfront
      obtain ⟨c, haccepts, rfl⟩ := hfront
      obtain ⟨hmiddle, hhead, htail⟩ := segment_split hstop hstart hsplit
      rw [List.length_singleton] at hmiddle hhead htail
      have haccepted := (acceptedAt_iff_segment token.kind.accepts chars pos).mpr
        ⟨c, haccepts, hhead⟩
      have hrest := ih hlater hmiddle (htail.symm ▸ hback)
      rw [matchEnds_cons, Token.ends, honce, Quantifier.ends, Token.Kind.ends_single chars hsingle,
        if_pos haccepted, List.flatMap_cons, hrest]
      rfl

/-! ## One token -/

section Quantified

variable {chars : Array Char} {once : Nat → List Nat} {words : Language Char}
  (hadvances : Advances chars.size once)
  (hsound : ∀ pos, ∀ stop ∈ once pos, segment chars pos stop ∈ words)
  (hcomplete : ∀ pos stop, pos ≤ stop → stop ≤ chars.size → segment chars pos stop ∈ words →
    stop ∈ once pos)

include hadvances hsound hcomplete

/-- Where all words have one length, the first end is the only one. -/
theorem head?_of_segment {length pos stop : Nat} (hlength : ∀ word ∈ words, word.length = length)
    (hstart : pos ≤ stop) (hstop : stop ≤ chars.size) (hword : segment chars pos stop ∈ words) :
    (once pos).head? = some stop := by
  cases hfirst : (once pos).head? with
  | none =>
      have hmem := hcomplete pos stop hstart hstop hword
      rw [List.head?_eq_none_iff.mp hfirst] at hmem
      contradiction
  | some first =>
      have hbounds := hadvances.of_head? hfirst
      have hother := hlength _ (hsound pos first (List.mem_of_mem_head? hfirst))
      have hthis := hlength _ hword
      rw [length_segment (by omega)] at hother hthis
      congr 1
      omega

theorem Quantifier.mem_ends_of_segment {quantifier : Quantifier}
    (huniform : quantifier = .repeated → ∃ length, ∀ word ∈ words, word.length = length)
    {pos stop : Nat} (hstart : pos ≤ stop) (hstop : stop ≤ chars.size)
    (hword : segment chars pos stop ∈ quantifier.language words) :
    stop ∈ quantifier.ends once chars.size pos := by
  cases quantifier with
  | once => exact hcomplete pos stop hstart hstop hword
  | optional =>
      apply mem_ends_optional.mpr
      rcases mem_language_optional.mp hword with honce | hnone
      · exact .inl (hcomplete pos stop hstart hstop honce)
      · rw [← List.length_eq_zero_iff, length_segment hstop] at hnone
        exact .inr (by omega)
  | repeated =>
      obtain ⟨length, hlength⟩ := huniform rfl
      obtain ⟨front, hfront, back, hback, hsplit⟩ := Language.mem_mul.mp hword
      obtain ⟨parts, rfl, hparts⟩ := Language.mem_kstar.mp hback
      apply (mem_chainEnds_iff hadvances pos stop).mpr
      clear hword hback
      -- each part in turn is the one that the chain takes, as it has no other length to choose
      induction parts generalizing pos front with
      | nil =>
          rw [List.flatten_nil, List.append_nil] at hsplit
          exact .single (head?_of_segment hadvances hsound hcomplete hlength hstart hstop
            (hsplit ▸ hfront))
      | cons part rest ih =>
          obtain ⟨hmiddle, hhead, htail⟩ := segment_split hstop hstart hsplit
          obtain ⟨hpart, hlater⟩ := List.forall_mem_cons.mp hparts
          have hstep := head?_of_segment hadvances hsound hcomplete hlength
            (Nat.le_add_right pos front.length) (Nat.le_trans hmiddle hstop) (hhead.symm ▸ hfront)
          have hjoined : part ++ rest.flatten = segment chars (pos + front.length) stop := by
            rw [htail, List.flatten_cons]
          exact .head hstep (ih hmiddle part hpart hlater hjoined)

end Quantified

namespace SimpleGroups

variable {token : Token} {rest : List Token} (h : SimpleGroups (token :: rest))

include h

theorem exists_length (hrepeated : token.quantifier = .repeated) :
    ∃ length, ∀ word ∈ token.kind.language, word.length = length := by
  obtain ⟨kind, quantifier⟩ := token
  by_cases hsingle : kind.isSingle = true
  · refine ⟨1, fun word hword => ?_⟩
    rw [Token.Kind.language_single hsingle] at hword
    obtain ⟨c, -, rfl⟩ := hword
    rfl
  · cases kind with
    | group branches =>
        cases branches with
        | nil => exact ⟨0, by simp [Token.Kind.mem_language_group]⟩
        | cons first others =>
            refine ⟨(tokenize first).length, fun word hword => ?_⟩
            obtain ⟨branch, hbranch, hword⟩ := (Token.Kind.mem_language_group _ word).mp hword
            rw [length_of_plain (h.plain _ List.mem_cons_self branch hbranch) hword]
            exact h.uniform _ List.mem_cons_self hrepeated branch hbranch first List.mem_cons_self
    | _ => exact absurd rfl hsingle

theorem mem_ends_of_segment (chars : Array Char) {pos stop : Nat} (hstart : pos ≤ stop)
    (hstop : stop ≤ chars.size) (hword : segment chars pos stop ∈ token.kind.language) :
    stop ∈ token.kind.ends chars pos := by
  obtain ⟨kind, quantifier⟩ := token
  by_cases hsingle : kind.isSingle = true
  · rw [Token.Kind.language_single hsingle] at hword
    have hlength : stop = pos + 1 := by
      obtain ⟨c, -, hc⟩ := hword
      have hone := congrArg List.length hc
      rw [length_segment hstop, List.length_singleton] at hone
      omega
    subst hlength
    have haccepted := (acceptedAt_iff_segment kind.accepts chars pos).mpr hword
    exact (Token.Kind.mem_ends_single hsingle).mpr ⟨haccepted, rfl⟩
  · cases kind with
    | group branches =>
        obtain ⟨branch, hbranch, hword⟩ := (Token.Kind.mem_language_group branches _).mp hword
        have hplain := h.plain _ List.mem_cons_self branch hbranch
        have hfirst : (matchEnds chars (tokenize branch) pos).head? = some stop := by
          rw [matchEnds_of_plain hplain hstart hstop hword]
          rfl
        exact Token.Kind.mem_ends_group.mpr ⟨branch, hbranch, hfirst⟩
    | _ => exact absurd rfl hsingle

end SimpleGroups

/-! ## Sequences -/

/-- On simple groups the ends from a position on the line are those of the words there. -/
theorem mem_matchEnds_iff {tokens : List Token} (h : SimpleGroups tokens) {chars : Array Char}
    {pos : Nat} (hinside : pos ≤ chars.size) (stop : Nat) :
    stop ∈ matchEnds chars tokens pos ↔
      pos ≤ stop ∧ stop ≤ chars.size ∧ segment chars pos stop ∈ language tokens := by
  constructor
  · intro hmem
    have hbounds := matchEnds_advances chars tokens pos stop hmem
    exact ⟨hbounds.1, by omega, segment_mem_language chars tokens pos stop hmem⟩
  · rintro ⟨hstart, hstop, hword⟩
    induction tokens generalizing pos with
    | nil =>
        rw [mem_language_nil, ← List.length_eq_zero_iff, length_segment hstop] at hword
        exact mem_matchEnds_nil.mpr (by omega)
    | cons token rest ih =>
        obtain ⟨front, hfront, back, hback, hsplit⟩ := (mem_language_cons token rest _).mp hword
        obtain ⟨hmiddle, hhead, htail⟩ := segment_split hstop hstart hsplit
        have hoffered : pos + front.length ∈ token.ends chars pos :=
          Quantifier.mem_ends_of_segment (token.kind.ends_advances chars)
            (token.kind.segment_mem_language chars) (fun _ _ => h.mem_ends_of_segment chars)
            h.exists_length (Nat.le_add_right pos front.length) (Nat.le_trans hmiddle hstop)
            (hhead.symm ▸ hfront)
        have hrest := ih h.tail (Nat.le_trans hmiddle hstop) hmiddle (htail.symm ▸ hback)
        exact mem_matchEnds_cons.mpr ⟨_, hoffered, hrest⟩

/-! ## Searches -/

/-- Whether a placement allows a word to be found as this part of the line. -/
def Placement.Admits (placement : Placement) (word line : Text) : Prop :=
  match placement with
  | .exact => word = line
  | .fromStart => word <+: line
  | .atEnd => word <:+ line
  | .anywhere => word <:+: line

theorem Placement.admits_iff_segment (placement : Placement) (chars : Array Char) (word : Text) :
    placement.Admits word chars.toList ↔
      ∃ span : Span, placement.Allows chars.size span ∧ span.start ≤ span.stop ∧
        span.stop ≤ chars.size ∧ segment chars span.start span.stop = word := by
  cases placement with
  | exact =>
      constructor
      · rintro rfl
        exact ⟨⟨0, chars.size⟩, ⟨rfl, rfl⟩, Nat.zero_le _, Nat.le_refl _, segment_whole⟩
      · rintro ⟨⟨start, stop⟩, ⟨rfl, rfl⟩, -, -, hword⟩
        exact hword.symm.trans segment_whole
  | fromStart =>
      rw [Admits, isPrefix_iff_segment]
      constructor
      · rintro ⟨stop, hstop, hword⟩
        exact ⟨⟨0, stop⟩, rfl, Nat.zero_le _, hstop, hword⟩
      · rintro ⟨⟨start, stop⟩, rfl, -, hstop, hword⟩
        exact ⟨stop, hstop, hword⟩
  | atEnd =>
      rw [Admits, isSuffix_iff_segment]
      constructor
      · rintro ⟨start, hstart, hword⟩
        exact ⟨⟨start, chars.size⟩, rfl, hstart, Nat.le_refl _, hword⟩
      · rintro ⟨⟨start, stop⟩, rfl, hstart, -, hword⟩
        exact ⟨start, hstart, hword⟩
  | anywhere =>
      rw [Admits, isInfix_iff_segment]
      constructor
      · rintro ⟨start, stop, hstart, hstop, hword⟩
        exact ⟨⟨start, stop⟩, trivial, hstart, hstop, hword⟩
      · rintro ⟨⟨start, stop⟩, -, hstart, hstop, hword⟩
        exact ⟨start, stop, hstart, hstop, hword⟩

theorem offers_iff {tokens : List Token} (h : SimpleGroups tokens) (chars : Array Char)
    (span : Span) :
    Offers tokens chars span ↔ span.start ≤ span.stop ∧ span.stop ≤ chars.size ∧
      segment chars span.start span.stop ∈ language tokens := by
  constructor
  · exact Offers.segment_mem_language
  · intro hword
    have hinside : span.start ≤ chars.size := Nat.le_trans hword.1 hword.2.1
    exact ⟨hinside, (mem_matchEnds_iff h hinside span.stop).mpr hword⟩

/-- On simple groups a match is found exactly where there is a word, and a search succeeds exactly
when the line has a word where the placement wants it: as a whole, at its start, at its end or
anywhere. -/
theorem match_iff_word {tokens : List Token} (hsimple : SimpleGroups tokens) (chars : Array Char) :
    (∀ pos index required, pos ≤ chars.size →
      ((matchAt? chars pos tokens index required).isSome = true ↔
        ∃ stop, pos ≤ stop ∧ stop ≤ chars.size ∧ (∀ last, required = some last → stop = last) ∧
          segment chars pos stop ∈ language (tokens.drop index))) ∧
      ∀ pattern : Pattern, pattern.tokens = tokens →
        ((pattern.search? chars).isSome = true ↔
          ∃ word ∈ language tokens, pattern.placement.Admits word chars.toList) := by
  constructor
  · intro pos index required hinside
    rw [matchAt?_isSome_iff]
    constructor
    · rintro ⟨stop, hmem, hlast⟩
      obtain ⟨hstart, hstop, hword⟩ := (mem_matchEnds_iff (hsimple.drop index) hinside stop).mp hmem
      exact ⟨stop, hstart, hstop, hlast, hword⟩
    · rintro ⟨stop, hstart, hstop, hlast, hword⟩
      exact ⟨stop, (mem_matchEnds_iff (hsimple.drop index) hinside stop).mpr
        ⟨hstart, hstop, hword⟩, hlast⟩
  · rintro pattern rfl
    simp only [Pattern.search?_isSome_iff, offers_iff hsimple, Placement.admits_iff_segment]
    constructor
    · rintro ⟨span, hallows, hstart, hstop, hword⟩
      exact ⟨_, hword, span, hallows, hstart, hstop, rfl⟩
    · rintro ⟨word, hword, span, hallows, hstart, hstop, rfl⟩
      exact ⟨span, hallows, hstart, hstop, hword⟩

/-- Two of the pairs in a row on `.abcd`: from the first letter they reach the end of the line, so
there is a word up to it, and from the dot in front they match nothing, so there is none. -/
theorem match_iff_word_of_repeated_pairs :
    SimpleGroups [⟨.group [['a', 'b'], ['a', '.'], ['c', 'd']], .repeated⟩,
        ⟨.literal 'e', .optional⟩] ∧
      (∃ stop, 1 ≤ stop ∧ stop ≤ 5 ∧ (∀ last, some 5 = some last → stop = last) ∧
        segment #['.', 'a', 'b', 'c', 'd'] 1 stop ∈
          language [⟨.group [['a', 'b'], ['a', '.'], ['c', 'd']], .repeated⟩,
            ⟨.literal 'e', .optional⟩]) ∧
      ¬ ∃ word ∈ language [⟨.group [['a', 'b'], ['a', '.'], ['c', 'd']], .repeated⟩,
          ⟨.literal 'e', .optional⟩], word <+: ['.', 'a', 'b', 'c', 'd'] := by
  have hsimple : SimpleGroups [⟨.group [['a', 'b'], ['a', '.'], ['c', 'd']], .repeated⟩,
      ⟨.literal 'e', .optional⟩] := ⟨by decide +kernel, by decide +kernel⟩
  obtain ⟨hmatch, hsearch⟩ := match_iff_word hsimple #['.', 'a', 'b', 'c', 'd']
  refine ⟨hsimple, (hmatch 1 0 (some 5) (by decide)).mp (by decide +kernel), ?_⟩
  intro hword
  have hfound := (hsearch ⟨_, true, false⟩ rfl).mpr hword
  revert hfound
  decide +kernel

end LineSearch
