import LineSearch.Proofs.Search.Completeness

/-!
# Tokens that can be interchanged

What follows a token picks the first end that it goes on from, so a second occurrence of an end in
the list is never picked: two lists offer the same choices if every continuation makes of both the
same. Tokens whose kinds offer the same choices can take each other's place in any sequence and
with any quantifier, and a group of branches for single characters offers the same choices as a kind
that accepts just those characters (`group_interchangeable`).
-/

namespace LineSearch

/-! ## The same choices -/

/-- Whatever follows, the first end that it goes on from leads to the same in both lists. -/
def SameChoices (first second : List Nat) : Prop :=
  ∀ next : Nat → Option Nat, first.findSome? next = second.findSome? next

namespace SameChoices

theorem refl (ends : List Nat) : SameChoices ends ends := fun _ => rfl

theorem head?_eq {first second : List Nat} (h : SameChoices first second) :
    first.head? = second.head? := by
  have hfirst := h some
  rwa [← List.head?_filterMap, ← List.head?_filterMap, List.filterMap_some, List.filterMap_some]
    at hfirst

theorem find?_eq {first second : List Nat} (h : SameChoices first second) (test : Nat → Bool) :
    first.find? test = second.find? test := by
  rw [← List.findSome?_guard, ← List.findSome?_guard]
  exact h _

theorem append {first second first' second' : List Nat} (h : SameChoices first second)
    (h' : SameChoices first' second') : SameChoices (first ++ first') (second ++ second') := by
  intro next
  rw [List.findSome?_append, List.findSome?_append, h next, h' next]

theorem flatMap {first second : List Nat} {f g : Nat → List Nat} (h : SameChoices first second)
    (hnext : ∀ stop, SameChoices (f stop) (g stop)) :
    SameChoices (first.flatMap f) (second.flatMap g) := by
  intro next
  have hsame : (fun stop => (f stop).findSome? next) = fun stop => (g stop).findSome? next :=
    funext fun stop => hnext stop next
  rw [findSome?_flatMap, findSome?_flatMap, hsame]
  exact h _

/-- An end that is offered several times is as good as offered once. -/
theorem singleton_of_forall_eq {ends : List Nat} {stop : Nat} (hsome : ends ≠ [])
    (hall : ∀ other ∈ ends, other = stop) : SameChoices ends [stop] := by
  have hlength : ends.length ≠ 0 := mt List.length_eq_zero_iff.mp hsome
  intro next
  rw [List.eq_replicate_of_mem hall, List.findSome?_replicate, if_neg hlength,
    List.findSome?_singleton]

end SameChoices

/-- Repetitions go on from the preferred end only. -/
theorem Quantifier.ends_repeated_congr {once other : Nat → List Nat}
    (h : ∀ pos, (once pos).head? = (other pos).head?) (limit pos : Nat) :
    Quantifier.repeated.ends once limit pos = Quantifier.repeated.ends other limit pos := by
  have hfirst : (fun start => (once start).head?) = fun start => (other start).head? := funext h
  rw [ends, ends, hfirst]

theorem Quantifier.sameChoices_ends {once other : Nat → List Nat}
    (h : ∀ pos, SameChoices (once pos) (other pos)) (quantifier : Quantifier) (limit pos : Nat) :
    SameChoices (quantifier.ends once limit pos) (quantifier.ends other limit pos) := by
  cases quantifier with
  | once => exact h pos
  | optional => exact (h pos).append (.refl [pos])
  | repeated =>
      rw [Quantifier.ends_repeated_congr fun start => (h start).head?_eq]
      exact .refl _

/-- A token can be replaced by one that offers the same choices. -/
theorem sameChoices_matchEnds_set {chars : Array Char} {token other : Token}
    (h : ∀ pos, SameChoices (token.ends chars pos) (other.ends chars pos)) (tokens : List Token)
    (place pos : Nat) :
    SameChoices (matchEnds chars (tokens.set place token) pos)
      (matchEnds chars (tokens.set place other) pos) := by
  induction tokens generalizing place pos with
  | nil => exact .refl _
  | cons head rest ih =>
      cases place with
      | zero =>
          rw [List.set_cons_zero, List.set_cons_zero, matchEnds_cons, matchEnds_cons]
          exact (h pos).flatMap fun stop => .refl _
      | succ place =>
          rw [List.set_cons_succ, List.set_cons_succ, matchEnds_cons, matchEnds_cons]
          exact (SameChoices.refl _).flatMap (ih place)

theorem matchAt?_set_of_sameChoices {chars : Array Char} {token other : Token}
    (h : ∀ pos, SameChoices (token.ends chars pos) (other.ends chars pos)) (tokens : List Token)
    (place pos index : Nat) (required : Option Nat) :
    matchAt? chars pos (tokens.set place token) index required =
      matchAt? chars pos (tokens.set place other) index required := by
  rw [matchAt?_eq_find?, matchAt?_eq_find?, List.drop_set, List.drop_set]
  split
  · rfl
  · exact (sameChoices_matchEnds_set h _ _ pos).find?_eq _

/-! ## Groups of single characters -/

namespace Token.Kind

/-- Each branch is read as one plain character, and the kind takes single characters too: those that
the character of some branch takes. -/
structure Gathers (kind : Kind) (branches : List Text) : Prop where
  single : kind.isSingle = true
  plain : ∀ branch ∈ branches, ∃ token : Token, tokenize branch = [token] ∧ token.IsPlain
  accepts_iff : ∀ c, kind.accepts c = true ↔
    ∃ branch ∈ branches, ∃ token ∈ tokenize branch, token.accepts c = true

namespace Gathers

variable {kind : Kind} {branches : List Text} (h : kind.Gathers branches)

include h

theorem mem_ends_group {chars : Array Char} {pos stop : Nat} :
    stop ∈ (Kind.group branches).ends chars pos ↔
      acceptedAt kind.accepts chars pos = true ∧ stop = pos + 1 := by
  rw [Kind.mem_ends_group]
  constructor
  · rintro ⟨branch, hbranch, hfirst⟩
    obtain ⟨⟨inner, quantifier⟩, hread, hsingle, rfl⟩ := h.plain branch hbranch
    rw [hread, matchEnds_singleton] at hfirst
    obtain ⟨haccepted, rfl⟩ := (mem_ends_single hsingle).mp (List.mem_of_mem_head? hfirst)
    obtain ⟨c, hc, haccepts⟩ := acceptedAt_iff.mp haccepted
    have hmem : ⟨inner, .once⟩ ∈ tokenize branch := hread ▸ List.mem_singleton_self _
    have hkind := (h.accepts_iff c).mpr ⟨branch, hbranch, _, hmem, haccepts⟩
    exact ⟨acceptedAt_iff.mpr ⟨c, hc, hkind⟩, rfl⟩
  · rintro ⟨haccepted, rfl⟩
    obtain ⟨c, hc, hkind⟩ := acceptedAt_iff.mp haccepted
    obtain ⟨branch, hbranch, token, hmem, haccepts⟩ := (h.accepts_iff c).mp hkind
    obtain ⟨⟨inner, quantifier⟩, hread, hsingle, rfl⟩ := h.plain branch hbranch
    obtain rfl : token = ⟨inner, .once⟩ := by rwa [hread, List.mem_singleton] at hmem
    refine ⟨branch, hbranch, ?_⟩
    have hinner : acceptedAt inner.accepts chars pos = true := acceptedAt_iff.mpr ⟨c, hc, haccepts⟩
    rw [hread, matchEnds_singleton, Token.ends, Quantifier.ends, ends_single chars hsingle,
      if_pos hinner, List.head?_cons]

theorem sameChoices_ends (chars : Array Char) (pos : Nat) :
    SameChoices ((Kind.group branches).ends chars pos) (kind.ends chars pos) := by
  rw [ends_single chars h.single]
  split
  · next haccepted =>
      apply SameChoices.singleton_of_forall_eq
      · exact List.ne_nil_of_mem (h.mem_ends_group.mpr ⟨haccepted, rfl⟩)
      · intro other hother
        exact (h.mem_ends_group.mp hother).2
  · next hrejected =>
      have hempty : (Kind.group branches).ends chars pos = [] :=
        List.eq_nil_iff_forall_not_mem.mpr fun stop hstop =>
          hrejected (h.mem_ends_group.mp hstop).1
      rw [hempty]
      exact .refl []

end Gathers

end Token.Kind

/-- A group whose branches are single characters and a kind that accepts the same characters can
take each other's place anywhere in a sequence, with any quantifier: each match has the same end. -/
theorem group_interchangeable {kind : Token.Kind} {branches : List Text}
    (h : kind.Gathers branches) (quantifier : Quantifier) (tokens : List Token) (place : Nat)
    (chars : Array Char) (pos index : Nat) (required : Option Nat) :
    matchAt? chars pos (tokens.set place ⟨.group branches, quantifier⟩) index required =
      matchAt? chars pos (tokens.set place ⟨kind, quantifier⟩) index required := by
  apply matchAt?_set_of_sameChoices
  exact quantifier.sameChoices_ends (h.sameChoices_ends chars) chars.size

/-- Two repeated letters of `(a|[bc]|a)` and of `[cab]` in front of a `b`: on `xabcb` both take
three and leave the last `b`. -/
theorem group_interchangeable_with_class :
    Token.Kind.Gathers (.charClass ['c', 'a', 'b'] false) [['a'], ['[', 'b', 'c', ']'], ['a']] ∧
      matchAt? #['x', 'a', 'b', 'c', 'b'] 0
          [⟨.shorthand .any, .once⟩, ⟨.charClass ['c', 'a', 'b'] false, .repeated⟩,
            ⟨.literal 'b', .once⟩] 0 none = some 5 ∧
      matchAt? #['x', 'a', 'b', 'c', 'b'] 0
          [⟨.shorthand .any, .once⟩, ⟨.group [['a'], ['[', 'b', 'c', ']'], ['a']], .repeated⟩,
            ⟨.literal 'b', .once⟩] 0 none = some 5 := by
  have hletter : tokenize ['a'] = [⟨.literal 'a', .once⟩] := by decide +kernel
  have hclass : tokenize ['[', 'b', 'c', ']'] = [⟨.charClass ['b', 'c'] false, .once⟩] := by
    decide +kernel
  have hgathers : Token.Kind.Gathers (.charClass ['c', 'a', 'b'] false)
      [['a'], ['[', 'b', 'c', ']'], ['a']] := by
    refine ⟨rfl, ?_, ?_⟩
    · simp [hletter, hclass, Token.IsPlain, Token.Kind.isSingle]
    · intro c
      simp [hletter, hclass, Token.accepts, Token.Kind.accepts]
      tauto
  have hmatch : matchAt? #['x', 'a', 'b', 'c', 'b'] 0
      [⟨.shorthand .any, .once⟩, ⟨.charClass ['c', 'a', 'b'] false, .repeated⟩,
        ⟨.literal 'b', .once⟩] 0 none = some 5 := by decide +kernel
  refine ⟨hgathers, hmatch, ?_⟩
  exact (group_interchangeable hgathers .repeated
    [⟨.shorthand .any, .once⟩, ⟨.literal 'a', .once⟩, ⟨.literal 'b', .once⟩] 1 _ 0 0 none).trans
      hmatch

end LineSearch
