import LineSearch.Proofs.Search.Positions

/-!
# Searches without faults

Around the scan of a pattern and the matches there is little that can fail: the anchors are taken
off a list of tokens, which must hold them, and the part found is cut out of the line at two bytes,
which must come in order and split no character. A token that is one anchor is not the other
(`Pattern.checkedOfTokens_eq`), and the two ends that a search reports lie on the line in order
(`Pattern.agrees_checkedFind`). So whoever asks for a pattern of less than `2 ^ 31` characters gets
an answer, and the right one (`no_operation_faults`).
-/

namespace LineSearch

open Checked

/-! ## Patterns -/

def checkedTail {α : Type} : List α → Checked (List α)
  | [] => throw .empty
  | _ :: rest => return rest

def checkedDropLast {α : Type} : List α → Checked (List α)
  | [] => throw .empty
  | item :: rest => return (item :: rest).dropLast

namespace Pattern

def checkedOfTokens (tokens : List Token) : Checked Pattern := do
  let startBound := tokens.head?.any (·.isAnchor .lineStart)
  let endBound := tokens.getLast?.any (·.isAnchor .lineEnd)
  let beforeEnd ← if endBound then checkedDropLast tokens else pure tokens
  let body ← if startBound then checkedTail beforeEnd else pure beforeEnd
  return ⟨body, startBound, endBound⟩

def checkedSearch (pattern : Pattern) (chars : Array Char) : Checked (Option Span) :=
  let attempt (start : Nat) (required : Option Nat) : OptionT Checked Span :=
    OptionT.mk ((·.map (⟨start, ·⟩)) <$> checkedMatchAt chars start pattern.tokens 0 required)
  let starts := List.range (chars.size + 1)
  match pattern.placement with
  | .exact => (attempt 0 (some chars.size)).run
  | .fromStart => (attempt 0 none).run
  | .atEnd => (starts.reverse.firstM (attempt · (some chars.size))).run
  | .anywhere => (starts.firstM (attempt · none)).run

def checkedIsMatch (pattern : Pattern) (line : Text) : Checked Bool := do
  return (← pattern.checkedSearch line.toArray).isSome

def checkedFind (pattern : Pattern) (line : Text) : Checked (Option Found) := do
  match ← pattern.checkedSearch line.toArray with
  | none => return none
  | some span =>
      match Found.ofSpan? line span with
      | none => throw .slice
      | some found => return some found

end Pattern

def Pattern.checkedOfText (text : Text) : Checked Pattern := do
  checkedOfTokens (← Scan.tokens text.toArray 0)

def checkedLineMatches (line pattern : Text) : Checked Bool := do
  if pattern.isEmpty then return true else (← Pattern.checkedOfText pattern).checkedIsMatch line

def checkedFindInLine (line pattern : Text) : Checked (Option Found) := do
  (← Pattern.checkedOfText pattern).checkedFind line

/-! ## Anchors are there to be taken off -/

theorem Token.isAnchor_unique {token : Token} {first second : Anchor}
    (hfirst : token.isAnchor first = true) (hsecond : token.isAnchor second = true) :
    first = second := by
  have hfirst : token.kind = .anchor first := by simpa [isAnchor] using hfirst
  have hsecond : token.kind = .anchor second := by simpa [isAnchor] using hsecond
  exact Kind.anchor.inj (hfirst.symm.trans hsecond)

namespace Pattern

/-- No token is both anchors, so each that is taken off is there. -/
theorem checkedOfTokens_eq (tokens : List Token) :
    checkedOfTokens tokens = pure (ofTokens tokens) := by
  unfold checkedOfTokens ofTokens
  match tokens with
  | [] => rfl
  | [token] =>
      rw [List.head?_cons, List.getLast?_singleton, Option.any_some, Option.any_some]
      cases hstart : token.isAnchor .lineStart with
      | false => cases token.isAnchor .lineEnd <;> rfl
      | true =>
          cases hend : token.isAnchor .lineEnd with
          | false => rfl
          | true => exact absurd (Token.isAnchor_unique hstart hend) (by decide)
  | first :: second :: rest =>
      dsimp only
      cases (first :: second :: rest).head?.any (·.isAnchor .lineStart) <;>
        cases (first :: second :: rest).getLast?.any (·.isAnchor .lineEnd) <;> rfl

theorem mem_of_mem_ofTokens {tokens : List Token} {token : Token}
    (h : token ∈ (ofTokens tokens).tokens) : token ∈ tokens := by
  have hbeforeEnd : ∀ token ∈ (if tokens.getLast?.any (·.isAnchor .lineEnd) then tokens.dropLast
      else tokens), token ∈ tokens := by
    intro token hmem
    split at hmem
    · exact List.dropLast_subset tokens hmem
    · exact hmem
  apply hbeforeEnd
  unfold ofTokens at h
  dsimp only at h
  split at h
  · exact List.mem_of_mem_tail h
  · exact h

theorem not_hasLongBranch_ofText {text : Text} (h : text.length < 2 ^ 31) :
    ¬ HasLongBranch (ofText text).tokens := by
  rintro ⟨token, htoken, branch, hbranch, hlong⟩
  have hshorter := length_branch_of_mem_tokenize (mem_of_mem_ofTokens htoken) branch hbranch
  omega

theorem checkedOfText_eq {text : Text} (h : text.length < 2 ^ 31) :
    checkedOfText text = pure (ofText text) := by
  rw [checkedOfText, Scan.tokens_eq h, pure_bind, checkedOfTokens_eq, ofText]

/-! ## Searches -/

section Searches

variable (pattern : Pattern)

theorem agrees_attempt (chars : Array Char) (start : Nat) (required : Option Nat) :
    Agrees (HasLongBranch pattern.tokens)
      (OptionT.mk ((·.map (⟨start, ·⟩)) <$> checkedMatchAt chars start pattern.tokens 0 required) :
        OptionT Checked Span).run
      (pattern.attempt? chars required start) :=
  (agrees_checkedMatchAt chars start pattern.tokens 0 required).map _

theorem agrees_checkedSearch (chars : Array Char) :
    Agrees (HasLongBranch pattern.tokens) (pattern.checkedSearch chars)
      (pattern.search? chars) := by
  rw [search?_eq]
  unfold checkedSearch
  cases pattern.placement with
  | exact => exact agrees_attempt pattern chars 0 _
  | fromStart => exact agrees_attempt pattern chars 0 none
  | atEnd => exact agrees_firstM fun start _ => agrees_attempt pattern chars start _
  | anywhere => exact agrees_firstM fun start _ => agrees_attempt pattern chars start none

theorem agrees_checkedIsMatch (line : Text) :
    Agrees (HasLongBranch pattern.tokens) (pattern.checkedIsMatch line) (pattern.isMatch line) := by
  rw [isMatch_eq]
  exact (agrees_checkedSearch pattern line.toArray).bind (agrees_pure _)

/-- The part found can be cut out, as its two ends come in order. -/
theorem agrees_checkedFind (line : Text) :
    Agrees (HasLongBranch pattern.tokens) (pattern.checkedFind line) (pattern.find? line) := by
  rw [find?_eq]
  apply (agrees_checkedSearch pattern line.toArray).bind
  cases hsearch : pattern.search? line.toArray with
  | none => exact agrees_pure none
  | some span =>
      dsimp only
      rw [Found.ofSpan?_eq line (bounds_of_search? hsearch).1]
      exact agrees_pure _

end Searches

end Pattern

theorem checkedLineMatches_eq (line : Text) {pattern : Text} (h : pattern.length < 2 ^ 31) :
    checkedLineMatches line pattern = pure (lineMatches line pattern) := by
  rw [checkedLineMatches, lineMatches_eq]
  cases pattern with
  | nil => rfl
  | cons c rest =>
      rw [List.isEmpty_cons, if_neg Bool.false_ne_true, Pattern.checkedOfText_eq h, pure_bind]
      exact (Pattern.agrees_checkedIsMatch _ line).eq_of_not (Pattern.not_hasLongBranch_ofText h)

theorem checkedFindInLine_eq (line : Text) {pattern : Text} (h : pattern.length < 2 ^ 31) :
    checkedFindInLine line pattern = pure (findInLine? line pattern) := by
  rw [checkedFindInLine, Pattern.checkedOfText_eq h, pure_bind]
  exact (Pattern.agrees_checkedFind _ line).eq_of_not (Pattern.not_hasLongBranch_ofText h)

/-- No operation meets a fault. A pattern of less than `2 ^ 31` characters is scanned, every bracket
that is found in it lies behind the one it closes, and searching a line for it comes to what it
comes to unchecked. A match does so wherever it begins and whatever its tokens are, unless a branch
among them is as long as that: then the groups open in it may be too many to count, and that is all.
Whatever the tokens are, the anchors that are taken off are there, and the two offsets of a part
found come in order and each stands between two characters or at an end. -/
theorem no_operation_faults :
    (∀ pattern : Text, pattern.length < 2 ^ 31 →
        Scan.tokens pattern.toArray 0 = pure (tokenize pattern) ∧
        (∀ opening < pattern.length, ∀ stop,
          Scan.classEnd pattern.toArray opening = pure (some stop) ∨
            Scan.groupEnd pattern.toArray 1 (opening + 1) = pure (some stop) →
          opening < stop ∧ stop < pattern.length) ∧
        ∀ line : Text, checkedLineMatches line pattern = pure (lineMatches line pattern) ∧
          checkedFindInLine line pattern = pure (findInLine? line pattern)) ∧
      (∀ (chars : Array Char) (pos : Nat) (tokens : List Token) (index : Nat)
          (required : Option Nat),
        checkedMatchAt chars pos tokens index required =
            pure (matchAt? chars pos tokens index required) ∨
          (∃ token ∈ tokens, ∃ branch ∈ token.branches, 2 ^ 31 ≤ branch.length) ∧
            checkedMatchAt chars pos tokens index required = throw .depth) ∧
      (∀ tokens : List Token, Pattern.checkedOfTokens tokens = pure (Pattern.ofTokens tokens)) ∧
      ∀ (pattern : Pattern) (line : Text),
        Agrees (HasLongBranch pattern.tokens) (pattern.checkedFind line) (pattern.find? line) ∧
        ∀ span, pattern.search? line.toArray = some span →
          Text.byteOffset line span.start ≤ Text.byteOffset line span.stop ∧
          Text.cut? (Text.byteOffset line span.start) line =
            some (line.take span.start, line.drop span.start) ∧
          Text.cut? (Text.byteOffset line span.stop) line =
            some (line.take span.stop, line.drop span.stop) := by
  refine ⟨?_, agrees_checkedMatchAt, Pattern.checkedOfTokens_eq, ?_⟩
  · intro pattern hlength
    refine ⟨Scan.tokens_eq hlength, ?_, ?_⟩
    · intro opening hopening stop hend
      exact Scan.lt_of_end hopening hend
    · intro line
      exact ⟨checkedLineMatches_eq line hlength, checkedFindInLine_eq line hlength⟩
  · intro pattern line
    refine ⟨pattern.agrees_checkedFind line, ?_⟩
    intro span hsearch
    have hordered := (Pattern.bounds_of_search? hsearch).1
    exact ⟨Text.byteOffset_le_byteOffset line hordered, Text.cut?_byteOffset line span.start,
      Text.cut?_byteOffset line span.stop⟩

/-- The group of `(a|(é))+` ends at its second `)`, and in `xaéé` the last three letters are found,
with the whole line in front of the second cut. -/
theorem no_operation_faults_of_wide_letters :
    (0 < 6 ∧ 6 < "(a|(é))+".toList.length) ∧
      checkedFindInLine "xaéé".toList "(a|(é))+".toList =
        pure (some ⟨1, 6, ['a', 'é', 'é']⟩) ∧
      Text.byteOffset "xaéé".toList 1 ≤ Text.byteOffset "xaéé".toList 4 ∧
      Text.cut? (Text.byteOffset "xaéé".toList 4) "xaéé".toList = some ("xaéé".toList, []) := by
  have hlength : "(a|(é))+".toList.length < 2 ^ 31 := by decide
  have hend : Scan.groupEnd "(a|(é))+".toList.toArray 1 (0 + 1) = pure (some 6) := by
    decide +kernel
  have hsearch : (Pattern.ofText "(a|(é))+".toList).search? "xaéé".toList.toArray =
      some ⟨1, 4⟩ := by decide +kernel
  have hfound : findInLine? "xaéé".toList "(a|(é))+".toList =
      some ⟨1, 6, ['a', 'é', 'é']⟩ := by decide +kernel
  obtain ⟨hpatterns, -, -, hfinds⟩ := no_operation_faults
  obtain ⟨-, hends, hlines⟩ := hpatterns _ hlength
  obtain ⟨hordered, -, hcut⟩ := (hfinds _ _).2 _ hsearch
  exact ⟨hends 0 (by decide) 6 (.inr hend), hfound ▸ (hlines "xaéé".toList).2, hordered, hcut⟩

end LineSearch
