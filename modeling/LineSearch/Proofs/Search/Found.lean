import LineSearch.Proofs.Search.Attempts
import LineSearch.Proofs.Text.Offset

/-!
# The part found and the verdict

A search reports positions of characters, and the part found is cut out at bytes. Both ends that a
search reports are places where the line can be cut, so the part is made of the characters between
them (`Pattern.find?_eq`) and is found exactly where the line matches, also for the empty pattern,
which is not searched for to tell whether a line matches.
-/

namespace LineSearch

/-! ## From positions to bytes -/

def Found.ofSpan (line : Text) (span : Span) : Found where
  start := Text.utf8Length (line.take span.start)
  stop := Text.utf8Length (line.take span.stop)
  text := (line.take span.stop).drop span.start

theorem Found.ofSpan?_eq (line : Text) {span : Span} (h : span.start ≤ span.stop) :
    ofSpan? line span = some (ofSpan line span) := by
  unfold ofSpan? ofSpan
  dsimp only
  rw [Text.slice?_byteOffset line h, Text.byteOffset_eq, Text.byteOffset_eq]
  rfl

/-- The part that a search reports lies on the line. -/
theorem Pattern.bounds_of_search? {pattern : Pattern} {chars : Array Char} {span : Span}
    (h : pattern.search? chars = some span) :
    span.start ≤ span.stop ∧ span.stop ≤ chars.size := by
  obtain ⟨-, hinside, hmem⟩ := search?_spec h
  have hbounds := matchEnds_advances chars pattern.tokens span.start span.stop hmem
  omega

/-! ## Searches that nobody observes -/

theorem Pattern.isMatch_eq (pattern : Pattern) (line : Text) :
    pattern.isMatch line = (pattern.search? line.toArray).isSome := rfl

/-- Whatever a search reports can be cut out of the line. -/
theorem Pattern.find?_eq (pattern : Pattern) (line : Text) :
    pattern.find? line = (pattern.search? line.toArray).map (Found.ofSpan line) := by
  have hcut : pattern.find? line = (pattern.search? line.toArray).bind (Found.ofSpan? line) := rfl
  rw [hcut]
  cases hsearch : pattern.search? line.toArray with
  | none => rfl
  | some span => exact Found.ofSpan?_eq line (bounds_of_search? hsearch).1

theorem findInLine?_eq (line pattern : Text) :
    findInLine? line pattern =
      ((Pattern.ofText pattern).search? line.toArray).map (Found.ofSpan line) :=
  (Pattern.ofText pattern).find?_eq line

theorem lineMatches_eq (line pattern : Text) :
    lineMatches line pattern = (pattern.isEmpty || (Pattern.ofText pattern).isMatch line) := by
  unfold lineMatches lineMatchesM
  cases pattern <;> rfl

/-- The empty pattern matches nothing at the start of any line. -/
theorem isSome_search?_ofText_nil (chars : Array Char) :
    ((Pattern.ofText []).search? chars).isSome = true := by
  apply Pattern.search?_isSome_iff.mpr
  rw [Pattern.ofText, tokenize_nil]
  exact ⟨⟨0, 0⟩, trivial, Nat.zero_le _, by simp [Pattern.ofTokens]⟩

theorem isSome_findInLine? (line pattern : Text) :
    (findInLine? line pattern).isSome = lineMatches line pattern := by
  rw [findInLine?_eq, Option.isSome_map, lineMatches_eq, Pattern.isMatch_eq]
  cases pattern with
  | nil => rw [isSome_search?_ofText_nil, Bool.or_true]
  | cons c rest => rw [List.isEmpty_cons, Bool.false_or]

theorem exists_found_of_lineMatches {line pattern : Text} (h : lineMatches line pattern = true) :
    ∃ found, findInLine? line pattern = some found :=
  Option.isSome_iff_exists.mp ((isSome_findInLine? line pattern).trans h)

/-! ## Parts of a line -/

/-- The part found that covers the text where the other stands in front of it. -/
def Found.behind (before text : Text) : Found where
  start := Text.utf8Length before
  stop := Text.utf8Length (before ++ text)
  text := text

theorem Found.ofSpan_append (before text after : Text) :
    Found.ofSpan (before ++ text ++ after) ⟨before.length, before.length + text.length⟩ =
      Found.behind before text := by
  have hstop : before.length + text.length = (before ++ text).length := by rw [List.length_append]
  rw [ofSpan, behind]
  dsimp only
  rw [hstop, List.take_left, List.append_assoc, List.take_left, List.drop_left]

/-! ## Deciding and locating -/

theorem Pattern.isSome_find? (pattern : Pattern) (line : Text) :
    (pattern.find? line).isSome = pattern.isMatch line := by
  rw [find?_eq, Option.isSome_map, isMatch_eq]

/-- A pattern matches a line exactly if a part of the line is found, and that is the part which the
search reports: its two positions come in order and lie on the line, each is turned into the number
of bytes of the characters in front of it, the line can be cut at both, and what stands between are
the characters from the one to the other. For a pattern that is given as a text, also the empty one,
the line matches exactly if a part is found. -/
theorem decided_as_located (line : Text) :
    (∀ pattern : Pattern, pattern.isMatch line = (pattern.find? line).isSome ∧
      ∀ span, pattern.search? line.toArray = some span →
        span.start ≤ span.stop ∧ span.stop ≤ line.length ∧
        Text.byteOffset line span.start = Text.utf8Length (line.take span.start) ∧
        Text.byteOffset line span.stop = Text.utf8Length (line.take span.stop) ∧
        Text.slice? line (Text.byteOffset line span.start) (Text.byteOffset line span.stop) =
          some ((line.take span.stop).drop span.start) ∧
        Text.utf8 ((line.take span.stop).drop span.start) =
          ((Text.utf8 line).take (Text.byteOffset line span.stop)).drop
            (Text.byteOffset line span.start) ∧
        pattern.find? line = some ⟨Text.byteOffset line span.start,
          Text.byteOffset line span.stop, (line.take span.stop).drop span.start⟩) ∧
    ∀ pattern : Text, lineMatches line pattern = (findInLine? line pattern).isSome := by
  refine ⟨?_, fun pattern => (isSome_findInLine? line pattern).symm⟩
  intro pattern
  refine ⟨(pattern.isSome_find? line).symm, ?_⟩
  intro span hsearch
  obtain ⟨hstart, hstop⟩ := Pattern.bounds_of_search? hsearch
  have hslice := Text.slice?_byteOffset line hstart
  refine ⟨hstart, hstop, Text.byteOffset_eq line span.start, Text.byteOffset_eq line span.stop,
    hslice, Text.utf8_of_slice?_eq_some hslice, ?_⟩
  rw [Pattern.find?_eq, hsearch, Text.byteOffset_eq, Text.byteOffset_eq]
  rfl

/-- On `éaüü` the two letters at the end, of two bytes each, are found from byte 3 to byte 7. -/
theorem decided_as_located_of_wide_letters :
    Pattern.search? ⟨[⟨.literal 'ü', .repeated⟩], false, false⟩ #['é', 'a', 'ü', 'ü'] =
        some ⟨2, 4⟩ ∧
      Pattern.find? ⟨[⟨.literal 'ü', .repeated⟩], false, false⟩ ['é', 'a', 'ü', 'ü'] =
        some ⟨3, 7, ['ü', 'ü']⟩ := by
  have hsearch : Pattern.search? ⟨[⟨.literal 'ü', .repeated⟩], false, false⟩
      #['é', 'a', 'ü', 'ü'] = some ⟨2, 4⟩ := by decide +kernel
  obtain ⟨-, hlocated⟩ := (decided_as_located ['é', 'a', 'ü', 'ü']).1 _
  exact ⟨hsearch, (hlocated _ hsearch).2.2.2.2.2.2⟩

end LineSearch
