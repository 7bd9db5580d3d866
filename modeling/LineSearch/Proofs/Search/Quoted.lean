import LineSearch.Proofs.Search.Completeness
import LineSearch.Proofs.Search.Found
import LineSearch.Proofs.Token.Quoting

/-!
# Searching for quoted texts

A quoted text has one word in its language, itself, so what is found for it is an occurrence of the
text: the first on the line, or the one that its binding asks for. Together with the reading of
quoted texts this holds from the pattern's text to the bytes of the part found
(`quoted_text_found_verbatim`).
-/

namespace LineSearch

/-! ## Literals -/

theorem simpleGroups_literals (text : Text) : SimpleGroups (literals text) where
  plain token hmem branch hbranch := by
    obtain ⟨c, -, rfl⟩ := List.mem_map.mp hmem
    contradiction
  uniform token hmem hrepeated := by
    obtain ⟨c, -, rfl⟩ := List.mem_map.mp hmem
    contradiction

theorem mem_language_literals (text word : Text) :
    word ∈ language (literals text) ↔ word = text := by
  induction text generalizing word with
  | nil => exact mem_language_nil word
  | cons c text ih =>
      have hkind : (Token.Kind.literal c).language = charLanguage (· == c) :=
        Token.Kind.language_single rfl
      rw [literals, List.map_cons, mem_language_cons, ← literals]
      simp only [ih, hkind, Quantifier.language]
      constructor
      · rintro ⟨front, ⟨d, hd, rfl⟩, back, rfl, rfl⟩
        rw [eq_of_beq hd]
        rfl
      · rintro rfl
        exact ⟨[c], ⟨c, beq_self_eq_true c, rfl⟩, text, rfl, rfl⟩

theorem offers_literals_iff (text : Text) (chars : Array Char) (span : Span) :
    Offers (literals text) chars span ↔ span.start ≤ span.stop ∧ span.stop ≤ chars.size ∧
      segment chars span.start span.stop = text := by
  rw [offers_iff (simpleGroups_literals text), mem_language_literals]

theorem Placement.isSome_search?_literals_iff (placement : Placement) (text : Text)
    (chars : Array Char) :
    (placement.search? (literals text) chars).isSome = true ↔
      placement.Admits text chars.toList := by
  rw [search?, Pattern.search?_isSome_iff, admits_iff_segment, placement_pattern, tokens_pattern]
  simp only [offers_literals_iff]

/-- What is found for literals is an occurrence of their text. -/
theorem Placement.occurrence_of_search?_literals {placement : Placement} {text line : Text}
    {span : Span} (h : placement.search? (literals text) line.toArray = some span) :
    ∃ before after, line = before ++ text ++ after ∧
      span = ⟨before.length, before.length + text.length⟩ := by
  obtain ⟨-, hoffers⟩ := Pattern.search?_spec h
  rw [tokens_pattern, offers_literals_iff] at hoffers
  obtain ⟨hstart, hstop, hword⟩ := hoffers
  have hbefore : (segment line.toArray 0 span.start).length = span.start := by
    rw [length_segment (Nat.le_trans hstart hstop), Nat.sub_zero]
  have htext : span.start + text.length = span.stop := by
    rw [← hword, length_segment hstop, Nat.add_sub_cancel' hstart]
  refine ⟨segment line.toArray 0 span.start, segment line.toArray span.stop line.toArray.size,
    ?_, ?_⟩
  · rw [← hword, segment_append (Nat.zero_le _) hstart, segment_append (Nat.zero_le _) hstop,
      segment_whole]
  · rw [hbefore, htext]

/-! ## Occurrences -/

/-- The text stands on the line with the other in front of it, and nowhere further to the front. -/
structure FirstOccurrence (text before line : Text) : Prop where
  occurs : ∃ after, line = before ++ text ++ after
  first : ∀ earlier later, line = earlier ++ text ++ later → before.length ≤ earlier.length

theorem FirstOccurrence.unique {text before before' line : Text}
    (h : FirstOccurrence text before line) (h' : FirstOccurrence text before' line) :
    before = before' := by
  obtain ⟨after, hline⟩ := h.occurs
  obtain ⟨after', hline'⟩ := h'.occurs
  have hlength := Nat.le_antisymm (h.first before' after' hline') (h'.first before after hline)
  rw [hline, List.append_assoc, List.append_assoc] at hline'
  exact (List.append_inj hline' hlength).1

/-- A search with one possible outcome has it if it has any. -/
theorem eq_some_iff_of_unique {α : Type} {result : Option α} {possible : α → Prop}
    (hspec : ∀ a, result = some a → possible a) (hsome : ∀ a, possible a → result.isSome = true)
    (hunique : ∀ a b, possible a → possible b → a = b) {a : α} :
    result = some a ↔ possible a := by
  refine ⟨hspec a, ?_⟩
  intro ha
  obtain ⟨b, hb⟩ := Option.isSome_iff_exists.mp (hsome a ha)
  rwa [hunique a b ha (hspec b hb)]

namespace Quotes

variable {text spelling : Text} (h : Quotes text spelling) (line : Text)

include h

theorem isSome_findInLine?_iff (placement : Placement) :
    (findInLine? line (placement.anchored spelling)).isSome = true ↔
      placement.Admits text line := by
  rw [findInLine?_eq, h.ofText_anchored, Option.isSome_map]
  exact placement.isSome_search?_literals_iff text line.toArray

variable {line} {found : Found}

theorem found_spec (placement : Placement)
    (hfound : findInLine? line (placement.anchored spelling) = some found) :
    ∃ before after, line = before ++ text ++ after ∧ found = .behind before text ∧
      placement.search? (literals text) line.toArray =
        some ⟨before.length, before.length + text.length⟩ := by
  rw [findInLine?_eq, h.ofText_anchored] at hfound
  obtain ⟨span, hsearch, rfl⟩ := Option.map_eq_some_iff.mp hfound
  obtain ⟨before, after, rfl, rfl⟩ := Placement.occurrence_of_search?_literals hsearch
  exact ⟨before, after, rfl, Found.ofSpan_append before text after, hsearch⟩

/-- At the start of the line the text is found if the line begins with it. -/
theorem findInLine?_fromStart_eq_some_iff :
    findInLine? line ('^' :: spelling) = some found ↔
      text <+: line ∧ found = .behind [] text := by
  apply eq_some_iff_of_unique
  · intro found hfound
    obtain ⟨before, after, hline, rfl, hsearch⟩ := h.found_spec .fromStart hfound
    have hstart : before.length = 0 := Placement.start_of_search?_fromStart hsearch
    obtain rfl := List.length_eq_zero_iff.mp hstart
    exact ⟨⟨after, hline.symm⟩, rfl⟩
  · rintro found ⟨hbegins, -⟩
    exact (h.isSome_findInLine?_iff line .fromStart).mpr hbegins
  · rintro found other ⟨-, rfl⟩ ⟨-, rfl⟩
    rfl

/-- At the end of the line the text is found if the line ends with it. -/
theorem findInLine?_atEnd_eq_some_iff :
    findInLine? line (spelling ++ ['$']) = some found ↔
      ∃ before, line = before ++ text ∧ found = .behind before text := by
  apply eq_some_iff_of_unique
  · intro found hfound
    obtain ⟨before, after, hline, rfl, hsearch⟩ := h.found_spec .atEnd hfound
    have hstop : before.length + text.length = line.length := (Pattern.search?_spec hsearch).1
    have hafter : after.length = 0 := by
      have hlength := congrArg List.length hline
      simp only [List.length_append] at hlength
      omega
    obtain rfl := List.length_eq_zero_iff.mp hafter
    exact ⟨before, by rw [hline, List.append_nil], rfl⟩
  · rintro found ⟨before, hline, -⟩
    exact (h.isSome_findInLine?_iff line .atEnd).mpr ⟨before, hline.symm⟩
  · rintro found other ⟨before, hline, rfl⟩ ⟨before', hline', rfl⟩
    rw [List.append_cancel_right (hline.symm.trans hline')]

/-- Anywhere on the line the text is found where it first occurs. -/
theorem findInLine?_anywhere_eq_some_iff :
    findInLine? line spelling = some found ↔
      ∃ before, FirstOccurrence text before line ∧ found = .behind before text := by
  apply eq_some_iff_of_unique
  · intro found hfound
    obtain ⟨before, after, hline, rfl, hsearch⟩ := h.found_spec .anywhere hfound
    refine ⟨before, ⟨⟨after, hline⟩, ?_⟩, rfl⟩
    intro earlier later hearlier
    apply (Placement.search?_anywhere_eq_some_iff.mp hsearch).1.2
    refine ⟨by simp [hearlier], ?_⟩
    rw [Placement.isSome_search?_literals_iff]
    exact ⟨later, by simp [hearlier]⟩
  · rintro found ⟨before, hfirst, -⟩
    obtain ⟨after, hline⟩ := hfirst.occurs
    exact (h.isSome_findInLine?_iff line .anywhere).mpr ⟨before, after, hline.symm⟩
  · rintro found other ⟨before, hfirst, rfl⟩ ⟨before', hfirst', rfl⟩
    rw [hfirst.unique hfirst']

end Quotes

/-- A quoted text is read as its characters, and what is searched for is the text itself: alone it
is found where it first occurs, behind `^` at the start of the line, in front of `$` at the end, and
between the two it matches only the line that is the text. -/
theorem quoted_text_found_verbatim {text spelling : Text} (h : Quotes text spelling) (line : Text) :
    tokenize spelling = literals text ∧
    (∀ found, findInLine? line spelling = some found ↔
      ∃ before, FirstOccurrence text before line ∧ found = .behind before text) ∧
    (findInLine? line spelling = none ↔ ¬ text <:+: line) ∧
    (∀ found, findInLine? line ('^' :: spelling) = some found ↔
      text <+: line ∧ found = .behind [] text) ∧
    (∀ found, findInLine? line (spelling ++ ['$']) = some found ↔
      ∃ before, line = before ++ text ∧ found = .behind before text) ∧
    (lineMatches line ('^' :: (spelling ++ ['$'])) = true ↔ line = text) := by
  refine ⟨h.tokenize_eq, fun _ => h.findInLine?_anywhere_eq_some_iff, ?_,
    fun _ => h.findInLine?_fromStart_eq_some_iff, fun _ => h.findInLine?_atEnd_eq_some_iff, ?_⟩
  · rw [← Option.not_isSome_iff_eq_none]
    exact not_congr (h.isSome_findInLine?_iff line .anywhere)
  · rw [← isSome_findInLine?, eq_comm (a := line)]
    exact h.isSome_findInLine?_iff line .exact

/-- The text `a+\ü`, of five bytes, stands twice behind a letter of two bytes: it is found first at
byte 2, and at the end at byte 7. -/
theorem quoted_text_found_twice :
    Quotes ['a', '+', '\\', 'ü'] ['a', '\\', '+', '\\', '\\', 'ü'] ∧
      findInLine? ['é', 'a', '+', '\\', 'ü', 'a', '+', '\\', 'ü']
          ['a', '\\', '+', '\\', '\\', 'ü'] = some ⟨2, 7, ['a', '+', '\\', 'ü']⟩ ∧
      findInLine? ['é', 'a', '+', '\\', 'ü', 'a', '+', '\\', 'ü']
          ['a', '\\', '+', '\\', '\\', 'ü', '$'] = some ⟨7, 12, ['a', '+', '\\', 'ü']⟩ := by
  have hquotes : Quotes ['a', '+', '\\', 'ü'] ['a', '\\', '+', '\\', '\\', 'ü'] :=
    .bare (by decide) (.escaped (by decide) (.escaped (by decide) (.bare (by decide) .nil)))
  have hfirst : FirstOccurrence ['a', '+', '\\', 'ü'] ['é']
      ['é', 'a', '+', '\\', 'ü', 'a', '+', '\\', 'ü'] := by
    refine ⟨⟨['a', '+', '\\', 'ü'], rfl⟩, ?_⟩
    intro earlier later hline
    cases earlier with
    | nil => simp at hline
    | cons c earlier => simp
  obtain ⟨-, hanywhere, -, -, hend, -⟩ :=
    quoted_text_found_verbatim hquotes ['é', 'a', '+', '\\', 'ü', 'a', '+', '\\', 'ü']
  refine ⟨hquotes, (hanywhere _).mpr ⟨['é'], hfirst, by decide⟩, ?_⟩
  exact (hend _).mpr ⟨['é', 'a', '+', '\\', 'ü'], rfl, by decide⟩

end LineSearch
