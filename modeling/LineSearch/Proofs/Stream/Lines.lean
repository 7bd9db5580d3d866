import LineSearch.Stream.Source

/-!
# The first line of an input

The first line of an input is the bytes through the first newline, or all of them, and reading it
gives its text without the terminator, or fails if the bytes are the encoding of no text
(`readLine_of_firstLine`). What stands behind the first newline does not matter.
-/

namespace LineSearch

/-! ## Newlines in bytes and in texts -/

/-- The byte of a newline stands in the encoding of no other character. -/
theorem newline_mem_utf8EncodeChar_iff (c : Char) :
    newline ∈ String.utf8EncodeChar c ↔ c = '\n' := by
  constructor
  · intro hmem
    have hbyte : ∃ byte ∈ String.utf8EncodeChar c, byte.toNat = 0x0A := ⟨newline, hmem, rfl⟩
    have hcode : c.val.toNat = 0x0A := by
      unfold String.utf8EncodeChar at hbyte
      dsimp only at hbyte
      split at hbyte
      · simp only [List.mem_singleton, exists_eq_left, UInt8.toNat_ofNat'] at hbyte
        omega
      · -- no byte of a longer encoding is less than 0x80
        exfalso
        repeat' split at hbyte
        all_goals
          simp only [List.mem_cons, List.not_mem_nil, or_false, exists_eq_or_imp, exists_eq_left,
            UInt8.toNat_ofNat'] at hbyte
          omega
    exact Char.ext (UInt32.toNat_inj.mp hcode)
  · rintro rfl
    decide

theorem newline_mem_utf8_iff (text : Text) : newline ∈ Text.utf8 text ↔ '\n' ∈ text := by
  simp [Text.utf8, List.mem_flatMap, newline_mem_utf8EncodeChar_iff]

/-- A newline is the last byte of a text if at all, only if it is the last character if at all. -/
theorem newline_not_mem_dropLast_of_utf8 {text : Text}
    (h : newline ∉ (Text.utf8 text).dropLast) : '\n' ∉ text.dropLast := by
  intro hmem
  obtain rfl | ⟨init, c, rfl⟩ := text.eq_nil_or_concat
  · contradiction
  · rw [List.concat_eq_append, List.dropLast_concat] at hmem
    have hlast : Text.utf8 [c] ≠ [] := by simp [Text.utf8, String.utf8EncodeChar_ne_nil]
    rw [List.concat_eq_append, Text.utf8_append, List.dropLast_append_of_ne_nil hlast] at h
    exact h (List.mem_append_left _ ((newline_mem_utf8_iff init).mpr hmem))

/-! ## Splitting off the first line -/

/-- The second byte sequence is the first line of the first: its bytes through the first newline, or
all of them if there is none. -/
inductive FirstLine : Bytes → Bytes → Prop
  | terminated {body rest : Bytes} :
      newline ∉ body → FirstLine (body ++ newline :: rest) (body ++ [newline])
  | unterminated {bytes : Bytes} : newline ∉ bytes → FirstLine bytes bytes

namespace Source

theorem splitLine_newline (rest : Bytes) : splitLine (newline :: rest) = ([newline], rest) := by
  simp [splitLine]

theorem splitLine_cons {byte : UInt8} (h : byte ≠ newline) (rest : Bytes) :
    splitLine (byte :: rest) = (byte :: (splitLine rest).1, (splitLine rest).2) := by
  simp [splitLine, h]

theorem splitLine_of_not_mem {bytes : Bytes} (h : newline ∉ bytes) :
    splitLine bytes = (bytes, []) := by
  induction bytes with
  | nil => rfl
  | cons byte bytes ih =>
      obtain ⟨hbyte, hrest⟩ := List.ne_and_not_mem_of_not_mem_cons h
      rw [splitLine_cons (Ne.symm hbyte), ih hrest]

theorem splitLine_append {body : Bytes} (h : newline ∉ body) (rest : Bytes) :
    splitLine (body ++ newline :: rest) = (body ++ [newline], rest) := by
  induction body with
  | nil => exact splitLine_newline rest
  | cons byte body ih =>
      obtain ⟨hbyte, hrest⟩ := List.ne_and_not_mem_of_not_mem_cons h
      rw [List.cons_append, splitLine_cons (Ne.symm hbyte), ih hrest, List.cons_append]

/-- What stands behind a newline is no part of the first line. -/
theorem splitLine_append_newline (head rest rest' : Bytes) :
    (splitLine (head ++ newline :: rest)).1 = (splitLine (head ++ newline :: rest')).1 := by
  induction head with
  | nil => rw [List.nil_append, List.nil_append, splitLine_newline, splitLine_newline]
  | cons byte head ih =>
      by_cases hbyte : byte = newline
      · rw [hbyte, List.cons_append, List.cons_append, splitLine_newline, splitLine_newline]
      · rw [List.cons_append, List.cons_append, splitLine_cons hbyte, splitLine_cons hbyte, ih]

end Source

theorem FirstLine.eq_splitLine {bytes segment : Bytes} (h : FirstLine bytes segment) :
    segment = (Source.splitLine bytes).1 := by
  cases h with
  | terminated hbody => rw [Source.splitLine_append hbody]
  | unterminated hbytes => rw [Source.splitLine_of_not_mem hbytes]

theorem firstLine_splitLine (bytes : Bytes) : FirstLine bytes (Source.splitLine bytes).1 := by
  by_cases hmem : newline ∈ bytes
  · obtain ⟨body, rest, rfl, hbody⟩ := List.eq_append_cons_of_mem hmem
    rw [Source.splitLine_append hbody]
    exact .terminated hbody
  · rw [Source.splitLine_of_not_mem hmem]
    exact .unterminated hmem

theorem FirstLine.newline_not_mem_dropLast {bytes segment : Bytes} (h : FirstLine bytes segment) :
    newline ∉ segment.dropLast := by
  cases h with
  | terminated hbody => rwa [List.dropLast_concat]
  | unterminated hbytes => exact fun hmem => hbytes ((List.dropLast_sublist _).mem hmem)

/-! ## Terminators -/

/-- The second text is the first, a line, with a terminator behind it. A carriage return in front of
the newline always belongs to the terminator. -/
inductive Terminated : Text → Text → Prop
  | newline {line : Text} :
      '\n' ∉ line → line.getLast? ≠ some '\r' → Terminated line (line ++ ['\n'])
  | carriageReturn {line : Text} : '\n' ∉ line → Terminated line (line ++ ['\r', '\n'])

theorem exists_terminated {body : Text} (h : '\n' ∉ body) :
    ∃ line, Terminated line (body ++ ['\n']) := by
  by_cases hlast : body.getLast? = some '\r'
  · obtain ⟨line, rfl⟩ := List.getLast?_eq_some_iff.mp hlast
    have hline : '\n' ∉ line := fun hmem => h (List.mem_append_left _ hmem)
    rw [List.append_assoc]
    exact ⟨line, .carriageReturn hline⟩
  · exact ⟨body, .newline h hlast⟩

theorem Terminated.exists_body {line text : Text} (h : Terminated line text) :
    ∃ body, '\n' ∉ body ∧ text = body ++ ['\n'] := by
  cases h with
  | newline hline hlast => exact ⟨line, hline, rfl⟩
  | carriageReturn hline => exact ⟨line ++ ['\r'], by simp [hline], by simp⟩

theorem Terminated.newline_not_mem {line text : Text} (h : Terminated line text) : '\n' ∉ line := by
  cases h with
  | newline hline hlast => exact hline
  | carriageReturn hline => exact hline

/-- A text with no newline but at its end is a line with its terminator, or a line without one. -/
theorem terminated_or_not_mem {text : Text} (h : '\n' ∉ text.dropLast) :
    (∃ line, Terminated line text) ∨ '\n' ∉ text := by
  obtain rfl | ⟨init, c, rfl⟩ := text.eq_nil_or_concat
  · exact .inr List.not_mem_nil
  · rw [List.concat_eq_append, List.dropLast_concat] at h
    rw [List.concat_eq_append]
    by_cases hc : c = '\n'
    · rw [hc]
      exact .inl (exists_terminated h)
    · exact .inr (by simp [h, Ne.symm hc])

namespace Source

theorem stripTerminator_of_terminated {line text : Text} (h : Terminated line text) :
    stripTerminator text = line := by
  unfold stripTerminator
  cases h with
  | newline hline hlast =>
      rw [List.getLast?_concat, if_pos rfl, List.dropLast_concat]
      exact if_neg hlast
  | carriageReturn hline =>
      have hsplit : line ++ ['\r', '\n'] = (line ++ ['\r']) ++ ['\n'] := by simp
      rw [hsplit, List.getLast?_concat, if_pos rfl, List.dropLast_concat]
      dsimp only
      rw [List.getLast?_concat, if_pos rfl, List.dropLast_concat]

theorem stripTerminator_of_not_mem {text : Text} (h : '\n' ∉ text) :
    stripTerminator text = text := by
  unfold stripTerminator
  exact if_neg fun hlast => h (List.mem_of_getLast? hlast)

/-! ## Reading the first line -/

theorem readLine_ofBytes (bytes : Bytes) :
    (ofBytes bytes).readLine = (readLine.decode (splitLine bytes).1, ofBytes (splitLine bytes).2) :=
  rfl

theorem decode_utf8 (text : Text) :
    readLine.decode (Text.utf8 text) = .ok (stripTerminator text) := by
  rw [readLine.decode, Text.ofUtf8?_utf8]

theorem decode_of_ne_utf8 {bytes : Bytes} (h : ∀ text, Text.utf8 text ≠ bytes) :
    readLine.decode bytes = .error .notText := by
  have hnone : Text.ofUtf8? bytes = none := by
    apply Option.eq_none_iff_forall_not_mem.mpr
    intro text htext
    exact h text (Text.utf8_of_ofUtf8?_eq_some htext)
  rw [readLine.decode, hnone]

/-- The first line is read without its terminator if it is a text, and not at all if it is none. -/
theorem readLine_of_firstLine {bytes segment : Bytes} (h : FirstLine bytes segment) :
    ((∀ text, Text.utf8 text ≠ segment) ∧ (ofBytes bytes).readLine.1 = .error .notText) ∨
      ∃ text line, Text.utf8 text = segment ∧
        (Terminated line text ∨ (line = text ∧ '\n' ∉ text)) ∧
        (ofBytes bytes).readLine.1 = .ok line := by
  rw [readLine_ofBytes, ← h.eq_splitLine]
  by_cases htext : ∃ text, Text.utf8 text = segment
  · right
    obtain ⟨text, rfl⟩ := htext
    have hinner := newline_not_mem_dropLast_of_utf8 h.newline_not_mem_dropLast
    rcases terminated_or_not_mem hinner with ⟨line, hline⟩ | hnone
    · refine ⟨text, line, rfl, .inl hline, ?_⟩
      rw [decode_utf8, stripTerminator_of_terminated hline]
    · refine ⟨text, text, rfl, .inr ⟨rfl, hnone⟩, ?_⟩
      rw [decode_utf8, stripTerminator_of_not_mem hnone]
  · left
    have hinvalid := not_exists.mp htext
    exact ⟨hinvalid, decode_of_ne_utf8 hinvalid⟩

theorem splitLine_of_terminated {line text : Text} (h : Terminated line text) (rest : Bytes) :
    splitLine (Text.utf8 text ++ rest) = (Text.utf8 text, rest) := by
  obtain ⟨body, hbody, rfl⟩ := h.exists_body
  have hbytes : newline ∉ Text.utf8 body := mt (newline_mem_utf8_iff body).mp hbody
  rw [Text.utf8_append, List.append_assoc]
  exact splitLine_append hbytes rest

/-- A line that is written with a terminator is read again, whatever stands behind it. -/
theorem readLine_of_terminated {line text : Text} (h : Terminated line text) (rest : Bytes) :
    (ofBytes (Text.utf8 text ++ rest)).readLine = (.ok line, ofBytes rest) := by
  rw [readLine_ofBytes, splitLine_of_terminated h, decode_utf8, stripTerminator_of_terminated h]

/-! ## Inputs that end in a fault -/

theorem readLine_of_fault {source : Source} {reason : String} (hfault : source.fault = some reason)
    (h : newline ∉ (splitLine source.bytes).1) :
    source.readLine.1 = .error (.device reason) := by
  unfold readLine
  dsimp only
  rw [hfault]
  exact if_neg h

/-- A fault does not matter to a call that meets a newline before it. -/
theorem readLine_of_whole {source : Source}
    (h : source.fault = none ∨ newline ∈ (splitLine source.bytes).1) :
    source.readLine.1 = (ofBytes source.bytes).readLine.1 := by
  rw [readLine_ofBytes]
  unfold readLine
  dsimp only
  split
  · next hfault => rw [if_pos (h.resolve_left (by simp [hfault]))]
  · rfl

/-- A fault behind the bytes decides only whether a line is read, not which. -/
theorem readLine_ofBytes_of_ok {source : Source} {line : Text} (h : source.readLine.1 = .ok line) :
    (ofBytes source.bytes).readLine.1 = .ok line := by
  by_cases hwhole : source.fault = none ∨ newline ∈ (splitLine source.bytes).1
  · rwa [← readLine_of_whole hwhole]
  · rw [not_or] at hwhole
    obtain ⟨reason, hreason⟩ := Option.ne_none_iff_exists'.mp hwhole.1
    rw [readLine_of_fault hreason hwhole.2] at h
    contradiction

theorem newline_not_mem_of_readLine {source : Source} {line : Text}
    (h : source.readLine.1 = .ok line) : '\n' ∉ line := by
  have hbytes := readLine_ofBytes_of_ok h
  rcases readLine_of_firstLine (firstLine_splitLine source.bytes) with
    ⟨-, hread⟩ | ⟨text, other, -, hline, hread⟩
  · rw [hread] at hbytes
    contradiction
  · rw [hread] at hbytes
    cases hbytes
    rcases hline with hterminated | ⟨rfl, hnone⟩
    · exact hterminated.newline_not_mem
    · exact hnone

end Source

end LineSearch
