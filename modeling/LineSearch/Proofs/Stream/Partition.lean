import LineSearch.Proofs.Stream.Lines
import Mathlib.Data.List.Forall2
import Mathlib.Data.List.GetD

/-!
# All the lines of an input

Reading one line after the other cuts the input behind its newlines. Each call takes the next
segment off the front, whether or not it is a text and whatever the calls before it gave, and what a
call gives depends on its segment alone and on how the input ends (`ReadsAs`). Where the input is a
text, a segment of its bytes is the encoding of a segment of its characters, and lines that were
written are read again (`reading_partitions_bytes`).
-/

namespace LineSearch

/-! ## Cutting behind a mark -/

section Segments

variable {α : Type} [DecidableEq α]

/-- The sequence cut behind each of its marks. What stands behind the last of them is the last part,
also if it is empty. -/
def segments (mark : α) : List α → List (List α)
  | [] => [[]]
  | first :: rest =>
      if first = mark then [mark] :: segments mark rest
      else (segments mark rest).modifyHead (first :: ·)

def segmentAt (mark : α) (whole : List α) (index : Nat) : List α :=
  (segments mark whole).getD index []

variable {mark : α}

theorem segments_cons_mark (rest : List α) :
    segments mark (mark :: rest) = [mark] :: segments mark rest := by
  rw [segments, if_pos rfl]

theorem segments_append_of_not_mem {front : List α} (h : mark ∉ front) (back : List α) :
    segments mark (front ++ back) = (segments mark back).modifyHead (front ++ ·) := by
  induction front with
  | nil => exact (congrFun List.modifyHead_id _).symm
  | cons first front ih =>
      obtain ⟨hfirst, hfront⟩ := List.ne_and_not_mem_of_not_mem_cons h
      rw [List.cons_append, segments, if_neg (Ne.symm hfirst), ih hfront,
        List.modifyHead_modifyHead]
      rfl

theorem segments_append {body : List α} (h : mark ∉ body) (rest : List α) :
    segments mark (body ++ mark :: rest) = (body ++ [mark]) :: segments mark rest := by
  rw [segments_append_of_not_mem h, segments_cons_mark, List.modifyHead_cons]

theorem segments_of_not_mem {whole : List α} (h : mark ∉ whole) :
    segments mark whole = [whole] := by
  have hall := segments_append_of_not_mem h []
  rwa [List.append_nil, segments, List.modifyHead_cons, List.append_nil] at hall

end Segments

/-- The newlines of a text cut its bytes where they cut its characters. -/
theorem segments_utf8 (text : Text) :
    segments newline (Text.utf8 text) = (segments '\n' text).map Text.utf8 := by
  induction text with
  | nil => rfl
  | cons c rest ih =>
      have hbytes : Text.utf8 (c :: rest) = String.utf8EncodeChar c ++ Text.utf8 rest := rfl
      by_cases hc : c = '\n'
      · subst hc
        rw [segments_cons_mark, List.map_cons, ← ih]
        exact segments_cons_mark _
      · have habsent : newline ∉ String.utf8EncodeChar c :=
          mt (newline_mem_utf8EncodeChar_iff c).mp hc
        rw [hbytes, segments_append_of_not_mem habsent, ih, segments, if_neg hc]
        cases segments '\n' rest with
        | nil => rfl
        | cons head tail => rfl

theorem segmentAt_utf8 (text : Text) (index : Nat) :
    segmentAt newline (Text.utf8 text) index = Text.utf8 (segmentAt '\n' text index) := by
  rw [segmentAt, segmentAt, segments_utf8, ← Text.utf8_nil, List.getD_map]

namespace Source

/-! ## The segment that a call takes -/

theorem segmentAt_zero (bytes : Bytes) : segmentAt newline bytes 0 = (splitLine bytes).1 := by
  by_cases hmem : newline ∈ bytes
  · obtain ⟨body, rest, rfl, hbody⟩ := List.eq_append_cons_of_mem hmem
    rw [segmentAt, segments_append hbody, splitLine_append hbody, List.getD_cons_zero]
  · rw [segmentAt, segments_of_not_mem hmem, splitLine_of_not_mem hmem, List.getD_cons_zero]

theorem segmentAt_succ (bytes : Bytes) (index : Nat) :
    segmentAt newline bytes (index + 1) = segmentAt newline (splitLine bytes).2 index := by
  by_cases hmem : newline ∈ bytes
  · obtain ⟨body, rest, rfl, hbody⟩ := List.eq_append_cons_of_mem hmem
    rw [segmentAt, segments_append hbody, splitLine_append hbody, List.getD_cons_succ]
    rfl
  · rw [segmentAt, segments_of_not_mem hmem, splitLine_of_not_mem hmem, List.getD_cons_succ]
    cases index with
    | zero => rfl
    | succ index => rfl

/-- What a call gives that takes the segment off an input with the given fault at its end. Without a
newline in it the segment is the last, and where the device fails, the call reports that and nothing
else. -/
inductive ReadsAs (fault : Option String) (segment : Bytes) : Except ReadFailure Text → Prop
  | line {text line : Text} : fault = none ∨ newline ∈ segment → Text.utf8 text = segment →
      (Terminated line text ∨ (line = text ∧ '\n' ∉ text)) → ReadsAs fault segment (.ok line)
  | notText : fault = none ∨ newline ∈ segment → (∀ text, Text.utf8 text ≠ segment) →
      ReadsAs fault segment (.error .notText)
  | device {reason : String} : fault = some reason → newline ∉ segment →
      ReadsAs fault segment (.error (.device reason))

theorem readsAs_readLine (source : Source) :
    ReadsAs source.fault (segmentAt newline source.bytes 0) source.readLine.1 := by
  rw [segmentAt_zero]
  by_cases hwhole : source.fault = none ∨ newline ∈ (splitLine source.bytes).1
  · rw [readLine_of_whole hwhole]
    rcases readLine_of_firstLine (firstLine_splitLine source.bytes) with
      ⟨hinvalid, hread⟩ | ⟨text, line, htext, hline, hread⟩
    · rw [hread]
      exact .notText hwhole hinvalid
    · rw [hread]
      exact .line hwhole htext hline
  · rw [not_or] at hwhole
    obtain ⟨reason, hreason⟩ := Option.ne_none_iff_exists'.mp hwhole.1
    rw [readLine_of_fault hreason hwhole.2]
    exact .device hreason hwhole.2

/-! ## One call after the other -/

theorem readLine_snd (source : Source) :
    source.readLine.2 = ⟨(splitLine source.bytes).2, source.fault⟩ := rfl

theorem readLines_succ (count : Nat) (source : Source) :
    readLines (count + 1) source =
      (source.readLine.1 :: (readLines count source.readLine.2).1,
        (readLines count source.readLine.2).2) := rfl

theorem segmentAt_append_readLine (source : Source) :
    segmentAt newline source.bytes 0 ++ source.readLine.2.bytes = source.bytes := by
  rw [segmentAt_zero, readLine_snd]
  exact append_splitLine source.bytes

theorem segmentAt_readLine (source : Source) (index : Nat) :
    segmentAt newline source.readLine.2.bytes index =
      segmentAt newline source.bytes (index + 1) :=
  (segmentAt_succ source.bytes index).symm

/-- The call behind so many others takes the segment with that number. -/
theorem segmentAt_append_readLines (count : Nat) (source : Source) :
    segmentAt newline source.bytes count ++ (readLines (count + 1) source).2.bytes =
      (readLines count source).2.bytes := by
  induction count generalizing source with
  | zero => exact segmentAt_append_readLine source
  | succ count ih =>
      rw [readLines_succ, readLines_succ, ← segmentAt_readLine]
      exact ih source.readLine.2

theorem forall₂_readLines (count : Nat) (source : Source) :
    List.Forall₂ (fun index => ReadsAs source.fault (segmentAt newline source.bytes index))
      (List.range count) (readLines count source).1 := by
  induction count generalizing source with
  | zero => exact .nil
  | succ count ih =>
      rw [List.range_succ_eq_map, readLines_succ]
      refine .cons (readsAs_readLine source) ?_
      have hrest := ih source.readLine.2
      simp only [segmentAt_readLine] at hrest
      exact List.forall₂_map_left_iff.mpr hrest

theorem flatten_segmentAt_append_readLines (count : Nat) (source : Source) :
    ((List.range count).map (segmentAt newline source.bytes)).flatten ++
      (readLines count source).2.bytes = source.bytes := by
  induction count with
  | zero => rfl
  | succ count ih =>
      rw [List.range_succ, List.map_append, List.flatten_append, List.map_singleton,
        List.flatten_singleton, List.append_assoc, segmentAt_append_readLines, ih]

/-- Where the device fails behind the bytes, the calls that meet a newline give what they give
without the fault, and all others report it, be their bytes a text or not. -/
theorem getElem?_readLines_of_fault {source : Source} {reason : String}
    (hfault : source.fault = some reason) {count index : Nat} (hindex : index < count) :
    (readLines count source).1[index]? =
      if newline ∈ segmentAt newline source.bytes index then
        (readLines count (ofBytes source.bytes)).1[index]?
      else some (.error (.device reason)) := by
  induction count generalizing source index with
  | zero => contradiction
  | succ count ih =>
      rw [readLines_succ, readLines_succ]
      cases index with
      | zero =>
          rw [List.getElem?_cons_zero, List.getElem?_cons_zero, segmentAt_zero]
          split
          · next hmem => rw [readLine_of_whole (.inr hmem)]
          · next hmem => rw [readLine_of_fault hfault hmem]
      | succ index =>
          have hrest := @ih source.readLine.2 hfault index (Nat.lt_of_succ_lt_succ hindex)
          rw [segmentAt_readLine] at hrest
          rw [List.getElem?_cons_succ, List.getElem?_cons_succ, hrest]
          rfl

/-! ## Inputs that are texts -/

theorem ReadsAs.exists_line {text : Text} {result : Except ReadFailure Text}
    (h : ReadsAs none (Text.utf8 text) result) :
    ∃ line, result = .ok line ∧ (Terminated line text ∨ (line = text ∧ '\n' ∉ text)) := by
  cases h with
  | @line other line _ hother hline =>
      have hsame := congrArg Text.ofUtf8? hother
      rw [Text.ofUtf8?_utf8, Text.ofUtf8?_utf8] at hsame
      obtain rfl := Option.some.inj hsame
      exact ⟨line, rfl, hline⟩
  | notText _ hinvalid => exact absurd rfl (hinvalid text)
  | device hfault => contradiction

theorem forall₂_readLines_utf8 (count : Nat) (text : Text) :
    List.Forall₂
      (fun index result => ∃ line, result = .ok line ∧
        (Terminated line (segmentAt '\n' text index) ∨
          (line = segmentAt '\n' text index ∧ '\n' ∉ segmentAt '\n' text index)))
      (List.range count) (readLines count (ofBytes (Text.utf8 text))).1 := by
  refine List.Forall₂.imp ?_ (forall₂_readLines count (ofBytes (Text.utf8 text)))
  intro index result hresult
  rw [ofBytes, segmentAt_utf8] at hresult
  exact hresult.exists_line

theorem readLine_of_terminated_of_bytes {source : Source} {line text : Text} {rest : Bytes}
    (h : Terminated line text) (hbytes : source.bytes = Text.utf8 text ++ rest) :
    source.readLine = (.ok line, ⟨rest, source.fault⟩) := by
  have hsplit : splitLine source.bytes = (Text.utf8 text, rest) := by
    rw [hbytes, splitLine_of_terminated h]
  obtain ⟨body, -, rfl⟩ := h.exists_body
  have hwhole : newline ∈ Text.utf8 (body ++ ['\n']) := by
    rw [newline_mem_utf8_iff]
    exact List.mem_append_right _ List.mem_cons_self
  have hread : source.readLine.1 = .ok line := by
    rw [readLine_of_whole (.inr (by rwa [hsplit])), hbytes, readLine_of_terminated h]
  rw [Prod.ext_iff, hread, readLine_snd, hsplit]
  exact ⟨rfl, rfl⟩

theorem readLines_of_terminated {lines texts : List Text} (h : List.Forall₂ Terminated lines texts)
    {source : Source} {rest : Bytes} (hbytes : source.bytes = Text.utf8 texts.flatten ++ rest) :
    readLines lines.length source = (lines.map .ok, ⟨rest, source.fault⟩) := by
  induction h generalizing source with
  | nil =>
      obtain rfl : source.bytes = rest := hbytes
      rfl
  | @cons line text lines texts hline _ ih =>
      rw [List.flatten_cons, Text.utf8_append, List.append_assoc] at hbytes
      have hread := readLine_of_terminated_of_bytes hline hbytes
      have hrest := @ih source.readLine.2 (by rw [hread])
      rw [List.length_cons, readLines_succ, hrest, hread]
      rfl

/-- The call behind `count` others takes the segment with that number off the front of what they
left, so what was taken and what is left are always the whole input, and each call gives what its
segment reads as. The newlines of a text cut it as they cut its bytes, and no call fails on it.
Lines that were written one after the other, each with a terminator, are read again by as many
calls. A fault of the device is what every call reports that meets no newline before it, and makes
no difference to the others. -/
theorem reading_partitions_bytes (source : Source) :
    (∀ count,
      (readLines count source).2.bytes =
        segmentAt newline source.bytes count ++ (readLines (count + 1) source).2.bytes ∧
      ((List.range count).map (segmentAt newline source.bytes)).flatten ++
        (readLines count source).2.bytes = source.bytes ∧
      List.Forall₂ (fun index => ReadsAs source.fault (segmentAt newline source.bytes index))
        (List.range count) (readLines count source).1) ∧
    (∀ text, source = ofBytes (Text.utf8 text) →
      segments newline source.bytes = (segments '\n' text).map Text.utf8 ∧
      ∀ count, List.Forall₂
        (fun index result => ∃ line, result = .ok line ∧
          (Terminated line (segmentAt '\n' text index) ∨
            (line = segmentAt '\n' text index ∧ '\n' ∉ segmentAt '\n' text index)))
        (List.range count) (readLines count source).1) ∧
    (∀ lines texts, List.Forall₂ Terminated lines texts →
      ∀ rest, source.bytes = Text.utf8 texts.flatten ++ rest →
        readLines lines.length source = (lines.map .ok, ⟨rest, source.fault⟩)) ∧
    ∀ reason, source.fault = some reason → ∀ count index, index < count →
      (readLines count source).1[index]? =
        if newline ∈ segmentAt newline source.bytes index then
          (readLines count (ofBytes source.bytes)).1[index]?
        else some (.error (.device reason)) := by
  refine ⟨fun count => ⟨?_, ?_, ?_⟩, ?_, ?_, ?_⟩
  · exact (segmentAt_append_readLines count source).symm
  · exact flatten_segmentAt_append_readLines count source
  · exact forall₂_readLines count source
  · rintro text rfl
    exact ⟨segments_utf8 text, fun count => forall₂_readLines_utf8 count text⟩
  · intro lines texts hlines rest hbytes
    exact readLines_of_terminated hlines hbytes
  · intro reason hfault count index hindex
    exact getElem?_readLines_of_fault hfault hindex

/-- Of two carriage returns in front of a newline one belongs to the line; the byte behind the last
newline is no text, but the call that takes it reports the fault behind it. The text `é` with a line
behind it is cut between its lines. -/
theorem reading_partitions_bytes_of_invalid_end :
    List.Forall₂ Terminated [['a', '\r'], []] [['a', '\r', '\r', '\n'], ['\n']] ∧
      readLines 2 ⟨Text.utf8 ['a', '\r', '\r', '\n', '\n'] ++ [0xFF], some "gone"⟩ =
        ([.ok ['a', '\r'], .ok []], ⟨[0xFF], some "gone"⟩) ∧
      newline ∉ segmentAt newline (Text.utf8 ['a', '\r', '\r', '\n', '\n'] ++ [0xFF]) 2 ∧
      (readLines 3
        ⟨Text.utf8 ['a', '\r', '\r', '\n', '\n'] ++ [0xFF], some "gone"⟩).1[2]? =
          some (.error (.device "gone")) ∧
    segments newline (ofBytes (Text.utf8 ['é', '\n', 'b'])).bytes =
      [Text.utf8 ['é', '\n'], Text.utf8 ['b']] := by
  have hlines : List.Forall₂ Terminated [['a', '\r'], []]
      [['a', '\r', '\r', '\n'], ['\n']] :=
    .cons (.carriageReturn (by decide)) (.cons (.newline (by decide) (by decide)) .nil)
  have hlast :
      newline ∉ segmentAt newline (Text.utf8 ['a', '\r', '\r', '\n', '\n'] ++ [0xFF]) 2 := by
    decide +kernel
  obtain ⟨-, -, hwritten, hfails⟩ := reading_partitions_bytes
    ⟨Text.utf8 ['a', '\r', '\r', '\n', '\n'] ++ [0xFF], some "gone"⟩
  obtain ⟨-, htext, -⟩ := reading_partitions_bytes (ofBytes (Text.utf8 ['é', '\n', 'b']))
  refine ⟨hlines, hwritten _ _ hlines [0xFF] rfl, hlast, ?_, (htext _ rfl).1⟩
  exact (hfails "gone" rfl 3 2 (by decide)).trans (if_neg hlast)

end Source

end LineSearch
