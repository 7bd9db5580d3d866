import LineSearch.Proofs.Command.Contract
import LineSearch.Proofs.Stream.Output

/-!
# How a run ends and what it leaves behind

A run that cannot read its line, or has nothing to write, leaves the sink as it was, so neither the
room in the sink nor a fault behind it matters. A run that has a part to write succeeds exactly if
the part and a newline fit and can be pushed out; whether it succeeds or not, what fits of them is
in the sink (`run_decides_and_writes`). A verdict, where there is one, is the same with and without
writing.
-/

namespace LineSearch

def Sink.fresh (capacity : Option Nat) (flushFault : Option String) : Sink :=
  ⟨[], capacity, flushFault⟩

/-- The part of a line and a newline are what a run had to write to a fresh sink. -/
structure RunResult.Delivers (result : RunResult) (part line : Text) (capacity : Option Nat)
    (flushFault : Option String) : Prop where
  succeeds : result.verdict = .ok true ↔
    (∀ limit, capacity = some limit → Text.utf8Length part + 1 ≤ limit) ∧ flushFault = none
  full : ∀ limit, capacity = some limit → limit < Text.utf8Length part + 1 →
    result.verdict = .error (.writing .full)
  unflushed : (∀ limit, capacity = some limit → Text.utf8Length part + 1 ≤ limit) →
    ∀ reason, flushFault = some reason → result.verdict = .error (.writing (.flush reason))
  kept : ∀ limit, capacity = some limit → result.sink.written =
    (Text.utf8 (part ++ ['\n'])).take (min limit (Text.utf8Length part + 1))
  whole : capacity = none → result.sink.written = Text.utf8 (part ++ ['\n'])
  part_of_line : part <:+: line ∧ '\n' ∉ part
  complete : result.sink.written.length = Text.utf8Length part + 1 →
    Text.ofUtf8? result.sink.written = some (part ++ ['\n'])

/-! ## Writing a part to a fresh sink -/

section Fresh

variable (part : Text) (capacity : Option Nat) (flushFault : Option String)

theorem length_utf8_concat_newline :
    (Text.utf8 (part ++ ['\n'])).length = Text.utf8Length part + 1 := by
  rw [Text.length_utf8, Text.utf8Length_append]
  rfl

theorem fits_fresh_iff :
    (Sink.fresh capacity flushFault).Fits (Text.utf8 (part ++ ['\n'])) ↔
      ∀ limit, capacity = some limit → Text.utf8Length part + 1 ≤ limit := by
  rw [← length_utf8_concat_newline]
  rfl

theorem kept_fresh_some (limit : Nat) :
    (Sink.fresh (some limit) flushFault).kept (Text.utf8 (part ++ ['\n'])) =
      (Text.utf8 (part ++ ['\n'])).take (min limit (Text.utf8Length part + 1)) := by
  rw [← length_utf8_concat_newline, ← List.take_eq_take_min]
  rfl

end Fresh

/-! ## Runs with a part to write -/

theorem Found.text_isInfix {line pattern : Text} {found : Found}
    (h : findInLine? line pattern = some found) : found.text <:+: line := by
  rw [findInLine?_eq] at h
  obtain ⟨span, -, rfl⟩ := Option.map_eq_some_iff.mp h
  exact (List.drop_suffix span.start _).isInfix.trans (List.take_prefix span.stop line).isInfix

/-- A run that ended as its writing did has a verdict exactly if the writing succeeded. -/
theorem mapError_map_eq_ok_iff {written : Except WriteFailure Unit} {verdict : Bool} :
    (written.map fun _ => true).mapError RunFailure.writing = .ok verdict ↔
      written = .ok () ∧ verdict = true := by
  cases written with
  | error cause => exact iff_of_false nofun nofun
  | ok done => simp [Except.map, Except.mapError, eq_comm]

section Run

variable {options : Options} {source : Source} {line : Text}
  (hread : source.readLine.1 = .ok line)

include hread

theorem run_delivers {found : Found} (honly : options.onlyMatching = true)
    (hfound : findInLine? line options.pattern = some found) (capacity : Option Nat)
    (flushFault : Option String) :
    (run options source (.fresh capacity flushFault)).Delivers found.text line capacity
      flushFault := by
  have hfits := fits_fresh_iff found.text capacity flushFault
  have hwritten := Sink.written_writeOut (.fresh capacity flushFault) (matchLine found)
  have hpart := Found.text_isInfix hfound
  have hnewline := Source.newline_not_mem_of_readLine hread
  rw [run_of_found _ hread honly hfound]
  refine ⟨?_, ?_, ?_, ?_, ?_, ⟨hpart, fun hmem => hnewline (hpart.mem hmem)⟩, ?_⟩
  · rw [mapError_map_eq_ok_iff, Sink.writeOut_eq_ok_iff, ← hfits]
    exact and_iff_left rfl
  · intro limit hcapacity hlong
    have hover : ¬ (Sink.fresh capacity flushFault).Fits (matchLine found) := by
      intro h
      exact absurd (hfits.mp h limit hcapacity) (Nat.not_le.mpr hlong)
    rw [Sink.writeOut_of_not_fits hover]
    rfl
  · intro hroom reason hreason
    have hall : (Sink.fresh capacity flushFault).Fits (matchLine found) := hfits.mpr hroom
    rw [Sink.writeOut_of_fits hall, hreason]
    rfl
  · rintro limit rfl
    exact hwritten.trans (kept_fresh_some found.text flushFault limit)
  · rintro rfl
    exact hwritten
  · intro hcomplete
    rw [hwritten] at hcomplete ⊢
    rw [← length_utf8_concat_newline] at hcomplete
    -- what is kept is the front of the whole, and as long
    have hall := (Sink.kept_isPrefix (.fresh capacity flushFault) _).eq_of_length hcomplete
    exact (congrArg Text.ofUtf8? hall).trans (Text.ofUtf8?_utf8 _)

/-- A run that writes nothing comes to a verdict, whatever the sink is. -/
theorem run_of_silent (hsilent : options.onlyMatching = false ∨
      lineMatches line options.pattern = false) (sink : Sink) :
    run options source sink = ⟨.ok (lineMatches line options.pattern), sink⟩ := by
  cases honly : options.onlyMatching with
  | false => exact run_of_verdict_only sink hread honly
  | true =>
      have hmatch : lineMatches line options.pattern = false := by simpa [honly] using hsilent
      have hfound : findInLine? line options.pattern = none := by
        rw [← Option.not_isSome_iff_eq_none, isSome_findInLine?, hmatch]
        exact Bool.false_ne_true
      rw [run_of_unfound sink hread honly hfound, hmatch]

end Run

/-- Where there is a verdict, the line was read, and the verdict is whether it matches. -/
theorem verdict_of_run {options : Options} {source : Source} {sink : Sink} {verdict : Bool}
    (h : (run options source sink).verdict = .ok verdict) :
    ∃ line, source.readLine.1 = .ok line ∧ verdict = lineMatches line options.pattern := by
  cases hread : source.readLine.1 with
  | error cause =>
      rw [run_of_unread sink hread] at h
      contradiction
  | ok line =>
      refine ⟨line, rfl, ?_⟩
      by_cases hsilent : options.onlyMatching = false ∨ lineMatches line options.pattern = false
      · rw [run_of_silent hread hsilent] at h
        exact (Except.ok.inj h).symm
      · rw [not_or, Bool.not_eq_false, Bool.not_eq_false] at hsilent
        obtain ⟨honly, hmatch⟩ := hsilent
        obtain ⟨found, hfound⟩ := exists_found_of_lineMatches hmatch
        rw [run_of_found sink hread honly hfound] at h
        rw [hmatch]
        exact (mapError_map_eq_ok_iff.mp h).2

/-- A run whose line cannot be read reports why and writes nothing, whatever the pattern. If nothing
is to be written, or the line does not match, it reports whether the line matches and writes
nothing, and neither a full sink nor one that cannot be pushed out is an error. If the part found is
to be written, it is delivered with a newline behind it. Two runs on one source with one pattern,
with or without writing and to any sinks, come to one verdict if they come to any. -/
theorem run_decides_and_writes (source : Source) :
    (∀ (options : Options) (capacity : Option Nat) (flushFault : Option String),
      (∀ cause, source.readLine.1 = .error cause →
        run options source (.fresh capacity flushFault) =
          ⟨.error (.reading cause), .fresh capacity flushFault⟩) ∧
      ∀ line, source.readLine.1 = .ok line →
        (options.onlyMatching = false ∨ lineMatches line options.pattern = false →
          run options source (.fresh capacity flushFault) =
            ⟨.ok (lineMatches line options.pattern), .fresh capacity flushFault⟩) ∧
        (options.onlyMatching = true → lineMatches line options.pattern = true →
          ∃ found, findInLine? line options.pattern = some found ∧
            (run options source (.fresh capacity flushFault)).Delivers found.text line capacity
              flushFault)) ∧
    ∀ pattern writes writes' sink sink' verdict verdict',
      (run ⟨pattern, writes⟩ source sink).verdict = .ok verdict →
      (run ⟨pattern, writes'⟩ source sink').verdict = .ok verdict' → verdict = verdict' := by
  constructor
  · intro options capacity flushFault
    refine ⟨fun cause hread => run_of_unread _ hread, ?_⟩
    intro line hread
    refine ⟨fun hsilent => run_of_silent hread hsilent _, ?_⟩
    intro honly hmatch
    obtain ⟨found, hfound⟩ := exists_found_of_lineMatches hmatch
    exact ⟨found, hfound, run_delivers hread honly hfound capacity flushFault⟩
  · intro pattern writes writes' sink sink' verdict verdict' h h'
    obtain ⟨line, hread, rfl⟩ := verdict_of_run h
    obtain ⟨line', hread', rfl⟩ := verdict_of_run h'
    rw [hread] at hread'
    rw [Except.ok.inj hread']

/-- A device that fails at once; and the line `éb`, on which the pattern `é` is found, in a run that
writes nothing, in one that writes to a sink with no end, and in one that has room for the two bytes
of the letter and none for the newline. -/
theorem run_decides_and_writes_of_wide_letter :
    (Source.readLine ⟨[], some "gone"⟩).1 = .error (.device "gone") ∧
      run ⟨['é'], true⟩ ⟨[], some "gone"⟩ (.fresh none none) =
        ⟨.error (.reading (.device "gone")), .fresh none none⟩ ∧
    (Source.ofBytes (Text.utf8 ['é', 'b', '\n'])).readLine.1 = .ok ['é', 'b'] ∧
      run ⟨['é'], false⟩ (.ofBytes (Text.utf8 ['é', 'b', '\n'])) (.fresh (some 0) none) =
        ⟨.ok (lineMatches ['é', 'b'] ['é']), .fresh (some 0) none⟩ ∧
      (run ⟨['é'], true⟩ (.ofBytes (Text.utf8 ['é', 'b', '\n'])) (.fresh none none)).verdict =
        .ok true ∧
      lineMatches ['é', 'b'] ['é'] = true ∧
      (run ⟨['é'], true⟩ (.ofBytes (Text.utf8 ['é', 'b', '\n'])) (.fresh (some 2) none)).verdict =
        .error (.writing .full) ∧
      (run ⟨['é'], true⟩ (.ofBytes (Text.utf8 ['é', 'b', '\n'])) (.fresh (some 2)
        none)).sink.written = [0xC3, 0xA9] := by
  have hfails : (Source.readLine ⟨[], some "gone"⟩).1 = .error (.device "gone") := rfl
  have hread : (Source.ofBytes (Text.utf8 ['é', 'b', '\n'])).readLine.1 = .ok ['é', 'b'] := by
    have hline : Terminated ['é', 'b'] ['é', 'b', '\n'] := .newline (by decide) (by decide)
    rw [← List.append_nil (Text.utf8 ['é', 'b', '\n']), Source.readLine_of_terminated hline]
  have hmatch : lineMatches ['é', 'b'] ['é'] = true := by decide +kernel
  have hfound : findInLine? ['é', 'b'] ['é'] = some ⟨0, 2, ['é']⟩ := by decide +kernel
  obtain ⟨hgone, -⟩ := run_decides_and_writes ⟨[], some "gone"⟩
  obtain ⟨hruns, hagree⟩ := run_decides_and_writes (.ofBytes (Text.utf8 ['é', 'b', '\n']))
  have hsilent := ((hruns ⟨['é'], false⟩ (some 0) none).2 _ hread).1 (.inl rfl)
  obtain ⟨_, -, hendless⟩ := ((hruns ⟨['é'], true⟩ none none).2 _ hread).2 rfl hmatch
  obtain ⟨found, hsame, hfull⟩ := ((hruns ⟨['é'], true⟩ (some 2) none).2 _ hread).2 rfl hmatch
  obtain rfl := Option.some.inj (hfound.symm.trans hsame)
  have hverdict := hendless.succeeds.mpr ⟨nofun, rfl⟩
  refine ⟨hfails, (hgone _ none none).1 _ hfails, hread, hsilent, hverdict, ?_, ?_, ?_⟩
  · exact hagree ['é'] false true _ _ _ _ (congrArg RunResult.verdict hsilent) hverdict
  · exact hfull.full 2 rfl (by decide)
  · exact hfull.kept 2 rfl

end LineSearch
