import LineSearch.Command.Run
import LineSearch.Proofs.Search.Found
import LineSearch.Proofs.Stream.Lines

/-!
# The outcome of the command

What the caller of the command sees is decided by the arguments and the first line of the input.
Arguments that ask for nothing are reported whatever the input is. Else the exit code tells whether
the line could be read and whether it matches, with or without `-o`, and only what was found is
written, if it was asked for (`command_contract`).
-/

namespace LineSearch

/-! ## Runs that nobody observes -/

section Run

variable {options : Options} {source : Source} (sink : Sink)

theorem run_of_unread {cause : ReadFailure} (hread : source.readLine.1 = .error cause) :
    run options source sink = ⟨.error (.reading cause), sink⟩ := by
  unfold run runM
  rw [hread]
  rfl

variable {line : Text} (hread : source.readLine.1 = .ok line)

include hread

theorem run_of_verdict_only (honly : options.onlyMatching = false) :
    run options source sink = ⟨.ok (lineMatches line options.pattern), sink⟩ := by
  unfold run runM
  rw [hread, honly]
  rfl

theorem run_of_unfound (honly : options.onlyMatching = true)
    (hfound : findInLine? line options.pattern = none) :
    run options source sink = ⟨.ok false, sink⟩ := by
  have hsearch : findInLineM Observer.silent line options.pattern = pure none := hfound
  unfold run runM
  rw [hread, honly]
  simp only [if_true]
  rw [hsearch]
  rfl

/-- What was found is written, and the run ends as the writing does. -/
theorem run_of_found {found : Found} (honly : options.onlyMatching = true)
    (hfound : findInLine? line options.pattern = some found) :
    run options source sink =
      ⟨((sink.writeOut (matchLine found)).1.map fun _ => true).mapError .writing,
        (sink.writeOut (matchLine found)).2⟩ := by
  have hsearch : findInLineM Observer.silent line options.pattern = pure (some found) := hfound
  unfold run runM
  rw [hread, honly]
  simp only [if_true]
  rw [hsearch]
  rcases hwrite : sink.writeOut (matchLine found) with ⟨_ | _, after⟩ <;>
    simp [Observer.silent, hwrite, Except.map, Except.mapError]

end Run

theorem writeOut_unbounded (bytes : Bytes) :
    Sink.unbounded.writeOut bytes = (.ok (), ⟨bytes, none, none⟩) := rfl

/-! ## The command for one argument list -/

theorem command_of_usageError {arguments : List Text} {error : UsageError}
    (h : Options.parse arguments = .error error) (input : Source) :
    command arguments input = .ofUsageError error := by
  unfold command commandM
  rw [h]
  rfl

/-- What the caller sees where the line was read: no complaint, the verdict as exit code, and the
part found as output if it is asked for and there is one. -/
structure Exit.Answers (exit : Exit) (options : Options) (line : Text) : Prop where
  quiet : exit.stderr = ""
  verdict : exit.code = if lineMatches line options.pattern then 0 else 1
  found : options.onlyMatching = true → exit.code = 0 →
    ∃ found, findInLine? line options.pattern = some found ∧
      exit.stdout = Text.utf8 (found.text ++ ['\n'])
  silent : options.onlyMatching = false ∨ exit.code ≠ 0 → exit.stdout = []

section Accepted

variable {arguments : List Text} {options : Options} (h : Options.parse arguments = .ok options)

include h

theorem command_of_options (input : Source) :
    command arguments input = .ofRunResult (run options input .unbounded) := by
  unfold command commandM
  rw [h]
  rfl

theorem command_of_unread {input : Source} {cause : ReadFailure}
    (hread : input.readLine.1 = .error cause) :
    command arguments input =
      ⟨2, [], "error: " ++ (RunFailure.reading cause).message ++ "\n"⟩ := by
  rw [command_of_options h, run_of_unread _ hread]
  rfl

theorem command_answers {input : Source} {line : Text} (hread : input.readLine.1 = .ok line) :
    (command arguments input).Answers options line := by
  -- the verdict of a run that writes is whether it found a part; the other asks for a match
  have hagree := isSome_findInLine? line options.pattern
  rw [command_of_options h]
  cases honly : options.onlyMatching with
  | false =>
      rw [run_of_verdict_only _ hread honly]
      cases hmatch : lineMatches line options.pattern with
      | false => exact ⟨rfl, by rw [hmatch]; rfl, nofun, fun _ => rfl⟩
      | true => exact ⟨rfl, by rw [hmatch]; rfl, by simp [honly], fun _ => rfl⟩
  | true =>
      cases hfound : findInLine? line options.pattern with
      | none =>
          rw [hfound] at hagree
          rw [run_of_unfound _ hread honly hfound]
          exact ⟨rfl, by rw [← hagree]; rfl, nofun, fun _ => rfl⟩
      | some found =>
          rw [hfound] at hagree
          rw [run_of_found _ hread honly hfound, writeOut_unbounded]
          refine ⟨rfl, by rw [← hagree]; rfl, fun _ _ => ⟨found, hfound, rfl⟩, ?_⟩
          rintro (hoff | hcode)
          · rw [honly] at hoff
            contradiction
          · exact absurd rfl hcode

/-- The exit code is decided by the input and the pattern. -/
theorem code_of_options (input : Source) :
    (command arguments input).code =
      match input.readLine.1 with
      | .error _ => 2
      | .ok line => if lineMatches line options.pattern then 0 else 1 := by
  cases hread : input.readLine.1 with
  | error cause => rw [command_of_unread h hread]
  | ok line => exact (command_answers h hread).verdict

end Accepted

/-! ## The contract -/

theorem command_congr {arguments : List Text} {input input' : Source}
    (h : input.readLine.1 = input'.readLine.1) :
    command arguments input = command arguments input' := by
  cases hparse : Options.parse arguments with
  | error error => rw [command_of_usageError hparse, command_of_usageError hparse]
  | ok options =>
      have hrun : run options input .unbounded = run options input' .unbounded := by
        unfold run runM
        rw [h]
      rw [command_of_options hparse, command_of_options hparse, hrun]

/-- Rejected arguments are reported with exit code 2, whatever the input is. Accepted ones search
the first line of the input: if it is no text, that is reported with exit code 2; else the exit
answers the options on the line without its terminator. The exit code is that of any arguments with
the same pattern, with `-o` or without. What stands behind the first newline never matters, nor
which of the two terminators a line has that does not end in a carriage return itself. -/
theorem command_contract (arguments : List Text) :
    (∀ error, Options.parse arguments = .error error → ∀ input, command arguments input =
      ⟨2, [], error.message ++ "\n" ++ Options.usage ++ "\n"⟩) ∧
    (∀ options, Options.parse arguments = .ok options →
      (∀ bytes, ∃ segment, FirstLine bytes segment ∧
        ((∀ text, Text.utf8 text ≠ segment) ∧ command arguments (.ofBytes bytes) =
            ⟨2, [], "error: failed to read input line: stream did not contain valid UTF-8\n"⟩ ∨
          ∃ text line, Text.utf8 text = segment ∧
            (Terminated line text ∨ (line = text ∧ '\n' ∉ text)) ∧
            (command arguments (.ofBytes bytes)).Answers options line)) ∧
      ∀ others options', Options.parse others = .ok options' → options'.pattern = options.pattern →
        ∀ input, (command others input).code = (command arguments input).code) ∧
    (∀ head rest rest', command arguments (.ofBytes (head ++ newline :: rest)) =
      command arguments (.ofBytes (head ++ newline :: rest'))) ∧
    (∀ line, '\n' ∉ line → line.getLast? ≠ some '\r' → ∀ rest rest',
      command arguments (.ofBytes (Text.utf8 (line ++ ['\n']) ++ rest)) =
        command arguments (.ofBytes (Text.utf8 (line ++ ['\r', '\n']) ++ rest'))) := by
  refine ⟨fun error herror input => command_of_usageError herror input, ?_, ?_, ?_⟩
  · intro options hoptions
    constructor
    · intro bytes
      have hfirst := firstLine_splitLine bytes
      refine ⟨_, hfirst, ?_⟩
      rcases Source.readLine_of_firstLine hfirst with
        ⟨hinvalid, hread⟩ | ⟨text, line, htext, hline, hread⟩
      · exact .inl ⟨hinvalid, command_of_unread hoptions hread⟩
      · exact .inr ⟨text, line, htext, hline, command_answers hoptions hread⟩
    · intro others options' hothers hpattern input
      rw [code_of_options hothers, code_of_options hoptions, hpattern]
  · intro head rest rest'
    apply command_congr
    rw [Source.readLine_ofBytes, Source.readLine_ofBytes, Source.splitLine_append_newline]
  · intro line hline hlast rest rest'
    apply command_congr
    rw [Source.readLine_of_terminated (.newline hline hlast),
      Source.readLine_of_terminated (.carriageReturn hline)]

/-- An option that does not exist; the pattern `b+` with `-o` and without; and the line `ab` with
either terminator. -/
theorem command_contract_of_repeated_letter :
    (Options.parse [['-', 'x']] = .error (.unknownOption ['-', 'x']) ∧
      ∀ input, command [['-', 'x']] input =
        ⟨2, [], "unknown option '-x'\n" ++ Options.usage ++ "\n"⟩) ∧
    (Options.parse [['-', 'o'], ['-', 'E'], ['b', '+']] = .ok ⟨['b', '+'], true⟩ ∧
      Options.parse [['-', 'E'], ['b', '+']] = .ok ⟨['b', '+'], false⟩ ∧
      ∀ input, (command [['-', 'E'], ['b', '+']] input).code =
        (command [['-', 'o'], ['-', 'E'], ['b', '+']] input).code) ∧
    ('\n' ∉ ['a', 'b'] ∧ ['a', 'b'].getLast? ≠ some '\r' ∧
      command [['-', 'o'], ['-', 'E'], ['b', '+']] (.ofBytes (Text.utf8 ['a', 'b', '\n'])) =
        command [['-', 'o'], ['-', 'E'], ['b', '+']]
          (.ofBytes (Text.utf8 ['a', 'b', '\r', '\n']))) := by
  have hrejected : Options.parse [['-', 'x']] = .error (.unknownOption ['-', 'x']) := rfl
  have hwith : Options.parse [['-', 'o'], ['-', 'E'], ['b', '+']] = .ok ⟨['b', '+'], true⟩ := rfl
  have hwithout : Options.parse [['-', 'E'], ['b', '+']] = .ok ⟨['b', '+'], false⟩ := rfl
  have hline : '\n' ∉ ['a', 'b'] := by decide
  have hlast : ['a', 'b'].getLast? ≠ some '\r' := by decide
  obtain ⟨-, hoptions, -, hends⟩ := command_contract [['-', 'o'], ['-', 'E'], ['b', '+']]
  refine ⟨⟨hrejected, (command_contract [['-', 'x']]).1 _ hrejected⟩,
    ⟨hwith, hwithout, (hoptions _ hwith).2 _ _ hwithout rfl⟩, hline, hlast, ?_⟩
  exact hends ['a', 'b'] hline hlast [] []

end LineSearch
