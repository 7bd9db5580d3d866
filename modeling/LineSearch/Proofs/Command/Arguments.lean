import LineSearch.Command.Options
import Mathlib.Data.List.Basic

/-!
# Which argument lists are accepted

An argument list is accepted if it gives one pattern, with as many `-o` in front of it and behind it
as one likes. Of any other list, either the pattern is missing and nothing else is wrong, or some
argument has no place in it, and the first of these is reported whatever stands behind it
(`parse_accepts_or_reports_first`). `Reading` has a rule for each of the ways in which a list can be
read, and every list is read in one of them, with the result that the rule says (`reading_iff`).
-/

namespace LineSearch

namespace Options

def writeFlag : Text := ['-', 'o']

def patternFlag : Text := ['-', 'E']

/-! ## Arguments without a place -/

/-- The argument at the index is `-o`, the first `-E`, or what stands right behind that. -/
def HasPlace (arguments : List Text) (index : Nat) : Prop :=
  arguments[index]? = some writeFlag ∨ index = arguments.idxOf patternFlag ∨
    index = arguments.idxOf patternFlag + 1

structure FirstMisplaced (arguments : List Text) (index : Nat) (argument : Text) : Prop where
  getElem?_eq : arguments[index]? = some argument
  misplaced : ¬ HasPlace arguments index
  placed_before : ∀ earlier < index, HasPlace arguments earlier

theorem getElem?_replicate_append {count index : Nat} (h : index < count) (rest : List Text) :
    (List.replicate count writeFlag ++ rest)[index]? = some writeFlag := by
  rw [List.getElem?_append_left (by simpa using h), List.getElem?_replicate_of_lt h]

theorem getElem?_replicate_append_add (count further : Nat) (rest : List Text) :
    (List.replicate count writeFlag ++ rest)[count + further]? = rest[further]? := by
  rw [List.getElem?_append_right (by simp), List.length_replicate, Nat.add_sub_cancel_left]

theorem idxOf_replicate_append (count : Nat) (rest : List Text) :
    (List.replicate count writeFlag ++ rest).idxOf patternFlag =
      count + rest.idxOf patternFlag := by
  have habsent : patternFlag ∉ List.replicate count writeFlag := by
    intro hmem
    exact absurd (List.eq_of_mem_replicate hmem) (by decide)
  rw [List.idxOf_append_of_notMem habsent, List.length_replicate]

theorem firstMisplaced_in_front (count : Nat) {argument : Text} (hwrite : argument ≠ writeFlag)
    (hpattern : argument ≠ patternFlag) (rest : List Text) :
    FirstMisplaced (List.replicate count writeFlag ++ argument :: rest) count argument := by
  have hget : (List.replicate count writeFlag ++ argument :: rest)[count]? = some argument :=
    getElem?_replicate_append_add count 0 (argument :: rest)
  refine ⟨hget, ?_, fun earlier hearlier => .inl (getElem?_replicate_append hearlier _)⟩
  rw [HasPlace, hget, idxOf_replicate_append, List.idxOf_cons_ne _ hpattern]
  rintro (hflag | hfirst | hbehind)
  · exact hwrite (Option.some.inj hflag)
  · omega
  · omega

theorem firstMisplaced_behind (count further : Nat) (pattern : Text) {argument : Text}
    (hwrite : argument ≠ writeFlag) (rest : List Text) :
    FirstMisplaced
      (List.replicate count writeFlag ++ patternFlag :: pattern ::
        (List.replicate further writeFlag ++ argument :: rest))
      (count + (further + 2)) argument := by
  have hfirst : (List.replicate count writeFlag ++ patternFlag :: pattern ::
      (List.replicate further writeFlag ++ argument :: rest)).idxOf patternFlag = count := by
    rw [idxOf_replicate_append, List.idxOf_cons_self, Nat.add_zero]
  have hget : (List.replicate count writeFlag ++ patternFlag :: pattern ::
      (List.replicate further writeFlag ++ argument :: rest))[count + (further + 2)]? =
        some argument := by
    rw [getElem?_replicate_append_add]
    exact getElem?_replicate_append_add further 0 (argument :: rest)
  refine ⟨hget, ?_, ?_⟩
  · rw [HasPlace, hget, hfirst]
    rintro (hflag | hplace | hplace)
    · exact hwrite (Option.some.inj hflag)
    · omega
    · omega
  · intro earlier hearlier
    rw [HasPlace, hfirst]
    by_cases hfront : earlier < count
    · exact .inl (getElem?_replicate_append hfront _)
    · by_cases hpattern : earlier ≤ count + 1
      · exact .inr (by omega)
      · -- the argument is among the flags behind the pattern
        obtain ⟨behind, rfl⟩ : ∃ behind, earlier = count + (behind + 2) :=
          ⟨earlier - count - 2, by omega⟩
        refine .inl ?_
        rw [getElem?_replicate_append_add]
        exact getElem?_replicate_append (by omega) _

/-! ## One argument after the other -/

def misplacedError (argument : Text) : UsageError :=
  if argument ≠ patternFlag ∧ argument.head? = some '-' ∧ 1 < argument.length then
    .unknownOption argument
  else
    .unexpectedArgument argument

theorem parseFrom_replicate_append (count : Nat) (pattern : Option Text) (onlyMatching : Bool)
    (rest : List Text) :
    parseFrom pattern onlyMatching (List.replicate count writeFlag ++ rest) =
      parseFrom pattern (onlyMatching || decide (0 < count)) rest := by
  induction count generalizing onlyMatching with
  | zero => simp
  | succ count ih =>
      rw [List.replicate_succ, List.cons_append, writeFlag, parseFrom, ← writeFlag, ih]
      simp

theorem parseFrom_misplaced {pattern : Option Text} {onlyMatching : Bool} {argument : Text}
    (hwrite : argument ≠ writeFlag) (hpattern : argument = patternFlag → pattern.isSome = true)
    (rest : List Text) :
    parseFrom pattern onlyMatching (argument :: rest) = .error (misplacedError argument) := by
  unfold parseFrom
  split
  · contradiction
  · next hflag => exact absurd (List.cons.inj hflag).1 hwrite
  · next hflag =>
      obtain ⟨rfl, rfl⟩ := List.cons.inj hflag
      obtain ⟨given, rfl⟩ := Option.isSome_iff_exists.mp (hpattern rfl)
      rfl
  · next c name _ _ hother hname =>
      obtain ⟨rfl, rfl⟩ := List.cons.inj hname
      have hne : '-' :: c :: name ≠ patternFlag := by
        intro hsame
        cases hsame
        exact hother rfl rfl
      rw [misplacedError, if_pos ⟨hne, rfl, by simp⟩]
  · next _ _ _ _ hshort hname =>
      obtain ⟨rfl, rfl⟩ := List.cons.inj hname
      rw [misplacedError, if_neg]
      rintro ⟨-, hdash, hlong⟩
      match argument with
      | first :: second :: name =>
          obtain rfl : first = '-' := Option.some.inj hdash
          exact hshort second name rfl

/-! ## The ways to read a list -/

/-- An argument list and the result of reading it: there may be no `-E`, or one with nothing behind
it, or one with a pattern and flags only around the two, or an argument without a place in front of
the first `-E` or behind the pattern. -/
inductive Reading : List Text → Except UsageError Options → Prop
  | noPattern (count : Nat) : Reading (List.replicate count writeFlag) (.error .noPattern)
  | patternMissing (count : Nat) :
      Reading (List.replicate count writeFlag ++ [patternFlag]) (.error .patternMissing)
  | accepted (count further : Nat) (pattern : Text) :
      Reading
        (List.replicate count writeFlag ++ patternFlag :: pattern ::
          List.replicate further writeFlag)
        (.ok ⟨pattern, decide (0 < count + further)⟩)
  | misplacedInFront (count : Nat) {argument : Text} (rest : List Text) :
      argument ≠ writeFlag → argument ≠ patternFlag →
      Reading (List.replicate count writeFlag ++ argument :: rest)
        (.error (misplacedError argument))
  | misplacedBehind (count further : Nat) (pattern : Text) {argument : Text} (rest : List Text) :
      argument ≠ writeFlag →
      Reading
        (List.replicate count writeFlag ++ patternFlag :: pattern ::
          (List.replicate further writeFlag ++ argument :: rest))
        (.error (misplacedError argument))

theorem parseFrom_replicate (count : Nat) (pattern : Option Text) (onlyMatching : Bool) :
    parseFrom pattern onlyMatching (List.replicate count writeFlag) =
      parseFrom pattern (onlyMatching || decide (0 < count)) [] := by
  rw [← parseFrom_replicate_append, List.append_nil]

theorem parse_of_reading {arguments : List Text} {result : Except UsageError Options}
    (h : Reading arguments result) : parse arguments = result := by
  unfold parse
  cases h with
  | noPattern count => rw [parseFrom_replicate, parseFrom]
  | patternMissing count =>
      rw [parseFrom_replicate_append]
      rfl
  | accepted count further pattern =>
      rw [parseFrom_replicate_append, patternFlag, parseFrom, parseFrom_replicate, parseFrom,
        Bool.false_or, ← Bool.decide_or]
      simp only [Nat.add_pos_iff_pos_or_pos]
  | misplacedInFront count rest hwrite hpattern =>
      rw [parseFrom_replicate_append]
      exact parseFrom_misplaced hwrite (fun hflag => absurd hflag hpattern) rest
  | misplacedBehind count further pattern rest hwrite =>
      rw [parseFrom_replicate_append, patternFlag, parseFrom, parseFrom_replicate_append]
      refine parseFrom_misplaced hwrite ?_ rest
      exact fun _ => rfl

theorem exists_replicate_append (arguments : List Text) :
    ∃ count rest, arguments = List.replicate count writeFlag ++ rest ∧
      rest.head? ≠ some writeFlag := by
  induction arguments with
  | nil => exact ⟨0, [], rfl, nofun⟩
  | cons argument arguments ih =>
      by_cases hflag : argument = writeFlag
      · obtain ⟨count, rest, rfl, hrest⟩ := ih
        exact ⟨count + 1, rest, by rw [hflag, List.replicate_succ, List.cons_append], hrest⟩
      · exact ⟨0, argument :: arguments, rfl, fun hhead => hflag (Option.some.inj hhead)⟩

theorem exists_reading (arguments : List Text) : ∃ result, Reading arguments result := by
  obtain ⟨count, rest, rfl, hrest⟩ := exists_replicate_append arguments
  match rest with
  | [] =>
      rw [List.append_nil]
      exact ⟨_, .noPattern count⟩
  | argument :: behind =>
      have hwrite : argument ≠ writeFlag := fun hflag => hrest (congrArg some hflag)
      by_cases hpattern : argument = patternFlag
      · subst hpattern
        match behind with
        | [] => exact ⟨_, .patternMissing count⟩
        | pattern :: behind =>
            obtain ⟨further, last, rfl, hlast⟩ := exists_replicate_append behind
            match last with
            | [] =>
                rw [List.append_nil]
                exact ⟨_, .accepted count further pattern⟩
            | other :: last =>
                have hother : other ≠ writeFlag := fun hflag => hlast (congrArg some hflag)
                exact ⟨_, .misplacedBehind count further pattern last hother⟩
      · exact ⟨_, .misplacedInFront count behind hwrite hpattern⟩

theorem reading_iff (arguments : List Text) (result : Except UsageError Options) :
    Reading arguments result ↔ parse arguments = result := by
  constructor
  · exact parse_of_reading
  · rintro rfl
    obtain ⟨result, hreading⟩ := exists_reading arguments
    rwa [parse_of_reading hreading]

/-! ## Accepted lists and first faults -/

theorem misplacedError_ne (argument : Text) :
    .noPattern ≠ misplacedError argument ∧ .patternMissing ≠ misplacedError argument := by
  unfold misplacedError
  split
  · exact ⟨nofun, nofun⟩
  · exact ⟨nofun, nofun⟩

theorem Reading.eq_of_noPattern {arguments : List Text}
    (h : Reading arguments (.error .noPattern)) :
    ∃ count, arguments = List.replicate count writeFlag := by
  generalize hresult : Except.error UsageError.noPattern = result at h
  cases h with
  | noPattern count => exact ⟨count, rfl⟩
  | patternMissing | accepted => contradiction
  | misplacedInFront | misplacedBehind =>
      exact absurd (Except.error.inj hresult) (misplacedError_ne _).1

theorem Reading.eq_of_patternMissing {arguments : List Text}
    (h : Reading arguments (.error .patternMissing)) :
    ∃ count, arguments = List.replicate count writeFlag ++ [patternFlag] := by
  generalize hresult : Except.error UsageError.patternMissing = result at h
  cases h with
  | patternMissing count => exact ⟨count, rfl⟩
  | noPattern | accepted => contradiction
  | misplacedInFront | misplacedBehind =>
      exact absurd (Except.error.inj hresult) (misplacedError_ne _).2

/-- A list is accepted if it is some `-o`, a `-E` with any text behind it, and some `-o`, and then
the text is the pattern, and what is found is to be written if there is an `-o` at all. Reading
fails for want of a `-E`, or of what stands behind it, if the list ends there and is nothing but
`-o` in front. In all other cases there is a first argument without a place, and it is reported,
whatever stands behind it. -/
theorem parse_accepts_or_reports_first (arguments : List Text) :
    (∀ options, parse arguments = .ok options ↔
      ∃ count further pattern,
        arguments = List.replicate count writeFlag ++ patternFlag :: pattern ::
          List.replicate further writeFlag ∧
        options = ⟨pattern, decide (0 < count + further)⟩) ∧
    (parse arguments = .error .noPattern ↔ ∃ count, arguments = List.replicate count writeFlag) ∧
    (parse arguments = .error .patternMissing ↔
      ∃ count, arguments = List.replicate count writeFlag ++ [patternFlag]) ∧
    ((∃ options, parse arguments = .ok options) ∨
      parse arguments = .error .noPattern ∨ parse arguments = .error .patternMissing ∨
      ∃ front argument rest, arguments = front ++ argument :: rest ∧
        FirstMisplaced arguments front.length argument ∧
        ∀ others, parse (front ++ argument :: others) = .error (misplacedError argument)) := by
  refine ⟨fun options => ⟨?_, ?_⟩, ⟨?_, ?_⟩, ⟨?_, ?_⟩, ?_⟩
  · intro h
    cases (reading_iff arguments _).mpr h with
    | accepted count further pattern => exact ⟨count, further, pattern, rfl, rfl⟩
  · rintro ⟨count, further, pattern, rfl, rfl⟩
    exact parse_of_reading (.accepted count further pattern)
  · intro h
    exact ((reading_iff arguments _).mpr h).eq_of_noPattern
  · rintro ⟨count, rfl⟩
    exact parse_of_reading (.noPattern count)
  · intro h
    exact ((reading_iff arguments _).mpr h).eq_of_patternMissing
  · rintro ⟨count, rfl⟩
    exact parse_of_reading (.patternMissing count)
  · obtain ⟨result, hreading⟩ := exists_reading arguments
    have hparse := parse_of_reading hreading
    cases hreading with
    | accepted => exact .inl ⟨_, hparse⟩
    | noPattern => exact .inr (.inl hparse)
    | patternMissing => exact .inr (.inr (.inl hparse))
    | @misplacedInFront count argument rest hwrite hpattern =>
        refine .inr (.inr (.inr ⟨List.replicate count writeFlag, argument, rest, rfl, ?_, ?_⟩))
        · rw [List.length_replicate]
          exact firstMisplaced_in_front count hwrite hpattern rest
        · intro others
          exact parse_of_reading (.misplacedInFront count others hwrite hpattern)
    | @misplacedBehind count further pattern argument rest hwrite =>
        refine .inr (.inr (.inr ⟨List.replicate count writeFlag ++ patternFlag :: pattern ::
          List.replicate further writeFlag, argument, rest, by simp, ?_, ?_⟩))
        · have hplace := firstMisplaced_behind count further pattern hwrite rest
          simpa using hplace
        · intro others
          have hreported := parse_of_reading (.misplacedBehind count further pattern others hwrite)
          simpa using hreported

/-- The second `-E` is the pattern, whatever it looks like; the third has no place. -/
example : parse [writeFlag, patternFlag, patternFlag, patternFlag, ['-', 'x']] =
    .error (.unexpectedArgument patternFlag) := by
  rfl

end Options

end LineSearch
