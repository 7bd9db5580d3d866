import LineSearch.Token.Basic
import LineSearch.Token.Bracketed

/-!
# Reading the tokens of a pattern

Every text is a pattern. Reading takes one token off the front of the text, with the mark for how
often it may stand, and goes on with the text left; a bracket that nothing closes is an ordinary
character. The text left is always shorter, so reading ends, and `length_branch_of_mem_tokenize`
says that a branch of a group is at least two characters shorter than the text it was read from, so
reading the branches in their turn ends too.
-/

namespace LineSearch.Token

/-! ## One token -/

def Kind.ofClassBody : Text → Kind
  | '^' :: members => .charClass members true
  | members => .charClass members false

def Kind.ofEscaped : Char → Kind
  | 'd' => .shorthand .digit
  | 'w' => .shorthand .word
  | 's' => .shorthand .blank
  | c => .literal c

/-- Reads one kind off the front of a text with first character `c` and the given rest, and returns
it with the text left. -/
def readKind (c : Char) (rest : Text) : Kind × Text :=
  match c with
  | '\\' =>
      match rest with
      | [] => (.literal '\\', [])
      | escaped :: rest => (.ofEscaped escaped, rest)
  | '[' =>
      match classBody? rest with
      | some (body, rest) => (.ofClassBody body, rest)
      | none => (.literal '[', rest)
  | '(' =>
      match groupBody? 0 rest with
      | some (body, rest) => (.group (splitBranches 0 body), rest)
      | none => (.literal '(', rest)
  | '.' => (.shorthand .any, rest)
  | '^' => (.anchor .lineStart, rest)
  | '$' => (.anchor .lineEnd, rest)
  | c => (.literal c, rest)

def readQuantifier : Text → Quantifier × Text
  | '+' :: rest => (.repeated, rest)
  | '?' :: rest => (.optional, rest)
  | rest => (.once, rest)

/-! ## What is left is shorter -/

theorem length_readKind_le (c : Char) (rest : Text) : (readKind c rest).2.length ≤ rest.length := by
  unfold readKind
  split
  · split <;> simp
  · split
    · next h =>
        rw [append_of_classBody? h]
        simp
        omega
    · simp
  · split
    · next h =>
        rw [append_of_groupBody? h]
        simp
        omega
    · simp
  all_goals simp

/-- The branches of a group just read lie strictly between its brackets. -/
theorem length_branch_of_readKind {c : Char} {rest : Text} {branches : List Text}
    (h : (readKind c rest).1 = .group branches) :
    ∀ branch ∈ branches, branch.length + 2 ≤ (c :: rest).length := by
  unfold readKind at h
  split at h
  · split at h
    · contradiction
    · next escaped _ =>
        unfold Kind.ofEscaped at h
        split at h <;> contradiction
  · split at h
    · next body _ _ =>
        unfold Kind.ofClassBody at h
        split at h <;> contradiction
    · contradiction
  · split at h
    · next body after hread =>
        obtain rfl : splitBranches 0 body = branches := by simpa using h
        intro branch hmem
        have hlength := length_le_of_mem_splitBranches 0 body branch hmem
        rw [append_of_groupBody? hread]
        simp only [List.length_cons, List.length_append]
        omega
    · contradiction
  all_goals contradiction

theorem length_readQuantifier_le (text : Text) :
    (readQuantifier text).2.length ≤ text.length := by
  unfold readQuantifier
  split <;> simp

end LineSearch.Token

namespace LineSearch

def tokenize (pattern : Text) : List Token :=
  match pattern with
  | [] => []
  | c :: rest =>
      let kindRead := Token.readKind c rest
      let quantifierRead := Token.readQuantifier kindRead.2
      ⟨kindRead.1, quantifierRead.1⟩ :: tokenize quantifierRead.2
termination_by pattern.length
decreasing_by
  have hkind := Token.length_readKind_le c rest
  have hquantifier := Token.length_readQuantifier_le (Token.readKind c rest).2
  simp only [List.length_cons]
  omega

theorem tokenize_nil : tokenize [] = [] := by
  rw [tokenize]

theorem tokenize_cons (c : Char) (rest : Text) :
    tokenize (c :: rest) =
      ⟨(Token.readKind c rest).1, (Token.readQuantifier (Token.readKind c rest).2).1⟩ ::
        tokenize (Token.readQuantifier (Token.readKind c rest).2).2 := by
  rw [tokenize]

/-- A branch of a group is at least two characters shorter than the pattern it was read from. -/
theorem length_branch_of_mem_tokenize {pattern : Text} {token : Token}
    (hmem : token ∈ tokenize pattern) :
    ∀ branch ∈ token.branches, branch.length + 2 ≤ pattern.length := by
  fun_induction tokenize pattern with
  | case1 => contradiction
  | case2 c rest kindRead quantifierRead ih =>
      rcases List.mem_cons.mp hmem with rfl | hmem
      · intro branch hbranch
        unfold Token.branches at hbranch
        split at hbranch
        · next branches hgroup => exact Token.length_branch_of_readKind hgroup branch hbranch
        · contradiction
      · intro branch hbranch
        have hshorter := ih hmem branch hbranch
        have hleft : quantifierRead.2.length ≤ rest.length :=
          Nat.le_trans (Token.length_readQuantifier_le kindRead.2) (Token.length_readKind_le c rest)
        simp only [List.length_cons]
        omega

end LineSearch
