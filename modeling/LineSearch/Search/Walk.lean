import LineSearch.Search.Event

/-!
# Walking along a line

A sequence of tokens is matched by walking along the line from a position: each token offers the
positions where it may end, in order of preference, and the rest of the sequence is tried from each
of them until it succeeds. The order is greedy: more characters before fewer, the earlier branch
before the later.

The branches of a group are patterns of their own. A branch is walked alone, as if it were the whole
pattern, and only the end it prefers is offered. `branchEnd_eq` is the equation of that recursion:
it descends into the branches of branches, which are ever shorter texts.
-/

namespace LineSearch

variable {m : Type → Type} [Monad m]

/-! ## Single characters -/

def acceptedAt (accepts : Char → Bool) (chars : Array Char) (pos : Nat) : Bool :=
  chars[pos]?.any accepts

def runEnd (accepts : Char → Bool) (chars : Array Char) (pos : Nat) : Nat :=
  if _hpos : pos < chars.size then
    if accepts chars[pos] then runEnd accepts chars (pos + 1) else pos
  else
    pos
termination_by chars.size - pos

def Token.charEnds (token : Token) (chars : Array Char) (pos : Nat) : List Nat :=
  match token.quantifier with
  | .once => if acceptedAt token.accepts chars pos then [pos + 1] else []
  | .optional => if acceptedAt token.accepts chars pos then [pos + 1, pos] else [pos]
  | .repeated => (List.range' (pos + 1) (runEnd token.accepts chars pos - pos)).reverse

/-! ## Groups -/

@[specialize]
def firstBranchEnd (tryBranch : Text → Nat → OptionT m Nat) (branches : List Text)
    (pos : Nat) : OptionT m Nat :=
  branches.firstM fun branch => tryBranch branch pos

/-- The ends of repetitions, the last one first, in front of those already made. Each repetition
begins where the one before it ended. They stop where no further one is possible, and behind one
that made no way along a line of the given length. -/
@[specialize]
def repetitionEnds (repetition : Nat → OptionT m Nat) (length pos : Nat) (made : List Nat) :
    m (List Nat) := do
  match ← (repetition pos).run with
  | none => return made
  | some stop =>
      if _hstop : pos < stop ∧ stop ≤ length then
        repetitionEnds repetition length stop (stop :: made)
      else
        return stop :: made
termination_by length - pos

/-! ## Sequences -/

/-- Matches one token at a position and goes on with `next` from where it ends, trying one end after
the other until `next` succeeds. -/
@[specialize]
def Token.walk (tryBranch : Text → Nat → OptionT m Nat) (chars : Array Char) (token : Token)
    (pos : Nat) (next : Nat → OptionT m Nat) : OptionT m Nat :=
  match token.kind with
  | .group branches =>
      match token.quantifier with
      | .once => branches.firstM fun branch => tryBranch branch pos >>= next
      | .optional => (branches.firstM fun branch => tryBranch branch pos >>= next) <|> next pos
      | .repeated =>
          OptionT.lift (repetitionEnds (firstBranchEnd tryBranch branches) chars.size pos []) >>=
            (·.firstM next)
  | _ => (token.charEnds chars pos).firstM next

@[specialize]
def walk (tryBranch : Text → Nat → OptionT m Nat) (chars : Array Char) (tokens : List Token)
    (pos : Nat) (finish : Nat → OptionT m Nat) : OptionT m Nat :=
  match tokens with
  | [] => finish pos
  | token :: rest => token.walk tryBranch chars pos fun stop => walk tryBranch chars rest stop finish

/-- Matches a branch alone from a position: the end it prefers. -/
@[specialize]
def branchEnd (observe : Observer m) (chars : Array Char) (branch : Text) (pos : Nat) :
    OptionT m Nat := do
  let tokens := tokenize branch
  OptionT.lift (observe (.branchTried branch tokens.length pos))
  walk
    (fun inner start =>
      if _hshorter : inner.length < branch.length then
        branchEnd observe chars inner start
      else
        failure)
    chars tokens pos pure
termination_by branch.length

/-! ## The recursion through branches -/

theorem firstM_congr {α β : Type} {first second : α → OptionT m β} {items : List α}
    (hsame : ∀ item ∈ items, first item = second item) :
    items.firstM first = items.firstM second := by
  induction items with
  | nil => rfl
  | cons item rest ih =>
      simp only [List.firstM]
      have hrest : rest.firstM first = rest.firstM second :=
        ih fun later hmem => hsame later (List.mem_cons_of_mem _ hmem)
      rw [hsame item List.mem_cons_self, hrest]

/-- A token looks at no other texts than its branches. -/
theorem Token.walk_congr {first second : Text → Nat → OptionT m Nat} {token : Token}
    (hsame : ∀ branch ∈ token.branches, first branch = second branch) (chars : Array Char)
    (pos : Nat) (next : Nat → OptionT m Nat) :
    token.walk first chars pos next = token.walk second chars pos next := by
  unfold Token.walk
  split
  · next branches hgroup =>
      have hbranches : ∀ branch ∈ branches, first branch = second branch := by
        simpa [Token.branches, hgroup] using hsame
      have hend : firstBranchEnd first branches = firstBranchEnd second branches := by
        funext start
        exact firstM_congr fun branch hmem => by rw [hbranches branch hmem]
      have hnext : (branches.firstM fun branch => first branch pos >>= next) =
          branches.firstM fun branch => second branch pos >>= next :=
        firstM_congr fun branch hmem => by rw [hbranches branch hmem]
      rw [hend, hnext]
  · rfl

/-- A sequence of tokens looks at no other texts than the branches of its tokens. -/
theorem walk_congr {first second : Text → Nat → OptionT m Nat} {tokens : List Token}
    (hsame : ∀ token ∈ tokens, ∀ branch ∈ token.branches, first branch = second branch)
    (chars : Array Char) (pos : Nat) (finish : Nat → OptionT m Nat) :
    walk first chars tokens pos finish = walk second chars tokens pos finish := by
  induction tokens generalizing pos with
  | nil => rfl
  | cons token rest ih =>
      unfold walk
      rw [Token.walk_congr (hsame token List.mem_cons_self)]
      simp only [ih fun later hmem => hsame later (List.mem_cons_of_mem _ hmem)]

/-- A branch is matched as a pattern of its own: its tokens one after the other, with the branches
among them matched in the same way. -/
theorem branchEnd_eq (observe : Observer m) (chars : Array Char) (branch : Text) (pos : Nat) :
    branchEnd observe chars branch pos =
      (OptionT.lift (observe (.branchTried branch (tokenize branch).length pos)) >>= fun _ =>
        walk (branchEnd observe chars) chars (tokenize branch) pos pure) := by
  rw [branchEnd]
  congr 1
  funext _
  apply walk_congr
  intro token hmem inner hinner
  have hshorter := length_branch_of_mem_tokenize hmem inner hinner
  funext start
  rw [dif_pos (by omega)]

end LineSearch
