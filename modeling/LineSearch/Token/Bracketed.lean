import LineSearch.Text.Basic

/-!
# Texts between brackets

A `[` is closed by the first `]` behind it. A `(` is closed by the `)` that leaves no group open
that was opened behind it, and the text between the two is split into branches. What is read can be
put together again: `append_of_classBody?` and `append_of_groupBody?` give back the whole text.
-/

namespace LineSearch.Token

/-! ## Classes -/

/-- Splits the text behind a `[` at the first `]`: what is before it and what is behind it. -/
def classBody? : Text → Option (Text × Text)
  | [] => none
  | ']' :: rest => some ([], rest)
  | c :: rest => (classBody? rest).map fun (body, after) => (c :: body, after)

theorem append_of_classBody? {text body rest : Text} (h : classBody? text = some (body, rest)) :
    text = body ++ ']' :: rest := by
  fun_induction classBody? text generalizing body with
  | case1 => contradiction
  | case2 rest => simp_all
  | case3 c rest _ ih =>
      obtain ⟨⟨inner, after⟩, hread, hparts⟩ := Option.map_eq_some_iff.mp h
      obtain ⟨rfl, rfl⟩ := Prod.mk.injEq .. ▸ hparts
      rw [ih hread, List.cons_append]

/-! ## Groups

A backslash and the character behind it stand together, so neither opens, closes or separates
anything.
-/

/-- Splits the text behind a `(` at the `)` that closes it, where `depth` more groups are open: what
is before it and what is behind it. -/
def groupBody? (depth : Nat) (text : Text) : Option (Text × Text) :=
  match text with
  | [] => none
  | ['\\'] => none
  | '\\' :: c :: rest => (groupBody? depth rest).map fun (body, after) => ('\\' :: c :: body, after)
  | '(' :: rest => (groupBody? (depth + 1) rest).map fun (body, after) => ('(' :: body, after)
  | ')' :: rest =>
      match depth with
      | 0 => some ([], rest)
      | depth + 1 => (groupBody? depth rest).map fun (body, after) => (')' :: body, after)
  | c :: rest => (groupBody? depth rest).map fun (body, after) => (c :: body, after)

theorem append_of_groupBody? {depth : Nat} {text body rest : Text}
    (h : groupBody? depth text = some (body, rest)) : text = body ++ ')' :: rest := by
  fun_induction groupBody? depth text generalizing body <;> simp_all <;> grind

/-! ## Branches -/

def consFirst (c : Char) (texts : List Text) : List Text :=
  texts.modifyHead (c :: ·)

/-- The branches of a group: its body split at every `|` that is inside no other group, where
`depth` groups are open. -/
def splitBranches (depth : Nat) (body : Text) : List Text :=
  match body with
  | [] => [[]]
  | ['\\'] => [['\\']]
  | '\\' :: c :: rest => consFirst '\\' (consFirst c (splitBranches depth rest))
  | '(' :: rest => consFirst '(' (splitBranches (depth + 1) rest)
  | ')' :: rest => consFirst ')' (splitBranches (depth - 1) rest)
  | '|' :: rest =>
      if depth = 0 then [] :: splitBranches 0 rest else consFirst '|' (splitBranches depth rest)
  | c :: rest => consFirst c (splitBranches depth rest)

theorem length_le_of_mem_consFirst {c : Char} {texts : List Text} {bound : Nat}
    (h : ∀ text ∈ texts, text.length ≤ bound) :
    ∀ text ∈ consFirst c texts, text.length ≤ bound + 1 := by
  cases texts with
  | nil => simp [consFirst]
  | cons first rest =>
      intro text hmem
      rcases List.mem_cons.mp hmem with rfl | hmem
      · simpa using h first List.mem_cons_self
      · exact Nat.le_succ_of_le (h text (List.mem_cons_of_mem first hmem))

theorem length_le_of_mem_splitBranches (depth : Nat) (body : Text) :
    ∀ branch ∈ splitBranches depth body, branch.length ≤ body.length := by
  fun_induction splitBranches depth body with
  | case1 => simp
  | case2 => simp
  | case3 depth c rest ih =>
      exact length_le_of_mem_consFirst (length_le_of_mem_consFirst ih)
  | case6 rest ih =>
      intro branch hmem
      rcases List.mem_cons.mp hmem with rfl | hmem
      · exact Nat.zero_le _
      · exact Nat.le_succ_of_le (ih branch hmem)
  | case4 | case5 | case7 | case8 => exact length_le_of_mem_consFirst (by assumption)

end LineSearch.Token
