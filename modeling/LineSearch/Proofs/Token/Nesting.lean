import LineSearch.Token.Reading
import Mathlib.Algebra.GroupWithZero.Nat
import Mathlib.Algebra.Order.BigOperators.Group.List
import Mathlib.Algebra.Order.Group.Nat

/-!
# Going down into the branches

A group holds texts, and each text reads as tokens again. The weight of tokens counts the
characters that a text spelling them needs, so it falls from a group to the tokens of any of its
branches, also where the branches were written by hand and never read. Definitions over tokens
recurse by weight, and `tokens_induction` is the induction that goes with them: one case for a kind
that takes a single character, one for a group, and two for the sequence.
-/

namespace LineSearch

namespace Token

def Kind.isSingle : Kind → Bool
  | .group _ => false
  | _ => true

def Kind.weight : Kind → Nat
  | .group branches => (branches.map fun branch => branch.length + 1).sum
  | _ => 0

end Token

def weight (tokens : List Token) : Nat :=
  (tokens.map fun token => token.kind.weight + 1).sum

@[simp] theorem weight_nil : weight [] = 0 := rfl

@[simp] theorem weight_cons (token : Token) (rest : List Token) :
    weight (token :: rest) = token.kind.weight + 1 + weight rest := rfl

namespace Token

/-! ## The weight of what is read -/

/-- The branches of a body and the bars between them are the whole body. -/
theorem sum_length_splitBranches (depth : Nat) (body : Text) :
    ((splitBranches depth body).map fun branch => branch.length + 1).sum = body.length + 1 := by
  have hcons : ∀ (c : Char) (texts : List Text), texts ≠ [] →
      ((consFirst c texts).map fun text => text.length + 1).sum =
        (texts.map fun text => text.length + 1).sum + 1 := by
    intro c texts hne
    cases texts with
    | nil => contradiction
    | cons text rest =>
        simp only [consFirst, List.modifyHead_cons, List.map_cons, List.length_cons, List.sum_cons]
        omega
  have hne : ∀ {texts : List Text} {n : Nat},
      (texts.map fun text => text.length + 1).sum = n + 1 → texts ≠ [] := by
    rintro texts n h rfl
    simp at h
  fun_induction splitBranches depth body with
  | case1 => rfl
  | case2 => rfl
  | case3 depth c rest ih =>
      have hinner := hcons c _ (hne ih)
      rw [ih] at hinner
      rw [hcons '\\' _ (hne hinner), hinner, List.length_cons, List.length_cons]
  | case6 rest ih =>
      rw [List.map_cons, List.sum_cons, ih, List.length_cons, List.length_nil]
      omega
  | case4 | case5 | case7 | case8 =>
      rw [hcons _ _ (hne (by assumption)), List.length_cons]
      simp_all

theorem Kind.isSingle_ofEscaped (c : Char) : (Kind.ofEscaped c).isSingle = true := by
  unfold Kind.ofEscaped
  split <;> rfl

theorem Kind.isSingle_ofClassBody (body : Text) : (Kind.ofClassBody body).isSingle = true := by
  unfold Kind.ofClassBody
  split <;> rfl

/-- Only a `(` that something closes is read as a group. -/
theorem readKind_single_or_group (c : Char) (rest : Text) :
    (readKind c rest).1.isSingle = true ∨ ∃ body after, rest = body ++ ')' :: after ∧
      readKind c rest = (.group (splitBranches 0 body), after) := by
  unfold readKind
  split
  · split
    · exact .inl rfl
    · exact .inl (Kind.isSingle_ofEscaped _)
  · split
    · exact .inl (Kind.isSingle_ofClassBody _)
    · exact .inl rfl
  · split
    · next body after hread => exact .inr ⟨body, after, append_of_groupBody? hread, rfl⟩
    · exact .inl rfl
  all_goals exact .inl rfl

theorem Kind.weight_of_isSingle {kind : Kind} (h : kind.isSingle = true) : kind.weight = 0 := by
  cases kind with
  | group branches => contradiction
  | _ => rfl

theorem weight_readKind (c : Char) (rest : Text) :
    (readKind c rest).1.weight + (readKind c rest).2.length ≤ rest.length := by
  rcases readKind_single_or_group c rest with hsingle | ⟨body, after, hrest, hread⟩
  · rw [Kind.weight_of_isSingle hsingle, Nat.zero_add]
    exact length_readKind_le c rest
  · have hbody := sum_length_splitBranches 0 body
    rw [hread, hrest]
    simp only [Kind.weight, List.length_append, List.length_cons, hbody]
    omega

end Token

theorem weight_tokenize_le (pattern : Text) : weight (tokenize pattern) ≤ pattern.length := by
  fun_induction tokenize pattern with
  | case1 => exact Nat.le_refl 0
  | case2 c rest kindRead quantifierRead ih =>
      have hkind : kindRead.1.weight + kindRead.2.length ≤ rest.length :=
        Token.weight_readKind c rest
      have hquantifier : quantifierRead.2.length ≤ kindRead.2.length :=
        Token.length_readQuantifier_le kindRead.2
      simp only [weight_cons, List.length_cons]
      omega

/-- What a group weighs is more than what any of its branches weighs once it is read. -/
theorem weight_tokenize_lt {branch : Text} {branches : List Text} (hmem : branch ∈ branches) :
    weight (tokenize branch) < (Token.Kind.group branches).weight := by
  have hread := weight_tokenize_le branch
  have hsum : branch.length + 1 ≤ (branches.map fun branch => branch.length + 1).sum :=
    List.single_le_sum (fun _ _ => Nat.zero_le _) _ (List.mem_map.mpr ⟨branch, hmem, rfl⟩)
  simp only [Token.Kind.weight]
  omega

/-! ## Induction through the branches -/

/-- Induction over tokens and over what stands below them. The property of kinds is proved beside
the property of sequences: for a group, from the tokens of its branches. -/
@[elab_as_elim]
theorem tokens_induction (kindHolds : Token.Kind → Prop) {motive : List Token → Prop}
    (single : ∀ kind, kind.isSingle = true → kindHolds kind)
    (group : ∀ branches, (∀ branch ∈ branches, motive (tokenize branch)) →
      kindHolds (.group branches))
    (nil : motive [])
    (cons : ∀ token rest, kindHolds token.kind → motive rest → motive (token :: rest))
    (tokens : List Token) : motive tokens := by
  induction hn : weight tokens using Nat.strongRecOn generalizing tokens with
  | ind n ih =>
      subst hn
      cases tokens with
      | nil => exact nil
      | cons token rest =>
          refine cons token rest ?_ (ih _ (by rw [weight_cons]; omega) rest rfl)
          cases hk : token.kind with
          | group branches =>
              refine group branches fun branch hmem => ih _ ?_ (tokenize branch) rfl
              have hlt := weight_tokenize_lt hmem
              rw [weight_cons, hk]
              omega
          | _ => exact single _ rfl

/-- The text is a branch of one of the groups among the tokens or stands below such a branch. -/
inductive Nested : List Token → Text → Prop
  | branch {tokens : List Token} {token : Token} {text : Text} :
      token ∈ tokens → text ∈ token.branches → Nested tokens text
  | inner {tokens : List Token} {token : Token} {outer text : Text} :
      token ∈ tokens → outer ∈ token.branches → Nested (tokenize outer) text → Nested tokens text

theorem Nested.mono {tokens more : List Token} {text : Text} (h : Nested tokens text)
    (hmore : ∀ token ∈ tokens, token ∈ more) : Nested more text := by
  cases h with
  | branch hmem htext => exact .branch (hmore _ hmem) htext
  | inner hmem houter hinner => exact .inner (hmore _ hmem) houter hinner

end LineSearch
