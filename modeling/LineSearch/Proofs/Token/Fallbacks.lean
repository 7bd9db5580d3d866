import LineSearch.Proofs.Token.Concatenation
import LineSearch.Proofs.Token.GroupText
import LineSearch.Proofs.Token.Nesting

/-!
# Fallbacks that nested groups never take

Reading makes something of every text: a `(` that nothing closes and a backslash with nothing behind
it are read as the characters they are, and splitting goes on where a `)` closes no group. None of
this happens below the top level. The body of a group is balanced, so every branch is, however deep
it lies (`nested_branches_take_no_fallback`). Yet the scan that found the end of the group counted
the parentheses of its classes, and reading does not see them. Both stop behind the same characters
all the same: what reading takes off a balanced text ends behind a character that is no lone
backslash, and such a cut leaves a text that closes all it should, if from some depth
(`Scans.behind`).
-/

namespace LineSearch

namespace Token

/-! ## Splitting without fallbacks -/

/-- Splits a body like `splitBranches`, but refuses a `)` that closes no group, a backslash with
nothing behind it, a group left open at the end, and more than `limit` groups open at a time. -/
def splitStrictly? (limit depth : Nat) (body : Text) : Option (List Text) :=
  match body with
  | [] => if depth = 0 then some [[]] else none
  | ['\\'] => none
  | '\\' :: c :: rest =>
      (splitStrictly? limit depth rest).map fun texts => consFirst '\\' (consFirst c texts)
  | '(' :: rest =>
      if depth < limit then (splitStrictly? limit (depth + 1) rest).map (consFirst '(') else none
  | ')' :: rest =>
      match depth with
      | 0 => none
      | depth + 1 => (splitStrictly? limit depth rest).map (consFirst ')')
  | '|' :: rest =>
      if depth = 0 then (splitStrictly? limit 0 rest).map ([] :: ·)
      else (splitStrictly? limit depth rest).map (consFirst '|')
  | c :: rest => (splitStrictly? limit depth rest).map (consFirst c)

/-- Where a body is split without fallbacks, it is split as it would be with them. -/
theorem splitStrictly?_eq_some {limit depth : Nat} {body : Text} {texts : List Text}
    (h : splitStrictly? limit depth body = some texts) : splitBranches depth body = texts := by
  fun_induction splitStrictly? limit depth body generalizing texts with
  | case1 => exact Option.some.inj h
  | case2 | case3 | case6 | case7 => contradiction
  | case9 rest ih =>
      obtain ⟨texts, hrest, rfl⟩ := Option.map_eq_some_iff.mp h
      rw [splitBranches, if_pos rfl, ih hrest]
  | case10 depth rest hdepth ih =>
      obtain ⟨texts, hrest, rfl⟩ := Option.map_eq_some_iff.mp h
      rw [splitBranches, if_neg hdepth, ih hrest]
  | case8 rest depth ih =>
      obtain ⟨texts, hrest, rfl⟩ := Option.map_eq_some_iff.mp h
      rw [splitBranches, Nat.succ_sub_one, ih hrest]
  | case4 | case5 | case11 =>
      next ih =>
        obtain ⟨texts, hrest, rfl⟩ := Option.map_eq_some_iff.mp h
        rw [splitBranches, ih hrest] <;> assumption

/-- A body that closes what is open is split without fallbacks if no more groups can be open in it
than there may be. -/
theorem splitStrictly?_of_scans {limit depth : Nat} {body : Text} (h : Scans depth body 0)
    (hlimit : depth + body.length ≤ limit) :
    splitStrictly? limit depth body = some (splitBranches depth body) := by
  generalize hstop : 0 = stop at h
  induction h with
  | nil =>
      subst hstop
      rfl
  | pair _ ih =>
      simp only [List.length_cons] at hlimit
      rw [splitStrictly?, splitBranches, ih (by omega) hstop, Option.map_some]
  | opening _ ih =>
      simp only [List.length_cons] at hlimit
      rw [splitStrictly?, splitBranches, if_pos (by omega), ih (by omega) hstop, Option.map_some]
  | closing _ ih =>
      simp only [List.length_cons] at hlimit
      rw [splitStrictly?, splitBranches, ih (by omega) hstop, Option.map_some, Nat.add_sub_cancel]
  | @other depth stop c rest hescape hopen hclose hrest ih =>
      simp only [List.length_cons] at hlimit
      have hrest := ih (by omega) hstop
      have hnoPair : ∀ head tail, c = '\\' → rest = head :: tail → False :=
        fun _ _ hc _ => hescape hc
      by_cases hbar : c = '|'
      · subst hbar
        rw [splitStrictly?, splitBranches]
        split
        · next hdepth =>
            subst hdepth
            rw [hrest, Option.map_some]
        · rw [hrest, Option.map_some]
      · rw [splitStrictly?, splitBranches, hrest, Option.map_some]
        all_goals first | assumption | exact fun hc _ => hescape hc

/-! ## Cutting a text that scans -/

/-- Behind a character that is no backslash a scan goes on from some depth: the character is the
second half of a pair or stands alone, and so does not reach behind itself. -/
theorem Scans.behind {depth stop : Nat} {c : Char} {rest : Text} (front : Text) (hc : c ≠ '\\')
    (h : Scans depth (front ++ [c] ++ rest) stop) : ∃ inner, Scans inner rest stop := by
  rw [List.append_assoc, List.singleton_append] at h
  generalize htext : front ++ c :: rest = text at h
  -- along the scan; only a pair can be cut in the middle
  induction h generalizing front with
  | nil => simp at htext
  | @pair depth stop escaped text hscans ih =>
      match front with
      | [] => exact absurd (List.cons.inj htext).1 hc
      | [_] =>
          have htail := (List.cons.inj (List.cons.inj htext).2).2
          exact ⟨depth, htail ▸ hscans⟩
      | _ :: _ :: front => exact ih front (List.cons.inj (List.cons.inj htext).2).2
  | @opening depth stop text hscans ih =>
      cases front with
      | nil => exact ⟨depth + 1, (List.cons.inj htext).2 ▸ hscans⟩
      | cons _ front => exact ih front (List.cons.inj htext).2
  | @closing depth stop text hscans ih =>
      cases front with
      | nil => exact ⟨depth, (List.cons.inj htext).2 ▸ hscans⟩
      | cons _ front => exact ih front (List.cons.inj htext).2
  | @other depth stop head text _ _ _ hscans ih =>
      cases front with
      | nil => exact ⟨depth, (List.cons.inj htext).2 ▸ hscans⟩
      | cons _ front => exact ih front (List.cons.inj htext).2

/-- Every spelling but that of a lone backslash ends behind a character that is no backslash or
behind a pair, so what is left of a text that scans is a text that scans. -/
theorem Kind.Spelling.scans_behind {kind : Kind} {segment rest : Text} {depth : Nat}
    (h : kind.Spelling segment rest) (hscans : Scans depth (segment ++ rest) 0) :
    ∃ inner, Scans inner rest 0 := by
  cases h with
  | digit | word | blank | escaped => exact ⟨depth, scans_pair_iff.mp hscans⟩
  | any | lineStart | lineEnd | bareBracket | bareParen => exact Scans.behind [] (by decide) hscans
  | @bare c _ hc =>
      have hescape : c ≠ '\\' := by
        intro hc
        simp_all
      exact Scans.behind [] hescape hscans
  | bareBackslash => exact ⟨0, .nil⟩
  | @charClass members => exact Scans.behind ('[' :: members) (by decide) hscans
  | @negatedClass members => exact Scans.behind ('[' :: '^' :: members) (by decide) hscans
  | @group _ body => exact Scans.behind ('(' :: body) (by decide) hscans

end Token

theorem Quantifier.Mark.scans_behind {quantifier : Quantifier} {mark rest : Text} {depth : Nat}
    (h : quantifier.Mark mark rest) (hscans : Token.Scans depth (mark ++ rest) 0) :
    ∃ inner, Token.Scans inner rest 0 := by
  cases h with
  | once => exact ⟨depth, hscans⟩
  | optional | repeated => exact Token.Scans.behind [] (by decide) hscans

theorem Spells.scans_of_mem_readings {tokens : List Token} {pattern : Text} {depth : Nat}
    (h : Spells tokens pattern) (hscans : Token.Scans depth pattern 0) :
    ∀ text ∈ readings pattern, ∃ inner, Token.Scans inner text 0 := by
  induction h generalizing depth with
  | nil => simp [readings]
  | cons hspelling hmark hrest ih =>
      intro text hmem
      rw [readings_append hspelling hmark] at hmem
      rcases List.mem_cons.mp hmem with rfl | hlater
      · exact ⟨depth, hscans⟩
      · obtain ⟨middle, hmiddle⟩ := hspelling.scans_behind hscans
        obtain ⟨inner, hinner⟩ := hmark.scans_behind hmiddle
        exact ih hinner text hlater

/-! ## Stray characters -/

namespace Token

/-- Where more groups are open than a body may leave open, and all are closed in the end, the `)`
that ends the body is found. -/
theorem isSome_groupBody?_of_scans {inner depth : Nat} {text : Text} (h : Scans depth text 0)
    (hinner : inner < depth) : (groupBody? inner text).isSome = true := by
  generalize hstop : 0 = stop at h
  induction h generalizing inner with
  | nil => omega
  | pair _ ih => simpa [groupBody?] using ih hinner hstop
  | opening _ ih => simpa [groupBody?] using ih (Nat.succ_lt_succ hinner) hstop
  | closing _ ih =>
      cases inner with
      | zero => simp [groupBody?]
      | succ inner => simpa [groupBody?] using ih (Nat.lt_of_succ_lt_succ hinner) hstop
  | other hescape hopen hclose _ ih =>
      simpa [groupBody?, hescape, hopen, hclose] using ih hinner hstop

/-- Whether a token read off the text is an ordinary character only because nothing else can be made
of it: a `(` that nothing closes, or a backslash with nothing behind it. -/
def isStray : Text → Bool
  | ['\\'] => true
  | '(' :: rest => (groupBody? 0 rest).isNone
  | _ => false

theorem isStray_of_scans {depth : Nat} {text : Text} (h : Scans depth text 0) :
    isStray text = false := by
  unfold isStray
  split
  · cases h with
    | other hescape => contradiction
  · next rest =>
      have hfound := isSome_groupBody?_of_scans (scans_opening_iff.mp h) (Nat.succ_pos depth)
      simpa using hfound
  · rfl

end Token

/-- Reading a balanced text comes to no stray character. -/
theorem isStray_of_balanced {text : Text} (h : Token.Balanced text) :
    ∀ reading ∈ readings text, Token.isStray reading = false := by
  intro reading hmem
  obtain ⟨depth, hscans⟩ := (spells_tokenize text).scans_of_mem_readings h reading hmem
  exact Token.isStray_of_scans hscans

/-! ## Branches -/

theorem Spells.balanced_branch {tokens : List Token} {pattern : Text} (h : Spells tokens pattern) :
    ∀ token ∈ tokens, ∀ branch ∈ token.branches, Token.Balanced branch := by
  induction h with
  | nil => simp
  | @cons kind quantifier tokens segment mark rest hspelling hmark hrest ih =>
      rw [List.forall_mem_cons]
      constructor
      · intro branch hbranch
        generalize mark ++ rest = behind at hspelling
        cases hspelling with
        | group _ hdivides => exact hdivides.balanced branch hbranch
        | _ => simp [Token.branches] at hbranch
      · exact ih

theorem balanced_of_nested {tokens : List Token} {branch : Text} (h : Nested tokens branch) :
    ∀ pattern, tokens = tokenize pattern → Token.Balanced branch := by
  induction h with
  | branch hmem hbranch =>
      rintro pattern rfl
      exact (spells_tokenize pattern).balanced_branch _ hmem _ hbranch
  | inner _ _ _ ih => exact fun _ _ => ih _ rfl

/-- Every branch of a group, however deep it lies, is balanced, so reading it makes an ordinary
character neither of a `(` that nothing closes nor of a backslash with nothing behind it, whatever
its classes hold. And whenever the body of a group is split, nothing is closed that was not opened,
nothing is left open and every backslash has its character: splitting that refuses all of these
comes to the same branches. -/
theorem nested_branches_take_no_fallback (pattern : Text) :
    (∀ branch, Nested (tokenize pattern) branch →
      Token.Balanced branch ∧ ∀ text ∈ readings branch, Token.isStray text = false) ∧
    ∀ rest body after, '(' :: rest ∈ readings pattern →
      Token.groupBody? 0 rest = some (body, after) →
        Token.splitStrictly? body.length 0 body = some (Token.splitBranches 0 body) := by
  constructor
  · intro branch hnested
    have hbalanced := balanced_of_nested hnested pattern rfl
    exact ⟨hbalanced, isStray_of_balanced hbalanced⟩
  · intro rest body after _ hread
    exact Token.splitStrictly?_of_scans (Token.scans_of_groupBody? hread) (by omega)

/-- In `([(\](x))|y)` the class of the first branch holds a parenthesis and a backslash that the
scan for the end of the group counted; behind it a group is read and then a bare `)`. -/
theorem nested_branches_take_no_fallback_of_class :
    Nested (tokenize ['(', '[', '(', '\\', ']', '(', 'x', ')', ')', '|', 'y', ')'])
        ['[', '(', '\\', ']', '(', 'x', ')', ')'] ∧
      Token.Balanced ['[', '(', '\\', ']', '(', 'x', ')', ')'] ∧
      (∀ text ∈ readings ['[', '(', '\\', ']', '(', 'x', ')', ')'], Token.isStray text = false) ∧
      ['(', '[', '(', '\\', ']', '(', 'x', ')', ')', '|', 'y', ')'] ∈
        readings ['(', '[', '(', '\\', ']', '(', 'x', ')', ')', '|', 'y', ')'] ∧
      Token.groupBody? 0 ['[', '(', '\\', ']', '(', 'x', ')', ')', '|', 'y', ')'] =
        some (['[', '(', '\\', ']', '(', 'x', ')', ')', '|', 'y'], []) ∧
      Token.splitStrictly? 10 0 ['[', '(', '\\', ']', '(', 'x', ')', ')', '|', 'y'] =
        some [['[', '(', '\\', ']', '(', 'x', ')', ')'], ['y']] := by
  have hgroup : ⟨.group [['[', '(', '\\', ']', '(', 'x', ')', ')'], ['y']], .once⟩ ∈
      tokenize ['(', '[', '(', '\\', ']', '(', 'x', ')', ')', '|', 'y', ')'] := by decide +kernel
  have hnested := Nested.branch hgroup List.mem_cons_self
  have hreading : ['(', '[', '(', '\\', ']', '(', 'x', ')', ')', '|', 'y', ')'] ∈
      readings ['(', '[', '(', '\\', ']', '(', 'x', ')', ')', '|', 'y', ')'] := by decide +kernel
  have hbody : Token.groupBody? 0 ['[', '(', '\\', ']', '(', 'x', ')', ')', '|', 'y', ')'] =
      some (['[', '(', '\\', ']', '(', 'x', ')', ')', '|', 'y'], []) := by decide
  obtain ⟨hbranches, hsplit⟩ := nested_branches_take_no_fallback
    ['(', '[', '(', '\\', ']', '(', 'x', ')', ')', '|', 'y', ')']
  obtain ⟨hbalanced, hreadings⟩ := hbranches _ hnested
  exact ⟨hnested, hbalanced, hreadings, hreading, hbody, hsplit _ _ _ hreading hbody⟩

end LineSearch
