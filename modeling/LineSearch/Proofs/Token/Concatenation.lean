import LineSearch.Proofs.Token.Grammar
import Mathlib.Algebra.Ring.Parity
import Mathlib.Data.List.DropRight

/-!
# Patterns one behind the other

Reading looks ahead: for the character behind a backslash, for the mark of a quantifier and for what
closes a bracket, however far away. So a text put behind a pattern can change what the pattern is
read as. It cannot where the boundary between them is clean (`CleanBoundary`), and then the tokens
of both texts are those of the one and those of the other (`tokenize_append_of_cleanBoundary`).
Whether a backslash is left without a character is told by how many there are in a row at the end of
the pattern, whatever brackets stand in front of them (`lone_backslash_mem_readings_iff`).
-/

namespace LineSearch

/-! ## Where tokens are read -/

/-- The texts that tokens are read off the front of: the pattern, and what each token but the last
leaves of it. -/
def readings (pattern : Text) : List Text :=
  match pattern with
  | [] => []
  | c :: rest => (c :: rest) :: readings (Token.readQuantifier (Token.readKind c rest).2).2
termination_by pattern.length
decreasing_by
  have hkind := Token.length_readKind_le c rest
  have hquantifier := Token.length_readQuantifier_le (Token.readKind c rest).2
  simp only [List.length_cons]
  omega

/-- There is a reading for each token, and the token is the first that is read off it. -/
theorem map_readings (pattern : Text) :
    (readings pattern).map (fun text => (tokenize text).head?) = (tokenize pattern).map some := by
  fun_induction readings pattern with
  | case1 => rw [tokenize_nil, List.map_nil, List.map_nil]
  | case2 c rest ih => rw [List.map_cons, ih, tokenize_cons, List.head?_cons, List.map_cons]

theorem readings_append {kind : Token.Kind} {quantifier : Quantifier} {segment mark rest : Text}
    (hspelling : kind.Spelling segment (mark ++ rest)) (hmark : quantifier.Mark mark rest) :
    readings (segment ++ (mark ++ rest)) = (segment ++ (mark ++ rest)) :: readings rest := by
  obtain ⟨c, text, htext, hread⟩ := Token.readKind_of_spelling hspelling
  rw [htext, readings, hread, Token.readQuantifier_of_mark hmark]

def isUnclosed : Text → Bool
  | '[' :: rest => (Token.classBody? rest).isNone
  | '(' :: rest => (Token.groupBody? 0 rest).isNone
  | _ => false

/-! ## Backslashes at the end -/

def trailingBackslashes (text : Text) : Nat :=
  (text.rtakeWhile (· == '\\')).length

/-- Whether a backslash waits for its character behind the text, given whether one does in front of
it. -/
def escapePending (pending : Bool) (text : Text) : Bool :=
  text.foldl (fun pending c => c == '\\' && !pending) pending

theorem escapePending_append (pending : Bool) (front back : Text) :
    escapePending pending (front ++ back) = escapePending (escapePending pending front) back :=
  List.foldl_append

theorem escapePending_concat (pending : Bool) (text : Text) (c : Char) :
    escapePending pending (text ++ [c]) = (c == '\\' && !escapePending pending text) :=
  List.foldl_concat _ _ _ _

theorem escapePending_eq_true_iff (text : Text) :
    escapePending false text = true ↔ Odd (trailingBackslashes text) := by
  induction text using List.reverseRecOn with
  | nil => simp [escapePending, trailingBackslashes]
  | append_singleton text c ih =>
      rw [escapePending_concat, trailingBackslashes]
      by_cases hc : c = '\\'
      · rw [List.rtakeWhile_concat_pos _ _ _ (by simp [hc]), List.length_append,
          List.length_singleton, Nat.odd_add_one, ← trailingBackslashes, ← ih]
        simp [hc]
      · rw [List.rtakeWhile_concat_neg _ _ _ (by simp [hc])]
        simp [hc]

/-- Only a lone backslash spells a token and waits for a character. -/
theorem Token.Kind.Spelling.escapePending_append {kind : Token.Kind} {segment rest : Text}
    (h : kind.Spelling segment rest) (hescape : segment ++ rest ≠ ['\\']) :
    escapePending false (segment ++ rest) = escapePending false rest := by
  have hsegment : escapePending false segment = false := by
    cases h with
    | bareBackslash => contradiction
    | @bare c _ hc =>
        simp only [List.mem_cons, not_or] at hc
        simp [escapePending, hc]
    | @escaped c => simp [escapePending]
    | @charClass members => exact escapePending_concat false ('[' :: members) ']'
    | @negatedClass members => exact escapePending_concat false ('[' :: '^' :: members) ']'
    | @group _ body => exact escapePending_concat false ('(' :: body) ')'
    | _ => rfl
  rw [LineSearch.escapePending_append, hsegment]

theorem Quantifier.Mark.escapePending_append {quantifier : Quantifier} {mark rest : Text}
    (h : quantifier.Mark mark rest) :
    escapePending false (mark ++ rest) = escapePending false rest := by
  cases h with
  | _ => rfl

theorem Spells.lone_backslash_mem_readings_iff_escapePending {tokens : List Token} {pattern : Text}
    (h : Spells tokens pattern) :
    ['\\'] ∈ readings pattern ↔ escapePending false pattern = true := by
  induction h with
  | nil => simp [readings, escapePending]
  | @cons kind quantifier tokens segment mark rest hspelling hmark _ ih =>
      -- no token but a lone backslash leaves one waiting for what is read behind it
      rw [readings_append hspelling hmark, List.mem_cons]
      by_cases hlone : segment ++ (mark ++ rest) = ['\\']
      · rw [hlone]
        simp [escapePending]
      · rw [hspelling.escapePending_append hlone, hmark.escapePending_append, ← ih]
        simp [Ne.symm hlone]

/-- Reading comes to a backslash with nothing behind it exactly if the pattern ends in an odd number
of them. -/
theorem lone_backslash_mem_readings_iff (pattern : Text) :
    ['\\'] ∈ readings pattern ↔ Odd (trailingBackslashes pattern) := by
  rw [(spells_tokenize pattern).lone_backslash_mem_readings_iff_escapePending,
    escapePending_eq_true_iff]

/-! ## A text put behind -/

/-- A kind is spelled alike before a longer text if no backslash waits for a character and a bracket
that is read as a character stays unclosed. -/
theorem Token.Kind.Spelling.append {kind : Token.Kind} {segment rest back : Text}
    (h : kind.Spelling segment rest) (hescape : segment ++ rest ≠ ['\\'])
    (hbrackets : (']' ∉ back ∧ ')' ∉ back) ∨ isUnclosed (segment ++ rest) = false) :
    kind.Spelling segment (rest ++ back) := by
  cases h with
  | bareBackslash => contradiction
  | bareBracket hrest =>
      rcases hbrackets with hback | hclosed
      · exact .bareBracket (by simp [hrest, hback.1])
      · simp [isUnclosed, (classBody?_eq_none_iff rest).mpr hrest] at hclosed
  | bareParen hrest =>
      rcases hbrackets with hback | hclosed
      · refine .bareParen ?_
        intro body after hsplit
        -- the closing parenthesis would stand in one of the two texts
        rcases List.append_eq_append_iff.mp hsplit with ⟨more, _, hmore⟩ | ⟨more, hmore, hafter⟩
        · exact absurd (by simp [hmore]) hback.2
        · cases more with
          | nil =>
              obtain rfl : ')' :: after = back := hafter
              exact absurd List.mem_cons_self hback.2
          | cons c more =>
              obtain ⟨rfl, rfl⟩ := List.cons.inj hafter
              exact hrest body more hmore
      · simp [isUnclosed, (groupBody?_eq_none_iff rest).mpr hrest] at hclosed
  | escaped hdigit hword hblank => exact .escaped hdigit hword hblank
  | bare hc => exact .bare hc
  | charClass hmembers hhead => exact .charClass hmembers hhead
  | negatedClass hmembers => exact .negatedClass hmembers
  | group hbody hdivides => exact .group hbody hdivides
  | _ => constructor

/-- Only a quantifier without a mark, and only at the end, takes one from the text put behind. -/
theorem Quantifier.Mark.append {quantifier : Quantifier} {mark rest back : Text}
    (h : quantifier.Mark mark rest) (hback : rest = [] → quantifier = .once → Unmarked back) :
    quantifier.Mark mark (rest ++ back) := by
  cases h with
  | once hrepeated hoptional =>
      cases rest with
      | nil =>
          have hunmarked := hback rfl rfl
          exact .once hunmarked.1 hunmarked.2
      | cons c rest => exact .once hrepeated hoptional
  | optional => exact .optional
  | repeated => exact .repeated

theorem Spells.ne_nil {token : Token} {tokens : List Token} {pattern : Text}
    (h : Spells (token :: tokens) pattern) : pattern ≠ [] := by
  cases h with
  | cons hspelling =>
      obtain ⟨c, text, htext, _⟩ := Token.readKind_of_spelling hspelling
      rw [htext]
      exact List.cons_ne_nil c text

/-- What a pattern is read as stays, token by token, before a text that gives no backslash a
character, no token a mark and no bracket an end. -/
theorem Spells.tokenize_append {tokens : List Token} {front back : Text} (h : Spells tokens front)
    (hescape : ['\\'] ∉ readings front)
    (hmark : Unmarked back ∨
      ∀ token, tokens.getLast? = some token → token.quantifier ≠ .once)
    (hbrackets : (']' ∉ back ∧ ')' ∉ back) ∨ ∀ text ∈ readings front, isUnclosed text = false) :
    tokenize (front ++ back) = tokens ++ tokenize back := by
  induction h with
  | nil => rfl
  | @cons kind quantifier tokens segment mark rest hspelling hquantifier hrest ih =>
      rw [readings_append hspelling hquantifier] at hescape hbrackets
      rw [List.mem_cons, not_or] at hescape
      rw [List.forall_mem_cons] at hbrackets
      have hkind : kind.Spelling segment (mark ++ (rest ++ back)) := by
        rw [← List.append_assoc]
        exact hspelling.append (Ne.symm hescape.1) (hbrackets.imp_right And.left)
      have hlast : rest = [] → quantifier = .once → Unmarked back := by
        intro hempty honce
        cases tokens with
        | nil => exact hmark.resolve_right fun hmarked => hmarked _ rfl honce
        | cons => exact absurd hempty hrest.ne_nil
      have htail : tokenize (rest ++ back) = tokens ++ tokenize back := by
        apply ih hescape.2
        · refine hmark.imp_right fun hmarked token htoken => hmarked token ?_
          rw [List.getLast?_cons, htoken, Option.getD_some]
        · exact hbrackets.imp_right And.right
      rw [List.append_assoc, List.append_assoc,
        tokenize_spelling_mark hkind (hquantifier.append hlast), htail, List.cons_append]

/-! ## Clean boundaries -/

/-- Nothing that is read in front of the boundary between two texts reaches behind it. -/
structure CleanBoundary (front back : Text) : Prop where
  escapes : Even (trailingBackslashes front)
  marks : Unmarked back ∨ front = [] ∨
    ∃ token, (tokenize front).getLast? = some token ∧ token.quantifier ≠ .once
  brackets : (']' ∉ back ∧ ')' ∉ back) ∨ ∀ text ∈ readings front, isUnclosed text = false

/-- Where the boundary between two texts is clean, they are read as if each stood alone. -/
theorem tokenize_append_of_cleanBoundary {front back : Text} (h : CleanBoundary front back) :
    tokenize (front ++ back) = tokenize front ++ tokenize back := by
  have hescape : ['\\'] ∉ readings front := by
    rw [lone_backslash_mem_readings_iff, Nat.not_odd_iff_even]
    exact h.escapes
  have hmark : Unmarked back ∨
      ∀ token, (tokenize front).getLast? = some token → token.quantifier ≠ .once := by
    rcases h.marks with hback | rfl | ⟨last, hlast, hmarked⟩
    · exact .inl hback
    · rw [tokenize_nil]
      exact .inr nofun
    · rw [hlast]
      exact .inr fun token htoken => Option.some.inj htoken ▸ hmarked
  exact (spells_tokenize front).tokenize_append hescape hmark h.brackets

/-- Behind `(\)|a)+[^(]\\`, where both brackets are closed and the backslashes at the end are a
pair, a `)` and a `]` are read as the ordinary characters that they are alone. -/
theorem tokenize_append_of_closed_brackets :
    CleanBoundary ['(', '\\', ')', '|', 'a', ')', '+', '[', '^', '(', ']', '\\', '\\']
        [')', ']', '?'] ∧
      tokenize ['(', '\\', ')', '|', 'a', ')', '+', '[', '^', '(', ']', '\\', '\\', ')', ']', '?'] =
        tokenize ['(', '\\', ')', '|', 'a', ')', '+', '[', '^', '(', ']', '\\', '\\'] ++
          tokenize [')', ']', '?'] := by
  have hclean : CleanBoundary
      ['(', '\\', ')', '|', 'a', ')', '+', '[', '^', '(', ']', '\\', '\\'] [')', ']', '?'] :=
    ⟨by decide, .inl ⟨by decide, by decide⟩, .inr (by decide +kernel)⟩
  exact ⟨hclean, tokenize_append_of_cleanBoundary hclean⟩

end LineSearch
