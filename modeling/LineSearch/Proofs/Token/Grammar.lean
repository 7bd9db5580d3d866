import LineSearch.Proofs.Token.Balance
import LineSearch.Token.Reading

/-!
# The grammar of patterns

A pattern is the spellings of its tokens in order, each followed by the mark of its quantifier. What
a spelling is may depend on the text behind it: a bracket spells itself only if nothing behind it
closes it, and a token without a mark is not in front of one. Reading finds the only tokens that
spell the pattern (`spells_iff_eq_tokenize`).
-/

namespace LineSearch

namespace Token

/-- The segment is a spelling of the kind where the given text follows. -/
inductive Kind.Spelling : Kind → Text → Text → Prop
  | digit {rest : Text} : Spelling (.shorthand .digit) ['\\', 'd'] rest
  | word {rest : Text} : Spelling (.shorthand .word) ['\\', 'w'] rest
  | blank {rest : Text} : Spelling (.shorthand .blank) ['\\', 's'] rest
  | any {rest : Text} : Spelling (.shorthand .any) ['.'] rest
  | lineStart {rest : Text} : Spelling (.anchor .lineStart) ['^'] rest
  | lineEnd {rest : Text} : Spelling (.anchor .lineEnd) ['$'] rest
  | escaped {c : Char} {rest : Text} :
      c ≠ 'd' → c ≠ 'w' → c ≠ 's' → Spelling (.literal c) ['\\', c] rest
  | bare {c : Char} {rest : Text} :
      c ∉ ['.', '^', '$', '\\', '[', '('] → Spelling (.literal c) [c] rest
  | bareBackslash : Spelling (.literal '\\') ['\\'] []
  | bareBracket {rest : Text} : ']' ∉ rest → Spelling (.literal '[') ['['] rest
  | bareParen {rest : Text} :
      (∀ body after, rest = body ++ ')' :: after → ¬ Balanced body) →
        Spelling (.literal '(') ['('] rest
  | charClass {members rest : Text} : ']' ∉ members → members.head? ≠ some '^' →
      Spelling (.charClass members false) ('[' :: (members ++ [']'])) rest
  | negatedClass {members rest : Text} : ']' ∉ members →
      Spelling (.charClass members true) ('[' :: '^' :: (members ++ [']'])) rest
  | group {branches : List Text} {body rest : Text} : Balanced body → Divides branches body →
      Spelling (.group branches) ('(' :: (body ++ [')'])) rest

end Token

inductive Quantifier.Mark : Quantifier → Text → Text → Prop
  | once {rest : Text} : rest.head? ≠ some '+' → rest.head? ≠ some '?' → Mark .once [] rest
  | optional {rest : Text} : Mark .optional ['?'] rest
  | repeated {rest : Text} : Mark .repeated ['+'] rest

def Unmarked (text : Text) : Prop :=
  text.head? ≠ some '+' ∧ text.head? ≠ some '?'

inductive Spells : List Token → Text → Prop
  | nil : Spells [] []
  | cons {kind : Token.Kind} {quantifier : Quantifier} {tokens : List Token}
      {segment mark rest : Text} :
      kind.Spelling segment (mark ++ rest) → quantifier.Mark mark rest → Spells tokens rest →
        Spells (⟨kind, quantifier⟩ :: tokens) (segment ++ (mark ++ rest))

namespace Token

/-! ## Classes -/

/-- The body of a class ends at the first `]`. -/
theorem classBody?_eq_some_iff (text body rest : Text) :
    classBody? text = some (body, rest) ↔ text = body ++ ']' :: rest ∧ ']' ∉ body := by
  constructor
  · intro h
    refine ⟨append_of_classBody? h, ?_⟩
    fun_induction classBody? text generalizing body with
    | case1 => contradiction
    | case2 text =>
        cases h
        exact List.not_mem_nil
    | case3 c text hc ih =>
        obtain ⟨⟨inner, after⟩, hread, hparts⟩ := Option.map_eq_some_iff.mp h
        cases hparts
        exact List.not_mem_cons_of_ne_of_not_mem (Ne.symm hc) (ih inner hread)
  · rintro ⟨rfl, hbody⟩
    induction body with
    | nil => rfl
    | cons c body ih =>
        obtain ⟨hc, hbody⟩ := List.ne_and_not_mem_of_not_mem_cons hbody
        rw [List.cons_append, classBody?, ih hbody, Option.map_some]
        exact Ne.symm hc

theorem classBody?_eq_none_iff (text : Text) : classBody? text = none ↔ ']' ∉ text := by
  fun_induction classBody? text with
  | case1 => simp
  | case2 text => simp
  | case3 c text hc ih => simp [ih, Ne.symm hc]

theorem charClass_or_negatedClass {body : Text} (hbody : ']' ∉ body) (rest : Text) :
    (Kind.ofClassBody body).Spelling ('[' :: (body ++ [']'])) rest := by
  unfold Kind.ofClassBody
  split
  · next members =>
      exact .negatedClass (List.not_mem_of_not_mem_cons hbody)
  · next hplain =>
      refine .charClass hbody ?_
      intro hhead
      cases body with
      | nil => contradiction
      | cons head members => exact hplain members (congrArg (· :: members) (Option.some.inj hhead))

/-! ## Kinds -/

theorem spelling_readKind (c : Char) (rest : Text) :
    ∃ segment, c :: rest = segment ++ (readKind c rest).2 ∧
      (readKind c rest).1.Spelling segment (readKind c rest).2 := by
  unfold readKind
  split
  · split
    · exact ⟨['\\'], rfl, .bareBackslash⟩
    · next escaped rest =>
        refine ⟨['\\', escaped], rfl, ?_⟩
        unfold Kind.ofEscaped
        split
        · exact .digit
        · exact .word
        · exact .blank
        · next hdigit hword hblank => exact .escaped hdigit hword hblank
  · split
    · next body after hread =>
        obtain ⟨rfl, hbody⟩ := (classBody?_eq_some_iff ..).mp hread
        exact ⟨'[' :: (body ++ [']']), by simp, charClass_or_negatedClass hbody after⟩
    · next hread =>
        exact ⟨['['], rfl, .bareBracket ((classBody?_eq_none_iff rest).mp hread)⟩
  · split
    · next body after hread =>
        obtain ⟨rfl, hbody⟩ := (groupBody?_eq_some_iff ..).mp hread
        have hdivides := (splitBranches_eq_iff hbody _).mp rfl
        exact ⟨'(' :: (body ++ [')']), by simp, .group hbody hdivides⟩
    · next hread =>
        exact ⟨['('], rfl, .bareParen ((groupBody?_eq_none_iff rest).mp hread)⟩
  · exact ⟨['.'], rfl, .any⟩
  · exact ⟨['^'], rfl, .lineStart⟩
  · exact ⟨['$'], rfl, .lineEnd⟩
  · next hescape hbracket hparen hany hstart hend =>
      have hbare : c ∉ ['.', '^', '$', '\\', '[', '('] := by
        simp only [List.mem_cons, List.not_mem_nil, or_false, not_or]
        exact ⟨hany, hstart, hend, hescape, hbracket, hparen⟩
      exact ⟨[c], rfl, .bare hbare⟩

theorem readKind_of_spelling {kind : Kind} {segment rest : Text} (h : kind.Spelling segment rest) :
    ∃ c text, segment ++ rest = c :: text ∧ readKind c text = (kind, rest) := by
  cases h with
  | digit | word | blank | any | lineStart | lineEnd | bareBackslash => exact ⟨_, _, rfl, rfl⟩
  | @escaped c _ hdigit hword hblank =>
      refine ⟨_, _, rfl, ?_⟩
      simp [readKind, Kind.ofEscaped]
  | @bare c _ hc =>
      refine ⟨_, _, rfl, ?_⟩
      simp only [List.mem_cons, not_or] at hc
      simp [readKind, hc]
  | bareBracket hrest =>
      refine ⟨_, _, rfl, ?_⟩
      simp [readKind, (classBody?_eq_none_iff rest).mpr hrest]
  | bareParen hrest =>
      refine ⟨_, _, rfl, ?_⟩
      simp [readKind, (groupBody?_eq_none_iff rest).mpr hrest]
  | @charClass members _ hmembers hhead =>
      have hread :=
        (classBody?_eq_some_iff (members ++ ']' :: rest) members rest).mpr ⟨rfl, hmembers⟩
      have hplain : Kind.ofClassBody members = .charClass members false := by
        unfold Kind.ofClassBody
        split
        · contradiction
        · rfl
      refine ⟨'[', members ++ ']' :: rest, by simp, ?_⟩
      simp [readKind, hread, hplain]
  | @negatedClass members _ hmembers =>
      have hread :=
        (classBody?_eq_some_iff ('^' :: (members ++ ']' :: rest)) ('^' :: members) rest).mpr
          ⟨rfl, by simp [hmembers]⟩
      refine ⟨'[', '^' :: (members ++ ']' :: rest), by simp, ?_⟩
      simp [readKind, hread, Kind.ofClassBody]
  | @group branches body _ hbody hdivides =>
      have hread := (groupBody?_eq_some_iff (body ++ ')' :: rest) body rest).mpr ⟨rfl, hbody⟩
      refine ⟨'(', body ++ ')' :: rest, by simp, ?_⟩
      simp [readKind, hread, (splitBranches_eq_iff hbody branches).mpr hdivides]

/-! ## Marks -/

theorem mark_readQuantifier (text : Text) :
    ∃ mark, text = mark ++ (readQuantifier text).2 ∧
      (readQuantifier text).1.Mark mark (readQuantifier text).2 := by
  unfold readQuantifier
  split
  · exact ⟨['+'], rfl, .repeated⟩
  · exact ⟨['?'], rfl, .optional⟩
  · next hrepeated hoptional =>
      refine ⟨[], rfl, .once ?_ ?_⟩
      · intro hhead
        obtain ⟨rest, rfl⟩ := List.head?_eq_some_iff.mp hhead
        exact hrepeated rest rfl
      · intro hhead
        obtain ⟨rest, rfl⟩ := List.head?_eq_some_iff.mp hhead
        exact hoptional rest rfl

theorem readQuantifier_of_mark {quantifier : Quantifier} {mark rest : Text}
    (h : quantifier.Mark mark rest) : readQuantifier (mark ++ rest) = (quantifier, rest) := by
  cases h with
  | optional | repeated => rfl
  | once hrepeated hoptional =>
      rw [List.nil_append]
      unfold readQuantifier
      split
      · contradiction
      · contradiction
      · rfl

end Token

/-! ## Patterns -/

theorem spells_tokenize (pattern : Text) : Spells (tokenize pattern) pattern := by
  fun_induction tokenize pattern with
  | case1 => exact .nil
  | case2 c rest kindRead quantifierRead ih =>
      obtain ⟨segment, hsegment, hspelling⟩ := Token.spelling_readKind c rest
      obtain ⟨mark, hmark, hquantifier⟩ := Token.mark_readQuantifier (Token.readKind c rest).2
      rw [hsegment, hmark]
      rw [hmark] at hspelling
      exact .cons hspelling hquantifier ih

theorem spells_iff_eq_tokenize (tokens : List Token) (pattern : Text) :
    Spells tokens pattern ↔ tokens = tokenize pattern := by
  constructor
  · intro h
    induction h with
    | nil => rw [tokenize_nil]
    | cons hspelling hmark hrest ih =>
        obtain ⟨c, text, htext, hread⟩ := Token.readKind_of_spelling hspelling
        rw [htext, tokenize_cons, hread, Token.readQuantifier_of_mark hmark, ← ih]
  · rintro rfl
    exact spells_tokenize pattern

/-- The text behind a token is read on its own. -/
theorem tokenize_spelling_mark {kind : Token.Kind} {quantifier : Quantifier}
    {segment mark rest : Text} (hspelling : kind.Spelling segment (mark ++ rest))
    (hmark : quantifier.Mark mark rest) :
    tokenize (segment ++ (mark ++ rest)) = ⟨kind, quantifier⟩ :: tokenize rest := by
  obtain ⟨c, text, htext, hread⟩ := Token.readKind_of_spelling hspelling
  rw [htext, tokenize_cons, hread, Token.readQuantifier_of_mark hmark]

theorem tokenize_spelling_append {kind : Token.Kind} {segment rest : Text}
    (hspelling : kind.Spelling segment rest) (hrest : Unmarked rest) :
    tokenize (segment ++ rest) = ⟨kind, .once⟩ :: tokenize rest := by
  have hmark : Quantifier.Mark .once [] rest := .once hrest.1 hrest.2
  exact tokenize_spelling_mark hspelling hmark

end LineSearch
