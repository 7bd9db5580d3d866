import LineSearch.Token.Bracketed

/-!
# Balanced texts

A text is balanced if its groups are closed in order and no lone backslash ends it, where a
backslash and the character behind it count as one opaque pair. The body of a group is the balanced
text in front of the `)` that closes it (`groupBody?_eq_some_iff`), and its branches are the
balanced texts without a bar outside of groups that give the body again when bars are put between
them (`splitBranches_eq_iff`).
-/

namespace LineSearch.Token

/-! ## Depth -/

/-- Where `depth` groups are open in front of the text, `stop` are open behind it. No rule covers a
`)` that closes no group or a lone backslash at the end. -/
inductive Scans : Nat → Text → Nat → Prop
  | nil {depth : Nat} : Scans depth [] depth
  | pair {depth stop : Nat} {c : Char} {rest : Text} :
      Scans depth rest stop → Scans depth ('\\' :: c :: rest) stop
  | opening {depth stop : Nat} {rest : Text} :
      Scans (depth + 1) rest stop → Scans depth ('(' :: rest) stop
  | closing {depth stop : Nat} {rest : Text} :
      Scans depth rest stop → Scans (depth + 1) (')' :: rest) stop
  | other {depth stop : Nat} {c : Char} {rest : Text} :
      c ≠ '\\' → c ≠ '(' → c ≠ ')' → Scans depth rest stop → Scans depth (c :: rest) stop

/-- Every group that is opened is closed, none else is, and no lone backslash ends the text. -/
def Balanced (text : Text) : Prop :=
  Scans 0 text 0

/-- No bar stands outside of groups, if `depth` of them are open in front. A text in front of a bar
that ends in the first half of a pair does not scan, so a bar in a pair does not count. -/
def Undivided (depth : Nat) (text : Text) : Prop :=
  ∀ before after, text = before ++ '|' :: after → ¬ Scans depth before 0

theorem scans_pair_iff {depth stop : Nat} {c : Char} {rest : Text} :
    Scans depth ('\\' :: c :: rest) stop ↔ Scans depth rest stop := by
  constructor
  · intro h
    cases h with
    | pair h => exact h
    | other hescape => contradiction
  · exact .pair

theorem scans_opening_iff {depth stop : Nat} {rest : Text} :
    Scans depth ('(' :: rest) stop ↔ Scans (depth + 1) rest stop := by
  constructor
  · intro h
    cases h with
    | opening h => exact h
    | other _ hopen => contradiction
  · exact .opening

theorem scans_closing_iff {depth stop : Nat} {rest : Text} :
    Scans (depth + 1) (')' :: rest) stop ↔ Scans depth rest stop := by
  constructor
  · intro h
    cases h with
    | closing h => exact h
    | other _ _ hclose => contradiction
  · exact .closing

theorem scans_other_iff {depth stop : Nat} {c : Char} {rest : Text} (hescape : c ≠ '\\')
    (hopen : c ≠ '(') (hclose : c ≠ ')') : Scans depth (c :: rest) stop ↔ Scans depth rest stop := by
  constructor
  · intro h
    cases h with
    | other _ _ _ h => exact h
    | pair | opening | closing => contradiction
  · exact .other hescape hopen hclose

/-! ## The body of a group -/

theorem groupBody?_of_scans {depth : Nat} {body : Text} (h : Scans depth body 0) (rest : Text) :
    groupBody? depth (body ++ ')' :: rest) = some (body, rest) := by
  generalize hstop : 0 = stop at h
  induction h with
  | nil =>
      subst hstop
      simp [groupBody?]
  | pair _ ih => simp [groupBody?, ih hstop]
  | opening _ ih => simp [groupBody?, ih hstop]
  | closing _ ih => simp [groupBody?, ih hstop]
  | other hescape hopen hclose _ ih => simp [groupBody?, ih hstop, hescape]

/-- The last case of a scanner is reached by no backslash at all. -/
theorem ne_backslash_of_cases {c : Char} {rest : Text} (hlone : c = '\\' → rest = [] → False)
    (hpair : ∀ head tail, c = '\\' → rest = head :: tail → False) : c ≠ '\\' := by
  intro hc
  cases rest with
  | nil => exact hlone hc rfl
  | cons head tail => exact hpair head tail hc rfl

theorem scans_of_groupBody? {depth : Nat} {text body rest : Text}
    (h : groupBody? depth text = some (body, rest)) : Scans depth body 0 := by
  fun_induction groupBody? depth text generalizing body with
  | case1 => contradiction
  | case2 => contradiction
  | case3 depth c text ih =>
      simp only [Option.map_eq_some_iff, Prod.exists, Prod.mk.injEq] at h
      obtain ⟨inner, after, hread, rfl, rfl⟩ := h
      exact .pair (ih hread)
  | case4 depth text ih =>
      simp only [Option.map_eq_some_iff, Prod.exists, Prod.mk.injEq] at h
      obtain ⟨inner, after, hread, rfl, rfl⟩ := h
      exact .opening (ih hread)
  | case5 text =>
      cases h
      exact .nil
  | case6 text depth ih =>
      simp only [Option.map_eq_some_iff, Prod.exists, Prod.mk.injEq] at h
      obtain ⟨inner, after, hread, rfl, rfl⟩ := h
      exact .closing (ih hread)
  | case7 depth c text hlone hpair hopen hclose ih =>
      simp only [Option.map_eq_some_iff, Prod.exists, Prod.mk.injEq] at h
      obtain ⟨inner, after, hread, rfl, rfl⟩ := h
      exact .other (ne_backslash_of_cases hlone hpair) hopen hclose (ih hread)

/-- The body of a group ends at the first `)` that has a balanced text in front. -/
theorem groupBody?_eq_some_iff (text body rest : Text) :
    groupBody? 0 text = some (body, rest) ↔ text = body ++ ')' :: rest ∧ Balanced body := by
  constructor
  · intro h
    exact ⟨append_of_groupBody? h, scans_of_groupBody? h⟩
  · rintro ⟨rfl, hbody⟩
    exact groupBody?_of_scans hbody rest

theorem groupBody?_eq_none_iff (text : Text) :
    groupBody? 0 text = none ↔ ∀ body rest, text = body ++ ')' :: rest → ¬ Balanced body := by
  rw [Option.eq_none_iff_forall_not_mem]
  constructor
  · intro h body rest htext hbody
    exact h (body, rest) ((groupBody?_eq_some_iff text body rest).mpr ⟨htext, hbody⟩)
  · rintro h ⟨body, rest⟩ hread
    obtain ⟨htext, hbody⟩ := (groupBody?_eq_some_iff text body rest).mp hread
    exact h body rest htext hbody

/-! ## Branches -/

theorem Undivided.of_append {depth inner : Nat} {text : Text} (front : Text)
    (h : Undivided depth (front ++ text))
    (hscans : ∀ before, Scans inner before 0 → Scans depth (front ++ before) 0) :
    Undivided inner text := by
  rintro before after rfl hbefore
  exact h (front ++ before) after (List.append_assoc ..).symm (hscans before hbefore)

theorem consFirst_modifyHead (c : Char) (front : Text) (texts : List Text) :
    consFirst c (texts.modifyHead (front ++ ·)) = texts.modifyHead ((c :: front) ++ ·) := by
  rw [consFirst, List.modifyHead_modifyHead]
  rfl

/-- A text without a bar outside of groups goes into the first branch. -/
theorem splitBranches_append {depth : Nat} {front : Text} (hscans : Scans depth front 0)
    (hundivided : Undivided depth front) (back : Text) :
    splitBranches depth (front ++ back) = (splitBranches 0 back).modifyHead (front ++ ·) := by
  generalize hstop : 0 = stop at hscans
  induction hscans with
  | nil =>
      subst hstop
      exact (congrFun List.modifyHead_id _).symm
  | @pair depth stop c rest hrest ih =>
      have hinner := hundivided.of_append ['\\', c] fun before => .pair
      rw [List.cons_append, List.cons_append, splitBranches, ih hinner hstop,
        consFirst_modifyHead, consFirst_modifyHead]
  | opening hrest ih =>
      have hinner := hundivided.of_append ['('] fun before => .opening
      rw [List.cons_append, splitBranches, ih hinner hstop, consFirst_modifyHead]
  | closing hrest ih =>
      have hinner := hundivided.of_append [')'] fun before => .closing
      rw [List.cons_append, splitBranches, Nat.add_sub_cancel, ih hinner hstop,
        consFirst_modifyHead]
  | @other depth stop c rest hescape hopen hclose hrest ih =>
      have hinner := hundivided.of_append [c] fun before => .other hescape hopen hclose
      by_cases hbar : c = '|'
      · subst hbar
        have hdepth : depth ≠ 0 := by
          rintro rfl
          exact hundivided [] rest rfl .nil
        rw [List.cons_append, splitBranches, if_neg hdepth, ih hinner hstop, consFirst_modifyHead]
      · rw [List.cons_append, splitBranches, ih hinner hstop, consFirst_modifyHead]
        · exact fun hc _ => hescape hc
        · exact fun _ _ hc _ => hescape hc
        · exact hopen
        · exact hclose
        · exact hbar

/-- The branches are the parts of the body between the bars outside of its groups. -/
structure Divides (branches : List Text) (body : Text) : Prop where
  intercalate : ['|'].intercalate branches = body
  ne_nil : branches ≠ []
  balanced : ∀ branch ∈ branches, Balanced branch
  undivided : ∀ branch ∈ branches, Undivided 0 branch

theorem splitBranches_intercalate {branches : List Text} (hne : branches ≠ [])
    (hbalanced : ∀ branch ∈ branches, Balanced branch)
    (hundivided : ∀ branch ∈ branches, Undivided 0 branch) :
    splitBranches 0 (['|'].intercalate branches) = branches := by
  induction branches with
  | nil => contradiction
  | cons first rest ih =>
      obtain ⟨hfirstBalanced, hrestBalanced⟩ := List.forall_mem_cons.mp hbalanced
      obtain ⟨hfirstUndivided, hrestUndivided⟩ := List.forall_mem_cons.mp hundivided
      have hfirst := splitBranches_append hfirstBalanced hfirstUndivided
      cases rest with
      | nil =>
          rw [List.intercalate_singleton, ← List.append_nil first, hfirst]
          simp [splitBranches]
      | cons second rest =>
          have hrest := ih (List.cons_ne_nil second rest) hrestBalanced hrestUndivided
          rw [List.intercalate_cons_cons, List.append_assoc, hfirst, List.singleton_append,
            splitBranches, if_pos rfl, hrest]
          simp

structure DividesFrom (depth : Nat) (first : Text) (rest : List Text) (body : Text) : Prop where
  intercalate : ['|'].intercalate (first :: rest) = body
  scans : Scans depth first 0
  undivided : Undivided depth first
  balanced_rest : ∀ branch ∈ rest, Balanced branch
  undivided_rest : ∀ branch ∈ rest, Undivided 0 branch

theorem Undivided.cons {depth inner : Nat} {c : Char} {text : Text} (h : Undivided inner text)
    (hbar : c = '|' → depth ≠ 0)
    (hscans : ∀ before, Scans depth (c :: before) 0 → Scans inner before 0) :
    Undivided depth (c :: text) := by
  intro before after htext hbefore
  cases before with
  | nil =>
      obtain ⟨rfl, rfl⟩ := List.cons.inj htext
      cases hbefore
      exact hbar rfl rfl
  | cons head before =>
      obtain ⟨rfl, htail⟩ := List.cons.inj htext
      exact h before after htail (hscans before hbefore)

theorem Undivided.pair {depth : Nat} {text : Text} (c : Char) (h : Undivided depth text) :
    Undivided depth ('\\' :: c :: text) := by
  intro before after htext hbefore
  match before with
  | [] => simp at htext
  | [head] =>
      obtain ⟨rfl, -⟩ := List.cons.inj htext
      cases hbefore
      contradiction
  | head :: second :: before =>
      obtain ⟨rfl, hsecond⟩ := List.cons.inj htext
      obtain ⟨rfl, htail⟩ := List.cons.inj hsecond
      exact h before after htail (scans_pair_iff.mp hbefore)

theorem DividesFrom.cons {depth inner : Nat} {c : Char} {first : Text} {rest : List Text}
    {body : Text} (h : DividesFrom inner first rest body) (hbar : c = '|' → depth ≠ 0)
    (hscans : ∀ before, Scans depth (c :: before) 0 ↔ Scans inner before 0) :
    DividesFrom depth (c :: first) rest (c :: body) where
  intercalate := by rw [List.intercalate_cons_cons_left, h.intercalate]
  scans := (hscans first).mpr h.scans
  undivided := h.undivided.cons hbar fun before => (hscans before).mp
  balanced_rest := h.balanced_rest
  undivided_rest := h.undivided_rest

theorem DividesFrom.pair {depth : Nat} {first : Text} {rest : List Text} {body : Text} (c : Char)
    (h : DividesFrom depth first rest body) :
    DividesFrom depth ('\\' :: c :: first) rest ('\\' :: c :: body) where
  intercalate := by
    rw [List.intercalate_cons_cons_left, List.intercalate_cons_cons_left, h.intercalate]
  scans := .pair h.scans
  undivided := h.undivided.pair c
  balanced_rest := h.balanced_rest
  undivided_rest := h.undivided_rest

/-- Every balanced text has branches: the induction is on the scan, which may be inside groups. -/
theorem exists_dividesFrom {depth : Nat} {body : Text} (h : Scans depth body 0) :
    ∃ first rest, DividesFrom depth first rest body := by
  generalize hstop : 0 = stop at h
  induction h with
  | nil =>
      subst hstop
      exact ⟨[], [], List.intercalate_singleton, .nil, by simp [Undivided], by simp, by simp⟩
  | @pair depth stop c body hbody ih =>
      obtain ⟨first, rest, hdivides⟩ := ih hstop
      exact ⟨_, _, hdivides.pair c⟩
  | opening hbody ih =>
      obtain ⟨first, rest, hdivides⟩ := ih hstop
      exact ⟨_, _, hdivides.cons (by simp) fun before => scans_opening_iff⟩
  | closing hbody ih =>
      obtain ⟨first, rest, hdivides⟩ := ih hstop
      exact ⟨_, _, hdivides.cons (by simp) fun before => scans_closing_iff⟩
  | @other depth stop c body hescape hopen hclose hbody ih =>
      obtain ⟨first, rest, hdivides⟩ := ih hstop
      by_cases hbar : c = '|' ∧ depth = 0
      · obtain ⟨rfl, rfl⟩ := hbar
        refine ⟨[], first :: rest, ?_, .nil, by simp [Undivided],
          List.forall_mem_cons.mpr ⟨hdivides.scans, hdivides.balanced_rest⟩,
          List.forall_mem_cons.mpr ⟨hdivides.undivided, hdivides.undivided_rest⟩⟩
        rw [List.intercalate_cons_cons, hdivides.intercalate]
        simp
      · have hdepth : c = '|' → depth ≠ 0 := fun hc hzero => hbar ⟨hc, hzero⟩
        exact ⟨_, _, hdivides.cons hdepth fun before => scans_other_iff hescape hopen hclose⟩

theorem Balanced.exists_divides {body : Text} (hbody : Balanced body) :
    ∃ branches, Divides branches body := by
  obtain ⟨first, rest, hdivides⟩ := exists_dividesFrom hbody
  exact ⟨first :: rest, hdivides.intercalate, List.cons_ne_nil first rest,
    List.forall_mem_cons.mpr ⟨hdivides.scans, hdivides.balanced_rest⟩,
    List.forall_mem_cons.mpr ⟨hdivides.undivided, hdivides.undivided_rest⟩⟩

theorem splitBranches_eq_iff {body : Text} (hbody : Balanced body) (branches : List Text) :
    splitBranches 0 body = branches ↔ Divides branches body := by
  constructor
  · rintro rfl
    obtain ⟨branches, hdivides⟩ := hbody.exists_divides
    have hsplit := splitBranches_intercalate hdivides.ne_nil hdivides.balanced hdivides.undivided
    rw [hdivides.intercalate] at hsplit
    rw [hsplit]
    exact hdivides
  · intro h
    rw [← h.intercalate]
    exact splitBranches_intercalate h.ne_nil h.balanced h.undivided

end LineSearch.Token
