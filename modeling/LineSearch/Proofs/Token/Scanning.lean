import LineSearch.Proofs.Text.Checked
import LineSearch.Proofs.Token.Fallbacks

/-!
# Scanning a pattern by position

A pattern can be read without a text that gets shorter: a scan moves a position along the array of
its characters, looks for the bracket that closes another, cuts out what is between them and counts
the open groups with a number of 32 bits. Every look, cut and sum is checked, and none meets a fault
in a pattern of less than `2 ^ 31` characters, so the scan comes to the tokens of the pattern
(`Scan.tokens_eq`). In a longer one it may only run out of numbers for the open groups
(`Scan.agrees_tokens`).

The invariant is that the text still to be read stands at the position and reaches to the end
(`StandsAt`): all that a scan needs to know of the positions it cuts at is in the lengths of the
texts that reading leaves.
-/

namespace LineSearch

open Checked

namespace Scan

/-- The largest number of open groups that the scan for the end of a group can count. -/
def deepest : Nat := 2 ^ 31 - 1

/-- The largest number of open groups that the split of a body can count. -/
def deepestInBody : Nat := 2 ^ 64 - 1

def classEnd (chars : Array Char) (opening : Nat) : Checked (Option Nat) := do
  let start ← advance chars.size opening 1
  let behind ← slice chars start chars.size
  match behind.findIdx? (· == ']') with
  | none => return none
  | some offset => return some (← advance chars.size start offset)

/-- The position of the `)` that closes the group, where so many groups are open. A backslash takes
the character behind it along, so a scan may end one position behind the text. -/
def groupEnd (chars : Array Char) (depth pos : Nat) : Checked (Option Nat) :=
  if _hpos : pos < chars.size then do
    let c ← charAt chars pos
    if c = '\\' then
      require (pos + 2 ≤ chars.size + 1) .overflow
      groupEnd chars depth (pos + 2)
    else if c = '(' then
      require (depth + 1 ≤ deepest) .depth
      require (pos + 1 ≤ chars.size) .overflow
      groupEnd chars (depth + 1) (pos + 1)
    else if c = ')' then
      require (1 ≤ depth) .overflow
      if depth - 1 = 0 then
        return some pos
      else
        require (pos + 1 ≤ chars.size) .overflow
        groupEnd chars (depth - 1) (pos + 1)
    else
      require (pos + 1 ≤ chars.size) .overflow
      groupEnd chars depth (pos + 1)
  else
    return none
termination_by chars.size - pos

def branches (body : Text) : Checked (List Text) :=
  match Token.splitStrictly? deepestInBody 0 body with
  | some branches => return branches
  | none => throw .depth

def escapeAt (chars : Array Char) (pos next : Nat) : Checked (Token.Kind × Nat) := do
  if next < chars.size then
    let escaped ← charAt chars next
    return (.ofEscaped escaped, ← advance chars.size pos 2)
  else
    return (.literal '\\', next)

def classAt (chars : Array Char) (pos next : Nat) : Checked (Token.Kind × Nat) := do
  match ← classEnd chars pos with
  | some stop =>
      let body ← slice chars next stop
      return (.ofClassBody body, ← advance chars.size stop 1)
  | none => return (.literal '[', next)

def groupAt (chars : Array Char) (next : Nat) : Checked (Token.Kind × Nat) := do
  match ← groupEnd chars 1 next with
  | some stop =>
      let body ← slice chars next stop
      return (.group (← branches body), ← advance chars.size stop 1)
  | none => return (.literal '(', next)

def kindAt (chars : Array Char) (pos : Nat) : Checked (Token.Kind × Nat) := do
  let c ← charAt chars pos
  let next ← advance chars.size pos 1
  match c with
  | '\\' => escapeAt chars pos next
  | '[' => classAt chars pos next
  | '(' => groupAt chars next
  | '.' => return (.shorthand .any, next)
  | '^' => return (.anchor .lineStart, next)
  | '$' => return (.anchor .lineEnd, next)
  | c => return (.literal c, next)

def quantifierAt (chars : Array Char) (pos : Nat) : Checked (Quantifier × Nat) :=
  match chars[pos]? with
  | some '+' => do return (.repeated, ← advance chars.size pos 1)
  | some '?' => do return (.optional, ← advance chars.size pos 1)
  | _ => return (.once, pos)

def tokens (chars : Array Char) (pos : Nat) : Checked (List Token) :=
  if _hpos : pos < chars.size then do
    let (kind, marked) ← kindAt chars pos
    let (quantifier, next) ← quantifierAt chars marked
    if _hnext : pos < next then
      return ⟨kind, quantifier⟩ :: (← tokens chars next)
    else
      throw .standstill
  else
    return []
termination_by chars.size - pos

/-! ## Classes -/

theorem findIdx?_eq_map_classBody? (text : Text) :
    text.findIdx? (· == ']') = (Token.classBody? text).map fun read => read.1.length := by
  fun_induction Token.classBody? text with
  | case1 => rfl
  | case2 rest => rfl
  | case3 c rest hc ih =>
      have hbracket : (c == ']') = false := by
        simpa using hc
      rw [List.findIdx?_cons, hbracket, ih]
      cases Token.classBody? rest <;> simp

/-- The scan ends where the text behind the `[` is split. -/
theorem classEnd_eq {chars : Array Char} {opening : Nat} {text : Text}
    (h : StandsAt chars (opening + 1) text) :
    classEnd chars opening =
      pure ((Token.classBody? text).map fun read => chars.size - (read.2.length + 1)) := by
  have hsize := h.size_eq
  have hslice : slice chars (opening + 1) chars.size = pure text := by
    have hwhole : StandsAt chars (opening + 1) (text ++ []) := by rwa [List.append_nil]
    rw [hsize]
    exact hwhole.slice_eq
  rw [classEnd, advance_of_le (by omega), pure_bind, hslice, pure_bind, findIdx?_eq_map_classBody?]
  cases hread : Token.classBody? text with
  | none => rfl
  | some read =>
      have hlength : text.length = read.1.length + (read.2.length + 1) := by
        rw [Token.append_of_classBody? hread, List.length_append, List.length_cons]
      have hstop : opening + 1 + read.1.length = chars.size - (read.2.length + 1) := by omega
      rw [Option.map_some, Option.map_some]
      dsimp only
      rw [advance_of_le (by omega), pure_bind, hstop]

/-! ## Groups -/

section Groups

variable {chars : Array Char} {pos : Nat}

theorem groupEnd_of_end (depth : Nat) (h : chars.size ≤ pos) :
    groupEnd chars depth pos = pure none := by
  rw [groupEnd, dif_neg (by omega)]

theorem groupEnd_escape (depth : Nat) {rest : Text} (h : StandsAt chars pos ('\\' :: rest)) :
    groupEnd chars depth pos = groupEnd chars depth (pos + 2) := by
  have hinside := h.lt_size
  rw [groupEnd, dif_pos hinside, h.charAt_eq, pure_bind, if_pos rfl, require_of (by omega),
    pure_bind]

theorem groupEnd_opening (depth : Nat) {rest : Text} (h : StandsAt chars pos ('(' :: rest)) :
    groupEnd chars depth pos =
      (require (depth + 1 ≤ deepest) .depth >>= fun _ => groupEnd chars (depth + 1) (pos + 1)) := by
  have hinside := h.lt_size
  rw [groupEnd, dif_pos hinside, h.charAt_eq, pure_bind, if_neg (by decide), if_pos rfl]
  simp only [require_of (Nat.succ_le_of_lt hinside), pure_bind]

theorem groupEnd_closing (depth : Nat) {rest : Text} (h : StandsAt chars pos (')' :: rest)) :
    groupEnd chars (depth + 1) pos =
      if depth = 0 then pure (some pos) else groupEnd chars depth (pos + 1) := by
  have hinside := h.lt_size
  rw [groupEnd, dif_pos hinside, h.charAt_eq, pure_bind, if_neg (by decide), if_neg (by decide),
    if_pos rfl, require_of (by omega), pure_bind, Nat.add_sub_cancel,
    require_of (Nat.succ_le_of_lt hinside), pure_bind]

theorem groupEnd_other (depth : Nat) {c : Char} {rest : Text} (h : StandsAt chars pos (c :: rest))
    (hescape : c ≠ '\\') (hopen : c ≠ '(') (hclose : c ≠ ')') :
    groupEnd chars depth pos = groupEnd chars depth (pos + 1) := by
  have hinside := h.lt_size
  rw [groupEnd, dif_pos hinside, h.charAt_eq, pure_bind, if_neg hescape, if_neg hopen,
    if_neg hclose, require_of (by omega), pure_bind]

/-- The scan ends where the text is split, as long as the open groups can be counted. -/
theorem agrees_groupEnd {depth : Nat} {text : Text} (h : StandsAt chars pos text)
    (hdepth : depth < pos) :
    Agrees (2 ^ 31 ≤ chars.size) (groupEnd chars (depth + 1) pos)
      ((Token.groupBody? depth text).map fun read => chars.size - (read.2.length + 1)) := by
  fun_induction Token.groupBody? depth text generalizing pos with
  | case1 depth =>
      have hsize := h.size_eq
      rw [List.length_nil] at hsize
      rw [groupEnd_of_end _ (by omega)]
      exact agrees_pure none
  | case2 depth =>
      have hsize := h.size_eq
      rw [List.length_singleton] at hsize
      rw [groupEnd_escape _ h, groupEnd_of_end _ (by omega)]
      exact agrees_pure none
  | case3 depth c rest ih =>
      rw [groupEnd_escape _ h, Option.map_map]
      exact ih h.tail.tail (by omega)
  | case4 depth rest ih =>
      rw [groupEnd_opening _ h, Option.map_map]
      by_cases hcount : depth + 1 + 1 ≤ deepest
      · rw [require_of hcount, pure_bind]
        exact ih h.tail (by omega)
      · -- so many characters stand before the position
        have hsize := h.size_eq
        rw [List.length_cons] at hsize
        refine .inr ⟨?_, ?_⟩
        · unfold deepest at hcount
          omega
        · rw [require, if_neg hcount]
          rfl
  | case5 rest =>
      have hsize := h.size_eq
      rw [List.length_cons] at hsize
      have hstop : pos = chars.size - (rest.length + 1) := by omega
      rw [groupEnd_closing _ h, if_pos rfl, Option.map_some, ← hstop]
      exact agrees_pure (some pos)
  | case6 rest depth ih =>
      rw [groupEnd_closing _ h, if_neg (Nat.succ_ne_zero depth), Option.map_map]
      exact ih h.tail (by omega)
  | case7 depth c rest hlone hescape hopen hclose ih =>
      have hnotEscape : c ≠ '\\' := by
        intro hc
        cases rest with
        | nil => exact hlone hc rfl
        | cons escaped rest => exact hescape escaped rest hc rfl
      rw [groupEnd_other _ h hnotEscape (fun hc => hopen hc) (fun hc => hclose hc), Option.map_map]
      exact ih h.tail (by omega)

end Groups

theorem agrees_branches {deep : Prop} {text body after : Text}
    (hread : Token.groupBody? 0 text = some (body, after))
    (hdeep : deepestInBody < body.length → deep) :
    Agrees deep (branches body) (Token.splitBranches 0 body) := by
  rw [branches]
  by_cases hlength : body.length ≤ deepestInBody
  · rw [Token.splitStrictly?_of_scans (Token.scans_of_groupBody? hread) (by rwa [Nat.zero_add])]
    exact agrees_pure _
  · cases hsplit : Token.splitStrictly? deepestInBody 0 body with
    | none => exact .inr ⟨hdeep (by omega), rfl⟩
    | some texts =>
        rw [Token.splitStrictly?_eq_some hsplit]
        exact agrees_pure texts

/-- A bracket that is found lies behind the one it closes and in front of the end. -/
theorem lt_of_end {chars : Array Char} {opening stop : Nat} (hopening : opening < chars.size)
    (h : classEnd chars opening = pure (some stop) ∨
      groupEnd chars 1 (opening + 1) = pure (some stop)) :
    opening < stop ∧ stop < chars.size := by
  have hbehind := standsAt_drop (Nat.succ_le_of_lt hopening)
  have hsize := hbehind.size_eq
  have hread : ∃ read : Text × Text, ∃ bracket : Char,
      chars.toList.drop (opening + 1) = read.1 ++ bracket :: read.2 ∧
        chars.size - (read.2.length + 1) = stop := by
    rcases h with hclass | hgroup
    · rw [classEnd_eq hbehind] at hclass
      obtain ⟨read, hread, hstop⟩ := Option.map_eq_some_iff.mp (Except.ok.inj hclass)
      exact ⟨read, ']', Token.append_of_classBody? hread, hstop⟩
    · rcases agrees_groupEnd hbehind (Nat.succ_pos opening) with hvalue | ⟨-, hfault⟩
      · rw [hvalue] at hgroup
        obtain ⟨read, hread, hstop⟩ := Option.map_eq_some_iff.mp (Except.ok.inj hgroup)
        exact ⟨read, ')', Token.append_of_groupBody? hread, hstop⟩
      · rw [hfault] at hgroup
        contradiction
  obtain ⟨read, bracket, htext, hstop⟩ := hread
  rw [htext, List.length_append, List.length_cons] at hsize
  omega

/-! ## Tokens -/

/-- Between a position and the bracket that was found lies the body, and the scan goes on behind
it. -/
theorem slice_body {chars : Array Char} {pos : Nat} {bracket : Char} {body after : Text}
    (h : StandsAt chars pos (body ++ bracket :: after)) :
    slice chars pos (chars.size - (after.length + 1)) = pure body ∧
      advance chars.size (chars.size - (after.length + 1)) 1 =
        pure (chars.size - after.length) ∧
      StandsAt chars (chars.size - after.length) after := by
  have hsize := h.size_eq
  rw [List.length_append, List.length_cons] at hsize
  have hstop : chars.size - (after.length + 1) = pos + body.length := by omega
  have hnext : chars.size - after.length = pos + body.length + 1 := by omega
  rw [hstop, hnext]
  exact ⟨h.slice_eq, advance_of_le (by omega), h.behind.tail⟩

section Tokens

variable {chars : Array Char} {pos : Nat}

/-- The run reads the kind and stops in front of the text left, as long as the open groups can be
counted. -/
def Reads (chars : Array Char) (run : Checked (Token.Kind × Nat)) (read : Token.Kind × Text) :
    Prop :=
  ∃ next, Agrees (2 ^ 31 ≤ chars.size) run (read.1, next) ∧ StandsAt chars next read.2

theorem reads_pure {kind : Token.Kind} {rest : Text} (h : StandsAt chars pos rest) :
    Reads chars (pure (kind, pos)) (kind, rest) :=
  ⟨pos, agrees_pure _, h⟩

theorem reads_escapeAt {rest : Text} (h : StandsAt chars pos ('\\' :: rest)) :
    Reads chars (escapeAt chars pos (pos + 1)) (Token.readKind '\\' rest) := by
  have hsize := h.tail.size_eq
  rw [escapeAt]
  cases rest with
  | nil =>
      rw [List.length_nil] at hsize
      rw [if_neg (by omega)]
      exact reads_pure h.tail
  | cons escaped rest =>
      have hinside := h.tail.lt_size
      rw [if_pos hinside, h.tail.charAt_eq, pure_bind, advance_of_le hinside, pure_bind]
      exact reads_pure h.tail.tail

theorem reads_classAt {rest : Text} (h : StandsAt chars (pos + 1) rest) :
    Reads chars (classAt chars pos (pos + 1)) (Token.readKind '[' rest) := by
  rw [classAt, classEnd_eq h, pure_bind]
  unfold Token.readKind
  cases hread : Token.classBody? rest with
  | none => exact reads_pure h
  | some read =>
      rw [Token.append_of_classBody? hread] at h
      obtain ⟨hslice, hadvance, hafter⟩ := slice_body h
      rw [Option.map_some]
      dsimp only
      rw [hslice, pure_bind, hadvance, pure_bind]
      exact reads_pure hafter

theorem reads_groupAt {rest : Text} (h : StandsAt chars (pos + 1) rest) :
    Reads chars (groupAt chars (pos + 1)) (Token.readKind '(' rest) := by
  have hend := agrees_groupEnd h (Nat.succ_pos pos)
  unfold Token.readKind
  cases hread : Token.groupBody? 0 rest with
  | none =>
      rw [hread] at hend
      exact ⟨pos + 1, hend.bind (agrees_pure _), h⟩
  | some read =>
      rw [hread] at hend
      rw [Token.append_of_groupBody? hread] at h
      obtain ⟨hslice, hadvance, hafter⟩ := slice_body h
      have hsize := h.size_eq
      rw [List.length_append] at hsize
      have hbranches : Agrees (2 ^ 31 ≤ chars.size) (branches read.1)
          (Token.splitBranches 0 read.1) := by
        apply agrees_branches hread
        unfold deepestInBody
        omega
      refine ⟨_, hend.bind ?_, hafter⟩
      dsimp only [Option.map_some]
      rw [hslice, pure_bind]
      apply hbranches.bind
      rw [hadvance, pure_bind]
      exact agrees_pure _

theorem reads_kindAt {c : Char} {rest : Text} (h : StandsAt chars pos (c :: rest)) :
    Reads chars (kindAt chars pos) (Token.readKind c rest) := by
  rw [kindAt, h.charAt_eq, pure_bind, advance_of_le h.lt_size, pure_bind]
  split
  · exact reads_escapeAt h
  · exact reads_classAt h.tail
  · exact reads_groupAt h.tail
  · exact reads_pure h.tail
  · exact reads_pure h.tail
  · exact reads_pure h.tail
  · next hescape hbracket hparen hany hstart hend =>
      have hread : Token.readKind c rest = (.literal c, rest) := by
        rw [Token.readKind] <;> assumption
      rw [hread]
      exact reads_pure h.tail

theorem exists_quantifierAt {text : Text} (h : StandsAt chars pos text) :
    ∃ next, quantifierAt chars pos = pure ((Token.readQuantifier text).1, next) ∧
      StandsAt chars next (Token.readQuantifier text).2 := by
  have hsize := h.size_eq
  rw [quantifierAt, h.getElem?_eq]
  cases text with
  | nil => exact ⟨pos, rfl, h⟩
  | cons c rest =>
      rw [List.length_cons] at hsize
      have hadvance : advance chars.size pos 1 = pure (pos + 1) := advance_of_le (by omega)
      rw [List.head?_cons, hadvance]
      by_cases hplus : c = '+'
      · subst hplus
        exact ⟨pos + 1, rfl, h.tail⟩
      · by_cases hmark : c = '?'
        · subst hmark
          exact ⟨pos + 1, rfl, h.tail⟩
        · have hread : Token.readQuantifier (c :: rest) = (.once, c :: rest) := by
            simp [Token.readQuantifier, hplus, hmark]
          rw [hread]
          refine ⟨pos, ?_, h⟩
          simp [hplus, hmark]

/-- The tokens are those of the text, as long as the open groups can be counted. -/
theorem agrees_tokens {text : Text} (pos : Nat) (h : StandsAt chars pos text) :
    Agrees (2 ^ 31 ≤ chars.size) (tokens chars pos) (tokenize text) := by
  revert pos
  fun_induction tokenize text with
  | case1 =>
      intro pos h
      have hsize := h.size_eq
      rw [List.length_nil] at hsize
      rw [tokens, dif_neg (by omega)]
      exact agrees_pure []
  | case2 c rest kindRead quantifierRead ih =>
      intro pos h
      have hsize := h.size_eq
      rw [List.length_cons] at hsize
      obtain ⟨marked, hkind, hmarked⟩ := reads_kindAt h
      obtain ⟨next, hquantifier, hnext⟩ := exists_quantifierAt hmarked
      have hkindLength := Token.length_readKind_le c rest
      have hquantifierLength := Token.length_readQuantifier_le (Token.readKind c rest).2
      have hnextSize := hnext.size_eq
      rw [tokens, dif_pos (by omega)]
      apply hkind.bind
      dsimp only
      rw [hquantifier, pure_bind]
      dsimp only
      rw [dif_pos (by omega)]
      exact (ih next hnext).bind (agrees_pure _)

end Tokens

/-- A pattern of less than 2 ^ 31 characters is scanned without a fault. -/
theorem tokens_eq {pattern : Text} (h : pattern.length < 2 ^ 31) :
    tokens pattern.toArray 0 = pure (tokenize pattern) := by
  apply (agrees_tokens 0 (standsAt_zero pattern)).eq_of_not
  rw [List.size_toArray]
  omega

end Scan

end LineSearch
