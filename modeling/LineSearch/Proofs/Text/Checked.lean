import LineSearch.Proofs.Text.Segment

/-!
# Checked operations

What is read from texts that get shorter can also be read by position in an array, as a machine does
it. Then an operation may have no result: nothing stands at the position, a slice ends in front of
its start, a sum is beyond the largest number. Every operation here checks its operands where it is
carried out and returns the fault if they are no good. A run of them that returns a value at all has
met no fault on its way, so to know that none can be met is to know the value (`Checked.Agrees`).
-/

namespace LineSearch

inductive Fault where
  /-- No character stands at the position. -/
  | index
  /-- The slice ends in front of its start or behind the text. -/
  | slice
  /-- The sum is beyond the largest position there is. -/
  | overflow
  /-- More groups are open than can be counted. -/
  | depth
  /-- Nothing is there to be removed. -/
  | empty
  /-- A loop makes no way. -/
  | standstill
  deriving DecidableEq, Repr

abbrev Checked := Except Fault

namespace Checked

/-! ## Operations -/

def require (condition : Prop) [Decidable condition] (fault : Fault) : Checked Unit :=
  if condition then pure () else throw fault

def advance (last pos count : Nat) : Checked Nat :=
  if pos + count ≤ last then pure (pos + count) else throw .overflow

def charAt (chars : Array Char) (pos : Nat) : Checked Char :=
  if _hpos : pos < chars.size then pure chars[pos] else throw .index

def slice (chars : Array Char) (start stop : Nat) : Checked Text :=
  if start ≤ stop ∧ stop ≤ chars.size then pure (segment chars start stop) else throw .slice

theorem require_of {condition : Prop} [Decidable condition] (h : condition) (fault : Fault) :
    require condition fault = pure () :=
  if_pos h

theorem advance_of_le {last pos count : Nat} (h : pos + count ≤ last) :
    advance last pos count = pure (pos + count) :=
  if_pos h

theorem slice_of_le {chars : Array Char} {start stop : Nat} (hstart : start ≤ stop)
    (hstop : stop ≤ chars.size) : slice chars start stop = pure (segment chars start stop) :=
  if_pos ⟨hstart, hstop⟩

/-! ## Runs without faults -/

section Agrees

variable {α β : Type} {deep : Prop}

/-- The run returns the value. Only where `deep` holds can it meet a fault instead, which is that
too many groups are open. -/
def Agrees (deep : Prop) (run : Checked α) (value : α) : Prop :=
  run = pure value ∨ deep ∧ run = throw .depth

theorem agrees_pure (value : α) : Agrees deep (pure value) value := .inl rfl

theorem agrees_run_pure (a : α) : Agrees deep (pure a : OptionT Checked α).run (some a) := .inl rfl

theorem agrees_failure : Agrees deep (failure : OptionT Checked α).run none := .inl rfl

theorem Agrees.mono {more : Prop} {run : Checked α} {value : α} (h : Agrees deep run value)
    (hmore : deep → more) : Agrees more run value := by
  rcases h with hvalue | ⟨hdeep, hfault⟩
  · exact .inl hvalue
  · exact .inr ⟨hmore hdeep, hfault⟩

theorem Agrees.eq_of_not {run : Checked α} {value : α} (h : Agrees deep run value)
    (hdeep : ¬ deep) : run = pure value := by
  rcases h with hvalue | ⟨hsome, _⟩
  · exact hvalue
  · exact absurd hsome hdeep

theorem Agrees.bind {run : Checked α} {value : α} {next : α → Checked β} {result : β}
    (hrun : Agrees deep run value) (hnext : Agrees deep (next value) result) :
    Agrees deep (run >>= next) result := by
  rcases hrun with rfl | ⟨hdeep, rfl⟩
  · exact hnext
  · exact .inr ⟨hdeep, rfl⟩

theorem Agrees.map {run : Checked α} {value : α} (h : Agrees deep run value) (f : α → β) :
    Agrees deep (f <$> run) (f value) := by
  rcases h with rfl | ⟨hdeep, rfl⟩
  · exact .inl rfl
  · exact .inr ⟨hdeep, rfl⟩

theorem Agrees.orElse {first second : OptionT Checked α} {firstValue value : Option α}
    (hfirst : Agrees deep first.run firstValue) (hsecond : Agrees deep second.run value) :
    Agrees deep (first <|> second).run (firstValue.or value) := by
  rw [OptionT.run_orElse]
  apply hfirst.bind
  cases firstValue with
  | none => exact hsecond
  | some a => exact agrees_pure (some a)

theorem Agrees.andThen {run : OptionT Checked α} {value : Option α} {next : α → OptionT Checked β}
    {result : α → Option β} (hrun : Agrees deep run.run value)
    (hnext : ∀ a, Agrees deep (next a).run (result a)) :
    Agrees deep (run >>= next).run (value.bind result) := by
  rw [OptionT.run_bind]
  apply hrun.bind
  cases value with
  | none => exact agrees_pure none
  | some a => exact hnext a

theorem agrees_lift_bind {run : Checked α} {value : α} {next : α → OptionT Checked β}
    {result : Option β} (hrun : Agrees deep run value)
    (hnext : Agrees deep (next value).run result) :
    Agrees deep (OptionT.lift run >>= next).run result := by
  rw [OptionT.run_bind, OptionT.run_lift, Option.elimM, bind_assoc]
  apply hrun.bind
  exact hnext

theorem agrees_firstM {items : List α} {run : α → OptionT Checked β} {result : α → Option β}
    (h : ∀ item ∈ items, Agrees deep (run item).run (result item)) :
    Agrees deep (items.firstM run).run (items.findSome? result) := by
  induction items with
  | nil => exact agrees_pure none
  | cons item rest ih =>
      obtain ⟨hitem, hrest⟩ := List.forall_mem_cons.mp h
      have hor := hitem.orElse (ih hrest)
      rw [List.firstM, List.findSome?_cons]
      cases hresult : result item with
      | none => simpa [hresult] using hor
      | some b => simpa [hresult] using hor

end Agrees

end Checked

/-! ## Texts at positions -/

/-- The text stands behind so many characters and reaches to the end. -/
def StandsAt (chars : Array Char) (pos : Nat) (text : Text) : Prop :=
  ∃ front, chars.toList = front ++ text ∧ front.length = pos

theorem standsAt_zero (text : Text) : StandsAt text.toArray 0 text :=
  ⟨[], rfl, rfl⟩

theorem standsAt_drop {chars : Array Char} {pos : Nat} (h : pos ≤ chars.size) :
    StandsAt chars pos (chars.toList.drop pos) := by
  refine ⟨chars.toList.take pos, (List.take_append_drop pos chars.toList).symm, ?_⟩
  rw [List.length_take, Array.length_toList, Nat.min_eq_left h]

namespace StandsAt

variable {chars : Array Char} {pos : Nat}

theorem size_eq {text : Text} (h : StandsAt chars pos text) : chars.size = pos + text.length := by
  obtain ⟨front, hchars, rfl⟩ := h
  rw [← Array.length_toList, hchars, List.length_append]

theorem behind {front rest : Text} (h : StandsAt chars pos (front ++ rest)) :
    StandsAt chars (pos + front.length) rest := by
  obtain ⟨before, hchars, rfl⟩ := h
  exact ⟨before ++ front, by rw [hchars, List.append_assoc], List.length_append⟩

theorem tail {c : Char} {rest : Text} (h : StandsAt chars pos (c :: rest)) :
    StandsAt chars (pos + 1) rest := by
  have hfront : StandsAt chars pos ([c] ++ rest) := h
  exact hfront.behind

theorem lt_size {c : Char} {rest : Text} (h : StandsAt chars pos (c :: rest)) :
    pos < chars.size := by
  rw [h.size_eq, List.length_cons]
  omega

theorem charAt_eq {c : Char} {rest : Text} (h : StandsAt chars pos (c :: rest)) :
    Checked.charAt chars pos = pure c := by
  have hinside := h.lt_size
  obtain ⟨front, hchars, rfl⟩ := h
  rw [Checked.charAt, dif_pos hinside]
  congr 1
  simp [← Array.getElem_toList, hchars]

theorem getElem?_eq {text : Text} (h : StandsAt chars pos text) : chars[pos]? = text.head? := by
  obtain ⟨front, hchars, rfl⟩ := h
  rw [← Array.getElem?_toList, hchars, List.getElem?_append_right (Nat.le_refl _), Nat.sub_self,
    List.head?_eq_getElem?]

theorem slice_eq {body rest : Text} (h : StandsAt chars pos (body ++ rest)) :
    Checked.slice chars pos (pos + body.length) = pure body := by
  have hsize := h.size_eq
  rw [List.length_append] at hsize
  obtain ⟨front, hchars, rfl⟩ := h
  rw [Checked.slice_of_le (by omega) (by omega)]
  congr 1
  simp [segment, hchars]

end StandsAt

end LineSearch
