import LineSearch.Proofs.Search.Preference

/-!
# A search is a series of attempts

A search attempts a match at one start after another, and the placement of the pattern decides which
starts there are, in which order they come and whether an end is required (`search?_eq`). So a part
that is found is one that the placement allows and the tokens offer (`search?_spec`), and if there
is such a part, one is found (`search?_isSome_iff`).
-/

namespace LineSearch

def Placement.Allows (placement : Placement) (length : Nat) (span : Span) : Prop :=
  match placement with
  | .exact => span.start = 0 ∧ span.stop = length
  | .fromStart => span.start = 0
  | .atEnd => span.stop = length
  | .anywhere => True

def Offers (tokens : List Token) (chars : Array Char) (span : Span) : Prop :=
  span.start ≤ chars.size ∧ span.stop ∈ matchEnds chars tokens span.start

namespace Pattern

variable (pattern : Pattern) (chars : Array Char)

def attempt? (required : Option Nat) (start : Nat) : Option Span :=
  (matchAt? chars start pattern.tokens 0 required).map (⟨start, ·⟩)

theorem run_attempt (required : Option Nat) (start : Nat) :
    ((⟨start, ·⟩) <$> matchAtM Observer.silent chars start pattern.tokens 0 required :
      OptionT Id Span).run.run = pattern.attempt? chars required start := by
  simp [attempt?, matchAt?]

theorem search?_eq :
    pattern.search? chars =
      match pattern.placement with
      | .exact => pattern.attempt? chars (some chars.size) 0
      | .fromStart => pattern.attempt? chars none 0
      | .atEnd =>
          (List.range (chars.size + 1)).reverse.findSome?
            (pattern.attempt? chars (some chars.size))
      | .anywhere => (List.range (chars.size + 1)).findSome? (pattern.attempt? chars none) := by
  unfold search? searchM
  rw [run_lift_bind]
  dsimp only
  cases pattern.placement with
  | exact => exact run_attempt pattern chars _ 0
  | fromStart => exact run_attempt pattern chars _ 0
  | atEnd => simp only [run_firstM, run_attempt]
  | anywhere => simp only [run_firstM, run_attempt]

variable {pattern chars}

theorem attempt?_eq_some {required : Option Nat} {start : Nat} {span : Span}
    (h : pattern.attempt? chars required start = some span) :
    span.start = start ∧ span.stop ∈ matchEnds chars pattern.tokens start ∧
      ∀ last, required = some last → span.stop = last := by
  obtain ⟨stop, hmatch, rfl⟩ := Option.map_eq_some_iff.mp h
  exact ⟨rfl, matchAt?_eq_some hmatch⟩

theorem attempt?_isSome {required : Option Nat} {start stop : Nat}
    (hstop : stop ∈ matchEnds chars pattern.tokens start)
    (hrequired : ∀ last, required = some last → stop = last) :
    (pattern.attempt? chars required start).isSome = true := by
  rw [attempt?, Option.isSome_map]
  exact matchAt?_isSome_iff.mpr ⟨stop, hstop, hrequired⟩

theorem start_of_firstAttempt {starts : List Nat} {required : Option Nat} {span : Span}
    (h : starts.findSome? (pattern.attempt? chars required) = some span) :
    span.start ∈ starts ∧ pattern.attempt? chars required span.start = some span := by
  obtain ⟨start, hmem, hattempt⟩ := List.exists_of_findSome?_eq_some h
  obtain ⟨rfl, -⟩ := attempt?_eq_some hattempt
  exact ⟨hmem, hattempt⟩

/-- What is found is allowed and offered. -/
theorem search?_spec {span : Span} (h : pattern.search? chars = some span) :
    pattern.placement.Allows chars.size span ∧ Offers pattern.tokens chars span := by
  rw [search?_eq] at h
  cases hplacement : pattern.placement with
  | exact =>
      rw [hplacement] at h
      obtain ⟨hstart, hstop, hlast⟩ := attempt?_eq_some h
      exact ⟨⟨hstart, hlast _ rfl⟩, by omega, hstart ▸ hstop⟩
  | fromStart =>
      rw [hplacement] at h
      obtain ⟨hstart, hstop, -⟩ := attempt?_eq_some h
      exact ⟨hstart, by omega, hstart ▸ hstop⟩
  | atEnd =>
      rw [hplacement] at h
      obtain ⟨hstart, hattempt⟩ := start_of_firstAttempt h
      obtain ⟨-, hstop, hlast⟩ := attempt?_eq_some hattempt
      rw [List.mem_reverse, List.mem_range] at hstart
      exact ⟨hlast _ rfl, by omega, hstop⟩
  | anywhere =>
      rw [hplacement] at h
      obtain ⟨hstart, hattempt⟩ := start_of_firstAttempt h
      obtain ⟨-, hstop, -⟩ := attempt?_eq_some hattempt
      rw [List.mem_range] at hstart
      exact ⟨trivial, by omega, hstop⟩

/-- What is allowed and offered is not missed, though another part may be found. -/
theorem search?_isSome_iff :
    (pattern.search? chars).isSome = true ↔
      ∃ span, pattern.placement.Allows chars.size span ∧ Offers pattern.tokens chars span := by
  constructor
  · intro h
    obtain ⟨span, hfound⟩ := Option.isSome_iff_exists.mp h
    exact ⟨span, search?_spec hfound⟩
  · rintro ⟨⟨start, stop⟩, hallows, hinside, hstop⟩
    dsimp only at hinside hstop
    have htried : start ∈ List.range (chars.size + 1) := List.mem_range.mpr (by omega)
    rw [search?_eq]
    cases hplacement : pattern.placement with
    | exact =>
        rw [hplacement] at hallows
        obtain ⟨rfl, rfl⟩ := hallows
        exact attempt?_isSome hstop fun last h => Option.some.inj h
    | fromStart =>
        rw [hplacement] at hallows
        obtain rfl := hallows
        exact attempt?_isSome hstop nofun
    | atEnd =>
        rw [hplacement] at hallows
        obtain rfl := hallows
        rw [List.findSome?_isSome_iff]
        exact ⟨start, List.mem_reverse.mpr htried,
          attempt?_isSome hstop fun last h => Option.some.inj h⟩
    | anywhere =>
        rw [List.findSome?_isSome_iff]
        exact ⟨start, htried, attempt?_isSome hstop nofun⟩

end Pattern

end LineSearch
