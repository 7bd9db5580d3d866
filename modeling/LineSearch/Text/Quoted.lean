import LineSearch.Text.Basic
import LineSearch.Text.Printable

/-!
# Quoted texts

Messages show a text between double quotes: a quote and a backslash are preceded by a backslash, and
a character that is not printable is written by its short name or by its code point in hexadecimal.
Every other character stands for itself, so what is shown is printable throughout
(`isPrintable_of_mem_quoted`).
-/

namespace LineSearch.Text

def quotedChar (c : Char) : Text :=
  match c with
  | '"' => ['\\', '"']
  | '\\' => ['\\', '\\']
  | '\n' => ['\\', 'n']
  | '\r' => ['\\', 'r']
  | '\t' => ['\\', 't']
  | '\x00' => ['\\', '0']
  | c =>
      if isPrintable c then
        [c]
      else
        ['\\', 'u', '\x7b'] ++ Nat.toDigits 16 c.toNat ++ ['\x7d']

def quoted (text : Text) : String :=
  String.ofList ('"' :: text.flatMap quotedChar ++ ['"'])

theorem isPrintable_digitChar : ∀ digit < 16, isPrintable digit.digitChar = true := by
  decide

theorem isPrintable_of_mem_toDigits {n : Nat} {c : Char} (h : c ∈ Nat.toDigits 16 n) :
    isPrintable c = true := by
  induction n using Nat.strongRecOn with
  | ind n ih =>
      rw [Nat.toDigits_eq_if (by decide)] at h
      split at h
      · next hn =>
          obtain rfl := List.mem_singleton.mp h
          exact isPrintable_digitChar n hn
      · next hn =>
          rcases List.mem_append.mp h with h | h
          · exact ih (n / 16) (by omega) h
          · obtain rfl := List.mem_singleton.mp h
            exact isPrintable_digitChar (n % 16) (Nat.mod_lt n (by decide))

theorem isPrintable_of_mem_quotedChar {c shown : Char} (h : shown ∈ quotedChar c) :
    isPrintable shown = true := by
  revert h
  fun_cases quotedChar c with
  | case7 c _ _ _ _ _ _ hc =>
      intro h
      obtain rfl := List.mem_singleton.mp h
      exact hc
  | case8 c =>
      simp only [List.mem_append, List.mem_cons, List.not_mem_nil, or_false]
      rintro (((rfl | rfl | rfl) | hdigit) | rfl)
      · decide
      · decide
      · decide
      · exact isPrintable_of_mem_toDigits hdigit
      · decide
  -- The short names are of two characters each.
  | case1 | case2 | case3 | case4 | case5 | case6 =>
      simp only [List.mem_cons, List.not_mem_nil, or_false]
      rintro (rfl | rfl) <;> decide

/-- A quoted text shows nothing that a reader could not see. -/
theorem isPrintable_of_mem_quoted {text : Text} {c : Char} (h : c ∈ (quoted text).toList) :
    isPrintable c = true := by
  simp only [quoted, String.toList_ofList, List.cons_append, List.mem_cons, List.mem_append,
    List.mem_flatMap, List.not_mem_nil, or_false] at h
  rcases h with rfl | ⟨given, -, h⟩ | rfl
  · decide
  · exact isPrintable_of_mem_quotedChar h
  · decide

end LineSearch.Text
