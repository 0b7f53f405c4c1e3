import Mathlib.Data.List.Basic

/-! # Texts with quoted separators

A text in which a separator occurs between quotes only. Such a text cannot be
split at a separator so that the rest is again such a text: the quotes of the
rest would be read the other way round. So a separator in front of it tells
where it begins, whatever stands before.
-/

namespace EvalForge.Foundation

inductive QuoteState
  | outside
  | inside
  | escaped
  deriving DecidableEq

namespace QuoteState

variable (separator : Char)

/-- A separator or a backslash is only read between quotes. -/
def read : QuoteState → Char → Option QuoteState
  | outside, char =>
      if char = '"' then some inside
      else if char = '\\' ∨ char = separator then none
      else some outside
  | inside, char =>
      if char = '"' then some outside
      else if char = '\\' then some escaped
      else some inside
  | escaped, char => if char = separator then none else some inside

def scan (state : QuoteState) : List Char → Option QuoteState
  | [] => some state
  | char :: text => (state.read separator char).bind fun next => next.scan text

variable {separator} {state : QuoteState}

theorem read_outside (char : Char) :
    outside.read separator char =
      if char = '"' then some inside
      else if char = '\\' ∨ char = separator then none
      else some outside := rfl

theorem read_inside (char : Char) :
    inside.read separator char =
      if char = '"' then some outside
      else if char = '\\' then some escaped
      else some inside := rfl

theorem scan_append (left right : List Char) :
    state.scan separator (left ++ right) =
      (state.scan separator left).bind fun next => next.scan separator right := by
  induction left generalizing state with
  | nil => rfl
  | cons char left induction =>
      rw [List.cons_append, scan, scan, Option.bind_assoc]
      congr 1
      funext next
      exact induction

theorem scan_opposite {text : List Char} {first second : QuoteState}
    (fromOutside : outside.scan separator text = some first)
    (fromInside : inside.scan separator text = some second) :
    first = outside ∧ second = inside ∨ first = inside ∧ second = outside := by
  induction text generalizing first second with
  | nil =>
      cases fromOutside
      cases fromInside
      exact .inl ⟨rfl, rfl⟩
  | cons char text induction =>
      rw [scan, read_outside] at fromOutside
      rw [scan, read_inside] at fromInside
      by_cases quote : char = '"'
      · -- A quote exchanges the sides.
        rw [if_pos quote, Option.bind_some] at fromOutside fromInside
        exact (induction fromInside fromOutside).symm.imp And.symm And.symm
      · rw [if_neg quote] at fromOutside fromInside
        split at fromOutside
        · cases fromOutside
        · next plain =>
            rw [not_or] at plain
            rw [if_neg plain.1] at fromInside
            exact induction fromOutside fromInside

end QuoteState

open QuoteState

/-- Every separator of the text is quoted, and all quotes are closed. -/
def Quoted (separator : Char) (text : List Char) : Prop :=
  outside.scan separator text = some outside

namespace Quoted

variable {separator : Char} {left right text : List Char}

theorem nil : Quoted separator [] := rfl

theorem append (leftQuoted : Quoted separator left) (rightQuoted : Quoted separator right) :
    Quoted separator (left ++ right) := by
  rw [Quoted, scan_append, leftQuoted]
  exact rightQuoted

theorem of_plain (plain : ∀ char ∈ text, char ≠ '"' ∧ char ≠ '\\' ∧ char ≠ separator) :
    Quoted separator text := by
  induction text with
  | nil => exact nil
  | cons char text induction =>
      rcases List.forall_mem_cons.mp plain with ⟨⟨notQuote, notBackslash, notSeparator⟩, rest⟩
      rw [Quoted, scan, QuoteState.read, if_neg notQuote,
        if_neg (not_or.mpr ⟨notBackslash, notSeparator⟩)]
      exact induction rest

theorem intercalate {between : List Char} {texts : List (List Char)}
    (betweenQuoted : Quoted separator between) (quoted : ∀ text ∈ texts, Quoted separator text) :
    Quoted separator (between.intercalate texts) := by
  induction texts with
  | nil => exact nil
  | cons text texts induction =>
      rcases List.forall_mem_cons.mp quoted with ⟨first, rest⟩
      cases texts with
      | nil => simpa using first
      | cons next texts =>
          rw [List.intercalate_cons_cons]
          exact (first.append betweenQuoted).append (induction rest)

theorem enclose (body : inside.scan separator text = some inside) :
    Quoted separator ('"' :: text ++ ['"']) := by
  rw [List.cons_append, Quoted, scan, QuoteState.read, if_pos rfl]
  rw [Option.bind_some, scan_append, body]
  rfl

theorem not_after_separator (plain : separator ≠ '"' ∧ separator ≠ '\\')
    (rest : Quoted separator right) : ¬Quoted separator (left ++ separator :: right) := by
  intro whole
  rw [Quoted, scan_append, Option.bind_eq_some_iff] at whole
  rcases whole with ⟨state, _, after⟩
  have within : inside.scan separator right = some outside := by
    cases state with
    | outside => simp [scan, QuoteState.read, plain.1] at after
    | inside => simpa [scan, QuoteState.read, plain.1, plain.2] using after
    | escaped => simp [scan, QuoteState.read] at after
  rcases scan_opposite rest within with ⟨-, closed⟩ | ⟨opened, -⟩
  · cases closed
  · cases opened

theorem eq_of_append_separators_of_le (plain : separator ≠ '"' ∧ separator ≠ '\\') (count : Nat)
    {firstText secondText first second : List Char} (shorter : firstText.length ≤ secondText.length)
    (firstQuoted : Quoted separator first) (secondQuoted : Quoted separator second)
    (same : firstText ++ List.replicate (count + 1) separator ++ first =
      secondText ++ List.replicate (count + 1) separator ++ second) :
    firstText = secondText ∧ first = second := by
  have different : ∀ left, first ≠ left ++ separator :: second := fun left split =>
    not_after_separator plain secondQuoted (split ▸ firstQuoted)
  rw [List.append_assoc, List.append_assoc, List.append_eq_append_iff] at same
  rcases same with ⟨moved, rfl, same⟩ | ⟨moved, rfl, same⟩
  · rw [List.append_eq_append_iff] at same
    rcases same with ⟨more, rfl, split⟩ | ⟨kept, separators, same⟩
    · rw [List.replicate_succ', List.append_assoc, ← List.append_assoc] at split
      exact absurd split (different _)
    · rcases List.replicate_eq_append_iff.mp separators with ⟨total, allMoved, allKept⟩
      rw [← total, Nat.add_comm, ← List.replicate_append_replicate, ← allKept, ← allMoved,
        List.append_assoc, List.append_cancel_left_eq] at same
      cases moved with
      | nil => exact ⟨(List.append_nil _).symm, same.symm⟩
      | cons head moved =>
          rw [allMoved, List.length_cons, List.replicate_succ', List.append_assoc] at same
          exact absurd same.symm (different _)
  · have notMoved : moved = [] := by
      rw [List.length_append] at shorter
      exact List.length_eq_zero_iff.mp (by omega)
    subst notMoved
    rw [List.nil_append, List.append_cancel_left_eq] at same
    exact ⟨List.append_nil _, same.symm⟩

theorem append_separators_inj (plain : separator ≠ '"' ∧ separator ≠ '\\') (count : Nat)
    {firstText secondText first second : List Char}
    (firstQuoted : Quoted separator first) (secondQuoted : Quoted separator second) :
    firstText ++ List.replicate (count + 1) separator ++ first =
        secondText ++ List.replicate (count + 1) separator ++ second ↔
      firstText = secondText ∧ first = second := by
  constructor
  · intro same
    rcases Nat.le_total firstText.length secondText.length with shorter | longer
    · exact eq_of_append_separators_of_le plain count shorter firstQuoted secondQuoted same
    · exact (eq_of_append_separators_of_le plain count longer secondQuoted firstQuoted
        same.symm).imp Eq.symm Eq.symm
  · rintro ⟨rfl, rfl⟩
    rfl

end Quoted

end EvalForge.Foundation
