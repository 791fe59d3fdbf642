import Mathlib
import SourceAudit.Text.Basic

/-! How lists are cut: at separators, which are left out, and behind an element that ends each run. -/

namespace SourceAudit.Segments

open List

variable {α : Type} [BEq α]

theorem splitOn_eq (sep : α) (xs : List α) : splitOn sep xs = xs.takeWhile (· != sep) :: (splitOn sep xs).tail := by
  induction xs with
  | nil => rfl
  | cons x xs ih =>
    rw [splitOn, takeWhile_cons, bne]
    cases x == sep with
    | true => rfl
    | false =>
      rw [ih]
      rfl

theorem ne_nil_of_mem_runs {last : α} {xs r : List α} (mem : r ∈ runs last xs) : r ≠ [] := by
  induction xs with
  | nil => simp [runs] at mem
  | cons x xs ih =>
    rw [runs] at mem
    split at mem
    · rcases mem_cons.mp mem with rfl | later
      · simp
      · exact ih later
    · rcases mem_cons.mp mem with rfl | later
      · simp
      · exact ih (mem_of_mem_tail later)

theorem flatten_runs (last : α) (xs : List α) : (runs last xs).flatten = xs := by
  induction xs with
  | nil => rfl
  | cons x xs ih =>
    rw [runs]
    split
    · simp [ih]
    · cases all : runs last xs <;> simp_all

variable [LawfulBEq α]

theorem splitOn_append_cons (sep : α) (before after : List α) :
    splitOn sep (before ++ sep :: after) = splitOn sep before ++ splitOn sep after := by
  induction before with
  | nil => simp [splitOn]
  | cons x before ih =>
    rw [cons_append, splitOn, splitOn, ih, splitOn_eq sep before]
    split <;> rfl

variable {sep : α} {xs : List α}

theorem splitOn_of_not_mem (whole : sep ∉ xs) : splitOn sep xs = [xs] := by
  induction xs with
  | nil => rfl
  | cons x xs ih =>
    rw [mem_cons, not_or] at whole
    rw [splitOn, if_neg (by simpa using Ne.symm whole.1), ih whole.2]

theorem cut_append (absent : sep ∉ xs) (ys : List α) : cut sep (xs ++ sep :: ys) = some (xs, ys) := by
  induction xs with
  | nil => simp [cut]
  | cons x xs ih =>
    rw [mem_cons, not_or] at absent
    simp [cut, Ne.symm absent.1, ih absent.2]

end SourceAudit.Segments
