import CaseHerald.Case.Name
import Mathlib.Data.List.Count

/-!
# Names of cases are taken apart as they are made

A name is taken apart at its last separator. A number has no slash, so the last slash of a name is the
one that ends the separator which its number follows, whatever the parent has in it: separators of its
own, or a part of one at its end. So splitting undoes joining (`CaseName.split?_join`), joining undoes
splitting (`CaseName.join_of_split?`), and `CaseName.split?_eq_some_iff` says which names have parts.
-/
namespace CaseHerald.CaseName

/-! ## The last separator -/

theorem eq_of_splitLast {cs before after : List Char} (h : splitLast cs = some (before, after)) :
    cs = before ++ separator ++ after := by
  induction cs generalizing before with
  | nil => cases h
  | cons c cs ih =>
    rw [splitLast] at h
    -- a separator further back goes before one that stands here
    split at h
    next front back hrest =>
      cases h
      rw [ih hrest]
      rfl
    next =>
      split at h
      next hprefix =>
        cases h
        obtain ⟨rest, hrest⟩ := List.isPrefixOf_iff_prefix.1 hprefix
        rw [← hrest, List.drop_left, List.nil_append]
      next => cases h

/-- Characters with fewer than two slashes have no separator. -/
theorem splitLast_eq_none {cs : List Char} (h : cs.count '/' < 2) : splitLast cs = none := by
  cases hsplit : splitLast cs with
  | none => rfl
  | some parts =>
    have hcount : separator.count '/' = 2 := rfl
    rw [eq_of_splitLast hsplit, List.count_append, List.count_append, hcount] at h
    omega

/-- The last separator is the one that no slash follows. -/
theorem splitLast_append {after : List Char} (h : '/' ∉ after) (before : List Char) :
    splitLast (before ++ separator ++ after) = some (before, after) := by
  induction before with
  | nil =>
    have hnone : splitLast (['c', 'a', 's', 'e', 's', '/'] ++ after) = none := by
      refine splitLast_eq_none ?_
      rw [List.count_append, List.count_eq_zero.2 h]
      decide
    have hhere : [] ++ separator ++ after = '/' :: (['c', 'a', 's', 'e', 's', '/'] ++ after) := rfl
    rw [hhere, splitLast, hnone]
    rfl
  | cons c before ih => rw [List.cons_append, List.cons_append, splitLast, ih]

/-! ## Parts of names -/

/-- **Which names have parts**, and which parts. -/
theorem split?_eq_some_iff {name parent number : String} :
    split? name = some (parent, number) ↔
      name = parent ++ "/cases/" ++ number ∧ parent ≠ "" ∧ number ≠ "" ∧ '/' ∉ number.toList := by
  have hseparator : ("/cases/" : String).toList = separator := rfl
  constructor
  · intro h
    unfold split? at h
    split at h
    next => cases h
    next front back hsplit =>
      split at h
      next => cases h
      next hparts =>
        cases h
        simp only [Bool.or_eq_true, not_or, List.isEmpty_iff, List.contains_eq_mem,
          decide_eq_true_iff] at hparts
        obtain ⟨⟨hparent, hnumber⟩, hslash⟩ := hparts
        refine ⟨String.toList_inj.1 ?_, by simpa using hparent, by simpa using hnumber, by simpa using hslash⟩
        simp [eq_of_splitLast hsplit, hseparator]
  · rintro ⟨rfl, hparent, hnumber, hslash⟩
    have hsplit : splitLast (parent ++ "/cases/" ++ number).toList =
        some (parent.toList, number.toList) := by
      rw [String.toList_append, String.toList_append, hseparator, splitLast_append hslash]
    rw [split?, hsplit]
    simp [hparent, hnumber, hslash]

/-- A name is made with a separator, unless there is no parent. -/
theorem join_of_ne {parent : String} (h : parent ≠ "") (number : String) :
    join parent number = parent ++ "/cases/" ++ number := by
  have hparent : parent.isEmpty = false := by simpa using h
  rw [join, hparent]
  rfl

/-- The parts of a name make up the name. -/
theorem join_of_split? {name parent number : String} (h : split? name = some (parent, number)) :
    join parent number = name := by
  obtain ⟨rfl, hparent, -, -⟩ := split?_eq_some_iff.1 h
  exact join_of_ne hparent number

/-- Parts are found again in the name that they make up. -/
theorem split?_join {parent number : String} (hparent : parent ≠ "") (hnumber : number ≠ "")
    (hslash : '/' ∉ number.toList) : split? (join parent number) = some (parent, number) :=
  split?_eq_some_iff.2 ⟨join_of_ne hparent number, hparent, hnumber, hslash⟩

/-- **Splitting is the inverse of joining.** A name has the parts of which it is made, the record of a
case with these parts has the name, and parts that a case may have are found again in their name. -/
theorem split_inverts_join (name parent number : String) :
    (split? name = some (parent, number) ↔
      name = parent ++ "/cases/" ++ number ∧ parent ≠ "" ∧ number ≠ "" ∧ '/' ∉ number.toList) ∧
    (∀ r : CaseRecord, split? name = some (r.parent, r.number) → r.resourceName = name) ∧
    (parent ≠ "" → number ≠ "" → '/' ∉ number.toList →
      split? (join parent number) = some (parent, number)) :=
  ⟨split?_eq_some_iff, fun _ h => join_of_split? h, split?_join⟩

theorem split_inverts_join_nested :
    split? (join "a/cases/b/cases" "7") = some ("a/cases/b/cases", "7") ∧
      join "a/cases/b/cases" "7" = "a/cases/b/cases/cases/7" :=
  ⟨(split_inverts_join "" "a/cases/b/cases" "7").2.2 (by decide) (by decide) (by decide), by decide⟩

end CaseHerald.CaseName
