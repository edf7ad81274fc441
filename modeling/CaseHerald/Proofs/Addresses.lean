import CaseHerald.Watch.AutoSubscribe
import Mathlib.Data.List.Basic

/-!
# Addresses up to the case of their letters

Addresses are added to those that are known, one after the other, unless they are known in some letter
case. `newTo` lists what that adds (`foldl_addAddress`): every address is known after it
(`knows_newTo`), and no two of what is added, nor one of it and one that was known, are the same up to
letter case (`newTo_strange`). Adding what is all known adds nothing (`newTo_eq_nil_iff`).
-/
namespace CaseHerald.Watch

theorem sameAddress_iff {a b : String} :
    sameAddress a b = true ↔ a.toList.map Char.toLower = b.toList.map Char.toLower := by
  simp [sameAddress]

theorem sameAddress_refl (a : String) : sameAddress a a = true := sameAddress_iff.2 rfl

/-- The address is among the known ones in some letter case. -/
def Knows (known : List String) (email : String) : Prop := ∃ k ∈ known, sameAddress k email = true

instance (known : List String) (email : String) : Decidable (Knows known email) :=
  inferInstanceAs (Decidable (∃ k ∈ known, sameAddress k email = true))

/-- The addresses that are new to the known ones, each once. -/
def newTo : List String → List String → List String
  | _, [] => []
  | known, e :: es => if Knows known e then newTo known es else e :: newTo (known ++ [e]) es

/-- None of the addresses is known, nor do two of them differ in letter case only. -/
def Strange : List String → List String → Prop
  | _, [] => True
  | known, e :: es => ¬Knows known e ∧ Strange (known ++ [e]) es

variable {known more emails es : List String} {e : String}

theorem Knows.mono (h : known ⊆ more) (hk : Knows known e) : Knows more e := by
  obtain ⟨k, hk, hsame⟩ := hk
  exact ⟨k, h hk, hsame⟩

theorem knows_append : Knows (known ++ more) e ↔ Knows known e ∨ Knows more e := by
  simp [Knows, or_and_right, exists_or]

theorem knows_of_mem (h : e ∈ known) : Knows known e := ⟨e, h, sameAddress_refl e⟩

theorem addAddress_eq (known : List String) (e : String) :
    addAddress known e = if Knows known e then known else known ++ [e] := by
  have hany : (known.any (sameAddress · e)) = decide (Knows known e) := by
    rw [Bool.eq_iff_iff, decide_eq_true_iff, List.any_eq_true]
    rfl
  rw [addAddress, hany]
  by_cases h : Knows known e <;> simp [h]

/-! ## What is added -/

/-- **Adding addresses adds those that are new.** -/
theorem foldl_addAddress (known emails : List String) :
    emails.foldl addAddress known = known ++ newTo known emails := by
  induction emails generalizing known with
  | nil => exact (List.append_nil known).symm
  | cons e es ih =>
    rw [List.foldl_cons, addAddress_eq, newTo]
    split
    · exact ih known
    · rw [ih, List.append_assoc]
      rfl

theorem newTo_sublist (known emails : List String) : (newTo known emails).Sublist emails := by
  induction emails generalizing known with
  | nil => exact .slnil
  | cons e es ih =>
    rw [newTo]
    split
    · exact (ih known).cons e
    · exact (ih _).cons_cons e

/-- Every address is known after it has been added. -/
theorem knows_newTo (known : List String) (h : e ∈ emails) : Knows (known ++ newTo known emails) e := by
  induction emails generalizing known with
  | nil => cases h
  | cons d es ih =>
    rw [newTo]
    split
    next hd =>
      rcases List.mem_cons.1 h with rfl | h
      · exact hd.mono (List.subset_append_left _ _)
      · exact ih known h
    · rw [List.append_cons]
      rcases List.mem_cons.1 h with rfl | h
      · exact knows_of_mem (List.mem_append_left _ (List.mem_append_right _ List.mem_cons_self))
      · exact ih _ h

/-- What is added in two goes. -/
theorem newTo_append (known emails es : List String) :
    newTo known (emails ++ es) =
      newTo known emails ++ newTo (known ++ newTo known emails) es := by
  have hfold := foldl_addAddress known (emails ++ es)
  rw [List.foldl_append, foldl_addAddress known, foldl_addAddress, List.append_assoc] at hfold
  exact (List.append_cancel_left hfold).symm

/-- Nothing is added exactly if every address is known. -/
theorem newTo_eq_nil_iff : newTo known emails = [] ↔ ∀ e ∈ emails, Knows known e := by
  constructor
  · intro hnil e he
    have hknows := knows_newTo known he
    rwa [hnil, List.append_nil] at hknows
  · intro hall
    induction emails with
    | nil => rfl
    | cons e es ih =>
      rw [newTo, if_pos (hall e List.mem_cons_self)]
      exact ih fun d hd => hall d (List.mem_cons_of_mem _ hd)

/-- Adding the same addresses again adds nothing. -/
theorem newTo_newTo (known emails : List String) :
    newTo (known ++ newTo known emails) emails = [] :=
  newTo_eq_nil_iff.2 fun _ he => knows_newTo known he

/-! ## Strange addresses -/

theorem newTo_strange (known emails : List String) : Strange known (newTo known emails) := by
  induction emails generalizing known with
  | nil => trivial
  | cons e es ih =>
    rw [newTo]
    split
    · exact ih known
    next he => exact ⟨he, ih _⟩

theorem Strange.mono (h : Strange more es) (hsub : known ⊆ more) : Strange known es := by
  induction es generalizing known more with
  | nil => trivial
  | cons e es ih =>
    refine ⟨fun hk => h.1 (hk.mono hsub), ih h.2 ?_⟩
    exact List.append_subset.2 ⟨List.subset_append_of_subset_left _ hsub, List.subset_append_right _ _⟩

/-- Strange addresses are all new. -/
theorem Strange.newTo_eq (h : Strange known es) : newTo known es = es := by
  induction es generalizing known with
  | nil => rfl
  | cons e es ih => rw [newTo, if_neg h.1, ih h.2]

theorem strange_iff :
    Strange known es ↔
      (∀ e ∈ es, ¬Knows known e) ∧ es.Pairwise fun a b => ¬sameAddress a b = true := by
  induction es generalizing known with
  | nil => simp [Strange]
  | cons e es ih =>
    have hone (d : String) : Knows [e] d ↔ sameAddress e d = true := by simp [Knows]
    simp only [Strange, ih, knows_append, hone, not_or, List.mem_cons, forall_eq_or_imp,
      List.pairwise_cons]
    constructor
    · rintro ⟨he, hes, hpairs⟩
      exact ⟨⟨he, fun d hd => (hes d hd).1⟩, fun d hd => (hes d hd).2, hpairs⟩
    · rintro ⟨⟨he, hes⟩, hfirst, hpairs⟩
      exact ⟨he, fun d hd => ⟨hes d hd, hfirst d hd⟩, hpairs⟩

end CaseHerald.Watch
