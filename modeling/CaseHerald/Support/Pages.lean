import CaseHerald.Proc
import CaseHerald.Support.Payload

/-!
# Listings in pages

A listing comes in pages, each with the token of the one after it. It ends with a page that has no
token, an empty one, or one that has been followed before, and after a thousand pages at the latest,
so that it ends whatever the service answers.
-/
namespace CaseHerald.Support

/-- The most pages of a listing. -/
def mostPages : Nat := 1000

/-- The token to follow after a page, if it has one that has not been followed. -/
def followedToken? (seen : List String) (next : Option String) : Option String :=
  match next with
  | none => none
  | some token => if token.isEmpty || seen.contains token then none else some token

/-- The items of at most `left` pages, from the page of the token on. -/
def itemsFrom {P : Interface} {ε α : Type} (fetch : Option String → Attempt P ε (Page α)) :
    (left : Nat) → (seen : List String) → (token : Option String) → Attempt P ε (List α)
  | 0, _, _ => return []
  | left + 1, seen, token => do
    let page ← fetch token
    match followedToken? seen page.next with
    | none => return page.items
    | some token =>
      let rest ← itemsFrom fetch left (token :: seen) (some token)
      return page.items ++ rest

/-- The items of all pages, in the order of the pages. -/
def allItems {P : Interface} {ε α : Type} (fetch : Option String → Attempt P ε (Page α)) :
    Attempt P ε (List α) :=
  itemsFrom fetch mostPages [] none

end CaseHerald.Support
