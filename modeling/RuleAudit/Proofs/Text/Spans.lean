import Mathlib.Data.List.Basic

/-!
# Spans that nest

Items with a first and a last place, and with items inside them, lie one after the other from one place
to another, and those inside an item lie so from its first to its last place. Regions nest so by their
lines and nodes by their places in the text.
-/

namespace RuleAudit

section

variable {α : Type} (least : Nat) (first last : α → Nat) (inner : α → List α)

/-- Neighbouring items lie in order between two places: each ends where the next one begins or before,
each is at least so long, and those inside it lie so within its own span. -/
inductive Nests : (lower upper : Nat) → List α → Prop
  | nil {lower upper : Nat} : Nests lower upper []
  | cons {lower upper : Nat} {item : α} {later : List α} (hfirst : lower ≤ first item)
      (hspan : first item + least ≤ last item) (hlast : last item ≤ upper)
      (hinner : Nests (first item) (last item) (inner item))
      (hlater : Nests (last item) upper later) : Nests lower upper (item :: later)

end

namespace Nests

variable {α : Type} {least : Nat} {first last : α → Nat} {inner : α → List α} {lower upper : Nat}
  {items later : List α}

/-- Items between two places lie between places further out. -/
theorem mono (hitems : Nests least first last inner lower upper items) {before behind : Nat}
    (hlower : before ≤ lower) (hupper : upper ≤ behind) :
    Nests least first last inner before behind items := by
  induction items generalizing lower before with
  | nil => exact .nil
  | cons item later ih =>
    cases hitems with
    | cons hfirst hspan hlast hinner hlater =>
      exact .cons (by omega) hspan (by omega) hinner (ih hlater (Nat.le_refl _))

/-- Items followed by items that lie behind them. -/
theorem append {middle next : Nat} (hitems : Nests least first last inner lower middle items)
    (hlater : Nests least first last inner next upper later) (hlower : lower ≤ next)
    (hmiddle : middle ≤ next) (hupper : middle ≤ upper) :
    Nests least first last inner lower upper (items ++ later) := by
  induction items generalizing lower with
  | nil => exact hlater.mono hlower (Nat.le_refl _)
  | cons item others ih =>
    cases hitems with
    | cons hfirst hspan hlast hinner hothers =>
      exact .cons hfirst hspan (by omega) hinner (ih hothers (by omega))

/-- Where one of the items between two places lies. -/
theorem of_mem (hitems : Nests least first last inner lower upper items) {item : α}
    (hitem : item ∈ items) :
    lower ≤ first item ∧ first item + least ≤ last item ∧ last item ≤ upper ∧
      Nests least first last inner (first item) (last item) (inner item) := by
  induction items generalizing lower with
  | nil => cases hitem
  | cons next later ih =>
    cases hitems with
    | cons hfirst hspan hlast hinner hlater =>
      rcases List.mem_cons.mp hitem with rfl | hitem
      · exact ⟨hfirst, hspan, hlast, hinner⟩
      · obtain ⟨hbefore, hbounds⟩ := ih hlater hitem
        exact ⟨by omega, hbounds⟩

/-- Each of the items between two places ends where a later one begins or before. -/
theorem pairwise (hitems : Nests least first last inner lower upper items) :
    items.Pairwise fun earlier next => last earlier ≤ first next := by
  induction items generalizing lower with
  | nil => exact .nil
  | cons item later ih =>
    cases hitems with
    | cons _ _ _ _ hlater =>
      apply List.pairwise_cons.mpr
      exact ⟨fun next hnext => (hlater.of_mem hnext).1, ih hlater⟩

end Nests

end RuleAudit
