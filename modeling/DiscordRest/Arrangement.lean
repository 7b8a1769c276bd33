/-!
Orders of what has none. A map lists its keys in an order of its own, and another map with the same
keys may list them in another one; what the texts of such a list show depends on it.
-/

namespace DiscordRest

/-- An order in which texts are listed that come from a map. -/
structure Arrangement where
  /-- The texts in this order. -/
  arrange : List String → List String
  /-- None of them is left out or repeated. -/
  perm : ∀ texts, (arrange texts).Perm texts

/-- The order in which the texts are given. -/
def Arrangement.asGiven : Arrangement :=
  ⟨id, .refl⟩

/-- What has at most one text leaves no choice of an order. -/
theorem Arrangement.arrange_of_length_le_one (order : Arrangement) {texts : List String}
    (few : texts.length ≤ 1)
    : order.arrange texts = texts := by
  match texts with
  | [] => exact (order.perm []).eq_nil
  | [text] => exact List.perm_singleton.mp (order.perm [text])

end DiscordRest
