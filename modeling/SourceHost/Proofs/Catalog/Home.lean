import SourceHost.Catalog.Home

/-!
# Home screens under construction

A home screen that is sent piece by piece is made to bear the name of its source after every piece.
It comes to the same when it is done once in the end, since the name is written where titles are
not: a piece finds its place as it would have without it.

* `HomeComponent.stamped_stamped` — of two names the second one counts.
* `Home.map_place` — the place of a component depends on titles only.
* `Home.stamped_apply_stamped` — a piece more on a home screen that bears the name already.
* `Home.assembled` — what comes of several pieces, with the name written once.
-/

set_option autoImplicit false

namespace SourceHost

variable (sourceKey : String)

/-! ## Names of sources -/

theorem LinkValue.stamped_stamped (other : String) (v : LinkValue) :
    (v.stamped other).stamped sourceKey = v.stamped sourceKey := by
  cases v <;> rfl

theorem Link.stamped_stamped (other : String) (l : Link) :
    (l.stamped other).stamped sourceKey = l.stamped sourceKey := by
  simp [stamped, Function.comp_def, LinkValue.stamped_stamped]

theorem HomeContent.stamped_stamped (other : String) (c : HomeContent) :
    (c.stamped other).stamped sourceKey = c.stamped sourceKey := by
  cases c <;> simp [stamped, Function.comp_def, Link.stamped_stamped, Manga.stamped]

theorem HomeComponent.stamped_stamped (other : String) (c : HomeComponent) :
    (c.stamped other).stamped sourceKey = c.stamped sourceKey := by
  simp [stamped, HomeContent.stamped_stamped]

namespace Home

/-! ## Pieces -/

/-- A change to all components that keeps titles can be made before or after a component is put in
its place. -/
theorem map_place {f : HomeComponent → HomeComponent} (hf : ∀ c, (f c).title = c.title)
    (c : HomeComponent) (l : List HomeComponent) :
    (place c l).map f = place (f c) (l.map f) := by
  induction l with
  | nil => rfl
  | cons d l ih =>
    rw [place, List.map_cons, place, hf, hf]
    split
    · rfl
    · rw [List.map_cons, ih]

/-- A piece more on a home screen that bears the name of its source already. -/
theorem stamped_apply_stamped (h : Home) (u : HomeUpdate) :
    ((h.stamped sourceKey).apply u).stamped sourceKey = (h.apply u).stamped sourceKey := by
  cases u with
  | layout home => rfl
  | component c =>
    have hplace := map_place (f := (·.stamped sourceKey)) fun _ ↦ rfl
    simp only [apply, stamped, hplace, List.map_map, Function.comp_def,
      HomeComponent.stamped_stamped]

/-- What has been put together of some pieces, if there are any. -/
def assembled (updates : List HomeUpdate) : Option Home :=
  if updates = [] then none else some ((updates.foldl apply {}).stamped sourceKey)

theorem assembled_append_singleton (updates : List HomeUpdate) (u : HomeUpdate) :
    assembled sourceKey (updates ++ [u]) =
      some ((((assembled sourceKey updates).getD {}).apply u).stamped sourceKey) := by
  have hsome : updates ++ [u] ≠ [] := List.append_ne_nil_of_right_ne_nil _ (List.cons_ne_nil u [])
  rw [assembled, if_neg hsome, List.foldl_append, assembled]
  split
  · rename_i hnone
    subst hnone
    rfl
  · exact congrArg some (stamped_apply_stamped sourceKey _ u).symm

end Home

end SourceHost
