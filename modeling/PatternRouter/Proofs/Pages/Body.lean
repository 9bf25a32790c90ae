import PatternRouter.Pages
import PatternRouter.Proofs.Json.Reading

/-!
# The bodies of the built-in pages

Each page answers with one object, which is read as the members of its view, whatever texts the
request brings. So a body tells all that its view holds, and nothing in a value can pass for another
member or for the end of the object.

* `Shows handler view members`: the handler answers with the members of the view, and its bodies
  tell views apart.
* `Shows.of_injective`: it is enough that the members tell views apart.
* `bodies_tell_views`: the main result, for the five pages.
-/

namespace PatternRouter.Pages

/-- A handler answers with an object of the members of its view. Its bodies for two contexts are
equal exactly if the views are. -/
structure Shows {View : Type} (handler : Handler) (view : RequestContext → View)
    (members : View → List Json.Member) : Prop where
  readBytes?_body : ∀ context,
    Json.readBytes? (handler context).body.bytes = some (members (view context))
  bytes_eq_iff : ∀ context context',
    (handler context).body.bytes = (handler context').body.bytes ↔ view context = view context'

/-- A handler that writes the members of its view shows it, if different views have different
members. -/
theorem Shows.of_injective {View : Type} {handler : Handler} {view : RequestContext → View}
    {members : View → List Json.Member}
    (hbody : ∀ context, (handler context).body = .ofText (Json.object (members (view context))))
    (hmembers : Function.Injective members) : Shows handler view members where
  readBytes?_body := by
    intro context
    rw [hbody]
    exact Json.readBytes?_object _
  bytes_eq_iff := by
    intro context context'
    rw [hbody, hbody, ← hmembers.eq_iff]
    exact Json.ofString_object_injective.eq_iff

/-! ## The members of the views -/

/-- A fingerprint is a member of its own, so a view without one has a member less. -/
theorem shows_home : Shows home homeView fun view =>
    ⟨"name", .text view.name⟩ :: (view.fingerprint.map (⟨"fingerprint", .text ·⟩)).toList := by
  apply Shows.of_injective
  · intro context
    show Http.Body.ofText (Json.object (homeView context).members) = _
    -- The fingerprint is written if there is one.
    cases h : (homeView context).fingerprint <;> simp [HomeView.members, h]
  · -- The number of members tells a view with a fingerprint from one without.
    rintro ⟨name, fingerprint⟩ ⟨name', fingerprint'⟩ h
    cases fingerprint <;> cases fingerprint' <;> simp_all

theorem shows_foo : Shows foo fooView fun view =>
    [⟨"name", .text view.name⟩, ⟨"bar", .text view.bar⟩] := by
  apply Shows.of_injective
  · exact fun context => rfl
  · rintro ⟨name, bar⟩ ⟨name', bar'⟩ h
    simp_all

/-- A tab that is asked for is a text, also if it is `null`. -/
theorem shows_user : Shows user userView fun view =>
    [⟨"viewer", .text view.viewer⟩, ⟨"user", .text view.user⟩,
      ⟨"tab", view.tab.elim .null .text⟩] := by
  apply Shows.of_injective
  · intro context
    show Http.Body.ofText (Json.object (userView context).members) = _
    cases h : (userView context).tab <;> simp [UserView.members, h]
  · -- The value of the last member tells no tab from a tab with any text.
    rintro ⟨viewer, user, tab⟩ ⟨viewer', user', tab'⟩ h
    cases tab <;> cases tab' <;> simp_all

theorem shows_comments : Shows comments commentsView fun view =>
    [⟨"viewer", .text view.viewer⟩, ⟨"user", .text view.user⟩, ⟨"post_id", .text view.postId⟩] := by
  apply Shows.of_injective
  · exact fun context => rfl
  · rintro ⟨viewer, user, postId⟩ ⟨viewer', user', postId'⟩ h
    simp_all

theorem shows_input : Shows input inputView fun view =>
    [⟨"viewer", .text view.viewer⟩, ⟨"next", .text view.next⟩, ⟨"input", .text view.input⟩] := by
  apply Shows.of_injective
  · exact fun context => rfl
  · rintro ⟨viewer, next, input⟩ ⟨viewer', next', input'⟩ h
    simp_all

/-! ## Optional members -/

/-- The page at the root has a fingerprint exactly if the client has an identity. -/
theorem exists_fingerprint_iff {context : RequestContext} {members : List Json.Member}
    (h : Json.readBytes? (home context).body.bytes = some members) :
    (∃ member ∈ members, member.name = "fingerprint") ↔ context.identity.isSome := by
  rw [shows_home.readBytes?_body] at h
  obtain rfl := Option.some.inj h
  cases hidentity : context.identity <;> simp [homeView, hidentity]

/-- The five pages answer with the members of their views, in their order, and with equal bodies
exactly if the views are equal. In particular no identity, whatever its name, is taken for none, and
no tab that is asked for is taken for none. -/
theorem bodies_tell_views :
    (Shows home homeView fun view =>
      ⟨"name", .text view.name⟩ :: (view.fingerprint.map (⟨"fingerprint", .text ·⟩)).toList) ∧
    (Shows foo fooView fun view => [⟨"name", .text view.name⟩, ⟨"bar", .text view.bar⟩]) ∧
    (Shows user userView fun view =>
      [⟨"viewer", .text view.viewer⟩, ⟨"user", .text view.user⟩,
        ⟨"tab", view.tab.elim .null .text⟩]) ∧
    (Shows comments commentsView fun view =>
      [⟨"viewer", .text view.viewer⟩, ⟨"user", .text view.user⟩,
        ⟨"post_id", .text view.postId⟩]) ∧
    (Shows input inputView fun view =>
      [⟨"viewer", .text view.viewer⟩, ⟨"next", .text view.next⟩, ⟨"input", .text view.input⟩]) ∧
    (∀ context members, Json.readBytes? (home context).body.bytes = some members →
      ((∃ member ∈ members, member.name = "fingerprint") ↔ context.identity.isSome)) ∧
    (∀ context context', context.identity.isSome → context'.identity = none →
      (home context).body.bytes ≠ (home context').body.bytes) ∧
    (∀ context context' tab, context.queryParam? "tab" = none →
      context'.queryParam? "tab" = some tab →
      (user context).body.bytes ≠ (user context').body.bytes) := by
  refine ⟨shows_home, shows_foo, shows_user, shows_comments, shows_input,
    fun _ _ => exists_fingerprint_iff, ?_, ?_⟩
  · intro context context' hidentity hnone hbody
    have hview := (shows_home.bytes_eq_iff context context').1 hbody
    obtain ⟨identity, hidentity⟩ := Option.isSome_iff_exists.1 hidentity
    simp [homeView, hidentity, hnone] at hview
  · intro context context' tab hnone htab hbody
    have hview := (shows_user.bytes_eq_iff context context').1 hbody
    simp [userView, hnone, htab] at hview

/-- A client whose name is `anonymous`, and a tab that is the text `null`, with a value of the path
that looks like the end of a text and a member behind it. -/
theorem bodies_tell_views_lookalikes :
    let context (identity : Option Identity) (tab : List (String × String)) : RequestContext :=
      ⟨"/", "", ⟨tab⟩, ⟨[("name", "x\",\"tab\":null\x7d\x1f")]⟩, identity⟩
    (home (context (some ⟨"anonymous", ""⟩) [])).body.bytes ≠
      (home (context none [])).body.bytes ∧
    (user (context none [("tab", "null")])).body.bytes ≠ (user (context none [])).body.bytes ∧
    Json.readBytes? (user (context none [])).body.bytes = some [⟨"viewer", .text "anonymous"⟩,
      ⟨"user", .text "x\",\"tab\":null\x7d\x1f"⟩, ⟨"tab", .null⟩] := by
  intro context
  obtain ⟨-, -, huser, -, -, -, hidentity, htab⟩ := bodies_tell_views
  refine ⟨hidentity _ _ rfl rfl, ?_, huser.readBytes?_body (context none [])⟩
  exact Ne.symm (htab _ _ "null" rfl rfl)

end PatternRouter.Pages
