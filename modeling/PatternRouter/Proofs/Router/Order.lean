import Mathlib.Logic.Equiv.Basic
import PatternRouter.Proofs.Pattern.Comparison
import PatternRouter.Proofs.Router.FirstMatch

/-!
# The order of routes

A request goes to the first route that matches its path, so the order of two routes matters exactly
if some path is matched by both. What the patterns of routes say about this is `Pattern.Covers` and
`Pattern.Apart`.

The main results are:

* `covers_iff_shadowed`: a pattern that covers a later one takes all its requests, and one that does
  not lets some request through;
* `apart_iff_exchangeable`: routes whose patterns are apart can be exchanged where they are
  adjacent, and a dispatch does the same with the indices of the two routes exchanged
  (`Step.reindex`);
* `Router.dispatch_perm`: routes of which at most one matches a path (`Exclusive`) serve it alike in
  any order.
-/

namespace PatternRouter

/-- A step with other indices of routes. -/
def Step.reindex (f : Nat → Nat) : Step → Step
  | .call route context => .call (f route) context
  | step => step

variable {routes front back : List Route} {path : String} {index : Nat} {route first second : Route}
  {params : Params}

/-! ## Routes that are never reached -/

/-- A handler is called only by the first match, with what that match binds and the identity that
the resolver gives. -/
theorem Router.firstMatch_of_call_mem {router : Router} {request : InboundRequest}
    {context : RequestContext} (h : .call index context ∈ (router.dispatch request).steps) :
    ∃ route params identity, FirstMatch router.routes request.path index route params ∧
      router.resolver request.credential = .ok identity ∧
      context = request.context params identity := by
  rcases unmatched_or_firstMatch router.routes request.path with
    hnone | ⟨found, route, params, hfirst⟩
  · simp [dispatch_of_unmatched hnone] at h
  · rcases hresolve : router.resolver request.credential with error | identity
    · simp [dispatch_of_error hfirst hresolve] at h
    · obtain ⟨rfl, rfl⟩ : index = found ∧ context = request.context params identity := by
        simpa [dispatch_of_ok hfirst hresolve] using h
      exact ⟨route, params, identity, hfirst, rfl, rfl⟩

/-- No request reaches a route behind one that matches all its paths. -/
theorem Router.call_not_mem_of_shadowed {router : Router} {earlier later : Nat}
    (hlt : earlier < later) (hfirst : router.routes[earlier]? = some first)
    (hsecond : router.routes[later]? = some second)
    (hshadow : ∀ path, (second.pattern.match? path).isSome → (first.pattern.match? path).isSome)
    (request : InboundRequest) (context : RequestContext) :
    .call later context ∉ (router.dispatch request).steps := by
  intro hcall
  obtain ⟨route, params, -, hmatch, -⟩ := firstMatch_of_call_mem hcall
  obtain rfl : route = second := Option.some.inj (hmatch.getElem?.symm.trans hsecond)
  -- The earlier route matches the path as well, but nothing before the first match does.
  have hsome := hshadow request.path (by rw [hmatch.match?]; rfl)
  rw [hmatch.least earlier hlt first hfirst] at hsome
  cases hsome

/-- A path that only the second of two routes matches is served by it. -/
theorem Router.dispatch_second {resolver : Resolver} {request : InboundRequest}
    {identity : Option Identity} (hnone : first.pattern.match? request.path = none)
    (hmatch : second.pattern.match? request.path = some params)
    (hresolve : resolver request.credential = .ok identity) :
    Router.dispatch ⟨[first, second], resolver⟩ request =
      ⟨.handled (second.handler (request.context params identity)),
        [.log (.routeMatched request.path second.pattern.source), .resolve request.credential,
          .call 1 (request.context params identity)]⟩ := by
  have hfirst : FirstMatch [first, second] request.path 1 second params :=
    FirstMatch.cons_succ_iff.2 ⟨hnone, FirstMatch.cons_zero_iff.2 ⟨rfl, hmatch⟩⟩
  exact dispatch_of_ok hfirst hresolve

/-- Whether a pattern covers another one decides whether its paths include those of the other.
Behind a route whose pattern covers its own, a route gets no request; behind one whose pattern does
not, it gets those of some path. -/
theorem covers_iff_shadowed {source source' : String} {a b : Pattern}
    (ha : Pattern.parse source = .ok a) (hb : Pattern.parse source' = .ok b) :
    ((∀ path, (b.match? path).isSome → (a.match? path).isSome) ↔ a.Covers b) ∧
    (a.Covers b → ∀ (router : Router) (earlier later : Nat) (handler handler' : Handler),
      earlier < later → router.routes[earlier]? = some ⟨a, handler⟩ →
      router.routes[later]? = some ⟨b, handler'⟩ →
      ∀ request context, .call later context ∉ (router.dispatch request).steps) ∧
    (¬ a.Covers b → ∀ handler handler' : Handler, ∃ path, ∀ request : InboundRequest,
      request.path = path → ∃ context,
        (Router.ofRoutes [⟨a, handler⟩, ⟨b, handler'⟩]).dispatch request =
          ⟨.handled (handler' context),
            [.log (.routeMatched path b.source), .resolve request.credential,
              .call 1 context]⟩) := by
  have hiff := Pattern.forall_match?_iff_covers (Pattern.wellFormed_of_parse ha)
    (Pattern.wellFormed_of_parse hb)
  refine ⟨hiff, ?_, ?_⟩
  · intro hcovers router earlier later handler handler' hlt hfirst hsecond
    exact Router.call_not_mem_of_shadowed hlt hfirst hsecond (hiff.2 hcovers)
  · intro hcovers handler handler'
    rw [← hiff] at hcovers
    simp only [not_forall, exists_prop, Option.not_isSome_iff_eq_none] at hcovers
    obtain ⟨path, hmatch, hnone⟩ := hcovers
    obtain ⟨params, hparams⟩ := Option.isSome_iff_exists.1 hmatch
    refine ⟨path, ?_⟩
    rintro request rfl
    exact ⟨request.context params none, Router.dispatch_second hnone hparams rfl⟩

/-- A splat covers a longer pattern with a splat, and not one that it is longer than. -/
theorem covers_iff_shadowed_splats :
    (∀ request context, .call 1 context ∉
      ((Router.ofRoutes [⟨⟨"/a/*x", [.literal "a", .splat "x"]⟩, fun _ => .ofStatus .ok⟩,
        ⟨⟨"/a//b/*y", [.literal "a", .literal "", .literal "b", .splat "y"]⟩,
          fun _ => .ofStatus .ok⟩]).dispatch request).steps) ∧
    ∃ path, (Pattern.match? ⟨"/a/*x", [.literal "a", .splat "x"]⟩ path).isSome ∧
      (Pattern.match? ⟨"/a//b/*y", [.literal "a", .literal "", .literal "b", .splat "y"]⟩
        path).isSome = false := by
  have ha : Pattern.parse "/a/*x" = .ok ⟨"/a/*x", [.literal "a", .splat "x"]⟩ := by decide
  have hb : Pattern.parse "/a//b/*y" =
      .ok ⟨"/a//b/*y", [.literal "a", .literal "", .literal "b", .splat "y"]⟩ := by decide
  obtain ⟨-, hshadow, -⟩ := covers_iff_shadowed ha hb
  obtain ⟨hiff, -, -⟩ := covers_iff_shadowed hb ha
  refine ⟨hshadow (by decide) _ 0 1 _ _ Nat.one_pos rfl rfl, ?_⟩
  have hnot := mt hiff.1 (by decide)
  simpa using hnot

/-! ## Routes at other indices -/

/-- If the first match moves to another index and stays the same route, a dispatch does the same but
for the index. -/
theorem Router.dispatch_reindex {router router' : Router} {f : Nat → Nat} {request : InboundRequest}
    (hresolver : router'.resolver = router.resolver)
    (hunmatched : Unmatched router.routes request.path → Unmatched router'.routes request.path)
    (hmatch : ∀ index route params, FirstMatch router.routes request.path index route params →
      FirstMatch router'.routes request.path (f index) route params) :
    router'.dispatch request =
      ⟨(router.dispatch request).outcome,
        (router.dispatch request).steps.map (Step.reindex f)⟩ := by
  rcases unmatched_or_firstMatch router.routes request.path with
    hnone | ⟨index, route, params, hfirst⟩
  · rw [dispatch_of_unmatched hnone, dispatch_of_unmatched (hunmatched hnone)]
    rfl
  · have hfirst' := hmatch index route params hfirst
    rcases hresolve : router.resolver request.credential with error | identity
    · rw [dispatch_of_error hfirst hresolve,
        dispatch_of_error hfirst' ((congrFun hresolver _).trans hresolve)]
      rfl
    · rw [dispatch_of_ok hfirst hresolve,
        dispatch_of_ok hfirst' ((congrFun hresolver _).trans hresolve)]
      rfl

/-! ## Routes that can be exchanged -/

theorem swap_succ (n i : Nat) :
    Equiv.swap (n + 1) (n + 1 + 1) (i + 1) = Equiv.swap n (n + 1) i + 1 := by
  rw [Equiv.swap_apply_def, Equiv.swap_apply_def]
  split_ifs <;> omega

theorem getElem?_exchange {α : Type} (front back : List α) (first second : α) (i : Nat) :
    (front ++ second :: first :: back)[Equiv.swap front.length (front.length + 1) i]? =
      (front ++ first :: second :: back)[i]? := by
  induction front generalizing i with
  | nil =>
    match i with
    | 0 => rfl
    | 1 => rfl
    | i + 2 => rfl
  | cons head front ih =>
    cases i with
    | zero => simp [Equiv.swap_apply_of_ne_of_ne]
    | succ i =>
      rw [List.length_cons, swap_succ, List.cons_append, List.cons_append, List.getElem?_cons_succ,
        List.getElem?_cons_succ, ih]

theorem Unmatched.exchange (h : Unmatched (front ++ first :: second :: back) path) :
    Unmatched (front ++ second :: first :: back) path := by
  intro route hroute
  apply h
  simp only [List.mem_append, List.mem_cons] at hroute ⊢
  rcases hroute with hroute | rfl | rfl | hroute <;> simp [*]

/-- The first match stays the same route if two routes are exchanged that do not both match. -/
theorem FirstMatch.exchange
    (hapart : ¬ ((first.pattern.match? path).isSome ∧ (second.pattern.match? path).isSome))
    (h : FirstMatch (front ++ first :: second :: back) path index route params) :
    FirstMatch (front ++ second :: first :: back) path
      (Equiv.swap front.length (front.length + 1) index) route params := by
  induction front generalizing index with
  | nil =>
    match index with
    | 0 =>
      -- The first of the two matches, so the other one does not.
      obtain ⟨rfl, hmatch⟩ := cons_zero_iff.1 h
      have hnone : second.pattern.match? path = none := by simpa [hmatch] using hapart
      exact cons_succ_iff.2 ⟨hnone, cons_zero_iff.2 ⟨rfl, hmatch⟩⟩
    | 1 =>
      obtain ⟨-, h⟩ := cons_succ_iff.1 h
      exact cons_zero_iff.2 (cons_zero_iff.1 h)
    | index + 2 =>
      obtain ⟨hfirst, h⟩ := cons_succ_iff.1 h
      obtain ⟨hsecond, h⟩ := cons_succ_iff.1 h
      exact cons_succ_iff.2 ⟨hsecond, cons_succ_iff.2 ⟨hfirst, h⟩⟩
  | cons head front ih =>
    cases index with
    | zero =>
      obtain ⟨rfl, hmatch⟩ := cons_zero_iff.1 h
      rw [Equiv.swap_apply_of_ne_of_ne (by simp) (by simp)]
      exact cons_zero_iff.2 ⟨rfl, hmatch⟩
    | succ index =>
      obtain ⟨hnone, h⟩ := cons_succ_iff.1 h
      rw [List.length_cons, swap_succ]
      exact cons_succ_iff.2 ⟨hnone, ih h⟩

/-- A dispatch does the same after an exchange, with the indices of the two routes exchanged. -/
theorem Router.dispatch_exchange {resolver : Resolver} {request : InboundRequest}
    (hapart : ¬ ((first.pattern.match? request.path).isSome ∧
      (second.pattern.match? request.path).isSome)) :
    Router.dispatch ⟨front ++ second :: first :: back, resolver⟩ request =
      ⟨(Router.dispatch ⟨front ++ first :: second :: back, resolver⟩ request).outcome,
        (Router.dispatch ⟨front ++ first :: second :: back, resolver⟩ request).steps.map
          (Step.reindex (Equiv.swap front.length (front.length + 1)))⟩ :=
  dispatch_reindex rfl Unmatched.exchange fun _ _ _ h => h.exchange hapart

/-- Two patterns have no path in common exactly if they are apart. Adjacent routes whose patterns
are apart can be exchanged in any table and with any resolver: each route stands at the exchanged
index, and a dispatch has the same outcome and takes the same steps up to the exchange of
indices. -/
theorem apart_iff_exchangeable {source source' : String} {a b : Pattern}
    (ha : Pattern.parse source = .ok a) (hb : Pattern.parse source' = .ok b) :
    ((∀ path, ¬ ((a.match? path).isSome ∧ (b.match? path).isSome)) ↔ a.Apart b) ∧
    (a.Apart b → ∀ (front back : List Route) (handler handler' : Handler) (resolver : Resolver),
      let before : Router := ⟨front ++ ⟨a, handler⟩ :: ⟨b, handler'⟩ :: back, resolver⟩
      let after : Router := ⟨front ++ ⟨b, handler'⟩ :: ⟨a, handler⟩ :: back, resolver⟩
      let exchange : Nat → Nat := Equiv.swap front.length (front.length + 1)
      (∀ index : Nat, after.routes[exchange index]? = before.routes[index]?) ∧
      ∀ request, (after.dispatch request).outcome = (before.dispatch request).outcome ∧
        (after.dispatch request).steps =
          (before.dispatch request).steps.map (Step.reindex exchange)) := by
  have hiff := Pattern.forall_not_match?_iff_apart (Pattern.wellFormed_of_parse ha)
    (Pattern.wellFormed_of_parse hb)
  refine ⟨hiff, ?_⟩
  intro hapart front back handler handler' resolver before after exchange
  refine ⟨getElem?_exchange front back _ _, ?_⟩
  intro request
  have hdispatch : after.dispatch request =
      ⟨(before.dispatch request).outcome,
        (before.dispatch request).steps.map (Step.reindex exchange)⟩ :=
    Router.dispatch_exchange (hiff.2 hapart request.path)
  rw [hdispatch]
  exact ⟨rfl, rfl⟩

/-- A pattern with a splat and a shorter one are exchanged behind a route, and are not apart from
one that is long enough. -/
theorem apart_iff_exchangeable_splat :
    (∀ path, ¬ ((Pattern.match? ⟨"/a/*x", [.literal "a", .splat "x"]⟩ path).isSome ∧
      (Pattern.match? ⟨"/:y", [.named "y"]⟩ path).isSome)) ∧
    (Router.dispatch ⟨[⟨⟨"/", []⟩, fun _ => .ofStatus .ok⟩,
        ⟨⟨"/:y", [.named "y"]⟩, fun context => .json ((context.pathParam? "y").getD "")⟩,
        ⟨⟨"/a/*x", [.literal "a", .splat "x"]⟩, fun _ => .ofStatus .notFound⟩], .anonymous⟩
      ⟨"/a/b/", "q=1", .empty⟩).steps =
    (Router.dispatch ⟨[⟨⟨"/", []⟩, fun _ => .ofStatus .ok⟩,
        ⟨⟨"/a/*x", [.literal "a", .splat "x"]⟩, fun _ => .ofStatus .notFound⟩,
        ⟨⟨"/:y", [.named "y"]⟩, fun context => .json ((context.pathParam? "y").getD "")⟩],
        .anonymous⟩
      ⟨"/a/b/", "q=1", .empty⟩).steps.map (Step.reindex (Equiv.swap 1 2)) ∧
    ∃ path, (Pattern.match? ⟨"/a/*x", [.literal "a", .splat "x"]⟩ path).isSome ∧
      (Pattern.match? ⟨"/:y/b/:z", [.named "y", .literal "b", .named "z"]⟩ path).isSome := by
  have ha : Pattern.parse "/a/*x" = .ok ⟨"/a/*x", [.literal "a", .splat "x"]⟩ := by decide
  have hb : Pattern.parse "/:y" = .ok ⟨"/:y", [.named "y"]⟩ := by decide
  have hc : Pattern.parse "/:y/b/:z" =
      .ok ⟨"/:y/b/:z", [.named "y", .literal "b", .named "z"]⟩ := by decide
  obtain ⟨hiff, hexchange⟩ := apart_iff_exchangeable ha hb
  obtain ⟨hiff', -⟩ := apart_iff_exchangeable ha hc
  refine ⟨hiff.2 (by decide), ?_, ?_⟩
  · exact ((hexchange (by decide) [_] [] _ _ _).2 _).2
  · by_contra hnone
    have hapart := hiff'.1 fun path hboth => hnone ⟨path, hboth⟩
    exact absurd hapart (by decide)

/-! ## Routes of which at most one matches -/

/-- At most one of the routes matches the path. -/
def Exclusive (routes : List Route) (path : String) : Prop :=
  routes.Pairwise fun a b => ¬ ((a.pattern.match? path).isSome ∧ (b.pattern.match? path).isSome)

/-- A route that matches is the first to do so, if it is the only one. -/
theorem FirstMatch.of_exclusive (h : Exclusive routes path) (hroute : routes[index]? = some route)
    (hmatch : route.pattern.match? path = some params) :
    FirstMatch routes path index route params where
  getElem? := hroute
  match? := hmatch
  least := by
    intro earlier hearlier other hother
    obtain ⟨hindex, rfl⟩ := List.getElem?_eq_some_iff.1 hroute
    obtain ⟨hlt, rfl⟩ := List.getElem?_eq_some_iff.1 hother
    have hboth := List.pairwise_iff_getElem.1 h earlier index hlt hindex hearlier
    simpa [hmatch] using hboth

theorem Exclusive.of_perm {routes' : List Route} (h : Exclusive routes path)
    (hperm : routes.Perm routes') : Exclusive routes' path :=
  List.Pairwise.perm h hperm fun hab hba => hab hba.symm

/-- What a permutation does with the indices of a list. -/
theorem exists_index_of_perm {α : Type} {l l' : List α} (h : l.Perm l') :
    ∃ f : Nat → Nat, Function.Injective f ∧ ∀ i : Nat, l'[f i]? = l[i]? := by
  induction h with
  | nil => exact ⟨id, Function.injective_id, fun _ => rfl⟩
  | @cons a l l' _ ih =>
    -- The head stays where it is, and the others move as they do without it.
    obtain ⟨f, hf, hindex⟩ := ih
    refine ⟨fun i => i.casesOn 0 fun i => f i + 1, ?_, ?_⟩
    · rintro (_ | i) (_ | j) hij
      · rfl
      · exact absurd hij (Nat.succ_ne_zero _).symm
      · exact absurd hij (Nat.succ_ne_zero _)
      · exact congrArg Nat.succ (hf (Nat.succ.inj hij))
    · rintro (_ | i)
      · rfl
      · exact hindex i
  | swap a b l =>
    refine ⟨Equiv.swap 0 1, (Equiv.swap 0 1).injective, ?_⟩
    intro i
    exact getElem?_exchange [] l b a i
  | trans _ _ ih ih' =>
    obtain ⟨f, hf, hindex⟩ := ih
    obtain ⟨g, hg, hindex'⟩ := ih'
    exact ⟨g ∘ f, hg.comp hf, fun i => (hindex' (f i)).trans (hindex i)⟩

/-- Routes of which at most one matches can be permuted. -/
theorem Router.dispatch_perm {router router' : Router} {f : Nat → Nat} {request : InboundRequest}
    (hresolver : router'.resolver = router.resolver) (hperm : router.routes.Perm router'.routes)
    (hexclusive : Exclusive router.routes request.path)
    (hindex : ∀ i : Nat, router'.routes[f i]? = router.routes[i]?) :
    router'.dispatch request =
      ⟨(router.dispatch request).outcome,
        (router.dispatch request).steps.map (Step.reindex f)⟩ := by
  -- The only route that matches is the first one to do so, wherever it stands.
  refine dispatch_reindex hresolver ?_ ?_
  · intro hnone route hroute
    exact hnone route (hperm.mem_iff.2 hroute)
  · intro index route params hfirst
    refine .of_exclusive (hexclusive.of_perm hperm) ?_ hfirst.match?
    rw [hindex, hfirst.getElem?]

end PatternRouter
