import PatternRouter.Pages
import PatternRouter.Proofs.Router.Order
import PatternRouter.Proofs.Router.Table

/-!
# The table of the built-in pages

No path is matched by two of the five patterns, so the order of the pages does not matter. What a
path asks for is a `Page` with the values that the path gives: a page is spelled by `Page.text`,
with separators before it that carry no meaning. A handler looks its values up under keys which are
written once more in the pattern of its route, and finds all of them there.

* `Page.At page path`: the path spells the page.
* `match?_eq_some_iff`: a route matches a path exactly if the path spells its page, and binds the
  values of that page.
* `handler_eq`: the answer of a page, with these values.
* `router_serves_pages`: the main result.
-/

namespace PatternRouter.Pages

/-- What a path asks for, with the values that it gives. -/
inductive Page where
  | home
  | foo (bar : String)
  | user (name : String)
  | comments (name id : String)
  | input (rest : String)

namespace Page

/-- The path of a page, without separators before it. -/
def text : Page → String
  | home => ""
  | foo bar => "foo/" ++ bar
  | user name => "users/" ++ name
  | comments name id => "users/" ++ name ++ "/posts/" ++ id ++ "/comments"
  | input rest => "input/" ++ rest

/-- The values that take the place of one token have no separator. They may be empty. -/
def WellFormed : Page → Prop
  | home => True
  | foo bar => separator ∉ bar.toList
  | user name => separator ∉ name.toList
  | comments name id => separator ∉ name.toList ∧ separator ∉ id.toList
  | input _ => True

/-- The path spells the page, once the separators that lead it are gone. -/
def At (page : Page) (path : String) : Prop :=
  page.WellFormed ∧ path.toList.dropWhile (· == separator) = page.text.toList

/-- The place of a page among the routes. -/
def index : Page → Nat
  | home => 0
  | foo _ => 1
  | user _ => 2
  | comments _ _ => 3
  | input _ => 4

/-- The values that the route of a page binds. -/
def params : Page → Params
  | home => ⟨[]⟩
  | foo bar => ⟨[("bar", bar)]⟩
  | user name => ⟨[("name", name)]⟩
  | comments name id => ⟨[("name", name), ("id", id)]⟩
  | input rest => ⟨[("next", "/" ++ rest)]⟩

/-- The keys under which the handler of a page looks values of the path up. -/
def lookups : Page → List String
  | home => []
  | foo _ => ["bar"]
  | user _ => ["name"]
  | comments _ _ => ["name", "id"]
  | input _ => ["next"]

/-- The members of the object with which a page answers. -/
def members (request : InboundRequest) (identity : Option Identity) : Page → List Json.Member
  | home => HomeView.members ⟨displayName identity, identity.map Identity.fingerprint⟩
  | foo bar => FooView.members ⟨displayName identity, bar⟩
  | user name =>
    UserView.members ⟨displayName identity, name, (Query.flatten request.rawQuery).get? "tab"⟩
  | comments name id => CommentsView.members ⟨displayName identity, name, id⟩
  | input rest => InputView.members ⟨displayName identity, "/" ++ rest, request.rawQuery⟩

/-- The tokens of the path of a page. -/
def tokens : Page → List String
  | home => []
  | foo bar => ["foo", bar]
  | user name => ["users", name]
  | comments name id => ["users", name, "posts", id, "comments"]
  | input rest => "input" :: (Text.pieces separator rest.toList).map String.ofList

theorem joinWith_tokens (page : Page) :
    Text.joinWith separator (page.tokens.map String.toList) = page.text.toList := by
  cases page with
  | input rest =>
    rw [tokens, List.map_cons, Text.joinWith_cons _ (by simp [Text.pieces_ne_nil]),
      Text.map_toList_map_ofList, Text.joinWith_pieces, text, String.toList_append]
    rfl
  | _ => simp [tokens, text, Text.joinWith, separator]

theorem separator_not_mem_of_mem_tokens {page : Page} (h : page.WellFormed) :
    ∀ token ∈ page.tokens, separator ∉ token.toList := by
  cases page with
  | input rest =>
    rw [tokens, List.forall_mem_cons]
    refine ⟨by decide, ?_⟩
    intro token htoken
    obtain ⟨piece, hpiece, rfl⟩ := List.mem_map.1 htoken
    rw [String.toList_ofList]
    exact Text.not_mem_of_mem_pieces hpiece
  | _ => simp_all [tokens, WellFormed, separator]

theorem head?_tokens_ne (page : Page) : (page.tokens.map String.toList).head? ≠ some [] := by
  cases page <;> simp [tokens]

/-- A path that spells a page has its tokens. -/
theorem At.pathTokens_eq {page : Page} {path : String} (h : page.At path) :
    pathTokens path = page.tokens := by
  obtain ⟨hwf, hpath⟩ := h
  have hfree : ∀ text ∈ page.tokens.map String.toList, separator ∉ text :=
    List.forall_mem_map.2 (separator_not_mem_of_mem_tokens hwf)
  rw [PatternRouter.pathTokens_eq, Text.trimStart, hpath, ← joinWith_tokens,
    Text.tokens_joinWith hfree page.head?_tokens_ne, List.map_map]
  exact List.map_id'' (fun _ => String.ofList_toList) page.tokens

end Page

/-! ## The routes -/

/-- The routes of the pages. -/
def routes : List Route :=
  [⟨⟨"/", []⟩, home⟩,
   ⟨⟨"/foo/:bar", [.literal "foo", .named "bar"]⟩, foo⟩,
   ⟨⟨"/users/:name", [.literal "users", .named "name"]⟩, user⟩,
   ⟨⟨"/users/:name/posts/:id/comments",
      [.literal "users", .named "name", .literal "posts", .named "id", .literal "comments"]⟩,
    comments⟩,
   ⟨⟨"/input/*next", [.literal "input", .splat "next"]⟩, input⟩]

theorem isTable_routes (resolver : Resolver) : IsTable (builder resolver).entries routes := by
  refine .cons ?_ (.cons ?_ (.cons ?_ (.cons ?_ (.cons ?_ .nil))))
  all_goals exact Route.compile_eq_ok_iff.2 ⟨by decide, rfl⟩

theorem wellFormed_of_mem_routes {route : Route} (h : route ∈ routes) :
    Pattern.WellFormed route.pattern.segments :=
  Pattern.wellFormed_of_parse ((isTable_routes .anonymous).parse_eq route h)

/-- No path is matched by two of the routes, since their patterns are apart. -/
theorem exclusive_routes (path : String) : Exclusive routes path := by
  have hapart : (routes.map Route.pattern).Pairwise Pattern.Apart := by decide
  refine (List.pairwise_map.1 hapart).imp_of_mem ?_
  intro a b ha hb hab
  exact (Pattern.forall_not_match?_iff_apart (wellFormed_of_mem_routes ha)
    (wellFormed_of_mem_routes hb)).2 hab path

variable {page : Page} {route : Route} {path : String} {params : Params} {index : Nat}

/-- A route binds the values of its page on the tokens of that page. -/
theorem match?_of_pathTokens (hroute : routes[page.index]? = some route)
    (htokens : pathTokens path = page.tokens) :
    route.pattern.match? path = some page.params := by
  cases page with
  | input rest =>
    obtain rfl := Option.some.inj hroute
    obtain ⟨piece, more, hpieces⟩ :=
      List.exists_cons_of_ne_nil (Text.pieces_ne_nil separator rest.toList)
    have hsplat : Capture.splatText ((Text.pieces separator rest.toList).map String.ofList) =
        "/" ++ rest := by
      rw [← String.toList_inj, Capture.splatText, Text.map_toList_map_ofList, Text.joinWith_pieces]
      simp [separator]
    -- With a first token for the splat to take, the walk is evaluated.
    simp only [Pattern.match?, htokens, Page.tokens, Page.params]
    rw [← hsplat, hpieces]
    rfl
  | _ =>
    obtain rfl := Option.some.inj hroute
    simp only [Pattern.match?, htokens]
    rfl

/-- Tokens that a route matches are those of its page. -/
theorem exists_page_of_matches {tokens : List String} (hroute : routes[index]? = some route)
    (hfree : ∀ token ∈ tokens, separator ∉ token.toList)
    (h : Matches route.pattern.segments tokens) :
    ∃ page : Page, page.index = index ∧ page.WellFormed ∧ page.tokens = tokens := by
  -- Each pattern leaves one shape of tokens, whose named ones are the values of the page.
  match index with
  | 0 =>
    obtain rfl := Option.some.inj hroute
    match h with
    | .nil => exact ⟨.home, rfl, trivial, rfl⟩
  | 1 =>
    obtain rfl := Option.some.inj hroute
    match h with
    | .literal (@Matches.named _ bar _ _ .nil) =>
      exact ⟨.foo bar, rfl, hfree bar (by simp), rfl⟩
  | 2 =>
    obtain rfl := Option.some.inj hroute
    match h with
    | .literal (@Matches.named _ name _ _ .nil) =>
      exact ⟨.user name, rfl, hfree name (by simp), rfl⟩
  | 3 =>
    obtain rfl := Option.some.inj hroute
    match h with
    | .literal (@Matches.named _ name _ _ (.literal (@Matches.named _ id _ _ (.literal .nil)))) =>
      exact ⟨.comments name id, rfl, ⟨hfree name (by simp), hfree id (by simp)⟩, rfl⟩
  | 4 =>
    obtain rfl := Option.some.inj hroute
    match h with
    | .literal (@Matches.splat _ rest hne) =>
      -- The rest of the path is cut into the tokens that it was joined from.
      refine ⟨.input (String.ofList (Text.joinWith separator (rest.map String.toList))), rfl,
        trivial, ?_⟩
      have hpieces : Text.pieces separator (Text.joinWith separator (rest.map String.toList)) =
          rest.map String.toList := by
        refine Text.pieces_joinWith (List.forall_mem_map.2 ?_) (by simpa using hne)
        intro token htoken
        exact hfree token (List.mem_cons_of_mem _ htoken)
      rw [Page.tokens, String.toList_ofList, hpieces, List.map_map]
      exact congrArg _ (List.map_id'' (fun _ => String.ofList_toList) rest)
  | index + 5 => nomatch hroute

/-- A route matches a path exactly if the path spells its page, and binds the values of the
page. -/
theorem match?_eq_some_iff (hroute : routes[index]? = some route) :
    route.pattern.match? path = some params ↔
      ∃ page : Page, page.index = index ∧ page.At path ∧ params = page.params := by
  constructor
  · intro h
    have hlast := (wellFormed_of_mem_routes (List.mem_of_getElem? hroute)).splat_last
    have hmatches := ((Pattern.match?_eq_some_iff hlast path params).1 h).1
    obtain ⟨page, rfl, hwf, htokens⟩ :=
      exists_page_of_matches hroute (separator_not_mem_of_mem_pathTokens path) hmatches
    -- Joined, the tokens are the path again, so the path spells the page.
    refine ⟨page, rfl, ⟨hwf, ?_⟩, ?_⟩
    · rw [← page.joinWith_tokens, htokens, joinWith_pathTokens, Text.trimStart]
    · rw [match?_of_pathTokens hroute htokens.symm] at h
      exact (Option.some.inj h).symm
  · rintro ⟨page, rfl, hpage, rfl⟩
    exact match?_of_pathTokens hroute hpage.pathTokens_eq

/-! ## The handlers -/

/-- The handler of a page answers with the values that the route of the page binds. -/
theorem handler_eq (hroute : routes[page.index]? = some route) (request : InboundRequest)
    (identity : Option Identity) :
    route.handler (request.context page.params identity) =
      .json (Json.object (page.members request identity)) := by
  cases page
  all_goals
    obtain rfl := Option.some.inj hroute
    rfl

/-- The handler of a page reads no value of the path but those that it looks up. -/
theorem handler_congr (hroute : routes[page.index]? = some route) {context : RequestContext}
    (hparams : ∀ key ∈ page.lookups, params.get? key = context.pathParams.get? key) :
    route.handler { context with pathParams := params } = route.handler context := by
  cases page
  all_goals
    obtain rfl := Option.some.inj hroute
    simp_all [Page.lookups, home, foo, user, comments, input, homeView, fooView, userView,
      commentsView, inputView, param, RequestContext.pathParam?, RequestContext.queryParam?,
      RequestContext.displayName]

/-- All that the handler of a page looks up is bound by its route. -/
theorem isSome_get?_params (page : Page) :
    ∀ key ∈ page.lookups, (page.params.get? key).isSome := by
  cases page <;> simp [Page.lookups, Page.params, Params.get?, List.lookup_cons]

/-! ## The table -/

/-- Entries that are registered in another order build a router that serves every request alike. -/
theorem exists_build_of_perm {resolver : Resolver} {entries : List (String × Handler)}
    (hperm : entries.Perm (builder resolver).entries) :
    ∃ (router' : Router) (f : Nat → Nat),
      (⟨entries, some resolver⟩ : RouterBuilder).build = .ok router' ∧
      Function.Injective f ∧ (∀ i : Nat, router'.routes[f i]? = routes[i]?) ∧
      ∀ request, router'.dispatch request =
        ⟨(Router.dispatch ⟨routes, resolver⟩ request).outcome,
          (Router.dispatch ⟨routes, resolver⟩ request).steps.map (Step.reindex f)⟩ := by
  obtain ⟨routes', htable, hroutes⟩ := (isTable_routes resolver).exists_of_perm hperm
  -- Compiling goes entry by entry, so the routes are permuted as the entries are.
  obtain ⟨f, hf, hindex⟩ := exists_index_of_perm hroutes.symm
  refine ⟨⟨routes', resolver⟩, f, RouterBuilder.build_eq_ok_iff.2 ⟨htable, rfl⟩, hf, hindex, ?_⟩
  intro request
  exact Router.dispatch_perm rfl hroutes.symm (exclusive_routes request.path) hindex

theorem unmatched_routes_iff : Unmatched routes path ↔ ∀ page : Page, ¬ page.At path := by
  constructor
  · intro h page hpage
    obtain ⟨route, hroute⟩ : ∃ route, routes[page.index]? = some route := by
      cases page <;> exact ⟨_, rfl⟩
    have hmatch := (match?_eq_some_iff hroute).2 ⟨page, rfl, hpage, rfl⟩
    rw [h route (List.mem_of_getElem? hroute)] at hmatch
    nomatch hmatch
  · intro h route hroute
    obtain ⟨index, hindex⟩ := List.mem_iff_getElem?.1 hroute
    by_contra hsome
    obtain ⟨params, hparams⟩ := Option.ne_none_iff_exists'.1 hsome
    obtain ⟨page, -, hpage, -⟩ := (match?_eq_some_iff hindex).1 hparams
    exact h page hpage

/-- The pages are served unambiguously. No path is matched by two routes, so the routes may be
registered in any order, and a path is found exactly if it spells a page. A handler is called for
the page that the path spells: its route binds all keys that the handler looks up, and the answer
has the values of the page. -/
theorem router_serves_pages (resolver : Resolver) :
    ∃ router, Pages.router resolver = .ok router ∧
      (∀ path, Exclusive router.routes path) ∧
      (∀ entries, entries.Perm (builder resolver).entries →
        ∃ (router' : Router) (f : Nat → Nat),
          (⟨entries, some resolver⟩ : RouterBuilder).build = .ok router' ∧
          Function.Injective f ∧ (∀ i : Nat, router'.routes[f i]? = router.routes[i]?) ∧
          ∀ request, router'.dispatch request = ⟨(router.dispatch request).outcome,
            (router.dispatch request).steps.map (Step.reindex f)⟩) ∧
      (∀ request, (router.dispatch request).outcome = .notFound ↔
        ∀ page : Page, ¬ page.At request.path) ∧
      (∀ request index context, .call index context ∈ (router.dispatch request).steps →
        ∃ (page : Page) (route : Route) (identity : Option Identity),
          page.At request.path ∧ page.index = index ∧ router.routes[index]? = some route ∧
          route.pattern.match? request.path = some context.pathParams ∧
          (∀ key ∈ page.lookups, (context.pathParam? key).isSome) ∧
          resolver request.credential = .ok identity ∧
          context = request.context page.params identity ∧
          (router.dispatch request).outcome =
            .handled (.json (Json.object (page.members request identity)))) ∧
      ∀ (page : Page) route, router.routes[page.index]? = some route → ∀ context params,
        (∀ key ∈ page.lookups, params.get? key = context.pathParams.get? key) →
        route.handler { context with pathParams := params } = route.handler context := by
  refine ⟨⟨routes, resolver⟩, RouterBuilder.build_eq_ok_iff.2 ⟨isTable_routes resolver, rfl⟩,
    exclusive_routes, ?_, ?_, ?_, ?_⟩
  · intro entries hperm
    exact exists_build_of_perm hperm
  · intro request
    rw [Router.outcome_eq_notFound_iff, unmatched_routes_iff]
  · intro request index context hcall
    obtain ⟨route, params, identity, hfirst, hresolve, rfl⟩ := Router.firstMatch_of_call_mem hcall
    obtain ⟨page, rfl, hpage, rfl⟩ := (match?_eq_some_iff hfirst.getElem?).1 hfirst.match?
    refine ⟨page, route, identity, hpage, rfl, hfirst.getElem?, hfirst.match?,
      isSome_get?_params page, hresolve, rfl, ?_⟩
    rw [Router.dispatch_of_ok hfirst hresolve, handler_eq hfirst.getElem?]
  · intro page route hroute context params hparams
    exact handler_congr hroute hparams

/-- Separators before and behind a path, an encoded query, and the pages in reverse. -/
theorem router_serves_pages_separators :
    let request : InboundRequest := ⟨"//input//x/", "a=%20", .empty⟩
    let answer : Outcome :=
      .handled (.json (Json.object (InputView.members ⟨"anonymous", "//x/", "a=%20"⟩)))
    ∃ router router' : Router, Pages.router .anonymous = .ok router ∧
      (router.dispatch request).outcome = answer ∧
      (⟨(builder .anonymous).entries.reverse, some .anonymous⟩ : RouterBuilder).build =
        .ok router' ∧
      (router'.dispatch request).outcome = answer := by
  intro request answer
  obtain ⟨router, hrouter, hexclusive, hperm, -, hcalls, -⟩ := router_serves_pages .anonymous
  obtain ⟨router', f, hbuild, -, -, hdispatch⟩ := hperm _ (List.reverse_perm _)
  obtain rfl : router = ⟨routes, .anonymous⟩ := Except.ok.inj <|
    hrouter.symm.trans (RouterBuilder.build_eq_ok_iff.2 ⟨isTable_routes _, rfl⟩)
  have hpage : Page.At (.input "/x/") request.path := ⟨trivial, by decide⟩
  have hfirst := FirstMatch.of_exclusive (hexclusive request.path)
    (show routes[4]? = some _ from rfl) ((match?_eq_some_iff rfl).2 ⟨_, rfl, hpage, rfl⟩)
  have hcall : .call 4 (request.context (Page.input "/x/").params none) ∈
      (Router.dispatch ⟨routes, .anonymous⟩ request).steps := by
    rw [Router.dispatch_of_ok hfirst rfl]
    simp
  obtain ⟨page, route, identity, -, hindex, -, -, -, -, hcontext, houtcome⟩ := hcalls _ _ _ hcall
  have hanswer : (Router.dispatch ⟨routes, .anonymous⟩ request).outcome = answer := by
    rw [houtcome]
    obtain ⟨hparams, rfl⟩ : (Page.input "/x/").params = page.params ∧ none = identity := by
      simpa [InboundRequest.context] using hcontext
    -- Only the page for input stands at this index, and its parameter is what it shows.
    cases page with
    | input rest =>
      have hnext : "//x/" = "/" ++ rest := by simpa [Page.params] using hparams
      rw [Page.members, ← hnext]
      rfl
    | _ => simp [Page.index] at hindex
  refine ⟨_, router', hrouter, hanswer, hbuild, ?_⟩
  rw [hdispatch, hanswer]

end PatternRouter.Pages
