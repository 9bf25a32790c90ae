import PatternRouter.Json
import PatternRouter.Router

/-!
# The built-in pages

Five pages, each a JSON object with what the page shows. A page that shows a value of its path which
the route does not bind shows the empty text.
-/

namespace PatternRouter.Pages

/-- The value that the route binds to a key, or the empty text. -/
def param (context : RequestContext) (key : String) : String :=
  (context.pathParam? key).getD ""

/-- What the page at the root shows. -/
structure HomeView where
  /-- The client's name. -/
  name : String
  /-- The client's fingerprint, if the client has an identity. -/
  fingerprint : Option String
deriving DecidableEq, Repr

/-- What a page under `/foo` shows. -/
structure FooView where
  /-- The client's name. -/
  name : String
  /-- The last token of the path. -/
  bar : String
deriving DecidableEq, Repr

/-- What the page of a user shows. -/
structure UserView where
  /-- The client's name. -/
  viewer : String
  /-- The user's name. -/
  user : String
  /-- The tab that the query asks for, if it asks for one. -/
  tab : Option String
deriving DecidableEq, Repr

/-- What the comments on a user's post show. -/
structure CommentsView where
  /-- The client's name. -/
  viewer : String
  /-- The user's name. -/
  user : String
  postId : String
deriving DecidableEq, Repr

/-- What the page for input shows. -/
structure InputView where
  /-- The client's name. -/
  viewer : String
  /-- Where to go on. -/
  next : String
  /-- The query, as it is spelled. -/
  input : String
deriving DecidableEq, Repr

/-- The view of the page at the root. -/
def homeView (context : RequestContext) : HomeView :=
  ⟨context.displayName, context.identity.map Identity.fingerprint⟩

/-- The view of a page under `/foo`. -/
def fooView (context : RequestContext) : FooView :=
  ⟨context.displayName, param context "bar"⟩

/-- The view of the page of a user. -/
def userView (context : RequestContext) : UserView :=
  ⟨context.displayName, param context "name", context.queryParam? "tab"⟩

/-- The view of the comments on a user's post. -/
def commentsView (context : RequestContext) : CommentsView :=
  ⟨context.displayName, param context "name", param context "id"⟩

/-- The view of the page for input. -/
def inputView (context : RequestContext) : InputView :=
  ⟨context.displayName, param context "next", context.queryString⟩

/-- A fingerprint is a member only if there is one. -/
def HomeView.members (view : HomeView) : List Json.Member :=
  ⟨"name", .text view.name⟩ ::
    match view.fingerprint with
    | some fingerprint => [⟨"fingerprint", .text fingerprint⟩]
    | none => []

/-- The members of a page under `/foo`. -/
def FooView.members (view : FooView) : List Json.Member :=
  [⟨"name", .text view.name⟩, ⟨"bar", .text view.bar⟩]

/-- A tab that is not asked for is null. -/
def UserView.members (view : UserView) : List Json.Member :=
  [⟨"viewer", .text view.viewer⟩, ⟨"user", .text view.user⟩,
   ⟨"tab", match view.tab with
     | some tab => .text tab
     | none => .null⟩]

/-- The members of the comments on a user's post. -/
def CommentsView.members (view : CommentsView) : List Json.Member :=
  [⟨"viewer", .text view.viewer⟩, ⟨"user", .text view.user⟩, ⟨"post_id", .text view.postId⟩]

/-- The members of the page for input. -/
def InputView.members (view : InputView) : List Json.Member :=
  [⟨"viewer", .text view.viewer⟩, ⟨"next", .text view.next⟩, ⟨"input", .text view.input⟩]

/-- The page at the root. -/
def home : Handler := fun context => .json (Json.object (homeView context).members)

/-- A page under `/foo`. -/
def foo : Handler := fun context => .json (Json.object (fooView context).members)

/-- The page of a user. -/
def user : Handler := fun context => .json (Json.object (userView context).members)

/-- The comments on a user's post. -/
def comments : Handler := fun context => .json (Json.object (commentsView context).members)

/-- The page for input. -/
def input : Handler := fun context => .json (Json.object (inputView context).members)

/-- The routes of the pages, in their order. -/
def builder (resolver : Resolver) : RouterBuilder :=
  RouterBuilder.identity {} resolver
    |>.route "/" home
    |>.route "/foo/:bar" foo
    |>.route "/users/:name" user
    |>.route "/users/:name/posts/:id/comments" comments
    |>.route "/input/*next" input

/-- The router of the pages. -/
def router (resolver : Resolver) : Except PatternError Router :=
  (builder resolver).build

end PatternRouter.Pages
