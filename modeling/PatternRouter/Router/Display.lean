import PatternRouter.Router
import PatternRouter.Text.Quoted

/-!
# Routers for inspection

A route is shown by the text of its pattern, and a router by its routes. Handlers and resolvers have
no text.
-/

namespace PatternRouter

/-- A route as it is shown. -/
def Route.display (route : Route) : String :=
  "Route \x7b pattern: " ++ Text.quoted route.pattern.source ++ ", .. \x7d"

/-- A router as it is shown. -/
def Router.display (router : Router) : String :=
  "Router \x7b routes: [" ++ ", ".intercalate (router.routes.map Route.display) ++ "], .. \x7d"

end PatternRouter
