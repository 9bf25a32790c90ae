import Mathlib.Data.List.Perm.Basic
import PatternRouter.Router

/-!
# Route tables

The routes of a router are compiled from patterns and handlers. Compiling changes neither the order
of these pairs nor the handlers, and each route keeps its pattern as it was written.

The module introduces `IsTable entries routes`: the routes are compiled from these pairs. The pairs
can be read off the routes (`IsTable.map_eq`), and pairs in another order have the same routes in
another order (`IsTable.exists_of_perm`). The routers that are built are those of
`RouterBuilder.build_eq_ok_iff`.
-/

namespace PatternRouter

/-- The routes are compiled from patterns and handlers, in their order. -/
def IsTable (entries : List (String × Handler)) (routes : List Route) : Prop :=
  List.Forall₂ (fun entry route => Route.compile entry.1 entry.2 = .ok route) entries routes

/-- Compiling parses the pattern and keeps the handler. -/
theorem Route.compile_eq_ok_iff {pattern : String} {handler : Handler} {route : Route} :
    Route.compile pattern handler = .ok route ↔
      Pattern.parse pattern = .ok route.pattern ∧ route.handler = handler := by
  obtain ⟨own, ownHandler⟩ := route
  rw [compile]
  cases Pattern.parse pattern <;> simp [Except.map, eq_comm]

/-- A compiled route keeps its pattern as it was written, and its handler. -/
theorem Route.eq_of_compile_eq_ok {pattern : String} {handler : Handler} {route : Route}
    (h : Route.compile pattern handler = .ok route) :
    (pattern, handler) = (route.pattern.source, route.handler) := by
  obtain ⟨hparse, hhandler⟩ := compile_eq_ok_iff.1 h
  rw [Pattern.parse_source hparse, hhandler]

/-- The pattern of a compiled route is what its text parses to. -/
theorem Route.parse_of_compile_eq_ok {pattern : String} {handler : Handler} {route : Route}
    (h : Route.compile pattern handler = .ok route) :
    Pattern.parse route.pattern.source = .ok route.pattern := by
  have hparse := (compile_eq_ok_iff.1 h).1
  rwa [Pattern.parse_source hparse]

section IsTable

variable {entries entries' : List (String × Handler)} {routes : List Route}

/-- The routes of a table are its entries, each with its own handler. -/
theorem IsTable.map_eq (h : IsTable entries routes) :
    routes.map (fun route => (route.pattern.source, route.handler)) = entries := by
  induction h with
  | nil => rfl
  | cons hhead _ ih => rw [List.map_cons, ih, ← Route.eq_of_compile_eq_ok hhead]

theorem IsTable.parse_eq (h : IsTable entries routes) :
    ∀ route ∈ routes, Pattern.parse route.pattern.source = .ok route.pattern := by
  induction h with
  | nil =>
    intro route hroute
    nomatch hroute
  | cons hhead _ ih =>
    rw [List.forall_mem_cons]
    exact ⟨Route.parse_of_compile_eq_ok hhead, ih⟩

theorem IsTable.length_eq (h : IsTable entries routes) : routes.length = entries.length :=
  (List.Forall₂.length_eq h).symm

/-- Entries in another order have the same routes in another order. -/
theorem IsTable.exists_of_perm (h : IsTable entries routes) (hperm : entries'.Perm entries) :
    ∃ routes', IsTable entries' routes' ∧ routes'.Perm routes :=
  List.perm_comp_forall₂ hperm h

end IsTable

/-- A computation succeeds if its first part does and what follows does, too. -/
theorem bind_eq_ok_iff {ε α β : Type} {first : Except ε α} {next : α → Except ε β} {b : β} :
    first >>= next = .ok b ↔ ∃ a, first = .ok a ∧ next a = .ok b := by
  rcases first with error | a
  · simp [bind, Except.bind]
  · simp [bind, Except.bind]

/-- A computation fails if its first part does or what follows does. -/
theorem bind_eq_error_iff {ε α β : Type} {first : Except ε α} {next : α → Except ε β} {error : ε} :
    first >>= next = .error error ↔
      first = .error error ∨ ∃ a, first = .ok a ∧ next a = .error error := by
  rcases first with error | a
  · simp [bind, Except.bind]
  · simp [bind, Except.bind]

theorem mapM_compile_eq_ok_iff {entries : List (String × Handler)} {routes : List Route} :
    entries.mapM (fun (pattern, handler) => Route.compile pattern handler) = .ok routes ↔
      IsTable entries routes := by
  induction entries generalizing routes with
  | nil =>
    rw [IsTable, List.forall₂_nil_left_iff]
    constructor
    · intro h
      exact (Except.ok.inj h).symm
    · rintro rfl
      rfl
  | cons entry entries ih =>
    rw [List.mapM_cons, bind_eq_ok_iff, IsTable, List.forall₂_cons_left_iff]
    constructor
    · rintro ⟨route, hhead, h⟩
      obtain ⟨rest, htail, h⟩ := bind_eq_ok_iff.1 h
      exact ⟨route, rest, hhead, ih.1 htail, (Except.ok.inj h).symm⟩
    · rintro ⟨route, rest, hhead, htail, rfl⟩
      exact ⟨route, hhead, bind_eq_ok_iff.2 ⟨rest, ih.2 htail, rfl⟩⟩

/-- A router that is built has the routes that were registered, and the resolver, if there is one. -/
theorem RouterBuilder.build_eq_ok_iff {builder : RouterBuilder} {router : Router} :
    builder.build = .ok router ↔
      IsTable builder.entries router.routes ∧
        router.resolver = builder.resolver.getD .anonymous := by
  rw [build, bind_eq_ok_iff]
  constructor
  · rintro ⟨routes, hroutes, h⟩
    obtain rfl := Except.ok.inj h
    exact ⟨mapM_compile_eq_ok_iff.1 hroutes, rfl⟩
  · rintro ⟨htable, hresolver⟩
    refine ⟨router.routes, mapM_compile_eq_ok_iff.2 htable, ?_⟩
    rw [← hresolver]
    rfl

end PatternRouter
