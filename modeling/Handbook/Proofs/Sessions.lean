import Handbook.Http.CommonMediaTypes
import Handbook.Proofs.PageAnswers
import Handbook.Session

/-! Sessions as seen from outside. A server keeps nothing between two requests: what it fetches is
settled by the request alone, and what it answers by the request and the world of that moment.
Requests change nothing, so a session is what its changes make of the world, with requests read off
in between. -/
namespace Handbook.Sessions
open Http Text Catalogues Routing PageAnswers

/-- The addresses that were fetched for a reply. -/
def fetched : Reply → List String
  | .response _ fetched => fetched
  | _ => []

/-- Whether a step touches files or documents. Requests do not. -/
def isChange : Step → Bool
  | .request .. => false
  | _ => true

/-- The world that a server finds after the given steps. -/
def worldAfter? [MediaTypes] (site : Site) (world : World) (steps : List Step) : Option World :=
  steps.foldlM (fun world step => (site.step world step).map Prod.fst) world

/-- The two methods that read. -/
def Reads (method : String) : Prop := method = "GET" ∨ method = "HEAD"

instance (method : String) : Decidable (Reads method) :=
  inferInstanceAs (Decidable (method = "GET" ∨ method = "HEAD"))

/-- A step that asks to read a page: a request with one of the reading methods, at a valid address
whose path is dispatched to that page. -/
def Asks (site : Site) (routes : List Route) (step : Step) (page : Page) : Prop :=
  ∃ method uri address, step = .request method uri ∧ Reads method ∧
    Uri.parse? uri = some address ∧ nameAt? routes address.path = some page.name ∧
    page ∈ site.catalogue.pages

/-- The page to which a path is dispatched. -/
def pageAt? (site : Site) (routes : List Route) (path : List Char) : Option Page := do
  let name ← nameAt? routes path
  site.catalogue.pages.find? fun page => page.name == name

/-- The page that a step asks to read, if it asks for one. -/
def askedPage? (site : Site) (routes : List Route) : Step → Option Page
  | .request method uri =>
    if Reads method then (Uri.parse? uri).bind fun address => pageAt? site routes address.path
    else none
  | _ => none

theorem pageAt?_eq_some_iff : pageAt? site routes path = some page ↔
    nameAt? routes path = some page.name ∧ page ∈ site.catalogue.pages := by
  have apart : (site.catalogue.pages.map Page.name).Nodup :=
    .of_map PageName.stem site.catalogue.distinct
  simp [pageAt?, Option.bind_eq_some_iff, find?_key_eq_some_iff apart, eq_comm (a := page.name)]

theorem askedPage?_eq_some_iff :
    askedPage? site routes step = some page ↔ Asks site routes step page := by
  cases step with
  | request method uri =>
    by_cases reads : Reads method
    · simp [askedPage?, Asks, reads, Option.bind_eq_some_iff, pageAt?_eq_some_iff]
    · simp [askedPage?, Asks, reads]
  | _ => simp [askedPage?, Asks]

/-! ## One step -/

theorem ofName_reads (reads : Reads method) :
    Method.ofName method = .get ∨ Method.ofName method = .head := by
  rcases reads with rfl | rfl
  · exact .inl rfl
  · exact .inr rfl

theorem ofName_other (other : ¬Reads method) : Method.ofName method = .other method := by
  obtain ⟨get, head⟩ := not_or.mp other
  rw [Method.ofName, if_neg get, if_neg head]

section
variable [MediaTypes]

theorem serve_invalid (invalid : Uri.parse? uri = none) (site : Site) (world : World)
    (method : String) : site.serve world method uri = some .badUri := by
  simp only [Site.serve, invalid]

theorem serve_valid {site : Site} (built : site.routes? = some routes)
    (valid : Uri.parse? uri = some address) (world : World) (method : String) :
    let answer := site.respond routes world.files world.documents.source ⟨.ofName method, address⟩
    site.serve world method uri = some (.response answer.1 answer.2) := by
  simp only [Site.serve, valid, built]
  rfl

/-- Nothing keeps a server with routes from answering. -/
theorem step_isSome {site : Site} (built : site.routes? = some routes) (world : World)
    (step : Step) : ∃ next reply, site.step world step = some (next, reply) := by
  cases step with
  | request method uri =>
    cases read : Uri.parse? uri with
    | none => exact ⟨world, _, by rw [Site.step, serve_invalid read, Option.map_some]⟩
    | some address => exact ⟨world, _, by rw [Site.step, serve_valid built read, Option.map_some]⟩
  | write path content => exact ⟨_, _, rfl⟩
  | remove path =>
    cases removed : world.files.remove? (pathNames path) with
    | none => exact ⟨world, .removed false, by simp only [Site.step, removed]⟩
    | some files => exact ⟨{ world with files }, .removed true, by simp only [Site.step, removed]⟩
  | document url answer => exact ⟨_, _, rfl⟩

/-- A request finds files and documents as they are, and leaves them so. -/
theorem step_request (stepped : Site.step site world (.request method uri) = some (next, reply)) :
    next = world ∧ site.serve world method uri = some reply := by
  obtain ⟨served, answered, same⟩ := Option.map_eq_some_iff.mp stepped
  cases same
  exact ⟨rfl, answered⟩

/-- What is no request is done without fetching. -/
theorem step_change (change : isChange step = true)
    (stepped : Site.step site world step = some (next, reply)) : fetched reply = [] := by
  cases step with
  | request method uri => cases change
  | write path content => cases stepped; rfl
  | remove path =>
    simp only [Site.step] at stepped
    split at stepped <;> cases stepped <;> rfl
  | document url answer => cases stepped; rfl

/-- What is fetched for a request is settled by the request alone: the document of the page it asks
to read, once and however the fetch ends, or nothing. -/
theorem respond_fetched {site : Site} (built : site.routes? = some routes) (method : String)
    (address : Uri) (files : FileTree) (source : Source) :
    (site.respond routes files source ⟨.ofName method, address⟩).2 =
      if Reads method then ((pageAt? site routes address.path).map Page.source).toList else [] := by
  cases taken : routeAt? routes address.path with
  | none =>
    rw [respond_file taken]
    simp [pageAt?, nameAt?, taken]
  | some route =>
    by_cases reads : Reads method
    · obtain ⟨page, member, _, dispatched⟩ := exists_page_of_route built taken
      rw [respond_read member dispatched (ofName_reads reads), if_pos reads,
        pageAt?_eq_some_iff.mpr ⟨dispatched, member⟩]
      rfl
    · rw [ofName_other reads, respond_refused taken, if_neg reads]

theorem step_fetched {site : Site} (built : site.routes? = some routes)
    (stepped : site.step world step = some (next, reply)) :
    fetched reply = ((askedPage? site routes step).map Page.source).toList := by
  cases step with
  | request method uri =>
    obtain ⟨_, served⟩ := step_request stepped
    cases read : Uri.parse? uri with
    | none =>
      rw [serve_invalid read] at served
      cases served
      simp [askedPage?, fetched, read]
    | some address =>
      rw [serve_valid built read] at served
      cases served
      rw [fetched, respond_fetched built, askedPage?, read, Option.bind_some]
      split <;> rfl
  | write path content => exact step_change rfl stepped
  | remove path => exact step_change rfl stepped
  | document url answer => exact step_change rfl stepped

/-! ## Whole runs -/

theorem worldAfter?_cons (stepped : Site.step site world step = some (next, reply))
    (rest : List Step) : worldAfter? site world (step :: rest) = worldAfter? site next rest := by
  simp [worldAfter?, stepped]

theorem run_cons_eq_some_iff : Site.run site world (step :: rest) = some replies ↔
    ∃ next reply others, site.step world step = some (next, reply) ∧
      site.run next rest = some others ∧ replies = reply :: others := by
  simp [Site.run, Option.bind_eq_some_iff, eq_comm (a := replies)]

/-- A server with routes answers every step of a run. -/
theorem run_isSome {site : Site} (built : site.routes? = some routes) (world : World)
    (steps : List Step) :
    ∃ replies, site.run world steps = some replies ∧ replies.length = steps.length := by
  induction steps generalizing world with
  | nil => exact ⟨[], rfl, rfl⟩
  | cons step rest ih =>
    obtain ⟨next, reply, stepped⟩ := step_isSome built world step
    obtain ⟨others, ran, counted⟩ := ih next
    exact ⟨reply :: others, run_cons_eq_some_iff.mpr ⟨next, reply, others, stepped, ran, rfl⟩,
      congrArg (· + 1) counted⟩

/-- A run goes on from the world that its first part leaves, and from nothing else. -/
theorem run_split (ran : Site.run site world (before ++ after) = some replies) :
    ∃ now early late, worldAfter? site world before = some now ∧
      early.length = before.length ∧ site.run now after = some late ∧ replies = early ++ late := by
  induction before generalizing world replies with
  | nil => exact ⟨world, [], replies, rfl, rfl, ran, rfl⟩
  | cons step rest ih =>
    obtain ⟨next, reply, others, stepped, ranOn, rfl⟩ := run_cons_eq_some_iff.mp ran
    obtain ⟨now, early, late, reached, counted, ranLate, rfl⟩ := ih ranOn
    exact ⟨now, reply :: early, late, by rw [worldAfter?_cons stepped, reached],
      congrArg (· + 1) counted, ranLate, rfl⟩

/-- The world depends on the changes alone: requests can be left out. -/
theorem worldAfter?_changes {site : Site} (built : site.routes? = some routes) (world : World)
    (steps : List Step) :
    worldAfter? site world (steps.filter isChange) = worldAfter? site world steps := by
  induction steps generalizing world with
  | nil => rfl
  | cons step rest ih =>
    obtain ⟨next, reply, stepped⟩ := step_isSome built world step
    rw [worldAfter?_cons stepped, ← ih next]
    cases step with
    | request method uri =>
      obtain ⟨rfl, _⟩ := step_request stepped
      rfl
    | write path content | remove path | document url answer =>
      exact worldAfter?_cons stepped _

/-- The log of a run lists the documents of the pages that were asked for, in their order. -/
theorem run_log {site : Site} (built : site.routes? = some routes)
    (ran : site.run world steps = some replies) :
    replies.flatMap fetched = (steps.filterMap (askedPage? site routes)).map Page.source := by
  induction steps generalizing world replies with
  | nil =>
    cases ran
    rfl
  | cons step rest ih =>
    obtain ⟨next, reply, others, stepped, ranOn, rfl⟩ := run_cons_eq_some_iff.mp ran
    rw [List.flatMap_cons, ih ranOn, step_fetched built stepped, List.filterMap_cons]
    cases askedPage? site routes step <;> rfl

/-- What holds of the reply to a step that comes after the steps `before`. -/
structure Independent (site : Site) (routes : List Route) (world : World) (before : List Step)
    (step : Step) (reply : Reply) : Prop where
  /-- A request to read a page fetches its document once, however the fetch ends. -/
  once : ∀ page, Asks site routes step page → fetched reply = [page.source]
  /-- Nothing else fetches. -/
  otherwise : (∀ page, ¬Asks site routes step page) → fetched reply = []
  /-- The reply is the one that the step gets first of all in the world of that moment, which the
  changes so far have made without regard to any request among them. -/
  fresh : ∃ now, worldAfter? site world before = some now ∧
    worldAfter? site world (before.filter isChange) = some now ∧ site.run now [step] = some [reply]
  /-- A request leaves files and documents as they are. -/
  unchanged : isChange step = false →
    worldAfter? site world (before ++ [step]) = worldAfter? site world before

/-- A run of a server with routes comes to its end, whatever its steps are. Its log of fetches lists
the documents of the pages that were asked for, each request to read a page fetching once and
everything else nothing, and every reply is given as if no request had come before. -/
theorem replies_fetch_once_and_keep_nothing {site : Site} (built : site.routes? = some routes)
    (world : World) (steps : List Step) :
    ∃ replies, site.run world steps = some replies ∧ replies.length = steps.length ∧
      replies.flatMap fetched = (steps.filterMap (askedPage? site routes)).map Page.source ∧
      ∀ before step after, steps = before ++ step :: after →
        ∃ reply, replies[before.length]? = some reply ∧
          Independent site routes world before step reply := by
  obtain ⟨replies, ran, counted⟩ := run_isSome built world steps
  refine ⟨replies, ran, counted, run_log built ran, ?_⟩
  rintro before step after rfl
  obtain ⟨now, early, late, reached, earlyCounted, ranLate, rfl⟩ := run_split ran
  obtain ⟨next, reply, others, stepped, _, rfl⟩ := run_cons_eq_some_iff.mp ranLate
  have log := step_fetched built stepped
  refine ⟨reply, by simp [← earlyCounted], ?_, ?_, ?_, ?_⟩
  · intro page asked
    rw [log, askedPage?_eq_some_iff.mpr asked]
    rfl
  · intro unasked
    have none : askedPage? site routes step = none := Option.eq_none_iff_forall_ne_some.mpr
      fun page asked => unasked page (askedPage?_eq_some_iff.mp asked)
    rw [log, none]
    rfl
  · refine ⟨now, reached, (worldAfter?_changes built world before).trans reached, ?_⟩
    exact run_cons_eq_some_iff.mpr ⟨next, reply, [], stepped, rfl, rfl⟩
  · intro request
    rw [← worldAfter?_changes built world (before ++ [step]), List.filter_append,
      List.filter_cons_of_neg (by simp [request]), List.filter_nil, List.append_nil,
      worldAfter?_changes built]

end

/-- A site with two pages. -/
def bulletin : Site where
  layout := bareLayout
  catalogue :=
    { pages :=
        [⟨⟨"news", by decide, by decide⟩, "", "front", none, false⟩,
          ⟨⟨"inside.html", by decide, by decide⟩, "", "back", none, false⟩]
      distinct := by decide }

/-- The source of one page breaks down and recovers, the other page fails, and in between there are
a refused method, a missing file and an address that is none. -/
theorem breakdown_and_recovery_are_logged :
    let world : World := ⟨.empty, ⟨[("front", .error .breakdown)]⟩⟩
    let steps : List Step :=
      [.request "GET" "/news.html", .request "HEAD" "/inside.html?x", .document "front" (.ok "hi"),
        .request "POST" "/inside.html", .request "GET" "/news", .request "GET" "a b",
        .write "Header.html" none, .request "GET" "/news.html"]
    ∃ routes replies, bulletin.routes? = some routes ∧ bulletin.run world steps = some replies ∧
      replies.flatMap fetched = ["front", "back", "front"] := by
  intro world steps
  have asked : (bulletin.routes?.map fun routes =>
      (steps.filterMap (askedPage? bulletin routes)).map Page.source) =
        some ["front", "back", "front"] := by decide
  obtain ⟨routes, built, listed⟩ := Option.map_eq_some_iff.mp asked
  obtain ⟨replies, ran, _, log, _⟩ := replies_fetch_once_and_keep_nothing built world steps
  exact ⟨routes, replies, built, ran, log.trans listed⟩

end Handbook.Sessions
