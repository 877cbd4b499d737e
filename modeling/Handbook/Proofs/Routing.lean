import Handbook.Server
import Handbook.Proofs.Catalogues

/-! The routes of a site. Laying routes either fails or gives every page exactly the paths under
which it is published, and no path to two pages. It fails only over the name of a single page, read
as a pattern: pages that a catalogue holds together never take a path from each other. -/
namespace Handbook.Routing
open Http PageNames Catalogues

/-! ## Patterns and the paths they match -/

/-- Whether a character is a brace of either kind. -/
def isBrace (c : Char) : Bool := c == '\x7b' || c == '\x7d'

/-- A text with every brace written twice, which is how a pattern writes it. -/
def doubled (cs : List Char) : List Char := cs.flatMap fun c => if isBrace c then [c, c] else [c]

theorem doubled_cons_brace (brace : isBrace c = true) (cs : List Char) :
    doubled (c :: cs) = c :: c :: doubled cs := by
  simp [doubled, brace]

theorem doubled_cons_plain (plain : isBrace c = false) (cs : List Char) :
    doubled (c :: cs) = c :: doubled cs := by
  simp [doubled, plain]

theorem doubled_append (left right : List Char) :
    doubled (left ++ right) = doubled left ++ doubled right := by
  simp [doubled]

/-- A text without braces is written as it is. -/
theorem doubled_plain (plain : ∀ c ∈ cs, isBrace c = false) : doubled cs = cs := by
  induction cs with
  | nil => rfl
  | cons c rest ih =>
    have first := plain c (by simp)
    have others : ∀ other ∈ rest, isBrace other = false :=
      fun other member => plain other (by simp [member])
    rw [doubled_cons_plain first, ih others]

/-- A tail without braces does not change whether the braces in front of it are doubled. -/
theorem exists_doubled_append_iff (plain : ∀ c ∈ tail, isBrace c = false) :
    (∃ text, cs ++ tail = doubled text) ↔ ∃ text, cs = doubled text := by
  constructor
  · rintro ⟨text, written⟩
    induction text generalizing cs with
    | nil => exact ⟨[], (List.append_eq_nil_iff.mp written).1⟩
    | cons c rest ih =>
      rcases cs with _ | ⟨first, others⟩
      · exact ⟨[], rfl⟩
      cases kind : isBrace c with
      | true =>
        rw [doubled_cons_brace kind, List.cons_append, List.cons.injEq] at written
        obtain ⟨rfl, written⟩ := written
        rcases others with _ | ⟨second, others⟩
        · -- The second half of a doubled brace would have to be the start of the tail.
          have inTail := plain first (by rw [List.nil_append] at written; simp [written])
          rw [kind] at inTail
          cases inTail
        · rw [List.cons_append, List.cons.injEq] at written
          obtain ⟨rfl, written⟩ := written
          obtain ⟨text, rfl⟩ := ih written
          exact ⟨second :: text, (doubled_cons_brace kind text).symm⟩
      | false =>
        rw [doubled_cons_plain kind, List.cons_append, List.cons.injEq] at written
        obtain ⟨rfl, written⟩ := written
        obtain ⟨text, rfl⟩ := ih written
        exact ⟨first :: text, (doubled_cons_plain kind text).symm⟩
  · rintro ⟨text, rfl⟩
    exact ⟨text ++ tail, by rw [doubled_append, doubled_plain plain]⟩

theorem unbrace?_doubled (cs : List Char) : unbrace? (doubled cs) = some cs := by
  induction cs with
  | nil => rfl
  | cons c rest ih =>
    by_cases opening : c = '\x7b'
    · subst opening
      simp [doubled_cons_brace (c := '\x7b') rfl, unbrace?, ih]
    · by_cases closing : c = '\x7d'
      · subst closing
        simp [doubled_cons_brace (c := '\x7d') rfl, unbrace?, ih]
      · have plain : isBrace c = false := by simp [isBrace, opening, closing]
        simp [doubled_cons_plain plain, unbrace?, opening, closing, ih]

/-- A pattern matches a text exactly when it is that text with its braces doubled. -/
theorem unbrace?_eq_some_iff {segment : List Char} :
    unbrace? segment = some text ↔ segment = doubled text := by
  constructor
  · intro read
    induction segment using unbrace?.induct generalizing text with
    | case1 =>
      cases read
      rfl
    | case2 rest ih | case3 rest ih =>
      obtain ⟨tail, inner, rfl⟩ := Option.map_eq_some_iff.mp read
      rw [ih inner, doubled_cons_brace rfl]
    | case4 c rest notOpening notClosing brace => simp [unbrace?, brace] at read
    | case5 c rest notOpening notClosing plain ih =>
      simp only [unbrace?, plain, Bool.false_eq_true, ↓reduceIte] at read
      obtain ⟨tail, inner, rfl⟩ := Option.map_eq_some_iff.mp read
      rw [ih inner, doubled_cons_plain (Bool.eq_false_iff.mpr plain)]
  · rintro rfl
    exact unbrace?_doubled text

theorem routePath?_eq_some_iff {segment : List Char} : routePath? segment = some path ↔
    startsCapture segment = false ∧ ∃ text, segment = doubled text ∧ path = '/' :: text := by
  unfold routePath?
  cases capture : startsCapture segment with
  | true => simp
  | false =>
    simp only [Bool.false_eq_true, ↓reduceIte, Option.map_eq_some_iff, unbrace?_eq_some_iff,
      true_and]
    exact exists_congr fun text => and_congr_right fun _ => eq_comm

/-- A plain segment is its own path. -/
theorem routePath?_plain {segment : List Char} (start : startsCapture segment = false)
    (plain : ∀ c ∈ segment, isBrace c = false) : routePath? segment = some ('/' :: segment) :=
  routePath?_eq_some_iff.mpr ⟨start, segment, (doubled_plain plain).symm, rfl⟩

/-! ## The paths of one page -/

/-- The paths of a page: its file name as a pattern, and the root for the index. -/
def Publishes (name : PageName) (path : List Char) : Prop :=
  routePath? name.fileName.toList = some path ∨ name.stem = rootStem ∧ path = ['/']

private theorem file_path_ne_root
    (written : routePath? (PageName.fileName name).toList = some path) : path ≠ ['/'] := by
  obtain ⟨_, text, spelled, rfl⟩ := routePath?_eq_some_iff.mp written
  rintro root
  cases root
  exact fileName_toList_ne_nil name spelled

/-- Pages that are published under one path have one stem. -/
theorem stem_eq_of_publishes {a b : PageName} (left : Publishes a path) (right : Publishes b path) :
    a.stem = b.stem := by
  rcases left with left | ⟨aRoot, rfl⟩
  · rcases right with right | ⟨_, rfl⟩
    · obtain ⟨_, text, aSpelled, rfl⟩ := routePath?_eq_some_iff.mp left
      obtain ⟨_, other, bSpelled, same⟩ := routePath?_eq_some_iff.mp right
      cases same
      exact fileName_eq_iff.mp (String.toList_inj.mp (aSpelled.trans bSpelled.symm))
    · exact absurd rfl (file_path_ne_root left)
  · rcases right with right | ⟨bRoot, _⟩
    · exact absurd rfl (file_path_ne_root right)
    · exact aRoot.trans bRoot.symm

/-- The routes that a page adds when its file name matches the given path. -/
def ownRoutes (name : PageName) (path : List Char) : List Route :=
  ⟨path, name⟩ :: if name.stem == rootStem then [⟨['/'], name⟩] else []

theorem ownRoutes_index {name : PageName} (index : name.stem = rootStem) :
    ownRoutes name path = [⟨path, name⟩, ⟨['/'], name⟩] := by
  simp [ownRoutes, index]

theorem ownRoutes_other {name : PageName} (other : name.stem ≠ rootStem) :
    ownRoutes name path = [⟨path, name⟩] := by
  simp [ownRoutes, other]

theorem mem_ownRoutes_iff {name : PageName}
    (written : routePath? name.fileName.toList = some path) :
    route ∈ ownRoutes name path ↔ route.name = name ∧ Publishes name route.path := by
  obtain ⟨own, holder⟩ := route
  by_cases index : name.stem = rootStem
  · simp only [ownRoutes_index index, List.mem_cons, List.not_mem_nil, or_false, Route.mk.injEq,
      Publishes, written, Option.some.injEq, index, true_and]
    rw [← or_and_right, and_comm, eq_comm (a := path)]
  · simp only [ownRoutes_other index, List.mem_singleton, Route.mk.injEq, Publishes, written,
      Option.some.injEq, index, false_and, or_false]
    rw [and_comm, eq_comm (a := path)]

theorem routeAt?_isSome_iff : (routeAt? routes path).isSome ↔ path ∈ routes.map Route.path := by
  simp [routeAt?, List.find?_isSome]

/-- One route is added exactly when its pattern reads as a path that is still free. -/
theorem addRoute?_eq_some_iff {segment : List Char} : addRoute? name segment routes = some more ↔
    ∃ path, routePath? segment = some path ∧ path ∉ routes.map Route.path ∧
      more = routes ++ [⟨path, name⟩] := by
  unfold addRoute?
  cases read : routePath? segment with
  | none => simp
  | some path =>
    simp only [Option.bind_eq_bind, Option.bind_some, routeAt?_isSome_iff, Option.some.injEq,
      exists_eq_left']
    split
    · rename_i taken
      simp [taken]
    · rename_i free
      simp [free, eq_comm]

/-- Adding a page adds the routes of that page, and all their paths have to be free. -/
theorem addPage?_eq_some_iff : addPage? routes page = some more ↔
    ∃ path, routePath? page.name.fileName.toList = some path ∧
      (∀ route ∈ ownRoutes page.name path, route.path ∉ routes.map Route.path) ∧
      more = routes ++ ownRoutes page.name path := by
  simp only [addPage?, Option.bind_eq_bind, Option.bind_eq_some_iff, addRoute?_eq_some_iff]
  by_cases index : page.name.stem = rootStem
  · simp only [index, beq_self_eq_true, ↓reduceIte, addRoute?_eq_some_iff, ownRoutes_index index,
      List.forall_mem_cons, List.not_mem_nil, false_imp_iff, implies_true, and_true]
    constructor
    · rintro ⟨_, ⟨path, written, free, rfl⟩, root, rootWritten, rootFree, rfl⟩
      cases rootWritten
      simp only [List.map_append, List.mem_append, not_or] at rootFree
      exact ⟨path, written, ⟨free, rootFree.1⟩, List.append_assoc _ _ _⟩
    · rintro ⟨path, written, ⟨free, rootFree⟩, rfl⟩
      refine ⟨_, ⟨path, written, free, rfl⟩, ['/'], rfl, ?_, by simp⟩
      -- The file name is not empty, so the first route of the page does not stand in the way.
      simp only [List.map_append, List.mem_append, not_or]
      exact ⟨rootFree, by simpa using (file_path_ne_root written).symm⟩
  · simp only [beq_iff_eq, index, ↓reduceIte, Option.pure_def, Option.some.injEq,
      ownRoutes_other index, List.forall_mem_singleton]
    constructor
    · rintro ⟨_, ⟨path, written, free, rfl⟩, rfl⟩
      exact ⟨path, written, free, rfl⟩
    · rintro ⟨path, written, free, rfl⟩
      exact ⟨_, ⟨path, written, free, rfl⟩, rfl⟩

/-! ## Laying the routes of all pages -/

/-- Routes that are laid for some names: every path is taken once, and the routes are those under
which the names are published. -/
structure Laid (names : List PageName) (routes : List Route) : Prop where
  alone : (routes.map Route.path).Nodup
  complete : ∀ route, route ∈ routes ↔ route.name ∈ names ∧ Publishes route.name route.path

theorem laid_nil : Laid [] [] := ⟨List.nodup_nil, by simp⟩

private theorem ownRoutes_alone
    (written : routePath? (PageName.fileName name).toList = some path) :
    ((ownRoutes name path).map Route.path).Nodup := by
  by_cases index : name.stem = rootStem
  · simp [ownRoutes_index index, file_path_ne_root written]
  · simp [ownRoutes_other index]

/-- One page more leaves the routes laid, for that page too. -/
theorem addPage?_laid (laid : Laid names routes) (added : addPage? routes page = some more) :
    Laid (names ++ [page.name]) more := by
  obtain ⟨path, written, free, rfl⟩ := addPage?_eq_some_iff.mp added
  constructor
  · rw [List.map_append, List.nodup_append']
    refine ⟨laid.alone, ownRoutes_alone written, ?_⟩
    intro taken inRoutes inOwn
    obtain ⟨route, member, rfl⟩ := List.mem_map.mp inOwn
    exact free route member inRoutes
  · intro route
    rw [List.mem_append, laid.complete, mem_ownRoutes_iff written, List.mem_append,
      List.mem_singleton, or_and_right]
    exact or_congr_right (and_congr_right fun same => same ▸ Iff.rfl)

/-- A page with a new stem finds its paths free, so nothing but its own name keeps it out. -/
theorem addPage?_isSome_iff (laid : Laid names routes)
    (fresh : ∀ name ∈ names, name.stem ≠ page.name.stem) :
    (addPage? routes page).isSome ↔ (routePath? page.name.fileName.toList).isSome := by
  simp only [Option.isSome_iff_exists, addPage?_eq_some_iff]
  constructor
  · rintro ⟨_, path, written, _⟩
    exact ⟨path, written⟩
  · rintro ⟨path, written⟩
    refine ⟨_, path, written, ?_, rfl⟩
    intro route own taken
    obtain ⟨same, publishes⟩ := (mem_ownRoutes_iff written).mp own
    obtain ⟨other, member, samePath⟩ := List.mem_map.mp taken
    obtain ⟨known, otherPublishes⟩ := (laid.complete other).mp member
    rw [samePath] at otherPublishes
    exact fresh other.name known (stem_eq_of_publishes otherPublishes publishes)

/-- Every page in turn leaves the routes laid. -/
theorem foldlM_addPage?_laid {pages : List Page} (laid : Laid names routes)
    (ran : pages.foldlM addPage? routes = some more) :
    Laid (names ++ pages.map Page.name) more := by
  induction pages generalizing names routes with
  | nil =>
    cases ran
    simpa using laid
  | cons page rest ih =>
    rw [List.foldlM_cons] at ran
    obtain ⟨middle, added, others⟩ := Option.bind_eq_some_iff.mp ran
    simpa using ih (addPage?_laid laid added) others

/-- Laying the routes of pages with distinct stems fails only over one of the names alone. -/
theorem foldlM_addPage?_isSome_iff {pages : List Page} (laid : Laid names routes)
    (distinct : Distinct (names ++ pages.map Page.name)) :
    (pages.foldlM addPage? routes).isSome ↔
      ∀ page ∈ pages, (routePath? page.name.fileName.toList).isSome := by
  induction pages generalizing names routes with
  | nil => simp
  | cons page rest ih =>
    have fresh : ∀ name ∈ names, name.stem ≠ page.name.stem := by
      simp only [Distinct, List.map_append, List.nodup_append] at distinct
      exact fun name member =>
        distinct.2.2 _ (List.mem_map_of_mem member) _ (by simp)
    rw [List.foldlM_cons, List.forall_mem_cons, ← addPage?_isSome_iff laid fresh]
    cases added : addPage? routes page with
    | none => simp
    | some middle =>
      have extended := addPage?_laid laid added
      rw [Option.bind_eq_bind, Option.bind_some, ih extended (by simpa using distinct)]
      simp

/-- A site has routes unless a name alone stands against it. -/
theorem routes?_isSome_iff {site : Site} : site.routes?.isSome ↔
    ∀ page ∈ site.catalogue.pages, (routePath? page.name.fileName.toList).isSome :=
  foldlM_addPage?_isSome_iff laid_nil site.catalogue.distinct

/-! ## Names that can be written into a route -/

/-- A name that can be written into a route: it does not start like a capture, and every brace in it
belongs to a pair that stands for one. -/
def Routable (name : PageName) : Prop :=
  startsCapture name.text.toList = false ∧ ∃ plain, name.text.toList = doubled plain

private theorem startsCapture_append (nonempty : cs ≠ []) :
    startsCapture (cs ++ tail) = startsCapture cs := by
  cases cs with
  | nil => exact absurd rfl nonempty
  | cons c rest => rfl

/-- The ending of a file name neither helps nor harms its route. -/
theorem routePath?_fileName_isSome_iff (name : PageName) :
    (routePath? name.fileName.toList).isSome ↔ Routable name := by
  have spelled : (routePath? name.fileName.toList).isSome ↔
      startsCapture name.fileName.toList = false ∧ ∃ text, name.fileName.toList = doubled text := by
    simp only [Option.isSome_iff_exists, routePath?_eq_some_iff]
    constructor
    · rintro ⟨_, start, text, written, _⟩
      exact ⟨start, text, written⟩
    · rintro ⟨start, text, written⟩
      exact ⟨_, start, text, written, rfl⟩
  rw [spelled, Routable, toList_fileName]
  rcases stemOf_cases name.text.toList with ⟨_, written⟩ | same
  · rw [← written]
  · have plain : ∀ c ∈ pageEnding, isBrace c = false := by simp [pageEnding, isBrace]
    rw [same, startsCapture_append (text_toList_ne_nil name), exists_doubled_append_iff plain]

/-- An accepted list of pages can be served exactly when each of its names can be written into a
route. A colon or an asterisk in front and a brace that is not doubled are what prevents it, and two
pages never do. -/
theorem routes_exist_iff_routable (layout : Layout) {pages : List Page} {catalogue : Catalogue}
    (accepted : Catalogue.ofPages pages = .ok catalogue) :
    (Site.mk layout catalogue).routes?.isSome ↔ ∀ page ∈ pages, Routable page.name := by
  rw [routes?_isSome_iff, ofPages_eq_ok_iff.mp accepted]
  simp only [routePath?_fileName_isSome_iff]

/-- A layout with an empty menu. -/
def bareLayout : Layout := ⟨⟨[], by decide⟩, .plain, false⟩

/-- Doubled braces are no obstacle, and neither is the second route of the index. -/
theorem doubled_brace_page_has_routes :
    let pages : List Page :=
      [⟨⟨"\x7b\x7bx", by decide, by decide⟩, "", "", none, false⟩,
        ⟨⟨"index.html", by decide, by decide⟩, "", "", none, false⟩]
    ∃ catalogue, Catalogue.ofPages pages = .ok catalogue ∧
      (Site.mk bareLayout catalogue).routes?.isSome := by
  intro pages
  have accepted : Catalogue.ofPages pages = .ok ⟨pages, by decide⟩ := ofPages_eq_ok_iff.mpr rfl
  refine ⟨_, accepted, (routes_exist_iff_routable _ accepted).mpr ?_⟩
  intro page member
  simp only [pages, List.mem_cons, List.not_mem_nil, or_false] at member
  rcases member with rfl | rfl
  · exact ⟨by decide, ['\x7b', 'x'], by decide⟩
  · exact ⟨by decide, "index.html".toList, by decide⟩

/-- A name with a colon in front is valid and its page is accepted, but no routes can be laid. -/
theorem colon_page_has_no_routes :
    ∃ (page : Page) (catalogue : Catalogue), PageName.ofString? ":x" = some page.name ∧
      Catalogue.ofPages [page] = .ok catalogue ∧
      ∀ layout, (Site.mk layout catalogue).routes? = none := by
  let page : Page := ⟨⟨":x", by decide, by decide⟩, "", "", none, false⟩
  have refused : [page].foldlM addPage? [] = none := by decide
  exact ⟨page, ⟨[page], by decide⟩, ofString?_eq_some_iff.mpr rfl, ofPages_eq_ok_iff.mpr rfl,
    fun _ => refused⟩

/-! ## Dispatching -/

/-- The routes of a site are those under which its pages are published. -/
theorem routes?_laid {site : Site} (built : site.routes? = some routes) :
    Laid (site.catalogue.pages.map Page.name) routes :=
  foldlM_addPage?_laid laid_nil built

/-- The name of the page to which a path is dispatched, if it takes a route at all. -/
def nameAt? (routes : List Route) (path : List Char) : Option PageName :=
  (routeAt? routes path).map Route.name

/-- A path is dispatched to the one page that is published under it. -/
theorem nameAt?_eq_some_iff (laid : Laid names routes) :
    nameAt? routes path = some name ↔ name ∈ names ∧ Publishes name path := by
  simp only [nameAt?, Option.map_eq_some_iff, routeAt?, find?_key_eq_some_iff laid.alone,
    laid.complete]
  constructor
  · rintro ⟨route, ⟨⟨known, publishes⟩, rfl⟩, rfl⟩
    exact ⟨known, publishes⟩
  · rintro ⟨known, publishes⟩
    exact ⟨⟨path, name⟩, ⟨⟨known, publishes⟩, rfl⟩, rfl⟩

theorem routeAt?_eq_none_iff (laid : Laid names routes) :
    routeAt? routes path = none ↔ ∀ name ∈ names, ¬Publishes name path := by
  constructor
  · intro untaken name known publishes
    have dispatched := (nameAt?_eq_some_iff laid).mpr ⟨known, publishes⟩
    simp [nameAt?, untaken] at dispatched
  · intro unpublished
    rw [← Option.map_eq_none_iff, Option.eq_none_iff_forall_ne_some]
    intro name dispatched
    obtain ⟨known, publishes⟩ := (nameAt?_eq_some_iff laid).mp dispatched
    exact unpublished name known publishes

/-- A path under which a site publishes no page. -/
def Unpublished (site : Site) (path : List Char) : Prop :=
  ∀ page ∈ site.catalogue.pages, ¬Publishes page.name path

theorem untaken_iff_unpublished {site : Site} (built : site.routes? = some routes) :
    routeAt? routes path = none ↔ Unpublished site path := by
  rw [routeAt?_eq_none_iff (routes?_laid built), List.forall_mem_map]
  rfl

/-- A route of a site leads to one of its pages. -/
theorem exists_page_of_route {site : Site} (built : site.routes? = some routes)
    (taken : routeAt? routes path = some route) :
    ∃ page ∈ site.catalogue.pages, page.name = route.name ∧
      nameAt? routes path = some page.name := by
  have dispatched : nameAt? routes path = some route.name := by simp [nameAt?, taken]
  obtain ⟨known, _⟩ := (nameAt?_eq_some_iff (routes?_laid built)).mp dispatched
  obtain ⟨page, member, same⟩ := List.mem_map.mp known
  exact ⟨page, member, same, same ▸ dispatched⟩

end Handbook.Routing
