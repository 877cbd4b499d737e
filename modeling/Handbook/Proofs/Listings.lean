import Handbook.Menu
import Handbook.Proofs.Catalogues
import Mathlib.Data.Set.List

/-! What listings take and what they blame. A menu reads all its names before it compares any, so a
text that is no name is reported ahead of every repeated one; menu and catalogue then compare stems
alike, and both blame the first name that repeats a stem. What is taken is taken as it was given,
and in which order it was given does not decide whether it is. -/
namespace Handbook.Listings
open PageNames Catalogues

/-! ## The first fault of a list -/

/-- An entry stands at the first place of a list that is at fault. Whether a place is at fault is
told by what stands before it and what stands there. -/
def FirstFault (fault : List α → α → Prop) (entries : List α) (entry : α) : Prop :=
  ∃ index, entries[index]? = some entry ∧ fault (entries.take index) entry ∧
    ∀ earlier < index, ∀ other, entries[earlier]? = some other →
      ¬fault (entries.take earlier) other

theorem not_firstFault_nil {fault : List α → α → Prop} : ¬FirstFault fault [] entry := by
  rintro ⟨index, stands, _⟩
  simp at stands

/-- A list is looked through from its front: behind a place without fault, what stands there counts
as standing before the rest. -/
theorem firstFault_cons_iff {fault : List α → α → Prop} :
    FirstFault fault (head :: rest) entry ↔
      (fault [] head ∧ head = entry) ∨
        (¬fault [] head ∧ FirstFault (fun before => fault (head :: before)) rest entry) := by
  constructor
  · rintro ⟨index, stands, faulty, first⟩
    cases index with
    | zero =>
      cases stands
      exact .inl ⟨faulty, rfl⟩
    | succ index =>
      refine .inr ⟨first 0 (Nat.succ_pos index) head rfl, index, stands, faulty, ?_⟩
      intro earlier before
      exact first (earlier + 1) (Nat.succ_lt_succ before)
  · rintro (⟨faulty, rfl⟩ | ⟨sound, index, stands, faulty, first⟩)
    · exact ⟨0, rfl, faulty, fun earlier before => absurd before (Nat.not_lt_zero earlier)⟩
    · refine ⟨index + 1, stands, faulty, ?_⟩
      intro earlier before other found
      cases earlier with
      | zero =>
        cases found
        exact sound
      | succ earlier => exact first earlier (Nat.lt_of_succ_lt_succ before) other found

/-- Where only a part of each entry is looked at, the first fault is that of the list of these
parts. -/
theorem firstFault_map_iff {fault : List β → β → Prop} {part : α → β} {entries : List α} :
    FirstFault fault (entries.map part) shown ↔
      ∃ entry, FirstFault (fun before other => fault (before.map part) (part other)) entries entry ∧
        part entry = shown := by
  simp only [FirstFault, List.getElem?_map, ← List.map_take, Option.map_eq_some_iff]
  constructor
  · rintro ⟨index, ⟨entry, stands, rfl⟩, faulty, first⟩
    refine ⟨entry, ⟨index, stands, faulty, ?_⟩, rfl⟩
    intro earlier before other found
    exact first earlier before (part other) ⟨other, found, rfl⟩
  · rintro ⟨entry, ⟨index, stands, faulty, first⟩, rfl⟩
    refine ⟨index, ⟨entry, stands, rfl⟩, faulty, ?_⟩
    rintro earlier before _ ⟨other, found, rfl⟩
    exact first earlier before other found

/-! ## Names that repeat a stem -/

/-- The stem of a name was met before it. -/
def Repeats (before : List PageName) (name : PageName) : Prop :=
  ∃ earlier ∈ before, earlier.stem = name.stem

theorem not_repeats_nil : ¬Repeats [] name := by
  rintro ⟨_, member, _⟩
  cases member

theorem repeats_cons_iff :
    Repeats (head :: before) name ↔ name.stem = head.stem ∨ Repeats before name := by
  simp [Repeats, eq_comm]

/-- The stems met so far are those a search began with and those of the names it has passed. -/
theorem firstRepeatAfter?_eq_some_iff (seen : List String) (names : List PageName) :
    firstRepeatAfter? seen names = some name ↔
      FirstFault (fun before name => name.stem ∈ seen ∨ Repeats before name) names name := by
  induction names generalizing seen with
  | nil => simp [firstRepeatAfter?, not_firstFault_nil]
  | cons head rest ih =>
    -- a stem behind the head was met if the search began with it, or met it at the head or later
    have passed :
        (fun before (name : PageName) => name.stem ∈ seen ∨ Repeats (head :: before) name) =
          fun before name => name.stem ∈ head.stem :: seen ∨ Repeats before name := by
      funext before name
      rw [repeats_cons_iff, List.mem_cons, or_left_comm, or_assoc]
    rw [firstFault_cons_iff, passed, ← ih, firstRepeatAfter?]
    split
    · rename_i met
      simp [met]
    · rename_i fresh
      simp [fresh, not_repeats_nil]

theorem firstRepeat?_eq_some_iff :
    firstRepeat? names = some name ↔ FirstFault Repeats names name := by
  simp [firstRepeat?, firstRepeatAfter?_eq_some_iff]

/-- A text without one page ending, which is the stem where the text is a name. -/
def textStem (text : String) : String := String.ofList (stemOf text.toList)

/-- The first of some texts whose stem an earlier one has. -/
def FirstRepeated : List String → String → Prop :=
  FirstFault fun before text => ∃ earlier ∈ before, textStem earlier = textStem text

theorem firstRepeated_names_iff : FirstRepeated (names.map PageName.text) text ↔
    ∃ name, FirstFault Repeats names name ∧ name.text = text := by
  simp only [FirstRepeated, firstFault_map_iff, List.mem_map, exists_exists_and_eq_and]
  rfl

/-- A listing complains of nothing but the first name that repeats a stem. -/
theorem distinct_eq_error_iff {listing : Listing} :
    listing.distinct names = .error error ↔
      ∃ text, FirstRepeated (names.map PageName.text) text ∧
        error = ⟨listing, .duplicate, text⟩ := by
  simp only [firstRepeated_names_iff, ← firstRepeat?_eq_some_iff]
  unfold Listing.distinct
  split
  · rename_i name repeated
    simp [repeated, eq_comm]
  · rename_i unrepeated
    constructor
    · intro refused
      cases refused
    · rintro ⟨_, ⟨name, repeated, _⟩, _⟩
      rw [unrepeated] at repeated
      cases repeated

/-! ## Pages and entries that repeat a stem -/

/-- A catalogue complains of the first page whose stem was met before. -/
theorem ofPages_eq_error_iff : Catalogue.ofPages pages = .error error ↔
    ∃ text, FirstRepeated (pages.map fun page => page.name.text) text ∧
      error = ⟨.catalogue, .duplicate, text⟩ := by
  have texts : (pages.map fun page => page.name.text) =
      (pages.map Page.name).map PageName.text := List.map_map.symm
  rw [texts, ← distinct_eq_error_iff, Catalogue.ofPages, bind_eq_error_iff]
  simp [pure, Except.pure]

/-- A menu complains of the first entry whose stem was met before. -/
theorem ofEntries_eq_error_iff : Menu.ofEntries entries = .error error ↔
    ∃ text, FirstRepeated (entries.map fun entry => entry.name.text) text ∧
      error = ⟨.menu, .duplicate, text⟩ := by
  have texts : (entries.map fun entry => entry.name.text) =
      (entries.map MenuEntry.name).map PageName.text := List.map_map.symm
  rw [texts, ← distinct_eq_error_iff, Menu.ofEntries, bind_eq_error_iff]
  simp [pure, Except.pure]

theorem ofEntries_eq_ok_iff {menu : Menu} :
    Menu.ofEntries entries = .ok menu ↔ menu.entries = entries := by
  rw [Menu.ofEntries, bind_eq_ok_iff]
  constructor
  · rintro ⟨evidence, _, accepted⟩
    cases accepted
    rfl
  · rintro rfl
    obtain ⟨evidence, passed⟩ := exists_distinct_eq_ok .menu menu.distinct
    exact ⟨evidence, passed, rfl⟩

/-! ## Names that are read -/

/-- Whether a text is the name of a page. -/
def IsName (text : String) : Prop := ∃ name : PageName, name.text = text

/-- An entry as it was given: the text of its name, and its label. -/
def written (entry : MenuEntry) : String × String := (entry.name.text, entry.label)

/-- The first of some texts that is no name; what stands before it does not matter. -/
def FirstInvalid : List String → String → Prop := FirstFault fun _ text => ¬IsName text

theorem ofString?_eq_none_iff : PageName.ofString? text = none ↔ ¬IsName text := by
  rw [Option.eq_none_iff_forall_ne_some]
  constructor
  · rintro unread ⟨name, rfl⟩
    exact unread name (ofString?_eq_some_iff.mpr rfl)
  · intro unnamed name read
    exact unnamed ⟨name, (ofString?_eq_some_iff.mp read).symm⟩

theorem name_eq_ok_iff {listing : Listing} : listing.name text = .ok name ↔ name.text = text := by
  rw [eq_comm (a := name.text), ← ofString?_eq_some_iff]
  unfold Listing.name
  cases PageName.ofString? text with
  | none => simp
  | some name => simp

theorem name_eq_error_iff {listing : Listing} :
    listing.name text = .error error ↔ ¬IsName text ∧ error = ⟨listing, .invalid, text⟩ := by
  rw [← ofString?_eq_none_iff]
  unfold Listing.name
  cases PageName.ofString? text with
  | none => simp [eq_comm]
  | some name => simp

theorem entry_eq_ok_iff {entry : MenuEntry} :
    Menu.entry text label = .ok entry ↔ written entry = (text, label) := by
  rw [Menu.entry, bind_eq_ok_iff]
  simp only [name_eq_ok_iff, written, Prod.mk.injEq]
  constructor
  · rintro ⟨name, named, accepted⟩
    cases accepted
    exact ⟨named, rfl⟩
  · rintro ⟨named, rfl⟩
    exact ⟨entry.name, named, rfl⟩

theorem entry_eq_error_iff : Menu.entry text label = .error error ↔
    ¬IsName text ∧ error = ⟨.menu, .invalid, text⟩ := by
  rw [Menu.entry, bind_eq_error_iff, name_eq_error_iff]
  simp [pure, Except.pure]

/-- The entries are read off the pairs one by one. -/
theorem readings_eq_ok_iff {entries : List MenuEntry} :
    (pairs.mapM fun (text, label) => Menu.entry text label) = .ok entries ↔
      entries.map written = pairs := by
  induction pairs generalizing entries with
  | nil => simp [pure, Except.pure, eq_comm]
  | cons pair rest ih =>
    simp only [List.mapM_cons, bind_eq_ok_iff, entry_eq_ok_iff, ih, List.map_eq_cons_iff]
    constructor
    · rintro ⟨entry, given, others, read, accepted⟩
      cases accepted
      exact ⟨entry, others, rfl, given, read⟩
    · rintro ⟨entry, others, rfl, given, read⟩
      exact ⟨entry, given, others, read, rfl⟩

/-- Reading stops at the first text that is no name. -/
theorem readings_eq_error_iff {pairs : List (String × String)} :
    (pairs.mapM fun (text, label) => Menu.entry text label) = .error error ↔
      ∃ text, FirstInvalid (pairs.map Prod.fst) text ∧ error = ⟨.menu, .invalid, text⟩ := by
  unfold FirstInvalid
  induction pairs with
  | nil => simp [pure, Except.pure, not_firstFault_nil]
  | cons pair rest ih =>
    simp only [List.mapM_cons, bind_eq_error_iff, List.map_cons, firstFault_cons_iff,
      entry_eq_error_iff, entry_eq_ok_iff, ih]
    constructor
    · rintro (⟨unnamed, rfl⟩ | ⟨entry, given, ⟨text, first, rfl⟩ | ⟨_, _, accepted⟩⟩)
      · exact ⟨pair.1, .inl ⟨unnamed, rfl⟩, rfl⟩
      · have named : IsName pair.1 := ⟨entry.name, congrArg Prod.fst given⟩
        exact ⟨text, .inr ⟨not_not_intro named, first⟩, rfl⟩
      · cases accepted
    · rintro ⟨text, ⟨unnamed, rfl⟩ | ⟨readable, first⟩, rfl⟩
      · exact .inl ⟨unnamed, rfl⟩
      · obtain ⟨name, named⟩ := not_not.mp readable
        exact .inr ⟨⟨name, pair.2⟩, Prod.ext named rfl, .inl ⟨text, first, rfl⟩⟩

/-- Entries can be read off pairs exactly when every text is a name. -/
theorem exists_entries_iff :
    (∃ entries : List MenuEntry, entries.map written = pairs) ↔ ∀ pair ∈ pairs, IsName pair.1 := by
  rw [← Set.mem_range, Set.range_list_map]
  refine forall₂_congr fun pair _ => ?_
  constructor
  · rintro ⟨entry, rfl⟩
    exact ⟨entry.name, rfl⟩
  · rintro ⟨name, named⟩
    exact ⟨⟨name, pair.2⟩, Prod.ext named rfl⟩

/-! ## What listings take -/

/-- A menu is what it was made from. -/
theorem ofPairs_eq_ok_iff {menu : Menu} :
    Menu.ofPairs pairs = .ok menu ↔ menu.entries.map written = pairs := by
  simp only [Menu.ofPairs, bind_eq_ok_iff, readings_eq_ok_iff, ofEntries_eq_ok_iff]
  constructor
  · rintro ⟨entries, given, rfl⟩
    exact given
  · intro given
    exact ⟨menu.entries, given, rfl⟩

/-- A menu complains of the first text that is no name, and where there is none, of the first that
repeats a stem. -/
theorem ofPairs_eq_error_iff : Menu.ofPairs pairs = .error error ↔
    (∃ text, FirstInvalid (pairs.map Prod.fst) text ∧ error = ⟨.menu, .invalid, text⟩) ∨
      (∀ pair ∈ pairs, IsName pair.1) ∧
        ∃ text, FirstRepeated (pairs.map Prod.fst) text ∧ error = ⟨.menu, .duplicate, text⟩ := by
  simp only [Menu.ofPairs, bind_eq_error_iff, readings_eq_error_iff, readings_eq_ok_iff,
    ofEntries_eq_error_iff, ← exists_entries_iff]
  refine or_congr_right ⟨?_, ?_⟩
  · rintro ⟨entries, rfl, text, repeated, rfl⟩
    exact ⟨⟨entries, rfl⟩, text, by rwa [List.map_map], rfl⟩
  · rintro ⟨⟨entries, rfl⟩, text, repeated, rfl⟩
    exact ⟨entries, rfl, text, by rwa [List.map_map] at repeated, rfl⟩

/-- A list of pairs is taken as a menu. -/
def MenuTakes (pairs : List (String × String)) : Prop := ∃ menu, Menu.ofPairs pairs = .ok menu

/-- A list of pages is taken as a catalogue. -/
def CatalogueTakes (pages : List Page) : Prop :=
  ∃ catalogue, Catalogue.ofPages pages = .ok catalogue

/-- A listing takes texts together when all of them are names with stems of their own. -/
def Fit (texts : List String) : Prop := (∀ text ∈ texts, IsName text) ∧ (texts.map textStem).Nodup

theorem fit_names_iff : Fit (names.map PageName.text) ↔ Distinct names := by
  have named : ∀ text ∈ names.map PageName.text, IsName text := by
    intro text member
    obtain ⟨name, _, rfl⟩ := List.mem_map.mp member
    exact ⟨name, rfl⟩
  rw [Fit, List.map_map]
  exact and_iff_right named

theorem menuTakes_iff : MenuTakes pairs ↔ Fit (pairs.map Prod.fst) := by
  simp only [MenuTakes, ofPairs_eq_ok_iff]
  constructor
  · rintro ⟨menu, rfl⟩
    have fit := fit_names_iff.mpr menu.distinct
    rwa [List.map_map] at fit ⊢
  · intro fit
    obtain ⟨entries, rfl⟩ := exists_entries_iff.mpr (List.forall_mem_map.mp fit.1)
    have texts : (entries.map written).map Prod.fst =
      (entries.map MenuEntry.name).map PageName.text := by simp only [List.map_map]; rfl
    rw [texts, fit_names_iff] at fit
    exact ⟨⟨entries, fit⟩, rfl⟩

theorem catalogueTakes_iff :
    CatalogueTakes pages ↔ Fit (pages.map fun page => page.name.text) := by
  have texts : (pages.map fun page => page.name.text) =
    (pages.map Page.name).map PageName.text := List.map_map.symm
  simp only [CatalogueTakes, ofPages_eq_ok_iff, texts, fit_names_iff]
  constructor
  · rintro ⟨catalogue, rfl⟩
    exact catalogue.distinct
  · intro distinct
    exact ⟨⟨pages, distinct⟩, rfl⟩

theorem Fit.perm (fit : Fit texts) (permuted : others.Perm texts) : Fit others :=
  ⟨fun text member => fit.1 text (permuted.mem_iff.mp member),
    (permuted.map textStem).nodup_iff.mpr fit.2⟩

theorem Fit.sublist (fit : Fit texts) (part : others.Sublist texts) : Fit others :=
  ⟨fun text member => fit.1 text (part.subset member), fit.2.sublist (part.map textStem)⟩

/-! ## Verdicts -/

/-- What becomes of a list of names and labels. -/
structure MenuVerdict (pairs : List (String × String)) : Prop where
  /-- The first text that is no name is reported, whatever repeats before it. Where all are names,
  the first is reported whose stem was met before. -/
  refused : ∀ error, Menu.ofPairs pairs = .error error ↔
    (∃ text, FirstInvalid (pairs.map Prod.fst) text ∧ error = ⟨.menu, .invalid, text⟩) ∨
      (∀ pair ∈ pairs, IsName pair.1) ∧
        ∃ text, FirstRepeated (pairs.map Prod.fst) text ∧ error = ⟨.menu, .duplicate, text⟩
  /-- A menu has the entries it was given, in the order in which they were given. -/
  kept : ∀ menu, Menu.ofPairs pairs = .ok menu ↔ menu.entries.map written = pairs
  /-- Names that differ in their stems are taken, and nothing else is. -/
  taken : MenuTakes pairs ↔ Fit (pairs.map Prod.fst)

/-- What becomes of a list of pages, which have valid names already. -/
structure CatalogueVerdict (pages : List Page) : Prop where
  /-- The first name is reported whose stem was met before. -/
  refused : ∀ error, Catalogue.ofPages pages = .error error ↔
    ∃ text, FirstRepeated (pages.map fun page => page.name.text) text ∧
      error = ⟨.catalogue, .duplicate, text⟩
  /-- A catalogue has the pages it was given, in the order in which they were given. -/
  kept : ∀ catalogue, Catalogue.ofPages pages = .ok catalogue ↔ catalogue.pages = pages
  /-- Pages that differ in their stems are taken, and no others are. -/
  taken : CatalogueTakes pages ↔ Fit (pages.map fun page => page.name.text)

/-- A menu and a catalogue take the same names, and of those they refuse they blame the same. -/
structure Agree (pairs : List (String × String)) (pages : List Page) : Prop where
  taken : MenuTakes pairs ↔ CatalogueTakes pages
  refused : ∀ fault text, Menu.ofPairs pairs = .error ⟨.menu, fault, text⟩ ↔
    Catalogue.ofPages pages = .error ⟨.catalogue, fault, text⟩

/-- What is taken is taken in any order, and so is every part of it. -/
structure Hereditary (takes : List α → Prop) : Prop where
  reordered : ∀ entries others, others.Perm entries → (takes others ↔ takes entries)
  parts : ∀ entries others, others.Sublist entries → takes entries → takes others

theorem hereditary_of_fit {text : α → String}
    (rule : ∀ entries, takes entries ↔ Fit (entries.map text)) : Hereditary takes := by
  constructor
  · intro entries others permuted
    rw [rule, rule]
    have texts := permuted.map text
    exact ⟨fun fit => fit.perm texts.symm, fun fit => fit.perm texts⟩
  · intro entries others part
    rw [rule, rule]
    exact fun fit => fit.sublist (part.map text)

/-- Where both are given the same texts, no text is invalid, because pages have names. -/
theorem agree_of_same_texts {pairs : List (String × String)} {pages : List Page}
    (same : pairs.map Prod.fst = pages.map fun page => page.name.text) : Agree pairs pages := by
  have named : ∀ pair ∈ pairs, IsName pair.1 := by
    intro pair member
    have shared := List.mem_map_of_mem (f := Prod.fst) member
    rw [same] at shared
    obtain ⟨page, _, text⟩ := List.mem_map.mp shared
    exact ⟨page.name, text⟩
  constructor
  · rw [menuTakes_iff, catalogueTakes_iff, same]
  · intro fault text
    rw [ofPairs_eq_error_iff, ofPages_eq_error_iff, same]
    constructor
    · rintro (⟨other, first, error⟩ | ⟨_, other, first, error⟩)
      · -- pages have names, so none of these texts is invalid
        obtain ⟨index, stands, unnamed, _⟩ := first
        rw [← same] at stands
        obtain ⟨pair, member, rfl⟩ := List.mem_map.mp (List.mem_of_getElem? stands)
        exact absurd (named pair member) unnamed
      · cases error
        exact ⟨text, first, rfl⟩
    · rintro ⟨other, first, error⟩
      cases error
      exact .inr ⟨named, text, first, rfl⟩

/-- Menu and catalogue take exactly the names that differ in their stems. A menu reports what is no
name ahead of what repeats a stem; both report the first text at fault, as it is written, agree
with each other on the same names, and take what they take in any order and in parts. -/
theorem listings_take_and_refuse_alike (pairs : List (String × String)) (pages : List Page) :
    MenuVerdict pairs ∧ CatalogueVerdict pages ∧
      (pairs.map Prod.fst = pages.map (fun page => page.name.text) → Agree pairs pages) ∧
      Hereditary MenuTakes ∧ Hereditary CatalogueTakes := by
  have menu : MenuVerdict pairs :=
    ⟨fun _ => ofPairs_eq_error_iff, fun _ => ofPairs_eq_ok_iff, menuTakes_iff⟩
  have catalogue : CatalogueVerdict pages :=
    ⟨fun _ => ofPages_eq_error_iff, fun _ => ofPages_eq_ok_iff, catalogueTakes_iff⟩
  exact ⟨menu, catalogue, agree_of_same_texts, hereditary_of_fit fun _ => menuTakes_iff,
    hereditary_of_fit fun _ => catalogueTakes_iff⟩

/-- Two spellings of one page are refused by both listings, which blame the later one. No order and
no further entry mends that. -/
theorem later_spelling_is_blamed_by_both :
    let names : List PageName := [⟨"a.html", by decide, by decide⟩, ⟨"b", by decide, by decide⟩,
      ⟨"a", by decide, by decide⟩]
    let pairs := names.map fun name => (name.text, "label")
    let pages : List Page := names.map fun name => ⟨name, "", "", none, false⟩
    pairs.map Prod.fst = pages.map (fun page => page.name.text) ∧
      Menu.ofPairs pairs = .error ⟨.menu, .duplicate, "a"⟩ ∧
      Catalogue.ofPages pages = .error ⟨.catalogue, .duplicate, "a"⟩ ∧
      ∀ more, ¬MenuTakes (more :: pairs.reverse) := by
  intro names pairs pages
  have same : pairs.map Prod.fst = pages.map (fun page => page.name.text) := rfl
  have later : FirstRepeated (names.map PageName.text) "a" :=
    firstRepeated_names_iff.mpr ⟨names[2], firstRepeat?_eq_some_iff.mp (by decide), rfl⟩
  obtain ⟨_, catalogue, agree, menus, _⟩ := listings_take_and_refuse_alike pairs pages
  have blamed := (catalogue.refused _).mpr ⟨"a", later, rfl⟩
  have menuBlames := ((agree same).refused _ _).mpr blamed
  refine ⟨same, menuBlames, blamed, ?_⟩
  intro more whole
  have part := menus.parts _ _ (List.sublist_cons_self more pairs.reverse) whole
  obtain ⟨_, accepted⟩ := (menus.reordered _ _ pairs.reverse_perm).mp part
  rw [accepted] at menuBlames
  cases menuBlames

/-- A text that is no name is reported before the repetition in front of it. -/
example : Menu.ofPairs [("a", "A"), ("a.html", "B"), ("x/y", "C")] =
    .error ⟨.menu, .invalid, "x/y"⟩ := rfl

end Handbook.Listings
