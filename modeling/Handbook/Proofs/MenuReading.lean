import Handbook.Proofs.MenuMarkup

/-! The menu as it can be read back. Cut at its tags and at the quotes in them, a menu gives every
entry again, with its target, its label and its mark, whatever these spell out. Two menus that read
alike are alike, and the tags of a menu tell nothing of its texts. -/
namespace Handbook.MenuReading
open Text Escaping Occurrences MenuMarkup

/-! ## Reading -/

/-- A link of a menu as it is read. -/
structure Link where
  target : String
  label : String
  marked : Bool
  deriving DecidableEq

/-- Whether a link is marked, told by what its tag has behind the target, cut at the quotes. -/
def marking? (attributes : List Markup) : Option Bool :=
  if attributes = [[]] then some false
  else if attributes = [" class=".toList, "active".toList, []] then some true
  else none

/-- Reads what stands from one `<` to the next: a link, if the tag in it begins one. -/
def readLink? (piece : Markup) : Option Link :=
  match piece.splitOn '>' with
  | [tag, label] =>
    match tag.splitOn '"' with
    | start :: target :: attributes =>
      if start = "a href=".toList then
        (marking? attributes).map fun marked =>
          ⟨String.ofList (unescape target), String.ofList (unescape label), marked⟩
      else none
    | _ => none
  | _ => none

/-- The links in a piece of markup, in their order. -/
def readLinks (markup : Markup) : List Link := (markup.splitOn '<').filterMap readLink?

/-- Reading starts anew at every tag. -/
theorem readLinks_append (tagged : after.head? = some '<') (before : Markup) :
    readLinks (before ++ after) = readLinks before ++ readLinks after := by
  obtain ⟨rest, rfl⟩ := List.head?_eq_some_iff.mp tagged
  have bare : '<' :: rest = [] ++ '<' :: rest := rfl
  have nothing : List.filterMap readLink? (List.splitOn '<' []) = [] := by decide
  unfold readLinks
  rw [List.splitOn_append_cons_self, List.filterMap_append, bare, List.splitOn_append_cons_self,
    List.filterMap_append, nothing, List.nil_append]

theorem readLinks_tag (untagged : '<' ∉ piece) :
    readLinks ('<' :: piece) = (readLink? piece).toList := by
  have bare : '<' :: piece = [] ++ '<' :: piece := rfl
  have nothing : List.filterMap readLink? (List.splitOn '<' []) = [] := by decide
  unfold readLinks
  rw [bare, List.splitOn_append_cons_self, List.filterMap_append, nothing,
    List.splitOn_eq_singleton untagged, List.nil_append]
  cases read : readLink? piece with
  | none => simp [read]
  | some link => simp [read]

/-- The flag of an entry tells whether it is marked. -/
theorem marking?_flag (marked : Bool) : marking? ((flag marked).splitOn '"') = some marked := by
  cases marked <;> decide

/-- An entry as it is read. -/
def linkOf (active : String) (entry : MenuEntry) : Link :=
  ⟨"./" ++ entry.name.text, entry.label, entry.name.stem == active⟩

/-- The tag of a link and its label read back as the texts they were written from. -/
theorem readLink?_entryTexts (entry : MenuEntry) (marked : Bool) :
    readLink? ("a href=\"".toList ++ entryTexts (flag marked) entry) =
      some ⟨entry.name.href, entry.label, marked⟩ := by
  let tag := "a href=".toList ++ '"' :: (escape entry.name.href.toList ++ '"' :: flag marked)
  have written : "a href=\"".toList ++ entryTexts (flag marked) entry =
      tag ++ '>' :: escape entry.label.toList := by
    have opens : "a href=\"".toList = "a href=".toList ++ ['"'] := by decide
    simp only [entryTexts, tag, opens, List.append_assoc, List.cons_append, List.nil_append]
  have closed : '>' ∉ tag := by
    have flagged : '>' ∉ flag marked := by cases marked <;> decide
    simp [tag, flagged, not_mem_escape (c := '>') rfl]
  have pieces : (tag ++ '>' :: escape entry.label.toList).splitOn '>' =
      [tag, escape entry.label.toList] := by
    rw [List.splitOn_append_cons_self, List.splitOn_eq_singleton closed,
      List.splitOn_eq_singleton (not_mem_escape rfl _)]
    rfl
  have values : tag.splitOn '"' =
      "a href=".toList :: escape entry.name.href.toList :: (flag marked).splitOn '"' := by
    rw [List.splitOn_append_cons_self, List.splitOn_append_cons_self,
      List.splitOn_eq_singleton (by decide), List.splitOn_eq_singleton (not_mem_escape rfl _)]
    rfl
  rw [written, readLink?, pieces]
  simp [values, marking?_flag, unescape_escape]

/-- An item of the list holds one link, its own. -/
theorem readLinks_html (entry : MenuEntry) (active : String) (style : LinkStyle) :
    readLinks (entry.html active style) = [linkOf active entry] := by
  have opens : "<a href=\"".toList = '<' :: "a href=\"".toList := by decide
  have before : readLinks (wrapOpen style) = [] := by cases style <;> decide
  have after : readLinks (closing style) = [] := by cases style <;> decide
  have closed : (closing style).head? = some '<' := by cases style <;> decide
  let link := "a href=\"".toList ++ entryTexts (flag (entry.isActive active)) entry
  have written : entry.html active style = wrapOpen style ++ ('<' :: link ++ closing style) := by
    simp only [html_eq, opening, opens, link, List.append_assoc, List.cons_append]
  have untagged : '<' ∉ link := by
    have start : '<' ∉ "a href=\"".toList := by decide
    exact fun member => (List.mem_append.mp member).elim start (tag_not_mem_entryTexts entry _)
  rw [written, readLinks_append rfl, readLinks_append closed, before, after, readLinks_tag untagged,
    readLink?_entryTexts, List.append_nil]
  rfl

theorem head?_html (entry : MenuEntry) (active : String) (style : LinkStyle) :
    (entry.html active style).head? = some '<' := by
  have opens : (opening style).head? = some '<' := by cases style <;> decide
  rw [html_eq, List.head?_append, opens]
  rfl

/-- Items in front of a tag begin with a tag, even when there are none. -/
theorem head?_items (tagged : after.head? = some '<') (active : String) (style : LinkStyle)
    (entries : List MenuEntry) :
    (entries.flatMap (fun entry => entry.html active style) ++ after).head? = some '<' := by
  cases entries with
  | nil => exact tagged
  | cons entry rest =>
    rw [List.flatMap_cons, List.append_assoc, List.head?_append, head?_html]
    rfl

/-- Items in a row are read one by one. -/
theorem readLinks_items (tagged : after.head? = some '<') (active : String) (style : LinkStyle)
    (entries : List MenuEntry) :
    readLinks (entries.flatMap (fun entry => entry.html active style) ++ after) =
      entries.map (linkOf active) ++ readLinks after := by
  induction entries with
  | nil => rfl
  | cons entry rest ih =>
    have next := head?_items tagged active style rest
    rw [List.flatMap_cons, List.append_assoc, readLinks_append next, readLinks_html, ih]
    rfl

/-- A menu reads back as its entries. -/
theorem readLinks_menu (menu : Menu) (active : String) (style : LinkStyle) :
    readLinks (menu.html active style) = menu.entries.map (linkOf active) := by
  have tagged : (Markup.closeTag "ul").head? = some '<' := rfl
  have opened : readLinks (Markup.openTag "ul" []) = [] := by decide
  have closed : readLinks (Markup.closeTag "ul") = [] := by decide
  rw [menu_eq_list, list, readLinks_append (head?_items tagged active style menu.entries),
    readLinks_items tagged, opened, closed, List.nil_append, List.append_nil]

/-! ## What a menu tells -/

/-- The target of a link is the name behind one dot and one slash, and no slash follows. -/
theorem target_relative (name : PageName) :
    ∃ rest, name.href = "./" ++ rest ∧ '/' ∉ rest.toList := by
  refine ⟨name.text, rfl, fun member => ?_⟩
  have visible := List.all_eq_true.mp name.visible '/' member
  exact absurd visible (by decide)

theorem entries_eq_of_links_eq {menu other : Menu}
    (same : menu.entries.map (linkOf active) = other.entries.map (linkOf otherActive)) :
    menu.entries = other.entries ∧
      menu.entries.map (MenuEntry.isActive · active) =
        other.entries.map (MenuEntry.isActive · otherActive) := by
  have texts := congrArg (List.map fun link : Link => (link.target, link.label)) same
  have marked := congrArg (List.map Link.marked) same
  rw [List.map_map, List.map_map] at texts marked
  refine ⟨?_, marked⟩
  have shown : Function.Injective fun entry : MenuEntry => (entry.name.href, entry.label) := by
    rintro ⟨name, label⟩ ⟨otherName, otherLabel⟩ same
    simp only [PageName.href, Prod.mk.injEq, String.append_right_inj] at same
    obtain ⟨text, rfl⟩ := same
    rw [PageNames.eq_of_text_eq text]
  exact List.map_injective_iff.mpr shown texts

/-- Two menus read alike exactly when they have the same entries with the same marks, in one style
unless there is nothing to write in a style. -/
theorem menu_eq_iff {menu other : Menu} :
    menu.html active style = other.html otherActive otherStyle ↔
      menu.entries = other.entries ∧
        menu.entries.map (MenuEntry.isActive · active) =
          other.entries.map (MenuEntry.isActive · otherActive) ∧
        (style = otherStyle ∨ menu.entries = []) := by
  constructor
  · intro same
    have links := congrArg readLinks same
    rw [readLinks_menu, readLinks_menu] at links
    obtain ⟨entries, marked⟩ := entries_eq_of_links_eq links
    refine ⟨entries, marked, ?_⟩
    -- the links do not tell the style, but the tags that begin emphasis do
    have emphasis := congrArg (occurrences "<strong>".toList) same
    rw [occurrences_emphasis, occurrences_emphasis, ← entries] at emphasis
    cases style with
    | plain =>
      cases otherStyle with
      | plain => exact .inl rfl
      | emphasized => exact .inr (List.length_eq_zero_iff.mp emphasis.symm)
    | emphasized =>
      cases otherStyle with
      | plain => exact .inr (List.length_eq_zero_iff.mp emphasis)
      | emphasized => exact .inl rfl
  · rintro ⟨entries, marked, styles⟩
    rw [menu_eq_list, menu_eq_list, ← entries, list, list, List.flatMap_congr]
    intro entry member
    have flagged : entry.isActive active = entry.isActive otherActive := by
      rw [← entries] at marked
      exact List.map_inj_left.mp marked entry member
    rcases styles with rfl | empty
    · rw [html_eq, html_eq, flagged]
    · rw [empty] at member
      cases member

/-! ## The tags of a menu -/

/-- The marks of an entry: those of its tags, with the quotes around its target, and two more where
it is marked itself. -/
def entryMarks (style : LinkStyle) (marked : Bool) : List Char :=
  marks (opening style) ++ ('"' :: (if marked then ['"', '"'] else []) ++ ['>']) ++
    marks (closing style)

/-- The marks of a menu with a number of entries, of which the one at an index may be marked. -/
def menuMarks (count : Nat) (style : LinkStyle) (marked? : Option Nat) : List Char :=
  marks (Markup.openTag "ul" []) ++
    ((List.range count).flatMap (fun index => entryMarks style (marked? == some index)) ++
      marks (Markup.closeTag "ul"))

theorem marks_entryTexts (entry : MenuEntry) (marked : Bool) :
    marks (entryTexts (flag marked) entry) =
      '"' :: (if marked then ['"', '"'] else []) ++ ['>'] := by
  have quote : ∀ rest, marks ('"' :: rest) = '"' :: marks rest := fun _ => rfl
  have close : ∀ rest, marks ('>' :: rest) = '>' :: marks rest := fun _ => rfl
  have flagged : marks (flag marked) = if marked then ['"', '"'] else [] := by
    cases marked <;> decide
  rw [entryTexts, marks_append, marks_escape, List.cons_append, quote, marks_append, flagged, close,
    marks_escape]
  rfl

theorem marks_html (entry : MenuEntry) (active : String) (style : LinkStyle) :
    marks (entry.html active style) = entryMarks style (entry.isActive active) := by
  rw [html_eq, marks_append, marks_append, marks_entryTexts, entryMarks, ← List.append_assoc]

/-- Where the marked entry stands tells of every entry whether it is marked. -/
theorem isActive_eq_findIdx? (menu : Menu) (active : String) :
    menu.entries.map (MenuEntry.isActive · active) =
      (List.range menu.entries.length).map fun index =>
        menu.entries.findIdx? (MenuEntry.isActive · active) == some index := by
  apply List.ext_getElem
  · simp
  · intro index inMarks _
    have inEntries : index < menu.entries.length := by simpa using inMarks
    rw [List.getElem_map, List.getElem_map, List.getElem_range, Bool.eq_iff_iff, beq_iff_eq,
      List.findIdx?_eq_some_iff_getElem]
    constructor
    · intro marked
      refine ⟨inEntries, marked, fun earlier before again => ?_⟩
      have inFront : earlier < menu.entries.length := Nat.lt_trans before inEntries
      have apart := List.pairwise_iff_getElem.mp (stems_nodup menu) earlier index
        (by simpa using inFront) (by simpa using inEntries) before
      rw [List.getElem_map, List.getElem_map] at apart
      exact apart ((beq_iff_eq.mp again).trans (beq_iff_eq.mp marked).symm)
    · rintro ⟨_, marked, _⟩
      exact marked

theorem marks_menu (menu : Menu) (active : String) (style : LinkStyle) :
    marks (menu.html active style) = menuMarks menu.entries.length style
      (menu.entries.findIdx? (MenuEntry.isActive · active)) := by
  have items : marks (menu.entries.flatMap fun entry => entry.html active style) =
      (menu.entries.map (MenuEntry.isActive · active)).flatMap (entryMarks style) := by
    rw [marks, List.filter_flatMap, List.flatMap_map]
    exact List.flatMap_congr fun entry _ => marks_html entry active style
  rw [menu_eq_list, list, marks_append, marks_append, items, isActive_eq_findIdx?, List.flatMap_map]
  rfl

/-- The menu can be read back and cannot be broken out of. Its links are the entries in their order,
each target a name behind a dot and a slash; what is written tells entries, marks and, if there is
any entry, the style; and its tags tell how many entries there are and which is marked, and nothing
of what they say. -/
theorem menu_reads_back_as_its_entries (menu : Menu) (active : String) (style : LinkStyle) :
    readLinks (menu.html active style) = menu.entries.map (linkOf active) ∧
      (∀ link ∈ readLinks (menu.html active style),
        ∃ rest, link.target = "./" ++ rest ∧ '/' ∉ rest.toList) ∧
      (∀ (other : Menu) otherActive otherStyle,
        menu.html active style = other.html otherActive otherStyle ↔
          menu.entries = other.entries ∧
            menu.entries.map (MenuEntry.isActive · active) =
              other.entries.map (MenuEntry.isActive · otherActive) ∧
            (style = otherStyle ∨ menu.entries = [])) ∧
      marks (menu.html active style) = menuMarks menu.entries.length style
        (menu.entries.findIdx? (MenuEntry.isActive · active)) := by
  refine ⟨readLinks_menu menu active style, ?_, fun _ _ _ => menu_eq_iff,
    marks_menu menu active style⟩
  intro link member
  rw [readLinks_menu] at member
  obtain ⟨entry, _, rfl⟩ := List.mem_map.mp member
  exact target_relative entry.name

/-- A name and a label that imitate tags, quotes and references are read back as they are. -/
theorem imitated_tags_are_read_as_texts :
    let entry : MenuEntry :=
      ⟨⟨"\"><b>&amp;.html", by decide, by decide⟩, "</a><a href=\"./x\">&lt;"⟩
    let menu : Menu := ⟨[entry], by decide⟩
    let link : Link := ⟨"./\"><b>&amp;.html", "</a><a href=\"./x\">&lt;", true⟩
    readLinks (menu.html "\"><b>&amp;" .emphasized) = [link] ∧
      link ∈ readLinks (menu.html "\"><b>&amp;" .emphasized) ∧
      ∃ rest, link.target = "./" ++ rest ∧ '/' ∉ rest.toList := by
  intro entry menu link
  obtain ⟨read, targets, _, _⟩ := menu_reads_back_as_its_entries menu "\"><b>&amp;" .emphasized
  have shown : menu.entries.map (linkOf "\"><b>&amp;") = [link] := by decide
  rw [shown] at read
  have member : link ∈ readLinks (menu.html "\"><b>&amp;" .emphasized) := by
    rw [read]
    exact List.mem_singleton.mpr rfl
  exact ⟨read, member, targets link member⟩

end Handbook.MenuReading
