import Handbook.Menu
import Handbook.Proofs.Catalogues
import Handbook.Proofs.Escaping
import Handbook.Proofs.Occurrences

/-! The markup of the menu, taken apart at its texts. Names and labels are escaped, so no tag and no
mark of an attribute can begin in one of them or reach from one of them into the tags around it.
What the menu says about the page shown is therefore said once, in the link of one entry, and the
two styles differ in nothing but the tags that emphasize. -/
namespace Handbook.MenuMarkup
open Text PageNames Catalogues Escaping Occurrences

/-! ## An entry in its parts -/

/-- The mark of the page shown, as it stands in a link. -/
def activeMark : Markup := "class=\"active\"".toList

/-- The attribute that an entry has on its own page. -/
def flag (marked : Bool) : Markup := if marked then ' ' :: activeMark else []

/-- The texts of an entry and what is between them: no tag begins here. -/
def entryTexts (flag : Markup) (entry : MenuEntry) : Markup :=
  escape entry.name.href.toList ++ ('"' :: flag ++ ('>' :: escape entry.label.toList))

/-- What stands in front of a link in the list. -/
def wrapOpen : LinkStyle → Markup
  | .plain => .openTag "li" []
  | .emphasized => .openTag "li" [] ++ .openTag "strong" []

/-- What stands behind a link in the list. -/
def wrapClose : LinkStyle → Markup
  | .plain => .closeTag "li"
  | .emphasized => .closeTag "strong" ++ .closeTag "li"

private theorem attr_href (value : String) :
    Markup.attr "href" value = " href=\"".toList ++ (escape value.toList ++ ['"']) := by
  simp [Markup.attr]

private theorem attributes_eq (entry : MenuEntry) (active : String) :
    (("href", entry.name.href) ::
        if entry.isActive active then [("class", "active")] else []).flatMap
      (fun (key, value) => Markup.attr key value) =
    " href=\"".toList ++ (escape entry.name.href.toList ++
      ('"' :: flag (entry.isActive active))) := by
  have marks : Markup.attr "class" "active" = ' ' :: activeMark := by decide
  rw [List.flatMap_cons]
  cases entry.isActive active with
  | false =>
    simp only [attr_href, flag, Bool.false_eq_true, if_false, List.flatMap_nil, List.append_nil]
  | true =>
    simp only [attr_href, flag, if_true, List.flatMap_cons, List.flatMap_nil, marks,
      List.append_assoc, List.append_nil, List.cons_append, List.nil_append]

theorem link_eq (entry : MenuEntry) (active : String) : entry.link active =
    "<a href=\"".toList ++ (entryTexts (flag (entry.isActive active)) entry ++ "</a>".toList) := by
  have opens : "<a href=\"".toList = '<' :: "a".toList ++ " href=\"".toList := by decide
  have closes : Markup.closeTag "a" = "</a>".toList := by decide
  rw [MenuEntry.link, Markup.element, Markup.openTag, attributes_eq, closes, opens]
  simp only [Markup.text, entryTexts, List.append_assoc, List.cons_append, List.nil_append]

theorem html_eq_link (entry : MenuEntry) (active : String) (style : LinkStyle) :
    entry.html active style = wrapOpen style ++ (entry.link active ++ wrapClose style) := by
  cases style <;>
    simp only [MenuEntry.html, Markup.element, wrapOpen, wrapClose, List.append_assoc]

/-- What stands in front of the target of a link in the list. -/
def opening (style : LinkStyle) : Markup := wrapOpen style ++ "<a href=\"".toList

/-- What stands behind the label of a link in the list. -/
def closing (style : LinkStyle) : Markup := "</a>".toList ++ wrapClose style

theorem html_eq (entry : MenuEntry) (active : String) (style : LinkStyle) :
    entry.html active style =
      opening style ++ (entryTexts (flag (entry.isActive active)) entry ++ closing style) := by
  simp only [html_eq_link, link_eq, opening, closing, List.append_assoc]

/-- The list with an item for each entry. -/
def list (item : MenuEntry → Markup) (entries : List MenuEntry) : Markup :=
  Markup.openTag "ul" [] ++ (entries.flatMap item ++ Markup.closeTag "ul")

theorem menu_eq_list (menu : Menu) (active : String) (style : LinkStyle) :
    menu.html active style = list (fun entry => entry.html active style) menu.entries :=
  List.append_assoc ..

/-- A mark that the list itself avoids is contributed by the items alone. -/
theorem contributes_list {item kept : MenuEntry → Markup} {count : MenuEntry → Nat}
    (front : avoids mark (Markup.openTag "ul" []) = true)
    (back : avoids mark (Markup.closeTag "ul") = true)
    (items : ∀ entry ∈ entries, Contributes mark (item entry) (kept entry) (count entry)) :
    Contributes mark (list item entries) (list kept entries) (entries.map count).sum := by
  have whole := (contributes_of_avoids front).append
    ((Contributes.flatMap items).append (contributes_of_avoids back))
  rwa [Nat.zero_add, Nat.add_zero] at whole

/-! ## The mark of the page shown -/

private theorem count_quote_escape (cs : List Char) : (escape cs).count '"' = 0 :=
  List.count_eq_zero.mpr (not_mem_escape rfl cs)

/-- A mark with a quote in it and no tag stands in no label, nor does it reach from a label into the
tag behind it. -/
theorem avoids_label (untagged : '<' ∉ mark) (quoted : 0 < mark.count '"')
    (more : avoids mark tag = true) (label : List Char) :
    avoids mark (escape label ++ '<' :: tag) = true := by
  have fewer : (escape label ++ ['<']).count '"' < mark.count '"' := by
    rwa [List.count_append, count_quote_escape]
  rw [List.append_cons]
  exact avoids_append (avoids_of_count_lt untagged fewer) more

/-- A mark with two quotes stands in no target, whose one closing quote is followed by a character
that the mark lacks. -/
theorem avoids_target (foreign : next ∉ mark) (quoted : 1 < mark.count '"') (plain : next ≠ '"')
    (target : List Char) : avoids mark (escape target ++ ['"'] ++ [next]) = true := by
  have fewer : (escape target ++ ['"'] ++ [next]).count '"' < mark.count '"' := by
    simpa [List.count_append, count_quote_escape, plain] using quoted
  exact avoids_of_count_lt foreign fewer

/-- The mark stands once in an entry that is flagged, and not at all in another. -/
theorem contributes_activeMark (front : avoids activeMark before = true)
    (closes : after = '<' :: tag) (back : avoids activeMark tag = true) (entry : MenuEntry)
    (marked : Bool) :
    Contributes activeMark (before ++ (entryTexts (flag marked) entry ++ after))
      (before ++ (entryTexts (if marked then [' '] else []) entry ++ after))
      (if marked then 1 else 0) := by
  subst closes
  have label := avoids_label (by decide) (by decide) back entry.label.toList
  -- a target may end like the front of the mark, so it settles nothing before the character behind
  -- its closing quote
  cases marked with
  | false =>
    have target : avoids activeMark (escape entry.name.href.toList ++ ['"'] ++ ['>']) = true :=
      avoids_target (by decide) (by decide) (by decide) entry.name.href.toList
    have whole := contributes_of_avoids (avoids_append front (avoids_append target label))
    simpa [entryTexts, flag] using whole
  | true =>
    have target : avoids activeMark (escape entry.name.href.toList ++ ['"'] ++ [' ']) = true :=
      avoids_target (by decide) (by decide) (by decide) entry.name.href.toList
    have closed : avoids activeMark ['>'] = true := by decide
    have whole := contributes_between (by decide) (by decide) (avoids_append front target)
      (avoids_append closed label)
    simpa [entryTexts, flag] using whole

/-- Escaping adds no blank. -/
private theorem blank_not_mem_escape (absent : ' ' ∉ cs) : ' ' ∉ escape cs := by
  intro member
  obtain ⟨c, inText, written⟩ := List.mem_flatMap.mp member
  unfold escapeChar at written
  split at written
  · exact absurd written (by decide)
  · exact absurd written (by decide)
  · exact absurd written (by decide)
  · exact absurd written (by decide)
  · rw [List.mem_singleton.mp written] at absent
    exact absent inText

/-- A target is one word, like the name in it. -/
theorem blank_not_mem_target (name : PageName) : ' ' ∉ escape name.href.toList := by
  apply blank_not_mem_escape
  rw [PageName.href, String.toList_append, List.mem_append, not_or]
  refine ⟨by decide, fun member => ?_⟩
  have visible := List.all_eq_true.mp name.visible ' ' member
  exact absurd visible (by decide)

/-- Without its flag, an entry reads as it does on the other pages. -/
theorem contributes_flag (front : avoids (' ' :: activeMark) before = true)
    (closes : after = '<' :: tag) (back : avoids (' ' :: activeMark) tag = true)
    (entry : MenuEntry) (marked : Bool) :
    Contributes (' ' :: activeMark) (before ++ (entryTexts (flag marked) entry ++ after))
      (before ++ (entryTexts [] entry ++ after)) (if marked then 1 else 0) := by
  subst closes
  have label := avoids_label (by decide) (by decide) back entry.label.toList
  have target : avoids (' ' :: activeMark) (escape entry.name.href.toList ++ ['"']) = true :=
    avoids_append (avoids_of_not_mem (blank_not_mem_target entry.name)) (by decide)
  have closed : avoids (' ' :: activeMark) ['>'] = true := by decide
  have front := avoids_append front target
  have back := avoids_append closed label
  cases marked with
  | false =>
    have whole := contributes_of_avoids (avoids_append front back)
    simpa [entryTexts, flag] using whole
  | true =>
    have whole := contributes_between (by decide) (by decide) front back
    simpa [entryTexts, flag] using whole

/-! ## One entry at most -/

theorem stems_nodup (menu : Menu) : (menu.entries.map fun entry => entry.name.stem).Nodup :=
  nodup_of_distinct menu.distinct

theorem sum_isActive (active : String) (entries : List MenuEntry) :
    (entries.map fun entry => if entry.isActive active then 1 else 0).sum =
      (entries.map fun entry => entry.name.stem).count active := by
  induction entries with
  | nil => rfl
  | cons entry rest ih =>
    rw [List.map_cons, List.sum_cons, ih, List.map_cons, List.count_cons, Nat.add_comm]
    rfl

/-- At most one entry of a menu is marked, because the stems of a menu differ. -/
theorem sum_marked (menu : Menu) (active : String) :
    (menu.entries.map fun entry => if entry.isActive active then 1 else 0).sum =
      if ∃ entry ∈ menu.entries, entry.name.stem = active then 1 else 0 := by
  rw [sum_isActive]
  split
  · rename_i shown
    obtain ⟨entry, member, rfl⟩ := shown
    exact List.count_eq_one_of_mem (stems_nodup menu) (List.mem_map_of_mem member)
  · rename_i hidden
    rw [List.count_eq_zero]
    intro member
    obtain ⟨entry, inMenu, same⟩ := List.mem_map.mp member
    exact hidden ⟨entry, inMenu, same⟩

/-- No entry is marked where no page is shown. -/
theorem isActive_empty (entry : MenuEntry) : entry.isActive "" = false := by
  have stem : entry.name.stem ≠ "" := fun empty =>
    stemOf_ne_nil (text_toList_ne_nil entry.name) (by rw [← toList_stem, empty]; rfl)
  exact beq_eq_false_iff_ne.mpr stem

private theorem closing_eq (style : LinkStyle) : closing style = '<' :: (closing style).tail := by
  cases style <;> decide

theorem html_contributes_activeMark (entry : MenuEntry) (active : String) (style : LinkStyle) :
    Contributes activeMark (entry.html active style)
      (opening style ++
        (entryTexts (if entry.isActive active then [' '] else []) entry ++ closing style))
      (if entry.isActive active then 1 else 0) := by
  rw [html_eq]
  exact contributes_activeMark (by cases style <;> decide) (closing_eq style)
    (by cases style <;> decide) entry (entry.isActive active)

theorem html_contributes_flag (entry : MenuEntry) (active : String) (style : LinkStyle) :
    Contributes (' ' :: activeMark) (entry.html active style) (entry.html "" style)
      (if entry.isActive active then 1 else 0) := by
  rw [html_eq, html_eq, isActive_empty]
  exact contributes_flag (by cases style <;> decide) (closing_eq style)
    (by cases style <;> decide) entry (entry.isActive active)

theorem occurrences_link (entry : MenuEntry) (active : String) :
    occurrences activeMark (entry.link active) = if entry.isActive active then 1 else 0 := by
  have closes : "</a>".toList = '<' :: "/a>".toList := by decide
  have front : avoids activeMark "<a href=\"".toList = true := by decide
  have whole := contributes_activeMark front closes (by decide) entry (entry.isActive active)
  rw [link_eq]
  exact whole.occurrences_eq

/-! ## The whole menu -/

/-- The menu in front of the link of an entry that follows the given ones. -/
def listBefore (front : List MenuEntry) (active : String) (style : LinkStyle) : Markup :=
  Markup.openTag "ul" [] ++ (front.flatMap (fun entry => entry.html active style) ++ wrapOpen style)

/-- The menu behind the link of an entry that the given ones follow. -/
def listAfter (back : List MenuEntry) (active : String) (style : LinkStyle) : Markup :=
  wrapClose style ++ (back.flatMap (fun entry => entry.html active style) ++ Markup.closeTag "ul")

/-- The link of each entry stands behind those of the entries before it. -/
theorem menu_eq_around {menu : Menu} (placed : menu.entries = front ++ entry :: back)
    (active : String) (style : LinkStyle) : menu.html active style =
      listBefore front active style ++ (entry.link active ++ listAfter back active style) := by
  rw [menu_eq_list, placed]
  simp only [list, listBefore, listAfter, List.flatMap_append, List.flatMap_cons, html_eq_link,
    List.append_assoc]

theorem menu_contributes_flag (menu : Menu) (active : String) (style : LinkStyle) :
    Contributes (' ' :: activeMark) (menu.html active style) (menu.html "" style)
      (menu.entries.map fun entry => if entry.isActive active then 1 else 0).sum := by
  rw [menu_eq_list, menu_eq_list]
  exact contributes_list (by decide) (by decide)
    fun entry _ => html_contributes_flag entry active style

/-- The menu is marked once, in the link of the entry that leads to the page shown, and not at all
where no entry does, whatever names and labels spell out. Without that mark it reads as it does on
no page. -/
theorem active_entry_alone_is_marked (menu : Menu) (active : String) (style : LinkStyle) :
    occurrences activeMark (menu.html active style) =
        (if ∃ entry ∈ menu.entries, entry.name.stem = active then 1 else 0) ∧
      (∀ front entry back, menu.entries = front ++ entry :: back →
        menu.html active style =
          listBefore front active style ++ (entry.link active ++ listAfter back active style) ∧
        occurrences activeMark (entry.link active) = if entry.name.stem = active then 1 else 0) ∧
      erase (' ' :: activeMark) (menu.html active style) = menu.html "" style ∧
      ((∀ entry ∈ menu.entries, entry.name.stem ≠ active) →
        menu.html active style = menu.html "" style) := by
  refine ⟨?_, ?_, (menu_contributes_flag menu active style).erase_eq, ?_⟩
  · rw [menu_eq_list, ← sum_marked]
    exact (contributes_list (by decide) (by decide) fun entry _ =>
      html_contributes_activeMark entry active style).occurrences_eq
  · intro front entry back placed
    refine ⟨menu_eq_around placed active style, ?_⟩
    simp only [occurrences_link, MenuEntry.isActive, beq_iff_eq]
  · intro unmarked
    simp only [menu_eq_list, list]
    rw [List.flatMap_congr]
    intro entry member
    have inactive : entry.isActive active = false := beq_eq_false_iff_ne.mpr (unmarked entry member)
    rw [html_eq, html_eq, inactive, isActive_empty]

/-- An entry that spells out the mark, in its name and in its label, is not taken for a marked
one. -/
theorem spelled_out_mark_is_none :
    let imitation : MenuEntry :=
      ⟨⟨"class=\"active\".html", by decide, by decide⟩, " class=\"active\""⟩
    let shown : MenuEntry := ⟨⟨"b", by decide, by decide⟩, "class="⟩
    let menu : Menu := ⟨[imitation, shown], by decide⟩
    shown.name.stem = "b" ∧ occurrences activeMark (menu.html "b" .plain) = 1 ∧
      occurrences activeMark (imitation.link "b") = 0 ∧
      occurrences activeMark (shown.link "b") = 1 ∧
      menu.html "b.html" .plain = menu.html "" .plain := by
  intro imitation shown menu
  have same : shown.name.stem = "b" := by decide
  have differs : imitation.name.stem ≠ "b" := by decide
  have unknown : ∀ entry ∈ menu.entries, entry.name.stem ≠ "b.html" := by decide
  obtain ⟨total, links, _, _⟩ := active_entry_alone_is_marked menu "b" .plain
  have imitated := (links [] imitation [shown] rfl).2
  have marked := (links [imitation] shown [] rfl).2
  rw [if_pos ⟨shown, by simp [menu], same⟩] at total
  rw [if_neg differs] at imitated
  rw [if_pos same] at marked
  exact ⟨same, total, imitated, marked,
    (active_entry_alone_is_marked menu "b.html" .plain).2.2.2 unknown⟩

/-! ## The tags that emphasize -/

/-- The list with every entry enclosed alike. -/
def framed (before after : Markup) (active : String) (entries : List MenuEntry) : Markup :=
  list (fun entry => before ++ (entryTexts (flag (entry.isActive active)) entry ++ after)) entries

theorem menu_eq_framed (menu : Menu) (active : String) (style : LinkStyle) :
    menu.html active style = framed (opening style) (closing style) active menu.entries := by
  simp only [menu_eq_list, framed, html_eq]

/-- No tag begins in the texts of an entry or between them. -/
theorem tag_not_mem_entryTexts (entry : MenuEntry) (marked : Bool) :
    '<' ∉ entryTexts (flag marked) entry := by
  have text : ∀ cs, '<' ∉ escape cs := not_mem_escape rfl
  have flagged : '<' ∉ flag marked := by cases marked <;> decide
  simp [entryTexts, text, flagged]

theorem avoids_entryTexts (tag : mark.head? = some '<') (entry : MenuEntry) (marked : Bool) :
    avoids mark (entryTexts (flag marked) entry) = true := by
  obtain ⟨rest, rfl⟩ := List.head?_eq_some_iff.mp tag
  exact avoids_of_not_mem (tag_not_mem_entryTexts entry marked)

/-- A mark that begins with a tag is contributed by what encloses the entries. -/
theorem contributes_framed (tag : mark.head? = some '<')
    (front : avoids mark (Markup.openTag "ul" []) = true)
    (back : avoids mark (Markup.closeTag "ul") = true)
    (opens : Contributes mark before keptBefore m) (closes : Contributes mark after keptAfter n)
    (active : String) (entries : List MenuEntry) :
    Contributes mark (framed before after active entries)
      (framed keptBefore keptAfter active entries) (entries.length * (m + n)) := by
  have items : ∀ entry ∈ entries, Contributes mark
      (before ++ (entryTexts (flag (entry.isActive active)) entry ++ after))
      (keptBefore ++ (entryTexts (flag (entry.isActive active)) entry ++ keptAfter))
      (m + (0 + n)) := by
    intro entry _
    have texts := contributes_of_avoids (avoids_entryTexts tag entry (entry.isActive active))
    exact opens.append (texts.append closes)
  have whole := contributes_list front back items
  simpa [framed] using whole

/-- Erasing the tags that begin the emphasis leaves those that end it. -/
theorem contributes_emphasis (active : String) (entries : List MenuEntry) (style : LinkStyle) :
    Contributes "<strong>".toList (framed (opening .emphasized) (closing style) active entries)
      (framed (opening .plain) (closing style) active entries) entries.length := by
  have item : avoids "<strong>".toList (Markup.openTag "li" []) = true := by decide
  have link : avoids "<strong>".toList "<a href=\"".toList = true := by decide
  have parts : opening .emphasized =
      Markup.openTag "li" [] ++ ("<strong>".toList ++ "<a href=\"".toList) := by decide
  have opens : Contributes "<strong>".toList (opening .emphasized) (opening .plain) 1 := by
    rw [parts]
    exact contributes_between (by decide) (by decide) item link
  have closes : avoids "<strong>".toList (closing style) = true := by cases style <;> decide
  have whole := contributes_framed (by decide) (by decide) (by decide) opens
    (contributes_of_avoids closes) active entries
  rwa [Nat.mul_one] at whole

/-- Erasing the tags that end the emphasis leaves those that begin it. -/
theorem contributes_emphasisEnd (active : String) (entries : List MenuEntry) (style : LinkStyle) :
    Contributes "</strong>".toList (framed (opening style) (closing .emphasized) active entries)
      (framed (opening style) (closing .plain) active entries) entries.length := by
  have link : avoids "</strong>".toList "</a>".toList = true := by decide
  have item : avoids "</strong>".toList (Markup.closeTag "li") = true := by decide
  have parts : closing .emphasized =
      "</a>".toList ++ ("</strong>".toList ++ Markup.closeTag "li") := by decide
  have closes : Contributes "</strong>".toList (closing .emphasized) (closing .plain) 1 := by
    rw [parts]
    exact contributes_between (by decide) (by decide) link item
  have opens : avoids "</strong>".toList (opening style) = true := by cases style <;> decide
  have whole := contributes_framed (by decide) (by decide) (by decide)
    (contributes_of_avoids opens) closes active entries
  rwa [Nat.zero_add, Nat.mul_one] at whole

/-- How often emphasis begins in a menu. -/
theorem occurrences_emphasis (menu : Menu) (active : String) (style : LinkStyle) :
    occurrences "<strong>".toList (menu.html active style) =
      if style = .emphasized then menu.entries.length else 0 := by
  rw [menu_eq_framed]
  cases style with
  | emphasized => exact (contributes_emphasis active menu.entries .emphasized).occurrences_eq
  | plain =>
    have opens : avoids "<strong>".toList (opening .plain) = true := by decide
    have closes : avoids "<strong>".toList (closing .plain) = true := by decide
    have whole := contributes_framed (by decide) (by decide) (by decide)
      (contributes_of_avoids opens) (contributes_of_avoids closes) active menu.entries
    exact whole.occurrences_eq

/-- What begins an emphasized link stands once in front of each entry. -/
theorem occurrences_emphasized_opening (menu : Menu) (active : String) :
    occurrences "<li><strong><a ".toList (menu.html active .emphasized) = menu.entries.length := by
  have rest : avoids "<li><strong><a ".toList "href=\"".toList = true := by decide
  have parts : opening .emphasized = "<li><strong><a ".toList ++ "href=\"".toList := by decide
  have opens : Contributes "<li><strong><a ".toList (opening .emphasized) "href=\"".toList 1 := by
    rw [parts]
    exact (contributes_mark (by decide) (by decide)).append (contributes_of_avoids rest)
  have closes : avoids "<li><strong><a ".toList (closing .emphasized) = true := by decide
  have whole := contributes_framed (by decide) (by decide) (by decide) opens
    (contributes_of_avoids closes) active menu.entries
  rw [menu_eq_framed, whole.occurrences_eq, Nat.mul_one]

/-- What ends an emphasized link stands once behind each entry. -/
theorem occurrences_emphasized_closing (menu : Menu) (active : String) :
    occurrences "</a></strong></li>".toList (menu.html active .emphasized) =
      menu.entries.length := by
  have opens : avoids "</a></strong></li>".toList (opening .emphasized) = true := by decide
  have parts : closing .emphasized = "</a></strong></li>".toList := by decide
  have closes : Contributes "</a></strong></li>".toList (closing .emphasized) [] 1 := by
    rw [parts]
    exact contributes_mark (by decide) (by decide)
  have whole := contributes_framed (by decide) (by decide) (by decide)
    (contributes_of_avoids opens) closes active menu.entries
  rw [menu_eq_framed, whole.occurrences_eq, Nat.zero_add, Nat.mul_one]

/-- The styles differ in emphasis alone, whatever tags names and labels spell out: an emphasized
menu without its emphasis, which encloses each link and stands nowhere else, is the plain one. -/
theorem styles_differ_in_emphasis (menu : Menu) (active : String) :
    erase "</strong>".toList (erase "<strong>".toList (menu.html active .emphasized)) =
        menu.html active .plain ∧
      erase "<strong>".toList (erase "</strong>".toList (menu.html active .emphasized)) =
        menu.html active .plain ∧
      occurrences "<li><strong><a ".toList (menu.html active .emphasized) = menu.entries.length ∧
      occurrences "</a></strong></li>".toList (menu.html active .emphasized) =
        menu.entries.length ∧
      occurrences "<strong>".toList (menu.html active .plain) = 0 := by
  refine ⟨?_, ?_, occurrences_emphasized_opening menu active,
    occurrences_emphasized_closing menu active, occurrences_emphasis menu active .plain⟩
  · rw [menu_eq_framed, menu_eq_framed, (contributes_emphasis active _ _).erase_eq,
      (contributes_emphasisEnd active _ _).erase_eq]
  · rw [menu_eq_framed, menu_eq_framed, (contributes_emphasisEnd active _ _).erase_eq,
      (contributes_emphasis active _ _).erase_eq]

end Handbook.MenuMarkup
