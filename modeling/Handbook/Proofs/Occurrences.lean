import Mathlib.Algebra.GroupWithZero.Nat
import Mathlib.Data.List.Basic

/-! Occurrences of a mark in a text that is written piece by piece. Whether a mark stands across the
seam of two pieces is the only thing that a piece does not tell by itself; a piece in which no place
can be the start of the mark settles its seam, and so does the mark itself where it does not begin
with its own end. Counting and erasing then go piece by piece. -/
namespace Handbook.Occurrences

/-! ## Pieces without a mark -/

/-- Whether no place in a text can be the start of a mark, whatever follows the text. -/
def avoids (mark : List Char) : List Char → Bool
  | [] => true
  | c :: cs => !mark.isPrefixOf (c :: cs) && !(c :: cs).isPrefixOf mark && avoids mark cs

theorem avoids_cons : avoids mark (c :: cs) = true ↔
    ¬mark <+: c :: cs ∧ ¬c :: cs <+: mark ∧ avoids mark cs = true := by
  simp [avoids, ← List.isPrefixOf_iff_prefix, and_assoc]

theorem avoids_append (left : avoids mark before = true) (right : avoids mark after = true) :
    avoids mark (before ++ after) = true := by
  induction before with
  | nil => exact right
  | cons c cs ih =>
    obtain ⟨whole, part, rest⟩ := avoids_cons.mp left
    refine avoids_cons.mpr ⟨?_, ?_, ih rest⟩
    · intro starts
      rcases List.prefix_or_prefix_of_prefix starts (List.prefix_append (c :: cs) after) with
        inside | across
      · exact whole inside
      · exact part across
    · intro starts
      exact part ((List.prefix_append (c :: cs) after).trans starts)

/-- A text that lacks the first character of a mark avoids it. -/
theorem avoids_of_not_mem (absent : first ∉ text) : avoids (first :: mark) text = true := by
  induction text with
  | nil => rfl
  | cons c cs ih =>
    rw [List.mem_cons, not_or] at absent
    refine avoids_cons.mpr ⟨?_, ?_, ih absent.2⟩
    · exact fun starts => absent.1 (List.cons_prefix_cons.mp starts).1
    · exact fun starts => absent.1 (List.cons_prefix_cons.mp starts).1.symm

/-- A text avoids a mark of which it holds some character too seldom, once it ends with a character
that the mark lacks. -/
theorem avoids_of_count_lt (foreign : stop ∉ mark)
    (fewer : (text ++ [stop]).count c < mark.count c) : avoids mark (text ++ [stop]) = true := by
  have apart : ∀ piece, stop ∈ piece → piece.count c < mark.count c →
      ¬mark <+: piece ∧ ¬piece <+: mark := by
    intro piece stopped fewer
    constructor
    · intro starts
      exact absurd (starts.sublist.count_le c) (Nat.not_le.mpr fewer)
    · intro starts
      exact foreign (starts.subset stopped)
  induction text with
  | nil =>
    obtain ⟨whole, part⟩ := apart [stop] (List.mem_singleton.mpr rfl) fewer
    exact avoids_cons.mpr ⟨whole, part, rfl⟩
  | cons d rest ih =>
    have stopped : stop ∈ d :: (rest ++ [stop]) := by simp
    have tail := (List.sublist_cons_self d (rest ++ [stop])).count_le c
    obtain ⟨whole, part⟩ := apart _ stopped fewer
    exact avoids_cons.mpr ⟨whole, part, ih (Nat.lt_of_le_of_lt tail fewer)⟩

/-! ## Counting and erasing -/

/-- How many places of a text a mark stands at. -/
def occurrences (mark : List Char) : List Char → Nat
  | [] => 0
  | c :: cs => (if mark.isPrefixOf (c :: cs) then 1 else 0) + occurrences mark cs

/-- A text with every mark taken out of it, from the front to the back. -/
def erase (mark : List Char) : List Char → List Char
  | [] => []
  | c :: cs =>
    if mark.isPrefixOf (c :: cs) then erase mark (cs.drop (mark.length - 1))
    else c :: erase mark cs
termination_by text => text.length

/-- Whatever follows a piece, a mark stands at `count` places of the piece, and `kept` is left of
the piece when the mark is erased. -/
def Contributes (mark piece kept : List Char) (count : Nat) : Prop :=
  ∀ rest, occurrences mark (piece ++ rest) = count + occurrences mark rest ∧
    erase mark (piece ++ rest) = kept ++ erase mark rest

/-- What avoids a mark is kept. -/
theorem contributes_of_avoids (clear : avoids mark piece = true) :
    Contributes mark piece piece 0 := by
  intro rest
  induction piece with
  | nil => exact ⟨(Nat.zero_add _).symm, rfl⟩
  | cons c cs ih =>
    obtain ⟨whole, part, clear⟩ := avoids_cons.mp clear
    have unmarked : ¬mark.isPrefixOf (c :: (cs ++ rest)) = true := by
      intro starts
      rcases List.prefix_or_prefix_of_prefix (List.isPrefixOf_iff_prefix.mp starts)
        (List.prefix_append (c :: cs) rest) with inside | across
      · exact whole inside
      · exact part across
    obtain ⟨counted, kept⟩ := ih clear
    constructor
    · rw [List.cons_append, occurrences, if_neg unmarked, counted, Nat.zero_add]
    · rw [List.cons_append, erase, if_neg unmarked, kept, List.cons_append]

/-- A mark that begins nowhere in its own rest is erased and counts once. -/
theorem contributes_mark (nonempty : mark ≠ []) (clear : avoids mark mark.tail = true) :
    Contributes mark mark [] 1 := by
  intro rest
  cases mark with
  | nil => exact absurd rfl nonempty
  | cons first mark =>
    have stands : (first :: mark).isPrefixOf (first :: (mark ++ rest)) = true :=
      List.isPrefixOf_iff_prefix.mpr (List.prefix_append (first :: mark) rest)
    rw [List.tail_cons] at clear
    constructor
    · rw [List.cons_append, occurrences, if_pos stands, (contributes_of_avoids clear rest).1,
        Nat.zero_add]
    · rw [List.cons_append, erase, if_pos stands, List.length_cons, Nat.add_sub_cancel,
        List.drop_left, List.nil_append]

theorem Contributes.append (left : Contributes mark before keptBefore m)
    (right : Contributes mark after keptAfter n) :
    Contributes mark (before ++ after) (keptBefore ++ keptAfter) (m + n) := by
  intro rest
  rw [List.append_assoc, List.append_assoc, Nat.add_assoc]
  obtain ⟨countedLeft, keptLeft⟩ := left (after ++ rest)
  obtain ⟨countedRight, keptRight⟩ := right rest
  exact ⟨by rw [countedLeft, countedRight], by rw [keptLeft, keptRight]⟩

/-- Between pieces that avoid it, a mark stands once. -/
theorem contributes_between (nonempty : mark ≠ []) (clear : avoids mark mark.tail = true)
    (front : avoids mark before = true) (back : avoids mark after = true) :
    Contributes mark (before ++ (mark ++ after)) (before ++ after) 1 :=
  (contributes_of_avoids front).append
    ((contributes_mark nonempty clear).append (contributes_of_avoids back))

/-- Pieces in a row contribute what each of them does. -/
theorem Contributes.flatMap {pieces : List α} {piece kept : α → List Char} {count : α → Nat}
    (each : ∀ x ∈ pieces, Contributes mark (piece x) (kept x) (count x)) :
    Contributes mark (pieces.flatMap piece) (pieces.flatMap kept) (pieces.map count).sum := by
  induction pieces with
  | nil => exact contributes_of_avoids rfl
  | cons x rest ih =>
    rw [List.forall_mem_cons] at each
    simp only [List.flatMap_cons, List.map_cons, List.sum_cons]
    exact each.1.append (ih each.2)

theorem Contributes.occurrences_eq (whole : Contributes mark text kept count) :
    occurrences mark text = count := by
  have counted := (whole []).1
  rwa [List.append_nil] at counted

theorem Contributes.erase_eq (whole : Contributes mark text kept count) :
    erase mark text = kept := by
  have kept := (whole []).2
  rwa [List.append_nil, erase, List.append_nil] at kept

end Handbook.Occurrences
